/-!
Response codes of the broker and the client library: each code's number, its variant name and
its description, shown together as `Name (description)`. Codes the client library reserves as
range markers have no description of their own and show as `Err-<number>?`.
-/

namespace TopicLifecycle.Broker

structure ResponseCode where
  code : Int
  name : String
  description : String
deriving DecidableEq, Repr

def responseCodes : List ResponseCode :=
  [
    ⟨-200, "Begin", "Err--200?"⟩,
    ⟨-199, "BadMessage", "Local: Bad message format"⟩,
    ⟨-198, "BadCompression", "Local: Invalid compressed data"⟩,
    ⟨-197, "BrokerDestroy", "Local: Broker handle destroyed"⟩,
    ⟨-196, "Fail", "Local: Communication failure with broker"⟩,
    ⟨-195, "BrokerTransportFailure", "Local: Broker transport failure"⟩,
    ⟨-194, "CriticalSystemResource", "Local: Critical system resource failure"⟩,
    ⟨-193, "Resolve", "Local: Host resolution failure"⟩,
    ⟨-192, "MessageTimedOut", "Local: Message timed out"⟩,
    ⟨-191, "PartitionEOF", "Broker: No more messages"⟩,
    ⟨-190, "UnknownPartition", "Local: Unknown partition"⟩,
    ⟨-189, "FileSystem", "Local: File or filesystem error"⟩,
    ⟨-188, "UnknownTopic", "Local: Unknown topic"⟩,
    ⟨-187, "AllBrokersDown", "Local: All broker connections are down"⟩,
    ⟨-186, "InvalidArgument", "Local: Invalid argument or configuration"⟩,
    ⟨-185, "OperationTimedOut", "Local: Timed out"⟩,
    ⟨-184, "QueueFull", "Local: Queue full"⟩,
    ⟨-183, "ISRInsufficient", "Local: ISR count insufficient"⟩,
    ⟨-182, "NodeUpdate", "Local: Broker node update"⟩,
    ⟨-181, "SSL", "Local: SSL error"⟩,
    ⟨-180, "WaitingForCoordinator", "Local: Waiting for coordinator"⟩,
    ⟨-179, "UnknownGroup", "Local: Unknown group"⟩,
    ⟨-178, "InProgress", "Local: Operation in progress"⟩,
    ⟨-177, "PreviousInProgress", "Local: Previous operation in progress"⟩,
    ⟨-176, "ExistingSubscription", "Local: Existing subscription"⟩,
    ⟨-175, "AssignPartitions", "Local: Assign partitions"⟩,
    ⟨-174, "RevokePartitions", "Local: Revoke partitions"⟩,
    ⟨-173, "Conflict", "Local: Conflicting use"⟩,
    ⟨-172, "State", "Local: Erroneous state"⟩,
    ⟨-171, "UnknownProtocol", "Local: Unknown protocol"⟩,
    ⟨-170, "NotImplemented", "Local: Not implemented"⟩,
    ⟨-169, "Authentication", "Local: Authentication failure"⟩,
    ⟨-168, "NoOffset", "Local: No offset stored"⟩,
    ⟨-167, "Outdated", "Local: Outdated"⟩,
    ⟨-166, "TimedOutQueue", "Local: Timed out in queue"⟩,
    ⟨-165, "UnsupportedFeature", "Local: Required feature not supported by broker"⟩,
    ⟨-164, "WaitCache", "Local: Awaiting cache update"⟩,
    ⟨-163, "Interrupted", "Local: Operation interrupted"⟩,
    ⟨-162, "KeySerialization", "Local: Key serialization error"⟩,
    ⟨-161, "ValueSerialization", "Local: Value serialization error"⟩,
    ⟨-160, "KeyDeserialization", "Local: Key deserialization error"⟩,
    ⟨-159, "ValueDeserialization", "Local: Value deserialization error"⟩,
    ⟨-158, "Partial", "Local: Partial response"⟩,
    ⟨-157, "ReadOnly", "Local: Read-only object"⟩,
    ⟨-156, "NoEnt", "Local: No such entry"⟩,
    ⟨-155, "Underflow", "Local: Read underflow"⟩,
    ⟨-154, "InvalidType", "Local: Invalid type"⟩,
    ⟨-153, "Retry", "Local: Retry operation"⟩,
    ⟨-152, "PurgeQueue", "Local: Purged in queue"⟩,
    ⟨-151, "PurgeInflight", "Local: Purged in flight"⟩,
    ⟨-150, "Fatal", "Local: Fatal error"⟩,
    ⟨-149, "Inconsistent", "Local: Inconsistent state"⟩,
    ⟨-148, "GaplessGuarantee", "Local: Gap-less ordering would not be guaranteed if proceeding"⟩,
    ⟨-147, "PollExceeded", "Local: Maximum application poll interval (max.poll.interval.ms) exceeded"⟩,
    ⟨-146, "UnknownBroker", "Local: Unknown broker"⟩,
    ⟨-145, "NotConfigured", "Local: Functionality not configured"⟩,
    ⟨-144, "Fenced", "Local: This instance has been fenced by a newer instance"⟩,
    ⟨-143, "Application", "Local: Application generated error"⟩,
    ⟨-142, "AssignmentLost", "Local: Group partition assignment lost"⟩,
    ⟨-141, "Noop", "Local: No operation performed"⟩,
    ⟨-140, "AutoOffsetReset", "Local: No offset to automatically reset to"⟩,
    ⟨-139, "LogTruncation", "Local: Partition log truncation detected"⟩,
    ⟨-138, "InvalidDifferentRecord", "Local: an invalid record in the same batch caused the failure of this message too"⟩,
    ⟨-137, "DestroyBroker", "Local: Broker handle destroyed without termination"⟩,
    ⟨-100, "End", "Err--100?"⟩,
    ⟨-1, "Unknown", "Unknown broker error"⟩,
    ⟨0, "NoError", "Success"⟩,
    ⟨1, "OffsetOutOfRange", "Broker: Offset out of range"⟩,
    ⟨2, "InvalidMessage", "Broker: Invalid message"⟩,
    ⟨3, "UnknownTopicOrPartition", "Broker: Unknown topic or partition"⟩,
    ⟨4, "InvalidMessageSize", "Broker: Invalid message size"⟩,
    ⟨5, "LeaderNotAvailable", "Broker: Leader not available"⟩,
    ⟨6, "NotLeaderForPartition", "Broker: Not leader for partition"⟩,
    ⟨7, "RequestTimedOut", "Broker: Request timed out"⟩,
    ⟨8, "BrokerNotAvailable", "Broker: Broker not available"⟩,
    ⟨9, "ReplicaNotAvailable", "Broker: Replica not available"⟩,
    ⟨10, "MessageSizeTooLarge", "Broker: Message size too large"⟩,
    ⟨11, "StaleControllerEpoch", "Broker: StaleControllerEpochCode"⟩,
    ⟨12, "OffsetMetadataTooLarge", "Broker: Offset metadata string too large"⟩,
    ⟨13, "NetworkException", "Broker: Broker disconnected before response received"⟩,
    ⟨14, "CoordinatorLoadInProgress", "Broker: Coordinator load in progress"⟩,
    ⟨15, "CoordinatorNotAvailable", "Broker: Coordinator not available"⟩,
    ⟨16, "NotCoordinator", "Broker: Not coordinator"⟩,
    ⟨17, "InvalidTopic", "Broker: Invalid topic"⟩,
    ⟨18, "MessageBatchTooLarge", "Broker: Message batch larger than configured server segment size"⟩,
    ⟨19, "NotEnoughReplicas", "Broker: Not enough in-sync replicas"⟩,
    ⟨20, "NotEnoughReplicasAfterAppend", "Broker: Message(s) written to insufficient number of in-sync replicas"⟩,
    ⟨21, "InvalidRequiredAcks", "Broker: Invalid required acks value"⟩,
    ⟨22, "IllegalGeneration", "Broker: Specified group generation id is not valid"⟩,
    ⟨23, "InconsistentGroupProtocol", "Broker: Inconsistent group protocol"⟩,
    ⟨24, "InvalidGroupId", "Broker: Invalid group.id"⟩,
    ⟨25, "UnknownMemberId", "Broker: Unknown member"⟩,
    ⟨26, "InvalidSessionTimeout", "Broker: Invalid session timeout"⟩,
    ⟨27, "RebalanceInProgress", "Broker: Group rebalance in progress"⟩,
    ⟨28, "InvalidCommitOffsetSize", "Broker: Commit offset data size is not valid"⟩,
    ⟨29, "TopicAuthorizationFailed", "Broker: Topic authorization failed"⟩,
    ⟨30, "GroupAuthorizationFailed", "Broker: Group authorization failed"⟩,
    ⟨31, "ClusterAuthorizationFailed", "Broker: Cluster authorization failed"⟩,
    ⟨32, "InvalidTimestamp", "Broker: Invalid timestamp"⟩,
    ⟨33, "UnsupportedSASLMechanism", "Broker: Unsupported SASL mechanism"⟩,
    ⟨34, "IllegalSASLState", "Broker: Request not valid in current SASL state"⟩,
    ⟨35, "UnsupportedVersion", "Broker: API version not supported"⟩,
    ⟨36, "TopicAlreadyExists", "Broker: Topic already exists"⟩,
    ⟨37, "InvalidPartitions", "Broker: Invalid number of partitions"⟩,
    ⟨38, "InvalidReplicationFactor", "Broker: Invalid replication factor"⟩,
    ⟨39, "InvalidReplicaAssignment", "Broker: Invalid replica assignment"⟩,
    ⟨40, "InvalidConfig", "Broker: Configuration is invalid"⟩,
    ⟨41, "NotController", "Broker: Not controller for cluster"⟩,
    ⟨42, "InvalidRequest", "Broker: Invalid request"⟩,
    ⟨43, "UnsupportedForMessageFormat", "Broker: Message format on broker does not support request"⟩,
    ⟨44, "PolicyViolation", "Broker: Policy violation"⟩,
    ⟨45, "OutOfOrderSequenceNumber", "Broker: Broker received an out of order sequence number"⟩,
    ⟨46, "DuplicateSequenceNumber", "Broker: Broker received a duplicate sequence number"⟩,
    ⟨47, "InvalidProducerEpoch", "Broker: Producer attempted an operation with an old epoch"⟩,
    ⟨48, "InvalidTransactionalState", "Broker: Producer attempted a transactional operation in an invalid state"⟩,
    ⟨49, "InvalidProducerIdMapping", "Broker: Producer attempted to use a producer id which is not currently assigned to its transactional id"⟩,
    ⟨50, "InvalidTransactionTimeout", "Broker: Transaction timeout is larger than the maximum value allowed by the broker's max.transaction.timeout.ms"⟩,
    ⟨51, "ConcurrentTransactions", "Broker: Producer attempted to update a transaction while another concurrent operation on the same transaction was ongoing"⟩,
    ⟨52, "TransactionCoordinatorFenced", "Broker: Indicates that the transaction coordinator sending a WriteTxnMarker is no longer the current coordinator for a given producer"⟩,
    ⟨53, "TransactionalIdAuthorizationFailed", "Broker: Transactional Id authorization failed"⟩,
    ⟨54, "SecurityDisabled", "Broker: Security features are disabled"⟩,
    ⟨55, "OperationNotAttempted", "Broker: Operation not attempted"⟩,
    ⟨56, "KafkaStorageError", "Broker: Disk error when trying to access log file on disk"⟩,
    ⟨57, "LogDirNotFound", "Broker: The user-specified log directory is not found in the broker config"⟩,
    ⟨58, "SaslAuthenticationFailed", "Broker: SASL Authentication failed"⟩,
    ⟨59, "UnknownProducerId", "Broker: Unknown Producer Id"⟩,
    ⟨60, "ReassignmentInProgress", "Broker: Partition reassignment is in progress"⟩,
    ⟨61, "DelegationTokenAuthDisabled", "Broker: Delegation Token feature is not enabled"⟩,
    ⟨62, "DelegationTokenNotFound", "Broker: Delegation Token is not found on server"⟩,
    ⟨63, "DelegationTokenOwnerMismatch", "Broker: Specified Principal is not valid Owner/Renewer"⟩,
    ⟨64, "DelegationTokenRequestNotAllowed", "Broker: Delegation Token requests are not allowed on this connection"⟩,
    ⟨65, "DelegationTokenAuthorizationFailed", "Broker: Delegation Token authorization failed"⟩,
    ⟨66, "DelegationTokenExpired", "Broker: Delegation Token is expired"⟩,
    ⟨67, "InvalidPrincipalType", "Broker: Supplied principalType is not supported"⟩,
    ⟨68, "NonEmptyGroup", "Broker: The group is not empty"⟩,
    ⟨69, "GroupIdNotFound", "Broker: The group id does not exist"⟩,
    ⟨70, "FetchSessionIdNotFound", "Broker: The fetch session ID was not found"⟩,
    ⟨71, "InvalidFetchSessionEpoch", "Broker: The fetch session epoch is invalid"⟩,
    ⟨72, "ListenerNotFound", "Broker: No matching listener"⟩,
    ⟨73, "TopicDeletionDisabled", "Broker: Topic deletion is disabled"⟩,
    ⟨74, "FencedLeaderEpoch", "Broker: Leader epoch is older than broker epoch"⟩,
    ⟨75, "UnknownLeaderEpoch", "Broker: Leader epoch is newer than broker epoch"⟩,
    ⟨76, "UnsupportedCompressionType", "Broker: Unsupported compression type"⟩,
    ⟨77, "StaleBrokerEpoch", "Broker: Broker epoch has changed"⟩,
    ⟨78, "OffsetNotAvailable", "Broker: Leader high watermark is not caught up"⟩,
    ⟨79, "MemberIdRequired", "Broker: Group member needs a valid member ID"⟩,
    ⟨80, "PreferredLeaderNotAvailable", "Broker: Preferred leader was not available"⟩,
    ⟨81, "GroupMaxSizeReached", "Broker: Consumer group has reached maximum size"⟩,
    ⟨82, "FencedInstanceId", "Broker: Static consumer fenced by other consumer with same group.instance.id"⟩,
    ⟨83, "EligibleLeadersNotAvailable", "Broker: Eligible partition leaders are not available"⟩,
    ⟨84, "ElectionNotNeeded", "Broker: Leader election not needed for topic partition"⟩,
    ⟨85, "NoReassignmentInProgress", "Broker: No partition reassignment is in progress"⟩,
    ⟨86, "GroupSubscribedToTopic", "Broker: Deleting offsets of a topic while the consumer group is subscribed to it"⟩,
    ⟨87, "InvalidRecord", "Broker: Broker failed to validate record"⟩,
    ⟨88, "UnstableOffsetCommit", "Broker: There are unstable offsets that need to be cleared"⟩,
    ⟨89, "ThrottlingQuotaExceeded", "Broker: Throttling quota has been exceeded"⟩,
    ⟨90, "ProducerFenced", "Broker: There is a newer producer with the same transactionalId which fences the current one"⟩,
    ⟨91, "ResourceNotFound", "Broker: Request illegally referred to resource that does not exist"⟩,
    ⟨92, "DuplicateResource", "Broker: Request illegally referred to the same resource twice"⟩,
    ⟨93, "UnacceptableCredential", "Broker: Requested credential would not meet criteria for acceptability"⟩,
    ⟨94, "InconsistentVoterSet", "Broker: Indicates that the either the sender or recipient of a voter-only request is not one of the expected voters"⟩,
    ⟨95, "InvalidUpdateVersion", "Broker: Invalid update version"⟩,
    ⟨96, "FeatureUpdateFailed", "Broker: Unable to update finalized features due to server error"⟩,
    ⟨97, "PrincipalDeserializationFailure", "Broker: Request principal deserialization failed during forwarding"⟩,
    ⟨100, "UnknownTopicId", "Broker: Unknown topic id"⟩,
    ⟨110, "FencedMemberEpoch", "Broker: The member epoch is fenced by the group coordinator"⟩,
    ⟨111, "UnreleasedInstanceId", "Broker: The instance ID is still used by another member in the consumer group"⟩,
    ⟨112, "UnsupportedAssignor", "Broker: The assignor or its version range is not supported by the consumer group"⟩,
    ⟨113, "StaleMemberEpoch", "Broker: The member epoch is stale"⟩,
    ⟨117, "UnknownSubscriptionId", "Broker: Client sent a push telemetry request with an invalid or outdated subscription ID"⟩,
    ⟨118, "TelemetryTooLarge", "Broker: Client sent a push telemetry request larger than the maximum size the broker will accept"⟩,
    ⟨129, "RebootstrapRequired", "Broker: Client metadata is stale, client should rebootstrap to obtain new metadata"⟩,
    ⟨130, "EndAll", "Err-130?"⟩
  ]

namespace ResponseCode

def ofCode? (code : Int) : Option ResponseCode := responseCodes.find? fun entry => entry.code = code

/-- The code shown with its description, as in `UnknownTopicOrPartition (Broker: Unknown topic or
partition)`. -/
def display (entry : ResponseCode) : String := entry.name ++ " (" ++ entry.description ++ ")"

def unknownTopicOrPartition : Int := 3

/-- The client library's code for a topic it does not know. -/
def unknownTopic : Int := -188

def meansAbsent (entry : ResponseCode) : Bool :=
  entry.code = unknownTopicOrPartition || entry.code = unknownTopic

end ResponseCode

example :
    (ResponseCode.ofCode? 3).map ResponseCode.name = some "UnknownTopicOrPartition" := by
  decide +kernel

end TopicLifecycle.Broker
