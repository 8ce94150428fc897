import TopicLifecycle.ClientLibrary.Configure
import TopicLifecycle.Settings.Library
import TopicLifecycle.Broker.Failure

/-!
Creating the client library's admin client from client settings: the entries are set one after
another, then the configuration is checked as a whole in the library's order.
-/

namespace TopicLifecycle.ClientLibrary

open Settings Broker

def defaultLinger : Binary64 := Binary64.ofNat 5

def refuseIf (condition : Bool) (reason : String) : Except String Unit :=
  if condition then .error reason else .ok ()

def checkTopicConfig (config : LibraryConfig) (idempotent transactional : Bool) :
    Except String Unit := do
  let lingerSet := config.modified .client "queue.buffering.max.ms"
  let linger := config.decimal .client "queue.buffering.max.ms" defaultLinger
  let messageTimeout := config.integer .topic "message.timeout.ms" 300000
  refuseIf (messageTimeout ≠ 0 && natAtMost messageTimeout.toNat linger && lingerSet)
    "`message.timeout.ms` must be greater than `linger.ms`"
  let mut messageTimeout := messageTimeout
  if idempotent then
    refuseIf (config.modified .topic "request.required.acks" &&
        config.integer .topic "request.required.acks" (-1) ≠ -1)
      "`acks` must be set to `all` when `enable.idempotence` is true"
    refuseIf (config.modified .topic "queuing.strategy" &&
        config.word .topic "queuing.strategy" "fifo" ≠ "fifo")
      "`queuing.strategy` must be set to `fifo` when `enable.idempotence` is true"
    if transactional then
      let transactionTimeout := config.integer .client "transaction.timeout.ms" 60000
      if config.modified .topic "message.timeout.ms" then
        refuseIf (messageTimeout > transactionTimeout)
          "`message.timeout.ms` must be set <= `transaction.timeout.ms`"
      else messageTimeout := transactionTimeout
  refuseIf (messageTimeout ≠ 0 && natAtMost messageTimeout.toNat linger && lingerSet)
    "`message.timeout.ms` must be greater than `linger.ms`"

def checkProducerConfig (config : LibraryConfig) : Except String Unit := do
  refuseIf ((config.text .client "ssl.keystore.location" none).isSome &&
      (config.text .client "ssl.keystore.password" none).isNone)
    "`ssl.keystore.password` is mandatory when `ssl.keystore.location` is set"
  let transactional := (config.text .client "transactional.id" none).isSome
  let mut idempotent := config.boolean .client "enable.idempotence" false
  if transactional then
    if !idempotent then
      refuseIf (config.modified .client "enable.idempotence")
        "`transactional.id` requires `enable.idempotence=true`"
      idempotent := true
    refuseIf (config.modified .client "socket.timeout.ms" &&
        config.integer .client "transaction.timeout.ms" 60000 + 100 <
          config.integer .client "socket.timeout.ms" 60000)
      "`socket.timeout.ms` must be set <= `transaction.timeout.ms` + 100"
  if idempotent then
    refuseIf (config.modified .client "max.in.flight.requests.per.connection" &&
        config.integer .client "max.in.flight.requests.per.connection" 1000000 > 5)
      "`max.in.flight` must be set <= 5 when `enable.idempotence` is true"
    refuseIf (config.modified .client "message.send.max.retries" &&
        config.integer .client "message.send.max.retries" 2147483647 < 1)
      "`retries` must be set >= 1 when `enable.idempotence` is true"
    refuseIf (config.modified .client "queue.buffering.backpressure.threshold" &&
        config.integer .client "queue.buffering.backpressure.threshold" 1 > 1)
      "`queue.buffering.backpressure.threshold` must be set to 1 when `enable.idempotence` is true"
  else
    refuseIf (config.boolean .client "enable.gapless.guarantee" false &&
        config.modified .client "enable.gapless.guarantee")
      "`enable.gapless.guarantee` requires `enable.idempotence` to be enabled"
  refuseIf (config.integer .client "reconnect.backoff.max.ms" 10000 <
      config.integer .client "reconnect.backoff.ms" 100)
    "`reconnect.backoff.max.ms` must be >= `reconnect.backoff.ms`"
  if config.topic.isSome then checkTopicConfig config idempotent transactional

def assignors : List (String × Bool) :=
  [("range", false), ("roundrobin", false), ("cooperative-sticky", true)]

/-- The names of a strategy list: the text after spaces and commas up to the next comma, as
long as text is left; nothing else is trimmed. -/
def strategyNames : (rounds : Nat) → List Char → List String
  | 0, _ => []
  | rounds + 1, characters =>
    match characters with
    | [] => []
    | _ =>
      let start := characters.dropWhile fun character => character = ' ' || character = ','
      let name := start.takeWhile (· ≠ ',')
      let rest := (start.dropWhile (· ≠ ',')).drop 1
      String.ofList name :: strategyNames rounds rest

def checkAssignors (config : LibraryConfig) : Except String Unit := do
  let strategy := config.text .client "partition.assignment.strategy" (some "range,roundrobin")
  let strategy := strategy.getD "range,roundrobin"
  let names := strategyNames (strategy.length + 1) strategy.toList
  let mut kinds : List Bool := []
  for name in names do
    match assignors.find? (·.1 = name) with
    | some (_, cooperative) => kinds := cooperative :: kinds
    | none => throw ("Unsupported partition.assignment.strategy: " ++ name)
  refuseIf (kinds.contains true && kinds.contains false)
    ("All partition.assignment.strategy (" ++ strategy ++ ") assignors must have the same " ++
      "protocol type, online migration between assignors with different protocol types is " ++
      "not supported")

def checkSasl (config : LibraryConfig) : Except String Unit := do
  let mechanism := (config.text .client "sasl.mechanisms" (some "GSSAPI")).getD ""
  let credentials :=
    (config.text .client "sasl.username" none).isSome &&
      (config.text .client "sasl.password" none).isSome
  let missingCredentials := "sasl.username and sasl.password must be set"
  if mechanism = "GSSAPI" then
    throw ("No provider for SASL mechanism GSSAPI: recompile librdkafka with libsasl2 or " ++
      "openssl support. Current build options: PLAIN SASL_SCRAM OAUTHBEARER")
  else if mechanism = "PLAIN" then refuseIf (!credentials) missingCredentials
  else if mechanism.startsWith "SCRAM-SHA-" then
    refuseIf (!credentials) missingCredentials
    refuseIf (!(["SCRAM-SHA-1", "SCRAM-SHA-256", "SCRAM-SHA-512"].contains mechanism))
      ("Unsupported hash function: " ++ mechanism ++ " (try SCRAM-SHA-512)")
  else if mechanism = "OAUTHBEARER" then pure ()
  else throw ("Unsupported SASL mechanism: " ++ mechanism)

/-- The checks of creating a producer from a configuration; a mock cluster replaces the
security protocol with plaintext, so it skips the SASL check. -/
def checkCreation (config : LibraryConfig) : Except String Unit := do
  checkProducerConfig config
  checkAssignors config
  let mock := config.integer .client "test.mock.num.brokers" 0 > 0
  let protocol := config.word .client "security.protocol" "plaintext"
  let sasl := protocol = "sasl_plaintext" || protocol = "sasl_ssl"
  if !mock && sasl then checkSasl config

def configure (config : LibraryConfig) : List (String × String) → Except ClientError LibraryConfig
  | [] => .ok config
  | (key, value) :: rest =>
    if key.toList.contains '\x00' || value.toList.contains '\x00' then .error .nulCharacter
    else
      match config.set key value with
      | .error description => .error (.clientConfig (bufferText description) key value)
      | .ok config => configure config rest

/-- Creating the admin client from client settings. -/
def openAdmin (settings : ClientSettings) : Except ClientError Unit := do
  let config ← configure {} settings.libraryConfig.entries
  match checkCreation config with
  | .error reason => .error (.clientCreation (bufferText reason))
  | .ok () => .ok ()

end TopicLifecycle.ClientLibrary
