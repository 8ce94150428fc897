/-!
The configuration properties of the client library, as this build has them: each name with
what it accepts, at the client level and the default topic level.
-/

namespace TopicLifecycle.ClientLibrary

/-- A word a property accepts, with the reason this build refuses it, if it does. -/
structure Word where
  name : String
  refusal : Option String := none
deriving DecidableEq, Repr

inductive TextCheck where
  | none
  | single
  | partitioner
  | plugins
  /-- A broker version to assume: not one of the 0.6 and 0.7 series, which cannot be served. -/
  | brokerVersion
deriving DecidableEq, Repr

inductive Kind where
  | text (check : TextCheck)
  | integer (low high : Int) (names : List (String × Int))
  | decimal (low high : Nat)
  | boolean
  | choice (words : List Word)
  | flags (words : List Word)
  | patterns
  | handle
  | internal
  | refused (reason : String)
  | alias (target : String)
deriving DecidableEq, Repr

/-- A configuration property: its name, what it accepts, and the reason this build refuses it
altogether, if it does. -/
structure Property where
  name : String
  kind : Kind
  unsupported : Option String := none
deriving DecidableEq, Repr

def noZstd : String := "libzstd not available at build time"

def noGssapi : String := "cyrus-sasl/libsasl2 not available at build time"

def noHttp : String := "libcurl not available at build time"

def noOidc : String :=
  "OAuth/OIDC depends on libcurl and OpenSSL which were not available at build time"

def noHttps : String :=
  "HTTPS calls depend on libcurl and OpenSSL which were not available at build time"

def words (names : List String) : List Word := names.map fun name => { name }

def textProperty (name : String) (check : TextCheck := .none) : Property :=
  { name, kind := .text check }

def integerProperty (name : String) (low high : Int) : Property :=
  { name, kind := .integer low high [] }

def booleanProperty (name : String) : Property := { name, kind := .boolean }

def choiceProperty (name : String) (options : List Word) : Property :=
  { name, kind := .choice options }

def handleProperty (name : String) : Property := { name, kind := .handle }

def aliasProperty (name target : String) : Property := { name, kind := .alias target }

def intMax : Int := 2147483647

def compressionWords : List Word :=
  words ["none", "gzip", "snappy", "lz4"] ++ [{ name := "zstd", refusal := some noZstd }]

def featureWords : List Word :=
  words ["gzip", "snappy", "ssl", "sasl", "regex", "lz4"] ++
    [{ name := "sasl_gssapi", refusal := some noGssapi }] ++
    words ["sasl_plain", "sasl_scram", "plugins"] ++
    [{ name := "zstd", refusal := some noZstd }, { name := "sasl_oauthbearer" },
      { name := "http", refusal := some noHttp }, { name := "oidc", refusal := some noOidc }]

def debugWords : List Word :=
  words ["generic", "broker", "topic", "metadata", "feature", "queue", "msg", "protocol", "cgrp",
    "security", "fetch", "interceptor", "plugin", "consumer", "admin", "eos", "mock", "assignor",
    "conf", "telemetry", "all"]

def oidcText (name : String) : Property := { textProperty name with unsupported := some noOidc }

def clientProperties : List Property :=
  [ { name := "builtin.features", kind := .flags featureWords },
    textProperty "client.id", textProperty "client.software.name",
    textProperty "client.software.version", textProperty "metadata.broker.list",
    aliasProperty "bootstrap.servers" "metadata.broker.list",
    integerProperty "message.max.bytes" 1000 1000000000,
    integerProperty "message.copy.max.bytes" 0 1000000000,
    integerProperty "receive.message.max.bytes" 1000 intMax,
    integerProperty "max.in.flight.requests.per.connection" 1 1000000,
    aliasProperty "max.in.flight" "max.in.flight.requests.per.connection",
    choiceProperty "metadata.recovery.strategy" (words ["none", "rebootstrap"]),
    integerProperty "metadata.recovery.rebootstrap.trigger.ms" 0 intMax,
    integerProperty "topic.metadata.refresh.interval.ms" (-1) 3600000,
    integerProperty "metadata.max.age.ms" 1 86400000,
    integerProperty "topic.metadata.refresh.fast.interval.ms" 1 60000,
    integerProperty "topic.metadata.refresh.fast.cnt" 0 1000,
    booleanProperty "topic.metadata.refresh.sparse",
    integerProperty "topic.metadata.propagation.max.ms" 0 3600000,
    integerProperty "metadata.request.timeout.ms" 10 900000,
    booleanProperty "enable.sparse.connections",
    { name := "topic.blacklist", kind := .patterns },
    { name := "debug", kind := .flags debugWords },
    integerProperty "socket.timeout.ms" 10 300000,
    integerProperty "socket.blocking.max.ms" 1 60000,
    integerProperty "socket.send.buffer.bytes" 0 100000000,
    integerProperty "socket.receive.buffer.bytes" 0 100000000,
    booleanProperty "socket.keepalive.enable", booleanProperty "socket.nagle.disable",
    integerProperty "socket.max.fails" 0 1000000,
    integerProperty "broker.address.ttl" 0 86400000,
    choiceProperty "broker.address.family" (words ["any", "v4", "v6"]),
    integerProperty "socket.connection.setup.timeout.ms" 1000 intMax,
    integerProperty "connections.max.idle.ms" 0 intMax,
    integerProperty "reconnect.backoff.jitter.ms" 0 3600000,
    integerProperty "reconnect.backoff.ms" 0 3600000,
    integerProperty "reconnect.backoff.max.ms" 0 3600000,
    integerProperty "statistics.interval.ms" 0 86400000,
    integerProperty "enabled_events" 0 intMax,
    handleProperty "error_cb", handleProperty "throttle_cb", handleProperty "stats_cb",
    handleProperty "log_cb", integerProperty "log_level" 0 7, booleanProperty "log.queue",
    booleanProperty "log.thread.name", booleanProperty "enable.random.seed",
    booleanProperty "log.connection.close", handleProperty "background_event_cb",
    handleProperty "socket_cb", handleProperty "connect_cb", handleProperty "closesocket_cb",
    handleProperty "open_cb", handleProperty "resolve_cb", handleProperty "opaque",
    handleProperty "default_topic_conf",
    integerProperty "internal.termination.signal" 0 128,
    booleanProperty "api.version.request",
    integerProperty "api.version.request.timeout.ms" 1 300000,
    integerProperty "api.version.fallback.ms" 0 604800000,
    textProperty "broker.version.fallback" .brokerVersion,
    booleanProperty "allow.auto.create.topics",
    choiceProperty "security.protocol" (words ["plaintext", "ssl", "sasl_plaintext", "sasl_ssl"]),
    textProperty "ssl.cipher.suites", textProperty "ssl.curves.list",
    textProperty "ssl.sigalgs.list", textProperty "ssl.key.location",
    textProperty "ssl.key.password", textProperty "ssl.key.pem",
    { name := "ssl_key", kind := .internal }, textProperty "ssl.certificate.location",
    textProperty "ssl.certificate.pem", { name := "ssl_certificate", kind := .internal },
    textProperty "ssl.ca.location",
    { textProperty "https.ca.location" with unsupported := some noHttps },
    { textProperty "https.ca.pem" with unsupported := some noHttps },
    textProperty "ssl.ca.pem", { name := "ssl_ca", kind := .internal },
    { textProperty "ssl.ca.certificate.stores" with
      unsupported := some "configuration only valid on Windows" },
    textProperty "ssl.crl.location", textProperty "ssl.keystore.location",
    textProperty "ssl.keystore.password", textProperty "ssl.providers",
    textProperty "ssl.engine.location", textProperty "ssl.engine.id",
    handleProperty "ssl_engine_callback_data",
    booleanProperty "enable.ssl.certificate.verification",
    choiceProperty "ssl.endpoint.identification.algorithm" (words ["none", "https"]),
    handleProperty "ssl.certificate.verify_cb",
    textProperty "sasl.mechanisms" .single, aliasProperty "sasl.mechanism" "sasl.mechanisms",
    textProperty "sasl.kerberos.service.name", textProperty "sasl.kerberos.principal",
    textProperty "sasl.kerberos.kinit.cmd", textProperty "sasl.kerberos.keytab",
    integerProperty "sasl.kerberos.min.time.before.relogin" 0 86400000,
    textProperty "sasl.username", textProperty "sasl.password",
    textProperty "sasl.oauthbearer.config",
    booleanProperty "enable.sasl.oauthbearer.unsecure.jwt",
    handleProperty "oauthbearer_token_refresh_cb",
    { choiceProperty "sasl.oauthbearer.method" (words ["default", "oidc"]) with
      unsupported := some noOidc },
    oidcText "sasl.oauthbearer.client.id",
    aliasProperty "sasl.oauthbearer.client.credentials.client.id" "sasl.oauthbearer.client.id",
    aliasProperty "sasl.oauthbearer.client.credentials.client.secret"
      "sasl.oauthbearer.client.secret",
    oidcText "sasl.oauthbearer.client.secret", oidcText "sasl.oauthbearer.scope",
    oidcText "sasl.oauthbearer.extensions", oidcText "sasl.oauthbearer.token.endpoint.url",
    { choiceProperty "sasl.oauthbearer.grant.type"
        (words ["client_credentials", "urn:ietf:params:oauth:grant-type:jwt-bearer"]) with
      unsupported := some noOidc },
    { choiceProperty "sasl.oauthbearer.assertion.algorithm" (words ["RS256", "ES256"]) with
      unsupported := some noOidc },
    oidcText "sasl.oauthbearer.assertion.private.key.file",
    oidcText "sasl.oauthbearer.assertion.private.key.passphrase",
    oidcText "sasl.oauthbearer.assertion.private.key.pem",
    oidcText "sasl.oauthbearer.assertion.file", oidcText "sasl.oauthbearer.assertion.claim.aud",
    { integerProperty "sasl.oauthbearer.assertion.claim.exp.seconds" 1 intMax with
      unsupported := some noOidc },
    oidcText "sasl.oauthbearer.assertion.claim.iss",
    { booleanProperty "sasl.oauthbearer.assertion.claim.jti.include" with
      unsupported := some noOidc },
    { integerProperty "sasl.oauthbearer.assertion.claim.nbf.seconds" 0 intMax with
      unsupported := some noOidc },
    oidcText "sasl.oauthbearer.assertion.claim.sub",
    oidcText "sasl.oauthbearer.assertion.jwt.template.file",
    { choiceProperty "sasl.oauthbearer.metadata.authentication.type"
        (words ["none", "azure_imds"]) with unsupported := some noOidc },
    textProperty "plugin.library.paths" .plugins, { name := "interceptors", kind := .internal },
    integerProperty "test.mock.num.brokers" 0 10000,
    integerProperty "test.mock.broker.rtt" 0 3600000,
    handleProperty "ut_handle_ProduceResponse",
    textProperty "group.id", textProperty "group.instance.id",
    textProperty "partition.assignment.strategy",
    integerProperty "session.timeout.ms" 1 3600000,
    integerProperty "heartbeat.interval.ms" 1 3600000,
    textProperty "group.protocol.type",
    choiceProperty "group.protocol" (words ["classic", "consumer"]),
    textProperty "group.remote.assignor",
    integerProperty "coordinator.query.interval.ms" 1 3600000,
    integerProperty "max.poll.interval.ms" 1 86400000, booleanProperty "enable.auto.commit",
    integerProperty "auto.commit.interval.ms" 0 86400000,
    booleanProperty "enable.auto.offset.store",
    integerProperty "queued.min.messages" 1 10000000,
    integerProperty "queued.max.messages.kbytes" 1 2097151,
    integerProperty "fetch.wait.max.ms" 0 300000,
    integerProperty "fetch.queue.backoff.ms" 0 300000,
    integerProperty "fetch.message.max.bytes" 1 1000000000,
    aliasProperty "max.partition.fetch.bytes" "fetch.message.max.bytes",
    integerProperty "fetch.max.bytes" 0 2147483135,
    integerProperty "fetch.min.bytes" 1 100000000,
    integerProperty "fetch.error.backoff.ms" 0 300000,
    choiceProperty "offset.store.method" (words ["none", "file", "broker"]),
    choiceProperty "isolation.level" (words ["read_uncommitted", "read_committed"]),
    handleProperty "consume_cb", handleProperty "rebalance_cb",
    handleProperty "offset_commit_cb", booleanProperty "enable.partition.eof",
    booleanProperty "check.crcs", textProperty "client.rack", textProperty "transactional.id",
    integerProperty "transaction.timeout.ms" 1000 intMax,
    booleanProperty "enable.idempotence", booleanProperty "enable.gapless.guarantee",
    integerProperty "queue.buffering.max.messages" 0 intMax,
    integerProperty "queue.buffering.max.kbytes" 1 intMax,
    { name := "queue.buffering.max.ms", kind := .decimal 0 900000 },
    aliasProperty "linger.ms" "queue.buffering.max.ms",
    integerProperty "message.send.max.retries" 0 intMax,
    aliasProperty "retries" "message.send.max.retries",
    integerProperty "retry.backoff.ms" 1 300000,
    integerProperty "retry.backoff.max.ms" 1 300000,
    integerProperty "queue.buffering.backpressure.threshold" 1 1000000,
    choiceProperty "compression.codec" compressionWords,
    aliasProperty "compression.type" "compression.codec",
    integerProperty "batch.num.messages" 1 1000000,
    integerProperty "batch.size" 1 intMax, booleanProperty "delivery.report.only.error",
    handleProperty "dr_cb", handleProperty "dr_msg_cb",
    integerProperty "sticky.partitioning.linger.ms" 0 900000,
    choiceProperty "client.dns.lookup"
      (words ["use_all_dns_ips", "resolve_canonical_bootstrap_servers_only"]),
    booleanProperty "enable.metrics.push",
    { name := "sasl.jaas.config",
      kind := .refused ("Java JAAS configuration is not supported, see " ++
        "https://github.com/confluentinc/librdkafka/wiki/Using-SASL-with-librdkafka " ++
        "for more information.") },
    { name := "ssl.truststore.location",
      kind := .refused ("Java TrustStores are not supported, use `ssl.ca.location` and a " ++
        "certificate file instead. See " ++
        "https://github.com/confluentinc/librdkafka/wiki/Using-SSL-with-librdkafka " ++
        "for more information.") } ]

def topicProperties : List Property :=
  [ { name := "request.required.acks", kind := .integer (-1) 1000 [("all", -1)] },
    aliasProperty "acks" "request.required.acks",
    integerProperty "request.timeout.ms" 1 900000,
    integerProperty "message.timeout.ms" 0 intMax,
    aliasProperty "delivery.timeout.ms" "message.timeout.ms",
    choiceProperty "queuing.strategy" (words ["fifo", "lifo"]),
    booleanProperty "produce.offset.report", textProperty "partitioner" .partitioner,
    handleProperty "partitioner_cb", handleProperty "msg_order_cmp", handleProperty "opaque",
    choiceProperty "compression.codec" (compressionWords ++ words ["inherit"]),
    aliasProperty "compression.type" "compression.codec",
    integerProperty "compression.level" (-1) 12,
    booleanProperty "auto.commit.enable", aliasProperty "enable.auto.commit" "auto.commit.enable",
    integerProperty "auto.commit.interval.ms" 10 86400000,
    choiceProperty "auto.offset.reset"
      (words ["smallest", "earliest", "beginning", "largest", "latest", "end", "error"]),
    textProperty "offset.store.path", integerProperty "offset.store.sync.interval.ms" (-1) 86400000,
    choiceProperty "offset.store.method" (words ["file", "broker"]),
    integerProperty "consume.callback.max.messages" 0 1000000 ]

inductive Level where
  | client
  | topic
deriving DecidableEq, Repr

def Level.properties : Level → List Property
  | .client => clientProperties
  | .topic => topicProperties

def Level.find? (level : Level) (name : String) : Option Property :=
  level.properties.find? (·.name = name)

example :
    (Level.client.find? "linger.ms").map Property.kind =
      some (.alias "queue.buffering.max.ms") := by
  decide

end TopicLifecycle.ClientLibrary
