import TopicLifecycle.Settings.Client

/-!
Client settings as the client library's key/value configuration: fixed keys, then the
properties with dotted keys.
-/

namespace TopicLifecycle.Settings

def optionalEntry (key : String) : Option String → List (String × String)
  | some value => [(key, value)]
  | none => []

def ClientSettings.fixedEntries (settings : ClientSettings) : List (String × String) :=
  [("bootstrap.servers", ",".intercalate settings.brokers),
    ("security.protocol", settings.securityProtocol)] ++
  optionalEntry "client.id" settings.clientId ++
  (match settings.sasl with
    | some sasl =>
      [("sasl.mechanism", sasl.mechanism.name), ("sasl.username", sasl.username),
        ("sasl.password", sasl.password)]
    | none => []) ++
  (match settings.tls with
    | some tls =>
      optionalEntry "ssl.ca.location" tls.caCertPath ++
        optionalEntry "ssl.certificate.location" tls.certPath ++
        optionalEntry "ssl.key.location" tls.keyPath ++
        (if tls.insecureSkipVerify then
          [("enable.ssl.certificate.verification", "false"),
            ("ssl.endpoint.identification.algorithm", "none")]
        else [])
    | none => [])

/-- The client library's configuration: fixed keys, then the properties with dotted keys. -/
def ClientSettings.libraryConfig (settings : ClientSettings) : Properties :=
  Properties.ofList (settings.fixedEntries ++
    settings.properties.entries.map fun (key, value) => (dotted key, value))

end TopicLifecycle.Settings
