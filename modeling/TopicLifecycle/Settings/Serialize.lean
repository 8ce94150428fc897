import TopicLifecycle.Settings.Client
import TopicLifecycle.Json.Value

/-!
Client settings written as a JSON document, absent parts left out.
-/

namespace TopicLifecycle.Settings

open Json

def optionalMember (key : String) : Option String → List (String × Value)
  | some text => [(key, .string text)]
  | none => []

def TlsSettings.members (tls : TlsSettings) : List (String × Value) :=
  optionalMember "ca_cert_path" tls.caCertPath ++ optionalMember "cert_path" tls.certPath ++
    optionalMember "key_path" tls.keyPath ++ [("insecure_skip_verify", .bool tls.insecureSkipVerify)]

def TlsSettings.toDocument (tls : TlsSettings) : Value := .object tls.members

def SaslSettings.members (sasl : SaslSettings) : List (String × Value) :=
  [("mechanism", .string sasl.mechanism.name), ("username", .string sasl.username),
    ("password", .string sasl.password)]

def SaslSettings.toDocument (sasl : SaslSettings) : Value := .object sasl.members

def propertiesDocument (properties : Properties) : Value :=
  .object (properties.entries.map fun (key, value) => (key, .string value))

def topicsDocument (topics : List String) : Value := .array (topics.map .string)

def ClientSettings.members (settings : ClientSettings) : List (String × Value) :=
  [("bootstrap_servers", .string settings.bootstrapServers)] ++
    optionalMember "client_id" settings.clientId ++
    [("plaintext", .bool settings.plaintext)] ++
    (match settings.tls with | some tls => [("tls", tls.toDocument)] | none => []) ++
    (match settings.sasl with | some sasl => [("sasl", sasl.toDocument)] | none => []) ++
    (if settings.properties.entries.isEmpty then []
      else [("properties", propertiesDocument settings.properties)])

/-- Client settings as a JSON object. -/
def ClientSettings.toDocument (settings : ClientSettings) : Value := .object settings.members

end TopicLifecycle.Settings
