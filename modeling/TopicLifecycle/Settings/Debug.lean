import TopicLifecycle.Text.Debug
import TopicLifecycle.Settings.Manager

/-!
Settings in debug output, as finalizing (compact) and creating a manager (pretty) log them.
-/

namespace TopicLifecycle.Settings

open Text

def TlsSettings.debug (style : DebugStyle) (tls : TlsSettings) : String :=
  style.record "TlsConfig"
    [("ca_cert_path", style.option quotedPath tls.caCertPath),
      ("cert_path", style.option quotedPath tls.certPath),
      ("key_path", style.option quotedPath tls.keyPath),
      ("insecure_skip_verify", flagText tls.insecureSkipVerify)]

/-- SASL settings in debug output; the password shows as `***`. -/
def SaslSettings.debug (style : DebugStyle) (sasl : SaslSettings) : String :=
  style.record "SaslConfig"
    [("mechanism", sasl.mechanism.debugName), ("username", quoted sasl.username),
      ("password", quoted "***")]

def ClientSettings.debug (style : DebugStyle) (settings : ClientSettings) : String :=
  style.record "KafkaClientConfig"
    [("bootstrap_servers", quoted settings.bootstrapServers),
      ("client_id", style.option quoted settings.clientId),
      ("plaintext", flagText settings.plaintext),
      ("tls", style.option (TlsSettings.debug style) settings.tls),
      ("sasl", style.option (SaslSettings.debug style) settings.sasl),
      ("properties",
        style.map (settings.properties.entries.map fun entry => (quoted entry.1, quoted entry.2)))]

def ManagerSettings.debug (style : DebugStyle) (settings : ManagerSettings) : String :=
  style.record "ManagerConfig"
    [("client", settings.client.debug style),
      ("request_timeout", style.option Duration.text settings.requestTimeout),
      ("operation_timeout", style.option Duration.text settings.operationTimeout)]

end TopicLifecycle.Settings
