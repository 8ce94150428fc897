import TopicLifecycle.Settings.Client
import TopicLifecycle.Settings.Issue

/-!
Finalizing client settings: gaps are filled from a lookup of environment variables and the
result is checked, collecting every issue.
-/

namespace TopicLifecycle.Settings

abbrev Lookup := String → Option String

def brokersVariable : String := "KAFKA_BROKERS"
def usernameVariable : String := "KAFKA_USERNAME"
def passwordVariable : String := "KAFKA_PASSWORD"
def mechanismVariable : String := "KAFKA_SASL_MECHANISM"
def plaintextVariable : String := "KAFKA_PLAINTEXT"
def tlsInsecureVariable : String := "KAFKA_TLS_INSECURE"
def caCertPathVariable : String := "KAFKA_TLS_CA_CERT_PATH"
def certPathVariable : String := "KAFKA_TLS_CERT_PATH"
def keyPathVariable : String := "KAFKA_TLS_KEY_PATH"

def consultedVariables : List String :=
  [brokersVariable, usernameVariable, passwordVariable, mechanismVariable, plaintextVariable,
    tlsInsecureVariable, caCertPathVariable, certPathVariable, keyPathVariable]

/-- The lookup with blank values counting as unset. -/
def Lookup.effective (lookup : Lookup) (name : String) : Option String :=
  (lookup name).filter fun value => !(Text.trimBlank value).isEmpty

/-- A flag variable: `true`, `1` or `yes` set it, `false`, `0` or `no` clear it, in any ASCII
case and trimmed; any other value clears it and is an issue. -/
def readFlag (lookup : Lookup) (name : String) : Bool × List Issue :=
  match lookup.effective name with
  | none => (false, [])
  | some value =>
    match Text.asciiLower (Text.trimBlank value) with
    | "true" | "1" | "yes" => (true, [])
    | "false" | "0" | "no" => (false, [])
    | _ => (false, [.invalidFlag name value])

/-- The SASL section from the lookup when the settings have none: present when a username is
set, with the looked-up mechanism (an unknown one is an issue and falls back to `PLAIN`) and
password (empty when unset). -/
def lookedUpSasl (lookup : Lookup) : Option SaslSettings × List Issue :=
  match lookup.effective usernameVariable with
  | none => (none, [])
  | some username =>
    let (mechanism, issues) := match lookup.effective mechanismVariable with
      | none => (Mechanism.plain, [])
      | some text =>
        match Mechanism.fromText text with
        | .ok mechanism => (mechanism, [])
        | .error issue => (Mechanism.plain, [issue])
    (some { mechanism, username, password := (lookup.effective passwordVariable).getD "" }, issues)

def lookedUpTls (lookup : Lookup) : TlsSettings × List Issue :=
  let (insecureSkipVerify, issues) := readFlag lookup tlsInsecureVariable
  ({ caCertPath := lookup.effective caCertPathVariable
     certPath := lookup.effective certPathVariable
     keyPath := lookup.effective keyPathVariable
     insecureSkipVerify }, issues)

namespace ClientSettings

/-- The bootstrap servers after finalizing: the settings' own brokers, or else the looked-up ones,
joined with commas. -/
def finalBrokers (lookup : Lookup) (settings : ClientSettings) : List String :=
  match settings.brokers with
  | [] =>
    match lookup.effective brokersVariable with
    | some text => brokerList text
    | none => []
  | brokers => brokers

def finalSasl (lookup : Lookup) (settings : ClientSettings) : Option SaslSettings × List Issue :=
  match settings.sasl with
  | some sasl => (some sasl, [])
  | none => lookedUpSasl lookup

/-- Plaintext and the TLS section after finalizing, with the issues of the flags: when neither is
set, the plaintext flag decides, and without it the TLS section comes from the lookup. -/
def finalTransport (lookup : Lookup) (settings : ClientSettings) :
    Bool × Option TlsSettings × List Issue :=
  if !settings.plaintext && settings.tls.isNone then
    let (plaintext, flagIssues) := readFlag lookup plaintextVariable
    if plaintext then (true, none, flagIssues)
    else
      let (tls, tlsIssues) := lookedUpTls lookup
      (false, some tls, flagIssues ++ tlsIssues)
  else (settings.plaintext, settings.tls, [])

def finalIssues (brokers : List String) (saslIssues : List Issue) (sasl : Option SaslSettings)
    (explicitBoth : Bool) (transportIssues : List Issue) (tls : Option TlsSettings) :
    List Issue :=
  (if brokers.isEmpty then [Issue.missingBrokers] else []) ++ saslIssues ++
    (match sasl with
      | some sasl =>
        (if sasl.username.isEmpty then [Issue.missingSaslUsername] else []) ++
          (if sasl.password.isEmpty then [Issue.missingSaslPassword] else [])
      | none => []) ++
    transportIssues ++
    (if explicitBoth then [Issue.plaintextWithTls] else []) ++
    (match tls with
      | some tls =>
        if tls.certPath.isSome != tls.keyPath.isSome then [Issue.incompleteClientCertificate] else []
      | none => [])

def finalizeWith (lookup : Lookup) (settings : ClientSettings) :
    Except (List Issue) ClientSettings :=
  let brokers := settings.finalBrokers lookup
  let (sasl, saslIssues) := settings.finalSasl lookup
  let (plaintext, tls, transportIssues) := settings.finalTransport lookup
  let issues := finalIssues brokers saslIssues sasl (settings.plaintext && settings.tls.isSome)
    transportIssues tls
  if issues.isEmpty then
    .ok { settings with bootstrapServers := ",".intercalate brokers, sasl, plaintext, tls }
  else .error issues

end ClientSettings

end TopicLifecycle.Settings
