import TopicLifecycle.Settings.Mechanism

/-!
What can be wrong with client settings once the environment has been consulted. All issues are
collected, in the order the checks run, and reported together.
-/

namespace TopicLifecycle.Settings

inductive Issue where
  | missingBrokers
  | missingSaslUsername
  | missingSaslPassword
  | unknownSaslMechanism (value : String)
  | incompleteClientCertificate
  | plaintextWithTls
  | invalidFlag (name : String) (value : String)
deriving DecidableEq, Repr

namespace Issue

def kind : Issue → String
  | .missingBrokers => "MissingBrokers"
  | .missingSaslUsername => "MissingSaslUsername"
  | .missingSaslPassword => "MissingSaslPassword"
  | .unknownSaslMechanism _ => "UnknownSaslMechanism"
  | .incompleteClientCertificate => "IncompleteClientCertificate"
  | .plaintextWithTls => "PlaintextWithTls"
  | .invalidFlag _ _ => "InvalidFlag"

def text : Issue → String
  | .missingBrokers => "at least one broker must be set"
  | .missingSaslUsername => "SASL username must be set"
  | .missingSaslPassword => "SASL password must be set"
  | .unknownSaslMechanism value => "unknown SASL mechanism: " ++ value
  | .incompleteClientCertificate => "TLS client certificate and key must be set together"
  | .plaintextWithTls => "plaintext and TLS settings are mutually exclusive"
  | .invalidFlag name value => "invalid boolean value for " ++ name ++ ": " ++ value

end Issue

/-- Reads a mechanism from a text, ignoring ASCII case and trimming nothing; a text that names
no mechanism is an issue that carries the text as given. -/
def Mechanism.fromText (text : String) : Except Issue Mechanism :=
  match Mechanism.parse? text with
  | some mechanism => .ok mechanism
  | none => .error (.unknownSaslMechanism text)

/-- The message of a list of issues: `invalid kafka configuration` and each issue, the first
after a colon, the others after semicolons. -/
def issuesText (issues : List Issue) : String :=
  match issues with
  | [] => "invalid kafka configuration"
  | _ => "invalid kafka configuration: " ++ "; ".intercalate (issues.map Issue.text)

example :
    issuesText [.missingBrokers, .plaintextWithTls] =
      "invalid kafka configuration: at least one broker must be set; plaintext and TLS settings are mutually exclusive" := by
  decide

end TopicLifecycle.Settings
