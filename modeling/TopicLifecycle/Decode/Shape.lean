import TopicLifecycle.Decode.Error

/-!
The shapes of the records that settings are decoded into: each record's name and its fields in
declaration order, with their aliases and whether they must be present.
-/

namespace TopicLifecycle.Decode

structure FieldShape where
  name : String
  aliases : List String := []
  required : Bool := false
deriving DecidableEq, Repr

/-- A record: its name and its fields in declaration order. -/
structure RecordShape where
  name : String
  fields : List FieldShape
deriving DecidableEq, Repr

def firstMissingFrom (seen : List Nat) : Nat → List FieldShape → Option String
  | _, [] => none
  | index, field :: fields =>
    if field.required && !seen.contains index then some field.name
    else firstMissingFrom seen (index + 1) fields

namespace RecordShape

def expecting (shape : RecordShape) : String := "struct " ++ shape.name

def lengthText (shape : RecordShape) : String :=
  "struct " ++ shape.name ++ " with " ++ toString shape.fields.length ++ " elements"

def fieldIndex? (shape : RecordShape) (key : String) : Option Nat :=
  shape.fields.findIdx? fun field => field.name == key || field.aliases.contains key

def fieldName (shape : RecordShape) (index : Nat) : String :=
  (shape.fields[index]?.map FieldShape.name).getD ""

def firstMissing? (shape : RecordShape) (seen : List Nat) : Option String :=
  firstMissingFrom seen 0 shape.fields

def allNames (shape : RecordShape) : List String :=
  shape.fields.flatMap fun field => field.name :: field.aliases

end RecordShape

def elementsText (count : Nat) (kind : String) : String :=
  if count = 1 then "1 element in " ++ kind else toString count ++ " elements in " ++ kind

def clientShape : RecordShape :=
  ⟨"KafkaClientConfig",
    [{ name := "bootstrap_servers", aliases := ["bootstrapServers"] }, { name := "client_id" },
      { name := "plaintext" }, { name := "tls" }, { name := "sasl" }, { name := "properties" }]⟩

def tlsShape : RecordShape :=
  ⟨"TlsConfig",
    [{ name := "ca_cert_path" }, { name := "cert_path" }, { name := "key_path" },
      { name := "insecure_skip_verify" }]⟩

/-- The SASL settings record; the credentials must be present. -/
def saslShape : RecordShape :=
  ⟨"SaslConfig",
    [{ name := "mechanism" }, { name := "username", required := true },
      { name := "password", required := true }]⟩

/-- The manager settings record: its own fields; the client settings are flattened into it. -/
def managerShape : RecordShape :=
  ⟨"ManagerConfig", [{ name := "request_timeout" }, { name := "operation_timeout" }]⟩

def sequenceExpecting : String := "a sequence"

def scalarExpecting : String := "a string, number or boolean"

example : saslShape.firstMissing? [1] = some "password" := by decide

end TopicLifecycle.Decode
