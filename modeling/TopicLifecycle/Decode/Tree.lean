import TopicLifecycle.Decode.Shape
import TopicLifecycle.Json.Value
import TopicLifecycle.Settings.Manager
import TopicLifecycle.Duration.Human
import TopicLifecycle.Text.Case

/-!
Decoding settings from a tree of values, which comes from a JSON document, from a buffer of the
members a flattened record left over, or from the environment.
-/

namespace TopicLifecycle.Decode

open Json Settings

inductive Source where
  | document
  | buffered
  | environment
deriving DecidableEq, Repr

def unexpectedOf : Value → Unexpected
  | .null => .unit
  | .bool value => .bool value
  | .number (.integer value) => .integer value
  | .number (.binary value) => .float value
  | .string value => .string value
  | .array _ => .sequence
  | .object _ => .map

/-- The text of a number: decimal digits, a binary64 positionally and in shortest form. -/
def numberText : Number → String
  | .integer value => toString value
  | .binary value => value.positional

def DecodeError.underSegment (segment : String) (dot : Bool) : DecodeError → DecodeError
  | .environmentType found expected key fromVariable =>
    let path := match key with
      | none => segment
      | some rest =>
        if dot && !rest.isEmpty && !rest.startsWith "[" then segment ++ "." ++ rest
        else segment ++ rest
    .environmentType found expected (some path) fromVariable
  | error => error

def underKey (source : Source) (key : String) (error : DecodeError) : DecodeError :=
  match source with
  | .environment => error.underSegment key true
  | _ => error

def underIndex (source : Source) (index : Nat) (error : DecodeError) : DecodeError :=
  match source with
  | .environment => error.underSegment ("[" ++ toString index ++ "]") false
  | _ => error

def structuralFault (value : Value) (expected : String) : DecodeError :=
  .environmentType (unexpectedOf value) expected none false

/-- A text; `expected` names what is wanted in faults of documents and buffers. In the
environment booleans and numbers are written as text. -/
def decodeString (source : Source) (expected : String) : Value → Except DecodeError String
  | .string text => .ok text
  | value =>
    match source, value with
    | .environment, .bool flag => .ok (toString flag)
    | .environment, .number number => .ok (numberText number)
    | .environment, value => .error (structuralFault value "a string")
    | _, value => .error (.invalidType (unexpectedOf value) expected)

def trueWords : List String := ["1", "true", "on", "yes"]
def falseWords : List String := ["0", "false", "off", "no"]

def decodeBool (source : Source) : Value → Except DecodeError Bool
  | .bool flag => .ok flag
  | value =>
    match source, value with
    | .environment, .number (.integer number) => .ok (number != 0)
    | .environment, .number (.binary number) => .ok (!number.isZero)
    | .environment, .string text =>
      let lowered := Text.lowerFull text
      if trueWords.contains lowered then .ok true
      else if falseWords.contains lowered then .ok false
      else .error (.environmentType (.string lowered) "a boolean" none true)
    | .environment, value => .error (structuralFault value "a boolean")
    | _, value => .error (.invalidType (unexpectedOf value) "a boolean")

/-- A scalar as text: a text as it is, a boolean as `true` or `false`, a number in decimal. -/
def decodeScalar : Value → Except DecodeError String
  | .string text => .ok text
  | .bool flag => .ok (toString flag)
  | .number number => .ok (numberText number)
  | value => .error (.invalidType (unexpectedOf value) scalarExpecting)

def decodeOptional (decode : Value → Except DecodeError α) : Value → Except DecodeError (Option α)
  | .null => .ok none
  | value => (decode value).map some

def readDuration (text : String) : Except DecodeError Duration :=
  match Duration.readHuman text with
  | .value duration => .ok duration
  | .invalid => .error (.invalidValue (.string text) "a duration")
  | .overflow => .error (.halt "overflow in Duration::new")

def decodeDuration (source : Source) (value : Value) : Except DecodeError Duration :=
  match source, value with
  | .environment, value => decodeString .environment "a string" value >>= readDuration
  | _, .string text => readDuration text
  | _, value => .error (.invalidType (unexpectedOf value) "a duration")

def mechanismVariant (name : String) : Except DecodeError Mechanism :=
  match Mechanism.ofName? name with
  | some mechanism => .ok mechanism
  | none => .error (.unknownVariant name Mechanism.names)

def environmentMechanism (name : String) : Except DecodeError Mechanism :=
  match Mechanism.ofName? name with
  | some mechanism => .ok mechanism
  | none => .error (.message ("enum SaslMechanism does not have variant constructor " ++ name))

def decodeUnit (source : Source) : Value → Except DecodeError Unit
  | .null => .ok ()
  | .object [] => if source = .buffered then .ok () else .error (.invalidType .map "unit")
  | value => .error (.invalidType (unexpectedOf value) "unit")

def decodeMechanism (source : Source) : Value → Except DecodeError Mechanism
  | .string name => if source = .environment then environmentMechanism name else mechanismVariant name
  | .object [(name, payload)] =>
    if source = .environment then environmentMechanism name
    else do
      let mechanism ← mechanismVariant name
      decodeUnit source payload
      pure mechanism
  | .object _ =>
    if source = .environment then
      .error (.message
        "value of enum SaslMechanism should be represented by either string or table with exactly one key")
    else .error (.invalidValue .map "map with a single key")
  | value =>
    if source = .environment then
      .error (.message
        "value of enum SaslMechanism should be represented by either string or table with exactly one key")
    else .error (.invalidType (unexpectedOf value) "string or map")

def decodeProperties (source : Source) : Value → Except DecodeError Properties
  | .object members =>
    members.foldlM (fun properties (key, item) =>
      match decodeScalar item with
      | .ok text => .ok (properties.insert key text)
      | .error error => .error (underKey source key error)) .empty
  | value => .error (.invalidType (unexpectedOf value) "a map")

/-- A record's members decoded into `state`: each key names a field (unknown keys are skipped),
a field named twice is a fault, and once all members are read the first required field not seen
is a fault. -/
def decodeMembers (source : Source) (shape : RecordShape)
    (decodeField : Nat → Value → Except DecodeError (σ → σ)) :
    σ → List Nat → List (String × Value) → Except DecodeError σ
  | state, seen, [] =>
    match shape.firstMissing? seen with
    | some name => .error (.missingField name)
    | none => .ok state
  | state, seen, (key, item) :: rest =>
    match shape.fieldIndex? key with
    | none => decodeMembers source shape decodeField state seen rest
    | some index =>
      if seen.contains index then .error (.duplicateField (shape.fieldName index))
      else
        match decodeField index item with
        | .ok set => decodeMembers source shape decodeField (set state) (index :: seen) rest
        | .error error => .error (underKey source key error)

/-- A record's elements decoded into `state` by position; a missing element takes the field's
default unless the field is required. -/
def decodeElements (source : Source) (shape : RecordShape)
    (decodeField : Nat → Value → Except DecodeError (σ → σ)) :
    σ → Nat → List FieldShape → List Value → Except DecodeError σ
  | state, _, [], _ => .ok state
  | state, index, field :: fields, [] =>
    if field.required then .error (.invalidLength index shape.lengthText)
    else decodeElements source shape decodeField state (index + 1) fields []
  | state, index, _ :: fields, item :: items =>
    match decodeField index item with
    | .ok set => decodeElements source shape decodeField (set state) (index + 1) fields items
    | .error error => .error (underIndex source index error)

/-- A record from an object or an array. Elements left over are a fault, except in the
environment. -/
def decodeRecord (source : Source) (shape : RecordShape) (initial : σ)
    (decodeField : Nat → Value → Except DecodeError (σ → σ)) : Value → Except DecodeError σ
  | .object members => decodeMembers source shape decodeField initial [] members
  | .array items => do
    let state ← decodeElements source shape decodeField initial 0 shape.fields items
    if items.length ≤ shape.fields.length then pure state
    else
      match source with
      | .document => .error (.invalidLength items.length "fewer elements in array")
      | .buffered => .error (.invalidLength items.length (elementsText shape.fields.length "sequence"))
      | .environment => pure state
  | value => .error (.invalidType (unexpectedOf value) shape.expecting)

def setWith (decode : Value → Except DecodeError α) (set : α → σ → σ) (value : Value) :
    Except DecodeError (σ → σ) :=
  (decode value).map set

def tlsField (source : Source) : Nat → Value → Except DecodeError (TlsSettings → TlsSettings)
  | 0 => setWith (decodeOptional (decodeString source "path string"))
      fun path tls => { tls with caCertPath := path }
  | 1 => setWith (decodeOptional (decodeString source "path string"))
      fun path tls => { tls with certPath := path }
  | 2 => setWith (decodeOptional (decodeString source "path string"))
      fun path tls => { tls with keyPath := path }
  | _ => setWith (decodeBool source) fun flag tls => { tls with insecureSkipVerify := flag }

def decodeTls (source : Source) : Value → Except DecodeError TlsSettings :=
  decodeRecord source tlsShape {} (tlsField source)

def saslField (source : Source) : Nat → Value → Except DecodeError (SaslSettings → SaslSettings)
  | 0 => setWith (decodeMechanism source) fun mechanism sasl => { sasl with mechanism }
  | 1 => setWith decodeScalar fun username sasl => { sasl with username }
  | _ => setWith decodeScalar fun password sasl => { sasl with password }

def decodeSasl (source : Source) : Value → Except DecodeError SaslSettings :=
  decodeRecord source saslShape { username := "", password := "" } (saslField source)

def clientField (source : Source) : Nat → Value → Except DecodeError (ClientSettings → ClientSettings)
  | 0 => setWith (decodeString source "a string") fun text client => { client with bootstrapServers := text }
  | 1 => setWith (decodeOptional decodeScalar) fun clientId client => { client with clientId }
  | 2 => setWith (decodeBool source) fun plaintext client => { client with plaintext }
  | 3 => setWith (decodeOptional (decodeTls source)) fun tls client => { client with tls }
  | 4 => setWith (decodeOptional (decodeSasl source)) fun sasl client => { client with sasl }
  | _ => setWith (decodeProperties source) fun properties client => { client with properties }

def decodeClient (source : Source) : Value → Except DecodeError ClientSettings :=
  decodeRecord source clientShape {} (clientField source)

/-- The timeouts of manager settings read from its members; the members that are not timeouts
are kept, in order, for the flattened client settings. -/
def collectTimeouts (source : Source) :
    ManagerSettings → List Nat → List (String × Value) → List (String × Value) →
      Except DecodeError (ManagerSettings × List (String × Value))
  | settings, _, kept, [] => .ok (settings, kept.reverse)
  | settings, seen, kept, (key, item) :: rest =>
    match managerShape.fieldIndex? key with
    | none => collectTimeouts source settings seen ((key, item) :: kept) rest
    | some index =>
      if seen.contains index then .error (.duplicateField (managerShape.fieldName index))
      else
        match decodeOptional (decodeDuration source) item with
        | .error error => .error (underKey source key error)
        | .ok duration =>
          let settings :=
            if index = 0 then { settings with requestTimeout := duration }
            else { settings with operationTimeout := duration }
          collectTimeouts source settings (index :: seen) kept rest

/-- Manager settings from a map: the timeouts directly, the client settings from the members left
over, buffered. -/
def decodeManager (source : Source) : Value → Except DecodeError ManagerSettings
  | .object members => do
    let (settings, kept) ← collectTimeouts source {} [] [] members
    let client ← decodeMembers .buffered clientShape (clientField .buffered) {} [] kept
    pure { settings with client }
  | value => .error (.invalidType (unexpectedOf value) managerShape.expecting)

def clientOfDocument (document : Value) : Except DecodeError ClientSettings :=
  decodeClient .document document.canonical

def managerOfDocument (document : Value) : Except DecodeError ManagerSettings :=
  decodeManager .document document.canonical

def topicsOfDocument : Value → Except DecodeError (List String)
  | .array items => items.mapM (decodeString .document "a string")
  | value => .error (.invalidType (unexpectedOf value) sequenceExpecting)

end TopicLifecycle.Decode
