import TopicLifecycle.Decode.Tree
import TopicLifecycle.Json.Read

/-!
Decoding settings straight from JSON text, reading only as far as the first fault and placing
a decoder's fault where reading stands once the enclosing value is closed.
-/

namespace TopicLifecycle.Decode

open Json Settings

def mapRead (change : α → β) (outcome : Outcome α) : Outcome β :=
  outcome.map fun (value, after) => (change value, after)

/-- The outcome of reading a value and checking it with `visit`; a fault of `visit` is raised
after the value. -/
def checkRead (visit : α → Except DecodeError β) : Outcome α → Outcome β
  | .ok (value, after) =>
    match visit value with
    | .ok result => .ok (result, after)
    | .error error => failDecode error after
  | .error stop => .error stop

/-- The fault of a value of the wrong kind, placed after reading it; an array or an object is not
entered, and the fault stands before it. -/
def unexpectedAt (expected : String) (cursor : Cursor) : Outcome α :=
  let found (outcome : Outcome Unexpected) : Outcome α :=
    match outcome with
    | .ok (unexpected, after) =>
      .error ((Fault.decode (.invalidType unexpected expected)).fixAt after.position, after)
    | .error stop => .error stop
  match cursor.rest with
  | 'n' :: _ => found (mapRead (fun _ => .unit) (readWord ['u', 'l', 'l'] cursor.advance))
  | 't' :: _ => found (mapRead (fun _ => .bool true) (readWord ['r', 'u', 'e'] cursor.advance))
  | 'f' :: _ => found (mapRead (fun _ => .bool false) (readWord ['a', 'l', 's', 'e'] cursor.advance))
  | '-' :: _ =>
    found (mapRead (fun number => unexpectedOf (.number number)) (readNumber false cursor.advance))
  | '"' :: _ => found (mapRead Unexpected.string (readString cursor.advance))
  | '[' :: _ => .error ((Fault.decode (.invalidType .sequence expected)).fixAt cursor.position, cursor)
  | '{' :: _ => .error ((Fault.decode (.invalidType .map expected)).fixAt cursor.position, cursor)
  | character :: _ =>
    if isDigit character then
      found (mapRead (fun number => unexpectedOf (.number number)) (readNumber true cursor))
    else failAhead .expectedValue cursor
  | [] => failAhead .expectedValue cursor

/-- A value read by `read` from its first character; the end of the text is a fault, and a fault
without a position is placed where reading stopped. -/
def atValue (read : Cursor → Outcome α) (start : Cursor) : Outcome α :=
  let cursor := start.skipWhitespace
  match cursor.rest with
  | [] => failAhead .endInValue cursor
  | _ => (read cursor).fix

def closeSequence (start : Cursor) : Outcome Unit :=
  let cursor := start.skipWhitespace
  match cursor.rest with
  | ']' :: _ => .ok ((), cursor.advance)
  | ',' :: _ =>
    let afterComma := cursor.advance.skipWhitespace
    match afterComma.rest with
    | ']' :: _ => failAhead .trailingComma afterComma
    | _ => failAhead .trailingCharacters afterComma
  | [] => failAhead .endInList cursor
  | _ => failAhead .trailingCharacters cursor

def closeObject (start : Cursor) : Outcome Unit :=
  let cursor := start.skipWhitespace
  match cursor.rest with
  | '}' :: _ => .ok ((), cursor.advance)
  | ',' :: _ => failAhead .trailingComma cursor
  | [] => failAhead .endInObject cursor
  | _ => failAhead .trailingCharacters cursor

/-- The contents of a bracketed value followed by its closing: the contents' fault wins, with the
cursor moved as far as closing got. -/
def finishWith (close : Cursor → Outcome Unit) : Outcome α → Outcome α
  | .ok (value, after) =>
    match close after with
    | .ok (_, closed) => .ok (value, closed)
    | .error stop => .error stop
  | .error (fault, raised) =>
    match close raised with
    | .ok (_, closed) => .error (fault, closed)
    | .error (_, stopped) => .error (fault, stopped)

def nextElement (first : Bool) (start : Cursor) : Outcome Bool :=
  let cursor := start.skipWhitespace
  match cursor.rest with
  | [] => failAhead .endInList cursor
  | ']' :: _ => .ok (false, cursor)
  | ',' :: _ =>
    if first then .ok (true, cursor)
    else
      let afterComma := cursor.advance.skipWhitespace
      match afterComma.rest with
      | ']' :: _ => failAhead .trailingComma afterComma
      | [] => failAhead .endInValue afterComma
      | _ => .ok (true, afterComma)
  | _ => if first then .ok (true, cursor) else failAhead .expectedListCommaOrEnd cursor

def nextKey (first : Bool) (start : Cursor) : Outcome (Option String) :=
  let cursor := start.skipWhitespace
  let key (here : Cursor) : Outcome (Option String) := mapRead some (readString here.advance)
  match cursor.rest with
  | [] => failAhead .endInObject cursor
  | '}' :: _ => .ok (none, cursor)
  | '"' :: _ => if first then key cursor else failAhead .expectedObjectCommaOrEnd cursor
  | ',' :: _ =>
    if first then failAhead .keyMustBeString cursor
    else
      let afterComma := cursor.advance.skipWhitespace
      match afterComma.rest with
      | '"' :: _ => key afterComma
      | '}' :: _ => failAhead .trailingComma afterComma
      | [] => failAhead .endInValue afterComma
      | _ => failAhead .keyMustBeString afterComma
  | _ => if first then failAhead .keyMustBeString cursor else failAhead .expectedObjectCommaOrEnd cursor

def readColon (start : Cursor) : Outcome Unit :=
  let cursor := start.skipWhitespace
  match cursor.rest with
  | ':' :: _ => .ok ((), cursor.advance)
  | [] => failAhead .endInObject cursor
  | _ => failAhead .expectedColon cursor

def afterColon (read : Cursor → Outcome α) (cursor : Cursor) : Outcome α :=
  match readColon cursor with
  | .ok (_, after) => read after
  | .error stop => .error stop

/-- Opening a bracket uses one level of nesting; with one level left it is a fault. -/
def enter (depth : Nat) (cursor : Cursor) (read : Nat → Cursor → Outcome α) : Outcome α :=
  if depth ≤ 1 then failAhead .recursionLimitExceeded cursor else read (depth - 1) cursor.advance

/-! ## Scalars -/

def readStringAs (expected : String) (visit : String → Except DecodeError α) : Cursor → Outcome α :=
  atValue fun cursor =>
    match cursor.rest with
    | '"' :: _ => checkRead visit (readString cursor.advance)
    | _ => unexpectedAt expected cursor

def readBool : Cursor → Outcome Bool :=
  atValue fun cursor =>
    match cursor.rest with
    | 't' :: _ => mapRead (fun _ => true) (readWord ['r', 'u', 'e'] cursor.advance)
    | 'f' :: _ => mapRead (fun _ => false) (readWord ['a', 'l', 's', 'e'] cursor.advance)
    | _ => unexpectedAt "a boolean" cursor

def readScalar (depth : Nat) : Cursor → Outcome String :=
  atValue fun cursor =>
    match cursor.rest with
    | 'n' :: _ =>
      checkRead (fun _ => .error (.invalidType .unit scalarExpecting))
        (readWord ['u', 'l', 'l'] cursor.advance)
    | 't' :: _ => mapRead (fun _ => "true") (readWord ['r', 'u', 'e'] cursor.advance)
    | 'f' :: _ => mapRead (fun _ => "false") (readWord ['a', 'l', 's', 'e'] cursor.advance)
    | '-' :: _ => mapRead numberText (readNumber false cursor.advance)
    | '"' :: _ => readString cursor.advance
    | '[' :: _ =>
      enter depth cursor fun _ inside =>
        finishWith closeSequence (failDecode (.invalidType .sequence scalarExpecting) inside)
    | '{' :: _ =>
      enter depth cursor fun _ inside =>
        finishWith closeObject (failDecode (.invalidType .map scalarExpecting) inside)
    | character :: _ =>
      if isDigit character then mapRead numberText (readNumber true cursor)
      else failAhead .expectedValue cursor
    | [] => failAhead .expectedValue cursor

def readOptional (read : Cursor → Outcome α) (start : Cursor) : Outcome (Option α) :=
  let cursor := start.skipWhitespace
  match cursor.rest with
  | 'n' :: _ => mapRead (fun _ => none) (readWord ['u', 'l', 'l'] cursor.advance)
  | _ => mapRead some (read cursor)

def readUnit : Cursor → Outcome Unit :=
  atValue fun cursor =>
    match cursor.rest with
    | 'n' :: _ => readWord ['u', 'l', 'l'] cursor.advance
    | _ => unexpectedAt "unit" cursor

def readMechanism (depth : Nat) (start : Cursor) : Outcome Mechanism :=
  let cursor := start.skipWhitespace
  match cursor.rest with
  | '{' :: _ =>
    enter depth cursor fun _ inside =>
      match readStringAs "variant identifier" mechanismVariant inside with
      | .error stop => .error stop
      | .ok (mechanism, afterName) =>
        match afterColon readUnit afterName with
        | .error stop => .error stop
        | .ok (_, afterPayload) =>
          let closing := afterPayload.skipWhitespace
          match closing.rest with
          | '}' :: _ => .ok (mechanism, closing.advance)
          | [] => failHere .endInObject closing
          | _ => failHere .expectedValue closing
  | '"' :: _ => readStringAs "variant identifier" mechanismVariant cursor
  | [] => failAhead .endInValue cursor
  | _ => failAhead .expectedValue cursor

def readDurationText : Cursor → Outcome Duration := readStringAs "a duration" readDuration

/-! ## Maps, records and lists -/

def readScalarMembers (depth : Nat) : Nat → Properties → Bool → Cursor → Outcome Properties
  | 0, _, _, cursor => outOfFuel cursor
  | fuel + 1, properties, first, cursor =>
    match nextKey first cursor with
    | .error stop => .error stop
    | .ok (none, here) => .ok (properties, here)
    | .ok (some key, afterKey) =>
      match afterColon (readScalar depth) afterKey with
      | .error stop => .error stop
      | .ok (text, after) => readScalarMembers depth fuel (properties.insert key text) false after

def readProperties (depth : Nat) : Cursor → Outcome Properties :=
  atValue fun cursor =>
    match cursor.rest with
    | '{' :: _ =>
      enter depth cursor fun inner inside =>
        finishWith closeObject (readScalarMembers inner (fuelFor inside) .empty true inside)
    | _ => unexpectedAt "a map" cursor

abbrev FieldReader (σ : Type) := Nat → Nat → Cursor → Outcome (σ → σ)

/-- A record's members: fields by name, unknown members skipped, a field named twice a fault; at
the end the first required field not seen is a fault. -/
def readMembers (shape : RecordShape) (field : FieldReader σ) (depth : Nat) :
    Nat → σ → List Nat → Bool → Cursor → Outcome σ
  | 0, _, _, _, cursor => outOfFuel cursor
  | fuel + 1, state, seen, first, cursor =>
    match nextKey first cursor with
    | .error stop => .error stop
    | .ok (none, here) =>
      match shape.firstMissing? seen with
      | some name => failDecode (.missingField name) here
      | none => .ok (state, here)
    | .ok (some key, afterKey) =>
      match shape.fieldIndex? key with
      | none =>
        match afterColon skipValue afterKey with
        | .error stop => .error stop
        | .ok (_, after) => readMembers shape field depth fuel state seen false after
      | some index =>
        if seen.contains index then failDecode (.duplicateField (shape.fieldName index)) afterKey
        else
          match afterColon (field index depth) afterKey with
          | .error stop => .error stop
          | .ok (set, after) => readMembers shape field depth fuel (set state) (index :: seen) false after

/-- A record's elements: fields by position; when the elements run out, the remaining fields take
their defaults, and a required one is a fault. -/
def readElements (shape : RecordShape) (field : FieldReader σ) (depth : Nat) :
    σ → Nat → List FieldShape → Bool → Cursor → Outcome σ
  | state, _, [], _, cursor => .ok (state, cursor)
  | state, index, fieldShape :: fields, first, cursor =>
    match nextElement first cursor with
    | .error stop => .error stop
    | .ok (false, here) =>
      match firstMissingFrom [] index (fieldShape :: fields) with
      | some _ =>
        let missingIndex := index + ((fieldShape :: fields).findIdx? (·.required)).getD 0
        failDecode (.invalidLength missingIndex shape.lengthText) here
      | none => .ok (state, here)
    | .ok (true, here) =>
      match field index depth here with
      | .error stop => .error stop
      | .ok (set, after) => readElements shape field depth (set state) (index + 1) fields false after

def readRecord (shape : RecordShape) (initial : σ) (field : FieldReader σ) (depth : Nat) :
    Cursor → Outcome σ :=
  atValue fun cursor =>
    match cursor.rest with
    | '[' :: _ =>
      enter depth cursor fun inner inside =>
        finishWith closeSequence (readElements shape field inner initial 0 shape.fields true inside)
    | '{' :: _ =>
      enter depth cursor fun inner inside =>
        finishWith closeObject (readMembers shape field inner (fuelFor inside) initial [] true inside)
    | _ => unexpectedAt shape.expecting cursor

def setRead (read : Cursor → Outcome α) (set : α → σ → σ) (cursor : Cursor) : Outcome (σ → σ) :=
  mapRead set (read cursor)

def tlsTextField : FieldReader TlsSettings
  | 0, _ => setRead (readOptional (readStringAs "path string" .ok)) fun path tls => { tls with caCertPath := path }
  | 1, _ => setRead (readOptional (readStringAs "path string" .ok)) fun path tls => { tls with certPath := path }
  | 2, _ => setRead (readOptional (readStringAs "path string" .ok)) fun path tls => { tls with keyPath := path }
  | _, _ => setRead readBool fun flag tls => { tls with insecureSkipVerify := flag }

def saslTextField : FieldReader SaslSettings
  | 0, depth => setRead (readMechanism depth) fun mechanism sasl => { sasl with mechanism }
  | 1, depth => setRead (readScalar depth) fun username sasl => { sasl with username }
  | _, depth => setRead (readScalar depth) fun password sasl => { sasl with password }

def clientTextField : FieldReader ClientSettings
  | 0, _ => setRead (readStringAs "a string" .ok) fun text client => { client with bootstrapServers := text }
  | 1, depth => setRead (readOptional (readScalar depth)) fun clientId client => { client with clientId }
  | 2, _ => setRead readBool fun plaintext client => { client with plaintext }
  | 3, depth =>
    setRead (readOptional (readRecord tlsShape {} tlsTextField depth)) fun tls client => { client with tls }
  | 4, depth =>
    setRead (readOptional (readRecord saslShape { username := "", password := "" } saslTextField depth))
      fun sasl client => { client with sasl }
  | _, depth => setRead (readProperties depth) fun properties client => { client with properties }

def readClient (depth : Nat) : Cursor → Outcome ClientSettings :=
  readRecord clientShape {} clientTextField depth

/-- The members of manager settings: the timeouts read directly, every other member buffered
as a value; at the end the client settings are decoded from the buffer. -/
def readManagerMembers (depth : Nat) :
    Nat → ManagerSettings → List Nat → List (String × Value) → Bool → Cursor → Outcome ManagerSettings
  | 0, _, _, _, _, cursor => outOfFuel cursor
  | fuel + 1, settings, seen, kept, first, cursor =>
    match nextKey first cursor with
    | .error stop => .error stop
    | .ok (none, here) =>
      match decodeMembers .buffered clientShape (Decode.clientField .buffered) {} [] kept.reverse with
      | .ok client => .ok ({ settings with client }, here)
      | .error error => failDecode error here
    | .ok (some key, afterKey) =>
      match managerShape.fieldIndex? key with
      | none =>
        match afterColon (fun cursor => readValue (fuelFor cursor) depth cursor) afterKey with
        | .error stop => .error stop
        | .ok (item, after) =>
          readManagerMembers depth fuel settings seen ((key, item) :: kept) false after
      | some index =>
        if seen.contains index then failDecode (.duplicateField (managerShape.fieldName index)) afterKey
        else
          match afterColon (readOptional readDurationText) afterKey with
          | .error stop => .error stop
          | .ok (duration, after) =>
            let settings :=
              if index = 0 then { settings with requestTimeout := duration }
              else { settings with operationTimeout := duration }
            readManagerMembers depth fuel settings (index :: seen) kept false after

def readManager (depth : Nat) : Cursor → Outcome ManagerSettings :=
  atValue fun cursor =>
    match cursor.rest with
    | '{' :: _ =>
      enter depth cursor fun inner inside =>
        finishWith closeObject (readManagerMembers inner (fuelFor inside) {} [] [] true inside)
    | _ => unexpectedAt managerShape.expecting cursor

def readTopicElements : Nat → List String → Bool → Cursor → Outcome (List String)
  | 0, _, _, cursor => outOfFuel cursor
  | fuel + 1, topics, first, cursor =>
    match nextElement first cursor with
    | .error stop => .error stop
    | .ok (false, here) => .ok (topics.reverse, here)
    | .ok (true, here) =>
      match readStringAs "a string" .ok here with
      | .error stop => .error stop
      | .ok (topic, after) => readTopicElements fuel (topic :: topics) false after

def readTopics (depth : Nat) : Cursor → Outcome (List String) :=
  atValue fun cursor =>
    match cursor.rest with
    | '[' :: _ =>
      enter depth cursor fun _ inside =>
        finishWith closeSequence (readTopicElements (fuelFor inside) [] true inside)
    | _ => unexpectedAt sequenceExpecting cursor

/-- A whole text decoded by `read`, with nothing but whitespace after the value. -/
def decodeText (read : Nat → Cursor → Outcome α) (text : String) : Except Fault α :=
  let start := Cursor.ofString text
  match read depthLimit start with
  | .error (fault, here) => .error (fault.fixAt here.position)
  | .ok (value, after) =>
    let rest := after.skipWhitespace
    match rest.rest with
    | [] => .ok value
    | _ => .error (Fault.malformedAt .trailingCharacters rest.peekPosition)

def clientOfText : String → Except Fault ClientSettings := decodeText readClient

def managerOfText : String → Except Fault ManagerSettings := decodeText readManager

def topicsOfText : String → Except Fault (List String) := decodeText readTopics

end TopicLifecycle.Decode
