import TopicLifecycle.Binary64.Decimal
import TopicLifecycle.Text.Quoted

/-!
Decode errors and their texts, in the JSON style and in the environment's style, which differ
in how they show a null and a binary64.
-/

namespace TopicLifecycle.Decode

inductive Unexpected where
  | bool (value : Bool)
  | integer (value : Int)
  | float (value : Binary64)
  | string (value : String)
  | unit
  | sequence
  | map
deriving DecidableEq, Repr

inductive Style where
  /-- JSON decoding: `null`, binary64 in scientific layout. -/
  | json
  /-- Environment decoding: `unit value`, binary64 positional with a point. -/
  | plain
deriving DecidableEq, Repr

def Unexpected.text (style : Style) : Unexpected → String
  | .bool value => "boolean `" ++ toString value ++ "`"
  | .integer value => "integer `" ++ toString value ++ "`"
  | .float value =>
    match style with
    | .json => "floating point `" ++ value.scientific ++ "`"
    | .plain => "floating point `" ++ value.positionalWithPoint ++ "`"
  | .string value => "string " ++ Text.quoted value
  | .unit => match style with | .json => "null" | .plain => "unit value"
  | .sequence => "sequence"
  | .map => "map"

inductive DecodeError where
  | invalidType (found : Unexpected) (expected : String)
  | invalidValue (found : Unexpected) (expected : String)
  | invalidLength (length : Nat) (expected : String)
  | missingField (name : String)
  | duplicateField (name : String)
  | unknownVariant (variant : String) (expected : List String)
  /-- A conversion of the environment source failed: the found value, what was wanted, the
  key path of the setting, and whether the value came from a variable. -/
  | environmentType (found : Unexpected) (expected : String) (key : Option String)
      (fromVariable : Bool)
  | message (text : String)
  /-- A fault that stops the program rather than failing the decoding, with its reason. -/
  | halt (reason : String)
deriving DecidableEq, Repr

/-- `` `a` ``, `` `a` or `b` `` or `` one of `a`, `b`, `c` ``. -/
def oneOf (names : List String) : String :=
  let ticked := names.map fun name => "`" ++ name ++ "`"
  match ticked with
  | [single] => single
  | [first, second] => first ++ " or " ++ second
  | _ => "one of " ++ ", ".intercalate ticked

def DecodeError.text (style : Style) : DecodeError → String
  | .invalidType found expected => "invalid type: " ++ found.text style ++ ", expected " ++ expected
  | .invalidValue found expected =>
    "invalid value: " ++ found.text style ++ ", expected " ++ expected
  | .invalidLength length expected =>
    "invalid length " ++ toString length ++ ", expected " ++ expected
  | .missingField name => "missing field `" ++ name ++ "`"
  | .duplicateField name => "duplicate field `" ++ name ++ "`"
  | .unknownVariant variant [] => "unknown variant `" ++ variant ++ "`, there are no variants"
  | .unknownVariant variant expected =>
    "unknown variant `" ++ variant ++ "`, expected " ++ oneOf expected
  | .environmentType found expected key fromVariable =>
    "invalid type: " ++ found.text .plain ++ ", expected " ++ expected ++
      (match key with | some path => " for key `" ++ path ++ "`" | none => "") ++
      (if fromVariable then " in the environment" else "")
  | .message text => text
  | .halt reason => reason

def DecodeError.stopsProgram : DecodeError → Bool
  | .halt _ => true
  | _ => false

example : (DecodeError.missingField "password").text .json =
    "missing field `password`" := by decide

end TopicLifecycle.Decode
