import TopicLifecycle.Text.Quoted

/-!
Debug output of records, tuples, maps and optional values, in a compact and a pretty style.
-/

namespace TopicLifecycle.Text

inductive DebugStyle where
  | compact
  | pretty
deriving DecidableEq, Repr

/-- The characters with four spaces before every line, that is before the first character and
after every line break followed by more; `lineStart` says whether a line starts here. -/
def indentFrom (lineStart : Bool) : List Char → List Char
  | [] => []
  | character :: rest =>
    (if lineStart then [' ', ' ', ' ', ' '] else []) ++
      character :: indentFrom (character = '\n') rest

def indentLines (text : String) : String :=
  String.ofList (indentFrom true text.toList)

namespace DebugStyle

/-- Parts one after another: separated by `, ` in the compact style, and in the pretty style each
on a line of its own, indented and followed by a comma. -/
def parts : DebugStyle → List String → String
  | .compact, shown => ", ".intercalate shown
  | .pretty, shown => String.join (shown.map fun part => indentLines (part ++ ",\n"))

def record (style : DebugStyle) (name : String) (fields : List (String × String)) : String :=
  let shown := fields.map fun field => field.1 ++ ": " ++ field.2
  if fields.isEmpty then name
  else
    match style with
    | .compact => name ++ " \x7b " ++ style.parts shown ++ " \x7d"
    | .pretty => name ++ " \x7b\n" ++ style.parts shown ++ "\x7d"

def tuple (style : DebugStyle) (name : String) (items : List String) : String :=
  if items.isEmpty then name
  else
    match style with
    | .compact => name ++ "(" ++ style.parts items ++ ")"
    | .pretty => name ++ "(\n" ++ style.parts items ++ ")"

def map (style : DebugStyle) (entries : List (String × String)) : String :=
  let shown := entries.map fun entry => entry.1 ++ ": " ++ entry.2
  match style with
  | .compact => "\x7b" ++ style.parts shown ++ "\x7d"
  | .pretty => if entries.isEmpty then "\x7b\x7d" else "\x7b\n" ++ style.parts shown ++ "\x7d"

def option {α : Type} (style : DebugStyle) (showValue : α → String) : Option α → String
  | none => "None"
  | some value => style.tuple "Some" [showValue value]

example : pretty.option (fun text => text) (some "5s") = "Some(\n    5s,\n)" := by decide

end DebugStyle

def flagText (flag : Bool) : String := if flag then "true" else "false"

def quotePathCharacter (character : Char) : List Char :=
  if character = '\x27' then ['\\', '\x27'] else quoteCharacter character

def quotedPath (path : String) : String :=
  String.ofList ('"' :: path.toList.flatMap quotePathCharacter ++ ['"'])

end TopicLifecycle.Text
