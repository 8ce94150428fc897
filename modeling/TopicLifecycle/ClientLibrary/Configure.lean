import TopicLifecycle.ClientLibrary.Property
import TopicLifecycle.ClientLibrary.Number
import TopicLifecycle.ClientLibrary.Pattern

/-!
Setting configuration properties on the client library, with its messages: names are resolved
at the client and topic levels, each kind of property reads its value, and messages are cut to
the library's 512-byte buffer.
-/

namespace TopicLifecycle.ClientLibrary

inductive Setting where
  | text (value : Option String)
  | integer (value : Int)
  | decimal (value : Binary64)
  | boolean (value : Bool)
  | word (name : String)
  | flags
  | patterns
deriving DecidableEq

/-- The settings recorded at the client level and, once it exists, at the topic level. -/
structure LibraryConfig where
  client : List (String × Setting) := []
  topic : Option (List (String × Setting)) := none

def record (name : String) (setting : Setting) (settings : List (String × Setting)) :
    List (String × Setting) :=
  (name, setting) :: settings.filter (·.1 != name)

def resolve (level : Level) : (hops : Nat) → String → Option Property
  | 0, _ => none
  | hops + 1, name =>
    match level.find? name with
    | some { kind := .alias target, .. } => resolve level hops target
    | found => found

def invalidValue (name : String) : String :=
  "Invalid value for configuration property \"" ++ name ++ "\""

/-- `Invalid value for configuration property "name": value`, the C library writing a missing
value as `(null)`. -/
def invalidValueOf (name : String) (value : Option String) : String :=
  invalidValue name ++ ": " ++ value.getD "(null)"

def trimLeading (text : String) : String := String.ofList (text.toList.dropWhile isCBlank)

def sameWord (left right : String) : Bool :=
  left.length = right.length && left.toList.map Char.toLower == right.toList.map Char.toLower

def partitionerNames : List String :=
  ["random", "consistent", "consistent_random", "murmur2", "murmur2_random", "fnv1a",
    "fnv1a_random"]

def fileNamePart (path : String) : List Char :=
  let reversed := path.toList.reverse
  match reversed.findIdx? (· = '/') with
  | some index => (reversed.take (index + 1)).reverse
  | none => path.toList

/-- Whether a path already ends in an extension: a point within its file name's last three
characters. -/
def hasExtension (path : String) : Bool :=
  let name := fileNamePart path
  match name.reverse.findIdx? (· = '.') with
  | some index => index < 3
  | none => false

inductive LoadFailure where
  | missing
  | nameTooLong
  | directory
deriving DecidableEq, Repr

def LoadFailure.text : LoadFailure → String
  | .missing => "cannot open shared object file: No such file or directory"
  | .nameTooLong => "cannot open shared object file: File name too long"
  | .directory => "cannot read file data: Is a directory"

def topDirectories : List String :=
  ["bin", "boot", "dev", "etc", "home", "lib", "lib64", "media", "mnt", "opt", "proc", "root",
    "run", "sbin", "srv", "sys", "tmp", "usr", "var"]

/-- Whether the rest of a path's parts, walked from a directory given by the names that lead
to it, ends on a directory: the root and the top directories are the ones known. -/
def walksToDirectory : List String → List String → Bool
  | _, [] => true
  | trail, part :: rest =>
    if part = "" || part = "." then walksToDirectory trail rest
    else if part = ".." then walksToDirectory trail.tail rest
    else
      match trail with
      | [] => topDirectories.contains part && walksToDirectory [part] rest
      | _ :: _ => false

/-- What loading a path ends in; a path without a slash is looked for among the library
directories, which hold no plugin. -/
def loadFailure (path : String) : LoadFailure :=
  let parts := path.splitOn "/"
  if path.utf8ByteSize ≥ 4096 || parts.any (·.utf8ByteSize > 255) then .nameTooLong
  else if path.toList.contains '/' && walksToDirectory [] parts then .directory
  else .missing

/-- The loader's message for a plugin path: the path as given, or with `.so` added when it has
no extension, since that is tried last. -/
def loaderMessage (path : String) : String :=
  let tried := if hasExtension path then path else path ++ ".so"
  "dlopen() failed: " ++ tried ++ ": " ++ (loadFailure tried).text

def messageCapacity : Nat := 511

/-- The message of failing to load a plugin: the loader's message, then the path when the
library judges that it fits the buffer, counting one byte short, so that the closing
parenthesis may still be cut off. -/
def pluginFailure (path : String) : String :=
  let message := loaderMessage path
  if min message.utf8ByteSize messageCapacity + "(plugin )".length + path.utf8ByteSize <
      messageCapacity + 1 then
    message ++ " (plugin " ++ path ++ ")"
  else message

def loadPlugins (paths : String) : Except String Unit :=
  match paths.splitOn ";" with
  | first :: _ => .error (pluginFailure first)
  | [] => .ok ()

/-- The characters of a message that fit in so many bytes of UTF-8; a character cut in two
leaves the replacement character. -/
def fitBuffer (capacity : Nat) : List Char → List Char
  | [] => []
  | character :: rest =>
    if character.utf8Size ≤ capacity then
      character :: fitBuffer (capacity - character.utf8Size) rest
    else if capacity = 0 then []
    else ['\uFFFD']

def bufferText (message : String) : String :=
  String.ofList (fitBuffer messageCapacity message.toList)

def acceptText (name : String) (check : TextCheck) (value : Option String) :
    Except String Setting :=
  let trimmed := value.map trimLeading
  match check, trimmed with
  | .none, _ => .ok (.text trimmed)
  | .single, some text =>
    if text.toList.any (fun character => character = ',' || character = ' ') then
      .error (invalidValueOf name trimmed)
    else .ok (.text trimmed)
  | .partitioner, some text =>
    if partitionerNames.contains text then .ok (.text trimmed)
    else .error (invalidValueOf name trimmed)
  | .plugins, some text =>
    if text.isEmpty then .ok (.text trimmed) else (loadPlugins text).map fun _ => .text trimmed
  | .plugins, none => .ok (.text none)
  | .brokerVersion, some text =>
    if text.startsWith "0.7." || text.startsWith "0.6." then .error (invalidValueOf name trimmed)
    else .ok (.text trimmed)
  | _, none => .error (invalidValueOf name none)

def acceptBoolean (name : String) : Option String → Except String Setting
  | none => .error ("Bool configuration property \"" ++ name ++ "\" cannot be set to empty value")
  | some text =>
    if sameWord text "true" || sameWord text "t" || text = "1" then .ok (.boolean true)
    else if sameWord text "false" || sameWord text "f" || text = "0" then .ok (.boolean false)
    else .error ("Expected bool value for \"" ++ name ++ "\": true or false")

/-- `Configuration property "name" value v is outside allowed range low..high`, with the
line break the library ends it with. -/
def outsideRange (name value low high : String) : String :=
  "Configuration property \"" ++ name ++ "\" value " ++ value ++
    " is outside allowed range " ++ low ++ ".." ++ high ++ "\n"

def acceptInteger (name : String) (low high : Int) (names : List (String × Int)) :
    Option String → Except String Setting
  | none =>
    .error ("Integer configuration property \"" ++ name ++ "\" cannot be set to empty value")
  | some text =>
    let value? := match readLong text.toList with
      | some long => some (toInt32 long)
      | none => (names.find? fun (word, _) => sameWord word text).map (·.2)
    match value? with
    | none => .error (invalidValue name)
    | some value =>
      if value < low || value > high then
        .error (outsideRange name (toString value) (toString low) (toString high))
      else .ok (.integer value)

def belowZero (value : Binary64) : Bool :=
  if value.isNaN then false
  else if value.isInfinite then value.negative
  else value.negative && !value.isZero

def aboveNat (bound : Nat) (value : Binary64) : Bool :=
  if value.isNaN then false
  else if value.isInfinite then !value.negative
  else
    let (negative, top, bottom) := value.toRatio
    !negative && top > bound * bottom

def natAtMost (bound : Nat) (value : Binary64) : Bool :=
  if value.isNaN then false
  else if value.isInfinite then !value.negative
  else
    let (negative, top, bottom) := value.toRatio
    if negative then bound = 0 && top = 0 else bound * bottom ≤ top

def acceptDecimal (name : String) (low high : Nat) : Option String → Except String Setting
  | none =>
    .error ("Float configuration property \"" ++ name ++ "\" cannot be set to empty value")
  | some text =>
    match readDouble text.toList with
    | none => .error (invalidValue name)
    | some value =>
      let below := if low = 0 then belowZero value else !natAtMost low value
      if below || aboveNat high value then
        .error (outsideRange name (shortG value) (shortG (Binary64.ofNat low))
          (shortG (Binary64.ofNat high)))
      else .ok (.decimal value)

def wordToken (isFlags : Bool) (piece : String) : String :=
  let trimmed := piece.toList.dropWhile isCBlank
  match isFlags, trimmed with
  | true, '+' :: rest => String.ofList rest
  | true, '-' :: rest => String.ofList rest
  | _, _ => String.ofList trimmed

def acceptWords (name : String) (options : List Word) (isFlags : Bool) :
    List String → Except String (Option String)
  | [] => .ok none
  | piece :: rest =>
    let token := wordToken isFlags piece
    if token.isEmpty then acceptWords name options isFlags rest
    else
      match options.find? (fun option => sameWord option.name token) with
      | none =>
        .error ("Invalid value \"" ++ token ++ "\" for configuration property \"" ++ name ++ "\"")
      | some option =>
        match option.refusal with
        | some reason =>
          .error ("Unsupported value \"" ++ token ++ "\" for configuration property \"" ++ name ++
            "\": " ++ reason)
        | none =>
          if isFlags then
            (acceptWords name options isFlags rest).map fun later => some (later.getD option.name)
          else .ok (some option.name)

/-- Reads a pattern list: the patterns between commas, all but an empty last one, must
compile. -/
def acceptPatterns (value : String) : Except String Unit :=
  let pieces := value.splitOn ","
  let pieces := if pieces.getLast? = some "" then pieces.dropLast else pieces
  match pieces.findSome? (fun piece => (patternError? piece).map (piece, ·)) with
  | some (piece, error) =>
    .error ("Failed to parse pattern \"" ++ piece ++ "\": " ++ error.text)
  | none => .ok ()

/-- Reads a value for a property: what to record, none when nothing changes. -/
def Property.accept (property : Property) (value : Option String) :
    Except String (Option Setting) :=
  let name := property.name
  match property.unsupported with
  | some reason =>
    .error ("Configuration property \"" ++ name ++ "\" not supported in this build: " ++ reason)
  | none =>
    match property.kind with
    | .text check => (acceptText name check value).map some
    | .boolean => (acceptBoolean name value).map some
    | .integer low high names => (acceptInteger name low high names value).map some
    | .decimal low high => (acceptDecimal name low high value).map some
    | .choice options =>
      match value with
      | none => .error ("Configuration property \"" ++ name ++ "\" cannot be set to empty value")
      | some text => (acceptWords name options false [text]).map (·.map Setting.word)
    | .flags options =>
      match value with
      | none => .error ("Configuration property \"" ++ name ++ "\" cannot be set to empty value")
      | some text => (acceptWords name options true (text.splitOn ",")).map (·.map fun _ => .flags)
    | .patterns =>
      match value with
      | none => .ok (some .patterns)
      | some text => (acceptPatterns text).map fun _ => some .patterns
    | .handle =>
      .error ("Property \"" ++ name ++ "\" must be set through dedicated .._set_..() function")
    | .internal => .error ("Internal property \"" ++ name ++ "\" not settable")
    | .refused reason => .error reason
    | .alias target => .error ("No such configuration property: \"" ++ target ++ "\"")

def LibraryConfig.set (config : LibraryConfig) (key text : String) :
    Except String LibraryConfig :=
  let value := if text.isEmpty then none else some text
  match resolve .client 4 key with
  | some property => do
    match ← property.accept value with
    | some setting => pure { config with client := record property.name setting config.client }
    | none => pure config
  | none =>
    let topic := config.topic.getD []
    let name := if key.startsWith "topic." then String.ofList (key.toList.drop 6) else key
    match resolve .topic 4 name with
    | some property => do
      match ← property.accept value with
      | some setting => pure { config with topic := some (record property.name setting topic) }
      | none => pure { config with topic := some topic }
    | none => .error ("No such configuration property: \"" ++ name ++ "\"")

def LibraryConfig.setting? (config : LibraryConfig) (level : Level) (name : String) :
    Option Setting :=
  let settings := match level with
    | .client => config.client
    | .topic => config.topic.getD []
  (settings.find? (·.1 = name)).map (·.2)

def LibraryConfig.modified (config : LibraryConfig) (level : Level) (name : String) : Bool :=
  (config.setting? level name).isSome

def LibraryConfig.integer (config : LibraryConfig) (level : Level) (name : String)
    (default : Int) : Int :=
  match config.setting? level name with
  | some (.integer value) => value
  | _ => default

def LibraryConfig.boolean (config : LibraryConfig) (level : Level) (name : String)
    (default : Bool) : Bool :=
  match config.setting? level name with
  | some (.boolean value) => value
  | _ => default

def LibraryConfig.text (config : LibraryConfig) (level : Level) (name : String)
    (default : Option String) : Option String :=
  match config.setting? level name with
  | some (.text (some value)) => some value
  | _ => default

def LibraryConfig.word (config : LibraryConfig) (level : Level) (name : String)
    (default : String) : String :=
  match config.setting? level name with
  | some (.word value) => value
  | _ => default

def LibraryConfig.decimal (config : LibraryConfig) (level : Level) (name : String)
    (default : Binary64) : Binary64 :=
  match config.setting? level name with
  | some (.decimal value) => value
  | _ => default

example :
    (({} : LibraryConfig).set "acks" "all").toOption.map
      (·.integer .topic "request.required.acks" 0) = some (-1) := by
  decide +kernel

end TopicLifecycle.ClientLibrary
