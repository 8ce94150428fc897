/-!
The syntax check of POSIX extended regular expressions that `regcomp` performs on the client
library's pattern lists, read as bytes in the C locale, with its messages.
-/

namespace TopicLifecycle.ClientLibrary

inductive PatternError where
  | invalidExpression
  | unmatchedBracket
  | unmatchedParenthesis
  | invalidRepetition
  | trailingBackslash
  | invalidBackReference
  | invalidRangeEnd
  | invalidClassName
  | invalidCollation
  | unmatchedBrace
  | invalidInterval
  | tooBig
deriving DecidableEq, Repr

def PatternError.text : PatternError → String
  | .invalidExpression => "Invalid regular expression"
  | .unmatchedBracket => "Unmatched [, [^, [:, [., or [="
  | .unmatchedParenthesis => "Unmatched ( or \\("
  | .invalidRepetition => "Invalid preceding regular expression"
  | .trailingBackslash => "Trailing backslash"
  | .invalidBackReference => "Invalid back reference"
  | .invalidRangeEnd => "Invalid range end"
  | .invalidClassName => "Invalid character class name"
  | .invalidCollation => "Invalid collation character"
  | .unmatchedBrace => "Unmatched \\\x7b"
  | .invalidInterval => "Invalid content of \\\x7b\\\x7d"
  | .tooBig => "Regular expression too big"

def repeatMax : Nat := 32767

def byteOf (character : Char) : Nat := character.toNat

def classNames : List String :=
  ["alnum", "cntrl", "lower", "space", "alpha", "digit", "print", "upper", "blank", "graph",
    "punct", "xdigit"]

inductive BracketElement where
  | byte (value : Nat)
  | collating (name : List Nat)
  | equivalence (name : List Nat)
  | named (name : List Nat)
deriving DecidableEq, Repr

/-- Reads the name of `[.` `.]`, `[=` `=]` or `[:` `:]` after its opening: up to the delimiter
followed by `]`, at most 31 bytes, the delimiter not the last byte of the pattern. -/
def readSymbol (delimiter : Nat) : Nat → List Nat → List Nat →
    Except PatternError (List Nat × List Nat)
  | _, _, [] => .error .unmatchedBracket
  | count, name, byte :: rest =>
    if count ≥ 32 then .error .unmatchedBracket
    else
      match rest with
      | [] => .error .unmatchedBracket
      | next :: after =>
        if byte = delimiter && next = byteOf ']' then .ok (name.reverse, after)
        else readSymbol delimiter (count + 1) (byte :: name) rest

/-- Reads one element of a bracket expression. `asCharacter` takes the byte as it is (a first
`]`, or a `-` before the closing bracket); a `-` that is neither first nor last is an invalid
range unless `acceptHyphen`. -/
def readElement (input : List Nat) (acceptHyphen asCharacter : Bool) :
    Except PatternError (BracketElement × List Nat) :=
  match input with
  | [] => .error .unmatchedBracket
  | byte :: rest =>
    if asCharacter then .ok (.byte byte, rest)
    else if byte = byteOf '[' then
      match rest with
      | kind :: afterKind =>
        if kind = byteOf '.' then
          (readSymbol kind 0 [] afterKind).map fun (name, after) => (.collating name, after)
        else if kind = byteOf '=' then
          (readSymbol kind 0 [] afterKind).map fun (name, after) => (.equivalence name, after)
        else if kind = byteOf ':' then
          (readSymbol kind 0 [] afterKind).map fun (name, after) => (.named name, after)
        else .ok (.byte byte, rest)
      | [] => .ok (.byte byte, rest)
    else if byte = byteOf '-' && !acceptHyphen then
      match rest with
      | next :: _ => if next = byteOf ']' then .ok (.byte byte, rest) else .error .invalidRangeEnd
      | [] => .error .invalidRangeEnd
    else .ok (.byte byte, rest)

def BracketElement.isClass : BracketElement → Bool
  | .equivalence _ | .named _ => true
  | _ => false

def checkSingle : BracketElement → Except PatternError Unit
  | .byte _ => .ok ()
  | .collating name | .equivalence name =>
    if name.length = 1 then .ok () else .error .invalidCollation
  | .named name =>
    if classNames.contains (String.ofList (name.map Char.ofNat)) then .ok ()
    else .error .invalidClassName

def BracketElement.rangeByte : BracketElement → Nat
  | .byte value => value
  | .collating name => name.headD 0
  | _ => 0

def checkRange (start finish : BracketElement) : Except PatternError Unit :=
  if start.isClass || finish.isClass then .error .invalidRangeEnd
  else
    let long : BracketElement → Bool
      | .collating name => name.length > 1
      | _ => false
    if long start || long finish then .error .invalidCollation
    else if start.rangeByte > finish.rangeByte then .error .invalidRangeEnd
    else .ok ()

/-- Reads the members of a bracket expression up to its closing bracket, returning what
follows it; `first` marks the first member. Every round reads at least one byte, so a round
per byte suffices. -/
def readBracketMembers : (rounds : Nat) → List Nat → Bool → Bool →
    Except PatternError (List Nat)
  | 0, _, _, _ => .error .unmatchedBracket
  | rounds + 1, input, first, asCharacter => do
    let (start, afterStart) ← readElement input first asCharacter
    let closeOrContinue (rest : List Nat) : Except PatternError (List Nat) :=
      match rest with
      | [] => .error .unmatchedBracket
      | byte :: after =>
        if byte = byteOf ']' then .ok after else readBracketMembers rounds rest false false
    if start.isClass then
      checkSingle start
      closeOrContinue afterStart
    else
      match afterStart with
      | [] => .error .unmatchedBracket
      | byte :: afterDash =>
        if byte = byteOf '-' then
          match afterDash with
          | [] => .error .unmatchedBracket
          | next :: _ =>
            if next = byteOf ']' then
              checkSingle start
              readBracketMembers rounds afterStart false true
            else
              let (finish, afterFinish) ← readElement afterDash true false
              checkRange start finish
              closeOrContinue afterFinish
        else
          checkSingle start
          closeOrContinue afterStart

def readBracket (input : List Nat) : Except PatternError (List Nat) :=
  let afterCaret := match input with
    | byte :: rest => if byte = byteOf '^' then rest else input
    | [] => input
  match afterCaret with
  | [] => .error .invalidExpression
  | byte :: _ => readBracketMembers (afterCaret.length + 1) afterCaret true (byte = byteOf ']')

inductive NumberEnd where
  | finish
  | close
  | comma
deriving DecidableEq, Repr

/-- Reads a number of an interval: none before any digit, `-2` for anything else than digits,
saturating above the largest count; stops at `}`, at a comma (escaped or not) or at the end. -/
def readCount : Int → List Nat → Int × NumberEnd × List Nat
  | _, [] => (-2, .finish, [])
  | count, byte :: rest =>
    if byte = byteOf '\\' then
      match rest with
      | [] => readCount (-2) []
      | escaped :: after =>
        if escaped = byteOf ',' then (count, .comma, after) else readCount (-2) after
    else if byte = byteOf '}' then (count, .close, rest)
    else if byte = byteOf ',' then (count, .comma, rest)
    else if byteOf '0' ≤ byte && byte ≤ byteOf '9' && count ≠ -2 then
      let digit : Int := byte - byteOf '0'
      readCount (if count = -1 then digit else min (repeatMax + 1) (count * 10 + digit)) rest
    else readCount (-2) rest

def readInterval (input : List Nat) : Except PatternError (List Nat) :=
  let (start, startEnd, afterStart) := readCount (-1) input
  let start? : Except PatternError Int :=
    if start = -1 then
      if startEnd = .comma then .ok 0 else .error .invalidInterval
    else .ok start
  match start? with
  | .error error => .error error
  | .ok start =>
    let (finish, finishEnd, afterFinish) :=
      if start = -2 then (-2, startEnd, afterStart)
      else if startEnd = .close then (start, startEnd, afterStart)
      else readCount (-1) afterStart
    if start = -2 || finish = -2 then
      .error (if finishEnd = .finish then .unmatchedBrace else .invalidInterval)
    else if (finish ≠ -1 && start > finish) || finishEnd ≠ .close then .error .invalidInterval
    else if (repeatMax : Int) < (if finish = -1 then start else finish) then .error .tooBig
    else .ok afterFinish

structure ScanState where
  canRepeat : Bool := false
  openGroups : List Nat := []
  closedGroups : List Nat := []
  groupCount : Nat := 0

/-- Checks the rest of a pattern. Every round reads at least one byte, so a round per byte
suffices. -/
def scanPattern : (rounds : Nat) → ScanState → List Nat → Except PatternError Unit
  | _, state, [] =>
    if state.openGroups.isEmpty then .ok () else .error .unmatchedParenthesis
  | 0, _, _ :: _ => .error .tooBig
  | rounds + 1, state, byte :: rest =>
    let atom (after : List Nat) := scanPattern rounds { state with canRepeat := true } after
    let anchor (after : List Nat) := scanPattern rounds { state with canRepeat := false } after
    if byte = byteOf '\\' then
      match rest with
      | [] => .error .trailingBackslash
      | escaped :: after =>
        if byteOf '1' ≤ escaped && escaped ≤ byteOf '9' then
          if state.closedGroups.contains (escaped - byteOf '1') then atom after
          else .error .invalidBackReference
        else if [byteOf '<', byteOf '>', byteOf 'b', byteOf 'B', byteOf '`',
            byteOf '\''].contains escaped then anchor after
        else atom after
    else if byte = byteOf '|' then anchor rest
    else if byte = byteOf '*' || byte = byteOf '+' || byte = byteOf '?' then
      if state.canRepeat then scanPattern rounds state rest else .error .invalidRepetition
    else if byte = byteOf '{' then
      if state.canRepeat then do
        let after ← readInterval rest
        scanPattern rounds state after
      else .error .invalidRepetition
    else if byte = byteOf '(' then
      scanPattern rounds
        { state with canRepeat := false, openGroups := state.groupCount :: state.openGroups,
                     groupCount := state.groupCount + 1 } rest
    else if byte = byteOf ')' then
      match state.openGroups with
      | group :: outer =>
        scanPattern rounds
          { state with canRepeat := true, openGroups := outer,
                       closedGroups := group :: state.closedGroups } rest
      | [] => atom rest
    else if byte = byteOf '[' then do
      let after ← readBracket rest
      atom after
    else if byte = byteOf '^' || byte = byteOf '$' then anchor rest
    else atom rest

/-- Checks a pattern the way `regcomp` with extended syntax does. -/
def checkPattern (pattern : String) : Except PatternError Unit :=
  let bytes := pattern.toUTF8.toList.map (·.toNat)
  scanPattern (bytes.length + 1) {} bytes

def patternError? (pattern : String) : Option PatternError :=
  match checkPattern pattern with
  | .ok () => none
  | .error error => some error

example : patternError? "[a" = some .unmatchedBracket := by decide +kernel

example : patternError? "^(orders|payments)\\.[a-z0-9_-]+$" = none := by
  decide +kernel

end TopicLifecycle.ClientLibrary
