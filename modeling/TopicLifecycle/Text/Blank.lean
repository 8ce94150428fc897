/-!
Blank characters, the Unicode `White_Space` property, and trimming them.
-/

namespace TopicLifecycle.Text

/-- Code points with the Unicode `White_Space` property. -/
def isBlank (character : Char) : Bool :=
  let code := character.toNat
  (0x09 ≤ code && code ≤ 0x0D) || code == 0x20 || code == 0x85 || code == 0xA0 ||
    code == 0x1680 || (0x2000 ≤ code && code ≤ 0x200A) || code == 0x2028 ||
    code == 0x2029 || code == 0x202F || code == 0x205F || code == 0x3000

def trimBlankList (characters : List Char) : List Char :=
  ((characters.dropWhile isBlank).reverse.dropWhile isBlank).reverse

def trimBlank (text : String) : String :=
  String.ofList (trimBlankList text.toList)

example : isBlank '　' = true := by decide

example : isBlank '​' = false := by decide

end TopicLifecycle.Text
