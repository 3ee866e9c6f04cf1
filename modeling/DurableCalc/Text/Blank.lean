/-!
# Blanks and letter case

Lines are compared after removing the white space around them and folding the ASCII letters. White
space is the Unicode property `White_Space`; a zero width space or a byte order mark is not in it.
-/

namespace DurableCalc.Text

/-- Whether a character has the Unicode property `White_Space`. -/
def isBlank (c : Char) : Bool :=
  (0x9 ≤ c.val && c.val ≤ 0xd) || c.val == 0x20 || c.val == 0x85 || c.val == 0xa0 ||
    c.val == 0x1680 || (0x2000 ≤ c.val && c.val ≤ 0x200a) || c.val == 0x2028 || c.val == 0x2029 ||
    c.val == 0x202f || c.val == 0x205f || c.val == 0x3000

def trimChars (cs : List Char) : List Char :=
  ((cs.dropWhile isBlank).reverse.dropWhile isBlank).reverse

def trim (text : String) : String :=
  String.ofList (trimChars text.toList)

/-- A text with its ASCII letters in lower case and all else as it is. -/
def fold (text : String) : String :=
  String.ofList (text.toList.map Char.toLower)

@[simp] theorem toList_trim (text : String) : (trim text).toList = trimChars text.toList := by
  simp [trim]

@[simp] theorem toList_fold (text : String) :
    (fold text).toList = text.toList.map Char.toLower := by
  simp [fold]

end DurableCalc.Text
