/-!
# Blank characters

A character is blank when it has the property White_Space.  Trimming removes
blank characters from both ends of a text and keeps everything between the first
and the last character that is not blank.
-/

namespace CivicRegistry.Text

/-- The twenty-five characters that have the property White_Space. -/
def isBlank (c : Char) : Bool :=
  let n := c.toNat
  (0x9 ≤ n && n ≤ 0xD) || n == 0x20 || n == 0x85 || n == 0xA0 || n == 0x1680 ||
    (0x2000 ≤ n && n ≤ 0x200A) || n == 0x2028 || n == 0x2029 || n == 0x202F ||
      n == 0x205F || n == 0x3000

/-- The characters from the first one that is not blank. -/
def dropBlank (chars : List Char) : List Char :=
  chars.dropWhile isBlank

/-- The characters between the first and the last one that is not blank. -/
def trimmed (chars : List Char) : List Char :=
  (dropBlank (dropBlank chars).reverse).reverse

/-- The text without the blank characters at either end. -/
def trim (text : String) : String :=
  String.ofList (trimmed text.toList)

@[simp]
theorem toList_trim (text : String) :
    (trim text).toList = trimmed text.toList := by
  simp [trim]

end CivicRegistry.Text
