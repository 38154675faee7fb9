/-!
# Blank text

Which characters count as white space, and the two operations that depend on it: taking white
space off both ends of a text, and asking whether anything is left. White space is the Unicode
property `White_Space`, so it includes the no-break space and the ideographic space, and leaves
out the zero-width space and the byte order mark.
-/

set_option autoImplicit false

namespace FlowCanvas.Text

/-- Whether the character has the Unicode property `White_Space`. -/
def isBlankChar (c : Char) : Bool :=
  let code := c.toNat
  (0x9 ≤ code && code ≤ 0xD) || code == 0x20 || code == 0x85 || code == 0xA0 ||
    code == 0x1680 || (0x2000 ≤ code && code ≤ 0x200A) || code == 0x2028 || code == 0x2029 ||
    code == 0x202F || code == 0x205F || code == 0x3000

/-- The characters without the white space at their two ends. -/
def trimChars (cs : List Char) : List Char :=
  ((cs.dropWhile isBlankChar).reverse.dropWhile isBlankChar).reverse

/-- The text without the white space at its two ends. -/
def trim (s : String) : String :=
  String.ofList (trimChars s.toList)

/-- Whether the text is empty or white space throughout. -/
def isBlank (s : String) : Bool :=
  s.toList.all isBlankChar

end FlowCanvas.Text
