import ComponentStyles.Text.Basic
import ComponentStyles.Text.Category

/-!
# Character classes

Which characters are blank, which belong to a word, and which may start or continue a name in a
script. ASCII is decided by rule and everything else by the category tables.
-/

namespace ComponentStyles.Text

/-- White space: the blank characters of ASCII and the space separators and line breaks of
Unicode. -/
def isBlank (c : Char) : Bool :=
  let n := c.toNat
  (0x09 ≤ n && n ≤ 0x0D) || n == 0x20 || n == 0x85 || n == 0xA0 || n == 0x1680 ||
    (0x2000 ≤ n && n ≤ 0x200A) || n == 0x2028 || n == 0x2029 || n == 0x202F || n == 0x205F ||
    n == 0x3000

/-- A text without the blanks at its two ends. -/
def trim (t : Text) : Text :=
  ((t.dropWhile isBlank).reverse.dropWhile isBlank).reverse

/-- Letters that are symbols by category: circled and squared Latin letters. -/
def letterSymbolRanges : List (Nat × Nat) :=
  [(0x24B6, 0x24E9), (0x1F130, 0x1F149), (0x1F150, 0x1F169), (0x1F170, 0x1F189)]

/-- Word characters: letters, marks, decimal digits, connecting punctuation and the two joiners. -/
def isWordChar (c : Char) : Bool :=
  if c.toNat < 0x80 then c.isAlphanum || c == '_'
  else
    let n := c.toNat
    inRanges letterRanges n || inRanges markRanges n || inRanges digitRanges n ||
      inRanges connectorRanges n || inRanges letterSymbolRanges n ||
      inRanges enclosingMarkRanges n || n == 0x200C || n == 0x200D

/-- Characters that start a name without being letters by category. -/
def extraNameStartRanges : List (Nat × Nat) :=
  [(0x1885, 0x1886), (0x2118, 0x2118), (0x212E, 0x212E), (0x309B, 0x309C)]

/-- Characters that continue a name without being letters, marks, digits or connectors. -/
def extraNamePartRanges : List (Nat × Nat) :=
  [(0xB7, 0xB7), (0x387, 0x387), (0x1369, 0x1371), (0x19DA, 0x19DA), (0x200C, 0x200D),
    (0x30FB, 0x30FB), (0xFF65, 0xFF65)]

/-- Characters that may start a name in a script. -/
def isNameStart (c : Char) : Bool :=
  if c.toNat < 0x80 then c.isAlpha || c == '_' || c == '$'
  else
    let n := c.toNat
    (inRanges letterRanges n && n != 0x2E2F) || inRanges extraNameStartRanges n

/-- Characters that may continue a name in a script. -/
def isNamePart (c : Char) : Bool :=
  if c.toNat < 0x80 then c.isAlphanum || c == '_' || c == '$'
  else
    let n := c.toNat
    isNameStart c || inRanges markRanges n || inRanges digitRanges n ||
      inRanges connectorRanges n || inRanges extraNamePartRanges n

end ComponentStyles.Text
