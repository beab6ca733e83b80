import ComponentStyles.Text.CharClass

/-!
# Quoted text

A text as a message shows it: between double quotes, with escapes for quotes, backslashes and all
characters that cannot be seen or would change the character before them.
-/

namespace ComponentStyles.Text

/-- Hexadecimal digits of a number, without leading zeros. -/
def hexDigits (n : Nat) : Text :=
  Nat.toDigits 16 n

/-- Whether a character is shown as it is. -/
def isVisible (c : Char) : Bool :=
  let n := c.toNat
  if n < 0x80 then 0x20 ≤ n && n ≠ 0x7F
  else !inRanges unprintableRanges n && !inRanges extendingRanges n

def quotedChar (c : Char) : Text :=
  if c = '"' then ['\\', '"']
  else if c = '\\' then ['\\', '\\']
  else if c = '\n' then ['\\', 'n']
  else if c = '\r' then ['\\', 'r']
  else if c = '\t' then ['\\', 't']
  else if c.toNat = 0 then ['\\', '0']
  else if isVisible c then [c]
  else '\\' :: 'u' :: '{' :: hexDigits c.toNat ++ ['}']

def quoted (t : Text) : Text :=
  '"' :: t.flatMap quotedChar ++ ['"']

end ComponentStyles.Text
