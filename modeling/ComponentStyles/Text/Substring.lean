import ComponentStyles.Text.Basic

/-!
# Occurrences of one text in another

Occurrences are found from left to right and never overlap: the search goes on behind the
occurrence just found. The empty pattern occurs before every character and at the end.
-/

namespace ComponentStyles.Text

/-- Byte offsets of the occurrences of a pattern; `skip` characters are left of the occurrence
found last and `at` is the offset of the text at hand. -/
def occurrencesFrom (pattern : Text) : (skip offset : Nat) → Text → List Nat
  | 0, offset, [] => if pattern = [] then [offset] else []
  | _ + 1, _, [] => []
  | skip + 1, offset, c :: rest => occurrencesFrom pattern skip (offset + c.utf8Size) rest
  | 0, offset, c :: rest =>
    if pattern.isPrefixOf (c :: rest) then
      offset :: occurrencesFrom pattern (pattern.length - 1) (offset + c.utf8Size) rest
    else occurrencesFrom pattern 0 (offset + c.utf8Size) rest

/-- Byte offsets of the occurrences of a pattern, from left to right. -/
def occurrences (pattern t : Text) : List Nat :=
  occurrencesFrom pattern 0 0 t

/-- The byte offset of the first occurrence. -/
def offsetOf? (pattern t : Text) : Option Nat :=
  (occurrences pattern t).head?

def hasPart (pattern t : Text) : Bool :=
  (offsetOf? pattern t).isSome

/-- Replaces the occurrences of a pattern; `skip` characters are left of the occurrence replaced
last. -/
def replaceFrom (pattern new : Text) : (skip : Nat) → Text → Text
  | 0, [] => if pattern = [] then new else []
  | _ + 1, [] => []
  | skip + 1, _ :: rest => replaceFrom pattern new skip rest
  | 0, c :: rest =>
    if pattern.isPrefixOf (c :: rest) then
      if pattern = [] then new ++ c :: replaceFrom pattern new 0 rest
      else new ++ replaceFrom pattern new (pattern.length - 1) rest
    else c :: replaceFrom pattern new 0 rest

/-- The text with every occurrence of a pattern replaced. -/
def replaceAll (pattern new t : Text) : Text :=
  replaceFrom pattern new 0 t

end ComponentStyles.Text
