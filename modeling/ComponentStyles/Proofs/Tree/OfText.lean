import ComponentStyles.Proofs.Text.Position
import ComponentStyles.Tree.OfText

/-!
# Modules that can be read

What is known of a module that has been read from a text: its tree is that of the script, its
functions fit the text (`exists_script_of_ofText`), and each of its comments stands in the text
(`exists_append_of_mem_comments`). A text with a fault is refused with the position of the fault
(`ofText_of_diagnosed`).
-/

namespace ComponentStyles

theorem Text.slice?_eq_some_iff {start stop : Nat} {t part : Text} :
    slice? start stop t = some part ↔
      ∃ front rest, t = front ++ part ++ rest ∧ byteLength front = start ∧
        byteLength (front ++ part) = stop := by
  rw [slice?]
  constructor
  · intro h
    split at h
    · obtain ⟨⟨front, tail⟩, hfront, htail⟩ := Option.bind_eq_some_iff.mp h
      obtain ⟨⟨part, rest⟩, hpart, rfl⟩ := Option.map_eq_some_iff.mp htail
      obtain ⟨rfl, hstart⟩ := splitAtByte?_eq_some_iff.mp hfront
      obtain ⟨rfl, hstop⟩ := splitAtByte?_eq_some_iff.mp hpart
      refine ⟨front, rest, (List.append_assoc ..).symm, hstart, ?_⟩
      rw [byteLength_append, hstart, hstop]
      omega
    · cases h
  · rintro ⟨front, rest, rfl, hstart, hstop⟩
    rw [byteLength_append, hstart] at hstop
    have hfront : splitAtByte? start (front ++ part ++ rest) = some (front, part ++ rest) :=
      splitAtByte?_eq_some_iff.mpr ⟨List.append_assoc .., hstart⟩
    have hpart : splitAtByte? (stop - start) (part ++ rest) = some (part, rest) :=
      splitAtByte?_eq_some_iff.mpr ⟨rfl, by omega⟩
    rw [if_pos (by omega), hfront, Option.bind_some]
    exact congrArg (Option.map _) hpart

namespace Module

variable {code : Text} {id : ModuleId} {m : Module} [Script.Reader]

theorem exists_script_of_ofText (hm : ofText code id = .ok m) :
    ∃ script, Script.Reader.read (dialect id) code = .ok script ∧ m.root = script.outline.toNode ∧
      m.comments = script.comments.filterMap (comment? code) ∧ fits code m.root = true := by
  have hfits := Script.Reader.outcomeFits_read (dialect id) code
  rw [ofText] at hm
  split at hm
  · split at hm <;> cases hm
  · cases hm
  · rename_i script hread
    rw [hread] at hfits
    obtain rfl := Except.ok.inj hm
    exact ⟨script, hread, rfl, rfl, hfits⟩

theorem ofText_of_diagnosed {l : Script.Located}
    (hread : Script.Reader.read (dialect id) code = .error (.diagnosed l)) :
    ofText code id = .error
      (.badSyntax id l.diagnostic (Text.positionOf code (min l.offset code.byteLength))) := by
  have hfits := Script.Reader.outcomeFits_read (dialect id) code
  rw [hread] at hfits
  rcases Text.position?_cases l.offset code rfl with ⟨hposition, _⟩ | ⟨_, hinside, _⟩
  · rw [ofText, hread]
    dsimp only
    rw [hposition]
  · exact absurd hfits (Bool.eq_false_iff.mp hinside)

theorem exists_append_of_mem_comments (hm : ofText code id = .ok m) {comment : Comment}
    (hcomment : comment ∈ m.comments) :
    ∃ front raw rest, code = front ++ raw ++ rest ∧
      Text.byteLength front = comment.span.start ∧
      Text.byteLength (front ++ raw) = comment.span.stop := by
  obtain ⟨script, _, _, hcomments, _⟩ := exists_script_of_ofText hm
  rw [hcomments] at hcomment
  obtain ⟨span, _, hspan⟩ := List.mem_filterMap.mp hcomment
  obtain ⟨raw, hraw, rfl⟩ := Option.map_eq_some_iff.mp hspan
  obtain ⟨front, rest, hparts⟩ := Text.slice?_eq_some_iff.mp hraw
  exact ⟨front, raw, rest, hparts⟩

theorem exists_of_ofText_any {test : Module → Bool}
    (h : (ofText code id).toOption.any test = true) :
    ∃ m, ofText code id = .ok m ∧ test m = true := by
  cases hm : ofText code id with
  | error _ => rw [hm] at h; cases h
  | ok m => rw [hm] at h; exact ⟨m, rfl, h⟩

end Module

end ComponentStyles
