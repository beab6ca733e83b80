import ComponentStyles.Proofs.Build.Styles

/-!
# Modules that a build leaves alone

A build is to touch root modules and the blocks of components, and no other module. It decides by
markers such as `lang.css`, which are meant to end the query of a block but are looked for in the
whole id. `untouched_iff`: a module that is no root is left alone exactly if no component imports it
or no marker of a known language stands in its id, be it in the query or in the path. So a plain file
named `lang.css` or `lang.ts` is taken for a block once a component imports it
(`exists_plain_file_touched`).

Proof. Markers are found where they stand (`ModuleId.hasLang_iff`). A module of a component is left
alone only if it is neither a script nor a style: a script is given back as a text, even if nothing
is changed in it, and a style is emptied (`Sound.transform_eq_unchanged_iff`).
-/

namespace ComponentStyles

/-! ### Markers -/

namespace ModuleId

def marker (lang : Text) : Text :=
  "lang.".toList ++ lang

/-- The marker of a language stands in an id, at its end or before an `&`. -/
def Marked (lang : Text) (id : ModuleId) : Prop :=
  marker lang <:+ id ∨ marker lang ++ ['&'] <:+: id

instance (lang : Text) (id : ModuleId) : Decidable (Marked lang id) :=
  inferInstanceAs (Decidable (_ ∨ _))

theorem startsWithMarker_iff {m t : Text} :
    startsWithMarker m t = true ↔ t = m ∨ m ++ ['&'] <+: t := by
  rw [startsWithMarker, Bool.and_eq_true, List.isPrefixOf_iff_prefix]
  constructor
  · rintro ⟨⟨rest, rfl⟩, hend⟩
    rw [List.drop_left] at hend
    cases rest with
    | nil => exact Or.inl (List.append_nil m)
    | cons c rest =>
      obtain rfl : c = '&' := of_decide_eq_true hend
      exact Or.inr ⟨rest, by rw [List.append_assoc, List.singleton_append]⟩
  · rintro (rfl | ⟨rest, rfl⟩)
    · refine ⟨List.prefix_refl t, ?_⟩
      rw [List.drop_length]
    · rw [List.append_assoc]
      refine ⟨List.prefix_append _ _, ?_⟩
      rw [List.drop_left]
      rfl

theorem hasLang_iff {langs : List Text} {id : ModuleId} :
    hasLang langs id = true ↔ ∃ lang ∈ langs, Marked lang id := by
  simp only [hasLang, Text.anyTail_eq_true_iff, List.any_eq_true, startsWithMarker_iff]
  constructor
  · rintro ⟨front, tail, rfl, lang, hlang, rfl | ⟨rest, rfl⟩⟩
    · exact ⟨lang, hlang, Or.inl ⟨front, rfl⟩⟩
    · exact ⟨lang, hlang, Or.inr ⟨front, rest, List.append_assoc ..⟩⟩
  · rintro ⟨lang, hlang, ⟨front, rfl⟩ | ⟨front, rest, rfl⟩⟩
    · exact ⟨front, marker lang, rfl, lang, hlang, Or.inl rfl⟩
    · exact ⟨front, _, List.append_assoc .., lang, hlang, Or.inr ⟨rest, rfl⟩⟩

theorem hasLang_eq_false_iff {langs : List Text} {id : ModuleId} :
    hasLang langs id = false ↔ ∀ lang ∈ langs, ¬ Marked lang id := by
  rw [← Bool.not_eq_true, hasLang_iff]
  simp

end ModuleId

namespace Build

variable {b : Build} {draw : Draw} {code : Text} {id : ModuleId}

/-! ### What is left alone -/

section

variable [Script.Reader]

theorem Sound.transform_eq_unchanged_iff (h : Sound b)
    (hroot : ModuleId.isComponent b.settings id = false) :
    b.transform draw code id = (.ok none, b) ↔
      b.session.ownerOf id = none ∨
        ModuleId.isScript b.settings id = false ∧ ModuleId.isStyle b.settings id = false := by
  cases howner : b.session.ownerOf id with
  | none =>
    refine iff_of_true ?_ (Or.inl rfl)
    rw [transform_of_not_isComponent hroot, transformDependent, howner]
  | some c =>
    obtain ⟨known, _, htransform⟩ : ∃ known, _ ∧
        b.transform draw code id = processModule c.path known code id b :=
      h.transform_of_ownerOf hroot howner
    have hget := (h.of_ownerOf howner).1
    rw [htransform]
    cases hscript : ModuleId.isScript b.settings id with
    | true =>
      rw [processModule_script hscript hget]
      refine iff_of_false (fun heq => ?_) (by simp)
      have hanswer := (Prod.mk.inj heq).1
      cases hprocess : known.process b.session.routine c id code with
      | error fault => rw [hprocess] at hanswer; cases hanswer
      | ok out => rw [hprocess] at hanswer; cases hanswer
    | false =>
      cases hstyle : ModuleId.isStyle b.settings id with
      | true =>
        rw [processModule_style hscript hstyle hget]
        refine iff_of_false (fun heq => ?_) (by simp)
        cases (Prod.mk.inj heq).1
      | false =>
        exact iff_of_true (processModule_other hscript hstyle) (Or.inr ⟨rfl, rfl⟩)

/-- A module that is no root module is left alone, whatever its text, exactly if no component that
has been recognised imports it, or no marker of a language of scripts or styles stands in its id.
This holds of plain files and of blocks alike. -/
theorem untouched_iff {start : Draw} {settings : Settings} {shapes : ShapeSet} {started : Build}
    (hstart : withShapes start settings shapes = .ok started) (operations : List Operation)
    (hroot : ModuleId.isComponent settings id = false) :
    let b := started.run operations
    b.transform draw code id = (.ok none, b) ↔
      b.session.ownerOf id = none ∨
        ∀ lang ∈ settings.scriptLangs ++ settings.styleLangs, ¬ ModuleId.Marked lang id := by
  intro b
  have hstarted : Sound started := Sound.of_withShapes hstart
  have hsettings : b.settings = settings :=
    (settings_run operations started).trans (eq_of_withShapes hstart).1
  have hlangs : ModuleId.isScript settings id = false ∧ ModuleId.isStyle settings id = false ↔
      ∀ lang ∈ settings.scriptLangs ++ settings.styleLangs, ¬ ModuleId.Marked lang id := by
    rw [ModuleId.isScript, hroot, Bool.false_or, ModuleId.isStyle, ModuleId.hasLang_eq_false_iff,
      ModuleId.hasLang_eq_false_iff]
    simp only [List.mem_append, or_imp, forall_and]
  rw [(hstarted.run operations).transform_eq_unchanged_iff (hsettings ▸ hroot), hsettings, hlangs]

end

theorem untouched_iff_imported :
    let root := "import './langs.css'; function _sfc_render() \x7b\x7d".toList
    let operations : List Operation := [.transform (fun _ _ => 1) root "/A.vue".toList]
    let b := initial.run operations
    let id := "/langs.css".toList
    withShapes (fun _ _ => 0) {} (.stock ({} : Settings).markerComment) = .ok initial ∧
      ModuleId.isComponent {} id = false ∧ (b.session.ownerOf id).isSome = true ∧
      b.transform (fun _ _ => 2) "p \x7b\x7d".toList id = (.ok none, b) := by
  intro root operations b id
  have hroot : ModuleId.isComponent {} id = false := by decide
  have hplain : ∀ lang ∈ ({} : Settings).scriptLangs ++ ({} : Settings).styleLangs,
      ¬ ModuleId.Marked lang id := by decide +kernel
  exact ⟨withShapes_initial, hroot, by decide +kernel,
    (untouched_iff withShapes_initial operations hroot).mpr (Or.inr hplain)⟩

/-- With the settings that a build has by default, not every plain file is left alone: a style sheet
that a component imports under the name `lang.css` is swallowed as a style block. -/
theorem exists_plain_file_touched :
    let root := "import './lang.css'; function _sfc_render() \x7b\x7d".toList
    let operations : List Operation := [.transform (fun _ _ => 1) root "/A.vue".toList]
    let b := initial.run operations
    withShapes (fun _ _ => 0) {} (.stock ({} : Settings).markerComment) = .ok initial ∧
      ¬ ∀ draw code id, '?' ∉ id → ModuleId.isComponent {} id = false →
        b.transform draw code id = (.ok none, b) := by
  intro root operations b
  refine ⟨withShapes_initial, fun huntouched => ?_⟩
  have hnone := huntouched (fun _ _ => 2) "p \x7b\x7d".toList "/lang.css".toList (by decide)
    (by decide)
  have hempty : (b.transform (fun _ _ => 2) "p \x7b\x7d".toList "/lang.css".toList).1
      = .ok (some []) := by decide +kernel
  rw [hnone] at hempty
  cases hempty

end Build

end ComponentStyles
