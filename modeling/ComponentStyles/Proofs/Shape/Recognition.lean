import ComponentStyles.Proofs.Script.Tree
import ComponentStyles.Proofs.Tree.Attribute
import ComponentStyles.Proofs.Tree.OfText
import ComponentStyles.Proofs.Tree.Search
import ComponentStyles.Shape

/-!
# What shapes are recognised by

A shape is recognised by a search of the tree for a tag and the values of paths, which could be led
astray by anything that the walk reaches. `supports_iff`: it is not. A module has its render function
in it exactly if one of its statements declares a function with that name, directly or as what it
exports, and imports it exactly if one of its import declarations has a named import of `render` as
that name. What is nested deeper does not count, nor do imports of other kinds.

Proof. Only functions have an attribute `id.name`, whatever the tags of other nodes say, and only named
imports have both `imported.name` and `local.name`. Where these stand in the tree of a script is known
(`Outline.function_mem_preorder_iff`, `Outline.importPart_mem_preorder_iff`).
-/

namespace ComponentStyles

theorem Json.agrees_string_iff {v : Json} {text : String} :
    v.agrees (.string text) = true ↔ v = .string text := by
  cases v <;> simp [agrees]

namespace Shape

variable {n : Node} {code : Text} {id : ModuleId} {m : Module}

theorem satisfies_attributeIs_iff {path value : String} :
    n.satisfies (attributeIs path value) = true ↔
      (AttributePath.ofString path).resolve n = some (.string value) := by
  rw [Node.satisfies_iff]
  constructor
  · rintro ⟨v, hv, hagrees⟩
    rw [show v = .string value from Json.agrees_string_iff.mp hagrees] at hv
    exact hv
  · intro h
    exact ⟨_, h, Json.agrees_string_iff.mpr rfl⟩

/-! ### Paths to names -/

theorem resolve_id_name_iff {name : String} :
    (AttributePath.ofString "id.name").resolve n = some (.string name) ↔
      ∃ (f : Script.FunctionPart) (id : Name), n = f.toNode ∧ f.id = some id ∧ id.text = name := by
  have hpath : AttributePath.ofString "id.name" = ⟨["id", "name"]⟩ := by decide
  rw [hpath, AttributePath.resolve_pair]
  constructor
  · intro h
    cases n with
    | functionDeclaration span id body isAsync isGenerator =>
      cases id with
      | none => cases h
      | some id =>
        refine ⟨⟨span, some id, body, isAsync, isGenerator⟩, id, rfl, rfl, ?_⟩
        exact Json.string.inj (Option.some.inj h)
    | _ => cases h
  · rintro ⟨⟨span, _, body, isAsync, isGenerator⟩, id, rfl, rfl, rfl⟩
    rfl

theorem resolve_specifier_iff {imported bound : String} :
    (AttributePath.ofString "imported.name").resolve n = some (.string imported) ∧
        (AttributePath.ofString "local.name").resolve n = some (.string bound) ↔
      ∃ (span : Span) (a b : Name), n = Script.ImportPart.toNode (.namedImport span a b) ∧
        a.text = imported ∧ b.text = bound := by
  have himported : AttributePath.ofString "imported.name" = ⟨["imported", "name"]⟩ := by decide
  have hbound : AttributePath.ofString "local.name" = ⟨["local", "name"]⟩ := by decide
  rw [himported, hbound, AttributePath.resolve_pair, AttributePath.resolve_pair]
  constructor
  · rintro ⟨h, hlocal⟩
    cases n with
    | importSpecifier span a b =>
      exact ⟨span, a, b, rfl, Json.string.inj (Option.some.inj h),
        Json.string.inj (Option.some.inj hlocal)⟩
    | _ => cases h
  · rintro ⟨span, a, b, rfl, rfl, rfl⟩
    exact ⟨rfl, rfl⟩

/-! ### Modules -/

theorem supports_inlineRender_iff {o : Script.Outline} (hroot : m.root = o.toNode) :
    inlineRender.supports m = true ↔
      ∃ s ∈ o.statements, ∃ f id, s.function? = some f ∧ f.id = some id ∧ id.text = renderName := by
  rw [supports, functionsNamed, Node.not_isEmpty_search_iff, hroot]
  constructor
  · rintro ⟨n, hn, _, hname⟩
    rw [List.forall_mem_singleton, satisfies_attributeIs_iff, resolve_id_name_iff] at hname
    obtain ⟨f, id, rfl, hid, htext⟩ := hname
    obtain ⟨s, hs, hf⟩ := Script.Outline.function_mem_preorder_iff.mp hn
    exact ⟨s, hs, f, id, hf, hid, htext⟩
  · rintro ⟨s, hs, f, id, hf, hid, htext⟩
    refine ⟨f.toNode, Script.Outline.function_mem_preorder_iff.mpr ⟨s, hs, hf⟩, rfl, ?_⟩
    rw [List.forall_mem_singleton, satisfies_attributeIs_iff, resolve_id_name_iff]
    exact ⟨f, id, rfl, hid, htext⟩

theorem supports_importedRender_iff {o : Script.Outline} (hroot : m.root = o.toNode) :
    importedRender.supports m = true ↔
      ∃ s ∈ o.statements, ∃ span imported bound, .namedImport span imported bound ∈ s.importParts ∧
        imported.text = exportedRenderName ∧ bound.text = renderName := by
  rw [supports, Node.not_isEmpty_search_iff, hroot]
  constructor
  · rintro ⟨n, hn, _, hnames⟩
    rw [List.forall_mem_cons, List.forall_mem_singleton, satisfies_attributeIs_iff,
      satisfies_attributeIs_iff, resolve_specifier_iff] at hnames
    obtain ⟨span, imported, bound, rfl, himported, hbound⟩ := hnames
    obtain ⟨s, hs, hpart⟩ := Script.Outline.importPart_mem_preorder_iff.mp hn
    exact ⟨s, hs, span, imported, bound, hpart, himported, hbound⟩
  · rintro ⟨s, hs, span, imported, bound, hpart, himported, hbound⟩
    refine ⟨_, Script.Outline.importPart_mem_preorder_iff.mpr ⟨s, hs, hpart⟩, rfl, ?_⟩
    rw [List.forall_mem_cons, List.forall_mem_singleton, satisfies_attributeIs_iff,
      satisfies_attributeIs_iff, resolve_specifier_iff]
    exact ⟨span, imported, bound, rfl, himported, hbound⟩

/-- The shape of a module that has been read is that of its statements: one of them declares or
exports the render function, with or without a body; one of them imports it by its name. -/
theorem supports_iff [Script.Reader] (hm : Module.ofText code id = .ok m) :
    ∃ script, Script.Reader.read (Module.dialect id) code = .ok script ∧
      (inlineRender.supports m = true ↔
        ∃ s ∈ script.outline.statements, ∃ f id,
          s.function? = some f ∧ f.id = some id ∧ id.text = renderName) ∧
      (importedRender.supports m = true ↔
        ∃ s ∈ script.outline.statements, ∃ span imported bound,
          .namedImport span imported bound ∈ s.importParts ∧
            imported.text = exportedRenderName ∧ bound.text = renderName) := by
  obtain ⟨script, hread, hroot, _⟩ := Module.exists_script_of_ofText hm
  exact ⟨script, hread, supports_inlineRender_iff hroot, supports_importedRender_iff hroot⟩

theorem supports_iff_exported :
    let code : Text :=
      "import _sfc_render from './r'; f([function _sfc_render() \x7b\x7d]);".toList ++
        "export default function _sfc_render() \x7b\x7d".toList
    let id : ModuleId := "/A.vue".toList
    ∃ m script, Module.ofText code id = .ok m ∧
      Script.Reader.read (Module.dialect id) code = .ok script ∧
      (∃ s ∈ script.outline.statements, ∃ f id,
        s.function? = some f ∧ f.id = some id ∧ id.text = renderName) ∧
      importedRender.supports m = false := by
  intro code id
  have hread : (Module.ofText code id).toOption.any (fun m =>
      inlineRender.supports m && !importedRender.supports m) = true := by decide +kernel
  obtain ⟨m, hm, htest⟩ := Module.exists_of_ofText_any hread
  rw [Bool.and_eq_true, Bool.not_eq_true'] at htest
  obtain ⟨script, hscript, hinline, _⟩ := supports_iff hm
  exact ⟨m, script, hm, hscript, hinline.mp htest.1, htest.2⟩

end Shape

end ComponentStyles
