import ComponentStyles.Proofs.Build.Order
import ComponentStyles.Proofs.Build.Root

/-!
# Transforms made twice

A host may ask for a module again, for instance when it watches files. If nothing has changed, the
answer is the same and the build stays as the first transform left it (`transform_again`): no id is
issued, no file and no style text is added, and the random choices of the second transform do not
matter.

Proof. A component that is told of its root module twice is told nothing new (`told_told`), and the
second time it is there already. A style block puts its text under the key that has it. No other
transform changes the build.
-/

namespace ComponentStyles

theorem Component.putText_putText (key text : Text) (entries : List (Text × Text)) :
    putText key text (putText key text entries) = putText key text entries := by
  induction entries with
  | nil => rw [putText, putText, if_pos rfl]
  | cons entry entries ih =>
    obtain ⟨k, t⟩ := entry
    by_cases hk : k = key
    · rw [putText, if_pos hk, putText, if_pos hk]
    · rw [putText, if_neg hk, putText, if_neg hk, ih]

theorem Component.recordStyle_recordStyle (settings : Settings) (id : ModuleId) (text : Text)
    (c : Component) :
    recordStyle settings id text (recordStyle settings id text c) = recordStyle settings id text c := by
  rw [recordStyle, recordStyle, putText_putText]

namespace Build

variable {b b' : Build} {draw : Draw} {code : Text} {id path : ModuleId} {answer : Option Text}

/-! ### Root modules -/

section

variable [Script.Reader]

theorem Sound.transform_root_again (h : Sound b)
    (hroot : ModuleId.isComponent b.settings id = true)
    (hok : b.transform draw code id = (.ok answer, b')) (again : Draw) :
    b'.transform again code id = (.ok answer, b') := by
  rcases transform_root_cases hroot draw code with ⟨fault, hfault⟩ | ⟨m, s, hm, hs, hanswer⟩
  · rw [hfault] at hok
    cases (Prod.mk.inj hok).1
  · obtain ⟨hreply, rfl⟩ := Prod.mk.inj (hanswer.symm.trans hok)
    obtain ⟨c, hc⟩ := h.exists_get?_told hs m
    have hget : (told id m s b).session.getOrCreate again id = (.ok c, (told id m s b).session) :=
      Session.getOrCreate_of_get? hc again
    have hagain := transform_of_getOrCreate (b := told id m s b) hroot hm hget
    rwa [told_told, hreply] at hagain

/-! ### Other modules -/

theorem Sound.transform_dependent_again (h : Sound b)
    (hroot : ModuleId.isComponent b.settings id = false)
    (hok : b.transform draw code id = (.ok answer, b')) (again : Draw) :
    b'.transform again code id = (.ok answer, b') := by
  cases hcapturer : b.capturer? id with
  | none =>
    have hsame : b' = b := by
      rw [← h.transform_dependent hroot hcapturer, hok]
    rw [hsame] at hok ⊢
    rw [← hok, transform_of_not_isComponent hroot, transform_of_not_isComponent hroot]
  | some path =>
    have hbare : b'.bare = b.bare := by
      rw [← bare_transformDependent code id b, ← transform_of_not_isComponent hroot draw code, hok]
    have hstill := (capturer?_of_bare_eq hbare id).trans hcapturer
    obtain ⟨hreply, rfl⟩ := Prod.mk.inj ((h.transform_of_capturer? hcapturer).symm.trans hok)
    have htwice : Component.recordStyle b.settings id code ∘ Component.recordStyle b.settings id code
        = Component.recordStyle b.settings id code := by
      funext c
      exact Component.recordStyle_recordStyle b.settings id code c
    rw [(h.capture path id code).transform_of_capturer? hstill, Session.update_update, htwice, hreply]

/-! ### All modules -/

/-- A transform that is made again right behind one that did not fail is answered as that one was,
and leaves the whole build as it is. -/
theorem transform_again {start : Draw} {settings : Settings} {shapes : ShapeSet} {started : Build}
    (hstart : withShapes start settings shapes = .ok started) (operations : List Operation)
    (hok : (started.run operations).transform draw code id = (.ok answer, b')) (again : Draw) :
    b'.transform again code id = (.ok answer, b') := by
  have hsound : Sound (started.run operations) := (Sound.of_withShapes hstart).run operations
  cases hroot : ModuleId.isComponent (started.run operations).settings id with
  | true => exact hsound.transform_root_again hroot hok again
  | false => exact hsound.transform_dependent_again hroot hok again

end

/-- A root module that imports one file under two names, and whose component has a style text by
then. The second transform draws other ids, and needs none. -/
theorem transform_again_root :
    let code := ("import \x7b render as _sfc_render \x7d from './A.vue?lang.js';" ++
      "import './A.vue?lang.css'; import './x/../A.vue?lang.css';").toList
    let operations : List Operation :=
      [.transform (fun _ _ => 1) code "/A.vue".toList,
        .transform (fun _ _ => 2) "p".toList "/A.vue?lang.css".toList]
    let b := ((initial.run operations).transform (fun _ _ => 3) code "/A.vue".toList).2
    withShapes (fun _ _ => 0) {} (.stock ({} : Settings).markerComment) = .ok initial ∧
      ((initial.run operations).transform (fun _ _ => 3) code "/A.vue".toList).1 = .ok (some code) ∧
      b.transform (fun _ _ => 4) code "/A.vue".toList = (.ok (some code), b) ∧
      b.session.components.map (fun c => (c.files, c.css))
        = [(["/A.vue?lang.js".toList, "/A.vue?lang.css".toList],
            [("/A.vue".toList, "p".toList)])] := by
  intro code operations b
  have hanswer : ((initial.run operations).transform (fun _ _ => 3) code "/A.vue".toList).1
      = .ok (some code) := by decide +kernel
  have hok := Prod.fst_eq_iff.mp hanswer
  exact ⟨withShapes_initial, hanswer, transform_again withShapes_initial operations hok _,
    by decide +kernel⟩

end Build

end ComponentStyles
