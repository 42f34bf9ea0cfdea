import Mathlib.Tactic.SplitIfs
import ShapeOverlay.Editor.Run
import ShapeOverlay.Proofs.Picture.Painting
import ShapeOverlay.Proofs.Store.Identity

/-! # What the parts of an editor leave alone

Switching the session, and bringing session and surfaces in line with a changed list, leave the list
alone; the former leaves the background alone too, and the latter paints it anew. A property that
each request keeps holds after every run (`run_keeps`), and one that requests of some kind keep
after every run of these (`run_induction`). -/

namespace ShapeOverlay.Editor

/-! ### The cursor -/

theorem fst_setCursor (e : Editor) (c : Cursor) : (e.setCursor c).1 = { e with cursor := c } := by
  unfold setCursor
  split_ifs with h
  · rw [← h]
  · rfl

@[simp] theorem store_setCursor (e : Editor) (c : Cursor) : (e.setCursor c).1.store = e.store := by
  rw [fst_setCursor]

@[simp] theorem session_setCursor (e : Editor) (c : Cursor) :
    (e.setCursor c).1.session = e.session := by
  rw [fst_setCursor]

@[simp] theorem background_setCursor (e : Editor) (c : Cursor) :
    (e.setCursor c).1.background = e.background := by
  rw [fst_setCursor]

@[simp] theorem foreground_setCursor (e : Editor) (c : Cursor) :
    (e.setCursor c).1.foreground = e.foreground := by
  rw [fst_setCursor]

@[simp] theorem foregroundPicture_setCursor (e : Editor) (c : Cursor) :
    (e.setCursor c).1.foregroundPicture = e.foregroundPicture := by
  rw [fst_setCursor]
  rfl

/-! ### Switching -/

@[simp] theorem store_switchTo (e : Editor) (next : Session) :
    (e.switchTo next).1.store = e.store := by
  simp [switchTo]

@[simp] theorem session_switchTo (e : Editor) (next : Session) :
    (e.switchTo next).1.session = next := by
  simp [switchTo]

@[simp] theorem background_switchTo (e : Editor) (next : Session) :
    (e.switchTo next).1.background = e.background := by
  simp [switchTo]

@[simp] theorem store_rest (e : Editor) : e.rest.1.store = e.store := store_switchTo e _

@[simp] theorem background_rest (e : Editor) : e.rest.1.background = e.background :=
  background_switchTo e _

/-! ### Changes of the list -/

/-- **What becomes of a session when the list has changed**: it is kept or switched, and until the
foreground is painted the list and the surfaces are those from before. -/
theorem adjustSession_cases (e : Editor) : ∃ e₁ : Editor, e₁.store = e.store ∧
    e₁.background = e.background ∧ e₁.foreground = e.foreground ∧
    (e.adjustSession = e₁.paintForeground ∨ ∃ next, e.adjustSession = (e₁.switchTo next).1) := by
  unfold adjustSession
  split
  · split_ifs
    · exact ⟨e, rfl, rfl, rfl, Or.inl rfl⟩
    · exact ⟨e, rfl, rfl, rfl, Or.inr ⟨_, rfl⟩⟩
  · next d _ =>
    split_ifs
    · exact ⟨e, rfl, rfl, rfl, Or.inr ⟨_, rfl⟩⟩
    · exact ⟨{ e with session := .detection d.reset }, rfl, rfl, rfl, Or.inl rfl⟩
  · exact ⟨e, rfl, rfl, rfl, Or.inl rfl⟩
  · split_ifs
    · exact ⟨e, rfl, rfl, rfl, Or.inl rfl⟩
    · exact ⟨e.note .targetLost, rfl, rfl, rfl, Or.inr ⟨_, rfl⟩⟩

@[simp] theorem store_adjustSession (e : Editor) : e.adjustSession.store = e.store := by
  obtain ⟨e₁, hs, -, -, h | ⟨next, h⟩⟩ := adjustSession_cases e
  · rw [h, toScene_paintForeground, hs]
  · rw [h, store_switchTo, hs]

@[simp] theorem background_adjustSession (e : Editor) :
    e.adjustSession.background = e.background := by
  obtain ⟨e₁, -, hb, -, h | ⟨next, h⟩⟩ := adjustSession_cases e
  · rw [h, background_paintForeground, hb]
  · rw [h, background_switchTo, hb]

@[simp] theorem store_afterListChange (e : Editor) : e.afterListChange.store = e.store := by
  simp [afterListChange, dropLostHighlight]

@[simp] theorem background_afterListChange (e : Editor) :
    e.afterListChange.background = (e.background.repaint e.backgroundPicture).1 := by
  simp [afterListChange, dropLostHighlight]

@[simp] theorem store_pushAll (e : Editor) (shapes : List (Shape Float)) :
    (e.pushAll shapes).1.store = (e.store.pushAll shapes).1 := rfl

/-! ### The shape that is edited -/

theorem get?_of_editTarget? {s : Scene} {i : Nat} {shape : Shape Float}
    (h : s.editTarget? = some (i, shape)) : s.store.get? i = some shape := by
  obtain ⟨id, -, hactive⟩ := Option.bind_eq_some_iff.mp h
  obtain ⟨-, hshape, -⟩ := Scene.activeShape?_eq_some_iff.mp hactive
  exact hshape

/-! ### Sizes -/

@[simp] theorem toScene_resizeBackground (e : Editor) (v : Viewport Float) :
    (e.resizeBackground v).toScene = e.toScene := by
  simp [resizeBackground]

@[simp] theorem toScene_resizeForeground (e : Editor) (v : Viewport Float) :
    (e.resizeForeground v).toScene = e.toScene := by
  simp [resizeForeground]

@[simp] theorem background_resizeBackground (e : Editor) (v : Viewport Float) :
    (e.resizeBackground v).background = (e.background.resize v).1 := by
  simp [resizeBackground]

@[simp] theorem background_resizeForeground (e : Editor) (v : Viewport Float) :
    (e.resizeForeground v).background = e.background := by
  simp [resizeForeground]

@[simp] theorem foreground_resizeBackground (e : Editor) (v : Viewport Float) :
    (e.resizeBackground v).foreground = e.foreground := by
  simp [resizeBackground]

@[simp] theorem foreground_resizeForeground (e : Editor) (v : Viewport Float) :
    (e.resizeForeground v).foreground = (e.foreground.resize v).1 := by
  simp [resizeForeground]

/-! ### Runs -/

theorem run_cons (e : Editor) (request : Request) (rest : List Request) :
    e.run (request :: rest) = (((e.perform request).1.run rest).1,
      (e.perform request).2 :: ((e.perform request).1.run rest).2) := rfl

theorem run_concat (e : Editor) (requests : List Request) (request : Request) :
    (e.run (requests ++ [request])).1 = ((e.run requests).1.perform request).1 := by
  induction requests generalizing e with
  | nil => rfl
  | cons first rest ih => exact ih (e.perform first).1

/-- **What each admitted request keeps holds after every run of such requests.** -/
theorem run_induction {P : Editor → Prop} {Q : Request → Prop}
    (hstep : ∀ e request, P e → Q request → P (e.perform request).1) :
    ∀ {e : Editor} {requests : List Request}, (∀ r ∈ requests, Q r) → P e → P (e.run requests).1
  | _, [], _, h => h
  | e, request :: rest, hQ, h => by
    have hrest : ∀ r ∈ rest, Q r := fun r hr => hQ r (List.mem_cons_of_mem request hr)
    have hrun := run_induction hstep hrest (hstep e request h (hQ request List.mem_cons_self))
    exact hrun

/-- **What every request keeps holds after every run.** -/
theorem run_keeps {P : Editor → Prop} (hstep : ∀ e request, P e → P (e.perform request).1)
    {e : Editor} (h : P e) (requests : List Request) : P (e.run requests).1 :=
  run_induction (Q := fun _ => True) (fun e request h _ => hstep e request h) (fun _ _ => trivial) h

end ShapeOverlay.Editor
