import ShapeOverlay.Proofs.Editor.Coherence
import ShapeOverlay.Proofs.Editor.Gesture
import ShapeOverlay.Proofs.Editor.Interruption

/-! # Editing and highlighting the shape at a place

A host names the shape to be edited or highlighted by its place. The editor keeps the identity of
this shape and looks it up whenever it is needed, and it finds the first shape that has the
identity. So the events work on the shape at the place (`WorksOn`) just when no shape before it has
the same identity (`Store.IsFirst`), and that stays so until a session begins or the list is changed
(`works_on_first`). -/

namespace ShapeOverlay

/-- The mover and the handles of a shape. -/
def handlesPicture (theme : Theme) (v : Viewport Float) (shape : Shape Float) :
    List (Primitive Float) :=
  (shape.geometry.overlay? v).elim [] (·.picture theme)

namespace Scene

variable {s : Scene} {i : Nat} {id : Identifier} {shape : Shape Float}

theorem editTarget?_of_editing? (h : s.editing? = some id) : s.editTarget? = s.activeShape? id := by
  rw [editTarget?, h, Option.bind_some]

theorem editing?_of_mode (h : s.mode = .edit) : ∃ id, s.editing? = some id := by
  unfold mode at h
  unfold editing?
  cases hs : s.session with
  | editing t => exact ⟨t.target, rfl⟩
  | idle | detection _ | drawing _ =>
    rw [hs] at h
    cases h

theorem mode_of_editing? (h : s.editing? = some id) : s.mode = .edit := by
  obtain ⟨t, ht, -⟩ := Editor.editing_of_editing? h
  rw [mode, ht]
  rfl

end Scene

namespace Editor

variable {e : Editor} {i : Nat} {shape : Shape Float}

/-! ### What the events work on -/

/-- **Every event works on the shape at a place.** The events are given this shape, its handles are
shown over the highlight on request, the host is told of no other shape, and no other is changed. -/
structure WorksOn (e : Editor) (i : Nat) : Prop where
  target : ∃ shape, e.editTarget? = some (i, shape)
  shown : ∃ shape, e.store.get? i = some shape ∧ List.Forall₂ Primitive.Alike
    (e.highlightPicture (e.highlighted.bind e.store.lookup) e.foreground.viewport ++
      handlesPicture e.theme e.foreground.viewport shape) e.foreground.primitives
  edited : ∀ event j shape, .edited j shape ∈ (e.handle event).2 →
    j = i ∧ (e.handle event).1.store.get? i = some shape
  finished : ∀ event j id, .finished j id ∈ (e.handle event).2 → j = i
  others : ∀ event j, j ≠ i → (e.handle event).1.store.get? j = e.store.get? j

theorem mem_edited {s : Scene} (hi : s.store.get? i = some shape) {x : Option Editing.Response}
    {j : Nat} {shape' : Shape Float} (h : .edited j shape' ∈ (edited s i shape x).2) :
    j = i ∧ (edited s i shape x).1.store.get? i = some shape' := by
  cases x with
  | none =>
    simp only [edited, List.mem_cons] at h
    rcases h with h | h | h
    · cases h
      exact ⟨rfl, hi⟩
    · cases h
    · cases Cursor.eq_of_mem_change h
  | some r =>
    rcases List.mem_append.mp h with h | h
    · split_ifs at h
      · cases List.mem_singleton.mp h
        refine ⟨rfl, ?_⟩
        simp only [edited, Store.get?_modify, hi, Option.map_some, if_true]
      · cases h
    · cases Cursor.eq_of_mem_change h

theorem mem_finished {s : Scene} {x : Option Editing.Response} {j : Nat} {id : Identifier}
    (h : .finished j id ∈ (edited s i shape x).2) : j = i := by
  cases x with
  | none =>
    simp only [edited, List.mem_cons] at h
    rcases h with h | h | h
    · cases h
    · cases h
      rfl
    · cases Cursor.eq_of_mem_change h
  | some r =>
    rcases List.mem_append.mp h with h | h
    · split_ifs at h
      · cases List.mem_singleton.mp h
      · cases h
    · cases Cursor.eq_of_mem_change h

theorem get?_edited_of_ne {s : Scene} (x : Option Editing.Response) {j : Nat} (h : j ≠ i) :
    (edited s i shape x).1.store.get? j = s.store.get? j := by
  cases x with
  | none => rfl
  | some r =>
    simp only [edited, Store.get?_modify, if_neg h.symm, Option.map_id_fun', id_eq]

/-- **The events work on the shape that they are given.** -/
theorem worksOn_of_editTarget? (h : ForegroundCoherent e) (hi : e.editTarget? = some (i, shape)) :
    WorksOn e i := by
  obtain ⟨id, hid, hshape⟩ := Option.bind_eq_some_iff.mp hi
  obtain ⟨t, ht, rfl⟩ := editing_of_editing? hid
  obtain ⟨hindex, hget, -⟩ := Scene.activeShape?_eq_some_iff.mp hshape
  have houtcome := outcome_handle_editing ht hi
  refine ⟨⟨shape, hi⟩, ⟨shape, hget, ?shown⟩, ?edited, ?finished, ?others⟩
  case shown =>
    have hlookup : e.store.lookup t.target = some shape := by
      rw [Store.lookup, hindex, Option.bind_some, hget]
    have hpicture := h.primitives (by rw [Scene.mode_of_editing? hid]; decide)
    simpa only [Scene.foregroundPicture, Scene.sessionPicture, ht, hlookup, Option.bind_some,
      handlesPicture] using hpicture
  case edited =>
    intro event j shape' hmem
    have hmem : .edited j shape' ∈ (outcome (e.handle event)).2 := hmem
    show _ ∧ (outcome (e.handle event)).1.store.get? i = some shape'
    rw [houtcome] at hmem ⊢
    exact mem_edited hget hmem
  case finished =>
    intro event j id hmem
    have hmem : .finished j id ∈ (outcome (e.handle event)).2 := hmem
    rw [houtcome] at hmem
    exact mem_finished hmem
  case others =>
    intro event j hj
    show (outcome (e.handle event)).1.store.get? j = _
    rw [houtcome]
    exact get?_edited_of_ne _ hj

theorem worksOn_iff (h : ForegroundCoherent e) :
    WorksOn e i ↔ e.editTarget?.map Prod.fst = some i := by
  constructor
  · intro hworks
    obtain ⟨shape, hi⟩ := hworks.target
    rw [hi]
    rfl
  · intro hi
    obtain ⟨⟨_, shape⟩, htarget, rfl⟩ := Option.map_eq_some_iff.mp hi
    exact worksOn_of_editTarget? h htarget

/-! ### How long they do so -/

/-- An event leaves the place alone that the events work on. -/
theorem place_handle {event : Event} {id : Identifier}
    (h : (outcome (e.handle event)).1.editing? = some id) :
    (outcome (e.handle event)).1.editTarget?.map Prod.fst = e.editTarget?.map Prod.fst := by
  have he : e.editing? = some id := (goesOn_handle e event).editing? h
  obtain ⟨t, ht, rfl⟩ := editing_of_editing? he
  cases handled e event with
  | idle hs _ | detection d hs _ | drawing d hs _ =>
    rw [ht] at hs
    cases hs
  | editing t' i shape hs hi hx =>
    have hshape : e.activeShape? t.target = some (i, shape) := by
      rw [← Scene.editTarget?_of_editing? he, hi]
    rw [Scene.editTarget?_of_editing? h, hx, activeShape?_edited hshape, hi]
    rfl
  | lost t' hs hi hx =>
    rcases hx with hx | hx
    · rw [hx] at h
      have hmode := Scene.mode_of_editing? h
      rcases Scene.mode_rested e.toScene with hidle | hdetect
      · rw [hidle] at hmode
        cases hmode
      · rw [hdetect] at hmode
        cases hmode
    · rw [hx]

/-- An operation that neither begins a session nor changes the list leaves the shape alone that is
edited. -/
theorem Operated.editTarget? {s s' : Scene} {request : Request} {reply : Reply}
    (h : Operated s request reply s') (hbegins : request.begins reply = false)
    (hedits : request.edits reply = false) :
    s'.editing? = s.editing? ∧ s'.editTarget? = s.editTarget? := by
  cases h with
  | begun t next begins fresh result =>
    rw [hbegins] at begins
    cases begins
  | edited store _ edits result =>
    rw [hedits] at edits
    cases edits
  | unhighlighted session operation result forgotten =>
    have hediting : s'.editing? = s.editing? := by
      rw [result]
      show Scene.editing? { s with highlighted := none, session } = s.editing?
      rw [forgotten]
      unfold Scene.editing?
      cases s.session <;> rfl
    refine ⟨hediting, ?_⟩
    rw [Scene.editTarget?, hediting, result]
    rfl
  | kept highlighted forgets result =>
    rw [result]
    exact ⟨rfl, rfl⟩

/-- One more request leaves the place alone that the events work on. -/
theorem place_perform {request : Request}
    (hbegins : request.begins (e.perform request).2 = false)
    (hedits : request.edits (e.perform request).2 = false)
    (hmode : (e.perform request).1.mode = .edit) :
    e.mode = .edit ∧
      (e.perform request).1.editTarget?.map Prod.fst = e.editTarget?.map Prod.fst := by
  obtain ⟨id, hid⟩ := Scene.editing?_of_mode hmode
  by_cases hevent : request.isEvent = true
  · obtain ⟨event, rfl⟩ := Request.eq_event hevent
    exact ⟨Scene.mode_of_editing? ((goesOn_handle e event).editing? hid), place_handle hid⟩
  · rw [Bool.not_eq_true] at hevent
    obtain ⟨hediting, htarget⟩ := (operated e hevent).editTarget? hbegins hedits
    rw [hediting] at hid
    exact ⟨Scene.mode_of_editing? hid, by rw [htarget]⟩

/-- In a log no session begins and the list is not changed by the host. -/
def Undisturbed (log : List (Request × Reply)) : Prop :=
  ∀ x ∈ log, x.1.begins x.2 = false ∧ x.1.edits x.2 = false

/-- Events of the pointer neither begin a session nor change the list for the host. -/
theorem undisturbed_events (e : Editor) (events : List Event) :
    Undisturbed (e.log (events.map .event)) := by
  rintro ⟨request, reply⟩ hmem
  obtain ⟨event, -, rfl⟩ := List.mem_map.mp (List.of_mem_zip hmem).1
  exact ⟨rfl, rfl⟩

theorem place_run : ∀ {e : Editor} {requests : List Request}, Undisturbed (e.log requests) →
    (e.run requests).1.mode = .edit → e.mode = .edit ∧
      (e.run requests).1.editTarget?.map Prod.fst = e.editTarget?.map Prod.fst
  | _, [], _, hmode => ⟨hmode, rfl⟩
  | e, request :: rest, hlog, hmode => by
    have hfirst := hlog (request, (e.perform request).2) List.mem_cons_self
    have hrest : Undisturbed ((e.perform request).1.log rest) :=
      fun x hx => hlog x (List.mem_cons_of_mem _ hx)
    obtain ⟨hmode', hplace⟩ := place_run hrest hmode
    obtain ⟨hbefore, hplace'⟩ := place_perform hfirst.1 hfirst.2 hmode'
    exact ⟨hbefore, hplace.trans hplace'⟩

/-! ### Operations on a place -/

/-- An active shape is looked up at its place if it is the first one with its identity. -/
theorem place_activeShape? {s : Scene} (hi : s.store.get? i = some shape)
    (hactive : shape.isActive = true) :
    (s.activeShape? shape.id).map Prod.fst = some i ↔ s.store.IsFirst i shape := by
  rw [Store.isFirst_iff hi]
  constructor
  · intro h
    obtain ⟨⟨_, first⟩, hfirst, rfl⟩ := Option.map_eq_some_iff.mp h
    exact (Scene.activeShape?_eq_some_iff.mp hfirst).1
  · intro h
    rw [Scene.activeShape?_eq_some_iff.mpr ⟨h, hi, hactive⟩]
    rfl

/-- When the shape at a place is to be edited, the events are given the first shape with its
identity. -/
theorem editTarget?_setMode (hi : e.store.get? i = some shape)
    (haccepted : (e.setMode (.edit (.index i))).2 = true) : shape.isActive = true ∧
      (e.setMode (.edit (.index i))).1.editTarget? = e.activeShape? shape.id := by
  have hscene := scene_of_outcome (outcome_setMode e (.edit (.index i)))
  have hreply := reply_of_outcome (outcome_setMode e (.edit (.index i)))
  have hresolve : e.resolve (.index i) = if shape.isActive then some shape.id else none := by
    simp only [resolve, hi, Option.bind_eq_bind, Option.bind_some]
  by_cases hactive : shape.isActive = true
  · rw [if_pos hactive] at hresolve
    simp only [hresolve] at hscene
    rw [hscene]
    exact ⟨hactive, rfl⟩
  · rw [if_neg hactive] at hresolve
    simp only [hresolve] at hreply
    rw [hreply] at haccepted
    cases haccepted

/-- A shape that is in the list is looked up as the first one with its identity. -/
theorem lookup_of_get? {s : Store Float} (hi : s.get? i = some shape) :
    ∃ first, s.lookup shape.id = some first ∧ (s.IsFirst i shape → first = shape) := by
  obtain ⟨j, hj⟩ := Option.isSome_iff_exists.mp
    (Store.isSome_indexOf?_iff.mpr ⟨shape, Store.mem_of_get? hi, rfl⟩)
  obtain ⟨first, hfirst, -⟩ := Store.get?_of_indexOf? hj
  refine ⟨first, by rw [Store.lookup, hj, Option.bind_some, hfirst], fun h => ?_⟩
  rw [(Store.isFirst_iff hi).mp h] at hj
  cases hj
  rw [hi] at hfirst
  exact (Option.some.inj hfirst).symm

/-- A highlight on request is shown below what the session shows. -/
theorem primitives_highlight (hfaultless : e.foreground.IsFaultless)
    (hi : e.store.get? i = some shape) : (e.highlight i).1.foreground.primitives =
      e.highlightPicture (e.store.lookup shape.id) e.foreground.viewport ++
        e.sessionPicture e.foreground.viewport := by
  simp only [highlight, hi, foreground_paintForeground, Surface.primitives_repaint hfaultless]
  rfl

/-! ### Runs -/

/-- **What operations on a place do.** If the shape there is edited, the events work on it just when
it is the first one with its identity, and that stays so until a session begins or the list is
changed. If it is highlighted, the highlight is that of the first shape with its identity. -/
theorem works_on_first (background foreground : Surface Float) (theme : Theme) (ids : IdSupply)
    (requests : List Request) (hblank : foreground.isBlank = true)
    (hfaultless : foreground.IsFaultless) (i : Nat) (shape : Shape Float)
    (hi : ((start background foreground theme ids).run requests).1.store.get? i = some shape) :
    let e := ((start background foreground theme ids).run requests).1
    let edit := e.setMode (.edit (.index i))
    let highlight := e.highlight i
    (edit.2 = true → ∀ later, Undisturbed (edit.1.log later) → (edit.1.run later).1.mode = .edit →
      (WorksOn (edit.1.run later).1 i ↔ e.store.IsFirst i shape)) ∧
    highlight.2 = true ∧ ∃ first, e.store.lookup shape.id = some first ∧
      (e.store.IsFirst i shape → first = shape) ∧ highlight.1.foreground.primitives =
        first.highlight e.theme e.foreground.viewport ++
          e.sessionPicture e.foreground.viewport := by
  intro e edit highlight
  have hcoherent : ForegroundCoherent e :=
    foregroundCoherent_run background theme ids requests hblank hfaultless
  constructor
  · intro haccepted later hlater hmode
    obtain ⟨hactive, htarget⟩ := editTarget?_setMode hi haccepted
    have hrun : ForegroundCoherent (edit.1.run later).1 :=
      (hcoherent.perform (.setMode (.edit (.index i)))).run later
    rw [worksOn_iff hrun, (place_run hlater hmode).2, htarget]
    exact place_activeShape? hi hactive
  · obtain ⟨first, hlookup, hfirst⟩ := lookup_of_get? hi
    refine ⟨?_, first, hlookup, hfirst, ?_⟩
    · have hreply := reply_of_outcome (outcome_highlight e i)
      rw [hi] at hreply
      exact hreply
    · rw [primitives_highlight hcoherent.faultless hi, hlookup]
      rfl

/-- An editor with two shapes. -/
def pair (first second : Identifier) : Editor :=
  ((start { viewport := ⟨100, 100⟩ } { viewport := ⟨100, 100⟩ } {} { source := fun _ => .nil }).run
    [.addShape { id := first, geometry := .rectangle ⟨0.125, 0.125⟩ ⟨0.25, 0.25⟩ },
      .addShape { id := second, geometry := .rectangle ⟨0.5, 0.5⟩ ⟨0.75, 0.75⟩ }]).1

/-- The second shape is dragged. -/
theorem works_on_dragged_shape :
    ({ viewport := ⟨100, 100⟩ } : Surface Float).isBlank = true ∧
      ({ viewport := ⟨100, 100⟩ } : Surface Float).IsFaultless ∧
      (pair ⟨1⟩ ⟨2⟩).store.get? 1 =
        some { id := ⟨2⟩, geometry := .rectangle ⟨0.5, 0.5⟩ ⟨0.75, 0.75⟩ } ∧
      WorksOn (((pair ⟨1⟩ ⟨2⟩).setMode (.edit (.index 1))).1.run
        [.event (.down ⟨62.5, 62.5⟩ .primary), .event (.move ⟨70, 70⟩)]).1 1 := by
  have hget : (pair ⟨1⟩ ⟨2⟩).store.get? 1 =
      some { id := ⟨2⟩, geometry := .rectangle ⟨0.5, 0.5⟩ ⟨0.75, 0.75⟩ } := rfl
  have hfirst := (Store.isFirst_iff hget).mpr (by decide +kernel)
  refine ⟨rfl, fun _ _ => rfl, hget, ?_⟩
  exact ((works_on_first _ _ _ _ _ rfl (fun _ _ => rfl) 1 _ hget).1 (by decide +kernel) _
    (undisturbed_events _ [.down ⟨62.5, 62.5⟩ .primary, .move ⟨70, 70⟩])
    (by decide +kernel)).mpr hfirst

/-- Two shapes have one identity, and the first one is dragged when the second is to be edited. -/
theorem first_twin_is_edited :
    ((pair ⟨1⟩ ⟨1⟩).setMode (.edit (.index 1))).2 = true ∧
      ¬ WorksOn ((pair ⟨1⟩ ⟨1⟩).setMode (.edit (.index 1))).1 1 ∧
      ((((pair ⟨1⟩ ⟨1⟩).setMode (.edit (.index 1))).1.run
        [.event (.down ⟨18.75, 18.75⟩ .primary)]).1.handle (.move ⟨25, 25⟩)).2
          matches [.edited 0 _] := by
  refine ⟨by decide +kernel, ?_, by decide +kernel⟩
  intro h
  obtain ⟨shape, htarget⟩ := h.target
  have hplace :
      ((pair ⟨1⟩ ⟨1⟩).setMode (.edit (.index 1))).1.editTarget?.map Prod.fst = some 0 := by
    decide +kernel
  rw [htarget] at hplace
  cases hplace

end Editor

end ShapeOverlay
