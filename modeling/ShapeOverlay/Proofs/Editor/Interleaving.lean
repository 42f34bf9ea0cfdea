import ShapeOverlay.Proofs.Editor.Consistency
import ShapeOverlay.Proofs.Editor.Gesture
import ShapeOverlay.Proofs.Editor.ListOperation
import ShapeOverlay.Proofs.Editor.Painting

/-! # Gestures and changes of the list

A host may change the list between the events of a gesture. An operation on the list leaves all that
a drawing session depends on alone, and so it does with an editing session if it spares the shape
that is edited, but for attributes that it writes on the shape. So an editor that receives
such operations between the events of a gesture follows one that receives the events alone
(`SameSession.run`, `Follows.run`), and both answer each event alike (`gestures_undisturbed`). -/

namespace ShapeOverlay.Editor

variable {e a b : Editor} {request : Request}

/-! ### Two editors in one session -/

/-- The same session and cursor, and the same of all else that answers to events depend on, the list
apart. -/
structure SameSession (a b : Editor) : Prop where
  session : a.session = b.session
  cursor : a.cursor = b.cursor
  theme : a.theme = b.theme
  ids : a.ids = b.ids
  viewport : a.foreground.viewport = b.foreground.viewport

theorem viewport_handle (e : Editor) (event : Event) :
    (e.handle event).1.foreground.viewport = e.foreground.viewport := by
  have hne : ∀ v, Request.event event ≠ .resize v := fun v hv => by cases hv
  exact viewport_perform_of_ne hne

theorem SameSession.listOperation (h : SameSession a b) (hr : request.isListOperation = true)
    (hbusy : { a.toScene with store := (a.perform request).1.store }.Busy) :
    SameSession (a.perform request).1 b := by
  obtain ⟨-, hkeeps⟩ := perform_listOperation (e := a) hr
  obtain ⟨highlighted, hscene⟩ := hkeeps hbusy
  have hne : ∀ v, request ≠ .resize v := by
    rintro v rfl
    cases hr
  constructor
  · rw [hscene]
    exact h.session
  · rw [hscene]
    exact h.cursor
  · rw [hscene]
    exact h.theme
  · rw [hscene]
    exact h.ids
  · rw [viewport_perform_of_ne hne, h.viewport]

/-- What holds after an event only if it did before, held before all events. -/
theorem of_run_events {P : Scene → Prop}
    (hP : ∀ s u : Scene, GoesOn s.session u.session → P u → P s) :
    ∀ {e : Editor} {requests : List Request}, (∀ r ∈ requests, r.isEvent = true) →
      P (e.run requests).1.toScene → P e.toScene
  | _, [], _, h => h
  | e, request :: rest, hevents, h => by
    obtain ⟨event, rfl⟩ := Request.eq_event (hevents request List.mem_cons_self)
    have hrest : ∀ r ∈ rest, r.isEvent = true := fun r hr => hevents r (List.mem_cons_of_mem _ hr)
    have hnext : P (e.perform (.event event)).1.toScene := of_run_events hP hrest h
    exact hP _ _ (goesOn_handle e event) hnext

/-! ### A shape is drawn -/

theorem SameSession.outcome_drawing (h : SameSession a b) (hmode : b.mode = .draw)
    (event : Event) : ∃ x, outcome (a.handle event) = drawn a.toScene x ∧
      outcome (b.handle event) = drawn b.toScene x := by
  obtain ⟨d, hd⟩ := drawing_of_mode hmode
  refine ⟨d.respond b.foreground.viewport b.ids.next event, ?_, outcome_handle_drawing hd event⟩
  rw [outcome_handle_drawing (h.session.trans hd), h.viewport, h.ids]

theorem SameSession.handle_drawing (h : SameSession a b) (hmode : b.mode = .draw)
    (event : Event) : SameSession (a.handle event).1 (b.handle event).1 := by
  obtain ⟨x, ha, hb⟩ := h.outcome_drawing hmode event
  obtain ⟨halike, hids⟩ := drawn_alike h.cursor h.ids x
  have htheme : (drawn a.toScene x).1.theme = (drawn b.toScene x).1.theme := by
    rw [theme_drawn, theme_drawn, h.theme]
  rw [← ha, ← hb] at halike hids htheme
  refine ⟨halike.session, halike.cursor, htheme, hids, ?_⟩
  rw [viewport_handle, viewport_handle, h.viewport]

/-- **Operations on the list between the events of a drawing leave the draft alone.** -/
theorem SameSession.run : ∀ {a b : Editor} {requests : List Request}, SameSession a b →
    (∀ r ∈ requests, r.isEvent = true ∨ r.isListOperation = true) →
    (b.run (requests.filter Request.isEvent)).1.mode = .draw →
    SameSession (a.run requests).1 (b.run (requests.filter Request.isEvent)).1
  | _, _, [], h, _, _ => h
  | a, b, request :: rest, h, hrequests, hmode => by
    have hb : b.mode = .draw :=
      of_run_events (P := fun s => s.mode = .draw) (fun _ _ hgo hu => hgo.mode hu)
        (fun r hr => (List.mem_filter.mp hr).2) hmode
    have hrest : ∀ r ∈ rest, r.isEvent = true ∨ r.isListOperation = true :=
      fun r hr => hrequests r (List.mem_cons_of_mem _ hr)
    rcases hrequests request List.mem_cons_self with hevent | hlist
    · rw [List.filter_cons_of_pos hevent] at hmode ⊢
      obtain ⟨event, rfl⟩ := Request.eq_event hevent
      have hrun := SameSession.run (h.handle_drawing hb event) hrest hmode
      exact hrun
    · rw [List.filter_cons_of_neg (Request.not_isEvent hlist)] at hmode ⊢
      obtain ⟨d, hd⟩ := drawing_of_mode hb
      have hbusy : { a.toScene with store := (a.perform request).1.store }.Busy := by
        have ha : a.session = .drawing d := h.session.trans hd
        simp only [Scene.Busy, ha]
      have hrun := SameSession.run (h.listOperation hlist hbusy) hrest hmode
      exact hrun

/-! ### A shape is edited -/

/-- **Two editors edit one shape**, which has had attributes written in the first. -/
structure Follows (id : Identifier) (writes : List (String × Value)) (a b : Editor) : Prop where
  same : SameSession a b
  editing : b.editing? = some id
  distinct : a.store.DistinctIds
  target : ∃ i j shape, a.activeShape? id = some (i, shape.restyled writes) ∧
    b.activeShape? id = some (j, shape)

theorem Follows.outcome_handle {id : Identifier} {writes : List (String × Value)} {i j : Nat}
    {shape : Shape Float} (h : Follows id writes a b)
    (ha : a.activeShape? id = some (i, shape.restyled writes))
    (hb : b.activeShape? id = some (j, shape)) (event : Event) :
    ∃ x, outcome (a.handle event) = edited a.toScene i (shape.restyled writes) x ∧
      outcome (b.handle event) = edited b.toScene j shape x := by
  obtain ⟨t, ht, rfl⟩ := editing_of_editing? h.editing
  have hat : a.editTarget? = some (i, shape.restyled writes) := by
    rw [Scene.editTarget?, Scene.editing?, h.same.session, ht, Option.bind_some, ha]
  have hbt : b.editTarget? = some (j, shape) := by
    rw [Scene.editTarget?, Scene.editing?, ht, Option.bind_some, hb]
  refine ⟨_, ?_, outcome_handle_editing ht hbt event⟩
  rw [outcome_handle_editing (h.same.session.trans ht) hat, Shape.geometry_restyled,
    h.same.viewport, h.same.theme, h.same.cursor]

theorem Follows.handle {id : Identifier} {writes : List (String × Value)}
    (h : Follows id writes a b) {event : Event}
    (hgoes : (outcome (b.handle event)).1.editing? = some id) :
    Follows id writes (a.handle event).1 (b.handle event).1 := by
  obtain ⟨i, j, shape, ha, hb⟩ := h.target
  obtain ⟨x, hax, hbx⟩ := h.outcome_handle ha hb event
  have halike := edited_alike h.same.cursor ha hb x
  have hscene : (a.handle event).1.toScene = (edited a.toScene i (shape.restyled writes) x).1 :=
    congrArg Prod.fst hax
  have hscene' : (b.handle event).1.toScene = (edited b.toScene j shape x).1 :=
    congrArg Prod.fst hbx
  have htheme : (edited a.toScene i (shape.restyled writes) x).1.theme =
      (edited b.toScene j shape x).1.theme := by
    cases x <;> exact h.same.theme
  have hids : (edited a.toScene i (shape.restyled writes) x).1.ids =
      (edited b.toScene j shape x).1.ids := by
    cases x <;> exact h.same.ids
  constructor
  · constructor
    · rw [hscene, hscene', halike.session]
    · rw [hscene, hscene', halike.cursor]
    · rw [hscene, hscene', htheme]
    · rw [hscene, hscene', hids]
    · rw [viewport_handle, viewport_handle, h.same.viewport]
  · exact hgoes
  · obtain ⟨-, hshape, -⟩ := Scene.activeShape?_eq_some_iff.mp ha
    rw [hscene, Store.DistinctIds, map_id_edited hshape]
    exact h.distinct
  · refine ⟨i, j, { shape with geometry := x.elim shape.geometry (·.geometry) }, ?_, ?_⟩
    · rw [hscene, activeShape?_edited ha x, Shape.geometry_restyled,
        Shape.restyled_geometry (x.elim shape.geometry (·.geometry))]
    · rw [hscene', activeShape?_edited hb x]

/-- The identities of the list are distinct, and the shape with one of them is active. -/
structure Keeps (s : Store Float) (id : Identifier) : Prop where
  distinct : s.DistinctIds
  active : ∃ shape ∈ s.shapes, shape.id = id ∧ shape.isActive = true

instance (s : Store Float) (id : Identifier) : Decidable (Keeps s id) :=
  decidable_of_iff (s.DistinctIds ∧ ∃ shape ∈ s.shapes, shape.id = id ∧ shape.isActive = true)
    ⟨fun h => ⟨h.1, h.2⟩, fun h => ⟨h.distinct, h.active⟩⟩

theorem Follows.listOperation {id : Identifier} {writes : List (String × Value)}
    (h : Follows id writes a b) (hr : request.isListOperation = true)
    (hkeeps : Keeps (a.perform request).1.store id) :
    ∃ done, done.Sublist request.writes ∧
      Follows id (writes ++ done) (a.perform request).1 b := by
  obtain ⟨i, j, shape, ha, hb⟩ := h.target
  obtain ⟨-, hshape, hactive⟩ := Scene.activeShape?_eq_some_iff.mp ha
  obtain ⟨after, hmem, hid, hstays⟩ := hkeeps.active
  have hsame : (shape.restyled writes).id = after.id := (Scene.id_of_activeShape? ha).trans hid.symm
  obtain ⟨hedit, -⟩ := perform_listOperation (e := a) hr
  obtain ⟨done, hdone, hafter⟩ := hedit.restyled h.distinct hkeeps.distinct
    (Store.mem_of_get? hshape) hmem hsame hactive hstays
  obtain ⟨k, hk⟩ := Store.exists_get?_of_mem hmem
  have hfound : (a.perform request).1.activeShape? id = some (k, after) := by
    rw [← hid]
    exact Scene.activeShape?_of_get? hkeeps.distinct hk hstays
  have hbusy : { a.toScene with store := (a.perform request).1.store }.Busy := by
    obtain ⟨t, ht, rfl⟩ := editing_of_editing? h.editing
    have hat : a.session = .editing t := h.same.session.trans ht
    simp only [Scene.Busy, hat]
    exact Option.isSome_iff_exists.mpr ⟨_, hfound⟩
  refine ⟨done, hdone, h.same.listOperation hr hbusy, h.editing, hkeeps.distinct, k, j, shape,
    ?_, hb⟩
  rw [hfound, hafter, Shape.restyled_append]

/-- **Operations on the list between the events of an editing session that spare the shape leave its
geometry alone**, and all else that the session depends on. -/
theorem Follows.run {id : Identifier} : ∀ {a b : Editor} {writes : List (String × Value)}
    {requests : List Request}, Follows id writes a b →
    (∀ r ∈ requests, r.isEvent = true ∨ r.isListOperation = true) →
    (∀ k r, requests[k]? = some r → r.isListOperation = true →
      Keeps (a.run (requests.take (k + 1))).1.store id) →
    (b.run (requests.filter Request.isEvent)).1.editing? = some id →
    ∃ done, done.Sublist (requests.flatMap Request.writes) ∧
      Follows id (writes ++ done) (a.run requests).1
        (b.run (requests.filter Request.isEvent)).1
  | _, _, writes, [], h, _, _, _ => ⟨[], .refl _, by rwa [List.append_nil]⟩
  | a, b, writes, request :: rest, h, hrequests, hkeeps, hlast => by
    have hrest : ∀ r ∈ rest, r.isEvent = true ∨ r.isListOperation = true :=
      fun r hr => hrequests r (List.mem_cons_of_mem _ hr)
    have hkeepsRest : ∀ k r, rest[k]? = some r → r.isListOperation = true →
        Keeps ((a.perform request).1.run (rest.take (k + 1))).1.store id :=
      fun k r hk hr => hkeeps (k + 1) r hk hr
    rcases hrequests request List.mem_cons_self with hevent | hlist
    · rw [List.filter_cons_of_pos hevent] at hlast ⊢
      obtain ⟨event, rfl⟩ := Request.eq_event hevent
      have hgoes : (b.handle event).1.editing? = some id :=
        of_run_events (P := fun s => s.editing? = some id) (fun _ _ hgo hu => hgo.editing? hu)
          (fun r hr => (List.mem_filter.mp hr).2) hlast
      obtain ⟨done, hdone, hrun⟩ := Follows.run (h.handle hgoes) hrest hkeepsRest hlast
      exact ⟨done, hdone, hrun⟩
    · rw [List.filter_cons_of_neg (Request.not_isEvent hlist)] at hlast ⊢
      obtain ⟨first, hfirst, hnext⟩ := h.listOperation hlist (hkeeps 0 request rfl hlist)
      obtain ⟨done, hdone, hrun⟩ := Follows.run hnext hrest hkeepsRest hlast
      refine ⟨first ++ done, ?_, ?_⟩
      · rw [List.flatMap_cons]
        exact hfirst.append hdone
      · rw [← List.append_assoc]
        exact hrun

/-! ### Interleaved runs -/

/-- **One event reaches the same edit in two editors.** In the first, the shape has had attributes
written and may stand in another place. -/
structure SameEdit (id : Identifier) (i j : Nat) (shape : Shape Float)
    (done : List (String × Value)) (a b : Editor) (event : Event) : Prop where
  first : a.activeShape? id = some (i, shape.restyled done)
  second : b.activeShape? id = some (j, shape)
  session : a.session = b.session
  cursor : a.cursor = b.cursor
  answers : AnswersAlike i (·.restyled done) (outcome (a.handle event)) (outcome (b.handle event))
  geometry : ∃ g,
    (a.handle event).1.activeShape? id = some (i, { shape.restyled done with geometry := g }) ∧
    (b.handle event).1.activeShape? id = some (j, { shape with geometry := g })

theorem Follows.sameEdit {id : Identifier} {writes : List (String × Value)} {i j : Nat}
    {shape : Shape Float} (h : Follows id writes a b)
    (ha : a.activeShape? id = some (i, shape.restyled writes))
    (hb : b.activeShape? id = some (j, shape)) (event : Event) :
    SameEdit id i j shape writes a b event := by
  obtain ⟨x, hax, hbx⟩ := h.outcome_handle ha hb event
  refine ⟨ha, hb, h.same.session, h.same.cursor, ?_, x.elim shape.geometry (·.geometry), ?_, ?_⟩
  · rw [hax, hbx]
    exact edited_alike h.same.cursor ha hb x
  · have hafter := activeShape?_edited ha x
    rw [← hax, Shape.geometry_restyled] at hafter
    exact hafter
  · have hafter := activeShape?_edited hb x
    rw [← hbx] at hafter
    exact hafter

/-- **One event reaches the same drawing in two editors.** The shape that it finishes is put in at the
end of the list. -/
structure SameDraft (a b : Editor) (event : Event) : Prop where
  session : a.session = b.session
  cursor : a.cursor = b.cursor
  answers : AnswersAlike a.store.size id (outcome (a.handle event)) (outcome (b.handle event))
  finished : ∀ i shape, .created i shape ∈ (a.handle event).2 →
    (a.handle event).1.store.shapes = a.store.shapes ++ [shape]

theorem SameSession.sameDraft (h : SameSession a b) (hmode : b.mode = .draw) (event : Event) :
    SameDraft a b event := by
  obtain ⟨x, ha, hb⟩ := h.outcome_drawing hmode event
  refine ⟨h.session, h.cursor, ?_, fun i shape hcreated => ?_⟩
  · rw [ha, hb]
    exact (drawn_alike h.cursor h.ids x).1
  · have hactions : (a.handle event).2 = (drawn a.toScene x).2 := congrArg Prod.snd ha
    have hscene : (a.handle event).1.toScene = (drawn a.toScene x).1 := congrArg Prod.fst ha
    rw [hactions] at hcreated
    rw [hscene]
    exact shapes_drawn_of_created hcreated

/-- An editor follows itself from the first event of an editing session on. -/
theorem follows_self {id : Identifier} (h : e.Consistent) (hdistinct : e.store.DistinctIds)
    (hid : e.editing? = some id) : Follows id [] e e := by
  have hsession := h.session
  obtain ⟨t, ht, rfl⟩ := editing_of_editing? hid
  rw [ht] at hsession
  obtain ⟨⟨i, shape⟩, hi⟩ := hsession hdistinct
  exact ⟨⟨rfl, rfl, rfl, rfl, rfl⟩, hid, hdistinct, i, i, shape, hi, hi⟩

/-- **Gestures are not disturbed by operations on the list between their events.** In every state
that can be reached, compare a run of events and operations on the list with that of the events
alone.

* While a shape is edited, if identities are distinct and every operation keeps them so and the shape
  in the list and active, the next event reaches the same edit: session, cursor and geometry are the
  same before and after it, and the actions are but for the place of the shape and for attributes
  that the operations wrote.
* While a shape is drawn, the next event reaches the same draft, and a shape that it finishes is the
  same but for its place. -/
theorem gestures_undisturbed (background foreground : Surface Float) (theme : Theme)
    (ids : IdSupply) (before requests : List Request) (event : Event)
    (hrequests : ∀ r ∈ requests, r.isEvent = true ∨ r.isListOperation = true) :
    let e := ((start background foreground theme ids).run before).1
    let a := (e.run requests).1
    let b := (e.run (requests.filter Request.isEvent)).1
    (∀ id, b.editing? = some id → e.store.DistinctIds →
      (∀ k r, requests[k]? = some r → r.isListOperation = true →
        Keeps (e.run (requests.take (k + 1))).1.store id) →
      ∃ i j shape done, done.Sublist (requests.flatMap Request.writes) ∧
        SameEdit id i j shape done a b event) ∧
    (b.mode = .draw → SameDraft a b event) := by
  intro e a b
  have hconsistent : e.Consistent := consistent_run background foreground theme ids before
  have hevents : ∀ r ∈ requests.filter Request.isEvent, r.isEvent = true :=
    fun r hr => (List.mem_filter.mp hr).2
  constructor
  · intro id hid hdistinct hkeeps
    have hfirst : e.editing? = some id :=
      of_run_events (P := fun s => s.editing? = some id) (fun _ _ hgo hu => hgo.editing? hu)
        hevents hid
    obtain ⟨done, hdone, hrun⟩ :=
      (follows_self hconsistent hdistinct hfirst).run hrequests hkeeps hid
    obtain ⟨i, j, shape, ha, hb⟩ := hrun.target
    exact ⟨i, j, shape, done, hdone, hrun.sameEdit ha hb event⟩
  · intro hmode
    have hsame : SameSession e e := ⟨rfl, rfl, rfl, rfl, rfl⟩
    exact (hsame.run hrequests hmode).sameDraft hmode event

/-- In the middle of a drag the shape before the one that is edited is taken out, and the one that is
edited gets another color; while a rectangle is drawn a shape is put in. -/
theorem drag_undisturbed_by_delete :
    let surface : Surface Float := { viewport := ⟨100, 100⟩ }
    let ids : IdSupply := { source := fun _ => .nil }
    let before : List Request :=
      [.addShapes [{ id := ⟨1⟩, geometry := .rectangle ⟨0, 0⟩ ⟨1, 1⟩ },
          { id := ⟨2⟩, geometry := .rectangle ⟨0.25, 0.25⟩ ⟨0.5, 0.5⟩ }],
        .setMode (.edit (.index 1))]
    let requests : List Request := [.event (.down ⟨30, 30⟩ .primary), .delete (.index 0),
      .setAttribute "lineColor" (.ofString "red") .all]
    let drawing : List Request := [.setMode (.draw { kind := .rectangle })]
    let added : List Request := [.event (.down ⟨30, 30⟩ .primary),
      .addShape { id := ⟨1⟩, geometry := .rectangle ⟨0, 0⟩ ⟨1, 1⟩ }]
    ((∀ r ∈ requests, r.isEvent = true ∨ r.isListOperation = true) ∧
    (((start surface surface {} ids).run before).1.run
      (requests.filter Request.isEvent)).1.editing? = some ⟨2⟩ ∧
    ((start surface surface {} ids).run before).1.store.DistinctIds ∧
    (∀ k r, requests[k]? = some r → r.isListOperation = true → Keeps
      (((start surface surface {} ids).run before).1.run (requests.take (k + 1))).1.store ⟨2⟩) ∧
    ∃ i j shape done, done.Sublist (requests.flatMap Request.writes) ∧
      SameEdit ⟨2⟩ i j shape done (((start surface surface {} ids).run before).1.run requests).1
        (((start surface surface {} ids).run before).1.run (requests.filter Request.isEvent)).1
        (.move ⟨50, 50⟩)) ∧
    (∀ r ∈ added, r.isEvent = true ∨ r.isListOperation = true) ∧
    (((start surface surface {} ids).run drawing).1.run
      (added.filter Request.isEvent)).1.mode = .draw ∧
    SameDraft (((start surface surface {} ids).run drawing).1.run added).1
      (((start surface surface {} ids).run drawing).1.run (added.filter Request.isEvent)).1
      (.up ⟨50, 50⟩ .primary) := by
  intro surface ids before requests drawing added
  have hrequests : ∀ r ∈ requests, r.isEvent = true ∨ r.isListOperation = true := by decide
  have hid : (((start surface surface {} ids).run before).1.run
      (requests.filter Request.isEvent)).1.editing? = some ⟨2⟩ := by decide +kernel
  have hdistinct : ((start surface surface {} ids).run before).1.store.DistinctIds := by
    decide +kernel
  have hkeeps : ∀ k r, requests[k]? = some r → r.isListOperation = true → Keeps
      (((start surface surface {} ids).run before).1.run (requests.take (k + 1))).1.store ⟨2⟩ := by
    rintro (_ | _ | _ | k) r hr hlist
    · cases hr
      cases hlist
    · decide +kernel
    · decide +kernel
    · cases hr
  have hadded : ∀ r ∈ added, r.isEvent = true ∨ r.isListOperation = true := by decide
  have hmode : (((start surface surface {} ids).run drawing).1.run
      (added.filter Request.isEvent)).1.mode = .draw := by decide +kernel
  have hedit := gestures_undisturbed surface surface {} ids before requests (.move ⟨50, 50⟩)
    hrequests
  have hdraft := gestures_undisturbed surface surface {} ids drawing added (.up ⟨50, 50⟩ .primary)
    hadded
  exact ⟨⟨hrequests, hid, hdistinct, hkeeps, hedit.1 ⟨2⟩ hid hdistinct hkeeps⟩, hadded, hmode,
    hdraft.2 hmode⟩

end ShapeOverlay.Editor
