import ShapeOverlay.Proofs.Editor.Response

/-! # The actions tell a host how the list changes

A host keeps a copy of the list and changes it by nothing but the actions that events give back
(`replay`). After every event the copy is the list but for the signs of zeros (`mirrors_handle`), and
so it is after every sequence of events. Hence events in detection leave the list alone, an event
while a shape is drawn puts at most one shape in at the end, and an event while a shape is edited
writes nothing but the geometry of one shape (`changes_handle`). -/

namespace ShapeOverlay

/-! ### Copies of a list -/

/-- A copy of the list after an action; none if the action does not fit the copy. A shape that was
created has to stand behind all others, and one that was changed has to have a place. -/
def Action.apply (copy : List (Shape Float)) : Action → Option (List (Shape Float))
  | .created i shape => if i = copy.length then some (copy ++ [shape]) else none
  | .edited i shape => if i < copy.length then some (copy.set i shape) else none
  | .hovered _ _ | .selected _ _ | .finished _ _ | .cursor _ => some copy

namespace Editor

/-- **A copy of the list after several actions**, taken in order. -/
def replay (copy : List (Shape Float)) (actions : List Action) : Option (List (Shape Float)) :=
  actions.foldlM Action.apply copy

/-- The actions among replies, in order. -/
def actionsOf (replies : List Reply) : List Action :=
  replies.flatMap fun
    | .actions actions => actions
    | _ => []

variable {copy copy' : List (Shape Float)}

theorem replay_cons (action : Action) (actions : List Action) :
    replay copy (action :: actions) = (action.apply copy).bind fun c => replay c actions := rfl

theorem replay_append (xs ys : List Action) :
    replay copy (xs ++ ys) = (replay copy xs).bind fun c => replay c ys := by
  unfold replay
  rw [List.foldlM_append]
  rfl

theorem replay_change (c d : Cursor) : replay copy (c.change d) = some copy := by
  unfold Cursor.change
  split_ifs <;> rfl

theorem replay_hovered (s : Store Float) (found : Option Nat) :
    replay copy (hovered s found) = some copy := by
  unfold hovered
  cases found with
  | none => rfl
  | some i =>
    rw [Option.bind_some]
    cases s.get? i <;> rfl

theorem replay_selected (s : Store Float) (found : Option Nat) :
    replay copy (selected s found) = some copy := by
  unfold selected
  cases found with
  | none => rfl
  | some i =>
    rw [Option.bind_some]
    cases s.get? i <;> rfl

/-! ### One event -/

/-- The copy follows the list: the actions fit it, and it is the list afterwards. -/
def Mirrors (copy : List (Shape Float)) (x : Scene × List Action) : Prop :=
  ∃ copy', replay copy x.2 = some copy' ∧ List.Forall₂ Shape.Alike x.1.store.shapes copy'

variable {s : Scene}

theorem mirrors_detected (h : List.Forall₂ Shape.Alike s.store.shapes copy) (v : Viewport Float)
    (d : Detection) (event : Event) : Mirrors copy (detected s v d event) := by
  cases event with
  | move pixel =>
    refine ⟨copy, ?_, h⟩
    dsimp only [detected]
    rw [replay_append, replay_change, Option.bind_some, replay_hovered]
  | click pixel => exact ⟨copy, replay_selected _ _, h⟩
  | down _ _ | up _ _ | doubleClick _ => exact ⟨copy, rfl, h⟩

theorem mirrors_drawn (h : List.Forall₂ Shape.Alike s.store.shapes copy)
    (x : DrawingStep Float × Drawing Float) : Mirrors copy (drawn s x) := by
  cases drawn_cases s x with
  | goesOn d ids hy =>
    rw [hy]
    exact ⟨copy, rfl, h⟩
  | finished shape ids hy =>
    rw [hy]
    refine ⟨copy ++ [shape], ?_, List.rel_append h (.cons (.refl _) .nil)⟩
    have hsize : s.store.size = copy.length := h.length_eq
    rw [replay_cons, Action.apply, if_pos hsize, Option.bind_some, replay_change]

theorem mirrors_edited (h : List.Forall₂ Shape.Alike s.store.shapes copy) {i : Nat}
    {shape : Shape Float} (hi : s.store.get? i = some shape) {x : Option Editing.Response}
    (hx : ∀ r, x = some r → r.reported = false → r.geometry.Alike shape.geometry) :
    Mirrors copy (edited s i shape x) := by
  have hlt : i < copy.length := by
    rw [← h.length_eq]
    exact (List.getElem?_eq_some_iff.mp hi).1
  cases x with
  | none =>
    refine ⟨copy.set i shape, ?_, ?_⟩
    · rw [edited, replay_cons, Action.apply, if_pos hlt, Option.bind_some]
      exact replay_change _ _
    · have hset := forall₂_set (Shape.Alike.refl shape) i h
      rwa [Store.set_of_get? hi] at hset
  | some r =>
    dsimp only [edited]
    by_cases hr : r.reported = true
    · refine ⟨copy.set i { shape with geometry := r.geometry }, ?_, ?_⟩
      · rw [if_pos hr, List.singleton_append, replay_cons, Action.apply, if_pos hlt,
          Option.bind_some, replay_change]
      · rw [Store.modify, ← List.set_eq_modify]
        exact forall₂_set (Shape.Alike.refl _) i h
    · refine ⟨copy, ?_, ?_⟩
      · rw [if_neg hr, List.nil_append, replay_change]
      · have halike := hx r rfl (Bool.not_eq_true _ ▸ hr)
        have hmodify : (s.store.modify i fun _ => { shape with geometry := r.geometry }).Alike
            s.store := Store.Alike.modify hi ⟨halike, rfl⟩
        exact forall₂_trans (R := Shape.Alike) (fun _ _ _ => Shape.Alike.trans) hmodify h

/-- **The actions of an event tell a host all that it does to the list.** -/
theorem mirrors_handle {e : Editor} (h : List.Forall₂ Shape.Alike e.store.shapes copy)
    (event : Event) : Mirrors copy (outcome (e.handle event)) := by
  cases handled e event with
  | idle _ hx =>
    rw [hx]
    exact ⟨copy, rfl, h⟩
  | detection d _ hx =>
    rw [hx]
    exact mirrors_detected h _ d event
  | drawing d _ hx =>
    rw [hx]
    exact mirrors_drawn h _
  | editing t i shape _ hi hx =>
    rw [hx]
    exact mirrors_edited h (get?_of_editTarget? hi) fun r hr => Editing.alike_respond hr
  | lost t _ _ hx =>
    rcases hx with hx | hx <;> rw [hx]
    · exact ⟨copy, replay_change _ _, h⟩
    · exact ⟨copy, rfl, h⟩

/-! ### What an event may change -/

/-- **What may become of a list** by an event that arrives in a mode. -/
def Changes (before after : Store Float) : Mode → Prop
  | .idle | .detect => after = before
  | .draw => after = before ∨ ∃ shape, after.shapes = before.shapes ++ [shape]
  | .edit => after = before ∨
    ∃ i g, after = before.modify i fun shape => { shape with geometry := g }

theorem changes_drawn (s : Scene) (x : DrawingStep Float × Drawing Float) :
    Changes s.store (drawn s x).1.store .draw := by
  cases drawn_cases s x with
  | goesOn d ids hy =>
    rw [hy]
    exact Or.inl rfl
  | finished shape ids hy =>
    rw [hy]
    exact Or.inr ⟨shape, rfl⟩

theorem changes_edited {i : Nat} {shape : Shape Float} (hi : s.store.get? i = some shape)
    (x : Option Editing.Response) : Changes s.store (edited s i shape x).1.store .edit := by
  cases x with
  | none => exact Or.inl rfl
  | some r =>
    have hwrite := Store.modify_congr (f := fun t => { t with geometry := r.geometry }) hi
    exact Or.inr ⟨i, r.geometry, hwrite⟩

theorem changes_handle (e : Editor) (event : Event) :
    Changes e.store (outcome (e.handle event)).1.store e.mode := by
  rw [Scene.mode]
  cases handled e event with
  | idle hs hx =>
    rw [hx, hs]
    rfl
  | detection d hs hx =>
    rw [hx, hs]
    cases event <;> rfl
  | drawing d hs hx =>
    rw [hx, hs]
    exact changes_drawn _ _
  | editing t i shape hs hi hx =>
    rw [hx, hs]
    exact changes_edited (get?_of_editTarget? hi) _
  | lost t hs _ hx =>
    rw [hs]
    rcases hx with hx | hx <;> rw [hx] <;> exact Or.inl rfl

/-! ### Sequences of events -/

theorem actionsOf_run_cons (e : Editor) (event : Event) (events : List Event) :
    actionsOf (e.run ((event :: events).map .event)).2 = (outcome (e.handle event)).2 ++
      actionsOf ((e.handle event).1.run (events.map .event)).2 := rfl

theorem mirrors_run : ∀ {e : Editor} {copy : List (Shape Float)},
    List.Forall₂ Shape.Alike e.store.shapes copy → ∀ events : List Event,
    Mirrors copy ((e.run (events.map .event)).1.toScene,
      actionsOf (e.run (events.map .event)).2)
  | _, copy, h, [] => ⟨copy, rfl, h⟩
  | e, copy, h, event :: events => by
    obtain ⟨between, hreplay, hbetween⟩ := mirrors_handle h event
    obtain ⟨last, hreplays, hlast⟩ := mirrors_run hbetween events
    refine ⟨last, ?_, hlast⟩
    rw [actionsOf_run_cons, replay_append, hreplay, Option.bind_some]
    exact hreplays

/-- **A copy that follows the actions is the list after every sequence of events**, but for the signs
of zeros, in whatever state the editor receives them. The next event then changes the list only as
the mode allows. -/
theorem copy_follows_events (e : Editor) (copy : List (Shape Float))
    (h : List.Forall₂ Shape.Alike e.store.shapes copy) (events : List Event) :
    let after := e.run (events.map .event)
    (∃ copy', replay copy (actionsOf after.2) = some copy' ∧
      List.Forall₂ Shape.Alike after.1.store.shapes copy') ∧
    ∀ event, Changes after.1.store (after.1.handle event).1.store after.1.mode :=
  ⟨mirrors_run h events, changes_handle _⟩

/-- A rectangle is drawn, and put in at the end of the list and of its copy. -/
theorem copy_follows_drawn_rectangle :
    let e := ((start { viewport := ⟨100, 100⟩ } { viewport := ⟨100, 100⟩ } {}
      { source := fun _ => .nil }).run [.setMode (.draw { kind := .rectangle })]).1
    let after := e.run ([.down ⟨10, 10⟩ .primary, .move ⟨20, 20⟩, .up ⟨50, 50⟩ .primary].map .event)
    List.Forall₂ Shape.Alike e.store.shapes [] ∧
    (∃ copy', replay [] (actionsOf after.2) = some copy' ∧
      List.Forall₂ Shape.Alike after.1.store.shapes copy') ∧
    ∀ event, Changes after.1.store (after.1.handle event).1.store after.1.mode := by
  intro e after
  have hempty : List.Forall₂ Shape.Alike e.store.shapes [] := .nil
  exact ⟨hempty, copy_follows_events e [] hempty _⟩

end Editor

end ShapeOverlay
