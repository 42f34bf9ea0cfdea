import Mathlib.Data.List.Induction
import ShapeOverlay.Proofs.Scalar.Binary64
import ShapeOverlay.Proofs.Session.Drawing

/-! # Finishing a drawing

A release of a rectangle or a circle and a double click on a polygon bring the draft up to the
pointer (`Drawing.Finishing`) and then finish it if it has an extent. All other inputs ask for a
preview, or they are ignored and leave the session alone (`feed_cases`).

* What is finished is the draft, in the style that was asked for (`feed_eq_commit`).
* A circle under way has its centre where the pointer was first pressed and lies on the surface
  (`Drawing.Grown`, `grown_run`).

So every shape that is finished has an extent (`commit_is_draft_with_extent`). -/

namespace ShapeOverlay

variable {α : Type}

/-- The shape looks as the options ask, and nothing has been done with it yet. -/
structure Shape.IsFresh (s : Shape α) (options : DrawingOptions) : Prop where
  kind : s.geometry.kind = options.kind
  lineColor : s.lineColor = options.lineColor
  lineWidth : s.lineWidth = options.lineWidth
  status : s.status = .active
  props : s.props = .null

theorem DrawingStep.exists_of_isCommit {step : DrawingStep α} (h : step.isCommit = true) :
    ∃ shape, step = .commit shape := by
  cases step with
  | ignored | preview => cases h
  | commit shape => exact ⟨shape, rfl⟩

namespace Drawing

/-- The place where the input presses the pointer. -/
def Input.pressed? : Input α → Option (Point α)
  | down p => some p
  | move _ _ | up _ _ _ | doubleClick _ => none

/-- The input comes from a surface of this size, as far as it tells. -/
def Input.IsOn (v : Viewport α) : Input α → Prop
  | move _ w | up _ w _ => w = v
  | down _ | doubleClick _ => True

variable [Scalar α]

/-- The session after a sequence of inputs. -/
def run (options : DrawingOptions) (inputs : List (Input α)) : Drawing α :=
  inputs.foldl (fun d input => (d.feed input).2) (start options)

variable {options : DrawingOptions} {inputs : List (Input α)} {input : Input α}
variable {d d' : Drawing α} {shape : Shape α} {p : Point α} {v : Viewport α} {id : Identifier}

theorem run_concat :
    run options (inputs ++ [input]) = ((run options inputs).feed input).2 := List.foldl_append

/-! ### Drafts that can become shapes -/

/-- The draft of a session: it is of the kind that was asked for, and made of the points and the
radius. -/
inductive Drafted (d : Drawing α) : Geometry α → Prop
  | rectangle {a b : Point α} (kind : d.options.kind = .rectangle) (points : d.points = [a, b]) :
    Drafted d (.rectangle a b)
  | polygon {vertices : List (Point α)} (kind : d.options.kind = .polygon)
    (points : d.points = vertices) : Drafted d (.polygon vertices)
  | circle {c : Point α} {rest : List (Point α)} {r : Radius α} (kind : d.options.kind = .circle)
    (points : d.points = c :: rest) (radius : d.radius = r) : Drafted d (.circle c r)

omit [Scalar α] in
theorem drafted {g : Geometry α} (h : d.draft? = some g) : d.Drafted g := by
  unfold draft? at h
  cases hkind : d.options.kind with
  | rectangle =>
    rcases hpoints : d.points with _ | ⟨a, _ | ⟨b, _ | ⟨c, rest⟩⟩⟩ <;>
      simp only [hkind, hpoints] at h <;> cases h
    exact .rectangle hkind hpoints
  | polygon =>
    simp only [hkind] at h
    split_ifs at h
    cases h
    exact .polygon hkind rfl
  | circle =>
    rcases hpoints : d.points with _ | ⟨c, rest⟩ <;> simp only [hkind, hpoints] at h <;> cases h
    exact .circle hkind hpoints rfl

theorem isCommittable_rectangle {a b : Point α} (hkind : d.options.kind = .rectangle)
    (hpoints : d.points = [a, b]) : d.isCommittable = (a.x != b.x && a.y != b.y) := by
  simp only [isCommittable, hkind, hpoints]

theorem isCommittable_polygon (hkind : d.options.kind = .polygon) :
    d.isCommittable = decide (3 ≤ d.points.length) := by
  simp only [isCommittable, hkind]

theorem isCommittable_circle {c : Point α} {rest : List (Point α)}
    (hkind : d.options.kind = .circle) (hpoints : d.points = c :: rest) :
    d.isCommittable = !d.radius.isZero := by
  simp [isCommittable, hkind, hpoints]

/-- A draft with an extent is there, and it is of the kind that was asked for. -/
theorem exists_draft? (h : d.isCommittable = true) :
    ∃ g, d.draft? = some g ∧ g.kind = d.options.kind := by
  revert h
  unfold isCommittable draft?
  cases d.options.kind with
  | rectangle =>
    rcases d.points with _ | ⟨a, _ | ⟨b, _ | ⟨c, rest⟩⟩⟩ <;> intro h
    · cases h
    · cases h
    · exact ⟨_, rfl, rfl⟩
    · cases h
  | polygon =>
    intro h
    have hlen : 2 ≤ d.points.length := Nat.le_of_succ_le (of_decide_eq_true h)
    exact ⟨_, if_pos hlen, rfl⟩
  | circle =>
    rcases d.points with _ | ⟨c, rest⟩ <;> intro h
    · cases h
    · exact ⟨_, rfl, rfl⟩

theorem finish_of_isCommittable (h : d.isCommittable = true) (id : Identifier) :
    ∃ g, d.draft? = some g ∧ g.kind = d.options.kind ∧ d.finish id = .commit
      { id, geometry := g, lineColor := d.options.lineColor, lineWidth := d.options.lineWidth } := by
  obtain ⟨g, hdraft, hkind⟩ := exists_draft? h
  refine ⟨g, hdraft, hkind, ?_⟩
  rw [finish, if_pos h, hdraft]

theorem finish_eq_ignored_iff (d : Drawing α) (id : Identifier) :
    d.finish id = .ignored ↔ d.isCommittable = false := by
  cases h : d.isCommittable with
  | false => simp [finish, h]
  | true =>
    obtain ⟨g, -, -, hfinish⟩ := finish_of_isCommittable h id
    simp [hfinish]

theorem finish_eq_commit (h : d.finish id = .commit shape) : d.isCommittable = true ∧
    d.draft? = some shape.geometry ∧ shape.IsFresh d.options := by
  have hcommittable : d.isCommittable = true := by
    rw [← Bool.not_eq_false, ← d.finish_eq_ignored_iff id, h]
    nofun
  obtain ⟨g, hdraft, hkind, hfinish⟩ := finish_of_isCommittable hcommittable id
  rw [hfinish] at h
  cases h
  exact ⟨hcommittable, hdraft, hkind, rfl, rfl, rfl, rfl⟩

/-! ### All inputs -/

/-- **How an input finishes a drawing**: the identity for the shape, and the session with its draft
brought up to the pointer. -/
inductive Finishing (d : Drawing α) : Input α → Identifier → Drawing α → Prop
  | rectangle {p : Point α} {v : Viewport α} {id : Identifier}
    (kind : d.options.kind = .rectangle) (started : d.isStarted = true) :
    Finishing d (.up p v id) id (d.setSecond p)
  | circle {p : Point α} {v : Viewport α} {id : Identifier}
    (kind : d.options.kind = .circle) (started : d.isStarted = true) :
    Finishing d (.up p v id) id ((d.setEdge? p v).getD d)
  | polygon {id : Identifier} (kind : d.options.kind = .polygon) :
    Finishing d (.doubleClick id) id d.dropRepeated

theorem Finishing.pressed? (h : d.Finishing input id d') : input.pressed? = none := by
  cases h <;> rfl

theorem Finishing.isDoubleClick (h : d.Finishing input id d') (hkind : d.options.kind = .polygon) :
    input.isDoubleClick = true := by
  cases h with
  | rectangle hrectangle _ => simp [hkind] at hrectangle
  | circle hcircle _ => simp [hkind] at hcircle
  | polygon _ => rfl

theorem Finishing.feed_eq (h : d.Finishing input id d') : d.feed input = (d'.finish id, d') := by
  cases h with
  | rectangle hkind hstarted => simp only [feed, pointerUp, hkind, hstarted, if_true]
  | circle hkind hstarted => simp only [feed, pointerUp, hkind, hstarted, if_true]
  | polygon hkind => simp only [feed, doubleClick, hkind]

/-- **An input is ignored without effect, or asks for a preview, or finishes the draft.** -/
theorem feed_cases (d : Drawing α) (input : Input α) : d.feed input = (.ignored, d) ∨
    (∃ d', d.feed input = (.preview, d')) ∨
    ∃ id d', d.Finishing input id d' ∧ d.feed input = (d'.finish id, d') := by
  cases input with
  | down p =>
    simp only [feed, pointerDown]
    split_ifs
    · exact Or.inl rfl
    · exact Or.inr (Or.inl ⟨_, rfl⟩)
  | move p v =>
    simp only [feed, pointerMove]
    split_ifs
    · cases d.options.kind with
      | rectangle | polygon => exact Or.inr (Or.inl ⟨_, rfl⟩)
      | circle =>
        cases d.setEdge? p v with
        | none => exact Or.inl rfl
        | some d' => exact Or.inr (Or.inl ⟨_, rfl⟩)
    · exact Or.inl rfl
  | up p v id =>
    simp only [feed, pointerUp]
    by_cases hstarted : d.isStarted = true
    · rw [if_pos hstarted]
      cases hkind : d.options.kind with
      | rectangle => exact Or.inr (Or.inr ⟨id, _, .rectangle hkind hstarted, rfl⟩)
      | polygon => exact Or.inr (Or.inl ⟨_, rfl⟩)
      | circle => exact Or.inr (Or.inr ⟨id, _, .circle hkind hstarted, rfl⟩)
    · rw [if_neg hstarted]
      exact Or.inl rfl
  | doubleClick id =>
    simp only [feed, doubleClick]
    cases hkind : d.options.kind with
    | rectangle | circle => exact Or.inl rfl
    | polygon => exact Or.inr (Or.inr ⟨id, _, .polygon hkind, rfl⟩)

/-- **What is finished is the draft**, and it can become a shape. -/
theorem feed_eq_commit (h : (d.feed input).1 = .commit shape) :
    (∃ id, d.Finishing input id (d.feed input).2) ∧ (d.feed input).2.isCommittable = true ∧
      (d.feed input).2.draft? = some shape.geometry ∧ shape.IsFresh (d.feed input).2.options := by
  rcases feed_cases d input with hignored | ⟨d', hpreview⟩ | ⟨id, d', hfinishing, hfinish⟩
  · rw [hignored] at h
    cases h
  · rw [hpreview] at h
    cases h
  · rw [hfinish] at h ⊢
    exact ⟨⟨id, hfinishing⟩, finish_eq_commit h⟩

/-- Before the first press nothing but a press has an effect. -/
theorem feed_of_not_isStarted (hstarted : d.isStarted = false) (hinput : input.pressed? = none) :
    d.feed input = (.ignored, d) := by
  have hpoints : d.points = [] := by simpa [isStarted] using hstarted
  cases input with
  | down p => cases hinput
  | move p v => simp [feed, pointerMove, hstarted]
  | up p v id => simp [feed, pointerUp, hstarted]
  | doubleClick id =>
    simp only [feed, doubleClick]
    cases hkind : d.options.kind with
    | rectangle | circle => rfl
    | polygon => simp [dropRepeated, finish, isCommittable, hkind, hpoints]

theorem run_of_forall (h : ∀ i ∈ inputs, i.pressed? = none) :
    run options inputs = start options := by
  induction inputs using List.reverseRecOn with
  | nil => rfl
  | append_singleton inputs input ih =>
    rw [run_concat, ih fun i hi => h i (List.mem_append_left _ hi),
      feed_of_not_isStarted rfl (h input (by simp))]

/-! ### What an input does to a rectangle -/

theorem feed_move_rectangle (hkind : d.options.kind = .rectangle) :
    (d.feed (.move p v)).2 = if d.isStarted then d.setSecond p else d := by
  simp only [feed, pointerMove, hkind]
  split_ifs <;> rfl

theorem feed_up_rectangle (hkind : d.options.kind = .rectangle) :
    (d.feed (.up p v id)).2 = if d.isStarted then d.setSecond p else d := by
  simp only [feed, pointerUp, hkind]
  split_ifs <;> rfl

/-! ### What an input does to a circle -/

theorem setEdge?_of_not_isStarted (h : d.isStarted = false) : d.setEdge? p v = none := by
  have hpoints : d.points = [] := by simpa [isStarted] using h
  rw [setEdge?, hpoints]

theorem setEdge?_eq_some_iff : d.setEdge? p v = some d' ↔ ∃ c rest, d.points = c :: rest ∧
    v.fitsCircle c ((Radius.between c p).effective v) = true ∧
    { d with radius := .between c p } = d' := by
  unfold setEdge?
  rcases d.points with _ | ⟨c, rest⟩
  · simp
  · simp

theorem feed_move_circle (hkind : d.options.kind = .circle) :
    (d.feed (.move p v)).2 = (d.setEdge? p v).getD d := by
  simp only [feed, pointerMove, hkind]
  cases hstarted : d.isStarted with
  | true => cases d.setEdge? p v <;> rfl
  | false =>
    rw [setEdge?_of_not_isStarted hstarted]
    rfl

theorem feed_up_circle (hkind : d.options.kind = .circle) :
    (d.feed (.up p v id)).2 = (d.setEdge? p v).getD d := by
  simp only [feed, pointerUp, hkind]
  cases hstarted : d.isStarted with
  | true => rfl
  | false =>
    rw [setEdge?_of_not_isStarted hstarted]
    rfl

/-- A circle under way that has been drawn on a surface of one size: its centre is where the pointer
was first pressed, and it lies on the surface once it has a radius. -/
structure Grown (v : Viewport α) (pressed : Option (Point α)) (d : Drawing α) : Prop where
  points : d.points = pressed.toList
  radius : d.radius = .zero ∨
    ∃ c, pressed = some c ∧ v.fitsCircle c (d.radius.effective v) = true

theorem Grown.setEdge? {pressed : Option (Point α)} (h : d.Grown v pressed) (p : Point α) :
    ((d.setEdge? p v).getD d).Grown v pressed := by
  cases hedge : d.setEdge? p v with
  | none => exact h
  | some d' =>
    obtain ⟨c, rest, hpoints, hfits, rfl⟩ := setEdge?_eq_some_iff.mp hedge
    refine ⟨h.points, Or.inr ⟨c, ?_, hfits⟩⟩
    rw [h.points] at hpoints
    cases pressed with
    | none => cases hpoints
    | some q =>
      cases hpoints
      rfl

/-- **One input on the surface keeps a circle grown there.** -/
theorem Grown.feed {pressed : Option (Point α)} (h : d.Grown v pressed)
    (hkind : d.options.kind = .circle) (hv : input.IsOn v) :
    (d.feed input).2.Grown v (pressed.or input.pressed?) := by
  cases input with
  | down p =>
    rw [feed_down]
    cases pressed with
    | none =>
      have hzero := h.radius.resolve_right nofun
      rw [if_neg (by simp [isStarted, h.points])]
      exact ⟨rfl, Or.inl hzero⟩
    | some c =>
      rw [if_pos (by simp [isStarted, h.points])]
      exact h
  | move p w =>
    cases hv
    rw [feed_move_circle hkind, Input.pressed?, Option.or_none]
    exact h.setEdge? p
  | up p w id =>
    cases hv
    rw [feed_up_circle hkind, Input.pressed?, Option.or_none]
    exact h.setEdge? p
  | doubleClick id =>
    rw [Input.pressed?, Option.or_none]
    simpa only [Drawing.feed, doubleClick, hkind] using h

/-! ### Runs -/

theorem options_run (options : DrawingOptions) (inputs : List (Input α)) :
    (run options inputs).options = options := by
  induction inputs using List.reverseRecOn with
  | nil => rfl
  | append_singleton inputs input ih => rw [run_concat, options_feed, ih]

theorem grown_run (hkind : options.kind = .circle) (hv : ∀ i ∈ inputs, i.IsOn v) :
    (run options inputs).Grown v (inputs.findSome? Input.pressed?) := by
  induction inputs using List.reverseRecOn with
  | nil => exact ⟨rfl, Or.inl rfl⟩
  | append_singleton inputs input ih =>
    have hbefore := ih fun i hi => hv i (List.mem_append_left _ hi)
    have hfeed := hbefore.feed (by rw [options_run, hkind]) (hv input (by simp))
    rw [run_concat, List.findSome?_append]
    simpa using hfeed

variable [OrderedScalar α]

theorem isZero_zero : (Radius.zero : Radius α).isZero = true := by
  have hzero : (0 : α) ≤ 0 := OrderedScalar.le_self_left (Scalar.le_of_lt OrderedScalar.zero_lt_one)
  simp [Radius.isZero, Radius.zero, OrderedScalar.beq_iff.mpr ⟨hzero, hzero⟩]

theorem Grown.fitsCircle {pressed : Option (Point α)} (h : d.Grown v pressed)
    (hradius : d.radius.isZero = false) :
    ∃ c, pressed = some c ∧ d.points = [c] ∧ v.fitsCircle c (d.radius.effective v) = true := by
  rcases h.radius with hzero | ⟨c, rfl, hfits⟩
  · rw [hzero, isZero_zero] at hradius
    cases hradius
  · exact ⟨c, rfl, h.points, hfits⟩

/-! ### Finished shapes -/

/-- **A shape that is finished is the draft, and it has an extent.** On a surface of one size, empty
or not, whatever is fed: a rectangle that is finished has corners that differ along both axes, a
polygon has three vertices or more and was finished by a double click, and a circle has its centre
where the pointer was first pressed, has a radius and lies on the surface, as does the draft of a
circle once it has a radius. Before the first press nothing else has an effect. -/
theorem commit_is_draft_with_extent (options : DrawingOptions) (v : Viewport Float)
    (inputs : List (Input Float)) (hv : ∀ i ∈ inputs, i.IsOn v) :
    let d := run options inputs
    (∀ (input : Input Float) (shape : Shape Float), input.IsOn v →
      (d.feed input).1 = .commit shape →
      shape.IsFresh options ∧ (d.feed input).2.draft? = some shape.geometry ∧
      match shape.geometry with
      | .rectangle a b => (a.x == b.x) = false ∧ (a.y == b.y) = false
      | .polygon vertices => 3 ≤ vertices.length ∧ input.isDoubleClick = true
      | .circle c r => inputs.findSome? Input.pressed? = some c ∧ r.isZero = false ∧
          v.fitsCircle c (r.effective v) = true) ∧
    (∀ c r, d.draft? = some (.circle c r) → r.isZero = false →
      v.fitsCircle c (r.effective v) = true) ∧
    ((∀ i ∈ inputs, i.pressed? = none) → ∀ input : Input Float, input.pressed? = none →
      d.feed input = (.ignored, .start options)) := by
  intro d
  have hoptions : d.options = options := options_run options inputs
  refine ⟨fun input shape hinput hcommit => ?_, fun c r hdraft hradius => ?_,
    fun hinputs input h => ?_⟩
  · obtain ⟨⟨id, hfinishing⟩, hcommittable, hdraft, hfresh⟩ := feed_eq_commit hcommit
    rw [options_feed, hoptions] at hfresh
    refine ⟨hfresh, hdraft, ?_⟩
    have hparts := drafted hdraft
    generalize shape.geometry = g at hparts
    cases hparts with
    | rectangle hkind hpoints =>
      rw [isCommittable_rectangle hkind hpoints] at hcommittable
      simpa [bne] using hcommittable
    | polygon hkind hpoints =>
      rw [isCommittable_polygon hkind, hpoints] at hcommittable
      refine ⟨of_decide_eq_true hcommittable, ?_⟩
      exact hfinishing.isDoubleClick (d.options_feed input ▸ hkind)
    | circle hkind hpoints hradius =>
      have hnonzero : (d.feed input).2.radius.isZero = false := by
        rwa [isCommittable_circle hkind hpoints, Bool.not_eq_true'] at hcommittable
      rw [options_feed] at hkind
      have hgrown := (grown_run (hoptions ▸ hkind) hv).feed hkind hinput
      rw [hfinishing.pressed?, Option.or_none] at hgrown
      obtain ⟨c, hc, hcenter, hfits⟩ := hgrown.fitsCircle hnonzero
      rw [hcenter] at hpoints
      cases hpoints
      exact ⟨hc, hradius ▸ hnonzero, hradius ▸ hfits⟩
  · cases drafted hdraft with
    | circle hkind hpoints hr =>
      have hgrown := grown_run (hoptions ▸ hkind) hv
      obtain ⟨c', -, hcenter, hfits⟩ := hgrown.fitsCircle (hr ▸ hradius)
      rw [hcenter] at hpoints
      cases hpoints
      exact hr ▸ hfits
  · have hstart : d = start options := run_of_forall hinputs
    rw [hstart]
    exact feed_of_not_isStarted rfl h

/-- A circle is dragged out from its centre. -/
def draggedOut : List (Input Float) := [.down ⟨0.5, 0.5⟩, .move ⟨0.75, 0.5⟩ ⟨100, 100⟩]

/-- The circle that is finished when the pointer is released has its centre where it was pressed. -/
theorem commit_is_draft_draggedOut : (∀ i ∈ draggedOut, i.IsOn ⟨100, 100⟩) ∧ ∃ shape : Shape Float,
    ((run { kind := .circle } draggedOut).feed
      (.up ⟨0.625, 0.5⟩ ⟨100, 100⟩ ⟨1⟩)).1 = .commit shape ∧
    ∃ r, shape.geometry = .circle ⟨0.5, 0.5⟩ r ∧ r.isZero = false ∧
      (⟨100, 100⟩ : Viewport Float).fitsCircle ⟨0.5, 0.5⟩ (r.effective ⟨100, 100⟩) = true := by
  have hv : ∀ i ∈ draggedOut, i.IsOn ⟨100, 100⟩ := by simp [draggedOut, Input.IsOn]
  have hiscommit : ((run { kind := .circle } draggedOut).feed
      (.up ⟨0.625, 0.5⟩ ⟨100, 100⟩ ⟨1⟩)).1.isCommit = true := by decide +kernel
  obtain ⟨shape, hshape⟩ := DrawingStep.exists_of_isCommit hiscommit
  obtain ⟨hcommit, -, -⟩ :=
    commit_is_draft_with_extent { kind := .circle } ⟨100, 100⟩ draggedOut hv
  obtain ⟨hfresh, -, hextent⟩ := hcommit (.up ⟨0.625, 0.5⟩ ⟨100, 100⟩ ⟨1⟩) shape rfl hshape
  refine ⟨hv, shape, hshape, ?_⟩
  cases hg : shape.geometry with
  | rectangle a b => exact absurd (hg ▸ hfresh.kind) nofun
  | polygon vertices => exact absurd (hg ▸ hfresh.kind) nofun
  | circle c r =>
    simp only [hg] at hextent
    obtain ⟨hc, hradius, hfits⟩ := hextent
    cases hc
    exact ⟨r, rfl, hradius, hfits⟩

end Drawing

end ShapeOverlay
