import Mathlib.Data.List.Induction
import Mathlib.Tactic.SplitIfs
import ShapeOverlay.Proofs.Session.Drawing
import ShapeOverlay.Scalar.Binary64

/-! # Placed vertices of a polygon

A sketch is a drawing beside the number of its vertices that have been placed, by the first press or
by a release (`Sketch`). While a polygon is drawn, at most one vertex behind the placed ones follows
the pointer (`Sketch.Sound`, `sound_run`). The session itself only knows whether the next move adds a
vertex. This goes wrong if a double click drops the vertex that follows the pointer: the last placed
vertex then follows it instead (`Sketch.isLoose`, `isLoose_feed`), until the next release. All other
placed vertices are firm (`Sketch.firm`), and a firm vertex stays where it is
(`placed_vertices_stay`). -/

namespace ShapeOverlay

/-- A drawing and how many of its vertices the first press and the releases have placed. -/
structure Sketch (α : Type) where
  drawing : Drawing α
  placed : Nat := 0

namespace Sketch

open Drawing (Input)

variable {α : Type}

/-- The vertices. -/
def points (s : Sketch α) : List (Point α) := s.drawing.points

/-- The last placed vertex follows the pointer. -/
def isLoose (s : Sketch α) : Bool :=
  s.drawing.isStarted && !s.drawing.appendNext && s.placed == s.points.length

/-- How many vertices have been placed and do not follow the pointer. -/
def firm (s : Sketch α) : Nat := if s.isLoose then s.placed - 1 else s.placed

variable [Scalar α]

/-- The sketch before the first press. -/
def start (options : DrawingOptions) : Sketch α := { drawing := .start options }

/-- The sketch after an input. The first press places its point, a release places the vertex that
follows the pointer, and a vertex that a double click drops is not placed any more. -/
def feed (s : Sketch α) (input : Input α) : Sketch α :=
  let drawing := (s.drawing.feed input).2
  { drawing
    placed := match input with
      | .down _ => if s.drawing.isStarted then s.placed else 1
      | .move _ _ => s.placed
      | .up _ _ _ => drawing.points.length
      | .doubleClick _ => min s.placed drawing.points.length }

/-- The input drops the vertex that follows the pointer. -/
def DropsLive (s : Sketch α) (input : Input α) : Prop :=
  s.placed < s.points.length ∧ (s.feed input).points.length < s.points.length

/-- The sketch after a sequence of inputs. -/
def run (options : DrawingOptions) (inputs : List (Input α)) : Sketch α :=
  inputs.foldl feed (start options)

/-- No input has finished the polygon. -/
def IsOpen (options : DrawingOptions) (inputs : List (Input α)) : Prop :=
  ∀ (k : Nat) (hk : k < inputs.length),
    ((run options (inputs.take k)).drawing.feed inputs[k]).1.isCommit = false

variable {s : Sketch α} {options : DrawingOptions} {inputs : List (Input α)} {input : Input α}

theorem run_append (later : List (Input α)) :
    run options (inputs ++ later) = later.foldl feed (run options inputs) := List.foldl_append

theorem run_concat : run options (inputs ++ [input]) = (run options inputs).feed input :=
  run_append [input]

theorem isOpen_concat : IsOpen options (inputs ++ [input]) ↔ IsOpen options inputs ∧
    ((run options inputs).drawing.feed input).1.isCommit = false :=
  Drawing.forall_take_concat
    (P := fun before input => ((run options before).drawing.feed input).1.isCommit = false)

/-! ### What is kept while a polygon is drawn -/

/-- All vertices of a polygon have been placed, or all but one, which follows the pointer. -/
structure Sound (s : Sketch α) : Prop where
  kind : s.drawing.options.kind = .polygon
  placed : s.placed = s.points.length ∨
    s.drawing.appendNext = false ∧ 0 < s.placed ∧ s.points.length = s.placed + 1

omit [Scalar α] in
theorem isLoose_iff : s.isLoose = true ↔
    0 < s.points.length ∧ s.drawing.appendNext = false ∧ s.placed = s.points.length := by
  simp [isLoose, Drawing.isStarted_iff, points, and_assoc]

omit [Scalar α] in
/-- The firm vertices are those that the session lets rest. -/
theorem Sound.firm_eq (h : s.Sound) : s.firm = s.drawing.resting := by
  have hloose := s.isLoose_iff
  rw [firm, Drawing.resting, ← points]
  rcases h.placed with hall | ⟨happend, -, hlen⟩
  · cases happend : s.drawing.appendNext with
    | true => rw [if_neg (by simp [hloose, happend]), if_pos rfl, hall]
    | false =>
      simp only [happend, hall, and_true] at hloose
      rw [hall, if_neg Bool.false_ne_true]
      split_ifs with hs
      · rfl
      · have hzero := mt hloose.mpr hs
        omega
  · rw [if_neg (by rw [hloose]; omega), happend, if_neg Bool.false_ne_true]
    omega

omit [Scalar α] in
theorem Sound.isLoose_iff_resting (h : s.Sound) :
    s.isLoose = true ↔ s.drawing.resting < s.placed := by
  rw [← h.firm_eq, firm]
  split_ifs with hloose
  · have hpos := isLoose_iff.mp hloose
    simp only [hloose, true_iff]
    omega
  · simp [hloose]

theorem sound_start (hkind : options.kind = .polygon) : (start options : Sketch α).Sound :=
  ⟨hkind, Or.inl rfl⟩

omit [Scalar α] in
theorem Sound.placed_le (h : s.Sound) : s.placed ≤ s.points.length := by
  have hplaced := h.placed
  omega

theorem feed_down_of_isStarted {p : Point α} (hstarted : s.drawing.isStarted = true) :
    s.feed (.down p) = s := by
  simp [feed, Drawing.feed_down, hstarted]

theorem Sound.feed_move {p : Point α} {v : Viewport α} (h : s.Sound) : s.feed (.move p v) =
    if s.drawing.isStarted then { s with drawing := s.drawing.setLive p } else s := by
  rw [Sketch.feed, Drawing.feed_move h.kind]
  split_ifs <;> rfl

theorem Sound.feed_doubleClick (h : s.Sound) (id : Identifier) : s.feed (.doubleClick id) = s ∨
    ∃ kept a b, (a == b) = true ∧ s.points = kept ++ [a, b] ∧
      s.feed (.doubleClick id) =
        ⟨{ s.drawing with points := kept ++ [a] }, min s.placed (kept.length + 1)⟩ := by
  rw [Sketch.feed, Drawing.feed_doubleClick h.kind]
  rcases s.drawing.dropRepeated_cases with hsame | ⟨kept, a, b, hab, hpoints, hdrop⟩
  · rw [hsame]
    exact Or.inl (congrArg (Sketch.mk s.drawing) (Nat.min_eq_left h.placed_le))
  · rw [hdrop]
    exact Or.inr ⟨kept, a, b, hab, hpoints, by simp⟩

/-- **One input keeps a sketch sound.** -/
theorem Sound.feed (h : s.Sound) (input : Input α) : (s.feed input).Sound := by
  refine ⟨(congrArg DrawingOptions.kind (Drawing.options_feed s.drawing input)).trans h.kind, ?_⟩
  cases input with
  | down p =>
    by_cases hstarted : s.drawing.isStarted = true
    · rw [feed_down_of_isStarted hstarted]
      exact h.placed
    · simp [Sketch.feed, Drawing.feed_down, hstarted, points]
  | move p v =>
    rw [h.feed_move]
    split_ifs with hstarted
    · have hpos := Drawing.isStarted_iff.mp hstarted
      have hplaced := h.placed
      simp only [points, Drawing.length_setLive, Drawing.appendNext_setLive, true_and] at hplaced ⊢
      unfold Drawing.resting
      split_ifs with happend
      · have hall := hplaced.resolve_right fun hlive => by simp [happend] at hlive
        omega
      · omega
    · exact h.placed
  | up p v id => exact Or.inl rfl
  | doubleClick id =>
    rcases h.feed_doubleClick id with hsame | ⟨kept, a, b, -, hpoints, hdrop⟩
    · rw [hsame]
      exact h.placed
    · have hlen : s.points.length = kept.length + 2 := by simp [hpoints]
      have hplaced := h.placed
      left
      rw [hdrop]
      simp only [points, List.length_append, List.length_singleton]
      omega

theorem sound_run (hkind : options.kind = .polygon) (inputs : List (Input α)) :
    (run options inputs).Sound := by
  induction inputs using List.reverseRecOn with
  | nil => exact sound_start hkind
  | append_singleton inputs input ih =>
    rw [run_concat]
    exact ih.feed input

/-! ### The effect of one input -/

theorem Sound.points_move {p : Point α} {v : Viewport α} (h : s.Sound)
    (hstarted : s.drawing.isStarted = true) :
    (s.feed (.move p v)).points = s.points.take s.firm ++ [p] := by
  rw [h.feed_move, if_pos hstarted, h.firm_eq]
  exact s.drawing.points_setLive p

/-- Only a double click undoes what has been placed. -/
theorem Sound.placed_le_feed (h : s.Sound) (hinput : input.isDoubleClick = false) :
    s.placed ≤ (s.feed input).placed := by
  cases input with
  | down p =>
    by_cases hstarted : s.drawing.isStarted = true
    · exact Nat.le_of_eq (congrArg Sketch.placed (feed_down_of_isStarted hstarted)).symm
    · have hzero := mt Drawing.isStarted_iff.mpr hstarted
      have hle := h.placed_le
      rw [points] at hle
      omega
  | move p v => exact Nat.le_refl _
  | up p v id => exact Nat.le_trans h.placed_le (Drawing.length_le_feed h.kind hinput)
  | doubleClick id => cases hinput

/-- Of the inputs after the first press only a release places a vertex. -/
theorem placed_feed_le (hstarted : s.drawing.isStarted = true) (hinput : input.isUp = false) :
    (s.feed input).placed ≤ s.placed := by
  cases input with
  | down p => exact Nat.le_of_eq (congrArg placed (feed_down_of_isStarted hstarted))
  | move p v => exact Nat.le_refl _
  | up p v id => cases hinput
  | doubleClick id => exact Nat.min_le_left _ _

theorem Sound.not_dropsLive (h : s.Sound) (hinput : input.isDoubleClick = false) :
    ¬ s.DropsLive input := fun hdrops =>
  absurd (Drawing.length_le_feed h.kind hinput) (Nat.not_le.mpr hdrops.2)

/-- **When a placed vertex gets loose**: a double click drops the vertex that follows the pointer.
Nothing but a release makes it firm again. -/
theorem Sound.isLoose_feed (h : s.Sound) (input : Input α) : (s.feed input).isLoose = true ↔
    s.isLoose = true ∧ input.isUp = false ∨ s.DropsLive input := by
  rw [(h.feed input).isLoose_iff_resting, h.isLoose_iff_resting]
  cases input with
  | down p =>
    rw [or_iff_left (h.not_dropsLive rfl)]
    simp only [Input.isUp, and_true]
    by_cases hstarted : s.drawing.isStarted = true
    · rw [feed_down_of_isStarted hstarted]
    · have hzero := mt Drawing.isStarted_iff.mpr hstarted
      have hle := h.placed_le
      have hplaced : (s.feed (.down p)).placed = 1 := by simp [Sketch.feed, hstarted]
      have hresting : (s.feed (.down p)).drawing.resting = 1 := by
        simp [Sketch.feed, Drawing.feed_down, hstarted, Drawing.resting]
      rw [points] at hle
      omega
  | move p v =>
    rw [or_iff_left (h.not_dropsLive rfl), h.feed_move]
    simp only [Input.isUp, and_true]
    split_ifs
    · rw [Drawing.resting_setLive]
    · rfl
  | up p v id =>
    rw [or_iff_left (h.not_dropsLive rfl)]
    have hplaced : (s.feed (.up p v id)).placed = (s.feed (.up p v id)).points.length := rfl
    have hresting : (s.feed (.up p v id)).drawing.resting =
        (s.feed (.up p v id)).points.length := by
      rw [points, Sketch.feed, Drawing.feed_up h.kind]
      by_cases hstarted : s.drawing.isStarted = true
      · simp [hstarted, Drawing.resting]
      · have hzero := mt Drawing.isStarted_iff.mpr hstarted
        have hle := s.drawing.resting_le
        simp only [hstarted, Bool.false_eq_true, if_false]
        omega
    simp [hplaced, hresting, Input.isUp]
  | doubleClick id =>
    rcases h.feed_doubleClick id with hsame | ⟨kept, a, b, -, hpoints, hdrop⟩
    · simp [DropsLive, hsame, Input.isUp]
    · have hlen : s.points.length = kept.length + 2 := by simp [hpoints]
      have hplaced := h.placed
      simp only [DropsLive, hdrop, points, Drawing.resting, Input.isUp, List.length_append,
        List.length_singleton, and_true] at hlen hplaced ⊢
      split_ifs with happend
      · have hall := hplaced.resolve_right (by simp [happend])
        omega
      · omega

/-- A double click that drops a vertex and is refused leaves two vertices at most. -/
theorem Sound.length_le_two (h : s.Sound)
    (hrefused : (s.drawing.feed input).1.isCommit = false) (hdrops : s.DropsLive input) :
    (s.feed input).points.length ≤ 2 := by
  cases input with
  | doubleClick id =>
    have hkind := (h.feed (.doubleClick id)).kind
    rw [points]
    rw [Sketch.feed, Drawing.feed_doubleClick h.kind] at hkind ⊢
    rw [Drawing.feed_doubleClick h.kind] at hrefused
    by_contra hlen
    rw [Drawing.isCommit_finish hkind (Nat.not_le.mp hlen)] at hrefused
    exact Bool.noConfusion hrefused
  | _ => exact absurd hdrops (h.not_dropsLive rfl)

/-! ### Runs -/

/-- A firm vertex stays where it is as long as it is firm. -/
theorem getElem?_run (hkind : options.kind = .polygon) (later : List (Input α)) {i : Nat}
    (hfirm : ∀ pre, pre <+: later → i < (run options (inputs ++ pre)).firm) :
    (run options (inputs ++ later)).points[i]? = (run options inputs).points[i]? := by
  induction later using List.reverseRecOn with
  | nil => rw [List.append_nil]
  | append_singleton later input ih =>
    have hsound := sound_run hkind (inputs ++ later)
    have hbefore := hfirm later (List.prefix_append later [input])
    have hafter := hfirm (later ++ [input]) List.prefix_rfl
    rw [← List.append_assoc, run_concat] at hafter ⊢
    rw [← ih fun pre hpre => hfirm pre (hpre.trans (List.prefix_append later [input]))]
    -- the vertex is at rest before the input, and still there behind it as it is firm then
    refine Drawing.getElem?_feed hsound.kind input (hsound.firm_eq ▸ hbefore) ?_
    rw [(hsound.feed input).firm_eq] at hafter
    exact Nat.lt_of_lt_of_le hafter (Drawing.resting_le _)

/-- As long as the polygon is not finished, no vertex after the second gets loose. -/
theorem placed_le_two_of_isLoose (hkind : options.kind = .polygon) (hopen : IsOpen options inputs)
    (hloose : (run options inputs).isLoose = true) : (run options inputs).placed ≤ 2 := by
  induction inputs using List.reverseRecOn with
  | nil => exact Nat.zero_le 2
  | append_singleton inputs input ih =>
    have hsound := sound_run hkind inputs
    obtain ⟨hopen, hlast⟩ := isOpen_concat.mp hopen
    rw [run_concat] at hloose ⊢
    rcases (hsound.isLoose_feed input).mp hloose with ⟨hbefore, hup⟩ | hdrops
    · have hstarted := Drawing.isStarted_iff.mpr (isLoose_iff.mp hbefore).1
      exact Nat.le_trans (placed_feed_le hstarted hup) (ih hopen hbefore)
    · exact Nat.le_trans (hsound.feed input).placed_le (hsound.length_le_two hlast hdrops)

/-- **A placed vertex of a polygon stays where it is unless a refused double click makes it loose.**
After any inputs at most one vertex stands behind the placed ones. A vertex keeps its place and its
coordinates as long as it is firm, and a move appends a vertex to the firm ones or replaces the one
behind them. A double click drops nothing or a last vertex that equals its predecessor, and nothing
else undoes what has been placed. All placed vertices are firm, except the last one after a double
click that drops the vertex behind it, until the next release; while the polygon is not finished
that is the first or the second vertex. -/
theorem placed_vertices_stay (options : DrawingOptions) (hkind : options.kind = .polygon)
    (inputs : List (Input Float)) :
    let s := run options inputs
    (s.placed ≤ s.points.length ∧ s.points.length ≤ s.placed + 1) ∧
    (∀ later i, (∀ pre, pre <+: later → i < (run options (inputs ++ pre)).firm) →
      (run options (inputs ++ later)).points[i]? = s.points[i]?) ∧
    (∀ p v, s.drawing.isStarted = true →
      (s.feed (.move p v)).points = s.points.take s.firm ++ [p]) ∧
    (∀ id, (s.feed (.doubleClick id)).points = s.points ∨
      ∃ kept a b, (a == b) = true ∧ s.points = kept ++ [a, b] ∧
        (s.feed (.doubleClick id)).points = kept ++ [a]) ∧
    (∀ input : Input Float, input.isDoubleClick = false → s.placed ≤ (s.feed input).placed) ∧
    (∀ input, (s.feed input).isLoose = true ↔
      s.isLoose = true ∧ input.isUp = false ∨ s.DropsLive input) ∧
    (IsOpen options inputs → s.isLoose = true → s.placed ≤ 2) := by
  intro s
  have hsound : s.Sound := sound_run hkind inputs
  refine ⟨⟨hsound.placed_le, ?_⟩, fun later i => getElem?_run hkind later,
    fun p v => hsound.points_move, fun id => ?_, fun input => hsound.placed_le_feed,
    hsound.isLoose_feed, placed_le_two_of_isLoose hkind⟩
  · have hplaced := hsound.placed
    omega
  · rcases hsound.feed_doubleClick id with hsame | ⟨kept, a, b, hab, hpoints, hdrop⟩
    · exact Or.inl (congrArg points hsame)
    · exact Or.inr ⟨kept, a, b, hab, hpoints, congrArg points hdrop⟩

/-- Two clicks, and a double click before the pointer has left the second place. -/
def hastyClicks : List (Input Float) :=
  [.down ⟨0.25, 0.25⟩, .up ⟨0.25, 0.25⟩ ⟨100, 100⟩ ⟨1⟩, .move ⟨0.5, 0.25⟩ ⟨100, 100⟩,
    .up ⟨0.5, 0.25⟩ ⟨100, 100⟩ ⟨2⟩, .move ⟨0.5, 0.25⟩ ⟨100, 100⟩, .doubleClick ⟨3⟩]

theorem isOpen_hastyClicks : IsOpen { kind := .polygon } hastyClicks := by
  unfold IsOpen
  decide +kernel

theorem isLoose_hastyClicks : (run { kind := .polygon } hastyClicks).isLoose = true := by
  decide +kernel

/-- The first two vertices of the polygon are placed, and the second one is not firm. -/
theorem placed_vertices_stay_hastyClicks :
    ({ kind := .polygon } : DrawingOptions).kind = .polygon ∧
      (run { kind := .polygon } hastyClicks).placed ≤ 2 ∧
      ((run { kind := .polygon } hastyClicks).feed
        (.move ⟨0.5, 0.5⟩ ⟨100, 100⟩)).points.length = 2 := by
  obtain ⟨-, -, hmove, -, -, -, hbound⟩ := placed_vertices_stay { kind := .polygon } rfl hastyClicks
  refine ⟨rfl, hbound isOpen_hastyClicks isLoose_hastyClicks, ?_⟩
  rw [hmove ⟨0.5, 0.5⟩ ⟨100, 100⟩ (by decide +kernel), List.length_append, List.length_take,
    List.length_singleton]
  decide +kernel

/-- The next move takes the second vertex along. -/
theorem placed_vertex_follows_pointer :
    ¬ ∀ (options : DrawingOptions) (inputs : List (Input Float)), options.kind = .polygon →
      IsOpen options inputs → ∀ p v, (run options inputs).points.take (run options inputs).placed <+:
        (run options (inputs ++ [.move p v])).points := by
  intro h
  have hbegin := h { kind := .polygon } hastyClicks rfl isOpen_hastyClicks ⟨0.5, 0.5⟩ ⟨100, 100⟩
  have hlast := congrArg (List.map fun p => p.y == 0.25) (List.prefix_iff_eq_take.mp hbegin)
  exact absurd hlast (by decide +kernel)

end Sketch

end ShapeOverlay
