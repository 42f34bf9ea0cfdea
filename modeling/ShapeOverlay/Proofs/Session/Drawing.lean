import Mathlib.Tactic.SplitIfs
import ShapeOverlay.Session.Drawing

/-! # Inputs of a drawing

A drawing is fed events of the pointer (`Drawing.Input`, `Drawing.feed`). Of the vertices of a
polygon the last one may follow the pointer; the others are at rest (`Drawing.resting`). What an
input does to a polygon is said once for each kind of input.

* A move puts the pointer behind the vertices at rest (`feed_move`, `points_setLive`).
* A release puts it there or nowhere, and then all vertices are at rest (`feed_up`).
* A double click drops at most a last vertex that repeats the one before it (`feed_doubleClick`,
  `dropRepeated_cases`), and finishes a polygon of three vertices or more (`isCommit_finish`).

So a vertex at rest stays where it is unless it is dropped (`getElem?_feed`). -/

namespace ShapeOverlay

variable {α : Type}

/-- The outcome is a finished shape. -/
def DrawingStep.isCommit : DrawingStep α → Bool
  | commit _ => true
  | _ => false

namespace Drawing

/-! ### Inputs -/

/-- What a drawing is fed: an event of the pointer at a relative point of a surface of some size, or
a double click. What can finish a shape comes with the identity that the shape gets. -/
inductive Input (α : Type) where
  | down (p : Point α)
  | move (p : Point α) (v : Viewport α)
  | up (p : Point α) (v : Viewport α) (id : Identifier)
  | doubleClick (id : Identifier)

/-- The input is a release. -/
def Input.isUp : Input α → Bool
  | up _ _ _ => true
  | _ => false

/-- The input is a double click. -/
def Input.isDoubleClick : Input α → Bool
  | doubleClick _ => true
  | _ => false

/-- How many vertices of a polygon do not follow the pointer. -/
def resting (d : Drawing α) : Nat :=
  if d.appendNext then d.points.length else d.points.length - 1

variable [Scalar α]

/-- The outcome of an input and the session after it. -/
def feed (d : Drawing α) : Input α → DrawingStep α × Drawing α
  | .down p => d.pointerDown p
  | .move p v => d.pointerMove p v
  | .up p v id => d.pointerUp p v id
  | .doubleClick id => d.doubleClick id

variable {d : Drawing α} {p : Point α} {v : Viewport α} {id : Identifier}

/-- What holds at each element of a longer list holds at those before and at the last one. -/
theorem forall_take_concat {β : Type} {P : List β → β → Prop} {before : List β} {last : β} :
    (∀ (k : Nat) (hk : k < (before ++ [last]).length),
      P ((before ++ [last]).take k) (before ++ [last])[k]) ↔
    (∀ (k : Nat) (hk : k < before.length), P (before.take k) before[k]) ∧ P before last := by
  constructor
  · intro h
    refine ⟨fun k hk => ?_, ?_⟩
    · have hk' := h k (by simp; omega)
      rwa [List.take_append_of_le_length (Nat.le_of_lt hk), List.getElem_append_left hk] at hk'
    · simpa using h before.length (by simp)
  · rintro ⟨hbefore, hlast⟩ k hk
    rcases Nat.lt_or_ge k before.length with hlt | hge
    · rw [List.take_append_of_le_length (Nat.le_of_lt hlt), List.getElem_append_left hlt]
      exact hbefore k hlt
    · obtain rfl : k = before.length := by simp at hk; omega
      simpa using hlast

omit [Scalar α] in
theorem isStarted_iff : d.isStarted = true ↔ 0 < d.points.length := by
  rw [isStarted, Bool.not_eq_true', List.isEmpty_eq_false_iff, List.length_pos_iff]

/-! ### Vertices -/

omit [Scalar α] in
/-- The vertex that follows the pointer is put behind those at rest. -/
theorem points_setLive (d : Drawing α) (p : Point α) :
    (d.setLive p).points = d.points.take d.resting ++ [p] := by
  unfold setLive resting
  split_ifs
  · rw [List.take_length]
  · rw [setLast, List.dropLast_eq_take]

omit [Scalar α] in
theorem resting_le (d : Drawing α) : d.resting ≤ d.points.length := by
  unfold resting
  split_ifs <;> omega

omit [Scalar α] in
theorem length_le_resting (d : Drawing α) : d.points.length ≤ d.resting + 1 := by
  unfold resting
  split_ifs <;> omega

omit [Scalar α] in
theorem length_setLive (d : Drawing α) (p : Point α) :
    (d.setLive p).points.length = d.resting + 1 := by
  rw [points_setLive, List.length_append, List.length_take, Nat.min_eq_left d.resting_le]
  rfl

omit [Scalar α] in
@[simp] theorem appendNext_setLive (d : Drawing α) (p : Point α) :
    (d.setLive p).appendNext = false := by
  unfold setLive
  split_ifs with happend
  · rfl
  · exact Bool.eq_false_iff.mpr happend

omit [Scalar α] in
@[simp] theorem resting_setLive (d : Drawing α) (p : Point α) :
    (d.setLive p).resting = d.resting := by
  rw [resting, appendNext_setLive, if_neg Bool.false_ne_true, length_setLive, Nat.add_sub_cancel]

omit [Scalar α] in
@[simp] theorem options_setLive (d : Drawing α) (p : Point α) :
    (d.setLive p).options = d.options := by
  unfold setLive
  split_ifs <;> rfl

theorem dropRepeated_of_points {kept : List (Point α)} {a b : Point α}
    (hpoints : d.points = kept ++ [a, b]) (hab : (a == b) = true) :
    d.dropRepeated = { d with points := kept ++ [a] } := by
  simp [dropRepeated, hpoints, hab]

/-- **What a double click drops**: nothing, or a last vertex that repeats the one before it. -/
theorem dropRepeated_cases (d : Drawing α) : d.dropRepeated = d ∨
    ∃ kept a b, (a == b) = true ∧ d.points = kept ++ [a, b] ∧
      d.dropRepeated = { d with points := kept ++ [a] } := by
  unfold dropRepeated
  split
  · next b a rest hreverse =>
    have hpoints : d.points = rest.reverse ++ [a, b] := by
      rw [← List.reverse_reverse d.points, hreverse]
      simp
    split_ifs with hab
    · have hdrop : d.points.dropLast = rest.reverse ++ [a] := by simp [hpoints]
      exact Or.inr ⟨rest.reverse, a, b, hab, hpoints, by rw [hdrop]⟩
    · exact Or.inl rfl
  · exact Or.inl rfl

/-- A polygon of three vertices or more can be finished. -/
theorem isCommit_finish (hkind : d.options.kind = .polygon) (h : 3 ≤ d.points.length) :
    (d.finish id).isCommit = true := by
  have hcommittable : d.isCommittable = true := by simp [isCommittable, hkind, h]
  have hdraft : d.draft? = some (.polygon d.points) := by
    have h2 : 2 ≤ d.points.length := by omega
    simp [draft?, hkind, h2]
  rw [finish, if_pos hcommittable, hdraft]
  rfl

/-! ### What every input keeps -/

theorem feed_down (d : Drawing α) (p : Point α) : (d.feed (.down p)).2 =
    if d.isStarted then d else { d with points := [p], appendNext := true } := by
  simp only [feed, pointerDown]
  split_ifs <;> rfl

theorem options_dropRepeated (d : Drawing α) : d.dropRepeated.options = d.options := by
  rcases dropRepeated_cases d with hsame | ⟨kept, a, b, -, -, hdrop⟩
  · rw [hsame]
  · rw [hdrop]

theorem options_setEdge? (d : Drawing α) (p : Point α) (v : Viewport α) :
    ((d.setEdge? p v).getD d).options = d.options := by
  unfold setEdge?
  rcases d.points with _ | ⟨c, rest⟩
  · rfl
  · dsimp only
    split_ifs <;> rfl

/-- No input changes what is to be drawn. -/
theorem options_feed (d : Drawing α) (input : Input α) : (d.feed input).2.options = d.options := by
  cases input with
  | down p =>
    rw [feed_down]
    split_ifs <;> rfl
  | move p v =>
    have hedge := d.options_setEdge? p v
    simp only [feed, pointerMove]
    by_cases hstarted : d.isStarted = true
    · rw [if_pos hstarted]
      cases d.options.kind with
      | rectangle => rfl
      | polygon => exact d.options_setLive p
      | circle =>
        revert hedge
        cases d.setEdge? p v <;> exact id
    · rw [if_neg hstarted]
  | up p v id =>
    simp only [feed, pointerUp]
    by_cases hstarted : d.isStarted = true
    · rw [if_pos hstarted]
      cases d.options.kind with
      | rectangle => rfl
      | polygon =>
        dsimp only
        split_ifs <;> rfl
      | circle => exact d.options_setEdge? p v
    · rw [if_neg hstarted]
  | doubleClick id =>
    simp only [feed, doubleClick]
    cases d.options.kind with
    | rectangle | circle => rfl
    | polygon => exact d.options_dropRepeated

/-! ### What an input does to a polygon -/

theorem feed_move (hkind : d.options.kind = .polygon) :
    (d.feed (.move p v)).2 = if d.isStarted then d.setLive p else d := by
  simp only [feed, pointerMove, hkind]
  split_ifs <;> rfl

theorem feed_up (hkind : d.options.kind = .polygon) : (d.feed (.up p v id)).2 =
    if d.isStarted then
      { d with
        points := if d.appendNext || d.points.length ≤ 1 then d.points
          else d.points.take d.resting ++ [p]
        appendNext := true }
    else d := by
  simp only [feed, pointerUp, hkind]
  by_cases hstarted : d.isStarted = true
  · rw [if_pos hstarted, if_pos hstarted]
    cases happend : d.appendNext with
    | true => simp
    | false =>
      by_cases hone : d.points.length ≤ 1
      · simp [hone, Nat.not_lt.mpr hone]
      · have hlive : d.setLive p = d.setLast p := by simp [setLive, happend]
        simp [hone, Nat.not_le.mp hone, ← points_setLive, hlive, setLast]
  · rw [if_neg hstarted, if_neg hstarted]

theorem feed_doubleClick (hkind : d.options.kind = .polygon) :
    d.feed (.doubleClick id) = (d.dropRepeated.finish id, d.dropRepeated) := by
  simp only [feed, doubleClick, hkind]

/-- Only a double click drops vertices. -/
theorem length_le_feed (hkind : d.options.kind = .polygon) {input : Input α}
    (hinput : input.isDoubleClick = false) :
    d.points.length ≤ (d.feed input).2.points.length := by
  cases input with
  | down p =>
    rw [feed_down]
    split_ifs with hstarted
    · exact Nat.le_refl _
    · have hzero := mt isStarted_iff.mpr hstarted
      omega
  | move p v =>
    rw [feed_move hkind]
    split_ifs
    · exact (length_setLive d p).symm ▸ d.length_le_resting
    · exact Nat.le_refl _
  | up p v id =>
    rw [feed_up hkind, ← points_setLive]
    split_ifs
    · exact Nat.le_refl _
    · exact (length_setLive d p).symm ▸ d.length_le_resting
    · exact Nat.le_refl _
  | doubleClick id => cases hinput

/-- **A vertex at rest stays where it is** unless it is dropped. -/
theorem getElem?_feed (hkind : d.options.kind = .polygon) (input : Input α) {i : Nat}
    (hi : i < d.resting) (hkept : i < (d.feed input).2.points.length) :
    (d.feed input).2.points[i]? = d.points[i]? := by
  have hlt : i < d.points.length := by
    unfold resting at hi
    split_ifs at hi <;> omega
  have htake (p : Point α) : (d.points.take d.resting ++ [p])[i]? = d.points[i]? := by
    rw [List.getElem?_append_left (by simp; omega), List.getElem?_take_of_lt hi]
  have hstarted : d.isStarted = true := isStarted_iff.mpr (by omega)
  cases input with
  | down p => rw [feed_down, if_pos hstarted]
  | move p v => rw [feed_move hkind, if_pos hstarted, points_setLive, htake]
  | up p v id =>
    rw [feed_up hkind, if_pos hstarted]
    dsimp only
    split_ifs
    · rfl
    · exact htake p
  | doubleClick id =>
    rw [feed_doubleClick hkind] at hkept ⊢
    rcases dropRepeated_cases d with hsame | ⟨kept, a, b, -, hpoints, hdrop⟩
    · rw [hsame]
    · have hsplit : d.points = (kept ++ [a]) ++ [b] := by simp [hpoints]
      rw [hdrop] at hkept ⊢
      dsimp only at hkept ⊢
      rw [hsplit, List.getElem?_append_left hkept]

end Drawing

end ShapeOverlay
