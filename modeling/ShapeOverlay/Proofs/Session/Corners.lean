import ShapeOverlay.Proofs.Session.Finish

/-! # Corners of a finished polygon

A polygon is finished if it has three vertices or more, whether or not they lie apart. Before that a
double click drops the last vertex if it repeats the one before it, but only this one. So a finished
polygon has three distinct vertices exactly if as many were drawn, and it ends in a repeated vertex
exactly if one was drawn three times at the end (`corners_dropRepeated`).

If no release places a vertex where one is at rest (`ReleasesApart`), the vertices at rest lie apart
(`apart_feed`), and then so do all vertices of the finished polygon but possibly the last
(`finished_corners`). -/

namespace ShapeOverlay.Drawing

variable {α : Type} [Scalar α]

/-! ### Points that lie apart -/

/-- Each of the points is at a place of its own. -/
def Apart (ps : List (Point α)) : Prop := ps.Pairwise fun p q => (p == q) = false

/-- There are three points at different places. -/
def HasThreeCorners (ps : List (Point α)) : Prop :=
  ∃ corners, corners.Sublist ps ∧ corners.length = 3 ∧ Apart corners

/-- The last two points are at one place. -/
def EndsTwice (ps : List (Point α)) : Prop :=
  ∃ kept a b, ps = kept ++ [a, b] ∧ (a == b) = true

/-- The last three points are at one place. -/
def EndsThrice (ps : List (Point α)) : Prop :=
  ∃ kept a b c, ps = kept ++ [a, b, c] ∧ (a == b) = true ∧ (b == c) = true

variable {ps qs kept : List (Point α)} {a b p : Point α} {d : Drawing α}

theorem Apart.sublist (h : Apart ps) (hqs : qs.Sublist ps) : Apart qs := List.Pairwise.sublist hqs h

theorem apart_concat : Apart (ps ++ [p]) ↔ Apart ps ∧ ∀ q ∈ ps, (q == p) = false := by
  simp [Apart, List.pairwise_append]

theorem Apart.not_endsTwice (h : Apart ps) : ¬ EndsTwice ps := by
  rintro ⟨kept, a, b, rfl, hab⟩
  have hpair : Apart [a, b] := h.sublist (List.sublist_append_right kept [a, b])
  simp [Apart, hab] at hpair

theorem Apart.hasThreeCorners (h : Apart ps) (hlen : 3 ≤ ps.length) : HasThreeCorners ps :=
  ⟨ps.take 3, List.take_sublist 3 ps, List.length_take_of_le hlen,
    h.sublist (List.take_sublist 3 ps)⟩

theorem HasThreeCorners.mono (h : HasThreeCorners qs) (hqs : qs.Sublist ps) :
    HasThreeCorners ps := by
  obtain ⟨corners, hsub, hlen, hapart⟩ := h
  exact ⟨corners, hsub.trans hqs, hlen, hapart⟩

/-! ### Repeated points -/

theorem beq_trans [OrderedScalar α] {q r : Point α} (h : (p == q) = true) (h' : (q == r) = true) :
    (p == r) = true := by
  obtain ⟨hx, hy⟩ := Bool.and_eq_true_iff.mp h
  obtain ⟨hx', hy'⟩ := Bool.and_eq_true_iff.mp h'
  exact Bool.and_eq_true_iff.mpr ⟨Scalar.beq_trans hx hx', Scalar.beq_trans hy hy'⟩

/-- A last point that repeats the one before it does not count among the corners. -/
theorem hasThreeCorners_repeated [OrderedScalar α] (hab : (a == b) = true) :
    HasThreeCorners (kept ++ [a]) ↔ HasThreeCorners (kept ++ [a, b]) := by
  constructor
  · exact fun h => h.mono (by simp)
  · rintro ⟨corners, hsub, hlen, hapart⟩
    obtain ⟨front, back, rfl, hfront, hback⟩ := List.sublist_append_iff.mp hsub
    cases hback with
    | cons _ hback =>
      rcases List.sublist_singleton.mp hback with rfl | rfl
      · rw [List.append_nil] at hlen hapart
        exact ⟨front, hfront.trans (List.sublist_append_left kept [a]), hlen, hapart⟩
      · -- The point repeated takes the place of the one that repeats it.
        obtain ⟨hapart, hb⟩ := apart_concat.mp hapart
        refine ⟨front ++ [a], hfront.append (.refl [a]), by simpa using hlen, ?_⟩
        refine apart_concat.mpr ⟨hapart, fun q hq => ?_⟩
        rw [Bool.eq_false_iff]
        intro hqa
        exact Bool.false_ne_true ((hb q hq).symm.trans (beq_trans hqa hab))
    | cons_cons _ hback =>
      rcases List.sublist_singleton.mp hback with rfl | rfl
      · exact ⟨front ++ [a], hfront.append (.refl [a]), hlen, hapart⟩
      · have hpair : Apart [a, b] := hapart.sublist (List.sublist_append_right front [a, b])
        simp [Apart, hab] at hpair

theorem endsTwice_repeated (hab : (a == b) = true) :
    EndsTwice (kept ++ [a]) ↔ EndsThrice (kept ++ [a, b]) := by
  constructor
  · rintro ⟨before, c, a', heq, hca⟩
    have hsplit : kept ++ [a] = (before ++ [c]) ++ [a'] := by simpa using heq
    obtain ⟨rfl, ha⟩ := List.append_inj' hsplit rfl
    cases ha
    exact ⟨before, c, a, b, by simp, hca, hab⟩
  · rintro ⟨before, c, a', b', heq, hca, -⟩
    have hsplit : kept ++ [a, b] = (before ++ [c]) ++ [a', b'] := by simpa using heq
    obtain ⟨rfl, ha⟩ := List.append_inj' hsplit rfl
    cases ha
    exact ⟨before, c, a, by simp, hca⟩

theorem not_endsTwice_of_dropRepeated (h : d.dropRepeated = d) : ¬ EndsTwice d.points := by
  rintro ⟨kept, a, b, hpoints, hab⟩
  have hlen := congrArg (fun d : Drawing α => d.points.length)
    (h.symm.trans (dropRepeated_of_points hpoints hab))
  simp [hpoints] at hlen

/-- **What a double click makes of the vertices.** -/
theorem corners_dropRepeated [OrderedScalar α] (d : Drawing α) :
    (HasThreeCorners d.dropRepeated.points ↔ HasThreeCorners d.points) ∧
      (EndsTwice d.dropRepeated.points ↔ EndsThrice d.points) := by
  rcases d.dropRepeated_cases with hsame | ⟨kept, a, b, hab, hpoints, hdrop⟩
  · have hends := not_endsTwice_of_dropRepeated hsame
    rw [hsame]
    refine ⟨Iff.rfl, iff_of_false hends ?_⟩
    rintro ⟨kept, a, b, c, hpoints, -, hbc⟩
    exact hends ⟨kept ++ [a], b, c, by simpa using hpoints, hbc⟩
  · rw [hdrop, hpoints]
    exact ⟨hasThreeCorners_repeated hab, endsTwice_repeated hab⟩

/-! ### Vertices at rest -/

/-- The input is not a release that places a vertex where one is at rest. -/
def placesApart (d : Drawing α) : Input α → Bool
  | .up p _ _ => d.appendNext || (d.points.take d.resting).all fun q => !(q == p)
  | .down _ | .move _ _ | .doubleClick _ => true

/-- No release places a vertex where one is at rest. -/
def ReleasesApart (options : DrawingOptions) (inputs : List (Input α)) : Prop :=
  ∀ (k : Nat) (hk : k < inputs.length), (run options (inputs.take k)).placesApart inputs[k] = true

variable {options : DrawingOptions} {inputs : List (Input α)} {input : Input α}

theorem apart_of_length_le_one (h : ps.length ≤ 1) : Apart ps := by
  match ps, h with
  | [], _ => exact .nil
  | [p], _ => exact List.pairwise_singleton _ p

/-- **One input keeps the vertices at rest apart.** -/
theorem apart_feed (hkind : d.options.kind = .polygon) (h : Apart (d.points.take d.resting))
    (hinput : d.placesApart input = true) :
    Apart ((d.feed input).2.points.take (d.feed input).2.resting) := by
  cases input with
  | down p =>
    rw [feed_down]
    split_ifs
    · exact h
    · exact apart_of_length_le_one (by simp)
  | move p v =>
    rw [feed_move hkind]
    split_ifs
    · rw [resting_setLive, points_setLive,
        List.take_left' (List.length_take_of_le d.resting_le)]
      exact h
    · exact h
  | up p v id =>
    rw [feed_up hkind]
    split_ifs with hstarted hfixed
    · -- The vertices stay, and all of them are at rest now.
      refine Apart.sublist ?_ (List.take_sublist _ _)
      rcases Bool.or_eq_true_iff.mp hfixed with happend | hlen
      · rwa [resting, if_pos happend, List.take_length] at h
      · exact apart_of_length_le_one (of_decide_eq_true hlen)
    · have happend : d.appendNext = false := by
        rw [Bool.eq_false_iff]
        exact fun h => hfixed (Bool.or_eq_true_iff.mpr (Or.inl h))
      refine Apart.sublist (apart_concat.mpr ⟨h, ?_⟩) (List.take_sublist _ _)
      simpa [placesApart, happend] using hinput
    · exact h
  | doubleClick id =>
    rw [feed_doubleClick hkind]
    rcases d.dropRepeated_cases with hsame | ⟨kept, a, b, -, hpoints, hdrop⟩
    · rwa [hsame]
    · rw [hdrop]
      refine h.sublist ?_
      rw [resting, resting, hpoints]
      split_ifs
      · rw [List.take_length, List.take_length]
        simp
      · rw [← List.dropLast_eq_take, ← List.dropLast_eq_take]
        simp

theorem releasesApart_concat : ReleasesApart options (inputs ++ [input]) ↔
    ReleasesApart options inputs ∧ (run options inputs).placesApart input = true :=
  forall_take_concat (P := fun before input => (run options before).placesApart input = true)

theorem apart_run (hkind : options.kind = .polygon) (h : ReleasesApart options inputs) :
    Apart ((run options inputs).points.take (run options inputs).resting) := by
  induction inputs using List.reverseRecOn with
  | nil => exact .nil
  | append_singleton inputs input ih =>
    obtain ⟨hbefore, hinput⟩ := releasesApart_concat.mp h
    rw [run_concat]
    exact apart_feed (by rw [options_run, hkind]) (ih hbefore) hinput

/-- What a double click leaves of vertices that lie apart as far as they are at rest. -/
theorem apart_dropRepeated (h : Apart (d.points.take d.resting)) :
    Apart d.dropRepeated.points.dropLast ∧ ¬ EndsTwice d.dropRepeated.points := by
  have hall : Apart d.points.dropLast := by
    have hle : d.points.length - 1 ≤ d.resting := Nat.sub_le_of_le_add d.length_le_resting
    rw [List.dropLast_eq_take]
    exact h.sublist (List.take_prefix_take_left hle).sublist
  rcases d.dropRepeated_cases with hsame | ⟨kept, a, b, -, hpoints, hdrop⟩
  · rw [hsame]
    exact ⟨hall, not_endsTwice_of_dropRepeated hsame⟩
  · have hkept : Apart (kept ++ [a]) := by simpa [hpoints] using hall
    rw [hdrop]
    exact ⟨hkept.sublist (List.dropLast_sublist _), hkept.not_endsTwice⟩

/-! ### Finished polygons -/

/-- **The corners of a finished polygon.** Whatever is fed, a polygon that is finished has three
vertices or more. It has three distinct ones exactly if as many were drawn, and it ends in a
repeated vertex exactly if the one drawn last was drawn three times. If no release has placed a
vertex where one was at rest, all its vertices but the last lie apart, the last is not where the one
before it is, and three are distinct if there are more than three. -/
theorem finished_corners (options : DrawingOptions) (hkind : options.kind = .polygon)
    (inputs : List (Input Float)) (input : Input Float) (shape : Shape Float)
    (hcommit : ((run options inputs).feed input).1 = .commit shape) :
    let drawn := (run options inputs).points
    ∃ vertices, shape.geometry = .polygon vertices ∧ 3 ≤ vertices.length ∧
      (HasThreeCorners vertices ↔ HasThreeCorners drawn) ∧
      (EndsTwice vertices ↔ EndsThrice drawn) ∧
      (ReleasesApart options inputs → Apart vertices.dropLast ∧ ¬ EndsTwice vertices ∧
        (3 < vertices.length → HasThreeCorners vertices)) := by
  have hdrawn : (run options inputs).options.kind = .polygon := by rw [options_run, hkind]
  obtain ⟨⟨id, hfinishing⟩, hcommittable, hdraft, -⟩ := feed_eq_commit hcommit
  have hfeed : ((run options inputs).feed input).2 = (run options inputs).dropRepeated := by
    have hdouble := hfinishing.isDoubleClick hdrawn
    cases input with
    | doubleClick id => rw [feed_doubleClick hdrawn]
    | down _ | move _ _ | up _ _ _ => cases hdouble
  rw [hfeed] at hcommittable hdraft
  have hdropped : (run options inputs).dropRepeated.options.kind = .polygon := by
    rw [options_dropRepeated, hdrawn]
  rw [isCommittable_polygon hdropped] at hcommittable
  have hlen := of_decide_eq_true hcommittable
  obtain ⟨hthree, htwice⟩ := corners_dropRepeated (run options inputs)
  refine ⟨(run options inputs).dropRepeated.points, ?_, hlen, hthree, htwice, fun hreleases => ?_⟩
  · have hpolygon : (run options inputs).dropRepeated.draft? =
        some (.polygon (run options inputs).dropRepeated.points) := by
      simp [draft?, hdropped, Nat.le_of_succ_le hlen]
    exact Option.some.inj (hdraft.symm.trans hpolygon)
  · obtain ⟨hapart, hends⟩ := apart_dropRepeated (apart_run hkind hreleases)
    refine ⟨hapart, hends, fun hfour => ?_⟩
    refine (hapart.hasThreeCorners ?_).mono (List.dropLast_sublist _)
    rw [List.length_dropLast]
    exact Nat.le_sub_one_of_lt hfour

/-- A triangle that is finished by a double click: its last vertex is placed, and the pointer moves
there once more. -/
def doubleClicked : List (Input Float) :=
  [.down ⟨0.25, 0.25⟩, .up ⟨0.25, 0.25⟩ ⟨100, 100⟩ ⟨1⟩, .move ⟨0.75, 0.25⟩ ⟨100, 100⟩,
    .up ⟨0.75, 0.25⟩ ⟨100, 100⟩ ⟨2⟩, .move ⟨0.5, 0.75⟩ ⟨100, 100⟩,
    .up ⟨0.5, 0.75⟩ ⟨100, 100⟩ ⟨3⟩, .move ⟨0.5, 0.75⟩ ⟨100, 100⟩]

/-- The triangle has three distinct vertices. -/
theorem finished_corners_doubleClicked :
    ({ kind := .polygon } : DrawingOptions).kind = .polygon ∧
      ReleasesApart { kind := .polygon } doubleClicked ∧
      ∃ shape : Shape Float,
        ((run { kind := .polygon } doubleClicked).feed (.doubleClick ⟨4⟩)).1 = .commit shape ∧
        ∃ vertices, shape.geometry = .polygon vertices ∧ HasThreeCorners vertices ∧
          ¬ EndsTwice vertices := by
  have hreleases : ReleasesApart { kind := .polygon } doubleClicked := by
    unfold ReleasesApart
    decide +kernel
  have hiscommit : ((run { kind := .polygon } doubleClicked).feed
      (.doubleClick ⟨4⟩)).1.isCommit = true := by decide +kernel
  obtain ⟨shape, hshape⟩ := DrawingStep.exists_of_isCommit hiscommit
  obtain ⟨vertices, hvertices, -, hthree, -, hapart⟩ :=
    finished_corners { kind := .polygon } rfl doubleClicked (.doubleClick ⟨4⟩) shape hshape
  have hdrawn : HasThreeCorners (run { kind := .polygon } doubleClicked).points := by
    refine ⟨_, List.take_sublist 3 _, by decide +kernel, ?_⟩
    unfold Apart
    decide +kernel
  exact ⟨rfl, hreleases, shape, hshape, vertices, hvertices, hthree.mpr hdrawn,
    (hapart hreleases).2.1⟩

/-- If the pointer is clicked four times at one place, a polygon is finished there. -/
theorem one_place_finished : ¬ ∀ (options : DrawingOptions) (inputs : List (Input Float))
    (input : Input Float) (shape : Shape Float) (vertices : List (Point Float)),
    ((run options inputs).feed input).1 = .commit shape → shape.geometry = .polygon vertices →
      HasThreeCorners vertices ∧ ¬ EndsTwice vertices := by
  intro h
  let p : Point Float := ⟨0.5, 0.5⟩
  let v : Viewport Float := ⟨100, 100⟩
  let d := run { kind := .polygon }
    [.down p, .up p v ⟨1⟩, .move p v, .up p v ⟨2⟩, .move p v, .up p v ⟨3⟩, .move p v]
  have hsame : (p == p) = true := by decide +kernel
  have hdrop : d.dropRepeated = { d with points := [p, p] ++ [p] } :=
    dropRepeated_of_points rfl hsame
  have hiscommit : (d.feed (.doubleClick ⟨4⟩)).1.isCommit = true := by decide +kernel
  obtain ⟨shape, hshape⟩ := DrawingStep.exists_of_isCommit hiscommit
  obtain ⟨-, -, hdraft, -⟩ := feed_eq_commit hshape
  rw [feed_doubleClick rfl, hdrop] at hdraft
  obtain ⟨-, hends⟩ := h _ _ _ shape [p, p, p] hshape (Option.some.inj hdraft).symm
  exact hends ⟨[p], p, p, rfl, hsame⟩

end ShapeOverlay.Drawing
