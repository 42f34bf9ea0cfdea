import ShapeOverlay.Proofs.Session.Finish

/-! # Refused finishes

A finish is refused if the draft has no extent. By then the draft has been brought up to the pointer,
and so a refused finish may leave another draft than it found (`Drawing.Spoils`): the second corner
of a rectangle has gone to a place on a line with the first, a circle has lost its radius, or a
polygon of two or three vertices has lost a last one that repeats the one before it. The session
does not tell: the outcome is that of an input without effect. No other input that is ignored
changes the session (`feed_eq_ignored_iff`). -/

namespace ShapeOverlay.Drawing

variable {α : Type} [Scalar α]

/-- **A finish that is refused and leaves another draft.** A rectangle is released on a line with
its first corner, or a circle at its centre, or a polygon with too few vertices repeats the last of
them. -/
inductive Spoils (d : Drawing α) : Input α → Drawing α → Prop
  | rectangle {a p : Point α} {rest : List (Point α)} {v : Viewport α} {id : Identifier}
    (kind : d.options.kind = .rectangle) (points : d.points = a :: rest)
    (flat : (a.x == p.x) = true ∨ (a.y == p.y) = true) (moved : rest ≠ [p]) :
    Spoils d (.up p v id) { d with points := [a, p] }
  | circle {c p : Point α} {rest : List (Point α)} {v : Viewport α} {id : Identifier}
    (kind : d.options.kind = .circle) (points : d.points = c :: rest)
    (fits : v.fitsCircle c ((Radius.between c p).effective v) = true)
    (isZero : (Radius.between c p).isZero = true) (moved : d.radius ≠ .between c p) :
    Spoils d (.up p v id) { d with radius := .between c p }
  | polygon {kept : List (Point α)} {a b : Point α} {id : Identifier}
    (kind : d.options.kind = .polygon) (points : d.points = kept ++ [a, b])
    (repeated : (a == b) = true) (few : kept.length ≤ 1) :
    Spoils d (.doubleClick id) { d with points := kept ++ [a] }

variable {d d' : Drawing α} {input : Input α} {p : Point α} {v : Viewport α} {id : Identifier}

omit [Scalar α] in
theorem exists_points (h : d.isStarted = true) : ∃ a rest, d.points = a :: rest :=
  List.exists_cons_of_length_pos (isStarted_iff.mp h)

theorem isCommittable_corners (hkind : d.options.kind = .rectangle) (a b : Point α) :
    ({ d with points := [a, b] } : Drawing α).isCommittable = false ↔
      (a.x == b.x) = true ∨ (a.y == b.y) = true := by
  rw [isCommittable_rectangle (d := { d with points := [a, b] }) hkind rfl, bne, bne]
  cases a.x == b.x <;> cases a.y == b.y <;> simp

theorem isCommittable_edge {c : Point α} {rest : List (Point α)} (hkind : d.options.kind = .circle)
    (hpoints : d.points = c :: rest) (r : Radius α) :
    ({ d with radius := r } : Drawing α).isCommittable = false ↔ r.isZero = true := by
  rw [isCommittable_circle (d := { d with radius := r }) hkind hpoints, Bool.not_eq_false']

theorem isCommittable_vertices (hkind : d.options.kind = .polygon) (vertices : List (Point α)) :
    ({ d with points := vertices } : Drawing α).isCommittable = false ↔ vertices.length ≤ 2 := by
  rw [isCommittable_polygon (d := { d with points := vertices }) hkind, decide_eq_false_iff_not,
    Nat.not_le, Nat.lt_succ_iff]

/-- **A finish that is refused leaves the session as it was or spoils the draft.** -/
theorem Finishing.spoils (h : d.Finishing input id d') (hrefused : d'.isCommittable = false)
    (hne : d' ≠ d) : d.Spoils input d' := by
  cases h with
  | @rectangle p v id hkind hstarted =>
    obtain ⟨a, rest, hpoints⟩ := exists_points hstarted
    have hsecond : d.setSecond p = { d with points := [a, p] } := by simp [setSecond, hpoints]
    rw [hsecond] at hrefused hne ⊢
    refine .rectangle hkind hpoints ((isCommittable_corners hkind a p).mp hrefused) ?_
    rintro rfl
    rw [← hpoints] at hne
    exact hne rfl
  | @circle p v id hkind hstarted =>
    cases hedge : d.setEdge? p v with
    | none =>
      rw [hedge] at hne
      exact absurd rfl hne
    | some d₁ =>
      obtain ⟨c, rest, hpoints, hfits, rfl⟩ := setEdge?_eq_some_iff.mp hedge
      rw [hedge] at hrefused hne
      refine .circle hkind hpoints hfits ((isCommittable_edge hkind hpoints _).mp hrefused) ?_
      intro hsame
      rw [← hsame] at hne
      exact hne rfl
  | polygon hkind =>
    rcases d.dropRepeated_cases with hsame | ⟨kept, a, b, hab, hpoints, hdrop⟩
    · exact absurd hsame hne
    · rw [hdrop] at hrefused ⊢
      have hlen := (isCommittable_vertices hkind (kept ++ [a])).mp hrefused
      exact .polygon hkind hpoints hab (by simpa using hlen)

theorem Spoils.finishing (h : d.Spoils input d') :
    ∃ id, d.Finishing input id d' ∧ d'.isCommittable = false := by
  cases h with
  | @rectangle a p rest v id hkind hpoints hflat hmoved =>
    have hsecond : d.setSecond p = { d with points := [a, p] } := by simp [setSecond, hpoints]
    have hstarted : d.isStarted = true := by simp [isStarted, hpoints]
    exact ⟨id, hsecond ▸ .rectangle hkind hstarted, (isCommittable_corners hkind a p).mpr hflat⟩
  | @circle c p rest v id hkind hpoints hfits hzero hmoved =>
    have hedge := setEdge?_eq_some_iff.mpr ⟨c, rest, hpoints, hfits, rfl⟩
    have hstarted : d.isStarted = true := by simp [isStarted, hpoints]
    have hfinishing : d.Finishing (.up p v id) id ((d.setEdge? p v).getD d) :=
      .circle hkind hstarted
    rw [hedge] at hfinishing
    exact ⟨id, hfinishing, (isCommittable_edge hkind hpoints _).mpr hzero⟩
  | @polygon kept a b id hkind hpoints hab hfew =>
    have hdrop := dropRepeated_of_points hpoints hab
    refine ⟨id, hdrop ▸ .polygon hkind, (isCommittable_vertices hkind (kept ++ [a])).mpr ?_⟩
    simpa using hfew

/-- A spoiled draft does not look as it did. -/
theorem Spoils.draft?_ne (h : d.Spoils input d') : d'.draft? ≠ d.draft? := by
  cases h with
  | @rectangle a p rest v id hkind hpoints hflat hmoved =>
    intro hsame
    have hdraft : d.draft? = some (.rectangle a p) := by
      rw [← hsame]
      simp only [draft?, hkind]
    cases drafted hdraft with
    | rectangle _ hpoints' =>
      rw [hpoints] at hpoints'
      exact hmoved (List.cons.inj hpoints').2
  | circle hkind hpoints hfits hzero hmoved =>
    simpa [draft?, hkind, hpoints] using hmoved.symm
  | @polygon kept a b id hkind hpoints hab hfew =>
    intro hsame
    have hdraft : d.draft? = some (.polygon (kept ++ [a, b])) := by
      simp [draft?, hkind, hpoints]
    rw [hdraft] at hsame
    cases drafted hsame with
    | polygon _ hpoints' => simp at hpoints'

/-- **An ignored input changes the session exactly if it is a finish that spoils the draft.** -/
theorem feed_eq_ignored_iff :
    d.feed input = (.ignored, d') ∧ d' ≠ d ↔ d.Spoils input d' := by
  constructor
  · rintro ⟨hfeed, hne⟩
    rcases feed_cases d input with hignored | ⟨d₁, hpreview⟩ | ⟨id, d₁, hfinishing, hfinish⟩
    · rw [hignored] at hfeed
      cases hfeed
      exact absurd rfl hne
    · rw [hpreview] at hfeed
      cases hfeed
    · rw [hfinish] at hfeed
      obtain ⟨hignored, rfl⟩ := Prod.mk.inj hfeed
      exact hfinishing.spoils ((finish_eq_ignored_iff d₁ id).mp hignored) hne
  · intro hspoils
    obtain ⟨id, hfinishing, hrefused⟩ := hspoils.finishing
    rw [hfinishing.feed_eq, (finish_eq_ignored_iff d' id).mpr hrefused]
    exact ⟨rfl, fun hsame => hspoils.draft?_ne (congrArg draft? hsame)⟩

/-- A rectangle that is released on a line with its first corner is refused, and its second corner
has moved all the same. -/
theorem ignored_release_moves_corner : ¬ ∀ (options : DrawingOptions)
    (inputs : List (Input Float)) (input : Input Float),
    ((run options inputs).feed input).1 = .ignored →
      ((run options inputs).feed input).2 = run options inputs := by
  intro hignored
  let inputs : List (Input Float) := [.down ⟨0.25, 0.25⟩, .move ⟨0.5, 0.5⟩ ⟨100, 100⟩]
  let d := run { kind := .rectangle } inputs
  have hpoints : d.points = [⟨0.25, 0.25⟩, ⟨0.5, 0.5⟩] := rfl
  have hspoils : d.Spoils (.up ⟨0.25, 0.75⟩ ⟨100, 100⟩ .nil)
      { d with points := [⟨0.25, 0.25⟩, ⟨0.25, 0.75⟩] } :=
    .rectangle rfl hpoints (Or.inl (by decide +kernel)) (by decide +kernel)
  obtain ⟨hfeed, hne⟩ := feed_eq_ignored_iff.mpr hspoils
  have hkept := hignored { kind := .rectangle } inputs _ (congrArg Prod.fst hfeed)
  rw [hfeed] at hkept
  exact hne hkept

end ShapeOverlay.Drawing
