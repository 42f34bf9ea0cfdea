import ShapeOverlay.Proofs.Editor.Preview
import ShapeOverlay.Proofs.Session.Numbers

/-! # Points that sessions take as they are

An event hands its point to the session that receives it. The draft of a rectangle or a polygon makes
it one of its points (`Drawing.Takes`, `Drawing.took_respond`), and so does a polygon whose vertex is
dragged (`Editing.Takes`). These are the only sessions that a point spoils which is not made of
numbers (`Drawing.numeric_respond_iff`, `Editing.has_respond_iff`). -/

namespace ShapeOverlay

open Scalar Binary64

variable {v : Viewport Float} {g : Geometry Float} {event : Event}

/-- The pixel at which an event happens. -/
def Event.pixel : Event → Point Float
  | .down pixel _ | .move pixel | .up pixel _ | .click pixel | .doubleClick pixel => pixel

/-- Every relative point lies in the unit square as far as it can be told. -/
theorem Viewport.fits_pixel (v : Viewport Float) (pixel : Point Float) :
    (v.toRelative pixel).Fits fun _ => True :=
  fits_toRelative domain_all ⟨trivial, trivial⟩ ⟨trivial, trivial⟩

/-! ### Drawing -/

namespace Drawing

variable {d : Drawing Float} {id : Identifier} {shape : Shape Float}

/-- **The draft of a rectangle or a polygon takes the point of an event as it is.** -/
def Takes (d : Drawing Float) (event : Event) : Prop :=
  d.options.kind ≠ .circle ∧ match event with
    | .down _ button => button = .primary ∧ d.isStarted = false
    | .move _ => d.isStarted = true
    | .up _ button => button = .primary ∧ d.isStarted = true ∧
        (d.options.kind = .polygon → d.appendNext = false ∧ 1 < d.points.length)
    | .click _ | .doubleClick _ => False

/-- **What an event makes of the points of a draft**: it takes its point, or it takes none. -/
inductive Took (d : Drawing Float) (v : Viewport Float) (event : Event) (d' : Drawing Float) :
    Prop where
  | none (takes : ¬ d.Takes event) (points : d'.points ⊆ d.points)
  | point (takes : d.Takes event) (kept : List (Point Float)) (sub : kept ⊆ d.points)
    (points : d'.points = kept ++ [v.toRelative event.pixel])

theorem took_of_ignored (h : ¬ d.Takes event) : d.Took v event d := .none h (List.Subset.refl _)

theorem took_down (hkind : d.options.kind ≠ .circle) (v : Viewport Float) (id : Identifier)
    (pixel : Point Float) :
    d.Took v (.down pixel .primary) (d.respond v id (.down pixel .primary)).2 := by
  have hdown : (d.respond v id (.down pixel .primary)).2 = _ := d.feed_down (v.toRelative pixel)
  rw [hdown]
  split_ifs with hstarted
  · exact took_of_ignored (by simp [Takes, hstarted])
  · exact .point ⟨hkind, rfl, by simpa using hstarted⟩ [] (List.nil_subset _) rfl

theorem took_move (hkind : d.options.kind ≠ .circle) (v : Viewport Float) (id : Identifier)
    (pixel : Point Float) : d.Took v (.move pixel) (d.respond v id (.move pixel)).2 := by
  cases hd : d.options.kind with
  | rectangle =>
    have hmove : (d.respond v id (.move pixel)).2 = _ := feed_move_rectangle hd
    rw [hmove]
    split_ifs with hstarted
    · exact .point ⟨hkind, hstarted⟩ (d.points.take 1) (List.take_subset _ _) rfl
    · exact took_of_ignored fun h => hstarted h.2
  | polygon =>
    have hmove : (d.respond v id (.move pixel)).2 = _ := feed_move hd
    rw [hmove]
    split_ifs with hstarted
    · exact .point ⟨hkind, hstarted⟩ _ (List.take_subset _ _) (points_setLive d _)
    · exact took_of_ignored fun h => hstarted h.2
  | circle => exact absurd hd hkind

theorem took_up (hkind : d.options.kind ≠ .circle) (v : Viewport Float) (id : Identifier)
    (pixel : Point Float) :
    d.Took v (.up pixel .primary) (d.respond v id (.up pixel .primary)).2 := by
  cases hd : d.options.kind with
  | rectangle =>
    have hup : (d.respond v id (.up pixel .primary)).2 = _ := feed_up_rectangle hd
    rw [hup]
    split_ifs with hstarted
    · exact .point ⟨hkind, rfl, hstarted, by simp [hd]⟩ (d.points.take 1) (List.take_subset _ _) rfl
    · exact took_of_ignored fun h => hstarted h.2.2.1
  | polygon =>
    have hup : (d.respond v id (.up pixel .primary)).2 = _ := feed_up hd
    rw [hup]
    split_ifs with hstarted hfixed
    · -- The last vertex is at rest, so it does not follow the pointer.
      refine .none ?_ (List.Subset.refl _)
      rintro ⟨-, -, -, hlive⟩
      obtain ⟨hfollows, hlength⟩ := hlive hd
      simp [hfollows] at hfixed
      omega
    · exact .point ⟨hkind, rfl, hstarted, by simpa [hd] using hfixed⟩ _ (List.take_subset _ _) rfl
    · exact took_of_ignored fun h => hstarted h.2.2.1
  | circle => exact absurd hd hkind

theorem points_doubleClick (d : Drawing Float) (id : Identifier) :
    (d.doubleClick id).2.points ⊆ d.points := by
  unfold doubleClick
  split
  · rcases d.dropRepeated_cases with hsame | ⟨kept, a, b, -, hpoints, hdrop⟩
    · rw [hsame]
      exact List.Subset.refl _
    · rw [hdrop, hpoints]
      simp
  · exact List.Subset.refl _

theorem took_respond (hkind : d.options.kind ≠ .circle) (v : Viewport Float) (id : Identifier)
    (event : Event) : d.Took v event (d.respond v id event).2 := by
  cases event with
  | down pixel button =>
    cases button with
    | primary => exact took_down hkind v id pixel
    | middle | secondary => exact took_of_ignored (by simp [Takes])
  | move pixel => exact took_move hkind v id pixel
  | up pixel button =>
    cases button with
    | primary => exact took_up hkind v id pixel
    | middle | secondary => exact took_of_ignored (by simp [Takes])
  | click pixel => exact took_of_ignored (by simp [Takes])
  | doubleClick pixel => exact .none (by simp [Takes]) (points_doubleClick d id)

theorem options_respond (d : Drawing Float) (v : Viewport Float) (id : Identifier)
    (event : Event) : (d.respond v id event).2.options = d.options := by
  rcases d.respond_cases v id event with hignored | ⟨input, hfeed⟩
  · rw [hignored]
  · rw [hfeed, options_feed]

/-- **The draft of a rectangle or a polygon stays one of numbers** unless it takes a point that is
not made of numbers. -/
theorem numeric_respond_iff (hd : d.Numeric) : (d.respond v id event).2.Numeric ↔
    (d.Takes event → (v.toRelative event.pixel).Has IsNumber) := by
  by_cases hkind : d.options.kind = .circle
  · refine iff_of_true (fun hne => absurd ?_ hne) fun h => absurd hkind h.1
    rw [options_respond, hkind]
  · have hnumeric : (d.respond v id event).2.Numeric ↔
        ∀ p ∈ (d.respond v id event).2.points, p.Has IsNumber := by
      rw [Numeric, options_respond]
      exact ⟨fun h => h hkind, fun h _ => h⟩
    rw [hnumeric]
    cases took_respond hkind v id event with
    | none hno hsub => exact iff_of_true (fun p hp => hd hkind p (hsub hp)) fun h => absurd h hno
    | point htakes kept hsub hpoints =>
      rw [hpoints, List.forall_mem_append, List.forall_mem_singleton]
      exact ⟨fun h _ => h.2, fun h => ⟨fun p hp => hd hkind p (hsub hp), h htakes⟩⟩

theorem Measured.respond (hd : d.Measured) (v : Viewport Float) (id : Identifier) (event : Event) :
    (d.respond v id event).2.Measured := by
  rcases d.respond_cases v id event with hignored | ⟨input, hfeed⟩
  · rw [hignored]
    exact hd
  · rw [hfeed]
    exact hd.feed input

/-- A finished shape is made of numbers exactly if its draft is. -/
theorem Measured.has_commit_iff (hd : d.Measured)
    (h : (d.respond v id event).1 = .commit shape) :
    shape.geometry.Has IsNumber ↔ (d.respond v id event).2.Numeric := by
  rcases d.respond_cases v id event with hignored | ⟨input, hfeed⟩
  · rw [hignored] at h
    cases h
  · rw [hfeed] at h ⊢
    obtain ⟨-, hcommittable, hdraft, -⟩ := feed_eq_commit h
    exact has_iff_numeric (hd.feed input) hcommittable hdraft

end Drawing

/-! ### Editing -/

namespace Editing

variable {t : Editing Float} {slop : Float} {c : Cursor} {r : Response}

/-- **A vertex that is dragged takes the point of an event as it is.** -/
def Takes (t : Editing Float) (g : Geometry Float) : Event → Prop
  | .move _ => ∃ d, t.drag = some d ∧ d.Takes g
  | .down _ _ | .up _ _ | .click _ | .doubleClick _ => False

/-- The drag after an event is the one before, or there is none, or a press has begun it. -/
theorem session_respond_cases (h : t.respond g v slop c event = some r) :
    r.session.drag = t.drag ∨ r.session.drag = none ∨
      ∃ pixel, r.session = (t.pointerDown g (v.toRelative pixel) v slop).2 := by
  cases event with
  | down pixel button =>
    cases button <;> cases h
    · exact Or.inr (Or.inr ⟨pixel, rfl⟩)
    · exact Or.inl rfl
    · exact Or.inl rfl
  | move pixel =>
    rw [respond] at h
    split_ifs at h <;> cases h
    · exact Or.inl (drag_pointerMove t g _ v)
    · exact Or.inl rfl
  | up pixel button =>
    cases button <;> cases h
    · exact Or.inr (Or.inl (drag_pointerUp t))
    · exact Or.inl rfl
    · exact Or.inl rfl
  | click pixel =>
    rw [respond] at h
    dsimp only at h
    split_ifs at h
    cases h
    exact Or.inl (drag_click t g _ v slop)
  | doubleClick pixel =>
    cases h
    exact Or.inl rfl

theorem Measured.respond (ht : t.Measured) (h : t.respond g v slop c event = some r) :
    r.session.Measured := by
  rcases session_respond_cases h with hsame | hnone | ⟨pixel, hdown⟩
  · exact fun d hd => ht d (hsame ▸ hd)
  · exact fun d hd => by simp [hnone] at hd
  · rw [hdown]
    exact measured_pointerDown ht (v.fits_pixel pixel)

theorem Numeric.respond (ht : t.Numeric) (hg : g.Has IsNumber)
    (h : t.respond g v slop c event = some r) : r.session.Numeric := by
  rcases session_respond_cases h with hsame | hnone | ⟨pixel, hdown⟩
  · exact fun d hd => ht d (hsame ▸ hd)
  · exact fun d hd => by simp [hnone] at hd
  · rw [hdown]
    exact numeric_pointerDown ht hg

/-- **The geometry that is edited stays one of numbers** unless a vertex takes a point that is not
made of numbers. -/
theorem has_respond_iff (hv : v.Has fun w => w.isFinite = true) (ht : t.Measured)
    (hn : t.Numeric) (hg : g.Fits IsNumber) (h : t.respond g v slop c event = some r) :
    r.geometry.Has IsNumber ↔ (t.Takes g event → (v.toRelative event.pixel).Has IsNumber) := by
  cases event with
  | move pixel =>
    rw [respond] at h
    split_ifs at h with hdragging <;> cases h
    · obtain ⟨d, hd⟩ := Option.isSome_iff_exists.mp hdragging
      have htakes : t.Takes g (.move pixel) ↔ d.Takes g := by simp [Takes, hd]
      show (t.pointerMove g (v.toRelative pixel) v).2.1.Has IsNumber ↔ _
      rw [htakes, (pointerMove_of_drag hd).1]
      exact Drag.has_apply_iff hv (ht d hd) (hn d hd) hg (v.fits_pixel pixel)
    · refine iff_of_true hg.has ?_
      rintro ⟨d, hd, -⟩
      exact absurd (Option.isSome_iff_exists.mpr ⟨d, hd⟩) hdragging
  | down pixel button | up pixel button =>
    cases button <;> cases h <;> exact iff_of_true hg.has False.elim
  | click pixel =>
    rw [respond] at h
    dsimp only at h
    split_ifs at h
    cases h
    exact iff_of_true hg.has False.elim
  | doubleClick pixel =>
    cases h
    exact iff_of_true hg.has False.elim

end Editing

end ShapeOverlay
