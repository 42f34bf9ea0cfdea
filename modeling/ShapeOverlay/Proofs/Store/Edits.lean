import ShapeOverlay.Proofs.Store.Identity
import ShapeOverlay.Proofs.Store.Removal

/-! # What operations make of the list

An operation on the list puts shapes in at the end, takes shapes out, or writes shapes in their places
(`Store.Edit`). As long as identities are distinct and a shape stays active, the shape that is found
under its identity afterwards is the one from before but for attributes that were written
(`Edit.restyled`), and writing attributes leaves the identity and the geometry alone. -/

namespace ShapeOverlay

variable {α : Type}

/-! ### Writing attributes -/

namespace Shape

/-- **What writing an attribute may touch**: color, width, status and what a host attached, each by a
value that depends on nothing but the one before. -/
theorem withAttribute_eq (name : String) (value : Value) :
    ∃ (color : String → String) (width : Float → Float) (status : Status → Status)
      (props : Value → Value), ∀ s : Shape α, s.withAttribute name value =
        { s with
          lineColor := color s.lineColor
          lineWidth := width s.lineWidth
          status := status s.status
          props := props s.props } := by
  unfold withAttribute setAttribute
  cases AttributeName.ofText name with
  | kind | id => exact ⟨fun c => c, fun w => w, fun t => t, fun p => p, fun _ => rfl⟩
  | prop key => exact ⟨fun c => c, fun w => w, fun t => t, fun p => p.put key value, fun _ => rfl⟩
  | lineColor =>
    dsimp only
    cases value.string? with
    | none => exact ⟨fun c => c, fun w => w, fun t => t, fun p => p, fun _ => rfl⟩
    | some color => exact ⟨fun _ => color, fun w => w, fun t => t, fun p => p, fun _ => rfl⟩
  | lineWidth =>
    dsimp only
    cases value.float?.filter (fun w => decide (0 ≤ w)) with
    | none => exact ⟨fun c => c, fun w => w, fun t => t, fun p => p, fun _ => rfl⟩
    | some width => exact ⟨fun c => c, fun _ => width, fun t => t, fun p => p, fun _ => rfl⟩
  | status =>
    dsimp only
    cases value.string?.bind Status.ofName? with
    | none => exact ⟨fun c => c, fun w => w, fun t => t, fun p => p, fun _ => rfl⟩
    | some status => exact ⟨fun c => c, fun w => w, fun _ => status, fun p => p, fun _ => rfl⟩

theorem withAttribute_geometry (s : Shape α) (g : Geometry α) (name : String) (value : Value) :
    ({ s with geometry := g } : Shape α).withAttribute name value =
      { s.withAttribute name value with geometry := g } := by
  obtain ⟨color, width, status, props, h⟩ := withAttribute_eq (α := α) name value
  rw [h, h]

theorem geometry_withAttribute (s : Shape α) (name : String) (value : Value) :
    (s.withAttribute name value).geometry = s.geometry := by
  obtain ⟨color, width, status, props, h⟩ := withAttribute_eq (α := α) name value
  rw [h]

theorem id_withAttribute (s : Shape α) (name : String) (value : Value) :
    (s.withAttribute name value).id = s.id := by
  obtain ⟨color, width, status, props, h⟩ := withAttribute_eq (α := α) name value
  rw [h]

/-- The shape after several attributes are written where they can be, in order. -/
def restyled (s : Shape α) (writes : List (String × Value)) : Shape α :=
  writes.foldl (fun s write => s.withAttribute write.1 write.2) s

theorem restyled_append (s : Shape α) (xs ys : List (String × Value)) :
    s.restyled (xs ++ ys) = (s.restyled xs).restyled ys := List.foldl_append

theorem id_restyled : ∀ (writes : List (String × Value)) (s : Shape α),
    (s.restyled writes).id = s.id
  | [], _ => rfl
  | (name, value) :: writes, s =>
    (id_restyled writes (s.withAttribute name value)).trans (id_withAttribute s name value)

theorem restyled_geometry (g : Geometry α) : ∀ (writes : List (String × Value)) (s : Shape α),
    ({ s with geometry := g } : Shape α).restyled writes =
      { s.restyled writes with geometry := g }
  | [], _ => rfl
  | (name, value) :: writes, s => by
    have ih := restyled_geometry g writes (s.withAttribute name value)
    rw [← withAttribute_geometry] at ih
    exact ih

theorem geometry_restyled (writes : List (String × Value)) (s : Shape α) :
    (s.restyled writes).geometry = s.geometry := by
  have hsame : s.restyled writes = { s.restyled writes with geometry := s.geometry } :=
    restyled_geometry s.geometry writes s
  rw [hsame]

end Shape

/-! ### Operations on the list -/

namespace Store

variable {writes : List (String × Value)} {s t : Store α}

/-- **What an operation may make of the list** that writes attributes. Shapes are put in at the end,
or taken out, or written in their places; an active shape that stays active gets attributes. -/
inductive Edit (writes : List (String × Value)) (s : Store α) : Store α → Prop where
  | appended (shapes : List (Shape α)) : Edit writes s ⟨s.shapes ++ shapes⟩
  | removed {t : Store α} (h : t.shapes.Sublist s.shapes) : Edit writes s t
  | updated (places : List Nat) (f : Shape α → Shape α) (id : ∀ shape, (f shape).id = shape.id)
    (restyled : ∀ shape, shape.isActive = true → (f shape).isActive = true →
      ∃ done, done.Sublist writes ∧ f shape = shape.restyled done) : Edit writes s (s.update places f)

theorem Edit.refl : Edit writes s s := .removed (.refl _)

theorem edit_push [Scalar α] {shape : Shape α} (h : s.push shape = some t) : Edit writes s t := by
  obtain ⟨-, rfl⟩ := push_eq_some_iff.mp h
  exact .appended [shape.clamped]

theorem edit_pushAll [Scalar α] (s : Store α) (shapes : List (Shape α)) :
    Edit writes s (s.pushAll shapes).1 := by
  have hstart : ∃ added, s = ⟨s.shapes ++ added⟩ := ⟨[], by rw [List.append_nil]⟩
  have hall : ∃ added, (s.pushAll shapes).1 = ⟨s.shapes ++ added⟩ := by
    refine List.foldlRecOn
      (motive := fun acc : Store α × List (Option Nat) => ∃ added, acc.1 = ⟨s.shapes ++ added⟩)
      shapes _ hstart fun acc hacc shape _ => ?_
    dsimp only
    cases hpush : acc.1.push shape with
    | none => exact hacc
    | some t =>
      obtain ⟨added, hadded⟩ := hacc
      obtain ⟨-, rfl⟩ := push_eq_some_iff.mp hpush
      exact ⟨added ++ [shape.clamped], by rw [hadded, List.append_assoc]⟩
  obtain ⟨added, hadded⟩ := hall
  rw [hadded]
  exact .appended added

theorem edit_remove (s : Store α) (selector : Selector) : Edit writes s (s.remove selector).2 :=
  .removed (s.remove_sublist selector)

theorem mem_update {places : List Nat} {f : Shape α → Shape α} {b : Shape α}
    (h : b ∈ (s.update places f).shapes) : ∃ a ∈ s.shapes, b = a ∨ b = f a := by
  obtain ⟨i, hi, rfl⟩ := List.mem_mapIdx.mp h
  refine ⟨s.shapes[i], List.getElem_mem hi, ?_⟩
  split_ifs
  · exact Or.inr rfl
  · exact Or.inl rfl

/-- **A shape that stays is the same but for attributes that were written.** -/
theorem Edit.restyled (h : Edit writes s t) (hs : s.DistinctIds) (ht : t.DistinctIds)
    {a b : Shape α} (ha : a ∈ s.shapes) (hb : b ∈ t.shapes) (hid : a.id = b.id)
    (haa : a.isActive = true) (hba : b.isActive = true) :
    ∃ done, done.Sublist writes ∧ b = a.restyled done := by
  cases h with
  | appended shapes =>
    have hab := ht.eq_of_id (List.mem_append_left shapes ha) hb hid
    exact ⟨[], List.nil_sublist _, hab.symm⟩
  | removed hsub =>
    have hab := hs.eq_of_id ha (hsub.subset hb) hid
    exact ⟨[], List.nil_sublist _, hab.symm⟩
  | updated places f hf hrestyled =>
    obtain ⟨c, hc, rfl | rfl⟩ := mem_update hb
    · have hac := hs.eq_of_id ha hc hid
      exact ⟨[], List.nil_sublist _, hac.symm⟩
    · have hac := hs.eq_of_id ha hc (hid.trans (hf c))
      subst hac
      exact hrestyled a haa hba

end Store

end ShapeOverlay
