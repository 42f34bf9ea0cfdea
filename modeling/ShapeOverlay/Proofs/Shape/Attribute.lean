import ShapeOverlay.Proofs.Store.Edits
import ShapeOverlay.Proofs.Store.Selection
import ShapeOverlay.Proofs.Value.Object

/-! # Laws of reading and writing attributes

Whether a value can be written depends on what the name denotes and on the value, not on the shape
(`AttributeName.Refuses`), and there is one description of what a write makes of the shape
(`Shape.Written`). From it follow the laws: the shape has the value that was written, all other
attributes are left alone, and of two writes of one attribute the second decides
(`Shape.attribute_write_laws`). -/

namespace ShapeOverlay

variable {α : Type}

/-! ### What can be written -/

theorem Status.ofName?_eq_some_iff {name : String} {status : Status} :
    ofName? name = some status ↔ name = status.name := by
  constructor
  · intro h
    have hname := List.find?_some (p := fun status : Status => status.name == name) h
    exact (beq_iff_eq.1 hname).symm
  · rintro rfl
    exact ofName?_name status

theorem Binary64.lt_zero_iff {a : Float} (h : IsNumber a) : a < 0 ↔ ¬ 0 ≤ a := by
  have hzero : IsNumber 0 := by simp [IsNumber, unpack_zero]
  rw [float_lt_iff, float_le_iff]
  unfold IsNumber at h hzero
  simp [h, hzero]

/-- No shape can hold the value as the attribute. The kind and the identity can only be read; a
color is a text, a width a number that is not less than zero, and a status one of the names. -/
inductive AttributeName.Refuses (value : Value) : AttributeName → Prop where
  | kind : Refuses value kind
  | id : Refuses value id
  | lineColor : (∀ color, value ≠ .ofString color) → Refuses value lineColor
  | lineWidth : (∀ width, value.float? = some width → width < 0) → Refuses value lineWidth
  | status : (∀ status : Status, value ≠ .ofString status.name) → Refuses value status

namespace Shape

variable {s t u : Shape α} {denoted : AttributeName} {value value' : Value}

/-- What writing an attribute makes of a shape, one case for each attribute that can be written. -/
inductive Written (s : Shape α) (value : Value) : AttributeName → Shape α → Prop where
  | lineColor (color : String) : value = .ofString color →
      Written s value .lineColor { s with lineColor := color }
  | lineWidth (width : Float) : value.float? = some width → 0 ≤ width →
      Written s value .lineWidth { s with lineWidth := width }
  | status (status : Status) : value = .ofString status.name →
      Written s value .status { s with status := status }
  | prop (key : String) : Written s value (.prop key) { s with props := s.props.put key value }

/-- **What a write makes of the shape**, or why it is refused. -/
theorem setAttribute_cases (s : Shape α) (name : String) (value : Value) :
    (∃ t, s.setAttribute name value = .ok t ∧ s.Written value (AttributeName.ofText name) t) ∨
      ∃ error, s.setAttribute name value = .error error ∧
        (AttributeName.ofText name).Refuses value := by
  unfold setAttribute
  cases AttributeName.ofText name with
  | kind => exact .inr ⟨_, rfl, .kind⟩
  | id => exact .inr ⟨_, rfl, .id⟩
  | lineColor =>
    cases hcolor : value.string? with
    | some color => exact .inl ⟨_, rfl, .lineColor color (Value.string?_eq_some_iff.1 hcolor)⟩
    | none =>
      refine .inr ⟨_, rfl, .lineColor fun color hvalue => ?_⟩
      rw [Value.string?_eq_some_iff.2 hvalue] at hcolor
      cases hcolor
  | lineWidth =>
    cases hwidth : value.float?.filter (fun width => decide (0 ≤ width)) with
    | some width =>
      obtain ⟨hfloat, hpos⟩ := Option.filter_eq_some_iff.1 hwidth
      exact .inl ⟨_, rfl, .lineWidth width hfloat (of_decide_eq_true hpos)⟩
    | none =>
      refine .inr ⟨_, rfl, .lineWidth fun width hfloat => ?_⟩
      refine (Binary64.lt_zero_iff (Value.isNumber_of_float? hfloat)).2 fun hpos => ?_
      exact Option.filter_eq_none_iff.1 hwidth width hfloat (decide_eq_true hpos)
  | status =>
    cases hstatus : value.string?.bind Status.ofName? with
    | some status =>
      obtain ⟨name, hname, hof⟩ := Option.bind_eq_some_iff.1 hstatus
      obtain rfl := Status.ofName?_eq_some_iff.1 hof
      exact .inl ⟨_, rfl, .status status (Value.string?_eq_some_iff.1 hname)⟩
    | none =>
      refine .inr ⟨_, rfl, .status fun status hvalue => ?_⟩
      rw [Value.string?_eq_some_iff.2 hvalue, Option.bind_some, Status.ofName?_name] at hstatus
      cases hstatus
  | prop key => exact .inl ⟨_, rfl, .prop key⟩

/-- What can be written is not refused. -/
theorem Written.not_refuses (h : s.Written value denoted t) : ¬ denoted.Refuses value := by
  intro hrefuses
  cases h with
  | lineColor color hvalue =>
    cases hrefuses with
    | lineColor hne => exact hne color hvalue
  | lineWidth width hfloat hpos =>
    cases hrefuses with
    | lineWidth hneg =>
      exact (Binary64.lt_zero_iff (Value.isNumber_of_float? hfloat)).1 (hneg width hfloat) hpos
  | status status hvalue =>
    cases hrefuses with
    | status hne => exact hne status hvalue
  | prop key => cases hrefuses

/-- A value is written in one way. -/
theorem Written.unique (h : s.Written value denoted t) (h' : s.Written value denoted u) :
    t = u := by
  cases h with
  | lineColor color hvalue =>
    cases h' with
    | lineColor color' hvalue' =>
      have hsame := Value.string?_eq_some_iff.2 hvalue
      obtain rfl : color' = color :=
        Option.some.inj ((Value.string?_eq_some_iff.2 hvalue').symm.trans hsame)
      rfl
  | lineWidth width hfloat hpos =>
    cases h' with
    | lineWidth width' hfloat' hpos' =>
      obtain rfl : width' = width := Option.some.inj (hfloat'.symm.trans hfloat)
      rfl
  | status status hvalue =>
    cases h' with
    | status status' hvalue' =>
      have hsame := Value.string?_eq_some_iff.2 hvalue
      have hname : status'.name = status.name :=
        Option.some.inj ((Value.string?_eq_some_iff.2 hvalue').symm.trans hsame)
      obtain rfl : status = status' :=
        Option.some.inj ((Status.ofName?_name status).symm.trans
          (Status.ofName?_eq_some_iff.2 hname.symm))
      rfl
  | prop key =>
    cases h'
    rfl

theorem setAttribute_eq_ok_iff {name : String} :
    s.setAttribute name value = .ok t ↔ s.Written value (AttributeName.ofText name) t := by
  rcases setAttribute_cases s name value with ⟨u, hset, hwritten⟩ | ⟨error, hset, hrefuses⟩
  · rw [hset]
    constructor
    · rintro ⟨⟩
      exact hwritten
    · exact fun h => congrArg _ (hwritten.unique h)
  · rw [hset]
    refine ⟨?_, fun h => absurd hrefuses h.not_refuses⟩
    rintro ⟨⟩

/-- **Whether a write is refused** depends on the name and the value alone. -/
theorem setAttribute_eq_error_iff {name : String} :
    (∃ error, s.setAttribute name value = .error error) ↔
      (AttributeName.ofText name).Refuses value := by
  rcases setAttribute_cases s name value with ⟨t, hset, hwritten⟩ | ⟨error, hset, hrefuses⟩
  · rw [hset]
    refine ⟨?_, fun h => absurd h hwritten.not_refuses⟩
    rintro ⟨error, ⟨⟩⟩
  · exact ⟨fun _ => hrefuses, fun _ => ⟨error, hset⟩⟩

/-! ### What is read afterwards -/

/-- A value that is not null is what the shape has afterwards. -/
theorem Written.hasAttribute {name : String} (h : s.Written value (AttributeName.ofText name) t)
    (hvalue : value.isNull = false) : t.hasAttribute name value = true := by
  generalize hdenoted : AttributeName.ofText name = denoted at h
  cases h with
  | lineColor color hcolor =>
    refine hasAttribute_of_attribute? ?_
    rw [attribute?, hdenoted, hcolor]
  | lineWidth width hfloat hpos =>
    rw [hasAttribute, attribute?, hdenoted]
    exact Value.agrees_ofFloat hfloat
  | status status hstatus =>
    refine hasAttribute_of_attribute? ?_
    rw [attribute?, hdenoted, hstatus]
  | prop key =>
    refine hasAttribute_of_attribute? ?_
    rw [attribute?, hdenoted]
    show (s.props.put key value).get? key = some value
    rw [Value.get?_put, if_pos rfl, hvalue]
    rfl

/-- Null is only written among what a host attached, and leaves nothing under the name. -/
theorem Written.attribute?_of_isNull {name : String}
    (h : s.Written value (AttributeName.ofText name) t) (hvalue : value.isNull = true) :
    (∃ key, AttributeName.ofText name = .prop key) ∧ t.attribute? name = none := by
  generalize hdenoted : AttributeName.ofText name = denoted at h
  cases h with
  | lineColor color hcolor =>
    rw [hcolor] at hvalue
    cases hvalue
  | lineWidth width hfloat hpos =>
    rw [Value.isNull_of_float? hfloat] at hvalue
    cases hvalue
  | status status hstatus =>
    rw [hstatus] at hvalue
    cases hvalue
  | prop key =>
    refine ⟨⟨key, rfl⟩, ?_⟩
    rw [attribute?, hdenoted]
    show (s.props.put key value).get? key = none
    rw [Value.get?_put, if_pos rfl, if_pos hvalue]

/-- **A write leaves all other attributes alone.** -/
theorem Written.attribute?_of_ne {other : String} (h : s.Written value denoted t)
    (hne : AttributeName.ofText other ≠ denoted) : t.attribute? other = s.attribute? other := by
  rw [attribute?, attribute?]
  cases hother : AttributeName.ofText other with
  | kind => cases h <;> rfl
  | id => cases h <;> rfl
  | lineColor =>
    cases h with
    | lineColor => exact absurd hother hne
    | _ => rfl
  | lineWidth =>
    cases h with
    | lineWidth => exact absurd hother hne
    | _ => rfl
  | status =>
    cases h with
    | status => exact absurd hother hne
    | _ => rfl
  | prop key' =>
    cases h with
    | prop key =>
      have hkey : key ≠ key' := by
        rintro rfl
        exact hne hother
      show (s.props.put key value).get? key' = s.props.get? key'
      rw [Value.get?_put, if_neg hkey]
    | _ => rfl

/-- **Of two writes of one attribute the second decides.** -/
theorem Written.again (h : s.Written value denoted t) (h' : t.Written value' denoted u) :
    s.Written value' denoted u := by
  cases h with
  | lineColor color hvalue =>
    cases h' with
    | lineColor color' hvalue' => exact .lineColor color' hvalue'
  | lineWidth width hfloat hpos =>
    cases h' with
    | lineWidth width' hfloat' hpos' => exact .lineWidth width' hfloat' hpos'
  | status status hvalue =>
    cases h' with
    | status status' hvalue' => exact .status status' hvalue'
  | prop key =>
    cases h' with
    | prop =>
      have hput : (s.props.put key value).put key value' = s.props.put key value' :=
        s.props.put_put key value value'
      show s.Written value' (.prop key)
        { s with props := (s.props.put key value).put key value' }
      rw [hput]
      exact .prop key

/-! ### The laws together -/

theorem withAttribute_of_error {name : String}
    (h : ∃ error, s.setAttribute name value = .error error) : s.withAttribute name value = s := by
  obtain ⟨error, h⟩ := h
  rw [withAttribute, h]

theorem withAttribute_of_ok {name : String} (h : s.setAttribute name value = .ok t) :
    s.withAttribute name value = t := by
  rw [withAttribute, h]

theorem attribute?_withAttribute {name other : String}
    (hne : AttributeName.ofText other ≠ AttributeName.ofText name) :
    (s.withAttribute name value).attribute? other = s.attribute? other := by
  rcases setAttribute_cases s name value with ⟨t, hset, hwritten⟩ | ⟨error, hset, -⟩
  · rw [withAttribute_of_ok hset]
    exact hwritten.attribute?_of_ne hne
  · rw [withAttribute_of_error ⟨error, hset⟩]

/-- **Laws of writing an attribute.** A write is refused exactly for what cannot be held under the
name, and then leaves the shape as it is. Otherwise the shape has the value afterwards, or nothing
under the name if the value is null, which is only accepted among what a host attached. In any case
identity, geometry and all attributes that the name does not denote are as before, and of two writes
of one attribute, by whichever spellings, the second decides. -/
theorem attribute_write_laws (s : Shape α) (name : String) (value : Value) :
    ((∃ error, s.setAttribute name value = .error error) ↔
      (AttributeName.ofText name).Refuses value) ∧
    ((∃ error, s.setAttribute name value = .error error) → s.withAttribute name value = s) ∧
    (∀ t, s.setAttribute name value = .ok t →
      s.withAttribute name value = t ∧
      (value.isNull = false → t.hasAttribute name value = true) ∧
      (value.isNull = true →
        (∃ key, AttributeName.ofText name = .prop key) ∧ t.attribute? name = none)) ∧
    ((s.withAttribute name value).id = s.id ∧
      (s.withAttribute name value).geometry = s.geometry ∧
      ∀ other, AttributeName.ofText other ≠ AttributeName.ofText name →
        (s.withAttribute name value).attribute? other = s.attribute? other) ∧
    ∀ (t u : Shape α) (other : String) (value' : Value),
      AttributeName.ofText other = AttributeName.ofText name →
      s.setAttribute name value = .ok t → t.setAttribute other value' = .ok u →
      s.setAttribute other value' = .ok u := by
  refine ⟨setAttribute_eq_error_iff, withAttribute_of_error, fun t hset => ?_, ?_, ?_⟩
  · have hwritten := setAttribute_eq_ok_iff.1 hset
    exact ⟨withAttribute_of_ok hset, hwritten.hasAttribute, hwritten.attribute?_of_isNull⟩
  · exact ⟨id_withAttribute s name value, geometry_withAttribute s name value,
      fun _ => attribute?_withAttribute⟩
  · intro t u other value' hsame hfirst hsecond
    have hwritten := setAttribute_eq_ok_iff.1 hfirst
    rw [← hsame] at hwritten
    exact setAttribute_eq_ok_iff.2 (hwritten.again (setAttribute_eq_ok_iff.1 hsecond))

end Shape

end ShapeOverlay
