import ShapeOverlay.Proofs.Json.Fields
import ShapeOverlay.Proofs.Json.Identifier
import ShapeOverlay.Shape.Json

/-! # Shapes as JSON trees

What is written of a shape is one object whose fields have distinct keys (`Shape.toJson_eq`,
`Shape.nodup_fields`) and hold what is written of values (`Shape.isValue_of_mem_fields`); the
attached values are behind a key of their own, so the keys in them are in nobody's way. The order of
the fields does not matter to the reader (`Shape.ofJson?_perm`). Each part is read from what is
written of it, except that a number that is not finite is written as null, which is no number. So a
shape is read from what is written of it, or nothing is (`Shape.round_trip`). -/

namespace ShapeOverlay

/-! ### Finite shapes -/

/-- Both coordinates are finite. -/
def Point.isFinite (p : Point Float) : Bool := p.x.isFinite && p.y.isFinite

/-- Both extents are finite. -/
def Radius.isFinite (r : Radius Float) : Bool := r.x.isFinite && r.y.isFinite

/-- All coordinates and extents are finite. -/
def Geometry.isFinite : Geometry Float → Bool
  | rectangle a b => a.isFinite && b.isFinite
  | polygon vertices => vertices.all Point.isFinite
  | circle center radius => center.isFinite && radius.isFinite

/-- All numbers of the shape are finite; those in the attached values always are. -/
def Shape.isFinite (s : Shape Float) : Bool := s.geometry.isFinite && s.lineWidth.isFinite

/-! ### Points and radii -/

theorem Json.ofCoordinates_eq (x y : Float) :
    ofCoordinates x y = ofFields [("x", ofFloat x), ("y", ofFloat y)] := rfl

theorem Json.isValue_ofCoordinates (x y : Float) : (ofCoordinates x y).IsValue := by
  have hxy : "x" < "y" := by decide
  rw [ofCoordinates_eq]
  exact isValue_ofFields (List.pairwise_pair.mpr hxy) (by simp [isValue_ofFloat])

theorem Json.coordinates?_ofFields (fields : List (String × Json)) :
    (ofFields fields).coordinates? = (field? fields "x" float?).bind fun x =>
      (field? fields "y" float?).bind fun y => some (x, y) := by
  change ((ofFields fields).entries?.bind fun entries => _) = _
  rw [entries?_ofFields]
  rfl

theorem Json.coordinates?_ofCoordinates (x y : Float) : (ofCoordinates x y).coordinates? =
    if x.isFinite && y.isFinite then some (x, y) else none := by
  have hkeys : ([("x", ofFloat x), ("y", ofFloat y)].map Prod.fst).Nodup := by simp
  rw [ofCoordinates_eq, coordinates?_ofFields, field?_of_mem hkeys List.mem_cons_self,
    field?_of_mem hkeys (List.mem_cons_of_mem _ List.mem_cons_self), float?_ofFloat, float?_ofFloat]
  cases x.isFinite <;> cases y.isFinite <;> rfl

theorem Point.ofJson?_toJson (p : Point Float) :
    ofJson? p.toJson = if p.isFinite then some p else none := by
  rw [ofJson?, toJson, Json.coordinates?_ofCoordinates, ← isFinite]
  split <;> rfl

theorem Radius.ofJson?_toJson (r : Radius Float) :
    ofJson? r.toJson = if r.isFinite then some r else none := by
  rw [ofJson?, toJson, Json.coordinates?_ofCoordinates, ← isFinite]
  split <;> rfl

theorem Point.listOfJson?_map_toJson (ps : List (Point Float)) :
    listOfJson? (.array (ps.map toJson)) = if ps.all isFinite then some ps else none := by
  rw [listOfJson?]
  induction ps with
  | nil => rfl
  | cons p ps ih =>
    rw [List.map_cons, List.mapM_cons, ofJson?_toJson, ih, List.all_cons]
    cases p.isFinite <;> cases ps.all isFinite <;> rfl

/-! ### Geometries -/

namespace Geometry

/-- The fields that are written of a geometry. -/
def fields : Geometry Float → List (String × Json)
  | rectangle a b =>
    [("type", .ofString Kind.rectangle.name), ("points", .array [a.toJson, b.toJson])]
  | polygon vertices =>
    [("type", .ofString Kind.polygon.name), ("points", .array (vertices.map Point.toJson))]
  | circle center radius =>
    [("type", .ofString Kind.circle.name), ("center", center.toJson), ("radius", radius.toJson)]

theorem toEntries_eq (g : Geometry Float) : g.toEntries = g.fields.map fun f => (some f.1, f.2) := by
  cases g <;> rfl

theorem type_mem_fields (g : Geometry Float) : ("type", .ofString g.kind.name) ∈ g.fields := by
  cases g <;> exact List.mem_cons_self

theorem isValue_of_mem_fields {g : Geometry Float} : ∀ f ∈ g.fields, f.2.IsValue := by
  have hpoints (ps : List (Point Float)) : (Json.array (ps.map Point.toJson)).IsValue := by
    refine Json.isValue_array fun j hj => ?_
    obtain ⟨p, -, rfl⟩ := List.mem_map.mp hj
    exact Json.isValue_ofCoordinates p.x p.y
  cases g with
  | rectangle a b => simpa [fields, Json.isValue_ofString] using hpoints [a, b]
  | polygon vertices => simpa [fields, Json.isValue_ofString] using hpoints vertices
  | circle center radius =>
    have hcenter := Json.isValue_ofCoordinates center.x center.y
    have hradius := Json.isValue_ofCoordinates radius.x radius.y
    simpa [fields, Json.isValue_ofString] using ⟨hcenter, hradius⟩

/-- The reader of geometries does not depend on the order of the fields. -/
theorem ofEntries?_perm {entries others : List (String × Json)} (h : entries.Perm others)
    (k : Kind) : ofEntries? entries k = ofEntries? others k := by
  cases k <;> simp only [ofEntries?, Json.field?_perm h]

/-- A geometry is read from its fields, and what stands beside them, just if it is finite. -/
theorem ofEntries?_of_subset (g : Geometry Float) {entries : List (String × Json)}
    (hkeys : (entries.map Prod.fst).Nodup) (h : g.fields ⊆ entries) :
    ofEntries? entries g.kind = if g.isFinite then some g else none := by
  have hread {β : Type} {key : String} {j : Json} (hmem : (key, j) ∈ g.fields)
      (read : Json → Option β) : Json.field? entries key read = read j :=
    Json.field?_of_mem hkeys (h hmem) read
  cases g with
  | rectangle a b =>
    have hall : [a, b].all Point.isFinite = (a.isFinite && b.isFinite) := by simp
    rw [kind, ofEntries?, hread (j := .array ([a, b].map Point.toJson)) (by simp [fields]),
      Point.listOfJson?_map_toJson, hall, isFinite]
    cases a.isFinite <;> cases b.isFinite <;> rfl
  | polygon vertices =>
    rw [kind, ofEntries?, hread (j := .array (vertices.map Point.toJson)) (by simp [fields]),
      Point.listOfJson?_map_toJson, isFinite]
    cases vertices.all Point.isFinite <;> rfl
  | circle center radius =>
    rw [kind, ofEntries?, hread (j := center.toJson) (by simp [fields]),
      hread (j := radius.toJson) (by simp [fields]), Point.ofJson?_toJson, Radius.ofJson?_toJson,
      isFinite]
    cases center.isFinite <;> cases radius.isFinite <;> rfl

end Geometry

/-! ### Shapes -/

namespace Shape

/-- The fields that are written of a shape. -/
def fields (s : Shape Float) : List (String × Json) :=
  ("id", .ofString s.id.text) :: s.geometry.fields ++
    [("lineColor", .ofString s.lineColor), ("lineWidth", .ofFloat s.lineWidth),
      ("status", .ofString s.status.name)] ++
    if s.props.isNull then [] else [("props", s.props.toJson)]

theorem toJson_eq (s : Shape Float) : s.toJson = .ofFields s.fields := by
  rw [toJson, fields, Json.ofFields, Geometry.toEntries_eq]
  cases s.props.isNull <;> simp

/-- No two fields of a shape have the same key. -/
theorem nodup_fields (s : Shape Float) : (s.fields.map Prod.fst).Nodup := by
  rw [fields]
  cases s.geometry <;> cases s.props.isNull <;> simp [Geometry.fields]

theorem isValue_of_mem_fields {s : Shape Float} : ∀ f ∈ s.fields, f.2.IsValue := by
  intro f hf
  rw [fields, List.mem_append, List.mem_append, List.mem_cons] at hf
  rcases hf with ((rfl | hgeometry) | hstyle) | hprops
  · exact Json.isValue_ofString s.id.text
  · exact Geometry.isValue_of_mem_fields f hgeometry
  · simp only [List.mem_cons, List.not_mem_nil, or_false] at hstyle
    rcases hstyle with rfl | rfl | rfl
    · exact Json.isValue_ofString s.lineColor
    · exact Json.isValue_ofFloat s.lineWidth
    · exact Json.isValue_ofString s.status.name
  · split at hprops
    · cases hprops
    · rw [List.mem_singleton.mp hprops]
      exact Json.isValue_toJson s.props

variable {fresh : Identifier}

theorem ofJson?_ofFields (fields : List (String × Json)) : ofJson? fresh (.ofFields fields) =
    if fields.all fun f => (Value.ofJson? f.2).isSome then ofEntries? fresh fields else none := by
  rw [← Value.isSome_ofJson?_ofFields, ofJson?, Json.entries?_ofFields]
  cases Value.ofJson? (.ofFields fields) <;> rfl

/-- **The order of the fields does not matter to the reader.** -/
theorem ofJson?_perm {fields others : List (String × Json)} (h : fields.Perm others) :
    ofJson? fresh (.ofFields fields) = ofJson? fresh (.ofFields others) := by
  simp only [ofJson?_ofFields, h.all_eq, ofEntries?, Json.field?_perm h, Json.fieldOr?_perm h,
    Geometry.ofEntries?_perm h]

/-- The attached values are read, whether they have been written or left out. -/
theorem fieldOr?_props (s : Shape Float) :
    Json.fieldOr? s.fields "props" .null Value.ofJson? = some s.props := by
  cases hnull : s.props.isNull with
  | true =>
    have hnotMem : "props" ∉ s.fields.map Prod.fst := by
      rw [fields, hnull]
      cases s.geometry <;> simp [Geometry.fields]
    rw [Json.fieldOr?_of_notMem hnotMem, Value.eq_null_of_isNull hnull]
  | false =>
    have hmem : ("props", s.props.toJson) ∈ s.fields := by simp [fields, hnull]
    rw [Json.fieldOr?_of_mem s.nodup_fields hmem, Value.ofJson?_toJson]

/-- A shape is read from its fields just if it is finite. -/
theorem ofEntries?_fields (s : Shape Float) :
    ofEntries? fresh s.fields = if s.isFinite then some s else none := by
  have hgeometry : s.geometry.fields ⊆ s.fields := fun f hf => by simp [fields, hf]
  have hid : Json.fieldOr? s.fields "id" fresh (fun j => j.text?.bind Identifier.ofText?) =
      some s.id := by
    rw [Json.fieldOr?_of_mem s.nodup_fields (j := .ofString s.id.text) (by simp [fields])]
    exact s.id.ofText?_text
  have hkind : Json.field? s.fields "type" Kind.ofTag? = some s.geometry.kind := by
    rw [Json.field?_of_mem s.nodup_fields (hgeometry s.geometry.type_mem_fields)]
    exact s.geometry.kind.ofName?_name
  have hcolor : Json.field? s.fields "lineColor" Json.text? = some s.lineColor := by
    rw [Json.field?_of_mem s.nodup_fields (j := .ofString s.lineColor) (by simp [fields])]
    rfl
  have hwidth : Json.field? s.fields "lineWidth" Json.float? =
      if s.lineWidth.isFinite then some s.lineWidth else none := by
    rw [Json.field?_of_mem s.nodup_fields (j := .ofFloat s.lineWidth) (by simp [fields]),
      Json.float?_ofFloat]
  have hstatus : Json.fieldOr? s.fields "status" .active Status.ofJson? = some s.status := by
    rw [Json.fieldOr?_of_mem s.nodup_fields (j := .ofString s.status.name) (by simp [fields])]
    exact s.status.ofName?_name
  rw [ofEntries?, hid, hkind, hcolor, hwidth, hstatus, fieldOr?_props]
  simp only [Option.bind_eq_bind, Option.bind_some,
    Geometry.ofEntries?_of_subset s.geometry s.nodup_fields hgeometry, isFinite]
  by_cases hfinite : s.geometry.isFinite = true
  · by_cases hfinite' : s.lineWidth.isFinite = true <;> simp [hfinite, hfinite']
  · simp [hfinite]

/-- **A shape is read from what is written of it, or nothing is.** What is written always denotes a
value, whose object has the same fields in another order. From either the shape is read with its
identity, style, status and attached values if all its numbers are finite, and otherwise nothing is
read. -/
theorem round_trip (fresh : Identifier) (s : Shape Float) :
    ofJson? fresh s.toJson = (if s.isFinite then some s else none) ∧
      ∃ v, Value.ofJson? s.toJson = some v ∧
        ofJson? fresh v.toJson = if s.isFinite then some s else none := by
  obtain ⟨v, others, hv, hothers, hperm⟩ :=
    Value.exists_ofJson?_ofFields s.nodup_fields s.isValue_of_mem_fields
  have hread : ofJson? fresh s.toJson = if s.isFinite then some s else none := by
    have hvalues := Value.isSome_ofJson?_ofFields s.fields
    rw [hv] at hvalues
    rw [toJson_eq, ofJson?_ofFields, ← hvalues, ofEntries?_fields]
    rfl
  rw [toJson_eq] at hread ⊢
  exact ⟨hread, v, hv, by rw [hothers, ofJson?_perm hperm, hread]⟩

end Shape

end ShapeOverlay
