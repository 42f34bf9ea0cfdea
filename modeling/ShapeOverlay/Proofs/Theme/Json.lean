import ShapeOverlay.Proofs.Json.Fields
import ShapeOverlay.Proofs.Theme.Fault
import ShapeOverlay.Theme.Json

/-! # Themes as JSON objects

A theme is read from an object just if each known key stands there once at most, with a value of its
type (`Theme.TypeCorrect`, `Theme.exists_ofEntries?_iff`), and then each field of the theme is what
is given under its key, or the default (`Theme.OfFields`, `Theme.ofEntries?_eq_some_iff`). Unknown
keys and the order of the fields do not matter (`Theme.ofEntries?_congr`). What is read is checked
after that, so that the fault of a theme does not depend on the order of the fields either
(`Theme.Loads`). A theme is read from what is written of it if its sizes are finite
(`Theme.ofJson?_toJson`). -/

namespace ShapeOverlay

/-! ### Texts and numbers -/

namespace Json

/-- The tree is a string with a text. -/
def GivesText (j : Json) (s : String) : Prop := j = .ofString s

/-- The tree is a number with a floating point value. -/
def GivesNumber (j : Json) (x : Float) : Prop := ∃ n : Number, j = .number (some n) ∧ n.toFloat = x

theorem text?_eq_some_iff (j : Json) (s : String) : j.text? = some s ↔ j.GivesText s := by
  unfold text? GivesText ofString
  cases j <;> simp

theorem float?_eq_some_iff (j : Json) (x : Float) : j.float? = some x ↔ j.GivesNumber x := by
  unfold GivesNumber
  match j with
  | .number (some n) => simp [float?]
  | .number none | .null | .bool _ | .string _ | .array _ | .object _ => simp [float?]

end Json

namespace Theme

variable {fields others : List (String × Json)} {t : Theme}

/-! ### What an object says of a theme -/

/-- The keys of the sizes. -/
def sizeNames : List String := ["highlightWidth", "handleRadiusPx", "previewDashPx"]

/-- The keys of the colors. -/
def colorNames : List String := ["highlightColor", "handleFill", "handleStroke", "moverFill"]

/-- Each known key stands once at most, and the value under it is of its type. -/
structure TypeCorrect (fields : List (String × Json)) : Prop where
  once : ∀ key ∈ checkOrder, (fields.map Prod.fst).count key ≤ 1
  sizes : ∀ key ∈ sizeNames, ∀ j, (key, j) ∈ fields → ∃ x, j.GivesNumber x
  colors : ∀ key ∈ colorNames, ∀ j, (key, j) ∈ fields → ∃ s, j.GivesText s

/-- **Each field of the theme is what is given under its key**, or the default if nothing is. -/
structure OfFields (fields : List (String × Json)) (t : Theme) : Prop where
  highlightColor : Json.Holds fields "highlightColor" Json.GivesText
    ({} : Theme).highlightColor t.highlightColor
  highlightWidth : Json.Holds fields "highlightWidth" Json.GivesNumber
    ({} : Theme).highlightWidth t.highlightWidth
  handleRadius : Json.Holds fields "handleRadiusPx" Json.GivesNumber
    ({} : Theme).handleRadius t.handleRadius
  handleFill : Json.Holds fields "handleFill" Json.GivesText ({} : Theme).handleFill t.handleFill
  handleStroke : Json.Holds fields "handleStroke" Json.GivesText
    ({} : Theme).handleStroke t.handleStroke
  moverFill : Json.Holds fields "moverFill" Json.GivesText ({} : Theme).moverFill t.moverFill
  previewDash : Json.Holds fields "previewDashPx" Json.GivesNumber
    ({} : Theme).previewDash t.previewDash

/-- The fields are read one by one. -/
theorem ofEntries?_eq_some_iff_fieldOr? : ofEntries? fields = some t ↔
    Json.fieldOr? fields "highlightColor" ({} : Theme).highlightColor Json.text? =
      some t.highlightColor ∧
    Json.fieldOr? fields "highlightWidth" ({} : Theme).highlightWidth Json.float? =
      some t.highlightWidth ∧
    Json.fieldOr? fields "handleRadiusPx" ({} : Theme).handleRadius Json.float? =
      some t.handleRadius ∧
    Json.fieldOr? fields "handleFill" ({} : Theme).handleFill Json.text? = some t.handleFill ∧
    Json.fieldOr? fields "handleStroke" ({} : Theme).handleStroke Json.text? =
      some t.handleStroke ∧
    Json.fieldOr? fields "moverFill" ({} : Theme).moverFill Json.text? = some t.moverFill ∧
    Json.fieldOr? fields "previewDashPx" ({} : Theme).previewDash Json.float? =
      some t.previewDash := by
  simp only [ofEntries?, Option.bind_eq_bind, Option.bind_eq_some_iff, Option.some.injEq]
  constructor
  · rintro ⟨_, h1, _, h2, _, h3, _, h4, _, h5, _, h6, _, h7, rfl⟩
    exact ⟨h1, h2, h3, h4, h5, h6, h7⟩
  · rintro ⟨h1, h2, h3, h4, h5, h6, h7⟩
    exact ⟨_, h1, _, h2, _, h3, _, h4, _, h5, _, h6, _, h7, rfl⟩

/-- **What theme is read of an object.** -/
theorem ofEntries?_eq_some_iff : ofEntries? fields = some t ↔
    (∀ key ∈ checkOrder, (fields.map Prod.fst).count key ≤ 1) ∧ OfFields fields t := by
  rw [ofEntries?_eq_some_iff_fieldOr?]
  simp only [Json.fieldOr?_eq_some_iff Json.text?_eq_some_iff,
    Json.fieldOr?_eq_some_iff Json.float?_eq_some_iff]
  constructor
  · rintro ⟨⟨c1, h1⟩, ⟨c2, h2⟩, ⟨c3, h3⟩, ⟨c4, h4⟩, ⟨c5, h5⟩, ⟨c6, h6⟩, c7, h7⟩
    refine ⟨?_, h1, h2, h3, h4, h5, h6, h7⟩
    simp only [checkOrder, List.forall_mem_cons]
    exact ⟨c2, c3, c7, c1, c4, c5, c6, fun _ h => absurd h List.not_mem_nil⟩
  · rintro ⟨honce, h⟩
    simp only [checkOrder, List.forall_mem_cons] at honce
    obtain ⟨c2, c3, c7, c1, c4, c5, c6, -⟩ := honce
    exact ⟨⟨c1, h.highlightColor⟩, ⟨c2, h.highlightWidth⟩, ⟨c3, h.handleRadius⟩,
      ⟨c4, h.handleFill⟩, ⟨c5, h.handleStroke⟩, ⟨c6, h.moverFill⟩, c7, h.previewDash⟩

/-- **Of which objects a theme is read.** -/
theorem exists_ofEntries?_iff : (∃ t, ofEntries? fields = some t) ↔ TypeCorrect fields := by
  constructor
  · rintro ⟨t, ht⟩
    obtain ⟨honce, h⟩ := ofEntries?_eq_some_iff.1 ht
    refine ⟨honce, ?_, ?_⟩
    · simp only [sizeNames, List.forall_mem_cons]
      exact ⟨fun j hj => ⟨_, h.highlightWidth.1 j hj⟩, fun j hj => ⟨_, h.handleRadius.1 j hj⟩,
        fun j hj => ⟨_, h.previewDash.1 j hj⟩, fun _ h => absurd h List.not_mem_nil⟩
    · simp only [colorNames, List.forall_mem_cons]
      exact ⟨fun j hj => ⟨_, h.highlightColor.1 j hj⟩, fun j hj => ⟨_, h.handleFill.1 j hj⟩,
        fun j hj => ⟨_, h.handleStroke.1 j hj⟩, fun j hj => ⟨_, h.moverFill.1 j hj⟩,
        fun _ h => absurd h List.not_mem_nil⟩
  · intro h
    have hsize : ∀ key ∈ sizeNames, ∀ default,
        ∃ x, Json.fieldOr? fields key default Json.float? = some x := fun key hkey default => by
      have hknown : key ∈ checkOrder := (by decide : ∀ key ∈ sizeNames, key ∈ checkOrder) key hkey
      exact (Json.exists_fieldOr?_iff Json.float?_eq_some_iff).2
        ⟨h.once key hknown, h.sizes key hkey⟩
    have hcolor : ∀ key ∈ colorNames, ∀ default,
        ∃ s, Json.fieldOr? fields key default Json.text? = some s := fun key hkey default => by
      have hknown : key ∈ checkOrder := (by decide : ∀ key ∈ colorNames, key ∈ checkOrder) key hkey
      exact (Json.exists_fieldOr?_iff Json.text?_eq_some_iff).2
        ⟨h.once key hknown, h.colors key hkey⟩
    obtain ⟨highlightColor, h1⟩ := hcolor "highlightColor" (by decide) ({} : Theme).highlightColor
    obtain ⟨highlightWidth, h2⟩ := hsize "highlightWidth" (by decide) ({} : Theme).highlightWidth
    obtain ⟨handleRadius, h3⟩ := hsize "handleRadiusPx" (by decide) ({} : Theme).handleRadius
    obtain ⟨handleFill, h4⟩ := hcolor "handleFill" (by decide) ({} : Theme).handleFill
    obtain ⟨handleStroke, h5⟩ := hcolor "handleStroke" (by decide) ({} : Theme).handleStroke
    obtain ⟨moverFill, h6⟩ := hcolor "moverFill" (by decide) ({} : Theme).moverFill
    obtain ⟨previewDash, h7⟩ := hsize "previewDashPx" (by decide) ({} : Theme).previewDash
    exact ⟨⟨highlightColor, highlightWidth, handleRadius, handleFill, handleStroke, moverFill,
      previewDash⟩, ofEntries?_eq_some_iff_fieldOr?.2 ⟨h1, h2, h3, h4, h5, h6, h7⟩⟩

theorem TypeCorrect.ofEntries?_eq_some_iff (h : TypeCorrect fields) :
    ofEntries? fields = some t ↔ OfFields fields t :=
  Theme.ofEntries?_eq_some_iff.trans (and_iff_right h.once)

/-! ### Order and unknown keys -/

/-- The fields of known keys. -/
def knownFields (fields : List (String × Json)) : List (String × Json) :=
  fields.filter fun f => decide (f.1 ∈ checkOrder)

theorem ofEntries?_knownFields (fields : List (String × Json)) :
    ofEntries? (knownFields fields) = ofEntries? fields := by
  have hfield {β : Type} {key : String} (hkey : key ∈ checkOrder) (default : β)
      (read : Json → Option β) : Json.fieldOr? (knownFields fields) key default read =
        Json.fieldOr? fields key default read :=
    Json.fieldOr?_filter (fun key => decide (key ∈ checkOrder)) (decide_eq_true hkey) default read
  simp (disch := decide) only [ofEntries?, hfield]

/-- **Neither the order of the fields nor unknown keys matter.** -/
theorem ofEntries?_congr (h : (knownFields fields).Perm (knownFields others)) :
    ofEntries? fields = ofEntries? others := by
  rw [← ofEntries?_knownFields fields, ← ofEntries?_knownFields others]
  simp only [ofEntries?, Json.fieldOr?_perm h]

/-! ### Themes that are checked -/

theorem ofJson?_ofFields (fields : List (String × Json)) :
    ofJson? (.ofFields fields) = ofEntries? fields := by
  change (Json.ofFields fields).entries?.bind ofEntries? = _
  rw [Json.entries?_ofFields, Option.bind_some]

/-- **What becomes of an object that is read as a theme**: a theme that can be used and is what the
object says, or the first fault of it, or nothing if the object does not denote a theme. -/
structure Loads (fields : List (String × Json)) (result : Except ThemeError Theme) : Prop where
  accepted : ∀ t, result = .ok t ↔ TypeCorrect fields ∧ OfFields fields t ∧ t.Usable
  determined : TypeCorrect fields → ∃! t, OfFields fields t
  valid : ∀ t, result = .ok t → t.validate = .ok t
  refused : TypeCorrect fields → ∀ t, OfFields fields t → ∀ error,
    result = .error error ↔ t.FirstFault error
  malformed : ¬ TypeCorrect fields → result = .error .malformed

theorem loads_ofJson (fields : List (String × Json)) :
    Loads fields (ofJson (.ofFields fields)) := by
  rw [ofJson, ofJson?_ofFields]
  by_cases h : TypeCorrect fields
  · obtain ⟨t, ht⟩ := exists_ofEntries?_iff.2 h
    have hunique : ∀ u, OfFields fields u → u = t := fun u hu =>
      Option.some.inj ((h.ofEntries?_eq_some_iff.2 hu).symm.trans ht)
    have hfields := h.ofEntries?_eq_some_iff.1 ht
    rw [ht]
    refine ⟨fun u => ?_, fun _ => ⟨t, hfields, hunique⟩, fun u hu => ?_, fun _ u hu error => ?_,
      fun hnot => absurd h hnot⟩
    · rw [validate_eq_ok_iff]
      constructor
      · rintro ⟨husable, rfl⟩
        exact ⟨h, hfields, husable⟩
      · rintro ⟨-, hu, husable⟩
        obtain rfl := hunique u hu
        exact ⟨husable, rfl⟩
    · obtain ⟨husable, rfl⟩ := validate_eq_ok_iff.1 hu
      exact hu
    · obtain rfl := hunique u hu
      exact validate_eq_error_iff
  · have hnone : ofEntries? fields = none :=
      Option.eq_none_iff_forall_ne_some.2 fun t ht => h (exists_ofEntries?_iff.1 ⟨t, ht⟩)
    rw [hnone]
    refine ⟨fun t => ?_, fun hnot => absurd hnot h, fun t ht => ?_, fun hnot => absurd hnot h,
      fun _ => rfl⟩
    · refine ⟨?_, fun ht => absurd ht.1 h⟩
      rintro ⟨⟩
    · cases ht

/-! ### Themes that are written -/

/-- The fields that are written of a theme. -/
def writtenFields (t : Theme) : List (String × Json) :=
  [("highlightColor", .ofString t.highlightColor), ("highlightWidth", .ofFloat t.highlightWidth),
    ("handleRadiusPx", .ofFloat t.handleRadius), ("handleFill", .ofString t.handleFill),
    ("handleStroke", .ofString t.handleStroke), ("moverFill", .ofString t.moverFill),
    ("previewDashPx", .ofFloat t.previewDash)]

theorem toJson_eq (t : Theme) : t.toJson = .ofFields t.writtenFields := rfl

/-- **A theme is read from what is written of it** if its sizes are finite. -/
theorem ofJson?_toJson (hwidth : t.highlightWidth.isFinite = true)
    (hradius : t.handleRadius.isFinite = true) (hdash : t.previewDash.isFinite = true) :
    ofJson? t.toJson = some t := by
  have hkeys : (t.writtenFields.map Prod.fst).Nodup := by
    show fieldNames.Nodup
    decide
  have hcolor {key color : String} (hmem : (key, .ofString color) ∈ t.writtenFields)
      (default : String) :
      Json.fieldOr? t.writtenFields key default Json.text? = some color :=
    (Json.fieldOr?_of_mem hkeys hmem default Json.text?).trans rfl
  have hsize {key : String} {size : Float} (hmem : (key, .ofFloat size) ∈ t.writtenFields)
      (hfinite : size.isFinite = true) (default : Float) :
      Json.fieldOr? t.writtenFields key default Json.float? = some size := by
    rw [Json.fieldOr?_of_mem hkeys hmem, Json.float?_ofFloat, if_pos hfinite]
  rw [toJson_eq, ofJson?_ofFields, ofEntries?_eq_some_iff_fieldOr?]
  refine ⟨hcolor ?_ _, hsize ?_ hwidth _, hsize ?_ hradius _, hcolor ?_ _, hcolor ?_ _, hcolor ?_ _,
    hsize ?_ hdash _⟩
  all_goals simp [writtenFields]

/-! ### Texts -/

theorem ofText_of_json {text : String} {j : Json} (h : Json.ofText? text = some j) :
    ofText text = ofJson j := by
  rw [ofText, h]

/-- **Reading a theme from the text of an object.** It is accepted just if it denotes a theme that
can be used, and refused for the first fault of that theme, in an order that is not the one of the
text; neither the order of the fields nor unknown keys change the result. What is written of a theme
that can be used, and whose sizes are finite, is read as this theme. -/
theorem reading_of_object (text : String) (fields : List (String × Json))
    (h : Json.ofText? text = some (.ofFields fields)) :
    Loads fields (ofText text) ∧
    (∀ (text' : String) (others : List (String × Json)),
      Json.ofText? text' = some (.ofFields others) →
      (knownFields fields).Perm (knownFields others) → ofText text' = ofText text) ∧
    ∀ (written : String) (t : Theme), Json.ofText? written = some t.toJson →
      t.highlightWidth.isFinite = true → t.handleRadius.isFinite = true →
      t.previewDash.isFinite = true → t.validate = .ok t → ofText written = .ok t := by
  refine ⟨?_, fun text' others h' hperm => ?_,
    fun written t hwritten hwidth hradius hdash hvalid => ?_⟩
  · rw [ofText_of_json h]
    exact loads_ofJson fields
  · rw [ofText_of_json h, ofText_of_json h', ofJson, ofJson, ofJson?_ofFields, ofJson?_ofFields,
      ofEntries?_congr hperm]
  · rw [ofText_of_json hwritten, ofJson, ofJson?_toJson hwidth hradius hdash]
    exact hvalid

/-- Two fields are given and an unknown one between them, then the two the other way round, and then
the default theme is written. -/
theorem reading_of_object_partial :
    let text := "\x7b\"moverFill\":\"red\",\"extra\":null,\"highlightWidth\":5\x7d"
    let text' := "\x7b\"highlightWidth\":5,\"moverFill\":\"red\"\x7d"
    let written := "\x7b\"highlightColor\":\"#1E90FF\",\"highlightWidth\":3.0," ++
      "\"handleRadiusPx\":8.0,\"handleFill\":\"#fff\",\"handleStroke\":\"#1E90FF\"," ++
      "\"moverFill\":\"rgba(30, 144, 255, 0.12)\",\"previewDashPx\":4.0\x7d"
    let five : Json := .number (some (.integer 5 (by decide)))
    let fields := [("moverFill", .ofString "red"), ("extra", .null), ("highlightWidth", five)]
    let others := [("highlightWidth", five), ("moverFill", .ofString "red")]
    Json.ofText? text = some (.ofFields fields) ∧ Json.ofText? text' = some (.ofFields others) ∧
      Json.ofText? written = some ({} : Theme).toJson ∧
      Loads fields (ofText text) ∧ ofText text' = ofText text ∧ ofText written = .ok {} := by
  intro text text' written five fields others
  have h : Json.ofText? text = some (.ofFields fields) := by
    have htokens : Token.ofText? text = some
        [.openObject, .string (some "moverFill"), .colon, .string (some "red"), .comma,
          .string (some "extra"), .colon, .null, .comma, .string (some "highlightWidth"), .colon,
          .number (some (.integer 5 (by decide))), .closeObject] := by decide +kernel
    rw [Json.ofText?, htokens]
    rfl
  have h' : Json.ofText? text' = some (.ofFields others) := by
    have htokens : Token.ofText? text' = some
        [.openObject, .string (some "highlightWidth"), .colon,
          .number (some (.integer 5 (by decide))), .comma, .string (some "moverFill"), .colon,
          .string (some "red"), .closeObject] := by decide +kernel
    rw [Json.ofText?, htokens]
    rfl
  have three : (3.0 : Float).isFinite = true := by decide +kernel
  have eight : (8.0 : Float).isFinite = true := by decide +kernel
  have four : (4.0 : Float).isFinite = true := by decide +kernel
  have hwritten : Json.ofText? written = some ({} : Theme).toJson := by
    have htokens : Token.ofText? written = some
        [.openObject, .string (some "highlightColor"), .colon, .string (some "#1E90FF"), .comma,
          .string (some "highlightWidth"), .colon, .number (some (.float 3.0 three)), .comma,
          .string (some "handleRadiusPx"), .colon, .number (some (.float 8.0 eight)), .comma,
          .string (some "handleFill"), .colon, .string (some "#fff"), .comma,
          .string (some "handleStroke"), .colon, .string (some "#1E90FF"), .comma,
          .string (some "moverFill"), .colon, .string (some "rgba(30, 144, 255, 0.12)"), .comma,
          .string (some "previewDashPx"), .colon, .number (some (.float 4.0 four)),
          .closeObject] := by decide +kernel +revert
    rw [Json.ofText?, htokens]
    simp only [toJson, Json.ofFloat, Number.ofFloat?, dif_pos three, dif_pos eight, dif_pos four]
    rfl
  obtain ⟨hloads, horder, hback⟩ := reading_of_object text fields h
  have hperm : (knownFields fields).Perm (knownFields others) := .swap _ _ []
  exact ⟨h, h', hwritten, hloads, horder text' others h' hperm,
    hback written {} hwritten three eight four rfl⟩

end Theme

end ShapeOverlay
