import Mathlib.Data.List.DropRight
import Mathlib.Data.List.Nodup
import ShapeOverlay.Theme

/-! # The first fault of a theme

A theme can be used if its three sizes are positive and something is left of each of its four colors
when white space is trimmed (`Theme.Usable`). Each field may have a fault of its own
(`Theme.Offends`), and of these the one is found that comes first in a fixed order of the fields
(`Theme.fault?_eq_some_iff`). -/

namespace ShapeOverlay

namespace Blank

/-- The characters of a text without the white space at its ends. -/
def trimmed (s : String) : List Char := (s.toList.dropWhile isWhiteSpace).rdropWhile isWhiteSpace

/-- A text is blank just if nothing is left of it when white space is trimmed. -/
theorem isBlank_iff {s : String} : isBlank s = true ↔ trimmed s = [] := by
  rw [isBlank, trimmed, List.all_eq_true, List.rdropWhile_eq_nil_iff]
  constructor
  · intro h c hc
    exact h c ((List.dropWhile_suffix isWhiteSpace).subset hc)
  · intro h
    have hnil : s.toList.dropWhile isWhiteSpace = [] := by
      by_contra hne
      -- what is left begins with a character that is not white space
      have hhead := List.head_dropWhile_not isWhiteSpace hne
      rw [h _ (List.head_mem hne)] at hhead
      cases hhead
    exact List.dropWhile_eq_nil_iff.1 hnil

end Blank

namespace Theme

variable {t : Theme} {field : String} {error : ThemeError}

/-- The names of the fields in the order in which they are checked. -/
def checkOrder : List String :=
  ["highlightWidth", "handleRadiusPx", "previewDashPx", "highlightColor", "handleFill",
    "handleStroke", "moverFill"]

/-- The sizes are positive, and the colors are not blank. -/
structure Usable (t : Theme) : Prop where
  highlightWidth : 0 < t.highlightWidth
  handleRadius : 0 < t.handleRadius
  previewDash : 0 < t.previewDash
  highlightColor : Blank.trimmed t.highlightColor ≠ []
  handleFill : Blank.trimmed t.handleFill ≠ []
  handleStroke : Blank.trimmed t.handleStroke ≠ []
  moverFill : Blank.trimmed t.moverFill ≠ []

/-- The field with a name has a fault: as a size it is not positive, as a color it is blank. -/
inductive Offends (t : Theme) : String → ThemeError → Prop where
  | highlightWidth : ¬ 0 < t.highlightWidth →
      Offends t "highlightWidth" (.notPositive "highlightWidth" t.highlightWidth)
  | handleRadius : ¬ 0 < t.handleRadius →
      Offends t "handleRadiusPx" (.notPositive "handleRadiusPx" t.handleRadius)
  | previewDash : ¬ 0 < t.previewDash →
      Offends t "previewDashPx" (.notPositive "previewDashPx" t.previewDash)
  | highlightColor : Blank.trimmed t.highlightColor = [] →
      Offends t "highlightColor" (.empty "highlightColor")
  | handleFill : Blank.trimmed t.handleFill = [] → Offends t "handleFill" (.empty "handleFill")
  | handleStroke : Blank.trimmed t.handleStroke = [] →
      Offends t "handleStroke" (.empty "handleStroke")
  | moverFill : Blank.trimmed t.moverFill = [] → Offends t "moverFill" (.empty "moverFill")

/-- **The fault of the first field that has one**, in the order in which they are checked. -/
def FirstFault (t : Theme) (error : ThemeError) : Prop :=
  ∃ before field after, checkOrder = before ++ field :: after ∧ Offends t field error ∧
    ∀ f ∈ before, ∀ e, ¬ Offends t f e

/-! ### All checks -/

/-- The fields with their faults, in the order in which they are checked. -/
def checks (t : Theme) : List (String × Option ThemeError) :=
  t.sizes.map (fun (field, value) => (field, sizeFault? field value)) ++
    t.colors.map fun (field, value) => (field, colorFault? field value)

theorem fault?_eq (t : Theme) : t.fault? = t.checks.findSome? Prod.snd := by
  rw [checks, List.findSome?_append, List.findSome?_map, List.findSome?_map]
  rfl

theorem map_checks (t : Theme) : t.checks.map Prod.fst = checkOrder := rfl

/-- There is one check of each field. -/
theorem eq_of_mem_checks {a b : String × Option ThemeError} (ha : a ∈ t.checks) (hb : b ∈ t.checks)
    (h : a.1 = b.1) : a = b := by
  have hnodup : (t.checks.map Prod.fst).Nodup := by
    rw [map_checks]
    decide
  exact List.inj_on_of_nodup_map hnodup ha hb h

theorem sizeFault?_eq_some_iff {value : Float} :
    sizeFault? field value = some error ↔ ¬ 0 < value ∧ error = .notPositive field value := by
  unfold sizeFault?
  split_ifs with h <;> simp [h, eq_comm]

theorem colorFault?_eq_some_iff {value : String} :
    colorFault? field value = some error ↔ Blank.trimmed value = [] ∧ error = .empty field := by
  unfold colorFault?
  rw [← Blank.isBlank_iff]
  split_ifs with h <;> simp [h, eq_comm]

theorem mem_checks_iff : (field, some error) ∈ t.checks ↔ Offends t field error := by
  simp only [checks, sizes, colors, List.map_cons, List.map_nil, List.cons_append, List.nil_append,
    List.mem_cons, List.not_mem_nil, or_false, Prod.mk.injEq, @eq_comm _ (some error),
    sizeFault?_eq_some_iff, colorFault?_eq_some_iff]
  -- the order of the constructors is that of the checks
  constructor
  · rintro (⟨rfl, h, rfl⟩ | ⟨rfl, h, rfl⟩ | ⟨rfl, h, rfl⟩ | ⟨rfl, h, rfl⟩ | ⟨rfl, h, rfl⟩ |
      ⟨rfl, h, rfl⟩ | ⟨rfl, h, rfl⟩)
    exacts [.highlightWidth h, .handleRadius h, .previewDash h, .highlightColor h, .handleFill h,
      .handleStroke h, .moverFill h]
  · rintro (h | h | h | h | h | h | h) <;> simp [h]

/-- **The fault that is found is the first.** -/
theorem fault?_eq_some_iff : t.fault? = some error ↔ t.FirstFault error := by
  rw [fault?_eq, List.findSome?_eq_some_iff]
  constructor
  · rintro ⟨before, ⟨field, fault⟩, after, hchecks, rfl, hnone⟩
    have hmem : ∀ c ∈ before ++ (field, some error) :: after, c ∈ t.checks := fun c hc =>
      hchecks ▸ hc
    refine ⟨before.map Prod.fst, field, after.map Prod.fst, ?_, ?_, ?_⟩
    · rw [← map_checks t, hchecks, List.map_append, List.map_cons]
    · exact mem_checks_iff.1 (hmem _ (List.mem_append_right _ List.mem_cons_self))
    · intro f hf e hoffends
      obtain ⟨c, hc, rfl⟩ := List.mem_map.1 hf
      have heq : c = (c.1, some e) :=
        eq_of_mem_checks (hmem c (List.mem_append_left _ hc)) (mem_checks_iff.2 hoffends) rfl
      have hsome := congrArg Prod.snd heq
      rw [hnone c hc] at hsome
      cases hsome
  · rintro ⟨names, field, others, horder, hoffends, hfirst⟩
    rw [← map_checks t] at horder
    obtain ⟨before, rest, hchecks, rfl, hrest⟩ := List.map_eq_append_iff.1 horder
    obtain ⟨c, after, rfl, rfl, rfl⟩ := List.map_eq_cons_iff.1 hrest
    have hmem : ∀ d ∈ before ++ c :: after, d ∈ t.checks := fun d hd => hchecks ▸ hd
    refine ⟨before, c, after, hchecks, ?_, fun d hd => ?_⟩
    · have heq : c = (c.1, some error) :=
        eq_of_mem_checks (hmem c (List.mem_append_right _ List.mem_cons_self))
          (mem_checks_iff.2 hoffends) rfl
      exact congrArg Prod.snd heq
    · rw [Option.eq_none_iff_forall_ne_some]
      intro e he
      have hd' : (d.1, some e) ∈ t.checks := he ▸ hmem d (List.mem_append_left _ hd)
      exact hfirst d.1 (List.mem_map_of_mem hd) e (mem_checks_iff.1 hd')

/-- A theme has no fault just if it can be used. -/
theorem fault?_eq_none_iff : t.fault? = none ↔ t.Usable := by
  rw [fault?_eq, List.findSome?_eq_none_iff]
  constructor
  · intro h
    have hnone : ∀ {field error}, ¬ Offends t field error := fun hoffends => by
      cases h _ (mem_checks_iff.2 hoffends)
    exact ⟨not_not.1 fun hsize => hnone (.highlightWidth hsize),
      not_not.1 fun hsize => hnone (.handleRadius hsize),
      not_not.1 fun hsize => hnone (.previewDash hsize),
      fun hcolor => hnone (.highlightColor hcolor), fun hcolor => hnone (.handleFill hcolor),
      fun hcolor => hnone (.handleStroke hcolor), fun hcolor => hnone (.moverFill hcolor)⟩
  · rintro h ⟨field, fault⟩ hmem
    refine Option.eq_none_iff_forall_ne_some.2 ?_
    rintro error rfl
    cases mem_checks_iff.1 hmem with
    | highlightWidth hsize => exact hsize h.highlightWidth
    | handleRadius hsize => exact hsize h.handleRadius
    | previewDash hsize => exact hsize h.previewDash
    | highlightColor hcolor => exact h.highlightColor hcolor
    | handleFill hcolor => exact h.handleFill hcolor
    | handleStroke hcolor => exact h.handleStroke hcolor
    | moverFill hcolor => exact h.moverFill hcolor

theorem validate_eq_ok_iff {u : Theme} : t.validate = .ok u ↔ t.Usable ∧ u = t := by
  rw [← fault?_eq_none_iff, validate]
  cases t.fault? <;> simp [eq_comm]

theorem validate_eq_error_iff : t.validate = .error error ↔ t.FirstFault error := by
  rw [← fault?_eq_some_iff, validate]
  cases t.fault? <;> simp

end Theme

end ShapeOverlay
