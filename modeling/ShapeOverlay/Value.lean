import ShapeOverlay.Value.Tree

/-!
# Attribute values

A `Value` is what an attribute of a shape can hold: a JSON value in which the entries of an object
are sorted by key and no key occurs twice. `Value.ofJson?` takes a JSON tree for a value, the last
of several entries with one key winning, and `Value.toJson` writes it as a tree again.

Setting an entry and erasing one change what is under its key and nothing else
(`Value.get?_insert`, `Value.get?_erase`).

Values are compared in two ways. `==` is structural, so that the integer one differs from the float
one. `Value.agrees` compares two numbers by their value as floats and all else structurally.
-/

namespace ShapeOverlay

/-- The value of an attribute: a tree in which the entries of every object stand in the strict order
of their keys. -/
@[ext] structure Value where
  tree : ValueTree
  sorted : tree.Sorted

namespace Value

/-! ### Values of a kind -/

/-- The missing value. -/
def null : Value := ⟨.null, .null⟩

/-- The value of a text. -/
def ofString (s : String) : Value := ⟨.string s, .string s⟩

/-- The value of a floating point number; null if it is not finite. -/
def ofFloat (x : Float) : Value :=
  match Number.ofFloat? x with
  | some n => ⟨.number n, .number n⟩
  | none => null

/-- The value is null. -/
def isNull (v : Value) : Bool :=
  match v.tree with
  | .null => true
  | _ => false

/-- The text of a string. -/
def string? (v : Value) : Option String :=
  match v.tree with
  | .string s => some s
  | _ => none

/-- A number as a float. -/
def float? (v : Value) : Option Float :=
  match v.tree with
  | .number n => some n.toFloat
  | _ => none

/-! ### Entries of objects -/

/-- The value under a key of an object; other values hold nothing under any key. -/
def get? (v : Value) (key : String) : Option Value :=
  match h : ValueTree.lookup key v.tree.entries with
  | some t => some ⟨t, ValueTree.sorted_lookup (ValueTree.sorted_entries v.sorted) h⟩
  | none => none

/-- An object with an entry set. What is not an object makes way for an empty one. -/
def insert (v : Value) (key : String) (new : Value) : Value :=
  ⟨.object (ValueTree.insert key new.tree v.tree.entries),
    ValueTree.sorted_insert (ValueTree.sorted_entries v.sorted) new.sorted⟩

/-- An object with an entry erased. What is not an object makes way for an empty one. -/
def erase (v : Value) (key : String) : Value :=
  ⟨.object (ValueTree.erase key v.tree.entries),
    ValueTree.sorted_erase (ValueTree.sorted_entries v.sorted)⟩

theorem tree_get? (v : Value) (key : String) :
    (v.get? key).map tree = ValueTree.lookup key v.tree.entries := by
  unfold get?
  split <;> simp_all

/-- Setting an entry sets the value under its key and no other. -/
theorem get?_insert (v : Value) (key key' : String) (new : Value) :
    (v.insert key new).get? key' = if key = key' then some new else v.get? key' := by
  refine Option.map_injective (f := tree) (fun _ _ => Value.ext) ?_
  rw [tree_get?, apply_ite (Option.map tree), tree_get?]
  exact ValueTree.lookup_insert key key' new.tree v.tree.entries

/-- Erasing an entry leaves nothing under its key and all else as it is. -/
theorem get?_erase (v : Value) (key key' : String) :
    (v.erase key).get? key' = if key = key' then none else v.get? key' := by
  refine Option.map_injective (f := tree) (fun _ _ => Value.ext) ?_
  rw [tree_get?, apply_ite (Option.map tree), tree_get?]
  exact ValueTree.lookup_erase key key' v.tree.entries

/-- An object with an entry set, or erased if the new value is null. -/
def put (v : Value) (key : String) (new : Value) : Value :=
  if new.isNull then v.erase key else v.insert key new

/-! ### Comparing -/

instance : BEq Value := ⟨fun v w => v.tree.same w.tree⟩

/-- Two numbers agree if they are equal as floats, other values if they are the same. -/
def agrees (v w : Value) : Bool :=
  match v.float?, w.float? with
  | some x, some y => x == y
  | _, _ => v == w

/-! ### JSON trees -/

/-- The value of a JSON tree, if every leaf of it denotes something. -/
def ofJson? (j : Json) : Option Value :=
  match h : ValueTree.ofJson? j with
  | some t => some ⟨t, ValueTree.sorted_ofJson? j t h⟩
  | none => none

/-- A value as a JSON tree. -/
def toJson (v : Value) : Json := v.tree.toJson

end Value

end ShapeOverlay
