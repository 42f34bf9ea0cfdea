import ShapeOverlay.Json.Basic

/-!
# Trees of attribute values

A `ValueTree` is the structure of an attribute value. It is *sorted* (`ValueTree.Sorted`) if the
entries of every object in it stand in the strict order of their keys, so that there is one tree for
each value. Setting an entry, erasing one and reading a JSON tree give sorted trees
(`ValueTree.sorted_insert`, `ValueTree.sorted_erase`, `ValueTree.sorted_ofJson?`).
-/

namespace ShapeOverlay

/-- The structure of an attribute value. -/
inductive ValueTree where
  | null
  | bool (b : Bool)
  | number (n : Number)
  | string (s : String)
  | array (items : List ValueTree)
  | object (entries : List (String × ValueTree))

namespace ValueTree

/-- The entries of every object stand in the strict order of their keys. -/
inductive Sorted : ValueTree → Prop where
  | null : Sorted null
  | bool (b : Bool) : Sorted (bool b)
  | number (n : Number) : Sorted (number n)
  | string (s : String) : Sorted (string s)
  | array {items : List ValueTree} : (∀ t ∈ items, Sorted t) → Sorted (array items)
  | object {entries : List (String × ValueTree)} : entries.Pairwise (fun a b => a.1 < b.1) →
      (∀ e ∈ entries, Sorted e.2) → Sorted (object entries)

/-! ### Entries -/

/-- The entries of an object; other values have none. -/
def entries : ValueTree → List (String × ValueTree)
  | object entries => entries
  | _ => []

/-- The value under a key. -/
def lookup (key : String) : List (String × ValueTree) → Option ValueTree
  | [] => none
  | (k, t) :: rest => if k = key then some t else lookup key rest

/-- The sorted entries after one is set, in place of an entry with the same key if there is one. -/
def insert (key : String) (t : ValueTree) : List (String × ValueTree) → List (String × ValueTree)
  | [] => [(key, t)]
  | (k, u) :: rest =>
    if key < k then (key, t) :: (k, u) :: rest
    else if k = key then (key, t) :: rest
    else (k, u) :: insert key t rest

/-- The entries without the one under a key. -/
def erase (key : String) (entries : List (String × ValueTree)) : List (String × ValueTree) :=
  entries.filter (·.1 != key)

/-- The sorted entries of a list in which keys may be repeated; the last with a key wins. -/
def sort (entries : List (String × ValueTree)) : List (String × ValueTree) :=
  entries.foldl (fun sorted (key, t) => insert key t sorted) []

@[simp] theorem entries_object (es : List (String × ValueTree)) : (object es).entries = es := rfl

/-- Setting an entry sets the value under its key and no other. -/
theorem lookup_insert (key key' : String) (t : ValueTree) (es : List (String × ValueTree)) :
    lookup key' (insert key t es) = if key = key' then some t else lookup key' es := by
  induction es with
  | nil => rfl
  | cons e rest ih =>
    obtain ⟨k, u⟩ := e
    rw [insert]
    split
    · rfl
    · split
      · rename_i heq
        subst heq
        by_cases h : k = key' <;> simp [lookup, h]
      · rename_i hne
        by_cases h : k = key'
        · subst h
          simp [lookup, Ne.symm hne]
        · simp [lookup, h, ih]

/-- Erasing an entry leaves nothing under its key and all else as it is. -/
theorem lookup_erase (key key' : String) (es : List (String × ValueTree)) :
    lookup key' (erase key es) = if key = key' then none else lookup key' es := by
  induction es with
  | nil => simp [erase, lookup]
  | cons e rest ih =>
    obtain ⟨k, u⟩ := e
    rw [erase] at ih ⊢
    by_cases hk : k = key
    · subst hk
      by_cases h : k = key' <;> simp_all [lookup]
    · by_cases h : k = key'
      · subst h
        simp [lookup, hk, Ne.symm hk]
      · simp [lookup, hk, h, ih]

theorem mem_of_lookup {key : String} {t : ValueTree} {es : List (String × ValueTree)}
    (h : lookup key es = some t) : (key, t) ∈ es := by
  induction es with
  | nil => simp [lookup] at h
  | cons e rest ih =>
    obtain ⟨k, u⟩ := e
    rw [lookup] at h
    split at h
    · simp_all
    · exact List.mem_cons_of_mem _ (ih h)

theorem mem_insert {key : String} {t : ValueTree} {es : List (String × ValueTree)}
    {e : String × ValueTree} (h : e ∈ insert key t es) : e = (key, t) ∨ e ∈ es := by
  induction es with
  | nil => simpa [insert] using h
  | cons f rest ih =>
    obtain ⟨k, u⟩ := f
    rw [insert] at h
    split at h
    · simpa using h
    · split at h
      · rcases List.mem_cons.1 h with h | h
        · exact Or.inl h
        · exact Or.inr (List.mem_cons_of_mem _ h)
      · rcases List.mem_cons.1 h with rfl | h
        · exact Or.inr List.mem_cons_self
        · exact (ih h).imp_right (List.mem_cons_of_mem _)

theorem pairwise_insert {key : String} {t : ValueTree} {es : List (String × ValueTree)}
    (h : es.Pairwise (fun a b => a.1 < b.1)) :
    (insert key t es).Pairwise (fun a b => a.1 < b.1) := by
  induction es with
  | nil => simp [insert]
  | cons f rest ih =>
    obtain ⟨k, u⟩ := f
    obtain ⟨hk, hrest⟩ := List.pairwise_cons.1 h
    rw [insert]
    split
    · rename_i hlt
      refine List.pairwise_cons.2 ⟨fun e he => ?_, h⟩
      rcases List.mem_cons.1 he with rfl | he
      · exact hlt
      · exact String.lt_trans hlt (hk e he)
    · rename_i hlt
      split
      · rename_i heq
        subst heq
        exact List.pairwise_cons.2 ⟨hk, hrest⟩
      · rename_i hne
        refine List.pairwise_cons.2 ⟨fun e he => ?_, ih hrest⟩
        rcases mem_insert he with rfl | he
        · exact Classical.byContradiction fun h' =>
            hne (String.le_antisymm (String.not_lt.1 hlt) (String.not_lt.1 h'))
        · exact hk e he

theorem sorted_entries {t : ValueTree} (h : t.Sorted) : (object t.entries).Sorted := by
  cases h with
  | object h₁ h₂ => exact .object h₁ h₂
  | _ => exact .object .nil (by simp [entries])

/-- A value under a key of a sorted object is sorted. -/
theorem sorted_lookup {key : String} {t : ValueTree} {es : List (String × ValueTree)}
    (h : (object es).Sorted) (ht : lookup key es = some t) : t.Sorted := by
  cases h with
  | object _ h => exact h _ (mem_of_lookup ht)

/-- An object stays sorted when an entry is set. -/
theorem sorted_insert {key : String} {t : ValueTree} {es : List (String × ValueTree)}
    (h : (object es).Sorted) (ht : t.Sorted) : (object (insert key t es)).Sorted := by
  cases h with
  | object h₁ h₂ =>
    refine .object (pairwise_insert h₁) fun e he => ?_
    rcases mem_insert he with rfl | he
    · exact ht
    · exact h₂ e he

/-- An object stays sorted when an entry is erased. -/
theorem sorted_erase {key : String} {es : List (String × ValueTree)} (h : (object es).Sorted) :
    (object (erase key es)).Sorted := by
  cases h with
  | object h₁ h₂ => exact .object (h₁.filter _) fun e he => h₂ e (List.mem_filter.1 he).1

theorem sorted_foldl_insert (es : List (String × ValueTree)) {sorted : List (String × ValueTree)}
    (h : (object sorted).Sorted) (hes : ∀ e ∈ es, e.2.Sorted) :
    (object (es.foldl (fun sorted (key, t) => insert key t sorted) sorted)).Sorted := by
  induction es generalizing sorted with
  | nil => exact h
  | cons e rest ih =>
    exact ih (sorted_insert h (hes e List.mem_cons_self)) fun f hf =>
      hes f (List.mem_cons_of_mem _ hf)

theorem sorted_sort {es : List (String × ValueTree)} (h : ∀ e ∈ es, e.2.Sorted) :
    (object (sort es)).Sorted :=
  sorted_foldl_insert es (.object .nil (by simp)) h

/-! ### Comparing -/

mutual

/-- The two values have the same structure and equal leaves. -/
def same : ValueTree → ValueTree → Bool
  | null, null => true
  | bool a, bool b => a == b
  | number m, number n => m == n
  | string s, string t => s == t
  | array xs, array ys => sameItems xs ys
  | object xs, object ys => sameEntries xs ys
  | _, _ => false

/-- The two lists hold the same values. -/
def sameItems : List ValueTree → List ValueTree → Bool
  | [], [] => true
  | x :: xs, y :: ys => same x y && sameItems xs ys
  | _, _ => false

/-- The two lists hold the same keys and the same values. -/
def sameEntries : List (String × ValueTree) → List (String × ValueTree) → Bool
  | [], [] => true
  | (j, x) :: xs, (k, y) :: ys => j == k && same x y && sameEntries xs ys
  | _, _ => false

end

/-! ### JSON trees -/

mutual

/-- The value of a JSON tree, if every leaf of it denotes something. -/
def ofJson? : Json → Option ValueTree
  | .null => some null
  | .bool b => some (bool b)
  | .number n => n.map number
  | .string s => s.map string
  | .array items => (ofItems? items).map array
  | .object entries => (ofMembers? entries).map fun es => object (sort es)

/-- The values of a list of JSON trees. -/
def ofItems? : List Json → Option (List ValueTree)
  | [] => some []
  | item :: items => do
    let t ← ofJson? item
    let ts ← ofItems? items
    some (t :: ts)

/-- The keys and values of the entries of an object, in the order of the text. -/
def ofMembers? : List (Literal × Json) → Option (List (String × ValueTree))
  | [] => some []
  | (key, item) :: rest => do
    let k ← key
    let t ← ofJson? item
    let es ← ofMembers? rest
    some ((k, t) :: es)

end

mutual

/-- The value of a JSON tree is sorted. -/
theorem sorted_ofJson? : ∀ (j : Json) (t : ValueTree), ofJson? j = some t → t.Sorted
  | .null, t, h => by
    obtain rfl : null = t := by simpa [ofJson?] using h
    exact .null
  | .bool b, t, h => by
    obtain rfl : bool b = t := by simpa [ofJson?] using h
    exact .bool b
  | .number n, t, h => by
    obtain ⟨n, -, rfl⟩ : ∃ m, n = some m ∧ number m = t := by simpa [ofJson?] using h
    exact .number n
  | .string s, t, h => by
    obtain ⟨s, -, rfl⟩ : ∃ r, s = some r ∧ string r = t := by simpa [ofJson?] using h
    exact .string s
  | .array items, t, h => by
    obtain ⟨ts, hts, rfl⟩ : ∃ ts, ofItems? items = some ts ∧ array ts = t := by
      simpa [ofJson?] using h
    exact .array (sorted_ofItems? items ts hts)
  | .object entries, t, h => by
    obtain ⟨es, hes, rfl⟩ : ∃ es, ofMembers? entries = some es ∧ object (sort es) = t := by
      simpa [ofJson?] using h
    exact sorted_sort (sorted_ofMembers? entries es hes)

theorem sorted_ofItems? : ∀ (items : List Json) (ts : List ValueTree), ofItems? items = some ts →
    ∀ t ∈ ts, t.Sorted
  | [], ts, h => by
    obtain rfl : [] = ts := by simpa [ofItems?] using h
    simp
  | item :: items, ts, h => by
    obtain ⟨t, ht, us, hus, rfl⟩ : ∃ t, ofJson? item = some t ∧
        ∃ us, ofItems? items = some us ∧ t :: us = ts := by
      simpa [ofItems?, Option.bind_eq_some_iff] using h
    intro u hu
    rcases List.mem_cons.1 hu with rfl | hu
    · exact sorted_ofJson? item u ht
    · exact sorted_ofItems? items us hus u hu

theorem sorted_ofMembers? : ∀ (entries : List (Literal × Json)) (es : List (String × ValueTree)),
    ofMembers? entries = some es → ∀ e ∈ es, e.2.Sorted
  | [], es, h => by
    obtain rfl : [] = es := by simpa [ofMembers?] using h
    simp
  | (key, item) :: rest, es, h => by
    obtain ⟨k, -, t, ht, us, hus, rfl⟩ : ∃ k, key = some k ∧ ∃ t, ofJson? item = some t ∧
        ∃ us, ofMembers? rest = some us ∧ (k, t) :: us = es := by
      simpa [ofMembers?, Option.bind_eq_some_iff] using h
    intro e he
    rcases List.mem_cons.1 he with rfl | he
    · exact sorted_ofJson? item t ht
    · exact sorted_ofMembers? rest us hus e he

end

mutual

/-- A value as a JSON tree. -/
def toJson : ValueTree → Json
  | null => .null
  | bool b => .bool b
  | number n => .number (some n)
  | string s => .string (some s)
  | array items => .array (itemsToJson items)
  | object entries => .object (entriesToJson entries)

/-- The JSON trees of a list of values. -/
def itemsToJson : List ValueTree → List Json
  | [] => []
  | t :: ts => toJson t :: itemsToJson ts

/-- The entries of a JSON object for those of a value. -/
def entriesToJson : List (String × ValueTree) → List (Literal × Json)
  | [] => []
  | (k, t) :: rest => (some k, toJson t) :: entriesToJson rest

end

end ValueTree

end ShapeOverlay
