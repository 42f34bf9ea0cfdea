import Mathlib.Algebra.Ring.Nat
import ShapeOverlay.Identifier

/-! # The text of an identifier

What is written of an identifier is read as this identifier (`ofText?_text`). The 32 digits are those
of its bits (`foldl_digits`), each of them is read as its value (`mapM_digit`), and the hyphens stand
where they are looked for (`unhyphenate?_hyphenate`). No text with hyphens passes for plain digits
(`ofDigits?_text`). -/

namespace ShapeOverlay

theorem Hexadecimal.mapM_digit {ds : List Nat} (h : ∀ d ∈ ds, d < 16) :
    (ds.map digit).mapM value? = some ds := by
  induction ds with
  | nil => rfl
  | cons d ds ih =>
    obtain ⟨hd, hds⟩ := List.forall_mem_cons.mp h
    simp [List.mapM_cons, value?_digit hd, ih hds]

namespace Identifier

/-! ### Digits -/

theorem length_digits (id : Identifier) : id.digits.length = 32 := by simp [digits]

theorem lt_of_mem_digits {id : Identifier} {d : Nat} (h : d ∈ id.digits) : d < 16 := by
  obtain ⟨i, -, rfl⟩ := List.mem_map.mp h
  exact Nat.mod_lt _ (by decide)

/-- The digits of a number, highest first, denote what is below the next power of sixteen. -/
theorem foldl_range (k n : Nat) :
    ((List.range k).map fun i => n / 16 ^ (k - 1 - i) % 16).foldl (fun n d => 16 * n + d) 0 =
      n % 16 ^ k := by
  induction k generalizing n with
  | zero => simp [Nat.mod_one]
  | succ k ih =>
    -- the lowest digit comes last, and those before it are the digits of the quotient
    have hhigh : ∀ i ∈ List.range k,
        n / 16 ^ (k + 1 - 1 - i) % 16 = n / 16 / 16 ^ (k - 1 - i) % 16 := by
      intro i hi
      have hlt := List.mem_range.mp hi
      rw [Nat.div_div_eq_div_mul, ← Nat.pow_succ']
      congr 3
      omega
    rw [List.range_succ, List.map_append, List.foldl_append, List.map_congr_left hhigh, ih,
      Nat.pow_succ', Nat.mod_mul]
    simp [Nat.add_comm]

/-- The digits denote the bits. -/
theorem foldl_digits (id : Identifier) :
    id.digits.foldl (fun n d => 16 * n + d) 0 = id.bits.toNat :=
  (foldl_range 32 id.bits.toNat).trans (Nat.mod_eq_of_lt id.bits.isLt)

/-- Plain digits are read. -/
theorem ofDigits?_digits (id : Identifier) :
    ofDigits? (id.digits.map Hexadecimal.digit) = some id := by
  have hread := Hexadecimal.mapM_digit fun d (hd : d ∈ id.digits) => lt_of_mem_digits hd
  simp [ofDigits?, hread, length_digits, foldl_digits]

/-- Hyphens are no digits. -/
theorem ofDigits?_of_mem {cs : List Char} (h : '-' ∈ cs) : ofDigits? cs = none := by
  obtain ⟨before, after, rfl⟩ := List.append_of_mem h
  have hread : (before ++ '-' :: after).mapM Hexadecimal.value? = none := by
    rw [List.mapM_append, List.mapM_cons, show Hexadecimal.value? '-' = none by decide]
    cases before.mapM Hexadecimal.value? <;> rfl
  rw [ofDigits?, hread]
  rfl

/-! ### Groups -/

theorem hyphenate_cons (n m : Nat) (ns : List Nat) (cs : List Char) :
    hyphenate '-' (n :: m :: ns) cs =
      cs.take n ++ '-' :: hyphenate '-' (m :: ns) (cs.drop n) := rfl

theorem unhyphenate?_hyphenate {ns : List Nat} {cs : List Char} (h : ns.sum ≤ cs.length) :
    unhyphenate? ns (hyphenate '-' ns cs) = some cs := by
  induction ns generalizing cs with
  | nil => rfl
  | cons n ns ih =>
    cases ns with
    | nil => rfl
    | cons m ns =>
      rw [List.sum_cons] at h
      have hn : (cs.take n).length = n := by simp; omega
      have hrest : (m :: ns).sum ≤ (cs.drop n).length := by simp only [List.length_drop]; omega
      rw [hyphenate_cons, unhyphenate?, List.drop_left' hn, List.take_left' hn]
      simp [ih hrest]

theorem mem_hyphenate (n m : Nat) (ns : List Nat) (cs : List Char) :
    '-' ∈ hyphenate '-' (n :: m :: ns) cs := by
  simp [hyphenate_cons]

theorem unwrap?_nil (cs : List Char) : unwrap? [] [] cs = some cs := by
  simp [unwrap?]

/-- **What is written of an identifier is read as this identifier.** -/
theorem ofText?_text (id : Identifier) : ofText? id.text = some id := by
  have hgroups : unhyphenate? groups (hyphenate '-' groups (id.digits.map Hexadecimal.digit)) =
      some (id.digits.map Hexadecimal.digit) :=
    unhyphenate?_hyphenate (by rw [List.length_map, length_digits]; decide)
  -- hyphenated text is no plain text, so it is left to the first of the wrappings
  have hplain : ofDigits? (hyphenate '-' groups (id.digits.map Hexadecimal.digit)) = none :=
    ofDigits?_of_mem (mem_hyphenate 8 4 [4, 4, 12] _)
  rw [ofText?, text, String.toList_ofList]
  simp [hplain, wrappings, unwrap?_nil, ofHyphenated?, hgroups, ofDigits?_digits]

end Identifier

end ShapeOverlay
