import ShapeOverlay.Text.Hexadecimal

/-!
# Identifiers

An `Identifier` is a word of 128 bits that stays with a shape while its place in the list changes.
It is written as 32 hexadecimal digits in five groups (`Identifier.text`) and read in that form,
without hyphens, in braces or as a resource name (`Identifier.ofText?`).

New identifiers come from an `IdSupply`, a stream of which some have been handed out.
-/

namespace ShapeOverlay

/-- The identity of a shape. -/
structure Identifier where
  bits : BitVec 128
  deriving Repr, DecidableEq

namespace Identifier

/-- The identifier with no bit set. -/
def nil : Identifier := ⟨0⟩

/-! ### Writing -/

/-- The hexadecimal digits, highest first. -/
def digits (id : Identifier) : List Nat :=
  (List.range 32).map fun i => id.bits.toNat / Nat.pow 16 (31 - i) % 16

/-- The lengths of the groups of digits that hyphens separate. -/
def groups : List Nat := [8, 4, 4, 4, 12]

/-- A list cut into groups of the given lengths, with a separator between them. -/
def hyphenate (separator : Char) : List Nat → List Char → List Char
  | [], cs => cs
  | [_], cs => cs
  | n :: ns, cs => cs.take n ++ separator :: hyphenate separator ns (cs.drop n)

/-- The text of an identifier: lower case digits in groups of 8, 4, 4, 4 and 12. -/
def text (id : Identifier) : String :=
  .ofList (hyphenate '-' groups (id.digits.map Hexadecimal.digit))

/-! ### Reading -/

/-- The identifier that 32 digits denote. -/
def ofDigits? (cs : List Char) : Option Identifier := do
  let digits ← cs.mapM Hexadecimal.value?
  if digits.length = 32 then some ⟨.ofNat 128 (digits.foldl (fun n d => 16 * n + d) 0)⟩ else none

/-- The characters of hyphenated groups without the hyphens, if each hyphen is in its place. -/
def unhyphenate? : List Nat → List Char → Option (List Char)
  | n :: m :: ns, cs =>
    match cs.drop n with
    | '-' :: rest => (unhyphenate? (m :: ns) rest).map (cs.take n ++ ·)
    | _ => none
  | _, cs => some cs

/-- The identifier that 32 digits in hyphenated groups denote. -/
def ofHyphenated? (cs : List Char) : Option Identifier := (unhyphenate? groups cs).bind ofDigits?

/-- What may stand in front of a hyphenated identifier, and what must then stand behind it; letters
may be in either case. -/
def wrappings : List (List Char × List Char) :=
  [([], []), (['\x7b'], ['\x7d']), ("urn:uuid:".toList, [])]

/-- What stands between two texts that are given in lower case and may be written in either. -/
def unwrap? (before after cs : List Char) : Option (List Char) :=
  let around := cs.take before.length ++ cs.drop (cs.length - after.length)
  if around.map Char.toLower = before ++ after then
    some ((cs.drop before.length).take (cs.length - before.length - after.length))
  else none

/-- The identifier that a text denotes: 32 digits, either plain or in hyphenated groups, and the
latter as they are, in braces or behind the words of a resource name. Letters may be in either
case everywhere. -/
def ofText? (s : String) : Option Identifier :=
  let cs := s.toList
  (ofDigits? cs).or
    (wrappings.findSome? fun (before, after) => (unwrap? before after cs).bind ofHyphenated?)

end Identifier

/-! ### Supplies -/

/-- A stream of identifiers of which the first `issued` have been handed out. -/
structure IdSupply where
  source : Nat → Identifier
  issued : Nat := 0

namespace IdSupply

/-- The identifier that is handed out next. -/
def next (ids : IdSupply) : Identifier := ids.source ids.issued

/-- The supply after the next identifier has been handed out. -/
def advance (ids : IdSupply) : IdSupply := { ids with issued := ids.issued + 1 }

end IdSupply

end ShapeOverlay
