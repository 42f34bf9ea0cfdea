import ShapeOverlay.Json.Basic

/-!
# Numerals

A `Numeral` holds the digits of a JSON numeral, and `Numeral.value?` says which number they denote.

A numeral without a fraction and an exponent denotes an integer if that is in range; all other
numerals denote floating point numbers, `-0` among them. A floating point numeral is read through
a significand of 64 bits (`Numeral.significand`) and a power of ten: digits that do not fit into the
significand are dropped, those before the decimal point by raising the power. The significand is
converted and then multiplied by the power of ten or divided by it (`scaleUp`, `scaleDown`), each
step rounded, so the result may miss the nearest floating point number by the last digit. A numeral
beyond the range denotes nothing, one below it denotes zero.
-/

namespace ShapeOverlay

/-- The digits of a JSON numeral: before the decimal point, after it and of the exponent, if there
are any. `negative` and the truth value of the exponent tell whether a minus sign comes first. -/
structure Numeral where
  negative : Bool
  whole : List Nat
  fraction : Option (List Nat)
  exponent : Option (Bool × List Nat)
  deriving Repr, DecidableEq

namespace Numeral

/-- The number that a list of decimal digits denotes. -/
def ofDigits (digits : List Nat) : Nat := digits.foldl (fun n d => 10 * n + d) 0

/-! ### Reading -/

/-- The decimal digits at the front of a text, and the text behind them. -/
def spanDigits (cs : List Char) : List Nat × List Char :=
  let (digits, rest) := cs.span Char.isDigit
  (digits.map fun c => c.toNat - '0'.toNat, rest)

/-- The digits before the decimal point: at least one, and no zero in front of others. -/
def readWhole (cs : List Char) : Option (List Nat × List Char) :=
  match spanDigits cs with
  | ([], _) => none
  | (0 :: _ :: _, _) => none
  | found => some found

/-- The digits after a decimal point, of which there is at least one. -/
def readFraction : List Char → Option (Option (List Nat) × List Char)
  | '.' :: cs =>
    match spanDigits cs with
    | ([], _) => none
    | (digits, rest) => some (some digits, rest)
  | cs => some (none, cs)

/-- A sign, which may be missing, and whether it is a minus. -/
def spanSign : List Char → Bool × List Char
  | '-' :: cs => (true, cs)
  | '+' :: cs => (false, cs)
  | cs => (false, cs)

/-- The sign and the digits of an exponent, of which there is at least one. -/
def readExponent (cs : List Char) : Option (Option (Bool × List Nat) × List Char) :=
  match cs with
  | c :: rest =>
    if c = 'e' ∨ c = 'E' then
      let (negative, rest) := spanSign rest
      match spanDigits rest with
      | ([], _) => none
      | (digits, rest) => some (some (negative, digits), rest)
    else some (none, cs)
  | [] => some (none, [])

/-- The numeral that a text spells. -/
def ofChars? (cs : List Char) : Option Numeral :=
  let (negative, cs) := match cs with
    | '-' :: rest => (true, rest)
    | _ => (false, cs)
  do
    let (whole, cs) ← readWhole cs
    let (fraction, cs) ← readFraction cs
    let (exponent, cs) ← readExponent cs
    if cs.isEmpty then some { negative, whole, fraction, exponent } else none

/-! ### The significand -/

/-- A significand after further digits, and the number of digits left over: a digit is taken while
the significand stays below `2 ^ 64` and none before it was left over. -/
def takeDigits (significand : Nat) (digits : List Nat) : Nat × Nat :=
  digits.foldl
    (fun (n, left) d =>
      if left = 0 ∧ 10 * n + d < 0x10000000000000000 then (10 * n + d, 0) else (n, left + 1))
    (significand, 0)

/-- The significand of 64 bits and the power of ten by which it is to be multiplied. -/
def significand (n : Numeral) : Nat × Int :=
  let fraction := n.fraction.getD []
  let (whole, raised) := takeDigits 0 n.whole
  let (all, dropped) := takeDigits whole fraction
  (all, (raised : Int) - ((fraction.length - dropped : Nat) : Int))

/-! ### Scaling by powers of ten -/

/-- The floating point number nearest to a power of ten. -/
def powerOfTen (k : Nat) : Float := .ofNat (Nat.pow 10 k)

/-- The greatest power of ten that is a floating point number. -/
def greatestPower : Nat := 308

/-- The product with a power of ten; none if it is out of range. -/
def scaleUp (x : Float) (k : Nat) : Option Float :=
  if k ≤ greatestPower then
    let y := x * powerOfTen k
    if y.isFinite then some y else none
  else if x == 0 then some x else none

/-- The quotient by a power of ten, divided in steps no larger than the greatest power. -/
def scaleDown (x : Float) (k : Nat) : Float :=
  if k ≤ greatestPower then x / powerOfTen k
  else if x == 0 then x
  else scaleDown (x / powerOfTen greatestPower) (k - greatestPower)
termination_by k
decreasing_by simp only [greatestPower] at *; omega

/-- The product of a significand and a power of ten, which may be negative. -/
def scale (significand : Nat) (power : Int) : Option Float :=
  if 0 ≤ power then scaleUp (.ofNat significand) power.toNat
  else some (scaleDown (.ofNat significand) (-power).toNat)

/-! ### The value -/

/-- The greatest exponent that is told apart from larger ones. -/
def greatestExponent : Nat := 0x7fffffff

/-- The magnitude of a numeral read as a floating point number. -/
def magnitude? (n : Numeral) : Option Float :=
  let (significand, power) := n.significand
  match n.exponent with
  | none => scale significand power
  | some (negative, digits) =>
    let exponent := ofDigits digits
    if exponent ≤ greatestExponent then
      scale significand (if negative then power - exponent else power + exponent)
    else if negative || significand == 0 then some 0
    else none

/-- The numeral has neither a fraction nor an exponent. -/
def isWhole (n : Numeral) : Bool := n.fraction.isNone && n.exponent.isNone

/-- The integer that the digits before the decimal point denote. -/
def wholeValue (n : Numeral) : Int :=
  if n.negative then -(ofDigits n.whole : Int) else ofDigits n.whole

/-- A whole numeral in range, other than the negative zero, denotes an integer. -/
def integer? (n : Numeral) : Option Number :=
  if n.isWhole ∧ ¬ (n.negative = true ∧ n.wholeValue = 0) then Number.ofInt? n.wholeValue else none

/-- **The number that a numeral denotes**, if it is in range. -/
def value? (n : Numeral) : Option Number :=
  match n.integer? with
  | some i => some i
  | none => do
    let x ← n.magnitude?
    Number.ofFloat? (if n.negative then -x else x)

end Numeral

end ShapeOverlay
