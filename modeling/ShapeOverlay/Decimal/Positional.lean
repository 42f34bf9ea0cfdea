import ShapeOverlay.Decimal.Shortest

/-!
# Positional decimals

Floating point numbers are shown by their shortest decimal, always in positional notation, without a
point where there is no fraction (`Decimal.textOfFloat`).
-/

namespace ShapeOverlay.Decimal

/-- The digits of a decimal in positional notation: zeros stand where a digit is needed to reach the
point. -/
def positional (d : Decimal) : String :=
  let digits := Nat.toDigits 10 d.coefficient
  if 0 ≤ d.exponent then .ofList (digits ++ List.replicate d.exponent.toNat '0')
  else
    let places := (-d.exponent).toNat
    let padded := List.replicate (places + 1 - digits.length) '0' ++ digits
    .ofList (padded.take (padded.length - places) ++ '.' :: padded.drop (padded.length - places))

/-- **The text of a floating point number**, with the sign of a negative zero. -/
def textOfFloat (x : Float) : String :=
  match x.toModel.unpack with
  | .notANumber => "NaN"
  | .infinity .positive => "inf"
  | .infinity .negative => "-inf"
  | .zero .positive => "0"
  | .zero .negative => "-0"
  | .finite .positive m e _ => (shortest m e).positional
  | .finite .negative m e _ => "-" ++ (shortest m e).positional

end ShapeOverlay.Decimal
