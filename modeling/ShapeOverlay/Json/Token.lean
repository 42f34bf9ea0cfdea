import ShapeOverlay.Json.Numeral
import ShapeOverlay.Text.Hexadecimal

/-!
# Tokens of JSON text

`Token.ofText?` cuts a JSON text into tokens: brackets, separators, string literals, and bare runs,
which spell a word or a numeral. The scan goes over the text once, one character per step
(`Scan.step`), and fails on a character that cannot stand where it is, on a bare run that spells
nothing and on a string that does not end.

A string literal is first read as a list of units: each character as it stands is one, and so is
each escape. `Literal.ofUnits` joins two surrogates that stand next to each other into one character
and gives no text if one is left alone.
-/

namespace ShapeOverlay

/-! ### Units of a string literal -/

namespace Literal

/-- The unit is the first half of a pair. -/
def isLeading (u : Nat) : Bool := 0xD800 ≤ u && u < 0xDC00

/-- The unit is the second half of a pair. -/
def isTrailing (u : Nat) : Bool := 0xDC00 ≤ u && u < 0xE000

/-- The character that two halves form. -/
def join (u v : Nat) : Char := .ofNat (0x10000 + (u - 0xD800) * 0x400 + (v - 0xDC00))

/-- The characters that units denote, put behind those already found, latest first. -/
def charsOfUnits (found : List Char) : List Nat → Option (List Char)
  | [] => some found.reverse
  | u :: rest =>
    if isTrailing u then none
    else if isLeading u then
      match rest with
      | v :: rest => if isTrailing v then charsOfUnits (join u v :: found) rest else none
      | [] => none
    else charsOfUnits (.ofNat u :: found) rest

/-- The text that units denote, if no half of a pair is alone. -/
def ofUnits (units : List Nat) : Literal := (charsOfUnits [] units).map String.ofList

end Literal

/-! ### Tokens -/

/-- A token of JSON text. A numeral comes with the number it denotes. -/
inductive Token where
  | openArray
  | closeArray
  | openObject
  | closeObject
  | comma
  | colon
  | null
  | bool (b : Bool)
  | number (n : Option Number)
  | string (s : Literal)
  deriving DecidableEq

/-- How far an escape in a string literal has been read: not begun, its backslash, or some of four
hexadecimal digits, which denote `value`; one more than `missing` are still to come. -/
inductive Escape where
  | closed
  | begun
  | digits (missing : Nat) (value : Nat)
  deriving Repr, DecidableEq

/-- What a scan of JSON text is within: nothing, a bare run, with its characters latest first, or a
string literal, with its units latest first. -/
inductive Scan.Place where
  | between
  | bare (run : List Char)
  | string (units : List Nat) (escape : Escape)
  deriving Repr, DecidableEq

/-- A scan of JSON text, with the tokens found so far, latest first. -/
structure Scan where
  place : Scan.Place
  found : List Token

namespace Token

/-- The token that a bare run spells. -/
def ofBare? (run : List Char) : Option Token :=
  if run = ['n', 'u', 'l', 'l'] then some null
  else if run = ['t', 'r', 'u', 'e'] then some (bool true)
  else if run = ['f', 'a', 'l', 's', 'e'] then some (bool false)
  else (Numeral.ofChars? run).map fun n => number n.value?

/-- The token of one character that a bracket or separator is. -/
def ofMark? : Char → Option Token
  | '[' => some openArray
  | ']' => some closeArray
  | '\x7b' => some openObject
  | '\x7d' => some closeObject
  | ',' => some comma
  | ':' => some colon
  | _ => none

end Token

/-! ### Scanning -/

namespace Scan

/-- The character separates tokens and means nothing else. -/
def isBlank (c : Char) : Bool := c == ' ' || c == '\n' || c == '\r' || c == '\t'

/-- The unit that a one-character escape denotes. -/
def simpleEscape? : Char → Option Nat
  | '"' => some 0x22
  | '\\' => some 0x5C
  | '/' => some 0x2F
  | 'b' => some 0x08
  | 'f' => some 0x0C
  | 'n' => some 0x0A
  | 'r' => some 0x0D
  | 't' => some 0x09
  | _ => none

/-- The scan at the start of a text. -/
def start : Scan := ⟨.between, []⟩

/-- One more character between two tokens. -/
def stepBetween (found : List Token) (c : Char) : Scan :=
  if isBlank c then ⟨.between, found⟩
  else if c = '"' then ⟨.string [] .closed, found⟩
  else match Token.ofMark? c with
    | some token => ⟨.between, token :: found⟩
    | none => ⟨.bare [c], found⟩

/-- The character ends a bare run. -/
def endsBare (c : Char) : Bool := isBlank c || c == '"' || (Token.ofMark? c).isSome

/-- One more character in a bare run. -/
def stepBare (run : List Char) (found : List Token) (c : Char) : Option Scan :=
  if endsBare c then (Token.ofBare? run.reverse).map fun token => stepBetween (token :: found) c
  else some ⟨.bare (c :: run), found⟩

/-- One more character in a string literal. -/
def stepString (units : List Nat) (found : List Token) (c : Char) : Escape → Option Scan
  | .closed =>
    if c = '"' then some ⟨.between, .string (Literal.ofUnits units.reverse) :: found⟩
    else if c = '\\' then some ⟨.string units .begun, found⟩
    else if c < ' ' then none
    else some ⟨.string (c.toNat :: units) .closed, found⟩
  | .begun =>
    if c = 'u' then some ⟨.string units (.digits 3 0), found⟩
    else (simpleEscape? c).map fun unit => ⟨.string (unit :: units) .closed, found⟩
  | .digits missing value => (Hexadecimal.value? c).map fun d =>
    match missing with
    | 0 => ⟨.string ((16 * value + d) :: units) .closed, found⟩
    | missing + 1 => ⟨.string units (.digits missing (16 * value + d)), found⟩

/-- One more character of the text. -/
def step (s : Scan) (c : Char) : Option Scan :=
  match s.place with
  | .between => some (stepBetween s.found c)
  | .bare run => stepBare run s.found c
  | .string units escape => stepString units s.found c escape

/-- The tokens of a text that has been scanned to its end. -/
def finish (s : Scan) : Option (List Token) :=
  match s.place with
  | .between => some s.found.reverse
  | .bare run => (Token.ofBare? run.reverse).map fun token => (token :: s.found).reverse
  | .string _ _ => none

end Scan

/-- **The tokens of a JSON text**, if it can be cut into tokens. -/
def Token.ofText? (text : String) : Option (List Token) :=
  (text.toList.foldlM Scan.step Scan.start).bind Scan.finish

end ShapeOverlay
