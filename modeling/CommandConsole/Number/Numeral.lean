/-
  CommandConsole.Number.Numeral — how numbers are read from text.

  A numeral is an optional sign and then a name (`inf`, `infinity`, `nan`, in either
  case of letters) or digits with at most one point and an optional exponent; there
  is at least one digit before the exponent and one in it. Nothing may stand around
  it. The digits keep their exact value, so a word is rounded once, straight from the
  text.

  `ofNumeral` does not raise ten to a huge power: a number of 400 digits before the
  point is beyond every format, and one that starts 400 places behind it is below
  half the smallest word.

  Whole numbers are a sign and digits, of any length; `integer?` refuses those that
  do not fit into 64 bits.
-/

import CommandConsole.Number.Binary
import CommandConsole.Text.Blank

namespace CommandConsole.Number

/-! ## Digits -/

def digitValue (c : Char) : Nat := c.toNat - 48

/-- The number that decimal digits write. -/
def ofDigits (ds : List Char) : Nat := ds.foldl (fun n c => 10 * n + digitValue c) 0

/-- The decimal digits of a number, without leading zeros. -/
def digitsOf (n : Nat) : List Char := Nat.toDigits 10 n

def decimal (n : Nat) : String := String.ofList (digitsOf n)

def decimalInt (n : Int) : String := if n < 0 then "-" ++ decimal n.natAbs else decimal n.natAbs

/-- A leading sign, and whether it is a minus. -/
def takeSign : List Char → Bool × List Char
  | '-' :: r => (true, r)
  | '+' :: r => (false, r)
  | r => (false, r)

/-! ## Numerals -/

inductive Numeral where
  | nan (negative : Bool)
  | infinite (negative : Bool)
  /-- `digits · 10^power`. -/
  | decimal (negative : Bool) (digits : Nat) (power : Int)
  deriving DecidableEq

/-- The exponent after the digits: nothing, or a letter, a sign and digits. -/
def exponent? : List Char → Option Int
  | [] => some 0
  | c :: r =>
    if c = 'e' ∨ c = 'E' then
      let (negative, ds) := takeSign r
      if ds.isEmpty || !ds.all Char.isDigit then none
      else some (Binary.signed negative (ofDigits ds))
    else none

/-- The digits after the sign, with point and exponent. -/
def unsigned? (negative : Bool) (s : List Char) : Option Numeral :=
  let whole := s.takeWhile Char.isDigit
  let (part, rest) :=
    match s.dropWhile Char.isDigit with
    | '.' :: r => (r.takeWhile Char.isDigit, r.dropWhile Char.isDigit)
    | r => ([], r)
  if whole.isEmpty && part.isEmpty then none
  else (exponent? rest).map fun e => .decimal negative (ofDigits (whole ++ part)) (e - part.length)

def numeral? (s : List Char) : Option Numeral :=
  let (negative, body) := takeSign s
  if Text.sameIgnoringCase body "nan".toList then some (.nan negative)
  else if Text.sameIgnoringCase body "inf".toList || Text.sameIgnoringCase body "infinity".toList then
    some (.infinite negative)
  else unsigned? negative body

/-- The word nearest to the numeral's value. -/
def ofNumeral (f : Format) : Numeral → Binary f
  | .nan negative => if negative then (Binary.notANumber f).neg else Binary.notANumber f
  | .infinite negative => Binary.infinity f negative
  | .decimal negative n power =>
    let places := power + (digitsOf n).length
    if n = 0 ∨ places < -400 then Binary.zero f negative
    else if 400 < places then Binary.infinity f negative
    else if 0 ≤ power then Binary.ofQuotient f negative (n * Nat.pow 10 power.toNat) 1
    else Binary.ofQuotient f negative n (Nat.pow 10 (-power).toNat)

def float? (f : Format) (s : List Char) : Option (Binary f) := (numeral? s).map (ofNumeral f)

/-! ## Whole numbers -/

/-- Whole numbers are below this, and not below its negative. -/
def wholeBound : Nat := Nat.pow 2 63

def integer? (s : List Char) : Option Int :=
  let (negative, ds) := takeSign s
  if ds.isEmpty || !ds.all Char.isDigit then none
  else
    let n := Binary.signed negative (ofDigits ds)
    if -(wholeBound : Int) ≤ n ∧ n < wholeBound then some n else none

end CommandConsole.Number
