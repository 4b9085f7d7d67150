/-
  CommandConsole.Number.Written — how numbers are written.

  Two forms. `oneDecimal` has exactly one digit after the point: the exact value of
  the word, to the nearest tenth, a tie to the even digit. `shortest` has the fewest
  digits that read back as the same word, of those the nearest to it (an exact tie
  goes up), and is always positional: no exponent, and no point when nothing follows
  it.

  The shortest digits are found without a special algorithm. The values that round
  to a word form an interval around it, ends included when the significand is even.
  On the grid of one digit, then two, and so on, the two neighbours of the value are
  tried; the first grid with a neighbour in the interval wins, and no finite word
  needs more than seventeen digits.

  Both forms keep the sign of zero and write `inf`, `-inf` and `NaN`.
-/

import CommandConsole.Number.Numeral

namespace CommandConsole.Number

/-! ## One digit after the point -/

def withSign (negative : Bool) (s : String) : String := if negative then "-" ++ s else s

def oneDecimal {f : Format} (x : Binary f) : String :=
  match x.datum with
  | .nan => "NaN"
  | .infinite negative => withSign negative "inf"
  | .finite negative m p =>
    let (n, d) := Binary.scale (10 * m) 1 p
    let tenths := Binary.nearestEven n d
    withSign negative (decimal (tenths / 10) ++ "." ++ decimal (tenths % 10))

/-! ## The fewest digits -/

/-- A positive quotient with the interval of values that round to it, all over one
    denominator: the value, the ends, and whether the ends belong to it. -/
structure Neighbourhood where
  value : Nat
  low : Nat
  high : Nat
  den : Nat
  closed : Bool

/-- The values that round to `m · 2^p`. The one below a power of two is half as far
    away, except at the least power of the format. -/
def neighbourhood (f : Format) (m : Nat) (p : Int) : Neighbourhood :=
  let (n, d) := Binary.scale m 4 p
  let unit := (Binary.scale 1 4 p).1
  let below := if m = Nat.pow 2 f.fraction ∧ f.leastPower < p then unit else 2 * unit
  { value := 4 * n, low := 4 * n - below, high := 4 * n + 2 * unit, den := d, closed := m % 2 == 0 }

def Neighbourhood.contains (h : Neighbourhood) (num den : Nat) : Bool :=
  let x := num * h.den
  if h.closed then h.low * den ≤ x && x ≤ h.high * den else h.low * den < x && x < h.high * den

/-- The number of decimal places before the point: the least `t` with value below
    `10^t`. -/
def placesOf (num den : Nat) : Int :=
  if den ≤ num then (digitsOf (num / den)).length
  else
    let up := (den + num - 1) / num
    1 - ((digitsOf (up - 1)).length : Int)

/-- Digits with the place of the point: `digits · 10^(places - count)`. -/
structure Figures where
  digits : List Char
  places : Int

/-- The two neighbours of the value on the grid of `count` digits, if one of them is
    in the interval. -/
def onGrid (h : Neighbourhood) (places : Int) (count : Nat) : Option Figures :=
  let k := (count : Int) - places
  -- value · 10^k = n / d
  let n := if 0 ≤ k then h.value * Nat.pow 10 k.toNat else h.value
  let d := if 0 ≤ k then h.den else h.den * Nat.pow 10 (-k).toNat
  let inside (c : Nat) : Bool :=
    if 0 ≤ k then h.contains c (Nat.pow 10 k.toNat) else h.contains (c * Nat.pow 10 (-k).toNat) 1
  let lo := n / d
  let hi := lo + 1
  let figures (c : Nat) : Figures :=
    let ds := digitsOf c
    { digits := ds, places := places + ((ds.length : Int) - count) }
  match inside lo, inside hi with
  | true, true => some (if 2 * (n % d) < d then figures lo else figures hi)
  | true, false => some (figures lo)
  | false, true => some (figures hi)
  | false, false => none

def shortestFigures (f : Format) (m : Nat) (p : Int) : Figures :=
  let h := neighbourhood f m p
  let places := placesOf h.value h.den
  ((List.range 17).findSome? fun i => onGrid h places (i + 1)).getD
    { digits := digitsOf m, places := (digitsOf m).length }

/-- Digits written out in full, with zeros where they do not reach the point. -/
def Figures.positional (x : Figures) : String :=
  let ds := (x.digits.reverse.dropWhile (· == '0')).reverse
  let count : Int := ds.length
  if x.places ≤ 0 then
    "0." ++ String.ofList (List.replicate (-x.places).toNat '0' ++ ds)
  else if count ≤ x.places then
    String.ofList (ds ++ List.replicate (x.places - count).toNat '0')
  else
    String.ofList (ds.take x.places.toNat) ++ "." ++ String.ofList (ds.drop x.places.toNat)

def shortest {f : Format} (x : Binary f) : String :=
  match x.datum with
  | .nan => "NaN"
  | .infinite negative => withSign negative "inf"
  | .finite negative m p =>
    if m = 0 then withSign negative "0" else withSign negative (shortestFigures f m p).positional

/-! ## Words -/

/-- The word in hexadecimal, all its digits. -/
def hexWord {f : Format} (x : Binary f) : String :=
  String.ofList ((List.range (f.width / 4)).reverse.map fun i =>
    let d := x.bits.toNat / Nat.pow 16 i % 16
    Char.ofNat (if d < 10 then 48 + d else 87 + d))

end CommandConsole.Number
