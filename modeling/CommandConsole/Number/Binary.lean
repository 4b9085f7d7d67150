/-
  CommandConsole.Number.Binary — binary floating-point words and exact rounding.

  A format is the width of the fraction and of the exponent field; `single` has 23
  and 8 bits, `double` 52 and 11. A word is decoded to what it says: not a number,
  an infinity, or a sign with `significand · 2^power`. No machine arithmetic takes
  part: every operation computes its exact result in integers and rounds it once.

  `ofQuotient` is that rounding. It picks the power for which the significand has
  full width (or the format's least power, where precision runs out), divides, and
  goes to the nearest integer, a tie to the even one. A carry out of the significand
  lands in the exponent field by itself, because the fields are adjacent; past the
  largest finite word it is the infinity.

  Sums, products, remainders and changes of format follow the usual rules for the
  values that are not finite: an invalid operation is not a number, an exact zero sum
  is positive unless both terms are negative, and a remainder keeps the sign of its
  dividend.
-/

namespace CommandConsole.Number

/-! ## Formats and words -/

structure Format where
  fraction : Nat
  exponent : Nat
  deriving DecidableEq

def single : Format := ⟨23, 8⟩

def double : Format := ⟨52, 11⟩

namespace Format

def width (f : Format) : Nat := 1 + f.exponent + f.fraction

def bias (f : Format) : Nat := Nat.pow 2 (f.exponent - 1) - 1

/-- The power of two of the last place of the smallest words. -/
def leastPower (f : Format) : Int := 1 - (f.bias : Int) - f.fraction

/-- The exponent field of the infinities and of what is not a number. -/
def topExponent (f : Format) : Nat := Nat.pow 2 f.exponent - 1

/-- The infinity without its sign, as a number. -/
def topMagnitude (f : Format) : Nat := f.topExponent * Nat.pow 2 f.fraction

end Format

/-- A word of a format: one sign bit, the exponent field, the fraction field. -/
structure Binary (f : Format) where
  bits : BitVec f.width
  deriving DecidableEq

abbrev Single := Binary single

abbrev Double := Binary double

/-- What a word says. -/
inductive Datum where
  | nan
  | infinite (negative : Bool)
  | finite (negative : Bool) (significand : Nat) (power : Int)
  deriving DecidableEq

namespace Binary

variable {f : Format}

/-- The word of a sign and of the two fields taken as one number. -/
def ofMagnitude (f : Format) (negative : Bool) (magnitude : Nat) : Binary f :=
  ⟨BitVec.ofNat f.width ((if negative then Nat.pow 2 (f.exponent + f.fraction) else 0) + magnitude)⟩

def zero (f : Format) (negative : Bool) : Binary f := ofMagnitude f negative 0

def infinity (f : Format) (negative : Bool) : Binary f := ofMagnitude f negative f.topMagnitude

def notANumber (f : Format) : Binary f := ofMagnitude f false (f.topMagnitude + Nat.pow 2 (f.fraction - 1))

def datum (x : Binary f) : Datum :=
  let n := x.bits.toNat
  let negative := n / Nat.pow 2 (f.exponent + f.fraction) % 2 == 1
  let e := n / Nat.pow 2 f.fraction % Nat.pow 2 f.exponent
  let m := n % Nat.pow 2 f.fraction
  if e = f.topExponent then (if m = 0 then .infinite negative else .nan)
  else if e = 0 then .finite negative m f.leastPower
  else .finite negative (Nat.pow 2 f.fraction + m) (f.leastPower + (e - 1 : Nat))

def isNaN (x : Binary f) : Bool := x.datum == .nan

/-! ## Rounding -/

/-- The integer nearest to `num / den`; a tie goes to the even neighbour. -/
def nearestEven (num den : Nat) : Nat :=
  let q := num / den
  let r := num % den
  if den < 2 * r || (2 * r == den && q % 2 == 1) then q + 1 else q

/-- Multiply numerator or denominator so that the quotient is scaled by `2^k`. -/
def scale (num den : Nat) (k : Int) : Nat × Nat :=
  if 0 ≤ k then (num * Nat.pow 2 k.toNat, den) else (num, den * Nat.pow 2 (-k).toNat)

/-- The greatest `k` with `2^k ≤ num / den`. -/
def exponentOf (num den : Nat) : Int :=
  let k : Int := (num.log2 : Int) - den.log2
  let (n, d) := scale num den (-k)
  if d ≤ n then k else k - 1

/-- The word nearest to `num / den`, with the sign given. -/
def ofQuotient (f : Format) (negative : Bool) (num den : Nat) : Binary f :=
  if num = 0 then zero f negative
  else
    let power := max (exponentOf num den - f.fraction) f.leastPower
    let (n, d) := scale num den (-power)
    let magnitude := (power - f.leastPower).toNat * Nat.pow 2 f.fraction + nearestEven n d
    ofMagnitude f negative (min magnitude f.topMagnitude)

/-- The word nearest to `significand · 2^power`. -/
def ofScaled (f : Format) (negative : Bool) (significand : Nat) (power : Int) : Binary f :=
  let (n, d) := scale significand 1 power
  ofQuotient f negative n d

def ofInt (f : Format) (n : Int) : Binary f := ofScaled f (n < 0) n.natAbs 0

/-! ## Arithmetic -/

/-- The same value in another format, rounded once. -/
def convert (g : Format) (x : Binary f) : Binary g :=
  match x.datum with
  | .nan => notANumber g
  | .infinite negative => infinity g negative
  | .finite negative m p => ofScaled g negative m p

def neg (x : Binary f) : Binary f := ⟨x.bits ^^^ BitVec.ofNat f.width (Nat.pow 2 (f.exponent + f.fraction))⟩

def signed (negative : Bool) (m : Nat) : Int := if negative then -(m : Int) else m

def add (x y : Binary f) : Binary f :=
  match x.datum, y.datum with
  | .nan, _ | _, .nan => notANumber f
  | .infinite a, .infinite b => if a = b then infinity f a else notANumber f
  | .infinite a, .finite .. => infinity f a
  | .finite .., .infinite b => infinity f b
  | .finite a m p, .finite b n q =>
    let low := min p q
    let sum := signed a (m * Nat.pow 2 (p - low).toNat) + signed b (n * Nat.pow 2 (q - low).toNat)
    if sum = 0 then zero f (a && b) else ofScaled f (sum < 0) sum.natAbs low

def mul (x y : Binary f) : Binary f :=
  match x.datum, y.datum with
  | .nan, _ | _, .nan => notANumber f
  | .infinite a, .infinite b => infinity f (a != b)
  | .infinite a, .finite b n _ | .finite b n _, .infinite a =>
    if n = 0 then notANumber f else infinity f (a != b)
  | .finite a m p, .finite b n q => ofScaled f (a != b) (m * n) (p + q)

/-- What is left of `x` after taking away `y` as often as it fits, toward zero. -/
def rem (x y : Binary f) : Binary f :=
  match x.datum, y.datum with
  | .nan, _ | _, .nan | .infinite _, _ => notANumber f
  | .finite .., .infinite _ => x
  | .finite a m p, .finite _ n q =>
    if n = 0 then notANumber f
    else
      let low := min p q
      ofScaled f a (m * Nat.pow 2 (p - low).toNat % (n * Nat.pow 2 (q - low).toNat)) low

def isNegative (x : Binary f) : Bool :=
  match x.datum with
  | .nan => false
  | .infinite a => a
  | .finite a m _ => a && m != 0

/-- The remainder brought into the range from zero up to `y`, for a positive `y`. -/
def remEuclid (x y : Binary f) : Binary f :=
  let r := rem x y
  if r.isNegative then r.add y else r

end Binary

end CommandConsole.Number
