/-
  CommandConsole.Color — colors, their names and their hexadecimal forms.

  A color has four channels of eight bits; the last is its opacity. Text gives a
  color in two ways. A name of the palette, in either case of ASCII letters. Or `#`
  and then three, four, six or eight characters: with three or four, each channel is
  one digit standing for itself twice; with six or eight, each channel is a pair.
  Without an opacity the color is opaque. A pair may be a plus sign and one digit.
  `ofText` tries the hexadecimal form before the palette; no name starts with `#`, so
  the order does not show.

  `toHex` writes the three color channels as six upper-case digits and forgets the
  opacity.
-/

import CommandConsole.Number.Binary
import CommandConsole.Text.Blank

namespace CommandConsole

structure Color where
  r : UInt8
  g : UInt8
  b : UInt8
  a : UInt8
  deriving DecidableEq

namespace Color

def rgb (r g b : UInt8) : Color := ⟨r, g, b, 255⟩

def withAlpha (c : Color) (a : UInt8) : Color := { c with a := a }

/-! ## The palette -/

def black : Color := rgb 0 0 0
def blue : Color := rgb 0 0 255
def clear : Color := ⟨0, 0, 0, 0⟩
def cyan : Color := rgb 0 255 255
def gray : Color := rgb 128 128 128
def green : Color := rgb 0 255 0
def magenta : Color := rgb 255 0 255
def red : Color := rgb 255 0 0
def white : Color := rgb 255 255 255
def yellow : Color := rgb 255 235 4

def palette : List (String × Color) :=
  [("black", black), ("blue", blue), ("clear", clear), ("cyan", cyan), ("gray", gray), ("green", green),
    ("grey", gray), ("magenta", magenta), ("red", red), ("white", white), ("yellow", yellow)]

/-- The palette color of a name, ignoring the case of its letters. -/
def ofName (name : List Char) : Option Color :=
  (palette.find? fun entry => entry.1.toList == name.map Char.toLower).map (·.2)

/-! ## Hexadecimal forms -/

def hexValue? (c : Char) : Option Nat :=
  if c.isDigit then some (c.toNat - 48)
  else if 'a' ≤ c ∧ c ≤ 'f' then some (c.toNat - 87)
  else if 'A' ≤ c ∧ c ≤ 'F' then some (c.toNat - 55)
  else none

/-- A channel of one digit, which stands for that digit twice. -/
def shortChannel? (c : Char) : Option UInt8 := (hexValue? c).map fun v => (17 * v).toUInt8

/-- A channel of two digits, or of a plus sign and one. -/
def longChannel? (c d : Char) : Option UInt8 :=
  if c = '+' then (hexValue? d).map Nat.toUInt8
  else do
    let high ← hexValue? c
    let low ← hexValue? d
    return (16 * high + low).toUInt8

def ofHex (s : List Char) : Option Color :=
  match s with
  | ['#', r, g, b] => do return rgb (← shortChannel? r) (← shortChannel? g) (← shortChannel? b)
  | ['#', r, g, b, a] => do
    return ⟨← shortChannel? r, ← shortChannel? g, ← shortChannel? b, ← shortChannel? a⟩
  | ['#', r, r', g, g', b, b'] => do
    return rgb (← longChannel? r r') (← longChannel? g g') (← longChannel? b b')
  | ['#', r, r', g, g', b, b', a, a'] => do
    return ⟨← longChannel? r r', ← longChannel? g g', ← longChannel? b b', ← longChannel? a a'⟩
  | _ => none

def ofText (s : List Char) : Option Color := ofHex s <|> ofName s

def upperDigit (n : Nat) : Char := Char.ofNat (if n < 10 then 48 + n else 55 + n)

def hexPair (v : UInt8) : List Char := [upperDigit (v.toNat / 16), upperDigit (v.toNat % 16)]

/-- The color channels as six digits. -/
def hexChars (c : Color) : List Char := hexPair c.r ++ hexPair c.g ++ hexPair c.b

def toHex (c : Color) : String := String.ofList c.hexChars

/-! ## Channels given as numbers -/

/-- The nearest channel value: a half goes up, what is out of range goes to the nearer
    end, and what is not a number is zero. -/
def channel (x : Number.Single) : UInt8 :=
  match x.datum with
  | .nan => 0
  | .infinite negative => if negative then 0 else 255
  | .finite negative m p =>
    if negative then 0
    else
      let (n, d) := Number.Binary.scale m 1 p
      (min ((2 * n + d) / (2 * d)) 255).toUInt8

def ofChannels (r g b a : Number.Single) : Color := ⟨channel r, channel g, channel b, channel a⟩

end Color

end CommandConsole
