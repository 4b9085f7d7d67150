/-
  CommandConsole.Proofs.HexForms — which texts are the hexadecimal form of a color.

  The form is `#RGB`, `#RGBA`, `#RRGGBB` or `#RRGGBBAA`: three or four channels of one digit,
  which stands for itself twice, or of two. A digit is what stands in the row of the sixteen,
  in either case, and its value is its place there. `Documented` is this and no more.

  A channel of two digits is read as a number, and a number may have a sign in front. So a
  plus sign may stand in the place of the first digit of two, and counts as a zero
  (`Digit.long`). `Plussed` are the texts that have one there.

  Reading by positions in bytes could end inside a character. `ofSlices` reads so, channel by
  channel, and has no answer where it would cut a character in two. It does not come to that:
  a text beyond ASCII is refused before anything is cut (`run_ofSlices`).

  Proved (`hex_forms`), for every text: reading by positions has an answer, and it is the color
  of the text; the text is a color exactly if it has the documented form or has plus signs,
  not both, and then the color that its digits say; and it has the documented form exactly if
  it is `#` and 3, 4, 6 or 8 digits. `plus_signs_read`: a text with plus signs.
-/

import CommandConsole.Proofs.ColorText
import Mathlib.Data.List.Forall2

namespace CommandConsole.Color

variable {c d : Char} {s : List Char} {color : Color} {m n v : Nat}

/-! ## The forms -/

def digitRow : List Char := "0123456789abcdef".toList

/-- A hexadecimal digit, and its value. -/
def Digit (c : Char) (v : Nat) : Prop := digitRow.idxOf? c.toLower = some v

/-- The color that the values of the digits say. -/
inductive OfDigits : List Nat → Color → Prop
  | three (r g b : Nat) : OfDigits [r, g, b] (rgb (17 * r).toUInt8 (17 * g).toUInt8 (17 * b).toUInt8)
  | four (r g b a : Nat) :
      OfDigits [r, g, b, a] ⟨(17 * r).toUInt8, (17 * g).toUInt8, (17 * b).toUInt8, (17 * a).toUInt8⟩
  | six (r r' g g' b b' : Nat) :
      OfDigits [r, r', g, g', b, b'] (rgb (16 * r + r').toUInt8 (16 * g + g').toUInt8 (16 * b + b').toUInt8)
  | eight (r r' g g' b b' a a' : Nat) :
      OfDigits [r, r', g, g', b, b', a, a']
        ⟨(16 * r + r').toUInt8, (16 * g + g').toUInt8, (16 * b + b').toUInt8, (16 * a + a').toUInt8⟩

/-- `#` and digits that say a color. -/
def Documented (s : List Char) (color : Color) : Prop :=
  ∃ ds vs, s = '#' :: ds ∧ List.Forall₂ Digit ds vs ∧ OfDigits vs color

/-- What is read as the first of two digits: a plus sign is a zero there. -/
def First (c : Char) (v : Nat) : Prop := Digit c v ∨ c = '+' ∧ v = 0

inductive Pairs : List Char → List Nat → Prop
  | nil : Pairs [] []
  | cons {c d : Char} {m n : Nat} {ds : List Char} {vs : List Nat} (first : First c m) (second : Digit d n)
      (rest : Pairs ds vs) : Pairs (c :: d :: ds) (m :: n :: vs)

/-- The form of six or eight digits, with a plus sign in the place of the first of two. -/
def Plussed (s : List Char) (color : Color) : Prop :=
  ∃ ds vs, s = '#' :: ds ∧ '+' ∈ ds ∧ 6 ≤ ds.length ∧ Pairs ds vs ∧ OfDigits vs color

/-! ## Digits and channels -/

theorem digitRow_letters : ∀ c ∈ digitRow, Letter c := by
  have all : digitRow.all (fun c => decide (Letter c)) = true := by decide
  simpa using all

theorem Digit.letter (digit : Digit c v) : Letter c := by
  have listed : c.toLower ∈ digitRow := by
    by_contra other
    rw [Digit, List.idxOf?_eq_none_iff.mpr other] at digit
    cases digit
  exact letter_of_toLower (digitRow_letters _ listed)

/-- A digit is read as its value. -/
theorem hexValue?_eq_some_iff : hexValue? c = some v ↔ Digit c v := by
  have ascii : ∀ n < 128, hexValue? (Char.ofNat n) = digitRow.idxOf? (Char.ofNat n).toLower := by decide +kernel
  have same (letter : Letter c) : hexValue? c = digitRow.idxOf? c.toLower := by
    have here := ascii c.toNat letter.toNat_lt
    rwa [Char.ofNat_toNat] at here
  constructor
  · intro read
    rwa [same (hexValue?_letter read)] at read
  · intro digit
    rwa [same digit.letter]

theorem Digit.lt (digit : Digit c v) : v < 16 := by
  obtain ⟨within, -⟩ := List.idxOf?_eq_some_iff.mp digit
  exact within

/-- A plus sign is no digit. -/
theorem Digit.ne_plus (digit : Digit c v) : c ≠ '+' := by
  rintro rfl
  have unlisted : digitRow.idxOf? '+'.toLower = none := by decide
  exact absurd (unlisted.symm.trans digit) (Option.some_ne_none v).symm

theorem Digit.short (digit : Digit c v) : shortChannel? c = some (17 * v).toUInt8 := by
  rw [shortChannel?, hexValue?_eq_some_iff.mpr digit, Option.map_some]

/-- A channel of two digits is a number of two digits, or of one behind a plus sign. -/
theorem Digit.long (second : Digit d n) (first : First c m) : longChannel? c d = some (16 * m + n).toUInt8 := by
  rw [longChannel?]
  rcases first with digit | ⟨rfl, rfl⟩
  · rw [if_neg digit.ne_plus, hexValue?_eq_some_iff.mpr digit, hexValue?_eq_some_iff.mpr second]
    rfl
  · rw [if_pos rfl, hexValue?_eq_some_iff.mpr second, Nat.mul_zero, Nat.zero_add]
    rfl

theorem exists_short {x : UInt8} (read : shortChannel? c = some x) : ∃ v, Digit c v ∧ (17 * v).toUInt8 = x := by
  obtain ⟨v, digit, value⟩ := Option.map_eq_some_iff.mp read
  exact ⟨v, hexValue?_eq_some_iff.mp digit, value⟩

theorem exists_long {x : UInt8} (read : longChannel? c d = some x) :
    ∃ m n, First c m ∧ Digit d n ∧ (16 * m + n).toUInt8 = x := by
  rw [longChannel?] at read
  split at read
  · rename_i plus
    obtain ⟨n, second, value⟩ := Option.map_eq_some_iff.mp read
    refine ⟨0, n, .inr ⟨plus, rfl⟩, hexValue?_eq_some_iff.mp second, ?_⟩
    rw [Nat.mul_zero, Nat.zero_add, value]
  · obtain ⟨m, first, read⟩ := Option.bind_eq_some_iff.mp read
    obtain ⟨n, second, read⟩ := Option.bind_eq_some_iff.mp read
    exact ⟨m, n, .inl (hexValue?_eq_some_iff.mp first), hexValue?_eq_some_iff.mp second, Option.some.inj read⟩

/-! ## The color of a text -/

theorem Pairs.digits {ds : List Char} {vs : List Nat} (pairs : Pairs ds vs) (unsigned : '+' ∉ ds) : List.Forall₂ Digit ds vs := by
  induction pairs with
  | nil => exact .nil
  | cons first second rest ih =>
    simp only [List.mem_cons, not_or] at unsigned
    have first := first.resolve_right fun plus => unsigned.1 plus.1.symm
    exact .cons first (.cons second (ih unsigned.2.2))

theorem documented_or_plussed {ds : List Char} {vs : List Nat} (pairs : Pairs ds vs) (long : 6 ≤ ds.length)
    (said : OfDigits vs color) : Documented ('#' :: ds) color ∨ Plussed ('#' :: ds) color := by
  by_cases plus : '+' ∈ ds
  · exact .inr ⟨ds, vs, rfl, plus, long, pairs, said⟩
  · exact .inl ⟨ds, vs, rfl, pairs.digits plus, said⟩

theorem forms_of_ofHex (read : ofHex s = some color) : Documented s color ∨ Plussed s color := by
  unfold ofHex at read
  split at read
  all_goals simp only [Option.bind_eq_bind, Option.bind_eq_some_iff, Option.pure_def, Option.some.injEq, reduceCtorEq] at read
  · obtain ⟨_, hr, _, hg, _, hb, rfl⟩ := read
    obtain ⟨r, red, rfl⟩ := exists_short hr
    obtain ⟨g, green, rfl⟩ := exists_short hg
    obtain ⟨b, blue, rfl⟩ := exists_short hb
    exact .inl ⟨_, _, rfl, .cons red (.cons green (.cons blue .nil)), .three r g b⟩
  · obtain ⟨_, hr, _, hg, _, hb, _, ha, rfl⟩ := read
    obtain ⟨r, red, rfl⟩ := exists_short hr
    obtain ⟨g, green, rfl⟩ := exists_short hg
    obtain ⟨b, blue, rfl⟩ := exists_short hb
    obtain ⟨a, opacity, rfl⟩ := exists_short ha
    exact .inl ⟨_, _, rfl, .cons red (.cons green (.cons blue (.cons opacity .nil))), .four r g b a⟩
  · obtain ⟨_, hr, _, hg, _, hb, rfl⟩ := read
    obtain ⟨r, r', red, red', rfl⟩ := exists_long hr
    obtain ⟨g, g', green, green', rfl⟩ := exists_long hg
    obtain ⟨b, b', blue, blue', rfl⟩ := exists_long hb
    exact documented_or_plussed (.cons red red' (.cons green green' (.cons blue blue' .nil))) (by simp) (.six r r' g g' b b')
  · obtain ⟨_, hr, _, hg, _, hb, _, ha, rfl⟩ := read
    obtain ⟨r, r', red, red', rfl⟩ := exists_long hr
    obtain ⟨g, g', green, green', rfl⟩ := exists_long hg
    obtain ⟨b, b', blue, blue', rfl⟩ := exists_long hb
    obtain ⟨a, a', opacity, opacity', rfl⟩ := exists_long ha
    exact documented_or_plussed (.cons red red' (.cons green green' (.cons blue blue' (.cons opacity opacity' .nil)))) (by simp)
      (.eight r r' g g' b b' a a')

theorem Documented.ofHex (documented : Documented s color) : ofHex s = some color := by
  obtain ⟨ds, vs, rfl, digits, said⟩ := documented
  cases said with
  | three =>
    obtain _ | ⟨red, _ | ⟨green, _ | ⟨blue, ⟨⟩⟩⟩⟩ := digits
    simp [Color.ofHex, red.short, green.short, blue.short]
  | four =>
    obtain _ | ⟨red, _ | ⟨green, _ | ⟨blue, _ | ⟨opacity, ⟨⟩⟩⟩⟩⟩ := digits
    simp [Color.ofHex, red.short, green.short, blue.short, opacity.short]
  | six =>
    obtain _ | ⟨red, _ | ⟨red', _ | ⟨green, _ | ⟨green', _ | ⟨blue, _ | ⟨blue', ⟨⟩⟩⟩⟩⟩⟩⟩ := digits
    simp [Color.ofHex, red'.long (.inl red), green'.long (.inl green), blue'.long (.inl blue)]
  | eight =>
    obtain _ | ⟨red, _ | ⟨red', _ | ⟨green, _ | ⟨green', _ | ⟨blue, _ | ⟨blue', _ | ⟨opacity, _ | ⟨opacity', ⟨⟩⟩⟩⟩⟩⟩⟩⟩⟩ := digits
    simp [Color.ofHex, red'.long (.inl red), green'.long (.inl green), blue'.long (.inl blue), opacity'.long (.inl opacity)]

theorem Plussed.ofHex (plussed : Plussed s color) : ofHex s = some color := by
  obtain ⟨ds, vs, rfl, -, long, pairs, said⟩ := plussed
  cases said with
  | three => obtain _ | ⟨_, _, ⟨⟩⟩ := pairs
  | four =>
    obtain _ | ⟨_, _, _ | ⟨_, _, ⟨⟩⟩⟩ := pairs
    simp at long
  | six =>
    obtain _ | ⟨red, red', _ | ⟨green, green', _ | ⟨blue, blue', ⟨⟩⟩⟩⟩ := pairs
    simp [Color.ofHex, red'.long red, green'.long green, blue'.long blue]
  | eight =>
    obtain _ | ⟨red, red', _ | ⟨green, green', _ | ⟨blue, blue', _ | ⟨opacity, opacity', ⟨⟩⟩⟩⟩⟩ := pairs
    simp [Color.ofHex, red'.long red, green'.long green, blue'.long blue, opacity'.long opacity]

theorem ofHex_eq_some_iff : ofHex s = some color ↔ Documented s color ∨ Plussed s color :=
  ⟨forms_of_ofHex, fun either => either.elim Documented.ofHex Plussed.ofHex⟩

/-- The documented form, without the color: `#` and 3, 4, 6 or 8 digits. -/
def IsHex (s : List Char) : Prop := ∃ ds, s = '#' :: ds ∧ ds.length ∈ [3, 4, 6, 8] ∧ ∀ d ∈ ds, ∃ v, Digit d v

theorem exists_values {ds : List Char} (digits : ∀ d ∈ ds, ∃ v, Digit d v) : ∃ vs, List.Forall₂ Digit ds vs := by
  induction ds with
  | nil => exact ⟨[], .nil⟩
  | cons d ds ih =>
    obtain ⟨⟨v, digit⟩, behind⟩ := List.forall_mem_cons.mp digits
    obtain ⟨vs, rest⟩ := ih behind
    exact ⟨v :: vs, .cons digit rest⟩

theorem digits_of_values {ds : List Char} {vs : List Nat} (digits : List.Forall₂ Digit ds vs) : ∀ d ∈ ds, ∃ v, Digit d v := by
  induction digits with
  | nil => simp
  | cons digit _ ih => exact List.forall_mem_cons.mpr ⟨⟨_, digit⟩, ih⟩

theorem exists_said_iff {vs : List Nat} : (∃ color, OfDigits vs color) ↔ vs.length ∈ [3, 4, 6, 8] := by
  constructor
  · rintro ⟨color, said⟩
    cases said <;> simp
  · intro size
    match vs, size with
    | [r, g, b], _ => exact ⟨_, .three r g b⟩
    | [r, g, b, a], _ => exact ⟨_, .four r g b a⟩
    | [r, r', g, g', b, b'], _ => exact ⟨_, .six r r' g g' b b'⟩
    | [r, r', g, g', b, b', a, a'], _ => exact ⟨_, .eight r r' g g' b b' a a'⟩

theorem exists_documented_iff : (∃ color, Documented s color) ↔ IsHex s := by
  constructor
  · rintro ⟨color, ds, vs, rfl, digits, said⟩
    have size := exists_said_iff.mp ⟨color, said⟩
    exact ⟨ds, rfl, digits.length_eq ▸ size, digits_of_values digits⟩
  · rintro ⟨ds, rfl, size, digits⟩
    obtain ⟨vs, values⟩ := exists_values digits
    obtain ⟨color, said⟩ := exists_said_iff.mpr (values.length_eq ▸ size)
    exact ⟨color, ds, vs, rfl, values, said⟩

theorem Plussed.not_isHex (plussed : Plussed s color) : ¬ IsHex s := by
  obtain ⟨ds, -, rfl, plus, -⟩ := plussed
  rintro ⟨ds', same, -, digits⟩
  cases same
  obtain ⟨v, digit⟩ := digits _ plus
  exact digit.ne_plus rfl

/-! ## Read by positions -/

/-- The first so many bytes of a text and the rest; `none` where a character would be cut. -/
def split? : Nat → List Char → Option (List Char × List Char)
  | 0, s => some ([], s)
  | _ + 1, [] => none
  | n + 1, c :: r =>
    if c.utf8Size ≤ n + 1 then (split? (n + 1 - c.utf8Size) r).map (Prod.map (c :: ·) id) else none

/-- So many bytes of a text behind so many others. -/
def slice? (s : List Char) (start size : Nat) : Option (List Char) := do
  let (_, behind) ← split? start s
  let (part, _) ← split? size behind
  return part

/-- A hexadecimal number below 256, with or without a plus sign. -/
def number? (s : List Char) : Option Nat :=
  let digits := if s.head? = some '+' then s.tail else s
  if digits.isEmpty then none
  else (digits.foldlM (fun n d => (hexValue? d).map (16 * n + ·)) 0).filter (· < 256)

/-- An answer that needed no cut, or one that was possible. -/
def answered {α : Type} (a : Option α) : OptionT Option α := OptionT.mk (some a)

/-- A part of a text as a channel that counts so many times. -/
def channel? (scale : Nat) (part : List Char) : Option UInt8 := (number? part).map fun n => (scale * n).toUInt8

/-- The channel at a place, when each takes so many bytes. A part that cannot be cut out has
    no answer, and one that is no number is refused. -/
def channelAt (s : List Char) (size scale place : Nat) : OptionT Option UInt8 := do
  let part ← OptionT.lift (slice? s (size * place) size)
  answered (channel? scale part)

def byteLength : List Char → Nat
  | [] => 0
  | c :: s => c.utf8Size + byteLength s

/-- The color of a text that is cut at positions in bytes, by its length in bytes. -/
def ofSlices (s : List Char) : OptionT Option Color :=
  match s with
  | '#' :: r =>
    let short := channelAt r 1 17
    let long := channelAt r 2 1
    if r.all (·.toNat < 128) then
      match byteLength r with
      | 3 => return rgb (← short 0) (← short 1) (← short 2)
      | 4 => return ⟨← short 0, ← short 1, ← short 2, ← short 3⟩
      | 6 => return rgb (← long 0) (← long 1) (← long 2)
      | 8 => return ⟨← long 0, ← long 1, ← long 2, ← long 3⟩
      | _ => answered none
    else answered none
  | _ => answered none

theorem utf8Size_ascii (ascii : c.toNat < 128) : c.utf8Size = 1 :=
  Char.utf8Size_eq_one_iff.mpr (UInt32.le_iff_toNat_le.mpr (Nat.le_of_lt_succ ascii))

theorem byteLength_ascii (ascii : ∀ c ∈ s, c.toNat < 128) : byteLength s = s.length := by
  induction s with
  | nil => rfl
  | cons c r ih =>
    obtain ⟨here, behind⟩ := List.forall_mem_cons.mp ascii
    rw [byteLength, ih behind, utf8Size_ascii here, List.length_cons, Nat.add_comm]

/-- In ASCII text a cut at any byte is one between characters. -/
theorem split?_ascii (ascii : ∀ c ∈ s, c.toNat < 128) (within : n ≤ s.length) : split? n s = some (s.take n, s.drop n) := by
  induction s generalizing n with
  | nil =>
    cases Nat.le_zero.mp within
    rfl
  | cons c r ih =>
    cases n with
    | zero => rfl
    | succ n =>
      obtain ⟨here, behind⟩ := List.forall_mem_cons.mp ascii
      rw [split?, utf8Size_ascii here, if_pos (by omega), Nat.add_sub_cancel, ih behind (Nat.le_of_succ_le_succ within)]
      rfl

theorem slice?_ascii (ascii : ∀ c ∈ s, c.toNat < 128) {start size : Nat} (within : start + size ≤ s.length) :
    slice? s start size = some ((s.drop start).take size) := by
  have behind : ∀ c ∈ s.drop start, c.toNat < 128 := fun c hc => ascii c (List.mem_of_mem_drop hc)
  have rest : size ≤ (s.drop start).length := by rw [List.length_drop]; omega
  rw [slice?, split?_ascii ascii (by omega)]
  simp [split?_ascii behind rest]

theorem channelAt_ascii (ascii : ∀ c ∈ s, c.toNat < 128) {size scale place : Nat} (within : size * place + size ≤ s.length) :
    channelAt s size scale place = answered (channel? scale ((s.drop (size * place)).take size)) := by
  rw [channelAt, slice?_ascii ascii within]
  rfl

theorem channel?_short (c : Char) : channel? 17 [c] = shortChannel? c := by
  by_cases plus : c = '+'
  · subst plus
    decide
  · cases read : hexValue? c with
    | none => simp [channel?, number?, shortChannel?, plus, read]
    | some v =>
      have small : v < 256 := by have := (hexValue?_eq_some_iff.mp read).lt; omega
      simp [channel?, number?, shortChannel?, plus, read, small]

theorem channel?_long (c d : Char) : channel? 1 [c, d] = longChannel? c d := by
  cases second : hexValue? d with
  | none => by_cases plus : c = '+' <;> cases first : hexValue? c <;> simp [channel?, number?, longChannel?, plus, first, second]
  | some n =>
    have low := (hexValue?_eq_some_iff.mp second).lt
    by_cases plus : c = '+'
    · have small : n < 256 := by omega
      simp [channel?, number?, longChannel?, plus, second, small]
    · cases first : hexValue? c with
      | none => simp [channel?, number?, longChannel?, plus, first]
      | some m =>
        have high := (hexValue?_eq_some_iff.mp first).lt
        have small : 16 * m + n < 256 := by omega
        simp [channel?, number?, longChannel?, plus, first, second, small]

theorem ofHex_ascii (read : ofHex s = some color) : ∀ c ∈ s, c.toNat < 128 := fun c hc => (ofHex_letters read c hc).toNat_lt

theorem answered_bind {α β : Type} (a : Option α) (f : α → Option β) : (answered a >>= fun x => answered (f x)) = answered (a >>= f) := by
  cases a <;> rfl

theorem answered_pure {α : Type} (a : α) : (pure a : OptionT Option α) = answered (pure a) := rfl

theorem exists_pair (size : s.length = n + 2) : ∃ c d r, s = c :: d :: r ∧ r.length = n := by
  obtain ⟨c, t, rfl⟩ := List.exists_cons_of_length_eq_add_one size
  obtain ⟨d, r, rfl⟩ := List.exists_cons_of_length_eq_add_one (by simpa using size)
  exact ⟨c, d, r, rfl, by simpa using size⟩

/-- No text is cut inside a character, and cut into bytes it is the same color. -/
theorem run_ofSlices (s : List Char) : (ofSlices s).run = some (ofHex s) := by
  suffices answered (ofHex s) = ofSlices s by rw [← this]; rfl
  unfold ofSlices
  split
  · rename_i r
    dsimp only
    split
    · rename_i ascii
      have ascii : ∀ c ∈ r, c.toNat < 128 := by simpa using ascii
      rw [byteLength_ascii ascii]
      split
      · rename_i size
        obtain ⟨c, d, e, rfl⟩ := List.length_eq_three.mp size
        simp [channelAt_ascii ascii, channel?_short, answered_pure, answered_bind, ofHex]
      · rename_i size
        obtain ⟨c, d, r, rfl, two⟩ := exists_pair size
        obtain ⟨e, f, rfl⟩ := List.length_eq_two.mp two
        simp [channelAt_ascii ascii, channel?_short, answered_pure, answered_bind, ofHex]
      · rename_i size
        obtain ⟨c, c', r, rfl, four⟩ := exists_pair size
        obtain ⟨d, d', r, rfl, two⟩ := exists_pair four
        obtain ⟨e, e', rfl⟩ := List.length_eq_two.mp two
        simp [channelAt_ascii ascii, channel?_long, answered_pure, answered_bind, ofHex]
      · rename_i size
        obtain ⟨c, c', r, rfl, six⟩ := exists_pair size
        obtain ⟨d, d', r, rfl, four⟩ := exists_pair six
        obtain ⟨e, e', r, rfl, two⟩ := exists_pair four
        obtain ⟨f, f', rfl⟩ := List.length_eq_two.mp two
        simp [channelAt_ascii ascii, channel?_long, answered_pure, answered_bind, ofHex]
      · rename_i none3 none4 none6 none8
        have refused : ofHex ('#' :: r) = none := by
          unfold ofHex
          split <;> simp_all
        rw [refused]
    · rename_i wide
      cases read : ofHex ('#' :: r) with
      | none => rfl
      | some color =>
        refine absurd ?_ wide
        simpa using fun c hc => ofHex_ascii read c (List.mem_cons_of_mem _ hc)
  · rename_i other
    have refused : ofHex s = none := by
      unfold ofHex
      split <;> simp_all
    rw [refused]

/-! ## All texts -/

/-- Whatever the text is, cutting it into bytes never cuts a character, and it is a color if
    and only if it has the documented form, with the color that its digits say, or has six or
    eight digits with a plus sign in the place of the first of two. Only the first kind is `#`
    and 3, 4, 6 or 8 digits. -/
theorem hex_forms (s : List Char) :
    (ofSlices s).run = some (ofHex s) ∧
    (∀ color, ofHex s = some color ↔ Documented s color ∨ Plussed s color) ∧
    ((∃ color, Documented s color) ↔ IsHex s) ∧
    ¬ ((∃ color, Plussed s color) ∧ IsHex s) :=
  ⟨run_ofSlices s, fun _ => ofHex_eq_some_iff, exists_documented_iff, fun ⟨⟨_, plussed⟩, hex⟩ => plussed.not_isHex hex⟩

/-- Plus signs in the place of digits are read. -/
theorem plus_signs_read : ofHex "#+F+F+F".toList = some (rgb 15 15 15) ∧ ¬ IsHex "#+F+F+F".toList := by
  have read : ofHex "#+F+F+F".toList = some (rgb 15 15 15) := by decide
  refine ⟨read, fun hex => ?_⟩
  obtain ⟨ds, same, -, digits⟩ := hex
  obtain ⟨v, digit⟩ := digits '+' (by cases same; decide)
  exact digit.ne_plus rfl

end CommandConsole.Color
