/-
  CommandConsole.Proofs.Decoding — what the bytes of a line say.

  A line is decoded and then trimmed. Both are told here from the outside. Which bytes a
  character has is taken from the library (`String.utf8EncodeChar`), and `Decodes` reads a
  list of bytes with nothing else: where the bytes of a character stand, that character is
  read, and elsewhere one replacement stands for as many bytes as still begin some
  character, or for a single byte if none does (`Stray`). `Trims` names the white space by
  number.

  The reader itself looks at four bytes at most and knows the bytes of a character by
  their ranges (`Formed`). What is written is read again (`front_encodeChar`), and what is
  read would have been written so (`encodeChar_front`). Where the reader gives up, the
  bytes so far could have been completed (`front_completed`), but not behind the next byte
  (`front_invalid_append`), so that it replaces neither too few nor too many.

  Proved: both descriptions name exactly one text, and it is the one the reader gives
  (`decodes_iff`, `trims_iff`).
-/

import CommandConsole.Text.Blank
import CommandConsole.Text.Utf8
import Mathlib.Data.List.Basic

namespace CommandConsole

namespace Text.Utf8

variable {b : Byte} {rest : List Byte} {c : Char} {more : Nat}

/-! ## The bytes of a character -/

theorem toNat_ofNat {n : Nat} (valid : n.isValidChar) : (Char.ofNat n).toNat = n := by
  rw [Char.ofNat, dif_pos valid]
  rfl

theorem toNat_toUInt8 {n : Nat} (small : n < 256) : n.toUInt8.toNat = n := by
  simp [Nat.mod_eq_of_lt small]

theorem within_iff {lo hi : Nat} : within lo hi b = true ↔ lo ≤ b.toNat ∧ b.toNat ≤ hi := by
  simp [within]

theorem secondFits_iff {lead second : Byte} : secondFits lead second = true ↔
    0x80 ≤ second.toNat ∧ second.toNat ≤ 0xBF ∧ (lead.toNat = 0xE0 → 0xA0 ≤ second.toNat) ∧
      (lead.toNat = 0xED → second.toNat ≤ 0x9F) ∧ (lead.toNat = 0xF0 → 0x90 ≤ second.toNat) ∧
      (lead.toNat = 0xF4 → second.toNat ≤ 0x8F) := by
  have named : ∀ n : Nat, n < 256 → (lead = n.toUInt8 ↔ lead.toNat = n) := by
    intro n hn
    rw [← UInt8.toNat_inj, toNat_toUInt8 hn]
  have e0 := named 0xE0 (by decide)
  have ed := named 0xED (by decide)
  have f0 := named 0xF0 (by decide)
  have f4 := named 0xF4 (by decide)
  unfold secondFits
  repeat' split
  all_goals simp only [isContinuation, within_iff]
  all_goals grind

theorem toNat_valid (c : Char) : c.toNat < 0xD800 ∨ 0xDFFF < c.toNat ∧ c.toNat < 0x110000 := c.valid

theorem encodeChar_eq (c : Char) : encodeChar c = String.utf8EncodeChar c := by
  have valid := toNat_valid c
  rw [encodeChar, String.utf8EncodeChar, Char.toNat]
  rw [Char.toNat] at valid
  generalize c.val.toNat = v at *
  by_cases one : v < 0x80
  · rw [if_pos one, if_pos (by omega)]
  by_cases two : v < 0x800
  · have lead : v / 64 % 32 + 192 = 0xC0 + v / 64 := by omega
    rw [if_neg one, if_pos two, if_neg (by omega), if_pos (by omega), lead, Nat.add_comm (v % 64)]
  by_cases three : v < 0x10000
  · have lead : v / 4096 % 16 + 224 = 0xE0 + v / 4096 := by omega
    rw [if_neg one, if_neg two, if_pos three, if_neg (by omega), if_neg (by omega), if_pos (by omega), lead,
      Nat.add_comm (v % 64), Nat.add_comm (v / 64 % 64)]
  · have lead : v / 262144 % 8 + 240 = 0xF0 + v / 262144 := by omega
    rw [if_neg one, if_neg two, if_neg three, if_neg (by omega), if_neg (by omega), if_neg (by omega), lead,
      Nat.add_comm (v % 64), Nat.add_comm (v / 64 % 64), Nat.add_comm (v / 4096 % 64)]

/-- The bytes that are read as a character, and the number it has. -/
inductive Formed (b : Byte) : List Byte → Char → Nat → Prop
  | one {rest : List Byte} {c : Char} (lead : b.toNat < 0x80) (number : c.toNat = b.toNat) : Formed b rest c 0
  | two {d : Byte} {rest : List Byte} {c : Char} (lead : within 0xC2 0xDF b = true) (second : isContinuation d = true)
    (number : c.toNat = (b.toNat - 0xC0) * 64 + (d.toNat - 0x80)) : Formed b (d :: rest) c 1
  | three {d e : Byte} {rest : List Byte} {c : Char} (lead : within 0xE0 0xEF b = true) (second : secondFits b d = true)
    (third : isContinuation e = true) (number : c.toNat = (b.toNat - 0xE0) * 4096 + (d.toNat - 0x80) * 64 + (e.toNat - 0x80)) :
    Formed b (d :: e :: rest) c 2
  | four {d e f : Byte} {rest : List Byte} {c : Char} (lead : within 0xF0 0xF4 b = true) (second : secondFits b d = true)
    (third : isContinuation e = true) (fourth : isContinuation f = true)
    (number : c.toNat = (b.toNat - 0xF0) * 262144 + (d.toNat - 0x80) * 4096 + (e.toNat - 0x80) * 64 + (f.toNat - 0x80)) :
    Formed b (d :: e :: f :: rest) c 3

theorem formed_of_front (h : front b rest = .char c more) : Formed b rest c more := by
  have small := b.toNat_lt
  unfold front at h
  dsimp only at h
  repeat' split at h
  all_goals simp only [reduceCtorEq, Front.char.injEq] at h
  all_goals obtain ⟨rfl, rfl⟩ := h
  · exact .one ‹_› (toNat_ofNat (.inl (by omega)))
  · rename_i d _ second
    have range := within_iff.mp ‹within 0xC2 0xDF b = true›
    have := within_iff.mp second
    exact .two ‹_› second (toNat_ofNat (.inl (by omega)))
  · rename_i d second _ e _ third
    have range := within_iff.mp ‹within 0xE0 0xEF b = true›
    have := secondFits_iff.mp second
    have := within_iff.mp third
    exact .three ‹_› second third (toNat_ofNat (by unfold Nat.isValidChar; omega))
  · rename_i d second _ e third _ f _ fourth
    have range := within_iff.mp ‹within 0xF0 0xF4 b = true›
    have := secondFits_iff.mp second
    have := within_iff.mp third
    have := within_iff.mp fourth
    exact .four ‹_› second third fourth (toNat_ofNat (by unfold Nat.isValidChar; omega))

theorem front_of_formed (formed : Formed b rest c more) : front b rest = .char c more := by
  have outside : ∀ {lo hi : Nat}, (b.toNat < lo ∨ hi < b.toNat) → ¬ within lo hi b = true := by
    intro lo hi h range
    have := within_iff.mp range
    omega
  cases formed with
  | one lead number => rw [front.eq_def, if_pos lead, ← number, Char.ofNat_toNat]
  | two lead second number =>
    have range := within_iff.mp lead
    rw [front.eq_def, if_neg (by omega), if_pos lead]
    simp only [if_pos second]
    rw [← number, Char.ofNat_toNat]
  | three lead second third number =>
    have range := within_iff.mp lead
    rw [front.eq_def, if_neg (by omega), if_neg (outside (.inr (by omega))), if_pos lead]
    simp only [if_pos second, if_pos third]
    rw [← number, Char.ofNat_toNat]
  | four lead second third fourth number =>
    have range := within_iff.mp lead
    rw [front.eq_def, if_neg (by omega), if_neg (outside (.inr (by omega))), if_neg (outside (.inr (by omega))), if_pos lead]
    simp only [if_pos second, if_pos third, if_pos fourth]
    rw [← number, Char.ofNat_toNat]

/-- The bytes of a character are read as that character, whatever comes behind. -/
theorem front_encodeChar (c : Char) (rest : List Byte) :
    ∃ b tail, encodeChar c = b :: tail ∧ front b (tail ++ rest) = .char c tail.length := by
  have valid := toNat_valid c
  rw [encodeChar]
  generalize number : c.toNat = v at *
  by_cases one : v < 0x80
  · have b0 := toNat_toUInt8 (show v < 256 by omega)
    exact ⟨_, _, if_pos one, front_of_formed (.one (by omega) (by omega))⟩
  rw [if_neg one]
  by_cases two : v < 0x800
  · have b0 := toNat_toUInt8 (show 0xC0 + v / 64 < 256 by omega)
    have b1 := toNat_toUInt8 (show 0x80 + v % 64 < 256 by omega)
    exact ⟨_, _, if_pos two, front_of_formed (.two (within_iff.mpr (by omega)) (within_iff.mpr (by omega)) (by omega))⟩
  rw [if_neg two]
  by_cases three : v < 0x10000
  · have b0 := toNat_toUInt8 (show 0xE0 + v / 4096 < 256 by omega)
    have b1 := toNat_toUInt8 (show 0x80 + v / 64 % 64 < 256 by omega)
    have b2 := toNat_toUInt8 (show 0x80 + v % 64 < 256 by omega)
    exact ⟨_, _, if_pos three,
      front_of_formed (.three (within_iff.mpr (by omega)) (secondFits_iff.mpr (by omega)) (within_iff.mpr (by omega)) (by omega))⟩
  · have b0 := toNat_toUInt8 (show 0xF0 + v / 262144 < 256 by omega)
    have b1 := toNat_toUInt8 (show 0x80 + v / 4096 % 64 < 256 by omega)
    have b2 := toNat_toUInt8 (show 0x80 + v / 64 % 64 < 256 by omega)
    have b3 := toNat_toUInt8 (show 0x80 + v % 64 < 256 by omega)
    exact ⟨_, _, if_neg three,
      front_of_formed (.four (within_iff.mpr (by omega)) (secondFits_iff.mpr (by omega)) (within_iff.mpr (by omega))
        (within_iff.mpr (by omega)) (by omega))⟩

theorem toUInt8_eq {n : Nat} (same : n = b.toNat) : n.toUInt8 = b := by
  rw [same]
  exact UInt8.ofNat_toNat

/-- A character that is read is written as the bytes it was read from. -/
theorem encodeChar_front (h : front b rest = .char c more) : encodeChar c = b :: rest.take more := by
  cases formed_of_front h with
  | one lead number => rw [encodeChar, number, if_pos lead, toUInt8_eq rfl, List.take_zero]
  | @two d _ _ lead second number =>
    have b0 := within_iff.mp lead
    have b1 := within_iff.mp second
    rw [encodeChar, number, if_neg (by omega), if_pos (by omega), toUInt8_eq (b := b) (by omega), toUInt8_eq (b := d) (by omega)]
    rfl
  | @three d e _ _ lead second third number =>
    have b0 := within_iff.mp lead
    have b1 := secondFits_iff.mp second
    have b2 := within_iff.mp third
    rw [encodeChar, number, if_neg (by omega), if_neg (by omega), if_pos (by omega), toUInt8_eq (b := b) (by omega),
      toUInt8_eq (b := d) (by omega), toUInt8_eq (b := e) (by omega)]
    rfl
  | @four d e f _ _ lead second third fourth number =>
    have b0 := within_iff.mp lead
    have b1 := secondFits_iff.mp second
    have b2 := within_iff.mp third
    have b3 := within_iff.mp fourth
    rw [encodeChar, number, if_neg (by omega), if_neg (by omega), if_neg (by omega), toUInt8_eq (b := b) (by omega),
      toUInt8_eq (b := d) (by omega), toUInt8_eq (b := e) (by omega), toUInt8_eq (b := f) (by omega)]
    rfl

/-- A place where no character is read is judged by the byte behind it, and by nothing after that. -/
theorem front_invalid_append {near far : List Byte} (h : front b (near ++ far) = .invalid more) (reach : more < near.length)
    (far' : List Byte) : front b (near ++ far') = .invalid more := by
  match near with
  | [] => simp at reach
  | [d] =>
    obtain rfl : more = 0 := by simpa using reach
    unfold front at h ⊢
    grind
  | [d, e] =>
    unfold front at h ⊢
    grind
  | d :: e :: f :: near =>
    unfold front at h ⊢
    grind

/-- Bytes that only lack their end can be completed. -/
theorem front_completed (h : front b rest = .invalid (more + 1)) :
    ∃ c n, front b (rest.take (more + 1) ++ [0x80, 0x80]) = .char c n ∧ more < n := by
  have filler : isContinuation 0x80 = true := by decide
  unfold front at h
  dsimp only at h
  repeat' split at h
  all_goals simp only [reduceCtorEq, Front.invalid.injEq] at h
  all_goals cases h
  all_goals simp [front.eq_def, *]

/-! ## Decoding -/

/-- The bytes of some character begin so. -/
def Begins (bytes : List Byte) : Prop := ∃ c, bytes <+: String.utf8EncodeChar c

/-- One replacement stands for `bad` in front of `rest`. -/
structure Stray (bad rest : List Byte) : Prop where
  nonempty : bad ≠ []
  no_char : ∀ c, ¬ String.utf8EncodeChar c <+: bad ++ rest
  alone_or_begins : bad.length = 1 ∨ Begins bad
  longest : ∀ more, more ≠ [] → more <+: rest → ¬ Begins (bad ++ more)

inductive Decodes : List Byte → List Char → Prop
  | nil : Decodes [] []
  | char (c : Char) {rest : List Byte} {s : List Char} (after : Decodes rest s) : Decodes (String.utf8EncodeChar c ++ rest) (c :: s)
  | stray {bad rest : List Byte} {s : List Char} (none : Stray bad rest) (after : Decodes rest s) :
    Decodes (bad ++ rest) ('\uFFFD' :: s)

theorem Stray.unique {bad rest bad' rest' : List Byte} (h : Stray bad rest) (h' : Stray bad' rest')
    (same : bad ++ rest = bad' ++ rest') : bad = bad' := by
  -- The longer of the two has two bytes at least, so it begins a character and is within reach of the other.
  have not_longer : ∀ {bad rest bad' rest' : List Byte}, Stray bad rest → Stray bad' rest' →
      ∀ more, bad' = bad ++ more → rest = more ++ rest' → more = [] := by
    intro bad rest bad' rest' h h' more longer behind
    by_contra some
    have two : bad'.length ≠ 1 := by
      have := List.length_pos_iff.mpr h.nonempty
      have := List.length_pos_iff.mpr some
      rw [longer, List.length_append]
      omega
    exact h.longest more some ⟨rest', behind.symm⟩ (longer ▸ h'.alone_or_begins.resolve_left two)
  rcases List.append_eq_append_iff.mp same with ⟨more, longer, behind⟩ | ⟨more, longer, behind⟩
  · rw [longer, not_longer h h' more longer behind, List.append_nil]
  · rw [longer, not_longer h' h more longer behind, List.append_nil]

/-- Where the bytes of a character stand, that character is read. -/
theorem front_of_prefix (h : encodeChar c <+: b :: rest) : ∃ more, front b rest = .char c more := by
  obtain ⟨after, e⟩ := h
  obtain ⟨b', tail, bytes, read⟩ := front_encodeChar c after
  rw [bytes, List.cons_append] at e
  obtain ⟨rfl, rfl⟩ := List.cons.inj e
  exact ⟨_, read⟩

/-- Bytes at which no character is read are one stray part. -/
theorem stray_of_invalid (h : front b rest = .invalid more) : Stray (b :: rest.take more) (rest.drop more) := by
  have fits : more ≤ rest.length := by simpa [h, Front.more] using front_more_le b rest
  refine ⟨List.cons_ne_nil b _, ?_, ?_, ?_⟩
  · intro c here
    rw [List.cons_append, List.take_append_drop, ← encodeChar_eq] at here
    obtain ⟨_, read⟩ := front_of_prefix here
    rw [h] at read
    cases read
  · cases more with
    | zero => exact .inl rfl
    | succ more =>
      obtain ⟨c, n, read, reach⟩ := front_completed h
      refine .inr ⟨c, ?_⟩
      rw [← encodeChar_eq, encodeChar_front read, List.cons_prefix_cons]
      exact ⟨rfl, List.prefix_take_iff.mpr ⟨List.prefix_append _ _, by rw [List.length_take]; omega⟩⟩
  · -- A longer beginning reaches the byte that does not fit, and what stands behind that byte no longer matters.
    intro far some inside begins
    obtain ⟨behind, e⟩ := inside
    obtain ⟨c, lack, bytes⟩ := begins
    have here : rest = (rest.take more ++ far) ++ behind := by
      rw [List.append_assoc, e, List.take_append_drop]
    have reach : more < (rest.take more ++ far).length := by
      have := List.length_pos_iff.mpr some
      rw [List.length_append, List.length_take]
      omega
    rw [here] at h
    have none := front_invalid_append h reach lack
    have there : encodeChar c <+: b :: (rest.take more ++ far ++ lack) := by
      rw [encodeChar_eq, ← bytes]
      simp
    obtain ⟨_, read⟩ := front_of_prefix there
    rw [none] at read
    cases read

theorem decodes_decodeLossy (bytes : List Byte) : Decodes bytes (decodeLossy bytes) := by
  fun_induction decodeLossy bytes with
  | case1 => exact .nil
  | case2 b rest c more h ih =>
    have here : b :: rest = String.utf8EncodeChar c ++ rest.drop more := by
      rw [← encodeChar_eq, encodeChar_front h, List.cons_append, List.take_append_drop]
    rw [here]
    exact .char c ih
  | case3 b rest more h ih =>
    have here : b :: rest = (b :: rest.take more) ++ rest.drop more := by
      rw [List.cons_append, List.take_append_drop]
    rw [here]
    exact .stray (stray_of_invalid h) ih

theorem decodeLossy_encodeChar_append (c : Char) (rest : List Byte) : decodeLossy (encodeChar c ++ rest) = c :: decodeLossy rest := by
  obtain ⟨b, tail, bytes, read⟩ := front_encodeChar c rest
  rw [bytes, List.cons_append, decodeLossy, read]
  simp only [List.drop_left]

theorem decodeLossy_stray_append {bad : List Byte} (none : Stray bad rest) :
    decodeLossy (bad ++ rest) = replacement :: decodeLossy rest := by
  obtain ⟨b, tail, rfl⟩ := List.exists_cons_of_ne_nil none.nonempty
  rw [List.cons_append, decodeLossy]
  split
  · rename_i c more h
    refine absurd ?_ (none.no_char c)
    rw [← encodeChar_eq, encodeChar_front h, List.cons_append, List.cons_prefix_cons]
    exact ⟨rfl, List.take_prefix _ _⟩
  · rename_i more h
    have whole : b :: tail = b :: (tail ++ rest).take more := none.unique (stray_of_invalid h) (by simp)
    have after : (tail ++ rest).drop more = rest := by
      have e := List.take_append_drop more (tail ++ rest)
      rw [← (List.cons.inj whole).2] at e
      exact List.append_cancel_left e
    rw [after]

/-- The bytes of a text decode to it and to nothing else. -/
theorem decodes_iff {bytes : List Byte} {s : List Char} : Decodes bytes s ↔ decodeLossy bytes = s := by
  refine ⟨fun h => ?_, fun h => h ▸ decodes_decodeLossy bytes⟩
  induction h with
  | nil => rw [decodeLossy]
  | char c _ ih => rw [← encodeChar_eq, decodeLossy_encodeChar_append, ih]
  | stray none _ ih => rw [decodeLossy_stray_append none, ih]; rfl

end Text.Utf8

/-! ## Trimming -/

namespace Text

def whiteSpace : List Nat := [0x9, 0xA, 0xB, 0xC, 0xD, 0x20, 0x85, 0xA0, 0x1680, 0x2000, 0x2001, 0x2002, 0x2003, 0x2004, 0x2005,
  0x2006, 0x2007, 0x2008, 0x2009, 0x200A, 0x2028, 0x2029, 0x202F, 0x205F, 0x3000]

/-- `t` is `s` without the white space at its two ends. -/
def Trims (s t : List Char) : Prop :=
  (∃ lead trail, s = lead ++ (t ++ trail) ∧ (∀ c ∈ lead, c.toNat ∈ whiteSpace) ∧ ∀ c ∈ trail, c.toNat ∈ whiteSpace) ∧
    (∀ c ∈ t.head?, c.toNat ∉ whiteSpace) ∧ ∀ c ∈ t.getLast?, c.toNat ∉ whiteSpace

theorem isBlank_iff {c : Char} : isBlank c = true ↔ c.toNat ∈ whiteSpace := by
  simp only [isBlank, whiteSpace, Bool.or_eq_true, Bool.and_eq_true, decide_eq_true_eq, beq_iff_eq, List.mem_cons, List.not_mem_nil,
    or_false]
  omega

theorem head?_dropWhile {p : Char → Bool} {s : List Char} {c : Char} (h : (s.dropWhile p).head? = some c) :
    ¬ p c = true := by
  have first := List.head?_dropWhile_not p s
  rw [h] at first
  exact Bool.eq_false_iff.mp first

theorem trims_trimChars (s : List Char) : Trims s (trimChars s) := by
  obtain ⟨lead, trail, e, hl, ht⟩ := trimChars_split s
  refine ⟨⟨lead, trail, e, fun c hc => isBlank_iff.mp (hl c hc), fun c hc => isBlank_iff.mp (ht c hc)⟩, ?_, ?_⟩
  · intro c hc white
    obtain ⟨trail', e', -⟩ := dropEnd_split isBlank (s.dropWhile isBlank)
    have first : (s.dropWhile isBlank).head? = some c := by
      rw [e', List.head?_append]
      exact Option.or_eq_some_iff.mpr (.inl hc)
    exact head?_dropWhile first (isBlank_iff.mpr white)
  · intro c hc white
    rw [trimChars, dropEnd, List.getLast?_reverse] at hc
    exact head?_dropWhile hc (isBlank_iff.mpr white)

/-- A text is trimmed to one text and to no other. -/
theorem trims_iff {s t : List Char} : Trims s t ↔ trimChars s = t := by
  refine ⟨fun h => ?_, fun h => h ▸ trims_trimChars s⟩
  obtain ⟨⟨lead, trail, e, hl, ht⟩, first, last⟩ := h
  rw [e, trimChars_blanks_append (fun c hc => isBlank_iff.mpr (hl c hc)),
    trimChars_append_blanks (fun c hc => isBlank_iff.mpr (ht c hc))]
  obtain ⟨lead', trail', e', hl', ht'⟩ := trimChars_split t
  have no_lead : lead' = [] := by
    cases lead' with
    | nil => rfl
    | cons c lead' =>
      refine absurd (isBlank_iff.mp (hl' c List.mem_cons_self)) (first c ?_)
      rw [e']
      rfl
  have no_trail : trail' = [] := by
    rcases List.eq_nil_or_concat trail' with nil | ⟨trail', c, rfl⟩
    · exact nil
    · refine absurd (isBlank_iff.mp (ht' c (by simp))) (last c ?_)
      rw [e']
      simp
  rw [no_lead, no_trail, List.nil_append, List.append_nil] at e'
  exact e'.symm

end Text

end CommandConsole
