/-
  CommandConsole.Proofs.ColorText — what the text of a color is made of.

  A color is written as a name of the palette or as `#` and digits. So its text has no
  character but letters, digits, `#` and the `+` that a pair may have
  (`ofText_letters`); a blank, a quote, a `<` or a line break in it is none of a color.

  `toHex` writes the color channels in a form that is read back to the same channels,
  and opaque (`ofText_hex`).
-/

import CommandConsole.Color

namespace CommandConsole.Color

variable {c : Char} {s : List Char} {color : Color}

/-! ## Its characters -/

/-- A character that the text of a color can have. -/
def Letter (c : Char) : Prop := c.isAlphanum = true ∨ c = '#' ∨ c = '+'

instance (c : Char) : Decidable (Letter c) := inferInstanceAs (Decidable (_ ∨ _))

theorem isUpper_iff (c : Char) : c.isUpper = true ↔ 65 ≤ c.toNat ∧ c.toNat ≤ 90 := decide_eq_true_iff

theorem isLower_iff (c : Char) : c.isLower = true ↔ 97 ≤ c.toNat ∧ c.toNat ≤ 122 :=
  Bool.and_eq_true_iff.trans (and_congr decide_eq_true_iff decide_eq_true_iff)

theorem isDigit_iff (c : Char) : c.isDigit = true ↔ 48 ≤ c.toNat ∧ c.toNat ≤ 57 :=
  Bool.and_eq_true_iff.trans (and_congr decide_eq_true_iff decide_eq_true_iff)

theorem isAlphanum_iff (c : Char) : c.isAlphanum = true ↔ (c.isUpper = true ∨ c.isLower = true) ∨ c.isDigit = true :=
  Bool.or_eq_true_iff.trans (or_congr_left Bool.or_eq_true_iff)

theorem Letter.toNat_ge (letter : Letter c) : 35 ≤ c.toNat := by
  rcases letter with word | rfl | rfl
  · rw [isAlphanum_iff, isUpper_iff, isLower_iff, isDigit_iff] at word
    omega
  · decide
  · decide

theorem Letter.toNat_lt (letter : Letter c) : c.toNat < 128 := by
  rcases letter with word | rfl | rfl
  · rw [isAlphanum_iff, isUpper_iff, isLower_iff, isDigit_iff] at word
    omega
  · decide
  · decide

theorem hexValue?_letter {v : Nat} (h : hexValue? c = some v) : Letter c := by
  unfold hexValue? at h
  left
  rw [isAlphanum_iff]
  split at h
  · rename_i digit
    exact .inr digit
  · split at h
    · rename_i low
      have range : 97 ≤ c.toNat ∧ c.toNat ≤ 102 := low
      exact .inl (.inr ((isLower_iff c).mpr ⟨range.1, by omega⟩))
    · split at h
      · rename_i high
        have range : 65 ≤ c.toNat ∧ c.toNat ≤ 70 := high
        exact .inl (.inl ((isUpper_iff c).mpr ⟨range.1, by omega⟩))
      · cases h

theorem shortChannel?_letter {v : UInt8} (h : shortChannel? c = some v) : Letter c := by
  obtain ⟨n, hn, -⟩ := Option.map_eq_some_iff.mp h
  exact hexValue?_letter hn

theorem longChannel?_letter {d : Char} {v : UInt8} (h : longChannel? c d = some v) : Letter c ∧ Letter d := by
  unfold longChannel? at h
  split at h
  · rename_i plus
    obtain ⟨n, hn, -⟩ := Option.map_eq_some_iff.mp h
    exact ⟨.inr (.inr plus), hexValue?_letter hn⟩
  · obtain ⟨m, hm, h⟩ := Option.bind_eq_some_iff.mp h
    obtain ⟨n, hn, -⟩ := Option.bind_eq_some_iff.mp h
    exact ⟨hexValue?_letter hm, hexValue?_letter hn⟩

theorem ofHex_letters (h : ofHex s = some color) : ∀ c ∈ s, Letter c := by
  have hash : Letter '#' := by decide
  unfold ofHex at h
  split at h
  · obtain ⟨r, hr, h⟩ := Option.bind_eq_some_iff.mp h
    obtain ⟨g, hg, h⟩ := Option.bind_eq_some_iff.mp h
    obtain ⟨b, hb, -⟩ := Option.bind_eq_some_iff.mp h
    simp [hash, shortChannel?_letter hr, shortChannel?_letter hg, shortChannel?_letter hb]
  · obtain ⟨r, hr, h⟩ := Option.bind_eq_some_iff.mp h
    obtain ⟨g, hg, h⟩ := Option.bind_eq_some_iff.mp h
    obtain ⟨b, hb, h⟩ := Option.bind_eq_some_iff.mp h
    obtain ⟨a, ha, -⟩ := Option.bind_eq_some_iff.mp h
    simp [hash, shortChannel?_letter hr, shortChannel?_letter hg, shortChannel?_letter hb, shortChannel?_letter ha]
  · obtain ⟨r, hr, h⟩ := Option.bind_eq_some_iff.mp h
    obtain ⟨g, hg, h⟩ := Option.bind_eq_some_iff.mp h
    obtain ⟨b, hb, -⟩ := Option.bind_eq_some_iff.mp h
    simp [hash, longChannel?_letter hr, longChannel?_letter hg, longChannel?_letter hb]
  · obtain ⟨r, hr, h⟩ := Option.bind_eq_some_iff.mp h
    obtain ⟨g, hg, h⟩ := Option.bind_eq_some_iff.mp h
    obtain ⟨b, hb, h⟩ := Option.bind_eq_some_iff.mp h
    obtain ⟨a, ha, -⟩ := Option.bind_eq_some_iff.mp h
    simp [hash, longChannel?_letter hr, longChannel?_letter hg, longChannel?_letter hb, longChannel?_letter ha]
  · cases h

theorem palette_letters : ∀ entry ∈ palette, ∀ c ∈ entry.1.toList, Letter c := by
  have all : ∀ entry ∈ palette, entry.1.toList.all (fun c => decide (Letter c)) = true := by decide
  intro entry listed c hc
  exact of_decide_eq_true (List.all_eq_true.mp (all entry listed) c hc)

theorem letter_of_toLower (h : Letter c.toLower) : Letter c := by
  unfold Char.toLower at h
  split at h
  · rename_i upper
    left
    rw [isAlphanum_iff]
    exact .inl (.inl (decide_eq_true upper))
  · exact h

theorem ofName_letters (h : ofName s = some color) : ∀ c ∈ s, Letter c := by
  intro c hc
  obtain ⟨entry, found, -⟩ := Option.map_eq_some_iff.mp h
  have named := List.find?_some found
  have same : entry.1.toList = s.map Char.toLower := eq_of_beq named
  have hm : c.toLower ∈ entry.1.toList := by
    rw [same]
    exact List.mem_map_of_mem hc
  exact letter_of_toLower (palette_letters entry (List.mem_of_find?_eq_some found) _ hm)

theorem ofText_letters (h : ofText s = some color) : ∀ c ∈ s, Letter c := by
  unfold ofText at h
  cases e : ofHex s with
  | some d => exact ofHex_letters e
  | none =>
    rw [e] at h
    exact ofName_letters h

/-! ## Its hexadecimal form read back -/

theorem hexValue?_upperDigit : ∀ n < 16, hexValue? (upperDigit n) = some n := by decide

theorem upperDigit_ne_plus : ∀ n < 16, upperDigit n ≠ '+' := by decide

theorem longChannel?_hexPair (v : UInt8) : longChannel? (upperDigit (v.toNat / 16)) (upperDigit (v.toNat % 16)) = some v := by
  have small := v.toNat_lt
  have high : v.toNat / 16 < 16 := by omega
  have low : v.toNat % 16 < 16 := by omega
  have value : 16 * (v.toNat / 16) + v.toNat % 16 = v.toNat := by omega
  unfold longChannel?
  rw [if_neg (upperDigit_ne_plus _ high), hexValue?_upperDigit _ high, hexValue?_upperDigit _ low]
  show some (16 * (v.toNat / 16) + v.toNat % 16).toUInt8 = some v
  rw [value]
  exact congrArg some UInt8.ofNat_toNat

/-- A color that is written down is read back without its opacity. -/
theorem ofText_hex (color : Color) : ofText ('#' :: color.hexChars) = some (color.withAlpha 255) := by
  have read : ofHex ('#' :: color.hexChars) = some (color.withAlpha 255) := by
    simp [hexChars, hexPair, ofHex, longChannel?_hexPair, rgb, withAlpha]
  rw [ofText, read]
  rfl

end CommandConsole.Color
