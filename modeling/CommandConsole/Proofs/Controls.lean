/-
  CommandConsole.Proofs.Controls — where control characters come from and where they go.

  The text of a client passes through many hands before some of it comes back: its bytes
  are decoded, trimmed and cut into tokens, a token is put into a message, the message
  loses its tags and is encoded again. A control character, one below the blank, means
  nothing to any of them but the line feed and the blanks: it is not made, not dropped and
  not taken for a part of anything.

  Proved:
  - `mem_decodeLossy`: a character below 80 was a byte of that number.
  - `mem_parse`: a token has no control character that its line has not.
  - `plainChars_append`: no tag holds a control character, so text loses its tags before
    and after one separately; hence each is kept as often as it was there
    (`count_plainChars`).
  - `count_encodeChars`: a zero byte is written for a zero character and for no other.
-/

import CommandConsole.Proofs.ColorText
import CommandConsole.Proofs.Decoding
import CommandConsole.Proofs.Scanner
import CommandConsole.Proofs.Tags
import Mathlib.Data.List.Basic

namespace CommandConsole

/-- A character below the blank. -/
def IsControl (c : Char) : Prop := c.toNat < 32

instance (c : Char) : Decidable (IsControl c) := inferInstanceAs (Decidable (c.toNat < 32))

/-- Text without control characters. -/
def Visible (s : List Char) : Prop := ∀ c ∈ s, ¬ IsControl c

instance (s : List Char) : Decidable (Visible s) := List.decidableBAll (fun c => ¬ IsControl c) s

theorem IsControl.ne {c d : Char} (control : IsControl c) (visible : ¬ IsControl d) : c ≠ d := by
  rintro rfl
  exact visible control

/-! ## Bytes -/

namespace Text.Utf8

/-- Two bytes or more never form a character below 80. -/
theorem front_ascii {b : Byte} {rest : List Byte} {c : Char} {more : Nat} (h : front b rest = .char c more) (low : c.toNat < 0x80) :
    c.toNat = b.toNat := by
  have bytes := encodeChar_front h
  rw [encodeChar, if_pos low] at bytes
  rw [← (List.cons.inj bytes).1, toNat_toUInt8 (by omega)]

theorem mem_decodeLossy {c : Char} (low : c.toNat < 0x80) {bytes : List Byte} (hc : c ∈ decodeLossy bytes) :
    ∃ b ∈ bytes, c.toNat = b.toNat := by
  fun_induction decodeLossy bytes with
  | case1 => cases hc
  | case2 b rest d more h ih =>
    rcases List.mem_cons.mp hc with rfl | hc
    · exact ⟨b, List.mem_cons_self, front_ascii h low⟩
    · obtain ⟨b', hb', same⟩ := ih hc
      exact ⟨b', List.mem_cons_of_mem b (List.mem_of_mem_drop hb'), same⟩
  | case3 b rest more h ih =>
    rcases List.mem_cons.mp hc with rfl | hc
    · exact absurd low (by decide)
    · obtain ⟨b', hb', same⟩ := ih hc
      exact ⟨b', List.mem_cons_of_mem b (List.mem_of_mem_drop hb'), same⟩

theorem toUInt8_ne_zero {n : Nat} (pos : 0 < n) (small : n < 256) : (0 : Byte) ≠ n.toUInt8 := by
  intro e
  have zero := congrArg UInt8.toNat e
  rw [toNat_toUInt8 small] at zero
  exact Nat.ne_of_lt pos zero

theorem count_encodeChar (c : Char) : (encodeChar c).count 0 = if c = '\x00' then 1 else 0 := by
  by_cases zero : c = '\x00'
  · subst zero
    decide
  · have pos : 0 < c.toNat := by
      apply Nat.pos_of_ne_zero
      intro e
      exact zero (Char.toNat_inj.mp e)
    have top := toNat_valid c
    rw [if_neg zero, List.count_eq_zero]
    unfold encodeChar
    dsimp only
    split
    · simp only [List.mem_singleton]
      exact toUInt8_ne_zero pos (by omega)
    · split
      · simp only [List.mem_cons, List.not_mem_nil, or_false, not_or]
        exact ⟨toUInt8_ne_zero (by omega) (by omega), toUInt8_ne_zero (by omega) (by omega)⟩
      · split
        · simp only [List.mem_cons, List.not_mem_nil, or_false, not_or]
          exact ⟨toUInt8_ne_zero (by omega) (by omega), toUInt8_ne_zero (by omega) (by omega),
            toUInt8_ne_zero (by omega) (by omega)⟩
        · simp only [List.mem_cons, List.not_mem_nil, or_false, not_or]
          exact ⟨toUInt8_ne_zero (by omega) (by omega), toUInt8_ne_zero (by omega) (by omega),
            toUInt8_ne_zero (by omega) (by omega), toUInt8_ne_zero (by omega) (by omega)⟩

theorem count_encodeChars (s : List Char) : (encodeChars s).count 0 = s.count '\x00' := by
  induction s with
  | nil => rfl
  | cons c s ih =>
    rw [encodeChars, List.flatMap_cons, List.count_append, ← encodeChars, ih, count_encodeChar, List.count_cons]
    by_cases zero : c = '\x00'
    · simp [zero, Nat.add_comm]
    · simp [zero]

end Text.Utf8

/-! ## Tokens -/

theorem Text.mem_trimChars {c : Char} {s : List Char} (hc : c ∈ trimChars s) : c ∈ s := by
  obtain ⟨lead, trail, e, -, -⟩ := trimChars_split s
  rw [e]
  exact List.mem_append_right _ (List.mem_append_left _ hc)

theorem Text.mem_pieces {c sep : Char} {s p : List Char} (hp : p ∈ pieces sep s) (hc : c ∈ p) : c ∈ s := by
  induction s generalizing p with
  | nil =>
    simp only [pieces, List.mem_singleton] at hp
    subst hp
    cases hc
  | cons d s ih =>
    unfold pieces at hp
    split at hp
    · rcases List.mem_cons.mp hp with rfl | hp
      · cases hc
      · exact List.mem_cons_of_mem d (ih hp hc)
    · split at hp
      · rename_i q qs e
        rcases List.mem_cons.mp hp with rfl | hp
        · rcases List.mem_cons.mp hc with rfl | hc
          · exact List.mem_cons_self
          · exact List.mem_cons_of_mem d (ih (e ▸ List.mem_cons_self) hc)
        · exact List.mem_cons_of_mem d (ih (e ▸ List.mem_cons_of_mem q hp) hc)
      · cases List.mem_singleton.mp hp
        cases List.mem_singleton.mp hc
        exact List.mem_cons_self

theorem Text.mem_words {c : Char} {s w : List Char} (hw : w ∈ words s) (hc : c ∈ w) : c ∈ s := by
  induction s generalizing w with
  | nil => cases hw
  | cons d s ih =>
    unfold words at hw
    split at hw
    · exact List.mem_cons_of_mem d (ih hw hc)
    · split at hw
      · rcases List.mem_cons.mp hw with rfl | hw
        · cases List.mem_singleton.mp hc
          exact List.mem_cons_self
        · exact List.mem_cons_of_mem d (ih hw hc)
      · split at hw
        · rename_i v vs e
          rcases List.mem_cons.mp hw with rfl | hw
          · rcases List.mem_cons.mp hc with rfl | hc
            · exact List.mem_cons_self
            · exact List.mem_cons_of_mem d (ih (e ▸ List.mem_cons_self) hc)
          · exact List.mem_cons_of_mem d (ih (e ▸ List.mem_cons_of_mem v hw) hc)
        · cases List.mem_singleton.mp hw
          cases List.mem_singleton.mp hc
          exact List.mem_cons_self

namespace Line

variable {c : Char}

theorem mem_mask (control : IsControl c) {s : List Char} (hc : c ∈ mask s) : c ∈ s := by
  fun_induction mask s with
  | case1 r ih =>
    rcases List.mem_cons.mp hc with rfl | hc
    · exact absurd control (by decide)
    · exact List.mem_cons_of_mem _ (List.mem_cons_of_mem _ (ih hc))
  | case2 d r _ ih =>
    rcases List.mem_cons.mp hc with rfl | hc
    · exact List.mem_cons_self
    · exact List.mem_cons_of_mem d (ih hc)
  | case3 => cases hc

theorem mem_unmask (control : IsControl c) {s : List Char} (hc : c ∈ unmask s) : c ∈ s := by
  obtain ⟨d, hd, e⟩ := List.mem_map.mp hc
  split at e
  · subst e
    exact absurd control (by decide)
  · exact e ▸ hd

theorem mem_ofPieces (control : IsControl c) {quoted : Bool} {ps : List (List Char)} {t : List Char}
    (ht : t ∈ ofPieces quoted ps) (hc : c ∈ t) : ∃ p ∈ ps, c ∈ p := by
  induction ps generalizing quoted with
  | nil => cases ht
  | cons p ps ih =>
    rcases List.mem_append.mp ht with ht | ht
    · refine ⟨p, List.mem_cons_self, ?_⟩
      split at ht
      · cases List.mem_singleton.mp ht
        exact mem_unmask control hc
      · obtain ⟨w, hw, rfl⟩ := List.mem_map.mp ht
        exact Text.mem_words hw (mem_unmask control hc)
    · obtain ⟨q, hq, h⟩ := ih ht
      exact ⟨q, List.mem_cons_of_mem p hq, h⟩

theorem mem_tokens (control : IsControl c) {raw : List Char} {ts : List (List Char)} (h : tokens raw = .ok ts) {t : List Char}
    (ht : t ∈ ts) (hc : c ∈ t) : c ∈ raw := by
  obtain ⟨p, hp, hc⟩ := mem_ofPieces control ((tokens_ok h).2 ▸ ht) hc
  exact Text.mem_trimChars (mem_mask control (Text.mem_pieces hp hc))

theorem mem_parse (control : IsControl c) {raw : String} {ts : List String} (h : parse raw = .ok ts) {t : String} (ht : t ∈ ts)
    (hc : c ∈ t.toList) : c ∈ raw.toList := mem_tokens control (parse_eq_ok_iff.mp h) (List.mem_map_of_mem ht) hc

end Line

/-! ## Tags -/

namespace Markup

variable {x : Char}

theorem fixedTags_visible : ∀ t ∈ fixedTags, Visible t.1 := by decide

/-- No tag holds a control character. -/
theorem Tag.visible {t : List Char} {span : Span} (tag : Tag t span) : Visible t := by
  cases tag with
  | fixed known => exact fixedTags_visible _ known
  | @color v c _ named =>
    have opening : Visible "<color=".toList := by decide
    have closing : ¬ IsControl '>' := by decide
    intro x hx control
    simp only [List.mem_append, List.mem_singleton] at hx
    rcases hx with hx | hx | rfl
    · exact opening x hx control
    · have small : x.toNat < 32 := control
      have := (Color.ofText_letters named x hx).toNat_ge
      omega
    · exact closing control

theorem Outside.of_control (control : IsControl x) : Outside x :=
  fun _ _ tag hx => tag.visible x (List.mem_of_mem_tail hx) control

theorem plainChars_literal {c : Char} {r : List Char} (h : c = '<' → tag? ('<' :: r) = none) :
    plainChars (c :: r) = c :: plainChars r := flatMap_literal (fun _ => rfl) h

theorem plainChars_tag {r rest : List Char} {span : Span} (h : tag? ('<' :: r) = some (span, rest)) :
    plainChars ('<' :: r) = span.plain ++ plainChars rest := flatMap_tag h

theorem plainChars_nil : plainChars [] = [] := by
  rw [plainChars, scan]
  rfl

/-- Text loses its tags before and after a control character separately. -/
theorem plainChars_append (control : IsControl x) (s r : List Char) :
    plainChars (s ++ x :: r) = plainChars s ++ x :: plainChars r := by
  have apart : Apart s (x :: r) := (Outside.of_control control).apart s r
  have literal : plainChars (x :: r) = x :: plainChars r := plainChars_literal fun e => absurd e (control.ne (by decide))
  rw [← literal]
  exact flatMap_append (fun _ => rfl) apart

theorem fixedTags_plain : ∀ t ∈ fixedTags, Visible t.2.plain := by decide

theorem plain_tag {s rest : List Char} {span : Span} (h : tag? s = some (span, rest)) : Visible span.plain := by
  obtain ⟨t, tag, -⟩ := tag?_eq_some_iff.mp h
  cases tag with
  | fixed known => exact fixedTags_plain _ known
  | color =>
    intro x hx
    cases hx

/-- No control character is made. -/
theorem mem_plainChars (control : IsControl x) {s : List Char} (hx : x ∈ plainChars s) : x ∈ s := by
  induction s using tagInduction with
  | nil =>
    rw [plainChars_nil] at hx
    cases hx
  | literal c s h ih =>
    rw [plainChars_literal h] at hx
    rcases List.mem_cons.mp hx with rfl | hx
    · exact List.mem_cons_self
    · exact List.mem_cons_of_mem c (ih hx)
  | tag s span rest h ih =>
    rw [plainChars_tag h] at hx
    rcases List.mem_append.mp hx with hx | hx
    · exact absurd control (plain_tag h x hx)
    · exact (tag_suffix h).subset (ih hx)

/-- A control character is there as often as before. -/
theorem count_plainChars (control : IsControl x) (s : List Char) : (plainChars s).count x = s.count x := by
  induction hn : s.length using Nat.strongRecOn generalizing s with
  | ind n ih =>
    by_cases hx : x ∈ s
    · obtain ⟨before, after, rfl, hb⟩ := List.eq_append_cons_of_mem hx
      have shorter : after.length < n := by
        rw [← hn, List.length_append, List.length_cons]
        omega
      have none : (plainChars before).count x = 0 := List.count_eq_zero.mpr fun hx => hb (mem_plainChars control hx)
      rw [plainChars_append control, List.count_append, List.count_append, List.count_cons_self, List.count_cons_self,
        ih _ shorter after rfl, none, List.count_eq_zero.mpr hb]
    · rw [List.count_eq_zero.mpr hx, List.count_eq_zero.mpr fun h => hx (mem_plainChars control h)]

end Markup

end CommandConsole
