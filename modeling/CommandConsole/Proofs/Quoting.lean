/-
  CommandConsole.Proofs.Quoting — which arguments can be typed at all.

  A command may be handed any list of texts as its name and arguments if some line has
  them as its tokens. Two things cannot be said in a line. The stand-in comes back as a
  quote wherever it is typed. And a backslash in front of the closing quote escapes it, so
  what ends in a backslash has to stand outside quotes, where blanks would cut it.
  `Typable` says that there is nothing else.

  `quote` writes a token the way a user would: its quotes escaped, the whole between quotes,
  or bare if it ends in a backslash. `ofTokens` puts the tokens on a line, a blank between
  two.

  Why every token of a line is typable: masking leaves no backslash in front of a quote
  (`mask_unpaired`), so no piece between quotes ends in one (`pieces_unpaired`), and a word
  outside quotes has no blank. Why a typable token comes back: the scanner reads an escaped
  text as the text (`scan_escape`), in quotes up to the closing one, bare up to the blank.

  Proved (`typable_iff`): some line has the tokens, exactly if the line written from them
  has, exactly if there is at least one and each is typable.
-/

import CommandConsole.Proofs.Scanner
import Mathlib.Data.List.Chain

namespace CommandConsole.Line

open Text (isBlank)

/-! ## Writing tokens -/

/-- The text with a backslash in front of every quote. -/
def escape (t : List Char) : List Char := t.flatMap fun c => if c = '"' then ['\\', '"'] else [c]

/-- The token as it is typed. Behind a backslash the closing quote would be an escaped one. -/
def quote (t : List Char) : List Char :=
  if t.getLast? = some '\\' then escape t else '"' :: (escape t ++ ['"'])

/-- The tokens on one line. -/
def ofTokens (ts : List String) : String := " ".intercalate (ts.map fun t => String.ofList (quote t.toList))

/-- What a token can be. -/
structure Typable (t : List Char) : Prop where
  plain : standIn ∉ t
  solid : t.getLast? = some '\\' → ∀ c ∈ t, isBlank c = false

theorem escape_cons (c : Char) (t : List Char) :
    escape (c :: t) = (if c = '"' then ['\\', '"'] else [c]) ++ escape t := rfl

theorem standIn_mem_escape {t : List Char} : standIn ∈ escape t ↔ standIn ∈ t := by
  induction t with
  | nil => rfl
  | cons c t ih =>
    have hq : standIn ≠ '"' := by decide
    have he : standIn ≠ '\\' := by decide
    rw [escape_cons]
    by_cases h : c = '"'
    · simp [h, hq, he, ih]
    · simp [h, ih]

/-- An escaped text does not start with a quote. -/
theorem escape_head {t : List Char} (ht : t ≠ []) (r s : List Char) : escape t ++ r ≠ '"' :: s := by
  obtain ⟨c, t, rfl⟩ := List.exists_cons_of_ne_nil ht
  rw [escape_cons]
  by_cases h : c = '"' <;> simp [h]

/-! ## A token on a line comes back -/

/-- The scanner reads an escaped text as the text, in quotes or bare, unless its last
    character is a backslash that escapes what follows. -/
theorem scan_escape {mode : Mode} {t r : List Char} (bare : mode = .unquoted → ∀ c ∈ t, isBlank c = false)
    (apart : t.getLast? = some '\\' → r.head? ≠ some '"') (token : List Char) :
    scan mode token (escape t ++ r) = scan mode (token ++ t) r := by
  induction t generalizing token with
  | nil => simp [escape]
  | cons c t ih =>
    have last : t ≠ [] → (c :: t).getLast? = t.getLast? := by
      intro ht
      obtain ⟨d, t, rfl⟩ := List.exists_cons_of_ne_nil ht
      exact List.getLast?_cons_cons
    have ih := fun token => ih (fun hm d hd => bare hm d (List.mem_cons_of_mem c hd))
      (fun hl => apart ((last (by rintro rfl; cases hl)).trans hl)) token
    have more : token ++ c :: t = token ++ [c] ++ t := by simp
    rw [escape_cons, more, ← ih]
    by_cases hq : c = '"'
    · subst hq
      rw [if_pos rfl]
      exact scan.eq_1 mode token _
    · rw [if_neg hq]
      have pair : ∀ s, c = '\\' → escape t ++ r = '"' :: s → False := by
        intro s hc hs
        by_cases ht : t = []
        · subst ht
          exact apart (by rw [hc]; rfl) (by rw [show r = '"' :: s from hs]; rfl)
        · exact escape_head ht r s hs
      cases mode with
      | unquoted =>
        have hb : isBlank c = false := bare rfl c List.mem_cons_self
        rw [List.singleton_append, List.cons_append, scan, if_neg hq, hb]
        · simp
        · exact pair
      | quoted =>
        rw [List.singleton_append, List.cons_append, scan, if_neg hq]
        exact pair

theorem scan_quote_blank {t : List Char} (typable : Typable t) (r : List Char) :
    scan .unquoted [] (quote t ++ ' ' :: r) = (t :: (scan .unquoted [] r).1, (scan .unquoted [] r).2) := by
  have blank : isBlank ' ' = true := by decide
  have past : ∀ token, scan .unquoted token (' ' :: r) = (ended token ++ (scan .unquoted [] r).1, (scan .unquoted [] r).2) := by
    intro token
    rw [scan, if_neg (by decide), if_pos blank]
    simp
  unfold quote
  by_cases bare : t.getLast? = some '\\'
  · have ht : t ≠ [] := by rintro rfl; cases bare
    rw [if_pos bare, scan_escape (fun _ => typable.solid bare) (fun _ => by simp), past]
    simp [ended, ht]
  · have closing : '"' :: (escape t ++ ['"']) ++ ' ' :: r = '"' :: (escape t ++ '"' :: ' ' :: r) := by simp
    rw [if_neg bare, closing, scan, if_pos rfl, scan_escape (fun hm => by cases hm) (fun hl => absurd hl bare), scan,
      if_pos rfl, past]
    · simp [ended]
    · simp
    · simp

theorem scan_quote {t : List Char} (typable : Typable t) : scan .unquoted [] (quote t) = ([t], .unquoted) := by
  have blanks : ∀ b ∈ [' '], isBlank b = true := by
    intro b hb
    rw [List.mem_singleton.mp hb]
    rfl
  rw [← scan_append_blanks blanks, scan_quote_blank typable]
  rfl

theorem scan_ofTokens {ts : List (List Char)} (some : ts ≠ []) (typable : ∀ t ∈ ts, Typable t) :
    scan .unquoted [] ([' '].intercalate (ts.map quote)) = (ts, .unquoted) := by
  induction ts with
  | nil => exact absurd rfl some
  | cons t ts ih =>
    have ht := typable t List.mem_cons_self
    cases ts with
    | nil => exact (congrArg _ (List.append_nil _)).trans (scan_quote ht)
    | cons u ts =>
      rw [List.map_cons, List.map_cons, List.intercalate_cons_cons, List.append_assoc, List.singleton_append,
        scan_quote_blank ht, ← List.map_cons, ih (by simp) (fun v hv => typable v (List.mem_cons_of_mem t hv))]

theorem standIn_notMem_quote {t : List Char} (plain : standIn ∉ t) : standIn ∉ quote t := by
  have hq : standIn ≠ '"' := by decide
  unfold quote
  split
  · rwa [standIn_mem_escape]
  · simp [standIn_mem_escape, plain, hq]

theorem standIn_notMem_ofTokens {ts : List (List Char)} (plain : ∀ t ∈ ts, standIn ∉ t) :
    standIn ∉ [' '].intercalate (ts.map quote) := by
  have hb : standIn ≠ ' ' := by decide
  induction ts with
  | nil => simp
  | cons t ts ih =>
    have ht := standIn_notMem_quote (plain t List.mem_cons_self)
    have ih := ih fun u hu => plain u (List.mem_cons_of_mem t hu)
    cases ts with
    | nil => simpa using ht
    | cons u ts =>
      rw [List.map_cons] at ih
      rw [List.map_cons, List.map_cons, List.intercalate_cons_cons]
      simp [ht, hb, ih]

theorem tokens_ofTokens {ts : List (List Char)} (some : ts ≠ []) (typable : ∀ t ∈ ts, Typable t) :
    tokens ([' '].intercalate (ts.map quote)) = .ok ts := by
  have read := scan_ofTokens some typable
  have solid : ([' '].intercalate (ts.map quote)).all isBlank = false := by
    apply Bool.eq_false_iff.mpr
    intro blank
    rw [scan_blanks (List.all_eq_true.mp blank)] at read
    exact some (congrArg Prod.fst read).symm
  rw [tokens_eq_scan (standIn_notMem_ofTokens fun t ht => (typable t ht).plain), solid, read]
  rfl

/-! ## Every token is typable -/

/-- No backslash stands in front of a quote. -/
def Unpaired (s : List Char) : Prop := s.IsChain fun c d => ¬ (c = '\\' ∧ d = '"')

/-- A quote at the front of a masked text was there before. -/
theorem mask_head {s : List Char} (h : (mask s).head? = some '"') : ∃ r, s = '"' :: r := by
  fun_cases mask s with
  | case1 r =>
    rw [mask] at h
    exact absurd (Option.some.inj h) (by decide)
  | case2 c r pair =>
    rw [mask] at h
    · exact ⟨r, by rw [Option.some.inj h]⟩
    · exact pair
  | case3 => cases h

theorem mask_unpaired (s : List Char) : Unpaired (mask s) := by
  have he : standIn ≠ '\\' := by decide
  fun_induction mask s with
  | case1 r ih => exact List.isChain_cons.mpr ⟨fun d _ both => he both.1, ih⟩
  | case2 c r pair ih =>
    refine List.isChain_cons.mpr ⟨fun d hd both => ?_, ih⟩
    obtain ⟨hc, rfl⟩ := both
    obtain ⟨s, hs⟩ := mask_head hd
    exact pair s hc hs
  | case3 => exact List.isChain_nil

/-- In such a text no piece that a quote follows ends in a backslash. -/
theorem pieces_unpaired {s : List Char} (unpaired : Unpaired s) :
    ∀ p ∈ (Text.pieces '"' s).dropLast, p.getLast? ≠ some '\\' := by
  induction s with
  | nil => simp [Text.pieces]
  | cons c r ih =>
    obtain ⟨first, rest⟩ := List.isChain_cons.mp unpaired
    have ih := ih rest
    obtain ⟨q, qs, e⟩ := List.exists_cons_of_ne_nil (Text.pieces_ne_nil '"' r)
    by_cases hq : c = '"'
    · have cut : Text.pieces '"' (c :: r) = [] :: Text.pieces '"' r := by simp [Text.pieces, hq]
      rw [cut, List.dropLast_cons_of_ne_nil (Text.pieces_ne_nil '"' r)]
      intro p hp
      rcases List.mem_cons.mp hp with rfl | hp
      · simp
      · exact ih p hp
    · have cut : Text.pieces '"' (c :: r) = (c :: q) :: qs := by simp [Text.pieces, hq, e]
      rw [cut]
      rw [e] at ih
      cases qs with
      | nil => simp
      | cons q' qs =>
        intro p hp
        rcases List.mem_cons.mp hp with rfl | hp
        · cases q with
          | nil =>
            -- The quote that ends this piece is the next character.
            have next : r.head? = some '"' := by
              cases r with
              | nil => simp [Text.pieces] at e
              | cons d r =>
                by_cases hd : d = '"'
                · rw [hd]; rfl
                · obtain ⟨_, _, e'⟩ := List.exists_cons_of_ne_nil (Text.pieces_ne_nil '"' r)
                  simp [Text.pieces, hd, e'] at e
            intro ends
            have hc : c = '\\' := by simpa using ends
            exact first '"' next ⟨hc, rfl⟩
          | cons d q => exact ih (d :: q) List.mem_cons_self
        · exact ih p (List.mem_cons_of_mem q hp)

theorem words_solid_of_mem {s w : List Char} (hw : w ∈ Text.words s) : ∀ c ∈ w, isBlank c = false := by
  induction s generalizing w with
  | nil => cases hw
  | cons c r ih =>
    by_cases hb : isBlank c = true
    · rw [Text.words, if_pos hb] at hw
      exact ih hw
    · have alone : ∀ d ∈ [c], isBlank d = false := by simpa using hb
      rw [Text.words, if_neg hb] at hw
      split at hw
      · rcases List.mem_cons.mp hw with rfl | hw
        · exact alone
        · exact ih hw
      · split at hw
        · rename_i v ws e
          rcases List.mem_cons.mp hw with rfl | hw
          · exact List.forall_mem_cons.mpr ⟨by simpa using hb, ih (e ▸ List.mem_cons_self)⟩
          · exact ih (e ▸ List.mem_cons_of_mem v hw)
        · rw [List.mem_singleton.mp hw]
          exact alone

/-- Unmasking makes no backslash. -/
theorem unmask_ends {p : List Char} (h : (unmask p).getLast? = some '\\') : p.getLast? = some '\\' := by
  rw [unmask, List.getLast?_map] at h
  obtain ⟨c, hc, e⟩ := Option.map_eq_some_iff.mp h
  split at e
  · cases e
  · rw [hc, e]

theorem typable_of_quoted {p : List Char} (h : p.getLast? ≠ some '\\') : Typable (unmask p) :=
  ⟨standIn_notMem_unmask p, fun ends => absurd (unmask_ends ends) h⟩

theorem typable_of_word {s w : List Char} (hw : w ∈ Text.words s) : Typable (unmask w) := by
  refine ⟨standIn_notMem_unmask w, fun _ c hc => ?_⟩
  obtain ⟨d, hd, rfl⟩ := List.mem_map.mp hc
  split
  · exact isBlank_quote
  · exact words_solid_of_mem hw d hd

/-- Where the last piece lies outside quotes, a quote follows each piece inside. -/
theorem ofPieces_typable {quoted : Bool} {ps : List (List Char)} (balanced : ps.length % 2 = if quoted then 0 else 1)
    (apart : ∀ p ∈ ps.dropLast, p.getLast? ≠ some '\\') : ∀ t ∈ ofPieces quoted ps, Typable t := by
  induction ps generalizing quoted with
  | nil => simp [ofPieces]
  | cons p ps ih =>
    have rest : ∀ t ∈ ofPieces (!quoted) ps, Typable t := by
      apply ih
      · rw [List.length_cons] at balanced
        cases quoted
        · simp at balanced ⊢; omega
        · simp at balanced ⊢; omega
      · intro q hq
        cases ps with
        | nil => cases hq
        | cons q' ps => exact apart q (List.mem_cons_of_mem p hq)
    intro t ht
    rcases List.mem_append.mp ht with here | later
    · cases quoted with
      | true =>
        cases ps with
        | nil => simp at balanced
        | cons q ps =>
          rw [List.mem_singleton.mp here]
          exact typable_of_quoted (apart p List.mem_cons_self)
      | false =>
        obtain ⟨w, hw, rfl⟩ := List.mem_map.mp here
        exact typable_of_word hw
    · exact rest t later

theorem tokens_typable {raw : List Char} {ts : List (List Char)} (h : tokens raw = .ok ts) : ∀ t ∈ ts, Typable t := by
  obtain ⟨balanced, rfl⟩ := tokens_ok h
  exact ofPieces_typable balanced (pieces_unpaired (mask_unpaired _))

/-! ## What can be typed -/

theorem toList_ofTokens (ts : List String) :
    (ofTokens ts).toList = [' '].intercalate ((ts.map String.toList).map quote) := by
  rw [ofTokens, String.toList_intercalate]
  simp [Function.comp_def]

/-- Texts are the tokens of some line exactly if there is at least one of them and each is
    typable, that is without the stand-in and, if it ends in a backslash, without blanks;
    and then they are the tokens of the line that is written from them. -/
theorem typable_iff (ts : List String) :
    ((∃ raw, parse raw = .ok ts) ↔ ts ≠ [] ∧ ∀ t ∈ ts, Typable t.toList) ∧
      (parse (ofTokens ts) = .ok ts ↔ ts ≠ [] ∧ ∀ t ∈ ts, Typable t.toList) := by
  have only : ∀ raw, parse raw = .ok ts → ts ≠ [] ∧ ∀ t ∈ ts, Typable t.toList := by
    intro raw h
    refine ⟨parse_ne_nil h, fun t ht => ?_⟩
    exact tokens_typable (parse_eq_ok_iff.mp h) _ (List.mem_map_of_mem ht)
  have enough : (ts ≠ [] ∧ ∀ t ∈ ts, Typable t.toList) → parse (ofTokens ts) = .ok ts := by
    rintro ⟨some, typable⟩
    rw [parse_eq_ok_iff, toList_ofTokens]
    apply tokens_ofTokens
    · simpa using some
    · intro u hu
      obtain ⟨t, ht, rfl⟩ := List.mem_map.mp hu
      exact typable t ht
  exact ⟨⟨fun ⟨raw, h⟩ => only raw h, fun h => ⟨_, enough h⟩⟩, ⟨only _, enough⟩⟩

/-- A name with quotes around a blank, an empty argument and one that ends in a backslash. -/
example : ofTokens ["a \"b\"", "", "c:\\"] = "\"a \\\"b\\\"\" \"\" c:\\" := by decide

end CommandConsole.Line
