/-
  CommandConsole.Proofs.Rejoining — the tokens of a line, cut once more.

  The tokens of a line can be joined again, a blank between two. That is a line too, but
  nothing in it tells where a token ended: blanks that stood between quotes now cut, quotes
  that were escaped now delimit, and an empty token is nothing but one more blank.

  A line without quotes is cut into its words (`scan_unquoted`). So tokens that are words,
  without a quote (`IsWord`), come back. Why no others do: a quote comes back only if a
  backslash in front of it escapes it, and that backslash does not come back. Reading a line
  leaves one character of every pair, and no quote else, so what is left has as many
  backslashes and quotes as the line had backslashes (`count_keep`). Tokens that come back
  have kept all their backslashes, so they had no quote; and words is all that a line
  without quotes is cut into.

  Proved (`rejoined_iff`): the tokens of a line, joined and cut again, are the same exactly if
  each of them is a word without a quote.
-/

import CommandConsole.Proofs.Conservation
import CommandConsole.Proofs.Quoting

namespace CommandConsole.Line

open Text (isBlank)

/-! ## Joined tokens -/

/-- The tokens as one line, a blank between two. -/
def rejoined (ts : List String) : String := " ".intercalate ts

/-- Something that has no blank and no quote. -/
def IsWord (t : List Char) : Prop := t ≠ [] ∧ ∀ c ∈ t, isBlank c = false ∧ c ≠ '"'

instance (t : List Char) : Decidable (IsWord t) :=
  have : Decidable (∀ c ∈ t, isBlank c = false ∧ c ≠ '"') := List.decidableBAll (fun c => isBlank c = false ∧ c ≠ '"') t
  inferInstanceAs (Decidable (_ ∧ _))

theorem toList_rejoined (ts : List String) : (rejoined ts).toList = [' '].intercalate (ts.map String.toList) :=
  String.toList_intercalate

/-- Joining adds blanks and nothing else. -/
theorem count_intercalate_blank {c : Char} (hc : c ≠ ' ') (ts : List (List Char)) :
    ([' '].intercalate ts).count c = ts.flatten.count c := by
  induction ts with
  | nil => rfl
  | cons t ts ih =>
    cases ts with
    | nil => simp
    | cons u ts =>
      have blank : [' '].count c = 0 := List.count_eq_zero.mpr (by simpa using hc)
      rw [List.flatten_cons, List.count_append, ← ih, List.intercalate_cons_cons, List.count_append, List.count_append, blank,
        Nat.add_zero]

theorem mem_intercalate_blank {c : Char} (hc : c ≠ ' ') (ts : List (List Char)) : c ∈ [' '].intercalate ts ↔ c ∈ ts.flatten := by
  rw [← List.count_pos_iff, count_intercalate_blank hc, List.count_pos_iff]

/-! ## Lines without quotes -/

theorem scan_unquoted {s : List Char} (unquoted : '"' ∉ s) {token : List Char} (solid : ∀ c ∈ token, isBlank c = false) :
    scan .unquoted token s = (Text.words (token ++ s), .unquoted) := by
  induction s generalizing token with
  | nil => rw [scan, List.append_nil, words_solid solid]
  | cons c r ih =>
    have hq : c ≠ '"' := fun e => unquoted (e ▸ List.mem_cons_self)
    have rest : '"' ∉ r := fun h => unquoted (List.mem_cons_of_mem c h)
    have alone : ∀ t, c = '\\' → r = '"' :: t → False := fun t _ e => rest (e ▸ List.mem_cons_self)
    by_cases hb : isBlank c = true
    · rw [scan, if_neg hq, if_pos hb, ih rest (by simp), words_append_blank solid hb]
      · rfl
      · exact alone
    · have more : ∀ d ∈ token ++ [c], isBlank d = false := by
        intro d hd
        rcases List.mem_append.mp hd with hd | hd
        · exact solid d hd
        · rw [List.mem_singleton.mp hd]
          simpa using hb
      rw [scan, if_neg hq, if_neg hb, ih rest more, List.append_assoc, List.singleton_append]
      exact alone

theorem words_ne_nil_of_mem {s w : List Char} (hw : w ∈ Text.words s) : w ≠ [] := by
  induction s generalizing w with
  | nil => cases hw
  | cons c r ih =>
    unfold Text.words at hw
    split at hw
    · exact ih hw
    · split at hw
      · rcases List.mem_cons.mp hw with rfl | hw
        · simp
        · exact ih hw
      · split at hw
        · rename_i v ws e
          rcases List.mem_cons.mp hw with rfl | hw
          · simp
          · exact ih (e ▸ List.mem_cons_of_mem v hw)
        · rw [List.mem_singleton.mp hw]
          simp

/-- Words, joined, are cut into the same words. -/
theorem words_intercalate {ts : List (List Char)} (words : ∀ t ∈ ts, IsWord t) : Text.words ([' '].intercalate ts) = ts := by
  have one : ∀ t, IsWord t → ended t = [t] := by
    rintro t ⟨some, -⟩
    simp [ended, some]
  induction ts with
  | nil => rfl
  | cons t ts ih =>
    have ht := words t List.mem_cons_self
    have solid : ∀ c ∈ t, isBlank c = false := fun c hc => (ht.2 c hc).1
    cases ts with
    | nil =>
      rw [List.intercalate_singleton, words_solid solid, one t ht]
    | cons u ts =>
      rw [List.intercalate_cons_cons, List.append_assoc, List.singleton_append, words_append_blank solid (by decide), one t ht,
        ih fun v hv => words v (List.mem_cons_of_mem t hv)]
      rfl

/-! ## Backslashes -/

/-- Of every pair the quote is left, and of the other quotes none. -/
theorem count_keep (mode : Mode) (s : List Char) : (keep mode s).count '\\' + (keep mode s).count '"' = s.count '\\' := by
  fun_induction keep mode s with
  | case1 mode r ih => simp; omega
  | case2 r alone ih => simp; omega
  | case3 c r alone hq hb ih =>
    have he : c ≠ '\\' := by
      rintro rfl
      rw [isBlank_backslash] at hb
      cases hb
    rw [List.count_cons_of_ne he]
    exact ih
  | case4 c r alone hq hb ih =>
    rw [List.count_cons, List.count_cons, List.count_cons, ← ih]
    simp [hq]
    omega
  | case5 r alone ih => simp; omega
  | case6 c r alone hq ih =>
    rw [List.count_cons, List.count_cons, List.count_cons, ← ih]
    simp [hq]
    omega
  | case7 mode => rfl

/-- Texts that a line made of them is cut into have no quotes. -/
theorem unquoted_of_rejoined {ts : List (List Char)} (plain : standIn ∉ ts.flatten)
    (same : tokens ([' '].intercalate ts) = .ok ts) : '"' ∉ ts.flatten := by
  have clean : standIn ∉ keep .unquoted ([' '].intercalate ts) := by
    rwa [standIn_mem_keep, mem_intercalate_blank (by decide)]
  have left : ts.flatten = keep .unquoted ([' '].intercalate ts) := by
    rw [flatten_tokens same, ← keep_eq_kept, unmask_eq_self clean]
  have all := count_keep .unquoted ([' '].intercalate ts)
  rw [count_intercalate_blank (by decide), ← left] at all
  exact List.count_eq_zero.mp (by omega)

/-! ## Cutting again -/

theorem tokens_rejoined_iff {ts : List (List Char)} (some : ts ≠ []) (plain : standIn ∉ ts.flatten) :
    tokens ([' '].intercalate ts) = .ok ts ↔ ∀ t ∈ ts, IsWord t := by
  have clean : standIn ∉ [' '].intercalate ts := by rwa [mem_intercalate_blank (by decide)]
  have read : '"' ∉ ts.flatten →
      scan .unquoted [] ([' '].intercalate ts) = (Text.words ([' '].intercalate ts), .unquoted) := by
    intro unquoted
    exact scan_unquoted (by rwa [mem_intercalate_blank (by decide)]) (by simp)
  constructor
  · intro same t ht
    have unquoted := unquoted_of_rejoined plain same
    have words : t ∈ Text.words ([' '].intercalate ts) := by
      rw [tokens_eq_scan clean, read unquoted] at same
      split at same
      · cases same
      · rwa [Except.ok.inj same]
    refine ⟨words_ne_nil_of_mem words, fun c hc => ⟨words_solid_of_mem words c hc, ?_⟩⟩
    rintro rfl
    exact unquoted (List.mem_flatten_of_mem ht hc)
  · intro words
    have unquoted : '"' ∉ ts.flatten := by
      intro quote
      obtain ⟨t, ht, hc⟩ := List.mem_flatten.mp quote
      exact ((words t ht).2 _ hc).2 rfl
    have solid : ([' '].intercalate ts).all isBlank = false := by
      obtain ⟨t, ht⟩ := List.exists_mem_of_ne_nil ts some
      obtain ⟨c, hc⟩ := List.exists_mem_of_ne_nil t (words t ht).1
      have dark := (words t ht).2 c hc
      have hb : c ≠ ' ' := by
        rintro rfl
        exact absurd dark.1 (by decide)
      have here : c ∈ [' '].intercalate ts := (mem_intercalate_blank hb ts).mpr (List.mem_flatten_of_mem ht hc)
      rw [List.all_eq_false]
      exact ⟨c, here, by simp [dark.1]⟩
    rw [tokens_eq_scan clean, solid, read unquoted, words_intercalate words]
    rfl

/-- The tokens of a line, joined and cut again, are the same exactly if each of them is
    something that has no blank and no quote. -/
theorem rejoined_iff (raw : String) (ts : List String) (parses : parse raw = .ok ts) :
    parse (rejoined ts) = .ok ts ↔ ∀ t ∈ ts, IsWord t.toList := by
  have cut := parse_eq_ok_iff.mp parses
  have plain : standIn ∉ (ts.map String.toList).flatten := by
    intro there
    obtain ⟨t, ht, hc⟩ := List.mem_flatten.mp there
    exact (tokens_typable cut t ht).plain hc
  rw [parse_eq_ok_iff, toList_rejoined, tokens_rejoined_iff (tokens_ne_nil cut) plain, List.forall_mem_map]

/-- Words in quotes, and one that ends in a backslash. -/
theorem rejoined_iff_words :
    parse " move \"1,2\"\tc:\\ " = .ok ["move", "1,2", "c:\\"] ∧ (∀ t ∈ ["move", "1,2", "c:\\"], IsWord t.toList) ∧
      parse (rejoined ["move", "1,2", "c:\\"]) = .ok ["move", "1,2", "c:\\"] := by
  have parses : parse " move \"1,2\"\tc:\\ " = .ok ["move", "1,2", "c:\\"] := by rfl
  have words : ∀ t ∈ ["move", "1,2", "c:\\"], IsWord t.toList := by decide
  exact ⟨parses, words, (rejoined_iff _ _ parses).mpr words⟩

/-- A token with a blank comes back as two. -/
example : parse (rejoined ["set", "a b", "3"]) = .ok ["set", "a", "b", "3"] := by rfl

end CommandConsole.Line
