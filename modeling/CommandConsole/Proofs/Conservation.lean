/-
  CommandConsole.Proofs.Conservation — what becomes of the characters of a line.

  A character of a line goes into a token or is dropped, and which of the two can be told
  from the line alone, without cutting it: dropped are the blanks outside quotes, the quotes
  that delimit and the backslash in front of any other quote (`Dropped`). What is left,
  `kept`, stands one behind the other in the tokens.

  Between the two: `keep` reads the line once, with the state of the scanner. It leaves what
  the scanner puts into tokens (`flatten_scan`), and it drops a character exactly if
  `Dropped` says so of its place (`keep_eq_keptFrom`): its state tells whether the place is
  inside quotes, and it never stops between a backslash and the quote it escapes.

  There is one exception. The stand-in holds the place of an escaped quote while the line is
  cut, and it is a character like any other: one that was typed comes back as a quote.

  Proved (`characters_kept`): the tokens of a line, put together, are what is kept of it, with
  a quote for each stand-in; so they are just what is kept exactly if there is no stand-in in
  the line; and a quote that is kept has its backslash in front of it.
  `private_character_lost` is a line whose tokens have a quote that nobody typed.
-/

import CommandConsole.Proofs.Scanner

namespace CommandConsole.Line

open Text (isBlank)

/-! ## Places of a line -/

/-- A backslash stands here, and a quote behind it. -/
def Pair (s : List Char) (i : Nat) : Prop := s[i]? = some '\\' ∧ s[i + 1]? = some '"'

instance (s : List Char) (i : Nat) : Decidable (Pair s i) := inferInstanceAs (Decidable (_ ∧ _))

/-- A quote stands here, and no backslash before it. -/
def Delimits (s : List Char) (i : Nat) : Prop := s[i]? = some '"' ∧ ¬ (0 < i ∧ Pair s (i - 1))

instance (s : List Char) (i : Nat) : Decidable (Delimits s i) := inferInstanceAs (Decidable (_ ∧ _))

/-- A span has been opened before this place and not closed. -/
def Inside (s : List Char) (i : Nat) : Prop := (List.range i).countP (fun j => Delimits s j) % 2 = 1

instance (s : List Char) (i : Nat) : Decidable (Inside s i) := inferInstanceAs (Decidable (_ = _))

/-- The character of this place is in no token. -/
def Dropped (s : List Char) (i : Nat) : Prop := Delimits s i ∨ Pair s i ∨ s[i]?.any isBlank ∧ ¬ Inside s i

instance (s : List Char) (i : Nat) : Decidable (Dropped s i) := inferInstanceAs (Decidable (_ ∨ _))

def keptPlaces (s : List Char) : List Nat := (List.range s.length).filter fun i => ¬ Dropped s i

/-- The characters that are not dropped, in their order. -/
def kept (s : List Char) : List Char := (keptPlaces s).filterMap (s[·]?)

/-! ## Reading once -/

/-- What is left of the rest of a line. -/
def keep : Mode → List Char → List Char
  | mode, '\\' :: '"' :: r => '"' :: keep mode r
  | .unquoted, c :: r =>
    if c = '"' then keep .quoted r
    else if isBlank c then keep .unquoted r
    else c :: keep .unquoted r
  | .quoted, c :: r => if c = '"' then keep .unquoted r else c :: keep .quoted r
  | _, [] => []

theorem flatten_ended (token : List Char) : (ended token).flatten = token := by
  cases token <;> simp [ended]

/-- The tokens of a line that ends outside quotes, put together. -/
theorem flatten_scan {mode : Mode} {token s : List Char} (closed : (scan mode token s).2 = .unquoted) :
    (scan mode token s).1.flatten = token ++ keep mode s := by
  fun_induction scan mode token s with
  | case1 mode token r ih =>
    have ih := ih closed
    cases mode <;> simp [keep, ih]
  | case2 token r ts last e pair ih =>
    rw [e] at ih
    rw [List.flatten_append, flatten_ended, ih closed, keep, if_pos rfl, List.nil_append]
    exact pair
  | case3 token c r pair hq hb ts last e ih =>
    rw [e] at ih
    rw [List.flatten_append, flatten_ended, ih closed, keep, if_neg hq, if_pos hb, List.nil_append]
    exact pair
  | case4 token c r pair hq hb ih =>
    rw [ih closed, keep, if_neg hq, if_neg hb, List.append_assoc, List.singleton_append]
    exact pair
  | case5 token r ts last e pair ih =>
    rw [e] at ih
    rw [List.flatten_cons, ih closed, keep, if_pos rfl, List.nil_append]
    exact pair
  | case6 token c r pair hq ih =>
    rw [ih closed, keep, if_neg hq, List.append_assoc, List.singleton_append]
    exact pair
  | case7 token => rw [flatten_ended, keep, List.append_nil]
  | case8 token => cases closed

/-! ## What is dropped can be told from the place -/

/-- What is kept from a place on. -/
def keptFrom (s : List Char) (k : Nat) : List Char :=
  ((List.range' k (s.length - k)).filter fun i => ¬ Dropped s i).filterMap (s[·]?)

theorem keptFrom_zero (s : List Char) : keptFrom s 0 = kept s := by
  rw [keptFrom, kept, keptPlaces, List.range_eq_range', Nat.sub_zero]

theorem getElem?_of_drop {s r : List Char} {k : Nat} (hr : s.drop k = r) (i : Nat) : s[k + i]? = r[i]? := by
  rw [← hr, List.getElem?_drop]

theorem drop_succ {s r : List Char} {k : Nat} {c : Char} (hr : s.drop k = c :: r) : s.drop (k + 1) = r := by
  rw [← List.drop_drop, hr]
  rfl

theorem keptFrom_end {s : List Char} {k : Nat} (hr : s.drop k = []) : keptFrom s k = [] := by
  have past : s.length - k = 0 := by
    have := List.drop_eq_nil_iff.mp hr
    omega
  rw [keptFrom, past]
  rfl

theorem keptFrom_cons {s r : List Char} {k : Nat} {c : Char} (hr : s.drop k = c :: r) :
    keptFrom s k = if Dropped s k then keptFrom s (k + 1) else c :: keptFrom s (k + 1) := by
  have here : s[k]? = some c := getElem?_of_drop hr 0
  have size : s.length - k = s.length - (k + 1) + 1 := by
    have := congrArg List.length hr
    simp at this
    omega
  rw [keptFrom, size, List.range'_succ, keptFrom]
  by_cases gone : Dropped s k
  · simp [gone]
  · simp [gone, here]

theorem inside_succ (s : List Char) (k : Nat) : Inside s (k + 1) ↔ (Delimits s k ↔ ¬ Inside s k) := by
  unfold Inside
  rw [List.range_succ, List.countP_append, List.countP_singleton]
  by_cases delimits : Delimits s k
  · simp only [delimits, decide_true, if_true, true_iff]
    omega
  · simp only [delimits, decide_false, Bool.false_eq_true, if_false, false_iff]
    omega

/-- The reader stands at a place: its state tells whether it is inside quotes, and the quote
    it may stand at is not the second of a pair. -/
structure Stands (s : List Char) (k : Nat) (mode : Mode) : Prop where
  inside : Inside s k ↔ mode = .quoted
  apart : ¬ (0 < k ∧ Pair s (k - 1))

theorem stands_zero (s : List Char) : Stands s 0 .unquoted := ⟨by simp [Inside], by simp⟩

/-- Past a quote that delimits the state is the other one. -/
theorem Stands.quote {s r : List Char} {k : Nat} {mode next : Mode} (stands : Stands s k mode) (hr : s.drop k = '"' :: r)
    (other : next ≠ mode) : Dropped s k ∧ Stands s (k + 1) next := by
  have here : s[k]? = some '"' := getElem?_of_drop hr 0
  have delimits : Delimits s k := ⟨here, stands.apart⟩
  refine ⟨.inl delimits, ?_, ?_⟩
  · rw [inside_succ, stands.inside]
    cases mode <;> cases next <;> simp_all
  · rintro ⟨-, pair⟩
    have : s[k]? = some '\\' := pair.1
    simp_all

/-- Past what is no quote and starts no pair the state is the same, and it is dropped
    exactly as a blank outside quotes. -/
theorem Stands.other {s r : List Char} {k : Nat} {mode : Mode} {c : Char} (stands : Stands s k mode)
    (hr : s.drop k = c :: r) (solid : c ≠ '"') (alone : ∀ t, c = '\\' → r = '"' :: t → False) :
    (Dropped s k ↔ isBlank c = true ∧ mode = .unquoted) ∧ Stands s (k + 1) mode := by
  have here : s[k]? = some c := getElem?_of_drop hr 0
  have next : s[k + 1]? = r[0]? := getElem?_of_drop hr 1
  have escapes : ¬ Delimits s k := fun delimits => solid (by simpa [here] using delimits.1)
  have unpaired : ¬ Pair s k := by
    rintro ⟨first, second⟩
    rw [here] at first
    rw [next] at second
    cases r with
    | nil => cases second
    | cons d t => exact alone t (Option.some.inj first) (by rw [Option.some.inj second])
  refine ⟨?_, ?_, fun between => unpaired between.2⟩
  · rw [Dropped, stands.inside, here]
    cases mode <;> simp [escapes, unpaired]
  · rw [inside_succ, ← stands.inside]
    simp [escapes]

/-- A pair leaves its quote, in whichever state. -/
theorem Stands.pair {s r : List Char} {k : Nat} {mode : Mode} (stands : Stands s k mode)
    (hr : s.drop k = '\\' :: '"' :: r) : Dropped s k ∧ ¬ Dropped s (k + 1) ∧ Stands s (k + 2) mode := by
  have first : s[k]? = some '\\' := getElem?_of_drop hr 0
  have second : s[k + 1]? = some '"' := getElem?_of_drop hr 1
  have pair : Pair s k := ⟨first, second⟩
  have escapes : ¬ Delimits s k := by
    intro delimits
    have := delimits.1
    simp_all
  have escaped : ¬ Delimits s (k + 1) := fun delimits => delimits.2 ⟨by omega, pair⟩
  have ends : ¬ Pair s (k + 1) := by
    intro pair
    have := pair.1
    simp_all
  refine ⟨.inr (.inl pair), ?_, ?_, fun between => ends between.2⟩
  · simp [Dropped, escaped, ends, second, isBlank_quote]
  · rw [inside_succ, inside_succ, ← stands.inside]
    simp [escapes, escaped]

/-- Reading on from a place leaves what is kept from there on. -/
theorem keep_eq_keptFrom {s r : List Char} {k : Nat} {mode : Mode} (stands : Stands s k mode) (hr : s.drop k = r) :
    keep mode r = keptFrom s k := by
  fun_induction keep mode r generalizing k with
  | case1 mode r ih =>
    obtain ⟨first, second, after⟩ := stands.pair hr
    rw [keptFrom_cons hr, if_pos first, keptFrom_cons (drop_succ hr), if_neg second, ih after (drop_succ (drop_succ hr))]
  | case2 r pair ih =>
    obtain ⟨gone, after⟩ := stands.quote hr (by simp : Mode.quoted ≠ .unquoted)
    rw [keptFrom_cons hr, if_pos gone, ih after (drop_succ hr)]
  | case3 c r alone hq hb ih =>
    obtain ⟨dropped, after⟩ := stands.other hr hq alone
    rw [keptFrom_cons hr, if_pos (dropped.mpr ⟨hb, rfl⟩), ih after (drop_succ hr)]
  | case4 c r alone hq hb ih =>
    obtain ⟨dropped, after⟩ := stands.other hr hq alone
    rw [keptFrom_cons hr, if_neg fun gone => hb (dropped.mp gone).1, ih after (drop_succ hr)]
  | case5 r alone ih =>
    obtain ⟨gone, after⟩ := stands.quote hr (by simp : Mode.unquoted ≠ .quoted)
    rw [keptFrom_cons hr, if_pos gone, ih after (drop_succ hr)]
  | case6 c r alone hq ih =>
    obtain ⟨dropped, after⟩ := stands.other hr hq alone
    have stays : ¬ Dropped s k := fun gone => by cases (dropped.mp gone).2
    rw [keptFrom_cons hr, if_neg stays, ih after (drop_succ hr)]
  | case7 mode => rw [keptFrom_end hr]

theorem keep_eq_kept (s : List Char) : keep .unquoted s = kept s := by
  rw [← keptFrom_zero]
  exact keep_eq_keptFrom (stands_zero s) rfl

/-! ## Where the characters of the tokens come from -/

/-- The stand-in is never dropped. -/
theorem standIn_mem_keep (mode : Mode) (s : List Char) : standIn ∈ keep mode s ↔ standIn ∈ s := by
  have hq : standIn ≠ '"' := by decide
  have he : standIn ≠ '\\' := by decide
  fun_induction keep mode s with
  | case1 mode r ih => simp [hq, he, ih]
  | case2 r alone ih => simp [hq, ih]
  | case3 c r alone hc hb ih =>
    have solid : standIn ≠ c := by
      rintro rfl
      rw [isBlank_standIn] at hb
      cases hb
    simp [solid, ih]
  | case4 c r alone hc hb ih => simp [ih]
  | case5 r alone ih => simp [hq, ih]
  | case6 c r alone hc ih => simp [ih]
  | case7 mode => rfl

theorem getElem?_filterMap_of_isSome {α β : Type} {f : α → Option β} {l : List α} (all : ∀ a ∈ l, (f a).isSome = true) (n : Nat) :
    (l.filterMap f)[n]? = l[n]?.bind f := by
  induction l generalizing n with
  | nil => rfl
  | cons a l ih =>
    obtain ⟨b, hb⟩ := Option.isSome_iff_exists.mp (all a List.mem_cons_self)
    have ih := ih fun x hx => all x (List.mem_cons_of_mem a hx)
    rw [List.filterMap_cons_some hb]
    cases n with
    | zero => simp [hb]
    | succ n => simpa using ih n

/-- A character that is kept stands at a place that is. -/
theorem getElem?_kept (s : List Char) (n : Nat) : (kept s)[n]? = (keptPlaces s)[n]?.bind (s[·]?) := by
  refine getElem?_filterMap_of_isSome (fun i hi => ?_) n
  have inside : i < s.length := by simpa using (List.mem_filter.mp hi).1
  simp [inside]

/-- A quote that is kept has been escaped. -/
theorem quote_escaped {s : List Char} {i : Nat} (hi : i ∈ keptPlaces s) (quote : s[i]? = some '"') :
    0 < i ∧ Pair s (i - 1) := by
  have stays : ¬ Dropped s i := by simpa using (List.mem_filter.mp hi).2
  by_cases escaped : 0 < i ∧ Pair s (i - 1)
  · exact escaped
  · exact absurd (.inl ⟨quote, escaped⟩) stays

/-- What becomes a quote was one, or a stand-in. -/
theorem unmask_quote {s : List Char} {n : Nat} (quote : (unmask s)[n]? = some '"') : s[n]? = some standIn ∨ s[n]? = some '"' := by
  rw [unmask, List.getElem?_map, Option.map_eq_some_iff] at quote
  obtain ⟨c, hc, e⟩ := quote
  split at e
  · rename_i same
    exact .inl (same ▸ hc)
  · exact .inr (e ▸ hc)

theorem flatten_tokens {s : List Char} {ts : List (List Char)} (cut : tokens s = .ok ts) : ts.flatten = unmask (kept s) := by
  obtain ⟨closed, rfl⟩ := tokens_scanned cut
  rw [← keep_eq_kept, ← List.nil_append (keep _ s), ← flatten_scan closed, unmask, List.map_flatten]
  rfl

/-- The tokens of a line, put together, are what is kept of it, with a quote for each
    stand-in; just what is kept, exactly if there is no stand-in in the line. And a quote in
    them was the second of a pair, or a stand-in. -/
theorem characters_kept (raw : String) (ts : List String) (parses : parse raw = .ok ts) :
    (String.join ts).toList = unmask (kept raw.toList) ∧
      ((String.join ts).toList = kept raw.toList ↔ standIn ∉ raw.toList) ∧
      ∀ n : Nat, (String.join ts).toList[n]? = some '"' → ∃ i, (keptPlaces raw.toList)[n]? = some i ∧
        (raw.toList[i]? = some standIn ∨ 0 < i ∧ Pair raw.toList (i - 1)) := by
  have together : (String.join ts).toList = unmask (kept raw.toList) := by
    rw [String.toList_join, List.flatMap_def]
    exact flatten_tokens (parse_eq_ok_iff.mp parses)
  refine ⟨together, ?_, fun n quote => ?_⟩
  · rw [together, unmask_eq_self_iff, ← keep_eq_kept, standIn_mem_keep]
  · rw [together] at quote
    have stood := unmask_quote quote
    rw [getElem?_kept] at stood
    cases place : (keptPlaces raw.toList)[n]? with
    | none => simp [place] at stood
    | some i =>
      rw [place] at stood
      refine ⟨i, rfl, ?_⟩
      rcases stood with stood | stood
      · exact .inl stood
      · exact .inr (quote_escaped (List.mem_of_getElem? place) stood)

/-- Escaped quotes in a span, and blanks on either side of it. -/
theorem characters_kept_escaped :
    parse "say \"a \\\"b\\\"\"  c" = .ok ["say", "a \"b\"", "c"] ∧
      standIn ∉ "say \"a \\\"b\\\"\"  c".toList ∧
      kept "say \"a \\\"b\\\"\"  c".toList = "saya \"b\"c".toList := by
  have parses : parse "say \"a \\\"b\\\"\"  c" = .ok ["say", "a \"b\"", "c"] := by rfl
  have plain : standIn ∉ "say \"a \\\"b\\\"\"  c".toList := by decide
  obtain ⟨-, same, -⟩ := characters_kept _ _ parses
  exact ⟨parses, plain, (same.mpr plain).symm⟩

/-- A stand-in between quotes is a token of one quote, in a line without a backslash. -/
theorem private_character_lost :
    parse "say \"\uE000\"" = .ok ["say", "\""] ∧ kept "say \"\uE000\"".toList = "say\uE000".toList ∧
      (String.join ["say", "\""]).toList ≠ kept "say \"\uE000\"".toList ∧
      '\\' ∉ "say \"\uE000\"".toList := by
  refine ⟨by rfl, ?_, ?_, ?_⟩
  · decide
  · decide
  · decide

end CommandConsole.Line
