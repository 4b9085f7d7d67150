/-
  CommandConsole.Proofs.Scanner — cutting a line into tokens, read as one pass.

  `Line.parse` works in passes: trim, mask the escaped quotes, cut at the quotes, tell
  the pieces apart by their place, cut into words, unmask. `scan` is the same language
  as a machine with two states that reads the line once from left to right.

  The way between them. `cut` is the machine on a masked text, where every quote
  delimits and no character is escaped: masking turns `scan` into `cut` (`scan_mask`).
  The pieces of a text are the stretches `cut` reads in one state (`cut_pieces`): what it
  has read of its token goes in front of the first piece, and the number of pieces tells
  in which state it ends. Blanks at the ends of the line do not show in what `scan`
  reads (`scan_blanks_append`, `scan_append_blanks`). Unmasking does not know which
  stand-ins masking has put there, so those of the line become quotes too
  (`tokens_eq_unmask_scan`).

  Proved: for a line without the stand-in character `parse` answers what the scanner
  reads (`parse_eq_scanned`): no input exactly for a blank line, an open quote exactly if
  a line that is not blank ends inside quotes, and else the scanned tokens, of which
  there is at least one.
-/

import CommandConsole.Line

namespace CommandConsole.Line

open Text (isBlank)

/-! ## The scanner -/

/-- Whether the scanner is inside quotes. -/
inductive Mode where
  | unquoted
  | quoted
  deriving DecidableEq

/-- A token that ends here, if there is any of it. -/
def ended (token : List Char) : List (List Char) := if token.isEmpty then [] else [token]

/-- The tokens of the rest of a line and the state at its end. `token` is what has been
    read of the current token; it is lost if its quote is not closed. -/
def scan : Mode → List Char → List Char → List (List Char) × Mode
  | mode, token, '\\' :: '"' :: r => scan mode (token ++ ['"']) r
  | .unquoted, token, c :: r =>
    if c = '"' then
      let (ts, last) := scan .quoted [] r
      (ended token ++ ts, last)
    else if isBlank c then
      let (ts, last) := scan .unquoted [] r
      (ended token ++ ts, last)
    else scan .unquoted (token ++ [c]) r
  | .quoted, token, c :: r =>
    if c = '"' then
      let (ts, last) := scan .unquoted [] r
      (token :: ts, last)
    else scan .quoted (token ++ [c]) r
  | .unquoted, token, [] => (ended token, .unquoted)
  | .quoted, _, [] => ([], .quoted)

/-- What the scanner makes of a line. -/
def scanned (raw : String) : Except Failure (List String) :=
  if Text.isBlankText raw then .error .emptyInput
  else
    match scan .unquoted [] raw.toList with
    | (_, .quoted) => .error .unterminatedQuote
    | (ts, .unquoted) => .ok (ts.map String.ofList)

/-! ## Words -/

theorem isBlank_standIn : isBlank standIn = false := by decide

theorem isBlank_quote : isBlank '"' = false := by decide

theorem isBlank_backslash : isBlank '\\' = false := by decide

/-- Characters that are not blank and then a blank one: a word, and the words after. -/
theorem words_append_blank {token : List Char} (solid : ∀ c ∈ token, isBlank c = false) {b : Char}
    (hb : isBlank b = true) (r : List Char) : Text.words (token ++ b :: r) = ended token ++ Text.words r := by
  induction token with
  | nil => simp [Text.words, hb, ended]
  | cons c token ih =>
    have hc := solid c List.mem_cons_self
    have ih := ih (fun d hd => solid d (List.mem_cons_of_mem c hd))
    cases token with
    | nil => simp [Text.words, hc, hb, ended]
    | cons d token =>
      have hd := solid d (by simp)
      rw [List.cons_append, Text.words, ih]
      simp [hc, hd, ended]

theorem words_solid {token : List Char} (solid : ∀ c ∈ token, isBlank c = false) : Text.words token = ended token := by
  induction token with
  | nil => rfl
  | cons c token ih =>
    have hc := solid c List.mem_cons_self
    have ih := ih (fun d hd => solid d (List.mem_cons_of_mem c hd))
    cases token with
    | nil => simp [Text.words, hc, ended]
    | cons d token =>
      have hd := solid d (by simp)
      rw [Text.words, ih]
      simp [hc, hd, ended]

/-! ## Masking -/

/-- The scanner of a masked text: every quote delimits. -/
def cut : Mode → List Char → List Char → List (List Char) × Mode
  | .unquoted, token, c :: r =>
    if c = '"' then
      let (ts, last) := cut .quoted [] r
      (ended token ++ ts, last)
    else if isBlank c then
      let (ts, last) := cut .unquoted [] r
      (ended token ++ ts, last)
    else cut .unquoted (token ++ [c]) r
  | .quoted, token, c :: r =>
    if c = '"' then
      let (ts, last) := cut .unquoted [] r
      (token :: ts, last)
    else cut .quoted (token ++ [c]) r
  | .unquoted, token, [] => (ended token, .unquoted)
  | .quoted, _, [] => ([], .quoted)

theorem unmask_append (s t : List Char) : unmask (s ++ t) = unmask s ++ unmask t := List.map_append

theorem ended_unmask (token : List Char) : ended (unmask token) = (ended token).map unmask := by
  cases token <;> simp [ended, unmask]

/-- The tokens unmasked, and the state. -/
def unmasked (r : List (List Char) × Mode) : List (List Char) × Mode := (r.1.map unmask, r.2)

theorem unmasked_append (ts : List (List Char)) (r : List (List Char) × Mode) :
    unmasked (ts ++ r.1, r.2) = (ts.map unmask ++ (unmasked r).1, (unmasked r).2) := by
  simp [unmasked]

theorem cut_standIn (mode : Mode) (token r : List Char) : cut mode token (standIn :: r) = cut mode (token ++ [standIn]) r := by
  have hq : standIn ≠ '"' := by decide
  cases mode <;> simp [cut, hq, isBlank_standIn]

/-- The scanner reads a line as `cut` reads the masked line, up to stand-ins in the tokens:
    those of the line itself cannot be told from those of masking. -/
theorem scan_mask (s : List Char) (mode : Mode) {token masked : List Char} (same : unmask token = unmask masked) :
    unmasked (scan mode token s) = unmasked (cut mode masked (mask s)) := by
  fun_induction mask s generalizing mode token masked with
  | case1 r ih =>
    have more : unmask (token ++ ['"']) = unmask (masked ++ [standIn]) := by
      rw [unmask_append, unmask_append, same]
      rfl
    rw [cut_standIn, ← ih mode more]
    cases mode <;> rw [scan]
  | case2 c r pair ih =>
    have more : unmask (token ++ [c]) = unmask (masked ++ [c]) := by rw [unmask_append, unmask_append, same]
    have fresh : ∀ mode, unmasked (scan mode [] r) = unmasked (cut mode [] (mask r)) := fun mode => ih mode rfl
    cases mode with
    | unquoted =>
      have past : (ended token).map unmask = (ended masked).map unmask := by rw [← ended_unmask, same, ended_unmask]
      rw [scan, cut]
      · split
        · rw [unmasked_append, unmasked_append, past, fresh]
        · split
          · rw [unmasked_append, unmasked_append, past, fresh]
          · exact ih _ more
      · exact pair
    | quoted =>
      have closed : [token].map unmask = [masked].map unmask := by rw [List.map_singleton, List.map_singleton, same]
      rw [scan, cut]
      · split
        · show unmasked ([token] ++ (scan .unquoted [] r).1, _) = unmasked ([masked] ++ (cut .unquoted [] (mask r)).1, _)
          rw [unmasked_append, unmasked_append, closed, fresh]
        · exact ih _ more
      · exact pair
  | case3 =>
    cases mode with
    | unquoted => simp [scan, cut, unmasked, ← ended_unmask, same]
    | quoted => rfl

/-! ## Pieces -/

/-- What was read from the first piece on agrees with the pieces: an even number of them
    leaves the last quote open, and else the tokens are those of the pieces. -/
def Agrees (quoted : Bool) (ps : List (List Char)) (r : List (List Char) × Mode) : Prop :=
  (r.2 = .quoted ↔ ps.length % 2 = if quoted then 1 else 0) ∧
    (r.2 = .unquoted → r.1.map unmask = ofPieces quoted ps)

theorem Agrees.quote (quoted : Bool) {p : List Char} {ps ts : List (List Char)} {r : List (List Char) × Mode}
    (hr : Agrees (!quoted) ps r) (hts : ts.map unmask = if quoted then [unmask p] else (Text.words p).map unmask) :
    Agrees quoted (p :: ps) (ts ++ r.1, r.2) := by
  obtain ⟨hm, ht⟩ := hr
  refine ⟨?_, fun hu => ?_⟩
  · rw [List.length_cons]
    cases quoted
    · simp only [hm, Bool.not_false, if_true, Bool.false_eq_true, if_false]; omega
    · simp only [hm, Bool.not_true, Bool.false_eq_true, if_false, if_true]; omega
  · rw [List.map_append, ht hu, hts, ofPieces]

/-- The pieces of a text are what `cut` reads in one state; what it has read of its token
    goes in front of the first. -/
theorem cut_pieces (s : List Char) : ∀ token p ps, Text.pieces '"' s = p :: ps →
    ((∀ c ∈ token, isBlank c = false) → Agrees false ((token ++ p) :: ps) (cut .unquoted token s)) ∧
      Agrees true ((token ++ p) :: ps) (cut .quoted token s) := by
  induction s with
  | nil =>
    intro token p ps e
    obtain ⟨rfl, rfl⟩ : p = [] ∧ ps = [] := by simpa [Text.pieces, eq_comm] using e
    refine ⟨fun solid => ?_, ?_⟩
    · simp [Agrees, cut, ofPieces, words_solid solid]
    · simp [Agrees, cut]
  | cons c r ih =>
    intro token p ps e
    obtain ⟨q, qs, eq⟩ := List.exists_cons_of_ne_nil (Text.pieces_ne_nil '"' r)
    by_cases hq : c = '"'
    · -- the token so far is the piece that ends here
      obtain ⟨rfl, rfl⟩ : p = [] ∧ ps = q :: qs := by simpa [Text.pieces, hq, eq, eq_comm] using e
      obtain ⟨hu, hd⟩ := ih [] q qs eq
      refine ⟨fun solid => ?_, ?_⟩
      · rw [cut, if_pos hq]
        exact Agrees.quote false hd (by simp [words_solid solid])
      · rw [cut, if_pos hq]
        have closed : [token].map unmask = [unmask (token ++ [])] := by simp
        exact Agrees.quote true (hu (by simp)) closed
    · obtain ⟨rfl, rfl⟩ : p = c :: q ∧ ps = qs := by simpa [Text.pieces, hq, eq, eq_comm] using e
      have more : token ++ c :: q = token ++ [c] ++ q := by simp
      refine ⟨fun solid => ?_, ?_⟩
      · rw [cut, if_neg hq]
        by_cases hb : isBlank c = true
        · obtain ⟨hm, ht⟩ := (ih [] q ps eq).1 (by simp)
          rw [if_pos hb]
          refine ⟨hm, fun hl => ?_⟩
          simp only [List.map_append, ht hl, ofPieces, Bool.false_eq_true, if_false, words_append_blank solid hb,
            List.nil_append, List.append_assoc]
        · rw [if_neg hb, more]
          apply (ih (token ++ [c]) q ps eq).1
          intro d hd
          rcases List.mem_append.mp hd with hd | hd
          · exact solid d hd
          · rw [List.mem_singleton.mp hd]; simpa using hb
      · rw [cut, if_neg hq, more]
        exact (ih (token ++ [c]) q ps eq).2

/-! ## Blanks at the ends -/

theorem scan_blanks {bs : List Char} (hbs : ∀ b ∈ bs, isBlank b = true) (mode : Mode) (token : List Char) :
    scan mode token bs = scan mode token [] := by
  induction bs generalizing mode token with
  | nil => rfl
  | cons b bs ih =>
    have hb := hbs b List.mem_cons_self
    have ih := ih (fun d hd => hbs d (List.mem_cons_of_mem b hd))
    have hq : b ≠ '"' := by rintro rfl; rw [isBlank_quote] at hb; cases hb
    have he : b ≠ '\\' := by rintro rfl; rw [isBlank_backslash] at hb; cases hb
    cases mode with
    | unquoted =>
      rw [scan, if_neg hq, if_pos hb, ih]
      · simp [scan, ended]
      · intro r h; exact absurd h he
    | quoted =>
      rw [scan, if_neg hq, ih]
      · rfl
      · intro r h; exact absurd h he

theorem scan_blanks_append {bs : List Char} (hbs : ∀ b ∈ bs, isBlank b = true) (s : List Char) :
    scan .unquoted [] (bs ++ s) = scan .unquoted [] s := by
  induction bs with
  | nil => rfl
  | cons b bs ih =>
    have hb := hbs b List.mem_cons_self
    have hq : b ≠ '"' := by rintro rfl; rw [isBlank_quote] at hb; cases hb
    have he : b ≠ '\\' := by rintro rfl; rw [isBlank_backslash] at hb; cases hb
    rw [List.cons_append, scan, if_neg hq, if_pos hb, ih (fun d hd => hbs d (List.mem_cons_of_mem b hd))]
    · simp [ended]
    · intro r h; exact absurd h he

theorem scan_append_blanks {bs : List Char} (hbs : ∀ b ∈ bs, isBlank b = true) (mode : Mode) (token s : List Char) :
    scan mode token (s ++ bs) = scan mode token s := by
  have apart : ∀ {c : Char} {r : List Char}, (∀ t, c = '\\' → r = '"' :: t → False) →
      ∀ t, c = '\\' → r ++ bs = '"' :: t → False := by
    intro c r pair t hc ht
    cases r with
    | nil =>
      have := hbs '"' (by rw [List.nil_append] at ht; simp [ht])
      rw [isBlank_quote] at this
      cases this
    | cons d r => exact pair r hc (by simp at ht; simp [ht.1])
  fun_induction scan mode token s with
  | case1 mode token r ih => rw [List.cons_append, List.cons_append, scan, ih]
  | case2 token r ts last e pair ih =>
    rw [List.cons_append, scan, if_pos rfl, ih, e]
    exact apart pair
  | case3 token c r pair hq hb ts last e ih =>
    rw [List.cons_append, scan, if_neg hq, if_pos hb, ih, e]
    exact apart pair
  | case4 token c r pair hq hb ih =>
    rw [List.cons_append, scan, if_neg hq, if_neg hb, ih]
    exact apart pair
  | case5 token r ts last e pair ih =>
    rw [List.cons_append, scan, if_pos rfl, ih, e]
    exact apart pair
  | case6 token c r pair hq ih =>
    rw [List.cons_append, scan, if_neg hq, ih]
    exact apart pair
  | case7 token => exact scan_blanks hbs .unquoted token
  | case8 token => exact scan_blanks hbs .quoted token

/-! ## What is read is something -/

/-- A line that ends outside quotes has a token, if there is part of one already or it
    goes on with a character that is not blank. -/
theorem scan_ne_nil (mode : Mode) (token s : List Char) (last : (scan mode token s).2 = .unquoted)
    (some : mode = .quoted ∨ token ≠ [] ∨ ∃ c ∈ s, isBlank c = false) : (scan mode token s).1 ≠ [] := by
  fun_induction scan mode token s with
  | case1 mode token r ih => exact ih last (Or.inr (Or.inl (by simp)))
  | case2 token r ts last' e pair ih =>
    have := ih (by rw [e]; exact last) (Or.inl rfl)
    rw [e] at this
    simpa using fun _ => this
  | case3 token c r pair hq hb ts last' e ih =>
    by_cases ht : token = []
    · have more : ∃ d ∈ r, isBlank d = false := by
        obtain ⟨d, hd, hn⟩ := (some.resolve_left (by simp)).resolve_left (by simpa using ht)
        rcases List.mem_cons.mp hd with rfl | hd
        · rw [hb] at hn; cases hn
        · exact ⟨d, hd, hn⟩
      have := ih (by rw [e]; exact last) (Or.inr (Or.inr more))
      rw [e] at this
      simpa using fun _ => this
    · simp [ended, ht]
  | case4 token c r pair hq hb ih => exact ih last (Or.inr (Or.inl (by simp)))
  | case5 token r ts last' e pair ih => simp
  | case6 token c r pair hq ih => exact ih last (Or.inl rfl)
  | case7 token =>
    have ht : token ≠ [] := by simpa using some
    simp [ended, ht]
  | case8 token => cases last

/-! ## Parsing is scanning -/

theorem scan_trim (s : List Char) : scan .unquoted [] (Text.trimChars s) = scan .unquoted [] s := by
  obtain ⟨lead, trail, e, hl, ht⟩ := Text.trimChars_split s
  calc scan .unquoted [] (Text.trimChars s)
      = scan .unquoted [] (Text.trimChars s ++ trail) := (scan_append_blanks ht _ _ _).symm
    _ = scan .unquoted [] (lead ++ (Text.trimChars s ++ trail)) := (scan_blanks_append hl _).symm
    _ = scan .unquoted [] s := by rw [← e]

/-- The passes and the scanner agree, once the stand-ins are quotes. -/
theorem scan_agrees (s : List Char) : ∃ p ps, Text.pieces '"' (mask (Text.trimChars s)) = p :: ps ∧
    ((scan .unquoted [] s).2 = .quoted ↔ (p :: ps).length % 2 = 0) ∧
    ((scan .unquoted [] s).2 = .unquoted → (scan .unquoted [] s).1.map unmask = ofPieces false (p :: ps)) := by
  obtain ⟨p, ps, e⟩ := List.exists_cons_of_ne_nil (Text.pieces_ne_nil '"' (mask (Text.trimChars s)))
  have hs : unmasked (scan .unquoted [] s) = unmasked (cut .unquoted [] (mask (Text.trimChars s))) := by
    rw [← scan_trim]
    exact scan_mask _ .unquoted rfl
  obtain ⟨hts, hlast⟩ := Prod.mk.inj hs
  obtain ⟨hm, ht⟩ := (cut_pieces _ [] p ps e).1 (by simp)
  exact ⟨p, ps, e, by rw [hlast]; exact hm, by rw [hlast, hts]; exact ht⟩

/-- Any line is scanned, and then every stand-in becomes a quote. -/
theorem tokens_eq_unmask_scan (s : List Char) : tokens s =
    if s.all isBlank then .error .emptyInput
    else match scan .unquoted [] s with
      | (_, .quoted) => .error .unterminatedQuote
      | (ts, .unquoted) => .ok (ts.map unmask) := by
  obtain ⟨p, ps, e, hm, ht⟩ := scan_agrees s
  by_cases hb : Text.trimChars s = []
  · have hs : s.all isBlank = true := List.all_eq_true.mpr (Text.trimChars_eq_nil.mp hb)
    simp [tokens, hb, hs]
  · have hs : ¬ ∀ c ∈ s, isBlank c = true := fun h => hb (Text.trimChars_eq_nil.mpr h)
    have hall : s.all isBlank = false := by simpa using hs
    have solid : ∃ c ∈ s, isBlank c = false := by simpa using hs
    have hempty : (Text.trimChars s).isEmpty = false := by simpa using hb
    have found := scan_ne_nil .unquoted [] s
    simp only [tokens, hempty, e, hall, Bool.false_eq_true, if_false]
    rcases hr : scan .unquoted [] s with ⟨ts, last⟩
    rw [hr] at hm ht found
    cases last with
    | quoted => exact if_pos (hm.mp rfl)
    | unquoted =>
      have hodd : ¬ (p :: ps).length % 2 = 0 := fun h => by cases hm.mpr h
      have hts : ts ≠ [] := found rfl (Or.inr (Or.inr solid))
      rw [if_neg hodd, ← ht rfl]
      cases ts with
      | nil => exact absurd rfl hts
      | cons t ts => rfl

/-- Of a line that is cut, the scanner has read the tokens. -/
theorem tokens_scanned {s : List Char} {ts : List (List Char)} (ok : tokens s = .ok ts) :
    (scan .unquoted [] s).2 = .unquoted ∧ ts = (scan .unquoted [] s).1.map unmask := by
  rw [tokens_eq_unmask_scan] at ok
  split at ok
  · cases ok
  · rcases hr : scan .unquoted [] s with ⟨us, _ | _⟩
    · rw [hr] at ok
      exact ⟨rfl, (Except.ok.inj ok).symm⟩
    · rw [hr] at ok
      cases ok

/-- A line without the stand-in has no token with it. -/
theorem scan_plain {mode : Mode} {token s : List Char} (plain : standIn ∉ s) (clean : standIn ∉ token) :
    ∀ t ∈ (scan mode token s).1, standIn ∉ t := by
  have more : ∀ {token : List Char} {c : Char}, standIn ∉ token → standIn ≠ c → standIn ∉ token ++ [c] := by
    intro token c ht hc
    simp [ht, hc]
  have past : ∀ {token : List Char}, standIn ∉ token → ∀ t ∈ ended token, standIn ∉ t := by
    intro token ht t h
    unfold ended at h
    split at h
    · cases h
    · rwa [List.mem_singleton.mp h]
  have first : ∀ {c : Char} {r : List Char}, standIn ∉ c :: r → standIn ≠ c ∧ standIn ∉ r := by
    intro c r h
    simpa using h
  fun_induction scan mode token s with
  | case1 mode token r ih => exact ih (first (first plain).2).2 (more clean (by decide))
  | case2 token r ts last e pair ih =>
    rw [e] at ih
    intro t ht
    rcases List.mem_append.mp ht with ht | ht
    · exact past clean t ht
    · exact ih (first plain).2 List.not_mem_nil t ht
  | case3 token c r pair hq hb ts last e ih =>
    rw [e] at ih
    intro t ht
    rcases List.mem_append.mp ht with ht | ht
    · exact past clean t ht
    · exact ih (first plain).2 List.not_mem_nil t ht
  | case4 token c r pair hq hb ih => exact ih (first plain).2 (more clean (first plain).1)
  | case5 token r ts last e pair ih =>
    rw [e] at ih
    intro t ht
    rcases List.mem_cons.mp ht with rfl | ht
    · exact clean
    · exact ih (first plain).2 List.not_mem_nil t ht
  | case6 token c r pair hq ih => exact ih (first plain).2 (more clean (first plain).1)
  | case7 token => exact past clean
  | case8 token => simp

theorem unmask_eq_self {t : List Char} (plain : standIn ∉ t) : unmask t = t := by
  have same : ∀ c ∈ t, (if c = standIn then '"' else c) = c := by
    intro c hc
    refine if_neg ?_
    rintro rfl
    exact plain hc
  rw [unmask, List.map_congr_left same, List.map_id']

theorem standIn_notMem_unmask (p : List Char) : standIn ∉ unmask p := by
  have hq : standIn ≠ '"' := by decide
  intro h
  obtain ⟨c, -, e⟩ := List.mem_map.mp h
  split at e
  · exact hq e.symm
  · contradiction

theorem unmask_eq_self_iff {t : List Char} : unmask t = t ↔ standIn ∉ t :=
  ⟨fun same => same ▸ standIn_notMem_unmask t, unmask_eq_self⟩

theorem tokens_eq_scan {s : List Char} (plain : standIn ∉ s) : tokens s =
    if s.all isBlank then .error .emptyInput
    else match scan .unquoted [] s with
      | (_, .quoted) => .error .unterminatedQuote
      | (ts, .unquoted) => .ok ts := by
  have clean : ∀ t ∈ (scan .unquoted [] s).1, standIn ∉ t := scan_plain plain (by simp)
  have same : (scan .unquoted [] s).1.map unmask = (scan .unquoted [] s).1 := by
    rw [List.map_congr_left fun t ht => unmask_eq_self (clean t ht), List.map_id']
  rw [tokens_eq_unmask_scan]
  rcases hr : scan .unquoted [] s with ⟨ts, _ | _⟩
  · rw [hr] at same
    simp [same]
  · rfl

/-- The three ways in which scanning a line ends. -/
theorem scanned_cases (raw : String) :
    (Text.isBlankText raw = true ∧ scanned raw = .error .emptyInput) ∨
      (Text.isBlankText raw = false ∧ (scan .unquoted [] raw.toList).2 = .quoted ∧
        scanned raw = .error .unterminatedQuote) ∨
      (Text.isBlankText raw = false ∧ (scan .unquoted [] raw.toList).2 = .unquoted ∧
        scanned raw = .ok ((scan .unquoted [] raw.toList).1.map String.ofList)) := by
  unfold scanned
  cases hb : Text.isBlankText raw with
  | true => exact .inl ⟨rfl, rfl⟩
  | false =>
    rcases scan .unquoted [] raw.toList with ⟨ts, _ | _⟩
    · exact .inr (.inr ⟨rfl, rfl, rfl⟩)
    · exact .inr (.inl ⟨rfl, rfl, rfl⟩)

/-- Parsing a line without the stand-in character is scanning it: a blank line is no
    input, a line that is not blank and ends inside quotes has a quote left open, and any
    other line gives the scanned tokens, of which there is at least one. -/
theorem parse_eq_scanned (raw : String) (plain : standIn ∉ raw.toList) :
    parse raw = scanned raw ∧
      (parse raw = .error .emptyInput ↔ Text.isBlankText raw = true) ∧
      (parse raw = .error .unterminatedQuote ↔
        Text.isBlankText raw = false ∧ (scan .unquoted [] raw.toList).2 = .quoted) ∧
      (∀ ts, parse raw = .ok ts ↔ Text.isBlankText raw = false ∧
        (scan .unquoted [] raw.toList).2 = .unquoted ∧ ts = (scan .unquoted [] raw.toList).1.map String.ofList) ∧
      ∀ ts, parse raw = .ok ts → ts ≠ [] := by
  have e : parse raw = scanned raw := by
    unfold parse scanned Text.isBlankText
    rw [tokens_eq_scan plain]
    split
    · rfl
    · rcases scan .unquoted [] raw.toList with ⟨ts, _ | _⟩ <;> rfl
  refine ⟨e, ?_, ?_, fun ts => ?_, fun ts => parse_ne_nil⟩
  all_goals
    rw [e]
    rcases scanned_cases raw with ⟨blank, h⟩ | ⟨solid, last, h⟩ | ⟨solid, last, h⟩
  · simp [h, blank]
  · simp [h, solid]
  · simp [h, solid]
  · simp [h, blank]
  · simp [h, solid, last]
  · simp [h, solid, last]
  · simp [h, blank]
  · simp [h, solid, last]
  · simp [h, solid, last, eq_comm]

/-- An escaped quote inside a quoted span. -/
theorem parse_eq_scanned_escaped :
    standIn ∉ "say \"he said \\\"hi\\\"\" ".toList ∧
      parse "say \"he said \\\"hi\\\"\" " = .ok ["say", "he said \"hi\""] := by
  have plain : standIn ∉ "say \"he said \\\"hi\\\"\" ".toList := by decide
  exact ⟨plain, (parse_eq_scanned _ plain).1.trans rfl⟩

end CommandConsole.Line
