/-
  CommandConsole.Proofs.Framing — lines do not depend on how their bytes arrive.

  `readLine` takes a bounded number of bytes, drops a line end from them, looks at the
  length and then may have to throw the rest of the line away. Here its answers are
  compared with the pieces of the whole stream between line feeds, in which neither a
  chunk nor a bound occurs. What a piece says is a relation of its own (`Says`): one
  carriage return at the end does not count, and its text is told by `Decodes` and
  `Trims`.

  One call is looked at by where the first line feed of the stream stands. If it is in
  reach, the call takes the piece before it and the line feed (`takeLine_terminated`).
  If it is not, the call takes as many bytes as it may (`takeLine_open`), and that is
  enough to know that the line is too long unless the stream ends; what follows up to
  the line feed is then thrown away (`discardLine_terminated`, `discardLine_open`). In
  each case a call uses up one piece and its line feed and nothing of the next.

  The reader's helpers say the same of a piece (`classify`, `says_iff`).

  Proved: reading until the end of the stream gives one answer for each piece, in order,
  and each is what its piece alone says (`readAll_eq_pieces`).
-/

import CommandConsole.Network.Framing
import CommandConsole.Proofs.Decoding
import Mathlib.Data.List.Forall2

namespace CommandConsole.Network

open Text.Utf8 (Byte Decodes Stray decodes_iff front stray_of_invalid)

variable {limit : Nat} {source : Chunks} {piece more : List Byte}

/-! ## Taking and throwing away -/

theorem flatten_unread (chunk : List Byte) (rest : Chunks) : (unread chunk rest).flatten = chunk ++ rest.flatten := by
  unfold unread
  split
  · rename_i empty
    rw [List.isEmpty_iff.mp empty, List.nil_append]
  · rw [List.flatten_cons]

theorem not_lineFeed (h : lineFeed ∉ piece) : ∀ b ∈ piece, (b != lineFeed) = true :=
  fun _ hb => bne_iff_ne.mpr (fun e => h (e ▸ hb))

theorem takeWhile_open (h : lineFeed ∉ piece) : piece.takeWhile (· != lineFeed) = piece := by
  rw [← List.append_nil piece, List.takeWhile_append_of_pos (not_lineFeed h), List.takeWhile_nil]

theorem takeWhile_terminated (h : lineFeed ∉ piece) (more : List Byte) :
    (piece ++ lineFeed :: more).takeWhile (· != lineFeed) = piece := by
  rw [List.takeWhile_append_of_pos (not_lineFeed h), List.takeWhile_cons_of_neg (by simp), List.append_nil]

theorem dropWhile_open (h : lineFeed ∉ piece) : piece.dropWhile (· != lineFeed) = [] := by
  rw [← List.append_nil piece, List.dropWhile_append_of_pos (not_lineFeed h), List.dropWhile_nil]

theorem dropWhile_terminated (h : lineFeed ∉ piece) (more : List Byte) :
    (piece ++ lineFeed :: more).dropWhile (· != lineFeed) = lineFeed :: more := by
  rw [List.dropWhile_append_of_pos (not_lineFeed h), List.dropWhile_cons_of_neg (by simp)]

/-- A line feed in a stream is in its first chunk, or all of that chunk comes before it. -/
theorem first_chunk {chunk rest : List Byte} (e : chunk ++ rest = piece ++ lineFeed :: more) :
    (∃ after, chunk = piece ++ lineFeed :: after ∧ more = after ++ rest) ∨
      ∃ piece', piece = chunk ++ piece' ∧ rest = piece' ++ lineFeed :: more := by
  rcases List.append_eq_append_iff.mp e with ⟨piece', hp, hr⟩ | ⟨tail, hc, ht⟩
  · exact .inr ⟨piece', hp, hr⟩
  · cases tail with
    | nil => exact .inr ⟨[], by rw [hc, List.append_nil, List.append_nil], by simpa using ht.symm⟩
    | cons b after =>
      obtain ⟨rfl, hm⟩ := List.cons.inj ht
      exact .inl ⟨after, hc, hm⟩

theorem takeLine_terminated (h : lineFeed ∉ piece) (e : source.flatten = piece ++ lineFeed :: more) (fits : piece.length < limit) :
    ∃ rest, takeLine limit source = (piece ++ [lineFeed], rest) ∧ rest.flatten = more := by
  induction source generalizing limit piece with
  | nil => simp at e
  | cons chunk rest ih =>
    rcases first_chunk (by simpa using e) with ⟨after, hc, hm⟩ | ⟨piece', hp, hr⟩
    · obtain ⟨n, hn⟩ : ∃ n, limit - piece.length = n + 1 := ⟨limit - piece.length - 1, by omega⟩
      have reach : chunk.take limit = piece ++ lineFeed :: after.take n := by
        rw [hc, List.take_append, List.take_of_length_le (by omega), hn, List.take_succ_cons]
      have gone : chunk.drop (piece.length + 1) = after := by rw [hc]; simp
      refine ⟨unread after rest, ?_, by rw [flatten_unread, hm]⟩
      rw [takeLine]
      simp only [reach, takeWhile_terminated h, gone]
      rw [if_pos (by simp)]
    · have hc : lineFeed ∉ chunk := fun hb => h (hp ▸ List.mem_append_left _ hb)
      have hp' : lineFeed ∉ piece' := fun hb => h (hp ▸ List.mem_append_right _ hb)
      have hlen : piece.length = chunk.length + piece'.length := by rw [hp, List.length_append]
      have reach : chunk.take limit = chunk := List.take_of_length_le (by omega)
      obtain ⟨rest', hrest, hmore⟩ := ih hp' hr (show piece'.length < limit - chunk.length by omega)
      refine ⟨rest', ?_, hmore⟩
      rw [takeLine]
      simp only [reach, takeWhile_open hc, hrest]
      rw [if_neg (by omega), if_neg (by omega), hp, List.append_assoc]

theorem takeLine_open (h : lineFeed ∉ source.flatten.take limit) :
    ∃ rest, takeLine limit source = (source.flatten.take limit, rest) ∧ rest.flatten = source.flatten.drop limit := by
  induction source generalizing limit with
  | nil => exact ⟨[], by simp [takeLine], by simp⟩
  | cons chunk rest ih =>
    rw [List.flatten_cons, List.take_append] at h
    have hc : lineFeed ∉ chunk.take limit := fun hb => h (List.mem_append_left _ hb)
    rw [takeLine, List.flatten_cons, List.take_append, List.drop_append]
    simp only [takeWhile_open hc]
    rw [if_neg (by omega)]
    by_cases hl : limit ≤ chunk.length
    · have : limit - chunk.length = 0 := by omega
      refine ⟨unread (chunk.drop limit) rest, ?_, ?_⟩
      · rw [if_pos hl, this, List.take_zero, List.append_nil]
      · rw [flatten_unread, this, List.drop_zero]
    · have hr : lineFeed ∉ rest.flatten.take (limit - chunk.length) := fun hb => h (List.mem_append_right _ hb)
      obtain ⟨rest', hrest, hmore⟩ := ih hr
      refine ⟨rest', ?_, ?_⟩
      · have all : chunk.take limit = chunk := List.take_of_length_le (by omega)
        rw [if_neg hl, hrest, all]
      · have none_left : chunk.drop limit = [] := List.drop_of_length_le (by omega)
        rw [hmore, none_left, List.nil_append]

theorem discardLine_terminated (h : lineFeed ∉ piece) (e : source.flatten = piece ++ lineFeed :: more) :
    (discardLine source).flatten = more := by
  induction source generalizing piece with
  | nil => simp at e
  | cons chunk rest ih =>
    rcases first_chunk (by simpa using e) with ⟨after, hc, hm⟩ | ⟨piece', hp, hr⟩
    · simp only [discardLine, hc, dropWhile_terminated h]
      rw [flatten_unread, hm]
    · have hc : lineFeed ∉ chunk := fun hb => h (hp ▸ List.mem_append_left _ hb)
      have hp' : lineFeed ∉ piece' := fun hb => h (hp ▸ List.mem_append_right _ hb)
      simp only [discardLine, dropWhile_open hc]
      exact ih hp' hr

theorem discardLine_open (h : lineFeed ∉ source.flatten) : (discardLine source).flatten = [] := by
  induction source with
  | nil => rfl
  | cons chunk rest ih =>
    rw [List.flatten_cons] at h
    have hc : lineFeed ∉ chunk := fun hb => h (List.mem_append_left _ hb)
    simp only [discardLine, dropWhile_open hc]
    exact ih (fun hb => h (List.mem_append_right _ hb))

/-! ## One call -/

theorem dropLastIf_append (b : Byte) (bytes : List Byte) : dropLastIf b (bytes ++ [b]) = bytes := by
  rw [dropLastIf, List.getLast?_concat, if_pos rfl, List.dropLast_concat]

theorem dropLastIf_open (h : lineFeed ∉ piece) : dropLastIf lineFeed piece = piece := by
  rw [dropLastIf, if_neg]
  exact fun e => h (List.mem_of_getLast? e)

theorem length_dropLastIf (b : Byte) (bytes : List Byte) : bytes.length ≤ (dropLastIf b bytes).length + 1 := by
  unfold dropLastIf
  split
  · rw [List.length_dropLast]
    omega
  · omega

theorem decodeLossy_return : Text.Utf8.decodeLossy [carriageReturn] = ['\r'] := by
  have h : Text.Utf8.front carriageReturn [] = .char '\r' 0 := by decide
  rw [Text.Utf8.decodeLossy, h]
  simp [Text.Utf8.decodeLossy]

/-- A carriage return at its end does not show in the text of a line. -/
theorem decodeLine_dropLastIf (bytes : List Byte) : decodeLine (dropLastIf carriageReturn bytes) = decodeLine bytes := by
  unfold dropLastIf
  split
  · rename_i h
    obtain ⟨body, rfl⟩ := List.getLast?_eq_some_iff.mp h
    have blank : ∀ c ∈ ['\r'], Text.isBlank c = true := by
      intro c hc
      rw [List.mem_singleton.mp hc]
      decide
    rw [List.dropLast_concat, decodeLine, decodeLine, Text.Utf8.decodeLossy_append body (by decide), decodeLossy_return,
      Text.trimChars_append_blanks blank]
  · rfl

/-- What a line says: nothing but its length if it is longer than `limit` without its
    carriage return, and else its text. -/
def classify (limit : Nat) (piece : List Byte) : Incoming :=
  if limit < (dropLastIf carriageReturn piece).length then .tooLong else .line (decodeLine piece)

theorem classify_long (h : limit + 2 ≤ piece.length) : classify limit piece = .tooLong := by
  have := length_dropLastIf carriageReturn piece
  rw [classify, if_pos (by omega)]

theorem readLine_taken_terminated {rest : Chunks} (htake : takeLine (limit + 2) source = (piece ++ [lineFeed], rest)) :
    readLine limit source = some (classify limit piece, rest) := by
  have nonempty : (piece ++ [lineFeed]).isEmpty = false := by simp
  simp only [readLine, htake, nonempty, dropLastIf_append, List.getLast?_concat, decodeLine_dropLastIf, classify, Bool.false_eq_true,
    if_false, if_true]
  split <;> rfl

theorem readLine_taken_open {taken : List Byte} {rest : Chunks} (htake : takeLine (limit + 2) source = (taken, rest))
    (h : lineFeed ∉ taken) (nonempty : taken ≠ []) : readLine limit source = some (classify limit taken,
      if limit < (dropLastIf carriageReturn taken).length then discardLine rest else rest) := by
  have nonempty' : taken.isEmpty = false := by simpa using nonempty
  have unterminated : taken.getLast? ≠ some lineFeed := fun e => h (List.mem_of_getLast? e)
  simp only [readLine, htake, nonempty', dropLastIf_open h, unterminated, decodeLine_dropLastIf, classify, Bool.false_eq_true,
    if_false]
  split <;> rfl

/-- A call that has a line feed ahead answers for the piece before it, and both are gone. -/
theorem readLine_terminated (limit : Nat) (h : lineFeed ∉ piece) (e : source.flatten = piece ++ lineFeed :: more) :
    ∃ rest, readLine limit source = some (classify limit piece, rest) ∧ rest.flatten = more := by
  by_cases fits : piece.length < limit + 2
  · obtain ⟨rest, htake, hrest⟩ := takeLine_terminated h e fits
    exact ⟨rest, readLine_taken_terminated htake, hrest⟩
  · -- The line feed is out of reach: what has been taken is too long, and the rest of the piece goes with it.
    have reach : source.flatten.take (limit + 2) = piece.take (limit + 2) := by
      rw [e, List.take_append_of_le_length (by omega)]
    have left : source.flatten.drop (limit + 2) = piece.drop (limit + 2) ++ lineFeed :: more := by
      rw [e, List.drop_append_of_le_length (by omega)]
    have hreach : lineFeed ∉ piece.take (limit + 2) := fun hb => h (List.mem_of_mem_take hb)
    have length : (piece.take (limit + 2)).length = limit + 2 := by rw [List.length_take]; omega
    have long := length_dropLastIf carriageReturn (piece.take (limit + 2))
    obtain ⟨rest, htake, hrest⟩ := takeLine_open (reach ▸ hreach)
    refine ⟨discardLine rest, ?_, discardLine_terminated (fun hb => h (List.mem_of_mem_drop hb)) (hrest.trans left)⟩
    rw [readLine_taken_open (reach ▸ htake) hreach (List.ne_nil_of_length_pos (by omega)), if_pos (by omega),
      classify_long (by omega), classify_long (by omega)]

/-- A call on bytes without a line feed answers for all of them. -/
theorem readLine_last (limit : Nat) (h : lineFeed ∉ source.flatten) (nonempty : source.flatten ≠ []) :
    ∃ rest, readLine limit source = some (classify limit source.flatten, rest) ∧ rest.flatten = [] := by
  have hreach : lineFeed ∉ source.flatten.take (limit + 2) := fun hb => h (List.mem_of_mem_take hb)
  obtain ⟨rest, htake, hrest⟩ := takeLine_open hreach
  have hleft : lineFeed ∉ rest.flatten := fun hb => h (List.mem_of_mem_drop (hrest ▸ hb))
  have hread := readLine_taken_open htake hreach (by simpa using nonempty)
  by_cases fits : source.flatten.length ≤ limit + 2
  · rw [List.take_of_length_le fits] at hread
    rw [List.drop_of_length_le fits] at hrest
    refine ⟨_, hread, ?_⟩
    split
    · exact discardLine_open hleft
    · exact hrest
  · have length : (source.flatten.take (limit + 2)).length = limit + 2 := by rw [List.length_take]; omega
    have long := length_dropLastIf carriageReturn (source.flatten.take (limit + 2))
    refine ⟨discardLine rest, ?_, discardLine_open hleft⟩
    rw [hread, if_pos (by omega), classify_long (by omega), classify_long (by omega)]

theorem readLine_end (limit : Nat) (e : source.flatten = []) : readLine limit source = none := by
  have h : lineFeed ∉ source.flatten.take (limit + 2) := by simp [e]
  obtain ⟨rest, htake, -⟩ := takeLine_open h
  simp [readLine, htake, e]

/-- The bytes before a call and after it differ by one piece and its line feed, or by a
    last piece that has none. -/
def UsesUp (piece before after : List Byte) : Prop :=
  10 ∉ piece ∧ (before = piece ++ 10 :: after ∨ (before = piece ∧ piece ≠ [] ∧ after = []))

theorem UsesUp.shortens {before after : List Byte} (h : UsesUp piece before after) : after.length < before.length := by
  obtain ⟨-, rfl | ⟨rfl, nonempty, rfl⟩⟩ := h
  · rw [List.length_append, List.length_cons]
    omega
  · exact List.length_pos_iff.mpr nonempty

/-- A call at the end of the stream answers nothing; any other one uses up a piece and
    answers for it. -/
theorem readLine_cases (limit : Nat) (source : Chunks) : (source.flatten = [] ∧ readLine limit source = none) ∨
    ∃ piece rest, readLine limit source = some (classify limit piece, rest) ∧ UsesUp piece source.flatten rest.flatten := by
  by_cases e : source.flatten = []
  · exact .inl ⟨e, readLine_end limit e⟩
  · by_cases h : lineFeed ∈ source.flatten
    · obtain ⟨piece, more, e, h⟩ := List.eq_append_cons_of_mem h
      obtain ⟨rest, hread, hrest⟩ := readLine_terminated limit h e
      exact .inr ⟨piece, rest, hread, h, .inl (hrest.symm ▸ e)⟩
    · obtain ⟨rest, hread, hrest⟩ := readLine_last limit h e
      exact .inr ⟨source.flatten, rest, hread, h, .inr ⟨rfl, e, hrest⟩⟩

theorem readLine_eq_none_iff : readLine limit source = none ↔ source.flatten = [] := by
  refine ⟨fun h => ?_, readLine_end limit⟩
  rcases readLine_cases limit source with ⟨e, -⟩ | ⟨piece, rest, hread, -⟩
  · exact e
  · rw [hread] at h
    cases h

theorem readLine_usesUp {got : Incoming} {rest : Chunks} (h : readLine limit source = some (got, rest)) :
    ∃ piece, got = classify limit piece ∧ UsesUp piece source.flatten rest.flatten := by
  rcases readLine_cases limit source with ⟨-, hread⟩ | ⟨piece, rest', hread, used⟩
  · rw [hread] at h
    cases h
  · rw [hread] at h
    cases h
    exact ⟨piece, rfl, used⟩

/-! ## The whole stream -/

/-- Read lines until the end of the stream. -/
def readAll (limit : Nat) (source : Chunks) : List Incoming :=
  match _h : readLine limit source with
  | none => []
  | some (got, rest) => got :: readAll limit rest
  termination_by source.flatten.length
  decreasing_by
    obtain ⟨piece, -, used⟩ := readLine_usesUp ‹readLine limit source = some (got, rest)›
    exact used.shortens

/-- The pieces of a stream between its line feeds; an empty last one is none. -/
def linePieces (bytes : List Byte) : List (List Byte) :=
  let pieces := bytes.splitOn 10
  if pieces.getLast? = some [] then pieces.dropLast else pieces

theorem linePieces_nil : linePieces [] = [] := rfl

theorem linePieces_terminated (h : 10 ∉ piece) (more : List Byte) :
    linePieces (piece ++ 10 :: more) = piece :: linePieces more := by
  obtain ⟨p, ps, e⟩ := List.exists_cons_of_ne_nil (List.splitOn_ne_nil 10 more)
  rw [linePieces, linePieces, List.splitOn_append_cons_self_of_not_mem h, e, List.getLast?_cons_cons]
  split
  · rw [List.dropLast_cons_cons]
  · rfl

theorem linePieces_last (h : 10 ∉ piece) (nonempty : piece ≠ []) : linePieces piece = [piece] := by
  rw [linePieces, List.splitOn_eq_singleton h, List.getLast?_singleton, if_neg]
  simpa using nonempty

theorem linePieces_usesUp {before after : List Byte} (h : UsesUp piece before after) :
    linePieces before = piece :: linePieces after := by
  obtain ⟨closed, rfl | ⟨rfl, nonempty, rfl⟩⟩ := h
  · exact linePieces_terminated closed after
  · rw [linePieces_last closed nonempty, linePieces_nil]

theorem readAll_eq_map (limit : Nat) (source : Chunks) : readAll limit source = (linePieces source.flatten).map (classify limit) := by
  fun_induction readAll limit source with
  | case1 source h => rw [readLine_eq_none_iff.mp h, linePieces_nil, List.map_nil]
  | case2 source got rest h ih =>
    obtain ⟨piece, rfl, used⟩ := readLine_usesUp h
    rw [ih, linePieces_usesUp used, List.map_cons]

/-! ## What a piece says -/

/-- `body` is the piece without the carriage return at its end, if it has one there. -/
def Bare (piece body : List Byte) : Prop := piece = body ++ [13] ∨ (piece = body ∧ piece.getLast? ≠ some 13)

/-- What a piece says: nothing but its length if that is above `limit`, and else its text. -/
inductive Says (limit : Nat) (piece : List Byte) : Incoming → Prop
  | tooLong {body : List Byte} (bare : Bare piece body) (long : limit < body.length) : Says limit piece .tooLong
  | line {body : List Byte} {chars text : List Char} (bare : Bare piece body) (fits : body.length ≤ limit)
    (decodes : Decodes piece chars) (trims : Text.Trims chars text) : Says limit piece (.line (String.ofList text))

theorem bare_iff {body : List Byte} : Bare piece body ↔ dropLastIf carriageReturn piece = body := by
  constructor
  · intro bare
    rcases bare with rfl | ⟨rfl, other⟩
    · exact dropLastIf_append carriageReturn body
    · exact if_neg other
  · intro h
    subst h
    by_cases last : piece.getLast? = some carriageReturn
    · obtain ⟨body, rfl⟩ := List.getLast?_eq_some_iff.mp last
      exact .inl (by rw [dropLastIf_append]; rfl)
    · exact .inr ⟨by rw [dropLastIf, if_neg last], last⟩

theorem says_iff {got : Incoming} : Says limit piece got ↔ got = classify limit piece := by
  constructor
  · intro said
    cases said with
    | tooLong bare long => rw [classify, bare_iff.mp bare, if_pos long]
    | line bare fits decodes trims =>
      rw [classify, bare_iff.mp bare, if_neg (by omega), decodeLine, decodes_iff.mp decodes, Text.trims_iff.mp trims]
  · intro h
    rw [h, classify]
    split
    · rename_i long
      exact .tooLong (bare_iff.mpr rfl) long
    · rename_i fits
      exact .line (bare_iff.mpr rfl) (by omega) (decodes_iff.mpr rfl) (Text.trims_iff.mpr rfl)

theorem forall₂_says_iff {pieces : List (List Byte)} {got : List Incoming} :
    List.Forall₂ (Says limit) pieces got ↔ pieces.map (classify limit) = got := by
  induction pieces generalizing got with
  | nil => rw [List.forall₂_nil_left_iff, List.map_nil, eq_comm]
  | cons piece pieces ih =>
    rw [List.forall₂_cons_left_iff, List.map_cons]
    constructor
    · intro all
      obtain ⟨first, others, said, behind, rfl⟩ := all
      rw [says_iff.mp said, ih.mp behind]
    · intro h
      exact ⟨_, _, says_iff.mpr rfl, ih.mpr rfl, h.symm⟩

/-- However its bytes arrive, a stream is read as its pieces between line feeds: one
    answer for each, in order, and it is what the piece alone says. A call answers nothing
    exactly at the end of the stream, and every other call uses up its piece and the line
    feed after it and leaves all the rest to the next. -/
theorem readAll_eq_pieces (limit : Nat) (source : Chunks) :
    (∀ got, readAll limit source = got ↔ List.Forall₂ (Says limit) (linePieces source.flatten) got) ∧
      (readLine limit source = none ↔ source.flatten = []) ∧
      ∀ got rest, readLine limit source = some (got, rest) →
        ∃ piece, Says limit piece got ∧ UsesUp piece source.flatten rest.flatten := by
  refine ⟨fun got => ?_, readLine_eq_none_iff, fun got rest h => ?_⟩
  · rw [readAll_eq_map, forall₂_says_iff]
  · obtain ⟨piece, said, used⟩ := readLine_usesUp h
    exact ⟨piece, says_iff.mpr said, used⟩

/-- Four bytes fit and five do not, whatever ends the line. Chunks may part a line end or
    a character. -/
theorem readAll_eq_pieces_at_limit :
    readAll 4 [[0x61, 0x62, 0x63, 0x64, 0x0D], [0x0A, 0x61, 0x62, 0x63, 0x64, 0x65, 0x0A, 0x61, 0x62, 0x63, 0x64, 0x65, 0x0D, 0x0A],
        [0x61, 0x62, 0x63, 0x64, 0x65, 0x66, 0x0A, 0x20, 0xC3], [0xA9, 0xFF, 0x0A, 0x0A, 0x61, 0x62, 0x63, 0x64, 0x0D]] =
      [.line "abcd", .tooLong, .tooLong, .tooLong, .line "é\uFFFD", .line "", .line "abcd"] := by
  have unreturned : ∀ {bytes : List Byte}, bytes.getLast? ≠ some 13 → Bare bytes bytes := fun other => .inr ⟨rfl, other⟩
  have returned : Bare [0x61, 0x62, 0x63, 0x64, 0x0D] [0x61, 0x62, 0x63, 0x64] := .inl rfl
  have too_long : Bare [0x61, 0x62, 0x63, 0x64, 0x65, 0x0D] [0x61, 0x62, 0x63, 0x64, 0x65] := .inl rfl
  have abcd : Decodes [0x61, 0x62, 0x63, 0x64, 0x0D] ['a', 'b', 'c', 'd', '\r'] :=
    .char 'a' (.char 'b' (.char 'c' (.char 'd' (.char '\r' .nil))))
  have stray : Stray [0xFF] [] := stray_of_invalid (show front 0xFF [] = .invalid 0 by decide)
  have accented : Decodes [0x20, 0xC3, 0xA9, 0xFF] [' ', 'é', '\uFFFD'] := .char ' ' (.char 'é' (.stray stray .nil))
  have fits : Says 4 [0x61, 0x62, 0x63, 0x64, 0x0D] (.line "abcd") := .line returned (by decide) abcd (Text.trims_iff.mpr (by decide))
  refine ((readAll_eq_pieces 4 _).1 _).mpr ?_
  refine .cons fits (.cons (.tooLong (unreturned (by decide)) (by decide)) (.cons (.tooLong too_long (by decide))
    (.cons (.tooLong (unreturned (by decide)) (by decide)) (.cons ?_ (.cons ?_ (.cons fits .nil))))))
  · exact .line (unreturned (by decide)) (by decide) accented (Text.trims_iff.mpr (by decide))
  · exact .line (unreturned (by decide)) (by decide) .nil (Text.trims_iff.mpr (by decide))

end CommandConsole.Network
