/-
  CommandConsole.Line — a command line and its tokens.

  The first token is the command's name, the others are its arguments. Blanks
  separate tokens; a span between double quotes is one token with its blanks, empty
  or not, and ends the token before it; a backslash and a quote stand for a quote
  inside a token.

  `tokens` works in passes. It trims the line and puts a stand-in character for every
  escaped quote, so that the quotes that are left all delimit. Cut at those, the
  pieces lie in turn outside and inside quotes, and an even number of pieces means
  that the last quote was not closed. The pieces outside are cut into words, and the
  stand-in becomes a quote in every token.
-/

import CommandConsole.Failure

namespace CommandConsole.Line

/-- Holds the place of an escaped quote while the line is cut; it is a private-use
    character. -/
def standIn : Char := Char.ofNat 0xE000

def mask : List Char → List Char
  | '\\' :: '"' :: r => standIn :: mask r
  | c :: r => c :: mask r
  | [] => []

def unmask (s : List Char) : List Char := s.map fun c => if c = standIn then '"' else c

/-- The tokens of pieces that lie in turn inside and outside quotes. -/
def ofPieces (quoted : Bool) : List (List Char) → List (List Char)
  | [] => []
  | p :: ps =>
    (if quoted then [unmask p] else (Text.words p).map unmask) ++ ofPieces (!quoted) ps

def tokens (raw : List Char) : Except Failure (List (List Char)) :=
  let trimmed := Text.trimChars raw
  if trimmed.isEmpty then .error .emptyInput
  else
    let pieces := Text.pieces '"' (mask trimmed)
    if pieces.length % 2 = 0 then .error .unterminatedQuote
    else
      match ofPieces false pieces with
      | [] => .error .emptyInput
      | ts => .ok ts

/-- The tokens of a line: the name of a command and its arguments. -/
def parse (raw : String) : Except Failure (List String) :=
  (tokens raw.toList).map (·.map String.ofList)

/-! ## What cutting can answer -/

theorem tokens_ne_nil {raw : List Char} {ts : List (List Char)} (h : tokens raw = .ok ts) : ts ≠ [] := by
  rintro rfl
  simp only [tokens] at h
  repeat' split at h
  all_goals simp_all

theorem tokens_error {raw : List Char} {f : Failure} (h : tokens raw = .error f) :
    f = .emptyInput ∨ f = .unterminatedQuote := by
  simp only [tokens] at h
  repeat' split at h
  all_goals simp_all

/-- A line with tokens is cut at its quotes into pieces of which the last lies outside them. -/
theorem tokens_ok {raw : List Char} {ts : List (List Char)} (h : tokens raw = .ok ts) :
    (Text.pieces '"' (mask (Text.trimChars raw))).length % 2 = 1 ∧
      ts = ofPieces false (Text.pieces '"' (mask (Text.trimChars raw))) := by
  simp only [tokens] at h
  repeat' split at h
  all_goals simp_all

theorem parse_eq_ok_iff {raw : String} {ts : List String} : parse raw = .ok ts ↔ tokens raw.toList = .ok (ts.map String.toList) := by
  have there : ∀ us : List (List Char), us.map String.ofList = ts ↔ us = ts.map String.toList := by
    intro us
    constructor
    · rintro rfl
      simp [Function.comp_def]
    · rintro rfl
      simp [Function.comp_def]
  unfold parse
  cases tokens raw.toList with
  | error f => simp [Except.map]
  | ok us => simp [Except.map, there]

theorem parse_ne_nil {raw : String} {ts : List String} (h : parse raw = .ok ts) : ts ≠ [] := by
  have some := tokens_ne_nil (parse_eq_ok_iff.mp h)
  simpa using some

theorem parse_error {raw : String} {f : Failure} (h : parse raw = .error f) :
    f = .emptyInput ∨ f = .unterminatedQuote := by
  unfold parse at h
  cases e : tokens raw.toList with
  | error g => rw [e] at h; cases h; exact tokens_error e
  | ok us => rw [e] at h; cases h

end CommandConsole.Line
