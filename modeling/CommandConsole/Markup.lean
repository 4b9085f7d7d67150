/-
  CommandConsole.Markup — lightly marked-up text and its renderings.

  Five fixed tags switch bold and italics on and off and a color off;
  `<color=V>` switches a color on when `V`, up to the first `>`, is a color. Whatever
  is not a tag is literal text, a lone `<` too. `spans` reads a text into its tags and
  the literal text between them, `render` writes such a list, `toPlain` keeps the
  text and shows bold as an apostrophe, and `toAnsi` writes the terminal's escape
  sequences.

  At every `<` the scan asks for a tag. The literal text so far is held back until a
  tag or the end shows up, so two neighbours are never both text and text is never
  empty.
-/

import CommandConsole.Color
import CommandConsole.Number.Numeral

namespace CommandConsole.Markup

/-- One piece of marked-up text. -/
inductive Span where
  | text (t : List Char)
  | boldOn
  | boldOff
  | italicOn
  | italicOff
  | colorOn (c : Color)
  | colorOff
  deriving DecidableEq

/-! ## Tags -/

def fixedTags : List (List Char × Span) :=
  [("<b>".toList, .boldOn), ("</b>".toList, .boldOff), ("<i>".toList, .italicOn), ("</i>".toList, .italicOff),
    ("</color>".toList, .colorOff)]

def colorOpen : List Char := "<color=".toList

/-- The color tag at the front, with what follows it. -/
def colorTag? (s : List Char) : Option (Span × List Char) :=
  if colorOpen.isPrefixOf s then
    let body := s.drop colorOpen.length
    match body.dropWhile (· != '>') with
    | _ :: after => (Color.ofText (body.takeWhile (· != '>'))).map fun c => (.colorOn c, after)
    | [] => none
  else none

/-- The tag at the front, with what follows it. -/
def tag? (s : List Char) : Option (Span × List Char) :=
  match fixedTags.find? fun (t, _) => t.isPrefixOf s with
  | some (t, span) => some (span, s.drop t.length)
  | none => colorTag? s

theorem tag_pos : ∀ t ∈ fixedTags, 0 < t.1.length := by decide

/-- A tag takes at least one character. -/
theorem tag_shortens {s rest : List Char} {span : Span} (h : tag? s = some (span, rest)) :
    rest.length < s.length := by
  unfold tag? at h
  split at h
  · rename_i t sp hf
    have hp := List.find?_some hf
    have hm := tag_pos _ (List.mem_of_find?_eq_some hf)
    have hl : t.length ≤ s.length := List.IsPrefix.length_le (List.isPrefixOf_iff_prefix.mp hp)
    simp only [Option.some.injEq, Prod.mk.injEq] at h
    rw [← h.2, List.length_drop]
    simp only at hm
    omega
  · unfold colorTag? at h
    split at h
    · rename_i hp
      have hl : colorOpen.length ≤ s.length := List.IsPrefix.length_le (List.isPrefixOf_iff_prefix.mp hp)
      simp only at h
      split at h
      · rename_i after he
        have hd := (List.dropWhile_suffix (l := s.drop colorOpen.length) (· != '>')).length_le
        rw [he, List.length_drop] at hd
        simp only [List.length_cons] at hd
        cases hc : Color.ofText ((s.drop colorOpen.length).takeWhile (· != '>')) with
        | none => rw [hc] at h; cases h
        | some c =>
          rw [hc] at h
          simp only [Option.map_some, Option.some.injEq, Prod.mk.injEq] at h
          rw [← h.2]
          omega
      · cases h
    · cases h

/-! ## Reading -/

/-- The text held back so far, if there is any. -/
def flush (held : List Char) : List Span := if held.isEmpty then [] else [.text held.reverse]

/-- The spans of the rest of a text, after the literal characters held back, the last
    one first. -/
def scan (held : List Char) : List Char → List Span
  | [] => flush held
  | c :: r =>
    if c = '<' then
      match _h : tag? (c :: r) with
      | some (span, rest) => flush held ++ span :: scan [] rest
      | none => scan (c :: held) r
    else scan (c :: held) r
  termination_by s => s.length
  decreasing_by
    · exact tag_shortens _h
    · simp
    · simp

def spans (text : String) : List Span := scan [] text.toList

/-! ## Writing -/

def Span.source : Span → List Char
  | .text t => t
  | .boldOn => "<b>".toList
  | .boldOff => "</b>".toList
  | .italicOn => "<i>".toList
  | .italicOff => "</i>".toList
  | .colorOn c => "<color=#".toList ++ c.hexChars ++ ['>']
  | .colorOff => "</color>".toList

/-- The spans as marked-up text. -/
def render (ss : List Span) : List Char := ss.flatMap Span.source

def Span.plain : Span → List Char
  | .text t => t
  | .boldOn | .boldOff => ['\'']
  | _ => []

def plainChars (s : List Char) : List Char := (scan [] s).flatMap Span.plain

/-- The text without its tags; bold is shown between apostrophes. -/
def toPlain (text : String) : String := String.ofList (plainChars text.toList)

def escape (parameters : String) : List Char := ('\x1b' :: '[' :: parameters.toList) ++ ['m']

def Span.ansi : Span → List Char
  | .text t => t
  | .boldOn => escape "1"
  | .boldOff => escape "22"
  | .italicOn => escape "3"
  | .italicOff => escape "23"
  | .colorOn c =>
    escape ("38;2;" ++ Number.decimal c.r.toNat ++ ";" ++ Number.decimal c.g.toNat ++ ";" ++
      Number.decimal c.b.toNat)
  | .colorOff => escape "39"

/-- The text with its tags as escape sequences of a terminal. -/
def toAnsi (text : String) : String := String.ofList ((spans text).flatMap Span.ansi)

end CommandConsole.Markup
