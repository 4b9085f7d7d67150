/-
  CommandConsole.Proofs.ColorReaders — one text, one color, whoever reads it.

  A color is read in three places. A setting is read as a hexadecimal form, and if it is none
  as a name. An argument is trimmed and read by its first character: as a form behind a `#`,
  as a name otherwise, and never as both. And a color tag takes what stands between
  `<color=` and the next `>`, whatever that is.

  The first two agree because forms begin with `#` and no name does (`ofText_hash`,
  `ofText_named`). The tag agrees because no color has a `>` in its text, so the tag that is
  read is the whole of it (`spans_colorTag_iff`): a text with a `>` is no color and makes no tag
  of the whole either.

  Proved (`readers_agree`), for every text: the conversion of one token to a color succeeds
  exactly if the trimmed text is a color, and with it; and a tag around the trimmed text is
  read as one color exactly if the text is that color.
-/

import CommandConsole.Conversion
import CommandConsole.Proofs.ColorText
import CommandConsole.Proofs.Spans

namespace CommandConsole

/-! ## By the first character -/

namespace Color

variable {s : List Char}

theorem ofHex_named (named : s.head? ≠ some '#') : ofHex s = none := by
  unfold ofHex
  split
  case h_5 => rfl
  all_goals exact absurd rfl named

theorem ofName_hash (r : List Char) : ofName ('#' :: r) = none := by
  have names : ∀ entry ∈ palette, entry.1.toList.head? ≠ some '#' := by decide
  have unknown : palette.find? (fun entry => entry.1.toList == ('#' :: r).map Char.toLower) = none := by
    rw [List.find?_eq_none]
    intro entry listed same
    have first := congrArg List.head? (eq_of_beq same)
    exact names entry listed first
  rw [ofName, unknown, Option.map_none]

theorem ofText_hash (r : List Char) : ofText ('#' :: r) = ofHex ('#' :: r) := by
  rw [ofText, ofName_hash]
  cases ofHex ('#' :: r) <;> rfl

theorem ofText_named (named : s.head? ≠ some '#') : ofText s = ofName s := by
  rw [ofText, ofHex_named named]
  rfl

end Color

/-- A token is a color if the trimmed text is one. -/
theorem Convert.toOption_readColor (token : String) :
    (readColor token).toOption = Color.ofText (Text.trimChars token.toList) := by
  unfold readColor
  dsimp only
  split
  · rename_i r front
    rw [front, Color.ofText_hash]
    cases Color.ofHex ('#' :: r) <;> rfl
  · rename_i named
    have named : (Text.trimChars token.toList).head? ≠ some '#' := by
      intro first
      obtain ⟨r, front⟩ := List.head?_eq_some_iff.mp first
      exact named r front
    rw [Color.ofText_named named]
    cases Color.ofName (Text.trimChars token.toList) <;> rfl

/-! ## In a tag -/

namespace Markup

theorem Tag.color_inv {t : List Char} {c : Color} (tag : Tag t (.colorOn c)) :
    ∃ v, t = "<color=".toList ++ (v ++ ['>']) ∧ Color.ofText v = some c := by
  cases tag with
  | fixed known => simp at known
  | color _ named => exact ⟨_, rfl, named⟩

/-- A text that is read as one tag is that tag. -/
theorem tag_of_scan {s : List Char} {span : Span} (alone : scan [] s = [span]) (tagged : ∀ t, span ≠ .text t) : Tag s span := by
  obtain ⟨ps, reads⟩ := exists_reads [] s
  have spans : ps.map Piece.span = [span] := reads.spans.trans alone
  obtain ⟨p, rfl, rfl⟩ := List.map_eq_singleton_iff.mp spans
  have whole : p.source = s := by simpa using reads.sources
  rcases reads.fits p List.mem_cons_self with ⟨isLiteral, -⟩ | tag
  · exact absurd isLiteral (tagged _)
  · rwa [whole] at tag

/-- A text in a color tag is read as a color exactly if it is one. -/
theorem spans_colorTag_iff (v : String) (c : Color) :
    spans ("<color=" ++ v ++ ">") = [.colorOn c] ↔ Color.ofText v.toList = some c := by
  have closing : ">".toList = ['>'] := by decide
  have whole : ("<color=" ++ v ++ ">").toList = "<color=".toList ++ (v.toList ++ ['>']) := by
    rw [String.toList_append, String.toList_append, closing, List.append_assoc]
  rw [spans, whole]
  constructor
  · intro alone
    obtain ⟨w, same, named⟩ := (tag_of_scan alone fun _ => Span.noConfusion).color_inv
    have same : v.toList = w := List.append_cancel_right (List.append_cancel_left same)
    rwa [same]
  · intro named
    have closed : '>' ∉ v.toList := fun closes => absurd (Color.ofText_letters named '>' closes) (by decide)
    have front := (Tag.color closed named).recognised []
    rw [List.append_nil] at front
    exact (scan_tag front []).trans (by rw [scan]; rfl)

end Markup

/-! ## All readers -/

/-- There is one overload that converts one token to a color. It succeeds exactly if the
    trimmed token is a color, with that color, and so does a color tag around it. -/
theorem readers_agree (h : Host) : ∃ o, (Convert.color : List (Overload h .color)).filter (·.arity == 1) = [o] ∧
    ∀ (state : h.State) (s : String),
      (o.run state [s]).toOption = Color.ofText (Text.trim s).toList ∧
      ∀ c, Markup.spans ("<color=" ++ Text.trim s ++ ">") = [.colorOn c] ↔ Color.ofText (Text.trim s).toList = some c := by
  refine ⟨Convert.single fun _ => Convert.readColor, rfl, fun state s => ⟨?_, Markup.spans_colorTag_iff (Text.trim s)⟩⟩
  rw [Text.trim, String.toList_ofList, ← Convert.toOption_readColor]
  rfl

/-- Only blanks around the token are overlooked, not those in the tag. -/
example : (Convert.readColor " Red\t").toOption = some Color.red ∧
    Markup.spans "<color=Red>" = [.colorOn Color.red] ∧ Markup.spans "<color= Red>" = [.text "<color= Red>".toList] := by
  decide +kernel

end CommandConsole
