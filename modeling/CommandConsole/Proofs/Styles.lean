/-
  CommandConsole.Proofs.Styles — the two styles say the same thing.

  One operation of a command is written in two ways. A markup display gets tags around the
  text, a plain one gets the text without tags and a sigil where there would be a color. Text
  is a command's own and may hold tags, parts of tags and line breaks; the writer puts it
  between tags of its own as it stands. It could run into them.

  It does not. No tag has a `<` behind its first character (`outside_lt`), so text is closed
  off by any tag behind it, whatever it ends in (`toPlain_tagged`). No tag has a line break in it,
  so text is closed off by one as well. And a sigil has no `<`.

  Proved (`styles_agree`), for every operation that writes, every text and all colors: what a
  plain display gets is what is left of the markup without its tags; for an operation that
  writes a whole line the line is the same, behind a break in the markup, and between its
  sigil and a break on the plain display. This is about one call: two calls may write the
  halves of a tag.
-/

import CommandConsole.Network.Exchange
import CommandConsole.Proofs.Controls
import CommandConsole.Transport.Surface

namespace CommandConsole

/-! ## Text between tags -/

namespace Markup

theorem fixedTags_outside : ∀ t ∈ fixedTags, '<' ∉ t.1.tail := by decide

theorem outside_lt : Outside '<' := by
  intro t span tag opens
  cases tag with
  | fixed known => exact fixedTags_outside _ known opens
  | @color v c closed named =>
    have opening : '<' ∉ "color=".toList := by decide
    have whole : ("<color=".toList ++ (v ++ ['>'])).tail = "color=".toList ++ (v ++ ['>']) := rfl
    rw [whole] at opens
    simp only [List.mem_append, List.mem_singleton] at opens
    rcases opens with opens | opens | opens
    · exact opening opens
    · exact absurd (Color.ofText_letters named '<' opens) (by decide)
    · revert opens
      decide

/-- A tag closes off the text in front of it. -/
theorem plainChars_tagged {t : List Char} {span : Span} (tag : Tag t span) (s r : List Char) :
    plainChars (s ++ (t ++ r)) = plainChars s ++ (span.plain ++ plainChars r) := by
  have here := tag.recognised r
  obtain ⟨body, rfl, -⟩ := tag.shape
  rw [List.cons_append] at here ⊢
  rw [← plainChars_tag here]
  exact flatMap_append (fun _ => rfl) (outside_lt.apart s _)

theorem plainChars_unopened {u : List Char} (h : '<' ∉ u) (s : List Char) : plainChars (u ++ s) = u ++ plainChars s := by
  have held := scan_unopened h [] s
  rw [List.append_nil] at held
  rw [plainChars, held, flatMap_scan fun _ => rfl, List.reverse_reverse]
  rfl

theorem toPlain_tagged {t : String} {span : Span} (tag : Tag t.toList span) (s r : String) :
    toPlain (s ++ t ++ r) = toPlain s ++ String.ofList span.plain ++ toPlain r := by
  apply String.toList_injective
  simp [toPlain, plainChars_tagged tag]

theorem toPlain_empty : toPlain "" = "" := by
  apply String.toList_injective
  simp [toPlain, plainChars_nil]

/-- A mark without `<` stays what it is, and leaves the text behind it alone. -/
theorem toPlain_mark {mark : String} (h : '<' ∉ mark.toList) (text : String) : toPlain (mark ++ text) = mark ++ toPlain text := by
  apply String.toList_injective
  simp [toPlain, plainChars_unopened h]

/-- A line break closes off the text in front of it. -/
theorem toPlain_ended (text : String) : toPlain (text ++ "\n") = toPlain text ++ "\n" := by
  apply String.toList_injective
  simp [toPlain, plainChars_append (x := '\n') (by decide), plainChars_nil]

theorem toPlain_line {mark : String} (h : '<' ∉ mark.toList) (text : String) :
    toPlain (mark ++ text ++ "\n") = mark ++ toPlain text ++ "\n" := by
  rw [toPlain_ended, toPlain_mark h]

theorem toPlain_opened {t : String} {span : Span} (tag : Tag t.toList span) (text : String) :
    toPlain (t ++ text) = String.ofList span.plain ++ toPlain text := by
  have tagged := toPlain_tagged tag "" text
  rwa [String.empty_append, toPlain_empty, String.empty_append] at tagged

theorem toPlain_closed {t : String} {span : Span} (tag : Tag t.toList span) (text : String) :
    toPlain (text ++ t) = toPlain text ++ String.ofList span.plain := by
  have tagged := toPlain_tagged tag text ""
  rwa [String.append_empty, toPlain_empty, String.append_empty] at tagged

end Markup

open Markup (toPlain)

namespace Output

/-! ## What one operation writes -/

theorem colorTag_tag (c : Color) : Markup.Tag (colorTag c).toList (.colorOn (c.withAlpha 255)) := by
  have opening : "<color=#".toList = "<color=".toList ++ ['#'] := by decide
  have closing : ">".toList = ['>'] := by decide
  have digits : c.toHex.toList = c.hexChars := String.toList_ofList
  have written : (colorTag c).toList = "<color=".toList ++ (('#' :: c.hexChars) ++ ['>']) := by
    rw [colorTag, String.toList_append, String.toList_append, opening, closing, digits, List.append_assoc, List.append_assoc]
    rfl
  have hex := Color.ofText_hex c
  rw [written]
  refine .color (fun closes => ?_) hex
  exact absurd (Color.ofText_letters hex '>' closes) (by decide)

theorem toPlain_openColor (c : Color) (text : String) : toPlain (colorTag c ++ text) = toPlain text := by
  rw [Markup.toPlain_opened (colorTag_tag c)]
  exact String.empty_append

theorem toPlain_closeColor (text : String) : toPlain (text ++ "</color>") = toPlain text := by
  have tag : Markup.Tag "</color>".toList .colorOff := .fixed (by decide)
  rw [Markup.toPlain_closed tag]
  exact String.append_empty

theorem toPlain_inItalics (text : String) : toPlain (inItalics text) = toPlain text := by
  have opening : Markup.Tag "<i>".toList .italicOn := .fixed (by decide)
  have closing : Markup.Tag "</i>".toList .italicOff := .fixed (by decide)
  unfold inItalics
  rw [Markup.toPlain_closed closing, Markup.toPlain_opened opening]
  exact String.append_empty.trans String.empty_append

/-- The mark of a line on a plain display, for the operations that write a whole line. -/
def Op.lineMark : Op → Option String
  | .line _ | .lineBold _ | .lineItalic _ | .info _ => some ""
  | .error _ => some "#>>x"
  | .warning _ => some "#>>!"
  | .write _ | .bold _ | .italic _ | .openBold | .closeBold | .openColor _ | .closeColor | .nextLine | .clear => none

theorem written_single (style : Style) (colors : OutputColors) (op : Op) :
    written style colors [op] = String.join ((effects style colors op).map Effect.text) := by
  simp [written]

/-- The same line in both styles. -/
def SameLine (mark markup plain : String) : Prop :=
  ∃ body, toPlain markup = "\n" ++ body ∧ plain = mark ++ body ++ "\n"

theorem sameLine_put (text : String) : SameLine "" ("\n" ++ text) (toPlain (text ++ "\n")) := by
  refine ⟨toPlain text, Markup.toPlain_mark (by decide) text, ?_⟩
  rw [Markup.toPlain_ended, String.empty_append]

theorem sameLine_flagged (c : Color) {mark : String} (h : '<' ∉ mark.toList) (text : String) :
    SameLine mark (colorTag c ++ ("\n" ++ text ++ "</color>")) (toPlain (mark ++ text ++ "\n")) := by
  refine ⟨toPlain text, ?_, ?_⟩
  · rw [toPlain_openColor, toPlain_closeColor, Markup.toPlain_mark (by decide)]
  · rw [Markup.toPlain_line h]

/-- An operation of one append is put as the style wants it. -/
theorem written_put {style : Style} {colors : OutputColors} {op : Op} {text : String}
    (puts : effects style colors op = [put style text]) : written style colors [op] = (put style text).text := by
  rw [written_single, puts]
  simp

theorem written_error (colors : OutputColors) (text : String) :
    written .plain colors [.error text] = errorSigil ++ toPlain text ++ "\n" := by
  have puts : effects .plain colors (.error text) = [put .plain (errorSigil ++ text ++ "\n")] := rfl
  rw [written_put puts]
  exact Markup.toPlain_line (by decide) text

theorem written_lineItalic (colors : OutputColors) (text : String) :
    written .plain colors [.lineItalic text] = toPlain text ++ "\n" := by
  have puts : effects .plain colors (.lineItalic text) = [put .plain (inItalics text ++ "\n")] := rfl
  have rendered : toPlain (inItalics text ++ "\n") = toPlain text ++ "\n" := by
    rw [Markup.toPlain_ended, toPlain_inItalics]
  rw [written_put puts]
  exact rendered

theorem sameLine_of_putLine {op : Op} {text : String} (puts : ∀ style colors, effects style colors op = [putLine style text])
    (colors colors' : OutputColors) : SameLine "" (written .markup colors [op]) (written .plain colors' [op]) := by
  rw [written_put (puts .markup colors), written_put (puts .plain colors')]
  exact sameLine_put text

theorem sameLine_of_flagged {op : Op} {text mark : String} {c : Color} {colors colors' : OutputColors} (h : '<' ∉ mark.toList)
    (markup : effects .markup colors op = flagged .markup c mark text)
    (plain : effects .plain colors' op = [put .plain (mark ++ text ++ "\n")]) :
    SameLine mark (written .markup colors [op]) (written .plain colors' [op]) := by
  rw [written_put plain, written_single, markup]
  simpa [flagged, put, putLine, Effect.text] using sameLine_flagged c h text

theorem written_line (colors colors' : OutputColors) {op : Op} {mark : String} (line : op.lineMark = some mark) :
    SameLine mark (written .markup colors [op]) (written .plain colors' [op]) := by
  cases op with
  | line | lineBold | lineItalic =>
    cases line
    exact sameLine_of_putLine (fun _ _ => rfl) colors colors'
  | error | warning | info =>
    cases line
    exact sameLine_of_flagged (by decide) rfl rfl
  | write | bold | italic | openBold | closeBold | openColor | closeColor | nextLine | clear => cases line

theorem written_part (colors colors' : OutputColors) {op : Op} (part : op.lineMark = none) :
    written .plain colors' [op] = toPlain (written .markup colors [op]) := by
  have one : ∀ text, (∀ style colors, effects style colors op = [put style text]) →
      written .plain colors' [op] = toPlain (written .markup colors [op]) := by
    intro text puts
    rw [written_put (puts .markup colors), written_put (puts .plain colors')]
    rfl
  cases op with
  | write | bold | italic | openBold | closeBold | nextLine => exact one _ fun _ _ => rfl
  | openColor c =>
    have gone := toPlain_openColor c ""
    rw [String.append_empty, Markup.toPlain_empty] at gone
    have markup : written .markup colors [.openColor c] = colorTag c := written_put rfl
    rw [markup, gone]
    rfl
  | closeColor =>
    have gone := toPlain_closeColor ""
    rw [String.empty_append, Markup.toPlain_empty] at gone
    have markup : written .markup colors [.closeColor] = "</color>" := written_put rfl
    rw [markup, gone]
    rfl
  | clear => exact Markup.toPlain_empty.symm
  | line | lineBold | lineItalic | error | warning | info => cases part

/-- One operation in two styles. A markup display gets `M` at the end of its output and a
    plain one gets `P`. If the operation writes no whole line, `P` is what is left of `M`
    without its tags. If it does, there is a text `B` such that a break and `B` are left of `M`,
    and `P` is the mark of the line, `B` and a break. -/
theorem styles_agree {τ σ : Type} [Transport τ] [LawfulTransport τ] [Transport σ] [LawfulTransport σ] {t : τ} {u : σ}
    (markup : Transport.style t = .markup) (plain : Transport.style u = .plain) {op : Op} (writes : op ≠ .clear)
    (colors colors' : OutputColors) :
    ∃ M P, LawfulTransport.output (Transport.write colors [op] t) = LawfulTransport.output t ++ M ∧
      LawfulTransport.output (Transport.write colors' [op] u) = LawfulTransport.output u ++ P ∧
      (op.lineMark = none → P = toPlain M) ∧
      ∀ mark, op.lineMark = some mark → ∃ B, toPlain M = "\n" ++ B ∧ P = mark ++ B ++ "\n" := by
  have keeps : .clear ∉ [op] := by simpa using writes.symm
  refine ⟨written .markup colors [op], written .plain colors' [op], ?_, ?_, written_part colors colors',
    fun _ => written_line colors colors'⟩
  · rw [← markup]
    exact (LawfulTransport.writeAs keeps _ colors t).1
  · rw [← plain]
    exact (LawfulTransport.writeAs keeps _ colors' u).1

/-- An error that ends within a tag, on a surface and over a link. -/
theorem styles_agree_error :
    let op : Op := .error "no <b>such</b> <color=#FF0000"
    Transport.style Surface.start = .markup ∧ Transport.style Network.Link.start = .plain ∧ op ≠ .clear ∧
      ∃ M P, LawfulTransport.output (Transport.write .standard [op] Surface.start) = "" ++ M ∧
        LawfulTransport.output (Transport.write .standard [op] Network.Link.start) = "" ++ P ∧
        ∃ B, toPlain M = "\n" ++ B ∧ P = "#>>x" ++ B ++ "\n" := by
  intro op
  have writes : op ≠ .clear := by simp [op]
  obtain ⟨M, P, surface, link, -, line⟩ :=
    styles_agree (t := Surface.start) (u := Network.Link.start) rfl rfl writes .standard .standard
  exact ⟨rfl, rfl, writes, M, P, surface, link, line "#>>x" rfl⟩

/-- The halves of a tag, written by two calls, are a tag in the markup and text on a plain
    display. -/
example :
    let ops : List Op := [.write "<", .write "b>"]
    toPlain (written .markup .standard ops) = "'" ∧ written .plain .standard ops = "<b>" := by
  decide +kernel

end Output

end CommandConsole
