/-
  CommandConsole.Proofs.UnknownNames — what a client is told of a command that is not known.

  The failure names the command, in bold. The name is the client's own: the first token of its
  line, with anything in it that a token can have. It goes out through everything that plain
  text goes through. The message loses its tags, the output is cut into lines and filtered, and
  the characters become bytes.

  Only the first of these changes anything. There is no way to write a tag that is not meant as
  one: a tag in the name is a tag of the message, so it is shown as a tag is, `<b>` and `</b>`
  as apostrophes and the others not at all. The name keeps its tags apart from those around it
  (`toPlain_inBold`), has no line break, and stands behind a sigil, so the message is one line
  and is sent (`responseText_error`).

  Proved (`unknown_answered`), for any session between two answers, any console with any
  commands and instances: if the next line parses and its first token names no live command,
  the answer is the sigil, the message with the name as plain text shows it, a line feed and
  the zero byte, and nothing else; the name is shown as it is if and only if it has no tag in
  it. `italic_name_answered`: a name with two.
-/

import CommandConsole.Proofs.Echo

namespace CommandConsole

/-! ## Text without tags -/

namespace Markup

/-- No tag anywhere in the text. -/
def TagFree (s : List Char) : Prop := ∀ t span, Tag t span → ¬ t <:+: s

theorem TagFree.suffix {s r : List Char} (free : TagFree s) (h : r <:+ s) : TagFree r := by
  intro t span tag inside
  exact free t span tag (inside.trans h.isInfix)

/-- A tag takes more room in the markup than on a plain display. -/
theorem Tag.plain_lt {t : List Char} {span : Span} (tag : Tag t span) : span.plain.length < t.length := by
  have fixed : ∀ entry ∈ fixedTags, entry.2.plain.length < entry.1.length := by decide
  cases tag with
  | fixed known => exact fixed _ known
  | color =>
    rw [List.length_append, List.length_append]
    exact Nat.lt_add_left _ (Nat.succ_pos _)

theorem plainChars_length_le (s : List Char) : (plainChars s).length ≤ s.length := by
  induction s using tagInduction with
  | nil => rw [plainChars_nil]
  | literal c r h ih =>
    rw [plainChars_literal h, List.length_cons, List.length_cons]
    omega
  | tag r span rest h ih =>
    obtain ⟨t, tag, whole⟩ := tag?_eq_some_iff.mp h
    have shorter := tag.plain_lt
    rw [plainChars_tag h, whole, List.length_append, List.length_append]
    omega

/-- A text is shown as it is if and only if it has no tag in it. -/
theorem plainChars_eq_iff (s : List Char) : plainChars s = s ↔ TagFree s := by
  constructor
  · rintro same t span tag ⟨before, after, whole⟩
    have front := plainChars_length_le before
    have back := plainChars_length_le after
    have shorter := tag.plain_lt
    have parts := congrArg List.length same
    rw [← whole, List.append_assoc, plainChars_tagged tag] at parts
    simp only [List.length_append] at parts
    omega
  · intro free
    induction s using tagInduction with
    | nil => exact plainChars_nil
    | literal c r h ih => rw [plainChars_literal h, ih (free.suffix (List.suffix_cons c r))]
    | tag r span rest h _ =>
      obtain ⟨t, tag, whole⟩ := tag?_eq_some_iff.mp h
      refine absurd ?_ (free t span tag)
      rw [whole]
      exact (List.prefix_append t rest).isInfix

theorem toPlain_eq_iff (text : String) : toPlain text = text ↔ TagFree text.toList := by
  rw [← plainChars_eq_iff, toPlain, ← String.toList_inj, String.toList_ofList]

theorem toPlain_untagged {text : String} (h : '<' ∉ text.toList) : toPlain text = text := by
  have marked := toPlain_mark h ""
  rwa [String.append_empty, toPlain_empty, String.append_empty] at marked

/-- A bold text is set between apostrophes, and is shown as it is anywhere else. -/
theorem toPlain_inBold (before text after : String) :
    toPlain (before ++ Output.inBold text ++ after) = toPlain before ++ ("'" ++ toPlain text ++ "'") ++ toPlain after := by
  have opening : Tag "<b>".toList .boldOn := .fixed (by decide)
  have closing : Tag "</b>".toList .boldOff := .fixed (by decide)
  have parts : before ++ Output.inBold text ++ after = before ++ "<b>" ++ (text ++ "</b>" ++ after) := by
    simp only [Output.inBold, String.append_assoc]
  rw [parts, toPlain_tagged opening, toPlain_tagged closing]
  simp only [String.append_assoc]
  rfl

end Markup

/-! ## The answer -/

open Markup (toPlain TagFree)

variable {h : Host}

theorem unknownCommand_message (name : String) :
    (Failure.unknownCommand name).message = "Command <b>" ++ name ++ "</b> not found." := rfl

/-- How the name of a command that is not known is shown. -/
theorem unknownCommand_shown (name : String) :
    toPlain (Failure.unknownCommand name).message = "Command '" ++ toPlain name ++ "' not found." := by
  have parts : "Command <b>" ++ name ++ "</b> not found." = "Command " ++ Output.inBold name ++ " not found." := by
    apply String.toList_injective
    simp [Output.inBold]
  have before : toPlain "Command " = "Command " := Markup.toPlain_untagged (by decide)
  have after : toPlain " not found." = " not found." := Markup.toPlain_untagged (by decide)
  rw [unknownCommand_message, parts, Markup.toPlain_inBold, before, after]
  apply String.toList_injective
  simp

namespace Network

/-- What is sent of the failure. -/
theorem responseText_unknown (colors : OutputColors) {name : String} (single : '\n' ∉ name.toList) :
    responseText (Output.written .plain colors [.error (Failure.unknownCommand name).message]).toList =
      ("#>>xCommand '" ++ toPlain name ++ "' not found.\n").toList := by
  have whole : '\n' ∉ (Failure.unknownCommand name).message.toList := by
    have around : '\n' ∉ "Command <b>".toList ∧ '\n' ∉ "</b> not found.".toList := by decide
    intro feed
    rw [unknownCommand_message, String.toList_append, String.toList_append] at feed
    rcases List.mem_append.mp feed with feed | feed
    · rcases List.mem_append.mp feed with feed | feed
      · exact around.1 feed
      · exact single feed
    · exact around.2 feed
  rw [responseText_error colors whole, unknownCommand_shown]
  simp [Output.errorSigil, Output.sigil]

open Text.Utf8 (encode)

variable {s : Session h} {limit : Nat} {source rest : Chunks} {line name : String} {tokens : List String}

/-- A line that is read is answered, unless it says `exit`. -/
theorem Session.Quiet.next_line (quiet : s.Quiet) (read : readLine limit source = some (.line line, rest)) (stays : line ≠ exitCommand) :
    s.next limit source = some (rest, s.answer line) := by
  unfold Session.next
  rw [quiet.serving, if_neg Bool.false_ne_true, read]
  exact if_neg stays

/-- The answer to a line whose first token names no live command: one line, with the sigil of
    an error and the name as plain text shows it. This is the name itself if and only if there
    is no tag in it. -/
theorem unknown_answered (quiet : s.Quiet) (read : readLine limit source = some (.line line, rest)) (stays : line ≠ exitCommand)
    (parses : Line.parse line = .ok (name :: tokens))
    (absent : s.console.registry.resolveLive? s.console.scene name = none) :
    ∃ s', s.next limit source = some (rest, s') ∧ s'.Quiet ∧
      s'.received = s.received ++ (encode ("#>>xCommand '" ++ toPlain name ++ "' not found.\n") ++ [endOfResponse]) ∧
      (toPlain name = name ↔ TagFree name.toList) := by
  have single : '\n' ∉ line.toList := readLine_single read
  have named : '\n' ∉ name.toList := by
    intro feed
    exact single (Line.mem_parse (by decide) parses List.mem_cons_self feed)
  have empty : s.taken.output = "" := quiet.empty
  have ending : Console.Stages s.taken line (.error (.unknownCommand name)) := .unknown parses absent
  have output : (s.taken.execute line).output =
      Output.written .plain s.console.colors [.error (Failure.unknownCommand name).message] := by
    rw [Console.failed_output ending, empty, String.empty_append]
    rfl
  obtain ⟨received, -, after⟩ := quiet.answer line
  refine ⟨s.answer line, quiet.next_line read stays, after, ?_, Markup.toPlain_eq_iff name⟩
  rw [received, response_submit empty single, response, output, responseText_unknown _ named]
  rfl

/-- A name without a tag is repeated as it is. -/
theorem unknown_answered_warp :
    let s : Session Host.bare := ⟨Console.create Link.start Settings.standard (), [], 0⟩
    let source : Chunks := [encode "warp 9\n", encode "help\n"]
    s.Quiet ∧ readLine 1024 source = some (.line "warp 9", [encode "help\n"]) ∧ "warp 9" ≠ exitCommand ∧
      Line.parse "warp 9" = .ok ["warp", "9"] ∧ s.console.registry.resolveLive? s.console.scene "warp" = none ∧
      ∃ s', s.next 1024 source = some ([encode "help\n"], s') ∧ s'.Quiet ∧
        s'.received = encode "#>>xCommand 'warp' not found.\n" ++ [endOfResponse] := by
  intro s source
  have quiet : s.Quiet := ⟨rfl, rfl, rfl⟩
  have read : readLine 1024 source = some (.line "warp 9", [encode "help\n"]) := by decide +kernel
  have stays : "warp 9" ≠ exitCommand := by decide
  have parses : Line.parse "warp 9" = .ok ["warp", "9"] := by rfl
  have absent : s.console.registry.resolveLive? s.console.scene "warp" = none := by rfl
  obtain ⟨s', next, after, received, same⟩ := unknown_answered quiet read stays parses absent
  have plain : toPlain "warp" = "warp" := by decide +kernel
  rw [plain] at received
  exact ⟨quiet, read, stays, parses, absent, s', next, after, received⟩

/-- A name in italic tags is repeated without them. -/
theorem italic_name_answered :
    let s : Session Host.bare := ⟨Console.create Link.start Settings.standard (), [], 0⟩
    let name := "<i>warp</i>"
    s.Quiet ∧ readLine 1024 [encode "<i>warp</i>\n"] = some (.line name, []) ∧ name ≠ exitCommand ∧
      Line.parse name = .ok [name] ∧ s.console.registry.resolveLive? s.console.scene name = none ∧
      ∃ s', s.next 1024 [encode "<i>warp</i>\n"] = some ([], s') ∧
        s'.received = encode "#>>xCommand 'warp' not found.\n" ++ [endOfResponse] ∧
        s'.received ≠ encode ("#>>xCommand '" ++ name ++ "' not found.\n") ++ [endOfResponse] := by
  intro s name
  have quiet : s.Quiet := ⟨rfl, rfl, rfl⟩
  have read : readLine 1024 [encode "<i>warp</i>\n"] = some (.line name, []) := by decide +kernel
  have stays : name ≠ exitCommand := by decide
  have parses : Line.parse name = .ok [name] := by decide +kernel
  refine ⟨quiet, read, stays, parses, by rfl, s.answer name, quiet.next_line read stays, ?_, ?_⟩
  · decide +kernel
  · decide +kernel

end Network

end CommandConsole
