/-
  CommandConsole.Proofs.Echo — the echo of a line never reaches the client that sent it.

  A console echoes every line it is given, a link too: the echo is written first, then the
  line runs and writes what it writes. When the output goes out, a line that starts like an
  echo is left out. This is a test on text. The echo holds the client's own line, with its tags
  taken out, and what the command writes is not marked off from it.

  The test takes out all of the echo, and finds the same in the rest as it would without it. The
  echo is the mark, the rest of the line and a line break (`written_echo`): no tag in the line
  can take the mark or the break away, and without a break of its own the line is one line.
  Behind the break the output is cut as if nothing stood in front of it (`responseText_echo`).
  A line of the command's own that starts with the mark is left out, with the echo in front of
  it and without.

  While the line runs it makes no difference whether the echo is there (`echoed_unnoticed`): the
  console appends behind it, or clears the output and it is gone. So at the end there is one
  output, or the same output behind the echo (`Echoed`).

  Proved (`echo_never_sent`), for any console on a link with nothing in the output and any line
  without a line break: what is sent after submitting the line is what would be sent after
  executing it.
-/

import CommandConsole.Demo
import CommandConsole.Proofs.Displays
import CommandConsole.Proofs.Responses

namespace CommandConsole.Network

open Output (written)

variable {h : Host}

/-! ## While a line runs -/

/-- The link with a text in front of its output. -/
def Link.inFront (text : String) (l : Link) : Link :=
  { l with exchange := { l.exchange with outbound := text ++ l.exchange.outbound } }

theorem Link.append_inFront (echo text : String) (l : Link) :
    Transport.append text (l.inFront echo) = (Transport.append text l : Link).inFront echo := by
  simp [Transport.append, Exchange.append, inFront, String.append_assoc]

/-- The second link is the first one, or has an echo in front of its output. -/
inductive Echoed (echo : String) (l : Link) : Link → Prop
  | gone : Echoed echo l l
  | front : Echoed echo l (l.inFront echo)

theorem echoed_unnoticed (echo : String) : Transport.Unnoticed (Echoed echo) where
  append {l m} text echoed := by
    cases echoed with
    | gone => exact .gone
    | front =>
      rw [Link.append_inFront]
      exact .front
  clearOutput {l m} echoed := by
    cases echoed with
    | gone => exact .gone
    | front => exact .gone
  setVisible {l m} on echoed := echoed
  style {l m} _ := rfl
  hasSurface {l m} _ := rfl

/-- The echo is written to the end of the output. That is the front if nothing else is there. -/
theorem echoed_write {l : Link} (empty : l.exchange.outbound = "") (colors : OutputColors) (line : String) :
    Echoed (written .plain colors [Console.echo line]) l (Transport.write colors [Console.echo line] l) := by
  have puts : Output.effects .plain colors (Console.echo line) = [Output.put .plain (Output.inItalics ("> " ++ line) ++ "\n")] := rfl
  have atFront : Transport.write colors [Console.echo line] l = l.inFront (written .plain colors [Console.echo line]) := by
    rw [Output.written_put puts]
    show Transport.append (Output.put .plain _).text l = _
    simp only [Transport.append, Exchange.append, Link.inFront, empty, String.empty_append, String.append_empty]
  rw [atFront]
  exact .front

/-- To submit a line leaves the output of executing it, or the echo and behind it that output. -/
theorem submit_output {c : Console h Link} (empty : c.output = "") (line : String) :
    (c.submit line).output = (c.execute line).output ∨
      (c.submit line).output = written .plain c.colors [Console.echo line] ++ (c.execute line).output := by
  have start : Console.Beside (Echoed (written .plain c.colors [Console.echo line])) c (c.write [Console.echo line]) :=
    ⟨_, echoed_write empty c.colors line, rfl⟩
  obtain ⟨l, echoed, ran⟩ := start.execute (echoed_unnoticed _) line
  have output : (c.submit line).output = l.exchange.outbound := by
    rw [Console.output_submit, ran]
    rfl
  rw [output]
  cases echoed with
  | gone => exact .inl rfl
  | front => exact .inr rfl

/-! ## When the output goes out -/

/-- A submitted line is answered as if it had only been executed. -/
theorem response_submit {c : Console h Link} (empty : c.output = "") {line : String} (single : '\n' ∉ line.toList) :
    response (c.submit line).output = response (c.execute line).output := by
  rcases submit_output empty line with same | behind
  · rw [same]
  · rw [behind, response, response, responseText_echo c.colors single]

/-- What a client is sent after its line has been submitted is what it would be sent if the
    line had only been executed. -/
theorem echo_never_sent {s : Session h} (empty : s.console.output = "") {line : String} (single : '\n' ∉ line.toList) :
    (Session.flush { s with console := s.console.submit line }).received =
      (Session.flush { s with console := s.console.execute line }).received := by
  have sent : ∀ c : Console h Link, (Session.flush { s with console := c }).received = s.received ++ response c.output := by
    intro c
    rfl
  rw [sent, sent, response_submit empty single]

/-- A line that would pass for an echo when its tags are gone, submitted to the demo. -/
theorem echo_never_sent_demo :
    let s : Session (Demo.host Host.bare) :=
      ⟨(Demo.install 7 (Console.create Link.start Settings.standard (World.demo, ()))).1, [], 0⟩
    let line := "<i>></i> \"<b>cube_info\" <color=red"
    s.console.output = "" ∧ '\n' ∉ line.toList ∧
      (Session.flush { s with console := s.console.submit line }).received =
        (Session.flush { s with console := s.console.execute line }).received := by
  intro s line
  have empty : s.console.output = "" := by rfl
  have single : '\n' ∉ line.toList := by decide
  exact ⟨empty, single, echo_never_sent empty single⟩

end CommandConsole.Network
