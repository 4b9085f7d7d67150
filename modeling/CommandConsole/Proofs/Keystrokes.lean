/-
  CommandConsole.Proofs.Keystrokes — a line that is typed runs as if it were submitted.

  A terminal delivers lines, and a line stands for key events: its characters one by one,
  then the key that submits. So it reaches the console in pieces. Each character edits the
  input field, and each event does so only while the surface shows. A host that has the whole
  line can submit it at once. The two ways agree.

  While a line runs, nothing looks at the input field or changes it. A change to a display
  like that is `Aside`: a running line cannot tell the display from the changed one
  (`Aside.unnoticed`), so what a console does with a line is the same before and after the
  change (`execute_touch`). When the line has run, the field is emptied; what was in it makes
  no difference (`submit_setInput`).

  Proved (`typed_runs_submitted`), for any console on a surface in any state: the events of a
  line do to a shown console what submitting the field with the line at its end does, and
  nothing to a hidden one. Of any lines, those up to the first that hides the surface run as
  submitted; the others do nothing. The lines are such that no key of the console is meant
  (`Typed`).
-/

import CommandConsole.Proofs.Displays
import CommandConsole.Transport.Surface

namespace CommandConsole

/-! ## What a running line does not notice -/

/-- A change to a display that a running line neither notices nor undoes. -/
structure Transport.Aside {τ : Type} [Transport τ] (g : τ → τ) : Prop where
  append (text : String) (t : τ) : Transport.append text (g t) = g (Transport.append text t)
  clearOutput (t : τ) : Transport.clearOutput (g t) = g (Transport.clearOutput t)
  setVisible (on : Bool) (t : τ) : Transport.setVisible on (g t) = g (Transport.setVisible on t)
  style (t : τ) : Transport.style (g t) = Transport.style t
  hasSurface (t : τ) : Transport.hasSurface (g t) = Transport.hasSurface t

/-- The input field of a surface is apart from the rest. -/
theorem Surface.setInput_aside (text : String) : Transport.Aside (Transport.setInput text : Surface → Surface) :=
  ⟨fun _ _ => rfl, fun _ => rfl, fun _ _ => rfl, fun _ => rfl, fun _ => rfl⟩

/-- A running line cannot tell the display from the changed one. -/
theorem Transport.Aside.unnoticed {τ : Type} [Transport τ] {g : τ → τ} (aside : Aside g) : Unnoticed fun t u => u = g t where
  append text changed := by rw [changed, aside.append]
  clearOutput changed := by rw [changed, aside.clearOutput]
  setVisible on changed := by rw [changed, aside.setVisible]
  style changed := by rw [changed, aside.style]
  hasSurface changed := by rw [changed, aside.hasSurface]

variable {h : Host}

namespace Console

/-- The console with a change to its display. -/
def touch {τ : Type} (g : τ → τ) (c : Console h τ) : Console h τ := { c with transport := g c.transport }

/-- A line does to the changed console what it does to the console, and leaves the change. -/
theorem execute_touch {τ : Type} [Transport τ] {g : τ → τ} (aside : Transport.Aside g) (c : Console h τ) (ops : List Output.Op)
    (raw : String) : ((c.touch g).write ops).execute raw = ((c.write ops).execute raw).touch g := by
  have beside : Beside (fun t u => u = g t) c (c.touch g) := ⟨_, rfl, rfl⟩
  obtain ⟨u, rfl, ran⟩ := (beside.write aside.unnoticed ops).execute aside.unnoticed raw
  exact ran

/-- What is in the input field makes no difference to a submitted line. -/
theorem submit_setInput (c : Console h Surface) (text line : String) : (c.setInput text).submit line = c.submit line := by
  have ran := execute_touch (Surface.setInput_aside text) c [echo line] line
  unfold submit
  rw [show c.setInput text = c.touch (Transport.setInput text) from rfl, ran]
  rfl

end Console

/-! ## Lines that are meant as text -/

namespace Keys

/-- What a line from a terminal says. -/
def text (line : String) : String := String.ofList (content line.toList)

/-- The line is meant as text, not as a key of the console. -/
def Typed (line : String) : Prop :=
  content line.toList ≠ ['\t'] ∧ content line.toList ≠ arrowUp ∧ content line.toList ≠ arrowDown

instance (line : String) : Decidable (Typed line) := inferInstanceAs (Decidable (_ ∧ _ ∧ _))

theorem events_typed {line : String} (typed : Typed line) :
    events line = (content line.toList).map .character ++ [.key .submit] := by
  obtain ⟨tab, up, down⟩ := typed
  simp [events, eventsOf, tab, up, down]

theorem toggle_notMem {line : String} (typed : Typed line) : .key .toggleVisibility ∉ events line := by
  rw [events_typed typed]
  simp

end Keys

/-! ## Typing -/

namespace Console

variable {c : Console h Surface}

theorem handleAll_append (c : Console h Surface) (es fs : List KeyEvent) :
    c.handleAll (es ++ fs) = (c.handleAll es).handleAll fs := List.foldl_append

/-- Characters go to the end of the input field. -/
theorem handleAll_characters (visible : c.transport.visible = true) (cs : List Char) :
    c.handleAll (cs.map .character) = c.setInput (c.transport.input ++ String.ofList cs) := by
  induction cs generalizing c with
  | nil =>
    rw [String.ofList_nil, String.append_empty]
    rfl
  | cons ch cs ih =>
    have one : c.handle (.character ch) = c.setInput (c.transport.input.push ch) := if_pos visible
    have rest := ih (c := c.setInput (c.transport.input.push ch)) visible
    rw [List.map_cons, handleAll, List.foldl_cons, one]
    refine rest.trans ?_
    have grown : c.transport.input.push ch ++ String.ofList cs = c.transport.input ++ String.ofList (ch :: cs) := by
      apply String.toList_injective
      simp
    rw [← grown]
    rfl

/-- While the surface is hidden, only its key shows it. -/
theorem handleAll_hidden (hidden : c.transport.visible = false) {es : List KeyEvent} (plain : .key .toggleVisibility ∉ es) :
    c.handleAll es = c := by
  induction es with
  | nil => rfl
  | cons e es ih =>
    have unseen : ¬ Transport.isVisible c.transport = true := by
      show ¬ c.transport.visible = true
      simp [hidden]
    have one : c.handle e = c := by
      unfold handle
      split
      · exact absurd List.mem_cons_self plain
      · exact if_neg unseen
    rw [handleAll, List.foldl_cons, one]
    exact ih fun h => plain (List.mem_cons_of_mem e h)

/-- Submit what the field holds with the line at its end. -/
def enter (c : Console h Surface) (line : String) : Console h Surface := c.submit (c.transport.input ++ Keys.text line)

def enterAll (c : Console h Surface) (lines : List String) : Console h Surface := lines.foldl enter c

theorem handleAll_visible (visible : c.transport.visible = true) {line : String} (typed : Keys.Typed line) :
    c.handleAll (Keys.events line) = c.enter line := by
  rw [Keys.events_typed typed, handleAll_append, handleAll_characters visible]
  -- The key submits what has been typed into the field.
  have key : (c.setInput (c.transport.input ++ Keys.text line)).handle (.key .submit) =
      (c.setInput (c.transport.input ++ Keys.text line)).submit (c.transport.input ++ Keys.text line) := if_pos visible
  exact key.trans (c.submit_setInput _ _)

/-- The lines that run when they are typed: up to the first one that hides the surface. -/
theorem typed_prefix (c : Console h Surface) {lines : List String} (typed : ∀ line ∈ lines, Keys.Typed line) :
    ∃ ran rest, lines = ran ++ rest ∧
      c.handleAll (lines.flatMap Keys.events) = c.enterAll ran ∧
      (∀ before line after, ran = before ++ line :: after → (c.enterAll before).transport.visible = true) ∧
      (rest ≠ [] → (c.enterAll ran).transport.visible = false) := by
  induction lines generalizing c with
  | nil => exact ⟨[], [], rfl, rfl, by simp, by simp⟩
  | cons line lines ih =>
    obtain ⟨first, others⟩ := List.forall_mem_cons.mp typed
    rw [List.flatMap_cons]
    cases shows : c.transport.visible with
    | true =>
      obtain ⟨ran, rest, rfl, same, visible, hidden⟩ := ih (c.enter line) others
      refine ⟨line :: ran, rest, rfl, ?_, ?_, hidden⟩
      · rw [handleAll_append, handleAll_visible shows first]
        exact same
      · intro before next after e
        cases before with
        | nil => exact shows
        | cons _ before =>
          obtain ⟨rfl, tail⟩ := List.cons.inj e
          exact visible before next after tail
    | false =>
      refine ⟨[], line :: lines, rfl, ?_, by simp, fun _ => shows⟩
      rw [← List.flatMap_cons]
      apply handleAll_hidden shows
      intro key
      obtain ⟨typedLine, hl, he⟩ := List.mem_flatMap.mp key
      exact Keys.toggle_notMem (typed typedLine hl) he

/-- The events of a line that is meant as text: to a console whose surface shows they do
    what submitting the input field with the line at its end does, and leave the field
    empty; to one whose surface is hidden they do nothing. So of any such lines some run as
    if they were submitted, up to the first one that hides the surface if there is one, and
    those after it do nothing. -/
theorem typed_runs_submitted (c : Console h Surface) :
    (∀ line, Keys.Typed line →
      (c.transport.visible = true →
        c.handleAll (Keys.events line) = c.submit (c.transport.input ++ Keys.text line) ∧
        (c.handleAll (Keys.events line)).transport.input = "") ∧
      (c.transport.visible = false → c.handleAll (Keys.events line) = c)) ∧
    (∀ lines, (∀ line ∈ lines, Keys.Typed line) → ∃ ran rest, lines = ran ++ rest ∧
      c.handleAll (lines.flatMap Keys.events) = c.enterAll ran ∧
      (∀ before line after, ran = before ++ line :: after → (c.enterAll before).transport.visible = true) ∧
      (rest ≠ [] → (c.enterAll ran).transport.visible = false)) := by
  refine ⟨fun line typed => ⟨fun visible => ?_, fun hidden => ?_⟩, fun lines typed => c.typed_prefix typed⟩
  · rw [handleAll_visible visible typed]
    exact ⟨rfl, rfl⟩
  · exact handleAll_hidden hidden (Keys.toggle_notMem typed)

/-- The field of a shown console holds `ch` when the first of three lines is typed. -/
theorem typed_runs_submitted_bare :
    let c : Console Host.bare Surface := ((create Surface.start Settings.standard ()).toggle).setInput "ch"
    let lines := ["elp quit\r\n", "close", "quit"]
    c.transport.visible = true ∧ (∀ line ∈ lines, Keys.Typed line) ∧
      c.handleAll (Keys.events "elp quit\r\n") = c.submit "chelp quit" ∧
      ∃ ran rest, lines = ran ++ rest ∧ c.handleAll (lines.flatMap Keys.events) = c.enterAll ran := by
  intro c lines
  have visible : c.transport.visible = true := by decide
  have typed : ∀ line ∈ lines, Keys.Typed line := by decide
  obtain ⟨one, many⟩ := c.typed_runs_submitted
  obtain ⟨first, -⟩ := (one "elp quit\r\n" (typed _ List.mem_cons_self)).1 visible
  obtain ⟨ran, rest, split, same, -, -⟩ := many lines typed
  have field : c.transport.input ++ Keys.text "elp quit\r\n" = "chelp quit" := by decide
  rw [field] at first
  exact ⟨visible, typed, first, ran, rest, split, same⟩

/-- A line after the one that closes the console is lost. -/
example :
    let c : Console Host.bare Surface := (create Surface.start Settings.standard ()).toggle
    (c.handleAll (["quit"].flatMap Keys.events)).quitRequested = true ∧
      (c.handleAll (["close", "quit"].flatMap Keys.events)).quitRequested = false := by
  decide +kernel

end Console

end CommandConsole
