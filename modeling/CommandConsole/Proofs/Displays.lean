/-
  CommandConsole.Proofs.Displays — two displays that a running line cannot tell apart.

  A console writes to its display, clears it and hides it, and reads two things off it: the
  style, and whether there is a surface. Everything else about the display it neither reads
  nor touches: what has been written, what is in the input field, what waits in the queue.
  So two displays may differ in any of that. `Unnoticed` says of a relation between displays
  that the two read alike and that whatever the console does to both of them keeps it.

  Consoles that are the same but for two such displays are `Beside` each other. They stay so
  whatever line they run, and the line ends alike: one lemma for each function of a running
  line, from a write up to `Beside.execute`. What the relation is does not matter to any of
  them. It is chosen where the fact is used: another text in the input field, or another
  beginning of the output.

  What a line keeps of one display is a case of this. If a property stays with a display
  whatever the console does to it (`Kept`), a display that has it is related to itself, and
  so it has the property after any line (`execute_kept`).
-/

import CommandConsole.Proofs.Runs

namespace CommandConsole

/-! ## What a line reads and does -/

/-- What a running line reads is the same on both displays, and what it does keeps them
    related. -/
structure Transport.Unnoticed {τ : Type} [Transport τ] (R : τ → τ → Prop) : Prop where
  append {t u : τ} (text : String) : R t u → R (Transport.append text t) (Transport.append text u)
  clearOutput {t u : τ} : R t u → R (Transport.clearOutput t) (Transport.clearOutput u)
  setVisible {t u : τ} (on : Bool) : R t u → R (Transport.setVisible on t) (Transport.setVisible on u)
  style {t u : τ} : R t u → Transport.style u = Transport.style t
  hasSurface {t u : τ} : R t u → Transport.hasSurface u = Transport.hasSurface t

variable {h : Host} {τ : Type} [Transport τ] {R : τ → τ → Prop}

/-- A property that a display keeps whatever a running line does to it. -/
structure Transport.Kept {τ : Type} [Transport τ] (P : τ → Prop) : Prop where
  append {t : τ} (text : String) : P t → P (Transport.append text t)
  clearOutput {t : τ} : P t → P (Transport.clearOutput t)
  setVisible {t : τ} (on : Bool) : P t → P (Transport.setVisible on t)

/-- A display with the property cannot be told from itself. -/
theorem Transport.Kept.unnoticed {τ : Type} [Transport τ] {P : τ → Prop} (kept : Kept P) : Unnoticed fun t u => u = t ∧ P t where
  append text same := ⟨congrArg (Transport.append text) same.1, kept.append text same.2⟩
  clearOutput same := ⟨congrArg Transport.clearOutput same.1, kept.clearOutput same.2⟩
  setVisible on same := ⟨congrArg (Transport.setVisible on) same.1, kept.setVisible on same.2⟩
  style same := congrArg Transport.style same.1
  hasSurface same := congrArg Transport.hasSurface same.1

theorem Transport.Unnoticed.writeAs (unnoticed : Unnoticed R) {t u : τ} (related : R t u) (style : Style) (colors : OutputColors)
    (ops : List Output.Op) : R (Transport.writeAs style colors ops t) (Transport.writeAs style colors ops u) := by
  unfold Transport.writeAs
  induction ops.flatMap (Output.effects style colors) generalizing t u with
  | nil => exact related
  | cons e es ih =>
    refine ih ?_
    cases e with
    | append text => exact unnoticed.append text related
    | clear => exact unnoticed.clearOutput related

/-! ## Two consoles -/

namespace Console

/-- The same console at another display. -/
def Beside (R : τ → τ → Prop) (c d : Console h τ) : Prop := ∃ u, R c.transport u ∧ d = { c with transport := u }

/-- Consoles and outcomes of a line: those are beside each other, and these the same. -/
def EndsBeside (R : τ → τ → Prop) (x y : Console h τ × Except Failure Unit) : Prop := Beside R x.1 y.1 ∧ y.2 = x.2

namespace Beside

variable (unnoticed : Transport.Unnoticed R) {c d : Console h τ}

omit [Transport τ] in
theorem note (beside : Beside R c d) (notices : List Notice) : Beside R (c.note notices) (d.note notices) := by
  obtain ⟨u, related, rfl⟩ := beside
  exact ⟨u, related, rfl⟩

include unnoticed

theorem write (beside : Beside R c d) (ops : List Output.Op) : Beside R (c.write ops) (d.write ops) := by
  obtain ⟨u, related, rfl⟩ := beside
  refine ⟨Transport.write c.colors ops u, ?_, rfl⟩
  have same := unnoticed.writeAs related (Transport.style c.transport) c.colors ops
  unfold Transport.write
  rw [unnoticed.style related]
  exact same

theorem runBuiltin (beside : Beside R c d) (b : Builtin) (args : Arguments h) :
    EndsBeside R (c.runBuiltin b args) (d.runBuiltin b args) := by
  have written := fun ops => beside.write unnoticed ops
  obtain ⟨u, related, rfl⟩ := beside
  cases b with
  | help => exact ⟨written _, rfl⟩
  | describe =>
    unfold Console.runBuiltin
    cases args.text 0 with
    | error f => exact ⟨⟨u, related, rfl⟩, rfl⟩
    | ok name =>
      dsimp only
      cases c.registry.resolveLive? c.scene name with
      | none => exact ⟨⟨u, related, rfl⟩, rfl⟩
      | some command => exact ⟨written _, rfl⟩
  | quit => exact ⟨⟨u, related, rfl⟩, rfl⟩
  | close =>
    unfold Console.runBuiltin
    dsimp only
    rw [unnoticed.hasSurface related]
    split
    · exact ⟨⟨_, unnoticed.setVisible false related, rfl⟩, rfl⟩
    · exact ⟨⟨u, related, rfl⟩, rfl⟩
  | clear => exact ⟨⟨_, unnoticed.clearOutput related, rfl⟩, rfl⟩

theorem invoke (beside : Beside R c d) (p : h.Provider) (run : Handler h p) (args : Arguments h) :
    EndsBeside R (c.invoke p run args) (d.invoke p run args) := by
  obtain ⟨u, related, rfl⟩ := beside
  unfold Console.invoke Console.invokeIn Console.note
  dsimp only
  rw [unnoticed.style related]
  rcases c.scene.choose p with ⟨noted, chosen⟩
  -- Both have written the same warnings when the instance is looked up.
  have warned := unnoticed.writeAs related (Transport.style c.transport) c.colors (noted.map fun n => .warning n.text)
  cases chosen with
  | error f => exact ⟨⟨_, warned, rfl⟩, rfl⟩
  | ok id =>
    dsimp only
    cases c.scene.find? id with
    | none => exact ⟨⟨_, warned, rfl⟩, rfl⟩
    | some found =>
      dsimp only
      cases found.as? p with
      | none => exact ⟨⟨_, warned, rfl⟩, rfl⟩
      | some object => exact ⟨⟨_, unnoticed.writeAs warned _ _ _, rfl⟩, rfl⟩

theorem dispatch (beside : Beside R c d) (raw : String) : EndsBeside R (c.dispatch raw) (d.dispatch raw) := by
  have prepared : d.prepare raw = c.prepare raw := by
    obtain ⟨u, -, rfl⟩ := beside
    rfl
  rw [dispatch_eq, dispatch_eq, prepared]
  rcases c.prepare raw with ⟨noted, f | ⟨command, args⟩⟩
  · exact ⟨beside.note noted, rfl⟩
  · dsimp only
    cases command.binding with
    | builtin b => exact (beside.note noted).runBuiltin unnoticed b args
    | handler p run => exact (beside.note noted).invoke unnoticed p run args

/-- Consoles that are the same but for what a line does not notice are so after the line. -/
theorem execute (beside : Beside R c d) (raw : String) : Beside R (c.execute raw) (d.execute raw) := by
  obtain ⟨ran, ends⟩ := beside.dispatch unnoticed raw
  rw [execute_eq, execute_eq, ends]
  cases (c.dispatch raw).2 with
  | ok =>
    obtain ⟨u, related, same⟩ := ran
    refine ⟨u, related, ?_⟩
    rw [same]
  | error f => exact ran.write unnoticed _

end Beside

/-- A property that a display keeps is kept when something is written and a line runs. -/
theorem execute_kept {P : τ → Prop} (kept : Transport.Kept P) {c : Console h τ} (before : P c.transport) (ops : List Output.Op)
    (raw : String) : P ((c.write ops).execute raw).transport := by
  have self : Beside (fun t u => u = t ∧ P t) c c := ⟨c.transport, ⟨rfl, before⟩, rfl⟩
  obtain ⟨u, ⟨-, after⟩, -⟩ := (self.write kept.unnoticed ops).execute kept.unnoticed raw
  exact after

end Console

end CommandConsole
