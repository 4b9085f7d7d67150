/-
  CommandConsole.Proofs.Indifference — the display decides nothing.

  A console reads its display at many points: for the style in which it writes, whether
  there is a surface to close, how much of a line shows. None of it may come back into
  what a command does. Two consoles are `Alike` when they agree on everything but the
  display: the commands, the conversions, the live objects, the history with its cursor,
  the wish to quit and the state they share with their host. Their displays may be of
  different kinds, hold different output and input, and write in different colors.

  A handler is given the style of the display. It is blind to it if what it does to its
  object and the state, and how it ends, is the same in every style; what it writes may
  differ.

  Proved (`display_decides_nothing`): two consoles that are alike and whose handlers are
  blind are alike again after any lines, and each line ends in both in the same way, with
  the same failure if it fails. The demo's handlers are blind, so it is the same
  over a link and on a surface.
-/

import CommandConsole.Demo
import CommandConsole.Network.Exchange
import CommandConsole.Proofs.Dispatch
import CommandConsole.Proofs.Visibility
import CommandConsole.Transport.Surface

namespace CommandConsole

variable {h : Host}

/-! ## Handlers that do not look at the style -/

/-- What the handler does, apart from what it writes, is the same in every style. -/
def Handler.Blind {p : h.Provider} (run : Handler h p) : Prop :=
  ∀ (a b : Style) (args : Arguments h) (name : String) (state : h.State) (object : h.Object p),
    (run ⟨a, args, name⟩ state object).state = (run ⟨b, args, name⟩ state object).state ∧
      (run ⟨a, args, name⟩ state object).object = (run ⟨b, args, name⟩ state object).object ∧
      (run ⟨a, args, name⟩ state object).outcome = (run ⟨b, args, name⟩ state object).outcome

def Command.Blind (c : Command h) : Prop := ∀ p run, c.binding = .handler p run → Handler.Blind run

def Registry.Blind (r : Registry h) : Prop := ∀ c ∈ r.commands, c.Blind

theorem Registry.Blind.registerAll {r : Registry h} (blind : r.Blind) {commands : List (Command h)}
    (new : ∀ c ∈ commands, c.Blind) : (r.registerAll commands).2.Blind := by
  induction commands generalizing r with
  | nil => exact blind
  | cons c cs ih =>
    apply ih (r := (r.register c).2)
    · intro d hd
      rcases mem_insert hd with rfl | hd
      · exact new d List.mem_cons_self
      · exact blind d hd
    · intro d hd
      exact new d (List.mem_cons_of_mem c hd)

/-- The console's own commands have no handler. -/
theorem standard_blind : (Registry.standard : Registry h).Blind := by
  apply Registry.Blind.registerAll
  · intro c hc
    cases hc
  · intro c hc p run bound
    simp only [Command.builtins, List.mem_cons, List.not_mem_nil, or_false] at hc
    rcases hc with rfl | rfl | rfl | rfl | rfl <;> cases bound

namespace Console

variable {τ σ : Type}

/-! ## Consoles that are alike -/

/-- The two consoles agree on all but the display. -/
structure Alike (c : Console h τ) (d : Console h σ) : Prop where
  registry : c.registry = d.registry
  conversions : c.conversions = d.conversions
  scene : c.scene = d.scene
  history : c.history = d.history
  quitRequested : c.quitRequested = d.quitRequested
  state : c.state = d.state

variable {c : Console h τ} {d : Console h σ}

/-- Displays and logs do not count. -/
theorem Alike.aside (alike : Alike c d) (t : τ) (u : σ) (log log' : List Notice) :
    Alike { c with transport := t, log := log } { d with transport := u, log := log' } :=
  ⟨alike.registry, alike.conversions, alike.scene, alike.history, alike.quitRequested, alike.state⟩

/-- What the stages of a line look at is all alike. -/
theorem Alike.prepare (alike : Alike c d) (raw : String) : c.prepare raw = d.prepare raw := by
  unfold Console.prepare resolve
  rw [alike.registry, alike.scene, alike.conversions, alike.state]

/-- A command that the stages end with is registered. -/
theorem Stages.registered {raw : String} {command : Command h} {args : Arguments h}
    (ending : Stages c raw (.ok (command, args))) : command ∈ c.registry.commands := by
  cases ending with
  | ready _ found _ _ => exact List.mem_of_find?_eq_some (Option.filter_eq_some_iff.mp found).1

variable [Transport τ] [Transport σ]

/-- Two runs that end in the same way, and leave consoles that are alike. -/
structure Agree (x : Console h τ × Except Failure Unit) (y : Console h σ × Except Failure Unit) : Prop where
  alike : Alike x.1 y.1
  ends : x.2 = y.2

theorem Alike.runBuiltin (alike : Alike c d) (b : Builtin) (args : Arguments h) :
    Agree (c.runBuiltin b args) (d.runBuiltin b args) := by
  cases b with
  | help => exact ⟨alike.aside _ _ _ _, rfl⟩
  | describe =>
    unfold Console.runBuiltin
    cases args.text 0 with
    | error f => exact ⟨alike, rfl⟩
    | ok name =>
      simp only [alike.registry, alike.scene]
      cases d.registry.resolveLive? d.scene name with
      | none => exact ⟨alike, rfl⟩
      | some command => exact ⟨alike.aside _ _ _ _, rfl⟩
  | quit =>
    exact ⟨⟨alike.registry, alike.conversions, alike.scene, alike.history, rfl, alike.state⟩, rfl⟩
  | close =>
    -- One of them may have a surface that closes and the other none.
    unfold Console.runBuiltin
    refine ⟨?_, rfl⟩
    dsimp only
    split
    · split
      · exact alike.aside _ _ _ _
      · exact alike.aside _ _ _ _
    · split
      · exact alike.aside _ _ _ _
      · exact alike
  | clear => exact ⟨alike.aside _ _ _ _, rfl⟩

theorem Alike.invoke (alike : Alike c d) {p : h.Provider} {run : Handler h p} (blind : Handler.Blind run) (args : Arguments h) :
    Agree (c.invoke p run args) (d.invoke p run args) := by
  unfold Console.invoke Console.invokeIn
  rw [show c.scene.choose p = d.scene.choose p by rw [alike.scene]]
  rcases d.scene.choose p with ⟨noted, f | id⟩
  · exact ⟨alike.aside _ _ _ _, rfl⟩
  · dsimp only [note]
    rw [show c.scene.find? id = d.scene.find? id by rw [alike.scene]]
    cases d.scene.find? id with
    | none => exact ⟨alike.aside _ _ _ _, rfl⟩
    | some found =>
      dsimp only
      cases found.as? p with
      | none => exact ⟨alike.aside _ _ _ _, rfl⟩
      | some object =>
        obtain ⟨state, changed, ends⟩ :=
          blind (Transport.style c.transport) (Transport.style d.transport) args found.name d.state object
        dsimp only
        rw [alike.state, alike.scene]
        refine ⟨⟨alike.registry, alike.conversions, ?_, alike.history, alike.quitRequested, state⟩, ends⟩
        exact congrArg (d.scene.set p id) changed

theorem Alike.dispatch (alike : Alike c d) (blind : c.registry.Blind) (raw : String) :
    Agree (c.dispatch raw) (d.dispatch raw) := by
  have ending := c.stages_prepare raw
  rw [dispatch_eq, dispatch_eq, ← alike.prepare raw]
  rcases hp : c.prepare raw with ⟨noted, f | ⟨command, args⟩⟩
  · exact ⟨alike.aside _ _ _ _, rfl⟩
  · have noted : Alike (c.note noted) (d.note noted) := alike.aside _ _ _ _
    rw [hp] at ending
    dsimp only
    cases bound : command.binding with
    | builtin b => exact noted.runBuiltin b args
    | handler p run => exact noted.invoke (blind command ending.registered p run bound) args

/-! ## Lines -/

theorem Alike.write (alike : Alike c d) (ops : List Output.Op) : Alike (c.write ops) (d.write ops) := alike.aside _ _ _ _

theorem Alike.execute (alike : Alike c d) (blind : c.registry.Blind) (raw : String) : Alike (c.execute raw) (d.execute raw) := by
  have ran := alike.dispatch blind raw
  rw [execute_eq, execute_eq, ran.ends]
  cases (d.dispatch raw).2 with
  | ok =>
    have after := ran.alike
    refine ⟨after.registry, after.conversions, after.scene, ?_, after.quitRequested, after.state⟩
    show (c.dispatch raw).1.history.record _ = (d.dispatch raw).1.history.record _
    rw [after.history]
  | error f => exact ran.alike.write _

/-- How a submitted line ends. -/
def outcome (c : Console h τ) (line : String) : Except Failure Unit := ((c.write [echo line]).dispatch line).2

def submitAll (c : Console h τ) (lines : List String) : Console h τ := lines.foldl submit c

/-- How each of the lines ends when they are submitted in turn. -/
def outcomes (c : Console h τ) : List String → List (Except Failure Unit)
  | [] => []
  | line :: lines => c.outcome line :: (c.submit line).outcomes lines

theorem Alike.submit (alike : Alike c d) (blind : c.registry.Blind) (line : String) :
    Alike (c.submit line) (d.submit line) ∧ c.outcome line = d.outcome line :=
  ⟨((alike.write _).execute blind line).aside _ _ _ _, ((alike.write _).dispatch blind line).ends⟩

/-- Consoles that differ in their displays only stay so, and run every line alike. -/
theorem display_decides_nothing (alike : Alike c d) (blind : c.registry.Blind) (lines : List String) :
    Alike (c.submitAll lines) (d.submitAll lines) ∧ c.outcomes lines = d.outcomes lines := by
  induction lines generalizing c d with
  | nil => exact ⟨alike, rfl⟩
  | cons line lines ih =>
    obtain ⟨after, same⟩ := alike.submit blind line
    obtain ⟨ends, rest⟩ := ih after (c.submit_registry line ▸ blind)
    exact ⟨ends, by rw [outcomes, outcomes, same, rest]⟩

/-! ## The demo -/

theorem demo_blind {guest : Host} (p : Demo.Provider) : ∀ c ∈ (Demo.commands p : List (Command (Demo.host guest))), c.Blind := by
  intro c hc q run bound
  cases p with
  | cube =>
    simp only [Demo.commands, Demo.cubeCommands, List.mem_cons, List.not_mem_nil, or_false] at hc
    rcases hc with rfl | rfl | rfl | rfl | rfl | rfl | rfl <;> (cases bound; exact fun _ _ _ _ _ _ => ⟨rfl, rfl, rfl⟩)
  | inspector =>
    simp only [Demo.commands, Demo.inspectorCommands, List.mem_cons, List.not_mem_nil, or_false] at hc
    subst hc
    cases bound
    exact fun _ _ _ _ _ _ => ⟨rfl, rfl, rfl⟩

/-- The demo over a link, where all is plain text, and on a surface of other colors. -/
theorem display_decides_nothing_demo :
    let white : OutputColors := ⟨Color.white, Color.white, Color.white⟩
    let c : Console (Demo.host Host.bare) Network.Link :=
      (Demo.install 7 (create Network.Link.start Settings.standard (World.demo, ()))).1
    let d : Console (Demo.host Host.bare) Surface :=
      (Demo.install 7 (create Surface.start { Settings.standard with colors := white } (World.demo, ()))).1
    Transport.style c.transport ≠ Transport.style d.transport ∧ c.colors ≠ d.colors ∧ c.registry.Blind ∧ Alike c d ∧
      ∀ lines, Alike (c.submitAll lines) (d.submitAll lines) ∧ c.outcomes lines = d.outcomes lines := by
  intro white c d
  have registered : c.registry = ((Registry.standard.registerAll (Demo.commands .cube)).2.registerAll (Demo.commands .inspector)).2 :=
    rfl
  have blind : c.registry.Blind := by
    rw [registered]
    exact (standard_blind.registerAll (demo_blind .cube)).registerAll (demo_blind .inspector)
  have alike : Alike c d := ⟨rfl, rfl, rfl, rfl, rfl, rfl⟩
  exact ⟨by decide, by decide, blind, alike, display_decides_nothing alike blind⟩

end Console

end CommandConsole
