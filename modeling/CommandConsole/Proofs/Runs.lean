/-
  CommandConsole.Proofs.Runs — what happens to a console, one event after the other.

  The host builds a console up and changes it: a `Change` registers commands, spawns and
  despawns instances or puts another object into one. An `Event` is a change or anything
  else that reaches the console from outside: a converter, the host's own state, whatever
  the host does to the display, a line that is executed, submitted or waiting at the
  transport, a key, a step through the history. A run is any list of events.

  What a line leaves alone. It may run a handler of the host, which answers any output,
  state and object. `Ran` says what even that cannot change: commands, conversions,
  history and settings, and of the scene at most one object (`dispatch_ran`).

  A statement about a run speaks of what happened on the way. `along` writes that down,
  event by event, from the console each event meets, and `along_holds` is the one
  induction over runs. For the commands and the scene a run is its changes and no more
  (`setup_run`).
-/

import CommandConsole.Console.Keyboard

namespace CommandConsole

variable {h : Host}

/-! ## Changes and events -/

/-- What the host does to the commands and the scene. -/
inductive Change (h : Host) where
  | register (command : Command h)
  /-- Register all commands of a provider. -/
  | provide (commands : List (Command h))
  | spawn (name : String) (p : h.Provider) (object : h.Object p)
  | despawn (id : Nat)
  /-- Put another object into an instance. -/
  | alter (p : h.Provider) (id : Nat) (object : h.Object p)

/-- The commands and the scene: what decides which commands there are to run. -/
structure Setup (h : Host) where
  registry : Registry h
  scene : Scene h

namespace Setup

def empty : Setup h := ⟨.empty, .empty⟩

def apply (s : Setup h) : Change h → Setup h
  | .register command => { s with registry := (s.registry.register command).2 }
  | .provide commands => { s with registry := (s.registry.registerAll commands).2 }
  | .spawn name p object => { s with scene := (s.scene.spawn name p object).2 }
  | .despawn id => { s with scene := (s.scene.despawn id).2 }
  | .alter p id object => { s with scene := s.scene.set p id object }

def after (s : Setup h) (changes : List (Change h)) : Setup h := changes.foldl apply s

theorem after_append (s : Setup h) (first rest : List (Change h)) :
    s.after (first ++ rest) = (s.after first).after rest := List.foldl_append

/-- At most one object is another. -/
def Altered (s t : Setup h) : Prop := t = s ∨ ∃ p id object, t = s.apply (.alter p id object)

theorem Altered.registry {s t : Setup h} (altered : Altered s t) : t.registry = s.registry := by
  rcases altered with rfl | ⟨p, id, object, rfl⟩
  · rfl
  · rfl

end Setup

/-- What can happen to a console. -/
inductive Event (h : Host) (τ : Type) where
  | change (a : Change h)
  | converter (t : Target h) (overloads : List (Overload h t))
  /-- The host changes its state. -/
  | share (state : h.State)
  /-- The host writes to the display, or does anything else to it. -/
  | touch (f : τ → τ)
  | execute (raw : String)
  | submit (line : String)
  | tick
  | key (e : KeyEvent)
  | back
  | forward
  | resetCursor
  /-- The history is cleared. -/
  | forget

namespace Console

variable {τ : Type}

def setup (c : Console h τ) : Setup h := ⟨c.registry, c.scene⟩

def change (c : Console h τ) : Change h → Console h τ
  | .register command => c.registerCommand command
  | .provide commands => c.registerCommands commands
  | .spawn name p object => (c.spawn name p object).2
  | .despawn id => (c.despawn id).2
  | .alter p id object => { c with scene := c.scene.set p id object }

/-- Registering commands changes the registry and the log. -/
theorem registerCommands_eq (commands : List (Command h)) (c : Console h τ) :
    ∃ log, c.registerCommands commands = { c with registry := (c.registry.registerAll commands).2, log := log } := by
  induction commands generalizing c with
  | nil => exact ⟨c.log, rfl⟩
  | cons command commands ih =>
    obtain ⟨log, e⟩ := ih (c.registerCommand command)
    exact ⟨log, e⟩

theorem change_setup (c : Console h τ) (a : Change h) : (c.change a).setup = c.setup.apply a := by
  cases a with
  | provide commands =>
    obtain ⟨log, e⟩ := registerCommands_eq commands c
    rw [change, e]
    rfl
  | _ => rfl

theorem change_history (c : Console h τ) (a : Change h) : (c.change a).history = c.history := by
  cases a with
  | provide commands =>
    obtain ⟨log, e⟩ := registerCommands_eq commands c
    rw [change, e]
  | _ => rfl

theorem change_conversions (c : Console h τ) (a : Change h) : (c.change a).conversions = c.conversions := by
  cases a with
  | provide commands =>
    obtain ⟨log, e⟩ := registerCommands_eq commands c
    rw [change, e]
  | _ => rfl

/-! ## What a line leaves alone -/

/-- The most that running a line can have done, apart from the display, the host's state,
    the log and the wish to quit. -/
structure Ran (c d : Console h τ) : Prop where
  setup : Setup.Altered c.setup d.setup
  conversions : d.conversions = c.conversions
  history : d.history = c.history
  colors : d.colors = c.colors
  toggleKey : d.toggleKey = c.toggleKey

/-- The display, the state, the log and the wish to quit do not count. -/
theorem ran_aside (c : Console h τ) (transport : τ) (state : h.State) (log : List Notice) (quit : Bool) :
    Ran c { c with transport := transport, state := state, log := log, quitRequested := quit } :=
  ⟨.inl rfl, rfl, rfl, rfl, rfl⟩

theorem Ran.of_note {c d : Console h τ} {notices : List Notice} (ran : Ran (c.note notices) d) : Ran c d :=
  ⟨ran.setup, ran.conversions, ran.history, ran.colors, ran.toggleKey⟩

variable [Transport τ]

theorem runBuiltin_ran (c : Console h τ) (b : Builtin) (args : Arguments h) : Ran c (c.runBuiltin b args).1 := by
  cases b with
  | help => exact c.ran_aside _ _ _ _
  | describe =>
    simp only [runBuiltin]
    split
    · exact c.ran_aside _ _ _ _
    · split
      · exact c.ran_aside _ _ _ _
      · exact c.ran_aside _ _ _ _
  | quit => exact c.ran_aside _ _ _ _
  | close =>
    simp only [runBuiltin]
    split
    · exact c.ran_aside _ _ _ _
    · exact c.ran_aside _ _ _ _
  | clear => exact c.ran_aside _ _ _ _

theorem invoke_ran (c : Console h τ) (p : h.Provider) (run : Handler h p) (args : Arguments h) :
    Ran c (c.invoke p run args).1 := by
  unfold invoke invokeIn
  dsimp only
  split
  · exact c.ran_aside _ _ _ _
  · split
    · exact c.ran_aside _ _ _ _
    · split
      · exact c.ran_aside _ _ _ _
      · exact ⟨.inr ⟨_, _, _, rfl⟩, rfl, rfl, rfl, rfl⟩

theorem dispatch_ran (c : Console h τ) (raw : String) : Ran c (c.dispatch raw).1 := by
  rw [dispatch_eq]
  split
  · exact c.ran_aside _ _ _ _
  · split
    · exact (runBuiltin_ran _ _ _).of_note
    · exact (invoke_ran _ _ _ _).of_note

/-- Executing a line puts another object into one instance at most. -/
theorem execute_setup (c : Console h τ) (raw : String) : Setup.Altered c.setup (c.execute raw).setup := by
  have same : (c.execute raw).setup = (c.dispatch raw).1.setup := by
    rw [execute_eq]
    split <;> rfl
  rw [same]
  exact (c.dispatch_ran raw).setup

theorem submit_registry (c : Console h τ) (line : String) : (c.submit line).registry = c.registry :=
  ((c.write [echo line]).execute_setup line).registry

/-! ## Events -/

def step (c : Console h τ) : Event h τ → Console h τ
  | .change a => c.change a
  | .converter t overloads => c.registerConverter t overloads
  | .share state => { c with state := state }
  | .touch f => { c with transport := f c.transport }
  | .execute raw => c.execute raw
  | .submit line => c.submit line
  | .tick => c.tick.2
  | .key e => c.handle e
  | .back => { c with history := c.history.back.2 }
  | .forward => { c with history := c.history.forward.2 }
  | .resetCursor => { c with history := c.history.resetCursor }
  | .forget => { c with history := c.history.clear }

def run (c : Console h τ) (es : List (Event h τ)) : Console h τ := es.foldl step c

/-- What is written down along a run, from the console each event meets. -/
def along {α : Type} (note : Console h τ → Event h τ → α → α) (c : Console h τ) (a : α) : List (Event h τ) → α
  | [] => a
  | e :: es => along note (c.step e) (note c e a) es

/-- What holds at the start and is kept by every event holds after a run. -/
theorem along_holds {α : Type} {note : Console h τ → Event h τ → α → α} {holds : Console h τ → α → Prop}
    (kept : ∀ c a e, holds c a → holds (c.step e) (note c e a)) (es : List (Event h τ)) {c : Console h τ} {a : α}
    (start : holds c a) : holds (c.run es) (along note c a es) := by
  induction es generalizing c a with
  | nil => exact start
  | cons e es ih => exact ih (kept c a e start)

/-! ## Lines on the way -/

/-- The console and the line, if an event has a line dispatched. -/
def dispatches (c : Console h τ) : Event h τ → Option (Console h τ × String)
  | .execute raw => some (c, raw)
  | .submit line => some (c.write [echo line], line)
  | .tick =>
    match Transport.poll c.transport with
    | (none, _) => none
    | (some line, t) => some (({ c with transport := t } : Console h τ).write [echo line], line)
  | .key (.key .submit) =>
    if Transport.isVisible c.transport then
      some (c.write [echo (Transport.input c.transport)], Transport.input c.transport)
    else none
  | _ => none

/-- An event that has a line dispatched has it executed, and does nothing else but to the
    display. -/
theorem step_dispatches {c d : Console h τ} {e : Event h τ} {raw : String} (he : c.dispatches e = some (d, raw)) :
    (∃ t, d = { c with transport := t }) ∧ ∃ t, c.step e = { d.execute raw with transport := t } := by
  cases e with
  | execute line =>
    obtain ⟨rfl, rfl⟩ : c = d ∧ line = raw := by simpa [dispatches] using he
    exact ⟨⟨_, rfl⟩, ⟨_, rfl⟩⟩
  | submit line =>
    obtain ⟨rfl, rfl⟩ : c.write [echo line] = d ∧ line = raw := by simpa [dispatches] using he
    exact ⟨⟨_, rfl⟩, ⟨_, rfl⟩⟩
  | tick =>
    simp only [dispatches] at he
    rcases hp : Transport.poll c.transport with ⟨_ | line, t⟩
    · simp [hp] at he
    · simp only [hp, Option.some.injEq, Prod.mk.injEq] at he
      obtain ⟨rfl, rfl⟩ := he
      exact ⟨⟨_, rfl⟩, ⟨_, by simp only [step, tick, hp]; rfl⟩⟩
  | key k =>
    cases k with
    | key k =>
      cases k with
      | submit =>
        simp only [dispatches] at he
        split at he
        · rename_i visible
          simp only [Option.some.injEq, Prod.mk.injEq] at he
          obtain ⟨rfl, rfl⟩ := he
          exact ⟨⟨_, rfl⟩, ⟨_, by simp only [step, handle, visible, if_true]; rfl⟩⟩
        · cases he
      | _ => cases he
    | _ => cases he
  | _ => cases he

/-! ## Nothing on the way -/

/-- Stepping through the history moves the cursor. -/
theorem back_snd (l : History) : ∃ n, l.back.2 = { l with cursor := n } := by
  unfold History.back
  split
  · exact ⟨l.cursor, rfl⟩
  · exact ⟨_, rfl⟩

theorem forward_snd (l : History) : ∃ n, l.forward.2 = { l with cursor := n } := by
  unfold History.forward
  split
  · exact ⟨l.cursor, rfl⟩
  · exact ⟨_, rfl⟩

theorem tick_quiet {c : Console h τ} (quiet : c.dispatches .tick = none) : ∃ t, c.tick.2 = { c with transport := t } := by
  rcases hp : Transport.poll c.transport with ⟨_ | line, t⟩
  · exact ⟨t, by simp only [tick, hp]⟩
  · simp [dispatches, hp] at quiet

theorem toggle_quiet (c : Console h τ) : ∃ t, c.toggle = { c with transport := t } := by
  unfold toggle
  split
  · exact ⟨_, rfl⟩
  · exact ⟨_, rfl⟩

theorem showRecalled_quiet (c : Console h τ) (found : String × History) :
    ∃ t, c.showRecalled found = { c with transport := t, history := found.2 } := by
  unfold showRecalled
  dsimp only
  split
  · exact ⟨_, rfl⟩
  · exact ⟨_, rfl⟩

/-- A key that submits nothing changes the display and moves the cursor of the history. -/
theorem handle_quiet {c : Console h τ} {k : KeyEvent} (quiet : c.dispatches (.key k) = none) :
    ∃ t n, c.handle k = { c with transport := t, history := { c.history with cursor := n } } := by
  have typed : ∀ d : Console h τ, (∃ t, d = { c with transport := t }) →
      ∃ t n, d = { c with transport := t, history := { c.history with cursor := n } } := by
    rintro d ⟨t, rfl⟩
    exact ⟨t, c.history.cursor, rfl⟩
  have recalled : ∀ found : String × History, (∃ n, found.2 = { c.history with cursor := n }) →
      ∃ t n, c.showRecalled found = { c with transport := t, history := { c.history with cursor := n } } := by
    rintro found ⟨n, hn⟩
    obtain ⟨t, e⟩ := c.showRecalled_quiet found
    exact ⟨t, n, by rw [e, hn]⟩
  by_cases visible : Transport.isVisible c.transport = true
  · cases k with
    | character ch => exact typed _ ⟨_, by simp only [handle, visible, if_true]; rfl⟩
    | backspace =>
      simp only [handle, visible, if_true]
      split
      · exact typed _ ⟨_, rfl⟩
      · exact typed _ ⟨_, rfl⟩
    | key k =>
      cases k with
      | submit => simp [dispatches, visible] at quiet
      | toggleVisibility => exact typed _ c.toggle_quiet
      | historyBack =>
        simp only [handle, visible, if_true]
        exact recalled _ (back_snd _)
      | historyForward =>
        simp only [handle, visible, if_true]
        exact recalled _ (forward_snd _)
  · cases k with
    | key k =>
      cases k with
      | toggleVisibility => exact typed _ c.toggle_quiet
      | _ =>
        simp only [handle, visible]
        exact typed _ ⟨_, rfl⟩
    | _ =>
      simp only [handle, visible]
      exact typed _ ⟨_, rfl⟩

/-- Only a line or clearing changes the entries of the history. -/
theorem step_quiet {c : Console h τ} {e : Event h τ} (quiet : c.dispatches e = none) (kept : e ≠ .forget) :
    ∃ n, (c.step e).history = { c.history with cursor := n } := by
  cases e with
  | change a => exact ⟨c.history.cursor, c.change_history a⟩
  | execute => cases quiet
  | submit => cases quiet
  | tick =>
    obtain ⟨t, e⟩ := tick_quiet quiet
    exact ⟨c.history.cursor, by rw [step, e]⟩
  | key k =>
    obtain ⟨t, n, e⟩ := handle_quiet quiet
    exact ⟨n, by rw [step, e]⟩
  | back => exact back_snd c.history
  | forward => exact forward_snd c.history
  | resetCursor => exact ⟨0, rfl⟩
  | forget => exact absurd rfl kept
  | _ => exact ⟨c.history.cursor, rfl⟩

/-! ## The setup along a run -/

/-- Only a change does more to the commands and the scene than to put in another object. -/
theorem step_setup (c : Console h τ) {e : Event h τ} (other : ∀ a, e ≠ .change a) :
    Setup.Altered c.setup (c.step e).setup := by
  cases hd : c.dispatches e with
  | some ran =>
    obtain ⟨⟨t, hd⟩, ⟨u, he⟩⟩ := step_dispatches hd
    have same : ran.1.setup = c.setup := by rw [hd]; rfl
    rw [he, ← same]
    exact ran.1.execute_setup ran.2
  | none =>
    cases e with
    | change a => exact absurd rfl (other a)
    | execute => cases hd
    | submit => cases hd
    | tick =>
      obtain ⟨t, e⟩ := tick_quiet hd
      exact .inl (by rw [step, e]; rfl)
    | key k =>
      obtain ⟨t, n, e⟩ := handle_quiet hd
      exact .inl (by rw [step, e]; rfl)
    | _ => exact .inl rfl

/-- Only a converter changes the conversions. -/
theorem step_conversions (c : Console h τ) {e : Event h τ} (other : ∀ t overloads, e ≠ .converter t overloads) :
    (c.step e).conversions = c.conversions := by
  cases hd : c.dispatches e with
  | some ran =>
    obtain ⟨⟨t, hd⟩, ⟨u, he⟩⟩ := step_dispatches hd
    have same : (ran.1.execute ran.2).conversions = (ran.1.dispatch ran.2).1.conversions := by
      rw [execute_eq]
      split <;> rfl
    rw [he, same, (ran.1.dispatch_ran ran.2).conversions, hd]
  | none =>
    cases e with
    | change a => exact c.change_conversions a
    | converter t overloads => exact absurd rfl (other t overloads)
    | execute => cases hd
    | submit => cases hd
    | tick =>
      obtain ⟨t, e⟩ := tick_quiet hd
      rw [step, e]
    | key k =>
      obtain ⟨t, n, e⟩ := handle_quiet hd
      rw [step, e]
    | _ => rfl

/-- The commands and the scene of a run are those of some changes. -/
theorem run_setup (c : Console h τ) (es : List (Event h τ)) :
    ∃ changes : List (Change h), (c.run es).setup = c.setup.after changes := by
  induction es generalizing c with
  | nil => exact ⟨[], rfl⟩
  | cons e es ih =>
    obtain ⟨rest, hrest⟩ := ih (c.step e)
    have first : ∃ changes : List (Change h), (c.step e).setup = c.setup.after changes := by
      by_cases change : ∃ a, e = .change a
      · obtain ⟨a, rfl⟩ := change
        exact ⟨[a], c.change_setup a⟩
      · rcases c.step_setup (fun a he => change ⟨a, he⟩) with same | ⟨p, id, object, altered⟩
        · exact ⟨[], same⟩
        · exact ⟨[.alter p id object], altered⟩
    obtain ⟨changes, hfirst⟩ := first
    refine ⟨changes ++ rest, ?_⟩
    rw [Setup.after_append, ← hfirst]
    exact hrest

end Console

end CommandConsole
