/-
  CommandConsole.Proofs.Replacement — how long a console keeps its own commands.

  A new console knows its own five commands. They have no provider, so whatever happens to
  the scene they are live. But a name stands for one command, the one registered last. A
  host that registers a command under one of the five names takes the name over, and nothing
  gives it back: the console registers its own commands once, when it is made. The name then
  stands for the host's command while that is live, and otherwise for nothing.

  Proved:
  - `Holds.run`: at any moment of a run the registry holds the last command registered under
    each name, of those it began with and those the run has registered (`Event.commands`).
  - `own_until_replaced`: after any run of a new console each of its own commands is still
    found and live unless the run has registered its name; a name it has registered stands
    for its last command of the name, as long as that is live. If the name `quit` is not
    among them, the line `quit` asks the host to quit.
  - `quit_replaced`: a console that does not know `quit`.
-/

import CommandConsole.Demo
import CommandConsole.Proofs.OwnCommands
import CommandConsole.Transport.Surface

namespace CommandConsole

variable {h : Host} {τ : Type}

/-! ## What a run registers -/

/-- The commands an event registers. -/
def Event.commands : Event h τ → List (Command h)
  | .change a => a.commands
  | _ => []

namespace Registry

variable [Transport τ]

/-- Whatever happens, the last command of a name is kept. -/
theorem Holds.step {c : Console h τ} {registered : List (Command h)} (holds : Holds c.registry registered) (e : Event h τ) :
    Holds (c.step e).registry (registered ++ e.commands) := by
  by_cases change : ∃ a, e = .change a
  · obtain ⟨a, rfl⟩ := change
    show Holds (c.change a).setup.registry _
    rw [c.change_setup a]
    exact Holds.apply (s := c.setup) holds a
  · have nothing : e.commands = [] := by
      cases e with
      | change a => exact absurd ⟨a, rfl⟩ change
      | _ => rfl
    have same : (c.step e).registry = c.registry := (c.step_setup fun a he => change ⟨a, he⟩).registry
    rw [nothing, List.append_nil, same]
    exact holds

theorem Holds.run {c : Console h τ} {registered : List (Command h)} (holds : Holds c.registry registered)
    (es : List (Event h τ)) : Holds (c.run es).registry (registered ++ es.flatMap Event.commands) := by
  induction es generalizing c registered with
  | nil =>
    rw [List.flatMap_nil, List.append_nil]
    exact holds
  | cons e es ih =>
    have rest := ih (holds.step e)
    rw [List.append_assoc] at rest
    exact rest

/-- What has been registered since decides about its own names only. -/
theorem Holds.resolve?_append {r : Registry h} {first since : List (Command h)} (holds : Holds r (first ++ since)) (name : String) :
    r.resolve? name = ((since.filter (·.name == name)).getLast?).or (first.filter (·.name == name)).getLast? := by
  rw [holds.latest, List.filter_append, List.getLast?_append]

end Registry

/-- Each of the console's own commands has a name of its own. -/
theorem builtins_latest {own : Command h} (hown : own ∈ (Command.builtins : List (Command h))) :
    ((Command.builtins : List (Command h)).filter (·.name == own.name)).getLast? = some own := by
  simp only [Command.builtins, List.mem_cons, List.not_mem_nil, or_false] at hown
  rcases hown with rfl | rfl | rfl | rfl | rfl <;> simp [Command.builtins]

/-! ## The line `quit` -/

theorem quit_own : ∃ own ∈ (Command.builtins : List (Command h)),
    own.name = "quit" ∧ own.params = [] ∧ own.binding = .builtin .quit := by
  simp [Command.builtins]

namespace Console

variable [Transport τ]

/-- Running a command that is bound to the console's `quit` and takes nothing. -/
theorem quit_requested {c : Console h τ} {raw name : String} {command : Command h} (parses : Line.parse raw = .ok [name])
    (found : c.registry.resolveLive? c.scene name = some command) (plain : command.params = [])
    (bound : command.binding = .builtin .quit) : (c.execute raw).quitRequested = true := by
  have resolved : c.resolve raw = .ok (command, []) := by simp [resolve, parses, found, plain]
  have prepared : c.prepare raw = ([], .ok (command, [])) := by
    unfold prepare
    rw [resolved]
    dsimp only
    rw [plain]
    rfl
  have ran : c.dispatch raw = ({ c.note [] with quitRequested := true }, .ok ()) := by
    simp only [dispatch_eq, prepared, bound, runBuiltin]
  rw [execute_eq, ran]

/-! ## After a run -/

/-- After any run of a new console: one of its own commands is found by its name and is
    live, if the run has registered no command of that name. Under a name that the run has
    registered the last command is found, if it is live, and else none. And if the run has
    registered no command `quit`, executing the line `quit` asks the host to quit. -/
theorem own_until_replaced (transport : τ) (settings : Settings) (state : h.State) (es : List (Event h τ)) :
    let c := (create transport settings state).run es
    let added := es.flatMap Event.commands
    (∀ own ∈ (Command.builtins : List (Command h)), own.name ∉ added.map (·.name) →
      c.registry.resolveLive? c.scene own.name = some own) ∧
    (∀ name ∈ added.map (·.name), ∃ last, (added.filter (·.name == name)).getLast? = some last ∧
      c.registry.resolveLive? c.scene name = if Registry.isLive c.scene last then some last else none) ∧
    ("quit" ∉ added.map (·.name) → (c.execute "quit").quitRequested = true) := by
  intro c added
  have holds : c.registry.Holds (Command.builtins ++ added) :=
    Registry.Holds.run (c := create transport settings state) standard_holds es
  have kept : ∀ own ∈ (Command.builtins : List (Command h)), own.name ∉ added.map (·.name) →
      c.registry.resolveLive? c.scene own.name = some own := by
    intro own hown free
    have none : added.filter (·.name == own.name) = [] := by
      rw [List.filter_eq_nil_iff]
      intro d hd same
      exact free (eq_of_beq same ▸ List.mem_map_of_mem hd)
    rw [Registry.resolveLive?, holds.resolve?_append, none, builtins_latest hown]
    exact if_pos (builtins_live c.scene own hown)
  refine ⟨kept, fun name hname => ?_, fun free => ?_⟩
  · obtain ⟨d, hd, rfl⟩ := List.mem_map.mp hname
    have some : added.filter (·.name == d.name) ≠ [] :=
      List.ne_nil_of_mem (List.mem_filter.mpr ⟨hd, beq_self_eq_true _⟩)
    refine ⟨_, List.getLast?_eq_some_getLast some, ?_⟩
    rw [Registry.resolveLive?, holds.resolve?_append, List.getLast?_eq_some_getLast some]
    rfl
  · have parses : Line.parse "quit" = .ok ["quit"] := by decide +kernel
    obtain ⟨own, hown, named, plain, bound⟩ := quit_own (h := h)
    rw [← named] at free parses
    rw [← named]
    exact quit_requested parses (kept own hown free) plain bound

/-- A host registers two commands, one of them under a name of the console's own. -/
theorem own_until_replaced_clear :
    let inspector (name : String) : Command (Demo.host Host.bare) :=
      { name := name, description := "", params := [], binding := .handler (.inl .inspector) Demo.inspect }
    let es : List (Event (Demo.host Host.bare) Surface) :=
      [.change (.provide [inspector "look", inspector "clear"]), .change (.spawn "first" (.inl .inspector) ()),
        .execute "look", .change (.despawn 0), .submit "clear"]
    let c := (create Surface.start Settings.standard (World.demo, ())).run es
    "quit" ∉ (es.flatMap Event.commands).map (·.name) ∧ "help" ∉ (es.flatMap Event.commands).map (·.name) ∧
      "clear" ∈ (es.flatMap Event.commands).map (·.name) ∧
      (c.registry.resolveLive? c.scene "help").isSome = true ∧
      (c.registry.resolveLive? c.scene "clear").isNone = true ∧
      (c.execute "quit").quitRequested = true := by
  intro inspector es c
  have quit : "quit" ∉ (es.flatMap Event.commands).map (·.name) := by decide
  have help : "help" ∉ (es.flatMap Event.commands).map (·.name) := by decide
  have clear : "clear" ∈ (es.flatMap Event.commands).map (·.name) := by decide
  obtain ⟨kept, replaced, quits⟩ := own_until_replaced Surface.start Settings.standard (World.demo, ()) es
  obtain ⟨last, latest, found⟩ := replaced "clear" clear
  obtain rfl : inspector "clear" = last := Option.some.inj latest
  have gone : Registry.isLive c.scene (inspector "clear") = false := by decide +kernel
  refine ⟨quit, help, clear, ?_, ?_, quits quit⟩
  · rw [kept _ List.mem_cons_self help]
    rfl
  · rw [found, gone]
    rfl

/-- A host takes over `quit` with a command that has no instance to run against: the name
    stands for nothing, and the line does not quit. -/
theorem quit_replaced :
    let command : Command (Demo.host Host.bare) :=
      { name := "quit", description := "d", params := [], binding := .handler (.inl .inspector) Demo.inspect }
    let c := (create Surface.start Settings.standard (World.demo, ())).run [.change (.register command)]
    (c.registry.resolveLive? c.scene "quit").isNone = true ∧ (c.execute "quit").quitRequested = false := by
  decide +kernel

end Console

end CommandConsole
