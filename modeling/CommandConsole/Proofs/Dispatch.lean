/-
  CommandConsole.Proofs.Dispatch — a line runs whole or not at all.

  A line passes four stages before anything runs: it parses, its first token names a
  live command, the other tokens are as many as the command's parameters, and each of
  them converts. `Stages` says how they end in terms of these four questions alone: with
  the failure of the first stage that fails, or with a command and its arguments.

  What runs. A line may be executed in any monad that runs the handlers it asks for. Asked
  plainly that is `execute`; `journaled` also writes down each run of a handler.

  Proved, for every console, transport and line:
  - `stages_prepare` / `Stages.unique`: the stages end in exactly one way.
  - `journaled_fst`: writing down the handlers changes nothing.
  - `execute_all_or_nothing`: at most one handler runs, and one does exactly when the
    stages end with a command of a provider; a command of the console runs none and keeps
    the live objects, the commands and the conversions; a stage that fails leaves
    everything as it was but the log and the output, which gets the report of that stage
    and nothing else.
-/

import CommandConsole.Console.Dispatch
import CommandConsole.Transport.Surface
import Mathlib.Data.List.Forall2

namespace CommandConsole

variable {h : Host}

/-! ## Converting the tokens -/

namespace Conversions

variable (c : Conversions h) (state : h.State)

/-- What a declared type and its token convert to. -/
def Gives (x : ParamType h × String) (a : Argument h) : Prop := (c.argument state x.1 x.2).2 = .ok a

theorem convertAll_ok_iff {types : List (ParamType h)} {tokens : List String} {args : Arguments h} :
    (c.convertAll state types tokens).2 = .ok args ↔ List.Forall₂ (c.Gives state) (types.zip tokens) args := by
  induction types generalizing tokens args with
  | nil => simp [convertAll, eq_comm]
  | cons type types ih =>
    cases tokens with
    | nil => simp [convertAll, eq_comm]
    | cons token tokens =>
      rw [List.zip_cons_cons, List.forall₂_cons_left_iff]
      rcases e : c.argument state type token with ⟨noted, f | a⟩
      · simp [convertAll, Gives, e]
      · rcases e' : (c.convertAll state types tokens).2 with f | rest
        · have : ∀ as, ¬ List.Forall₂ (c.Gives state) (types.zip tokens) as := by
            intro as has
            rw [← ih, e'] at has
            cases has
          simp [convertAll, e, e', Except.map, this]
        · have hrest := ih.mp e'
          simp only [convertAll, e, e', Except.map, Gives, Except.ok.injEq]
          constructor
          · rintro rfl
            exact ⟨a, rest, rfl, hrest, rfl⟩
          · rintro ⟨b, as, rfl, has, rfl⟩
            rw [← ih, e'] at has
            cases has
            rfl

theorem convertAll_error_iff {types : List (ParamType h)} {tokens : List String} {f : Failure} :
    (c.convertAll state types tokens).2 = .error f ↔
      f = .badArgument ∧ ∃ x ∈ types.zip tokens, ∃ g, (c.argument state x.1 x.2).2 = .error g := by
  induction types generalizing tokens with
  | nil => simp [convertAll]
  | cons type types ih =>
    cases tokens with
    | nil => simp [convertAll]
    | cons token tokens =>
      rw [List.zip_cons_cons, List.exists_mem_cons_iff]
      rcases e : c.argument state type token with ⟨noted, g | a⟩
      · simp [convertAll, e, eq_comm]
      · simp only [reduceCtorEq, exists_false, false_or, ← ih]
        rcases e' : (c.convertAll state types tokens).2 with g | rest <;> simp [convertAll, e, e', Except.map]

end Conversions

namespace Console

variable {τ : Type}

/-! ## The four stages -/

/-- How the stages of a line end. -/
inductive Stages (c : Console h τ) (raw : String) : Except Failure (Command h × Arguments h) → Prop
  | unparsed {f : Failure} : Line.parse raw = .error f → Stages c raw (.error f)
  | unknown {name : String} {tokens : List String} : Line.parse raw = .ok (name :: tokens) →
      c.registry.resolveLive? c.scene name = none → Stages c raw (.error (.unknownCommand name))
  | miscounted {name : String} {tokens : List String} {command : Command h} :
      Line.parse raw = .ok (name :: tokens) → c.registry.resolveLive? c.scene name = some command →
      tokens.length ≠ command.params.length →
      Stages c raw (.error (.wrongArgumentCount tokens.length command.params.length command.usage))
  | unconverted {name : String} {tokens : List String} {command : Command h} {x : ParamType h × String} {g : Failure} :
      Line.parse raw = .ok (name :: tokens) → c.registry.resolveLive? c.scene name = some command →
      tokens.length = command.params.length → x ∈ (command.params.map (·.type)).zip tokens →
      (c.conversions.argument c.state x.1 x.2).2 = .error g → Stages c raw (.error .badArgument)
  | ready {name : String} {tokens : List String} {command : Command h} {args : Arguments h} :
      Line.parse raw = .ok (name :: tokens) → c.registry.resolveLive? c.scene name = some command →
      tokens.length = command.params.length →
      List.Forall₂ (c.conversions.Gives c.state) ((command.params.map (·.type)).zip tokens) args →
      Stages c raw (.ok (command, args))

/-- The stages end as `prepare` answers. -/
theorem stages_prepare (c : Console h τ) (raw : String) : Stages c raw (c.prepare raw).2 := by
  unfold prepare resolve
  cases e : Line.parse raw with
  | error f => exact .unparsed e
  | ok ts =>
    cases ts with
    | nil => exact absurd rfl (Line.parse_ne_nil e)
    | cons name tokens =>
      cases e' : c.registry.resolveLive? c.scene name with
      | none => simpa [e'] using Stages.unknown e e'
      | some command =>
        by_cases n : tokens.length = command.params.length
        · simp only [e', n, if_true]
          rcases e'' : (c.conversions.convertAll c.state (command.params.map (·.type)) tokens).2 with f | args
          · obtain ⟨rfl, x, hx, g, hg⟩ := (Conversions.convertAll_error_iff _ _).mp e''
            simpa [e'', Except.map] using Stages.unconverted e e' n hx hg
          · simpa [e'', Except.map] using Stages.ready e e' n ((Conversions.convertAll_ok_iff _ _).mp e'')
        · simpa [e', n] using Stages.miscounted e e' n

/-- The stages end in one way only. -/
theorem Stages.unique {c : Console h τ} {raw : String} {r : Except Failure (Command h × Arguments h)}
    (hr : Stages c raw r) : r = (c.prepare raw).2 := by
  unfold prepare resolve
  cases hr with
  | unparsed e => simp [e]
  | unknown e e' => simp [e, e']
  | miscounted e e' n => simp [e, e', n]
  | unconverted e e' n hx hg =>
    have := (c.conversions.convertAll_error_iff c.state).mpr ⟨rfl, _, hx, _, hg⟩
    simp [e, e', n, this, Except.map]
  | ready e e' n hargs =>
    have := (c.conversions.convertAll_ok_iff c.state).mpr hargs
    simp [e, e', n, this, Except.map]

/-- A command that the stages end with is live. -/
theorem Stages.live {c : Console h τ} {raw : String} {command : Command h} {args : Arguments h}
    (hr : Stages c raw (.ok (command, args))) : Registry.isLive c.scene command = true := by
  cases hr with
  | ready _ e _ _ => exact (Option.filter_eq_some_iff.mp e).2

/-- A command of a provider that the stages end with has a live provider. -/
theorem Stages.provider_live {c : Console h τ} {raw : String} {command : Command h} {args : Arguments h} {p : h.Provider}
    {run : Handler h p} (hr : Stages c raw (.ok (command, args))) (hb : command.binding = .handler p run) :
    c.scene.isLive p = true := by
  have := hr.live
  simpa [Registry.isLive, Command.provider, hb] using this

/-- No stage fails in silence. -/
theorem Stages.not_silent {c : Console h τ} {raw : String} {f : Failure} (hr : Stages c raw (.error f)) :
    f.isSilent = false := by
  cases hr with
  | unparsed e => rcases Line.parse_error e with rfl | rfl <;> rfl
  | _ => rfl

/-! ## What runs -/

variable [Transport τ]

/-- A handler run plainly, and written down. -/
def record (i : Invocation h) : StateM (List (Invocation h)) (Reply h i.provider) := do
  modify (· ++ [i])
  pure i.reply

/-- A line, and the handlers that ran for it, in order. -/
def journaled (c : Console h τ) (raw : String) : Console h τ × List (Invocation h) :=
  (c.executeIn record raw).run []

/-- Run plainly, the handlers are run as `invoke` runs them. -/
theorem invokeIn_fst (c : Console h τ) (p : h.Provider) (run : Handler h p) (args : Arguments h) (js : List (Invocation h)) :
    ((c.invokeIn record p run args).run js).1 = c.invoke p run args := by
  unfold invoke invokeIn
  rcases c.scene.choose p with ⟨noted, f | id⟩
  · rfl
  · dsimp only [note]
    cases c.scene.find? id with
    | none => rfl
    | some found =>
      dsimp only
      cases found.as? p <;> rfl

theorem dispatchIn_fst (c : Console h τ) (raw : String) (js : List (Invocation h)) :
    ((c.dispatchIn record raw).run js).1 = c.dispatch raw := by
  rw [dispatch_eq]
  unfold dispatchIn
  rcases c.prepare raw with ⟨noted, f | ⟨command, args⟩⟩
  · rfl
  · dsimp only
    cases command.binding with
    | builtin b => rfl
    | handler p run => exact (c.note noted).invokeIn_fst p run args js

theorem journaled_fst (c : Console h τ) (raw : String) : (c.journaled raw).1 = c.execute raw := by
  rw [execute_eq, ← c.dispatchIn_fst raw []]
  unfold journaled executeIn
  rw [StateT.run_bind]
  rcases (c.dispatchIn record raw).run [] with ⟨⟨d, _ | _⟩, js⟩ <;> rfl

/-- Against a live provider exactly one handler runs, on the arguments and the host's state. -/
theorem invokeIn_snd (c : Console h τ) {p : h.Provider} (live : c.scene.isLive p = true) (run : Handler h p)
    (args : Arguments h) (js : List (Invocation h)) :
    ∃ name object, ((c.invokeIn record p run args).run js).2 =
      js ++ [⟨p, run, ⟨Transport.style c.transport, args, name⟩, c.state, object⟩] := by
  obtain ⟨i, object, hc, hf, ho⟩ := c.scene.choose_of_isLive live
  refine ⟨i.name, object, ?_⟩
  unfold invokeIn
  rcases e : c.scene.choose p with ⟨noted, r⟩
  rw [e] at hc
  subst hc
  simp only [note, hf, ho]
  rfl

/-! ## How each ending goes on -/

theorem dispatch_builtin {c : Console h τ} {raw : String} {command : Command h} {args : Arguments h} {b : Builtin}
    (hr : Stages c raw (.ok (command, args))) (hb : command.binding = .builtin b) :
    c.dispatch raw = (c.note (c.prepare raw).1).runBuiltin b args := by
  simp only [dispatch_eq, ← hr.unique, hb]

/-- A line with a command of a provider invokes the handler and does nothing else, but to
    the log. -/
theorem dispatch_handler {c : Console h τ} {raw : String} {command : Command h} {args : Arguments h} {p : h.Provider}
    {run : Handler h p} (hr : Stages c raw (.ok (command, args))) (hb : command.binding = .handler p run) :
    c.dispatch raw = (c.note (c.prepare raw).1).invoke p run args := by
  simp only [dispatch_eq, ← hr.unique, hb]

theorem journaled_failed {c : Console h τ} {raw : String} {f : Failure} (hr : Stages c raw (.error f)) :
    c.journaled raw = ((c.note (c.prepare raw).1).write (failureReport f), []) := by
  have e := hr.unique
  unfold journaled executeIn dispatchIn
  rcases hp : c.prepare raw with ⟨noted, r⟩
  rw [hp] at e
  subst e
  rfl

theorem journaled_builtin {c : Console h τ} {raw : String} {command : Command h} {args : Arguments h} {b : Builtin}
    (hr : Stages c raw (.ok (command, args))) (hb : command.binding = .builtin b) : (c.journaled raw).2 = [] := by
  have e := hr.unique
  unfold journaled executeIn dispatchIn
  rcases hp : c.prepare raw with ⟨noted, r⟩
  rw [hp] at e
  subst e
  simp only [hb]
  rcases (c.note noted).runBuiltin b args with ⟨c', _ | _⟩ <;> rfl

/-- What runs for a command of a provider is what invoking its handler runs. -/
theorem journaled_invoke {c : Console h τ} {raw : String} {command : Command h} {args : Arguments h} {p : h.Provider}
    {run : Handler h p} (hr : Stages c raw (.ok (command, args))) (hb : command.binding = .handler p run) :
    (c.journaled raw).2 = (((c.note (c.prepare raw).1).invokeIn record p run args).run []).2 := by
  have e := hr.unique
  unfold journaled executeIn dispatchIn
  rcases hp : c.prepare raw with ⟨noted, r⟩
  rw [hp] at e
  subst e
  simp only [hb, StateT.run_bind]
  rcases ((c.note noted).invokeIn record p run args).run [] with ⟨⟨c', _ | _⟩, js⟩ <;> rfl

theorem journaled_handler {c : Console h τ} {raw : String} {command : Command h} {args : Arguments h} {p : h.Provider}
    {run : Handler h p} (hr : Stages c raw (.ok (command, args))) (hb : command.binding = .handler p run) :
    ∃ name object, (c.journaled raw).2 =
      [⟨p, run, ⟨Transport.style c.transport, args, name⟩, c.state, object⟩] := by
  obtain ⟨name, object, hj⟩ := (c.note (c.prepare raw).1).invokeIn_snd (hr.provider_live hb) run args []
  exact ⟨name, object, (journaled_invoke hr hb).trans hj⟩

/-- A line runs no handler, or one that its stages end with. -/
theorem journaled_cases (c : Console h τ) (raw : String) :
    (c.journaled raw).2 = [] ∨ (c.journaled raw).2.length = 1 ∧
      ∃ command args p run, Stages c raw (.ok (command, args)) ∧ command.binding = .handler p run := by
  have ending := c.stages_prepare raw
  rcases hp : (c.prepare raw).2 with f | ⟨command, args⟩ <;> rw [hp] at ending
  · left; rw [journaled_failed ending]
  · cases hb : command.binding with
    | builtin b => exact Or.inl (journaled_builtin ending hb)
    | handler p run =>
      obtain ⟨name, object, e⟩ := journaled_handler ending hb
      exact Or.inr ⟨by rw [e]; rfl, command, args, p, run, ending, hb⟩

/-- What the console's own commands leave alone. -/
structure SameHost (c d : Console h τ) : Prop where
  scene : d.scene = c.scene
  state : d.state = c.state
  registry : d.registry = c.registry
  conversions : d.conversions = c.conversions

theorem runBuiltin_sameHost (c : Console h τ) (b : Builtin) (args : Arguments h) : SameHost c (c.runBuiltin b args).1 := by
  unfold runBuiltin
  cases b with
  | describe =>
    dsimp only
    repeat' split
    all_goals exact ⟨rfl, rfl, rfl, rfl⟩
  | close => dsimp only; split <;> exact ⟨rfl, rfl, rfl, rfl⟩
  | _ => exact ⟨rfl, rfl, rfl, rfl⟩

theorem execute_sameHost {c : Console h τ} {raw : String} {command : Command h} {args : Arguments h} {b : Builtin}
    (hr : Stages c raw (.ok (command, args))) (hb : command.binding = .builtin b) : SameHost c (c.execute raw) := by
  rw [execute_eq, dispatch_builtin hr hb]
  have same := (c.note (c.prepare raw).1).runBuiltin_sameHost b args
  split <;> exact ⟨same.scene, same.state, same.registry, same.conversions⟩

/-! ## All or nothing -/

/-- The report of a stage that fails: its error line and, after a wrong number of
    arguments, the usage. -/
def stageReport : Failure → List Output.Op
  | .wrongArgumentCount given expected usage =>
    [.error (Failure.wrongArgumentCount given expected usage).message, .line ("Usage: " ++ usage)]
  | f => [.error f.message]

theorem failureReport_eq {f : Failure} (hf : f.isSilent = false) : failureReport f = stageReport f := by
  unfold failureReport
  rw [hf]
  cases f <;> rfl

/-- A line runs whole or not at all. Its stages end in one way. At most one handler runs,
    and one does exactly if they end with a command of a provider. A command of the
    console runs none and leaves the host's side alone. After a failed stage everything
    but the log and the display is as before, and a lawful display has got the report of
    that stage at the end of its output. -/
theorem execute_all_or_nothing (c : Console h τ) (raw : String) :
    (∃! r, Stages c raw r) ∧
    (c.journaled raw).1 = c.execute raw ∧
    (c.journaled raw).2.length ≤ 1 ∧
    ((c.journaled raw).2.length = 1 ↔
      ∃ command args p run, Stages c raw (.ok (command, args)) ∧ command.binding = .handler p run) ∧
    (∀ command args b, Stages c raw (.ok (command, args)) → command.binding = .builtin b →
      (c.journaled raw).2 = [] ∧ SameHost c (c.execute raw)) ∧
    (∀ f, Stages c raw (.error f) →
      (c.journaled raw).2 = [] ∧
      (∃ noted, c.execute raw =
        { c.note noted with transport := Transport.write c.colors (stageReport f) c.transport }) ∧
      ∀ [LawfulTransport τ],
        LawfulTransport.output (c.execute raw).transport = LawfulTransport.output c.transport ++
          Output.written (Transport.style c.transport) c.colors (stageReport f) ∧
        Transport.input (c.execute raw).transport = Transport.input c.transport ∧
        Transport.isVisible (c.execute raw).transport = Transport.isVisible c.transport) := by
  have failed : ∀ f, Stages c raw (.error f) → c.execute raw =
      { c.note (c.prepare raw).1 with transport := Transport.write c.colors (stageReport f) c.transport } := by
    intro f hr
    rw [← journaled_fst, journaled_failed hr, failureReport_eq hr.not_silent]
    rfl
  refine ⟨⟨_, c.stages_prepare raw, fun r hr => hr.unique⟩, c.journaled_fst raw, ?_, ?_, ?_, ?_⟩
  · rcases c.journaled_cases raw with none | ⟨one, -⟩
    · simp [none]
    · omega
  · constructor
    · intro one
      rcases c.journaled_cases raw with none | ⟨-, bound⟩
      · simp [none] at one
      · exact bound
    · rintro ⟨command, args, p, run, hr, hb⟩
      obtain ⟨name, object, e⟩ := journaled_handler hr hb
      rw [e]; rfl
  · intro command args b hr hb
    exact ⟨journaled_builtin hr hb, execute_sameHost hr hb⟩
  · intro f hr
    refine ⟨by rw [journaled_failed hr], ⟨_, failed f hr⟩, ?_⟩
    intro _
    rw [failed f hr]
    apply LawfulTransport.writeAs
    cases f <;> simp [stageReport]

/-- What is reported of a name that is not live, and of a wrong number of arguments. -/
theorem execute_all_or_nothing_reports :
    let c : Console Host.bare Surface := create Surface.start Settings.standard ()
    Stages c "warp" (.error (.unknownCommand "warp")) ∧ (c.journaled "warp").2 = [] ∧
      LawfulTransport.output (c.execute "warp").transport = "<color=#FF0000>\nCommand <b>warp</b> not found.</color>" ∧
    Stages c "chelp a b" (.error (.wrongArgumentCount 2 1 "<b>chelp</b> [command]")) ∧ (c.journaled "chelp a b").2 = [] ∧
      LawfulTransport.output (c.execute "chelp a b").transport =
        "<color=#FF0000>\n2 parameters given but 1 expected.</color>\nUsage: <b>chelp</b> [command]" := by
  intro c
  have unknown : Stages c "warp" (.error (.unknownCommand "warp")) := c.stages_prepare "warp"
  have miscounted : Stages c "chelp a b" (.error (.wrongArgumentCount 2 1 "<b>chelp</b> [command]")) := c.stages_prepare "chelp a b"
  obtain ⟨-, -, -, -, -, failed⟩ := execute_all_or_nothing c "warp"
  obtain ⟨idle, -, reported⟩ := failed _ unknown
  obtain ⟨-, -, -, -, -, failed'⟩ := execute_all_or_nothing c "chelp a b"
  obtain ⟨idle', -, reported'⟩ := failed' _ miscounted
  refine ⟨unknown, idle, ?_, miscounted, idle', ?_⟩
  · rw [reported.1]
    decide +kernel
  · rw [reported'.1]
    decide +kernel

end Console

end CommandConsole
