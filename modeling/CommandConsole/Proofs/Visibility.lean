/-
  CommandConsole.Proofs.Visibility — the same commands are visible everywhere.

  A name is looked up in four places: the list of commands, which `help` prints; the lookup of
  live commands; the dispatcher, for the first token of a line; and `chelp`, for its
  argument. Commands may have replaced each other by then, and the instances of their
  providers may be gone or never have been there. The places agree, and what they agree on
  is said by the registrations alone: the last command registered under a name is the one
  (`Holds.latest`), and the commands stand in the order of their names (`Holds.ordered`).

  Proved:
  - `Holds.after`: any changes keep the registry to what has been registered.
  - `visible_alike`: after any changes the four places agree about every name; the list has
    each name once, in order; there are as many commands as names registered.
  Since a run of a console is nothing but changes to its commands and scene
  (`Console.run_setup`), the same holds of a console at any moment of a run.
-/

import CommandConsole.Proofs.Runs
import Mathlib.Data.Finset.Card
import Mathlib.Data.List.Nodup
import Mathlib.Data.String.Basic
import Mathlib.Tactic.TFAE

namespace CommandConsole

variable {h : Host}

namespace Registry

/-! ## Insertion by name -/

theorem mem_insert {c d : Command h} {cs : List (Command h)} (hd : d ∈ insert c cs) : d = c ∨ d ∈ cs := by
  induction cs with
  | nil => exact .inl (List.mem_singleton.mp hd)
  | cons e cs ih =>
    unfold insert at hd
    split at hd
    · rcases List.mem_cons.mp hd with rfl | hd
      · exact .inl rfl
      · exact .inr (List.mem_cons_of_mem e hd)
    · split at hd
      · exact List.mem_cons.mp hd
      · rcases List.mem_cons.mp hd with rfl | hd
        · exact .inr List.mem_cons_self
        · exact (ih hd).imp_right (List.mem_cons_of_mem e)

/-- The commands stand in the order of their names, and no name twice. -/
def Ordered (cs : List (Command h)) : Prop := cs.Pairwise fun c d => c.name < d.name

theorem Ordered.insert {cs : List (Command h)} (ordered : Ordered cs) (c : Command h) : Ordered (insert c cs) := by
  induction cs with
  | nil => exact List.pairwise_singleton _ c
  | cons d cs ih =>
    obtain ⟨first, rest⟩ := List.pairwise_cons.mp ordered
    unfold Registry.insert
    split
    · rename_i same
      exact List.pairwise_cons.mpr ⟨fun e he => same ▸ first e he, rest⟩
    · rename_i new
      split
      · rename_i before
        refine List.pairwise_cons.mpr ⟨fun e he => ?_, ordered⟩
        rcases List.mem_cons.mp he with rfl | he
        · exact before
        · exact before.trans (first e he)
      · rename_i after
        refine List.pairwise_cons.mpr ⟨fun e he => ?_, ih rest⟩
        rcases mem_insert he with rfl | he
        · exact lt_of_le_of_ne (not_lt.mp after) (Ne.symm new)
        · exact first e he

theorem find?_insert (c : Command h) (cs : List (Command h)) (name : String) :
    (insert c cs).find? (·.name == name) = if c.name = name then some c else cs.find? (·.name == name) := by
  induction cs with
  | nil => by_cases e : c.name = name <;> simp [insert, e]
  | cons d cs ih =>
    unfold insert
    split
    · rename_i same
      by_cases e : c.name = name
      · simp [e]
      · simp [e, same ▸ e]
    · rename_i new
      split
      · by_cases e : c.name = name <;> simp [e]
      · by_cases e : d.name = name
        · have : c.name ≠ name := fun he => new (he.trans e.symm)
          simp [e, this]
        · simp [e, ih]

theorem resolve?_register (r : Registry h) (c : Command h) (name : String) :
    (r.register c).2.resolve? name = if c.name = name then some c else r.resolve? name :=
  find?_insert c r.commands name

theorem mem_of_resolve? {r : Registry h} {name : String} {c : Command h} (found : r.resolve? name = some c) :
    c ∈ r.commands ∧ c.name = name := by
  have named := List.find?_some (p := fun d : Command h => d.name == name) found
  exact ⟨List.mem_of_find?_eq_some found, eq_of_beq named⟩

/-- Commands of one name are one command. -/
theorem Ordered.unique {cs : List (Command h)} (ordered : Ordered cs) {c d : Command h} (hc : c ∈ cs) (hd : d ∈ cs)
    (same : c.name = d.name) : c = d := by
  have nodup : (cs.map (·.name)).Nodup := (List.pairwise_map.mpr ordered).imp fun lt => lt.ne
  exact List.inj_on_of_nodup_map nodup hc hd same

theorem Ordered.resolve?_eq_some_iff {r : Registry h} (ordered : Ordered r.commands) {name : String} {c : Command h} :
    r.resolve? name = some c ↔ c ∈ r.commands ∧ c.name = name := by
  refine ⟨mem_of_resolve?, ?_⟩
  rintro ⟨hc, rfl⟩
  cases found : r.resolve? c.name with
  | none => simpa using List.find?_eq_none.mp found c hc
  | some d =>
    obtain ⟨hd, same⟩ := mem_of_resolve? found
    rw [ordered.unique hd hc same]

theorem Ordered.mem_listed_iff {r : Registry h} (ordered : Ordered r.commands) (scene : Scene h) (name : String) :
    name ∈ (r.listed scene).map (·.name) ↔ (r.resolveLive? scene name).isSome = true := by
  rw [Option.isSome_iff_exists, List.mem_map]
  simp only [resolveLive?, Option.filter_eq_some_iff, ordered.resolve?_eq_some_iff, listed, List.mem_filter]
  constructor
  · rintro ⟨c, ⟨hc, live⟩, named⟩
    exact ⟨c, ⟨hc, named⟩, live⟩
  · rintro ⟨c, ⟨hc, named⟩, live⟩
    exact ⟨c, ⟨hc, live⟩, named⟩

/-! ## What has been registered -/

/-- The registry holds the last command registered under each name, and nothing else. -/
structure Holds (r : Registry h) (registered : List (Command h)) : Prop where
  ordered : Ordered r.commands
  latest : ∀ name, r.resolve? name = (registered.filter (·.name == name)).getLast?

theorem holds_empty : Holds (empty : Registry h) [] := ⟨List.Pairwise.nil, fun _ => rfl⟩

theorem Holds.register {r : Registry h} {registered : List (Command h)} (holds : Holds r registered) (c : Command h) :
    Holds (r.register c).2 (registered ++ [c]) := by
  refine ⟨holds.ordered.insert c, fun name => ?_⟩
  rw [resolve?_register, List.filter_append, List.getLast?_append, ← holds.latest name]
  by_cases named : c.name = name <;> simp [named]

theorem Holds.registerAll {r : Registry h} {registered : List (Command h)} (holds : Holds r registered)
    (cs : List (Command h)) : Holds (r.registerAll cs).2 (registered ++ cs) := by
  induction cs generalizing r registered with
  | nil =>
    rw [List.append_nil]
    exact holds
  | cons c cs ih =>
    have rest := ih (holds.register c)
    rw [List.append_assoc] at rest
    exact rest

/-- There are as many commands as names registered. -/
theorem Holds.size {r : Registry h} {registered : List (Command h)} (holds : Holds r registered) :
    r.size = (registered.map (·.name)).toFinset.card := by
  have nodup : (r.commands.map (·.name)).Nodup := (List.pairwise_map.mpr holds.ordered).imp fun lt => lt.ne
  have names : (r.commands.map (·.name)).toFinset = (registered.map (·.name)).toFinset := by
    ext name
    have here : name ∈ r.commands.map (·.name) ↔ (r.resolve? name).isSome = true := by simp [resolve?]
    rw [List.mem_toFinset, List.mem_toFinset, here, holds.latest, List.getLast?_isSome, Ne, List.filter_eq_nil_iff]
    simp
  rw [← names, List.toFinset_card_of_nodup nodup, List.length_map, Registry.size]

end Registry

/-! ## After any changes -/

/-- The commands a change registers. -/
def Change.commands : Change h → List (Command h)
  | .register command => [command]
  | .provide commands => commands
  | _ => []

theorem Registry.Holds.apply {s : Setup h} {registered : List (Command h)} (holds : Holds s.registry registered)
    (a : Change h) : Holds (s.apply a).registry (registered ++ a.commands) := by
  cases a with
  | register command => exact holds.register command
  | provide commands => exact holds.registerAll commands
  | _ =>
    rw [Change.commands, List.append_nil]
    · exact holds
    all_goals simp

theorem Registry.Holds.after {s : Setup h} {registered : List (Command h)} (holds : Holds s.registry registered)
    (changes : List (Change h)) : Holds (s.after changes).registry (registered ++ changes.flatMap Change.commands) := by
  induction changes generalizing s registered with
  | nil =>
    rw [List.flatMap_nil, List.append_nil]
    exact holds
  | cons a changes ih =>
    have rest := ih (holds.apply a)
    rw [List.append_assoc] at rest
    exact rest

/-! ## The four places -/

namespace Console

variable {τ : Type}

/-- The console with other commands and another scene. -/
def on (c : Console h τ) (s : Setup h) : Console h τ := { c with registry := s.registry, scene := s.scene }

/-- The dispatcher finds the command of a line's first token where the lookup of live
    commands does. -/
theorem resolve_unknown_iff (c : Console h τ) {raw name : String} {rest : List String}
    (parses : Line.parse raw = .ok (name :: rest)) :
    c.resolve raw = .error (.unknownCommand name) ↔ c.registry.resolveLive? c.scene name = none := by
  simp only [resolve, parses]
  cases c.registry.resolveLive? c.scene name with
  | none => simp
  | some command => by_cases counts : rest.length = command.params.length <;> simp [counts]

variable [Transport τ]

theorem dispatch_unknown (c : Console h τ) {raw name : String} (unknown : c.resolve raw = .error (.unknownCommand name)) :
    (c.dispatch raw).2 = .error (.unknownCommand name) := by
  simp [dispatch_eq, prepare, unknown]

theorem describe_ok_iff (c : Console h τ) (name : String) :
    (c.runBuiltin .describe [.text name]).2 = .ok () ↔ (c.registry.resolveLive? c.scene name).isSome = true := by
  have given : Arguments.text [(.text name : Argument h)] 0 = .ok name := rfl
  simp only [runBuiltin, given]
  cases c.registry.resolveLive? c.scene name <;> simp

/-- After any changes to the commands and the scene, the same names are visible in the
    list of commands, which `help` prints, to the lookup of live commands, to `chelp` and to
    the dispatcher. The list has each name once, in order; a name stands for the last
    command registered under it; and there are as many commands as names. -/
theorem visible_alike (changes : List (Change h)) (d : Console h τ) (name : String) :
    let c := d.on (Setup.empty.after changes)
    let registered := changes.flatMap Change.commands
    let names := (c.registry.listed c.scene).map (·.name)
    [name ∈ names,
      (c.registry.resolveLive? c.scene name).isSome = true,
      (c.runBuiltin .describe [.text name]).2 = .ok ()].TFAE ∧
    (∀ raw rest, Line.parse raw = .ok (name :: rest) →
      (name ∈ names ↔ c.resolve raw ≠ .error (.unknownCommand name)) ∧
      (name ∉ names → (c.dispatch raw).2 = .error (.unknownCommand name))) ∧
    (c.runBuiltin .help []).1 =
      c.write [.line "", .bold "Available commands", .write ": ", .write (", ".intercalate names)] ∧
    names.Pairwise (· < ·) ∧
    c.registry.resolve? name = (registered.filter (·.name == name)).getLast? ∧
    c.registry.size = (registered.map (·.name)).toFinset.card := by
  intro c registered names
  have start : (Setup.empty : Setup h).registry.Holds [] := Registry.holds_empty
  have holds : c.registry.Holds registered := start.after changes
  have listed : name ∈ names ↔ (c.registry.resolveLive? c.scene name).isSome = true :=
    holds.ordered.mem_listed_iff c.scene name
  have unlisted : name ∉ names ↔ c.registry.resolveLive? c.scene name = none := by
    rw [listed, Option.not_isSome_iff_eq_none]
  refine ⟨?_, fun raw rest parses => ⟨?_, fun absent => ?_⟩, rfl, ?_, holds.latest name, holds.size⟩
  · tfae_have 1 ↔ 2 := listed
    tfae_have 3 ↔ 2 := c.describe_ok_iff name
    tfae_finish
  · rw [Ne, c.resolve_unknown_iff parses, ← unlisted, not_not]
  · exact c.dispatch_unknown ((c.resolve_unknown_iff parses).mpr (unlisted.mp absent))
  · exact List.pairwise_map.mpr (holds.ordered.sublist List.filter_sublist)

end Console

end CommandConsole
