/-
  CommandConsole.Proofs.Confinement — what the lines of the demo can move.

  The world is shared. The controller and the inspector have it, names are looked up in it,
  and every line can be one of eight commands or one of the console's own. Which entity the
  controller moves is settled when it is installed, by name, and from then on it goes by that
  entity's number.

  Two things are kept by whatever happens. Every command there is does no more than its name
  says (`Tame`), and every controller minds the entity it was given (`Minds`). Together they are
  `Tended`, and a line does to the world what `Does` lists and nothing else: it fails and leaves
  the state, it prints and leaves the state, or it puts another entity in the place of one, which
  differs in the attribute of its command (`Alters`). As no number and no name is changed, the
  first cube stays the first cube (`named?_of_roll`).

  Proved (`lines_confined`), on any host and transport: with the demo installed, and whatever
  happens then but changes by the host to the commands, the scene or its state, no line does more.
  The entity is the first one of the cube's number. In a world whose numbers are all different it
  is the first one named cube; a world is of that kind if it is put together by adding entities
  and changing what is not their number (`Built.distinct`).
-/

import CommandConsole.Proofs.Indifference
import CommandConsole.Proofs.Inspection
import CommandConsole.Proofs.OwnCommands

namespace CommandConsole

variable {h : Host} {τ : Type}

/-! ## Worlds -/

namespace World

/-- The numbers and names of the entities, in their order. -/
def roll (w : World) : List (Nat × String) := w.entities.map fun e => (e.id, e.name)

/-- The worlds differ in the first entity with the property only: in its place is another. -/
def Replaced (p : Entity → Prop) (w : World) (e e' : Entity) (w' : World) : Prop :=
  ∃ before after, w.entities = before ++ e :: after ∧ p e ∧ (∀ x ∈ before, ¬ p x) ∧
    w' = { w with entities := before ++ e' :: after }

theorem Replaced.roll {p : Entity → Prop} {w w' : World} {e e' : Entity} (replaced : Replaced p w e e' w')
    (id : e'.id = e.id) (name : e'.name = e.name) : w'.roll = w.roll := by
  obtain ⟨before, after, split, -, -, rfl⟩ := replaced
  simp [World.roll, split, id, name]

theorem go_append (id : Nat) (f : Entity → Entity) {before after : List Entity} {e : Entity} (hit : e.id = id)
    (miss : ∀ x ∈ before, ¬ x.id = id) : update.go id f (before ++ e :: after) = before ++ f e :: after := by
  induction before with
  | nil => rw [List.nil_append, update.go, if_pos hit, List.nil_append]
  | cons x before ih =>
    rw [List.cons_append, update.go, if_neg (miss x List.mem_cons_self), ih fun y hy => miss y (List.mem_cons_of_mem x hy)]
    rfl

/-- Changing an entity by its number puts another in the place of the first one of that number. -/
theorem replaced_update {w : World} {id : Nat} {e : Entity} (found : w.get? id = some e) (f : Entity → Entity) :
    Replaced (·.id = id) w e (f e) (w.update id f) := by
  obtain ⟨hit, before, after, split, miss⟩ := List.find?_eq_some_iff_append.mp found
  have hit : e.id = id := eq_of_beq hit
  have miss : ∀ x ∈ before, ¬ x.id = id := fun x hx same => by simpa [same] using miss x hx
  refine ⟨before, after, split, hit, miss, ?_⟩
  rw [update, split, go_append id f hit miss]

/-- Whether a name is found, and the number found, can be read off the numbers and names. -/
theorem named?_of_roll {w v : World} (same : v.roll = w.roll) {name : String} {e : Entity} (found : w.named? name = some e) :
    ∃ e', v.named? name = some e' ∧ e'.id = e.id := by
  have read : ∀ u : World, (u.named? name).map (fun e => (e.id, e.name)) = u.roll.find? (·.2 == name) := by
    intro u
    rw [World.roll, List.find?_map]
    rfl
  have listed : (v.named? name).map (fun e => (e.id, e.name)) = some (e.id, e.name) := by
    rw [read, same, ← read, found]
    rfl
  obtain ⟨e', found', pair⟩ := Option.map_eq_some_iff.mp listed
  exact ⟨e', found', congrArg Prod.fst pair⟩

theorem ids_roll (w : World) : w.entities.map (·.id) = w.roll.map (·.1) := by
  rw [World.roll, List.map_map]
  rfl

/-- Where no two entities have one number, the first of a number is the first of its name, if
    the name finds that number. -/
theorem Replaced.first_named {w w' : World} {name : String} {cube e e' : Entity} (replaced : Replaced (·.id = cube.id) w e e' w')
    (found : w.named? name = some cube) (distinct : (w.entities.map (·.id)).Nodup) : Replaced (·.name = name) w e e' w' := by
  obtain ⟨before, after, split, hit, miss, rfl⟩ := replaced
  have here : e ∈ w.entities := split ▸ List.mem_append_right before List.mem_cons_self
  obtain rfl : e = cube := List.inj_on_of_nodup_map distinct here (List.mem_of_find?_eq_some found) hit
  have named : e.name = name := eq_of_beq (List.find?_some (p := fun f : Entity => f.name == name) found)
  refine ⟨before, after, split, named, fun x hx also => ?_, rfl⟩
  -- One of the name before it would have been found instead.
  have earlier : (before.find? (·.name == name)).isSome = true := List.find?_isSome.mpr ⟨x, hx, beq_iff_eq.mpr also⟩
  obtain ⟨y, hy⟩ := Option.isSome_iff_exists.mp earlier
  rw [named?, split, List.find?_append, hy] at found
  obtain rfl : y = e := Option.some.inj found
  exact miss y (List.mem_of_find?_eq_some hy) rfl

/-- A world put together by adding entities and changing what is not their number. -/
inductive Built : World → Prop
  | empty : Built empty
  | add {w : World} (name : String) (position : Vec3) (color : Color) : Built w → Built (w.add name position color).2
  | update {w : World} (id : Nat) {f : Entity → Entity} : (∀ e, (f e).id = e.id) → Built w → Built (w.update id f)

theorem ids_update (w : World) (id : Nat) {f : Entity → Entity} (keeps : ∀ e, (f e).id = e.id) :
    (w.update id f).entities.map (·.id) = w.entities.map (·.id) := by
  show (update.go id f w.entities).map (·.id) = w.entities.map (·.id)
  induction w.entities with
  | nil => rfl
  | cons e es ih =>
    rw [update.go]
    split
    · rw [List.map_cons, List.map_cons, keeps]
    · rw [List.map_cons, List.map_cons, ih]

/-- The numbers of such a world are different, and below the next one. -/
theorem Built.numbered {w : World} (built : Built w) :
    (w.entities.map (·.id)).Nodup ∧ ∀ n ∈ w.entities.map (·.id), n < w.nextId := by
  induction built with
  | empty => exact ⟨List.nodup_nil, fun n hn => nomatch hn⟩
  | @add w name position color _ ih =>
    obtain ⟨distinct, issued⟩ := ih
    have more : (w.add name position color).2.entities.map (·.id) = w.entities.map (·.id) ++ [w.nextId] := List.map_append
    rw [more]
    refine ⟨List.nodup_append.mpr ⟨distinct, List.nodup_singleton _, fun n hn m hm => ?_⟩, fun n hn => ?_⟩
    · rw [List.mem_singleton.mp hm]
      exact Nat.ne_of_lt (issued n hn)
    · rcases List.mem_append.mp hn with hn | hn
      · exact Nat.lt_succ_of_lt (issued n hn)
      · rw [List.mem_singleton.mp hn]
        exact Nat.lt_succ_self _
  | @update w id f keeps _ ih =>
    rw [w.ids_update id keeps]
    exact ih

theorem Built.distinct {w : World} (built : Built w) : (w.entities.map (·.id)).Nodup := built.numbered.1

end World

/-! ## Commands, objects and lines -/

/-- Every command is one that has been registered. -/
theorem Registry.Holds.registered {r : Registry h} {registered : List (Command h)} (holds : Holds r registered) {c : Command h}
    (hc : c ∈ r.commands) : c ∈ registered := by
  have found : r.resolve? c.name = some c := holds.ordered.resolve?_eq_some_iff.mpr ⟨hc, rfl⟩
  rw [holds.latest] at found
  exact (List.mem_filter.mp (List.mem_of_getLast? found)).1

/-- What holds of all objects holds with another one, if it holds of that. -/
theorem Scene.set_all {holds : (p : h.Provider) → h.Object p → Prop} {s : Scene h}
    (all : ∀ i ∈ s.instances, holds i.provider i.object) (p : h.Provider) (id : Nat) {object : h.Object p} (new : holds p object) :
    ∀ i ∈ (s.set p id object).instances, holds i.provider i.object := by
  intro i hi
  obtain ⟨j, hj, rfl⟩ := List.mem_map.mp hi
  have either : replaced p id object j = ⟨j.id, j.name, p, object⟩ ∨ replaced p id object j = j := by
    unfold replaced
    split
    · exact .inl rfl
    · exact .inr rfl
  rcases either with meant | other
  · rw [meant]
    exact new
  · rw [other]
    exact all j hj

/-- The event changes neither the commands, nor the scene, nor the state. -/
def Event.HandsOff : Event h τ → Prop
  | .change _ => False
  | .share _ => False
  | _ => True

namespace Console

theorem Stages.named {c : Console h τ} {raw : String} {command : Command h} {args : Arguments h}
    (ending : Stages c raw (.ok (command, args))) {name : String} {tokens : List String}
    (parses : Line.parse raw = .ok (name :: tokens)) : command.name = name := by
  cases ending with
  | ready same found _ _ =>
    obtain ⟨rfl, rfl⟩ : _ = name ∧ _ = tokens := by simpa using same.symm.trans parses
    exact (Registry.mem_of_resolve? (Option.filter_eq_some_iff.mp found).1).2

variable [Transport τ]

theorem execute_state (c : Console h τ) (raw : String) : (c.execute raw).state = (c.dispatch raw).1.state := by
  rw [execute_eq]
  split <;> rfl

end Console

namespace Demo

variable {guest : Host}

/-! ## What a command does -/

/-- The commands that change the world. -/
def movers : List String := ["cube_rotate", "cube_scale", "cube_random_color", "cube_color", "cube_move"]

/-- What the command of a name makes of an entity: one attribute is another. -/
inductive Alters (args : Arguments (host guest)) (e : Entity) : String → Entity → Prop
  | rotate {degrees : Number.Single} : singleArgument args 0 = .ok degrees →
      Alters args e "cube_rotate" { e with rotation := { e.rotation with y := (e.rotation.y.add degrees).remEuclid fullTurn } }
  | scale {factor : Number.Single} : singleArgument args 0 = .ok factor →
      Alters args e "cube_scale" { e with scale := Vec3.splat factor }
  | randomColor (seed : UInt64) : Alters args e "cube_random_color" { e with color := (randomColor seed).1 }
  | color {color : Color} : args.typed .color 0 = .ok color → Alters args e "cube_color" { e with color := color }
  | move {position : Vec3} : args.typed .vec3 0 = .ok position → Alters args e "cube_move" { e with position := position }

variable {args : Arguments (host guest)} {e e' : Entity} {name : String}

theorem Alters.mover (alters : Alters args e name e') : name ∈ movers := by
  cases alters <;> decide

theorem Alters.same_id (alters : Alters args e name e') : e'.id = e.id := by
  cases alters <;> rfl

theorem Alters.same_name (alters : Alters args e name e') : e'.name = e.name := by
  cases alters <;> rfl

/-- What a command does to the state, by how it ends. -/
inductive Does (name : String) (args : Arguments (host guest)) (cube : Nat) (state : (host guest).State) :
    Except Failure Unit → (host guest).State → Prop
  | failed (f : Failure) : Does name args cube state (.error f) state
  | printed : name ∉ movers → Does name args cube state (.ok ()) state
  | moved {e e' : Entity} {world : World} : Alters args e name e' → World.Replaced (·.id = cube) state.1 e e' world →
      Does name args cube state (.ok ()) (world, state.2)

/-- A controller minds the entity of the number. -/
def Minds (cube : Nat) : (p : (host guest).Provider) → (host guest).Object p → Prop
  | .inl .cube, (k : Controller) => k.cube = cube
  | .inl .inspector, _ => True
  | .inr _, _ => True

/-- The reply of a command that does no more than its name says. -/
structure Keeps (name : String) (args : Arguments (host guest)) (cube : Nat) (state : (host guest).State)
    {p : (host guest).Provider} (r : Reply (host guest) p) : Prop where
  minds : Minds cube p r.object
  does : Does name args cube state r.outcome r.state

/-- The command does no more than its name says. -/
def Tame (cube : Nat) (command : Command (host guest)) : Prop :=
  match command.binding with
  | .builtin _ => command.name ∉ movers
  | .handler p run => ∀ call state object, Minds cube p object → Keeps command.name call.args cube state (run call state object)

theorem tame_builtins (cube : Nat) : ∀ c ∈ (Command.builtins : List (Command (host guest))), Tame cube c := by
  intro c hc
  have apart : ∀ name ∈ ownNames, name ∉ movers := by decide
  have free := apart c.name (mem_ownNames hc)
  simp only [Command.builtins, List.mem_cons, List.not_mem_nil, or_false] at hc
  rcases hc with rfl | rfl | rfl | rfl | rfl <;> exact free

variable {cube : Nat} {state : (host guest).State} {k : Controller}

theorem keeps_changeCube {f : Entity → Entity} (minds : k.cube = cube) (alters : ∀ e, Alters args e name (f e)) :
    Keeps name args cube state (changeCube f k state) := by
  subst minds
  unfold changeCube
  cases found : state.1.get? k.cube with
  | none => exact ⟨rfl, .failed _⟩
  | some e => exact ⟨rfl, .moved (alters e) (World.replaced_update found f)⟩

theorem keeps_changeBy {α : Type} {arg : Except Failure α} {f : α → Entity → Entity} (minds : k.cube = cube)
    (alters : ∀ a, arg = .ok a → ∀ e, Alters args e name (f a e)) : Keeps name args cube state (changeBy arg f k state) := by
  cases arg with
  | error e => exact ⟨minds, .failed e⟩
  | ok a => exact keeps_changeCube minds (alters a rfl)

theorem keeps_showCube (label : String) (f : Entity → Vec3) (minds : k.cube = cube) (printer : name ∉ movers) :
    Keeps name args cube state (showCube label f k state) := by
  unfold showCube
  cases state.1.get? k.cube with
  | none => exact ⟨minds, .failed _⟩
  | some e => exact ⟨minds, .printed printer⟩

theorem tame_cubeCommands (cube : Nat) : ∀ c ∈ (cubeCommands : List (Command (host guest))), Tame cube c := by
  intro c hc
  simp only [cubeCommands, List.mem_cons, List.not_mem_nil, or_false] at hc
  rcases hc with rfl | rfl | rfl | rfl | rfl | rfl | rfl
  · exact fun _ _ _ minds => keeps_changeBy minds fun _ given _ => .rotate given
  · exact fun _ _ _ minds => keeps_showCube _ _ minds (show "cube_rotation" ∉ movers by decide)
  · exact fun _ _ _ minds => keeps_showCube _ _ minds (show "cube_scaling" ∉ movers by decide)
  · exact fun _ _ _ minds => keeps_changeBy minds fun _ given _ => .scale given
  -- The seed moves on whether or not the cube is there; the cube minded stays.
  · exact fun _ _ object minds => keeps_changeCube (k := { object with seed := _ }) minds fun _ => .randomColor _
  · exact fun _ _ _ minds => keeps_changeBy minds fun _ given _ => .color given
  · exact fun _ _ _ minds => keeps_changeBy minds fun _ given _ => .move given

theorem tame_inspectorCommands (cube : Nat) : ∀ c ∈ (inspectorCommands : List (Command (host guest))), Tame cube c := by
  intro c hc
  obtain rfl := List.mem_singleton.mp hc
  intro call state object _
  show Keeps "inspect" call.args cube state (inspect call state object)
  unfold inspect
  cases call.args.typed .object 0 with
  | error f => exact ⟨trivial, .failed f⟩
  | ok target =>
    dsimp only
    cases state.1.get? target.id with
    | none => exact ⟨trivial, .failed _⟩
    | some e => exact ⟨trivial, .printed (by decide)⟩

/-! ## What a line does -/

/-- What is kept since a state: what the commands do, which entity the controllers mind, the
    numbers and names of the entities, and the rest of the state. -/
structure Tended (cube : Nat) (since : (host guest).State) (c : Console (host guest) τ) : Prop where
  tame : ∀ command ∈ c.registry.commands, Tame cube command
  minds : ∀ i ∈ c.scene.instances, Minds cube i.provider i.object
  roll : c.state.1.roll = since.1.roll
  rest : c.state.2 = since.2

/-- Installed on a console that has its own commands only, in a world with a cube. -/
theorem Tended.install {start : Console (host guest) τ} (own : start.registry = Registry.standard)
    (vacant : start.scene.instances = []) {found : Entity} (named : start.state.1.named? "cube" = some found) (seed : UInt64) :
    (Demo.install seed start).2 = .ok () ∧ Tended found.id start.state (Demo.install seed start).1 := by
  obtain ⟨log, registered⟩ := register_eq start
  have holds := ((standard_holds (h := host guest)).registerAll cubeCommands).registerAll inspectorCommands
  unfold Demo.install
  rw [registered]
  simp only [named]
  refine ⟨trivial, fun command registered => ?_, fun i hi => ?_, rfl, rfl⟩
  · rcases List.mem_append.mp (holds.registered (own ▸ registered)) with first | inspector
    · rcases List.mem_append.mp first with builtin | cube
      · exact tame_builtins _ command builtin
      · exact tame_cubeCommands _ command cube
    · exact tame_inspectorCommands _ command inspector
  · simp only [Console.spawn, Scene.spawn, vacant, List.nil_append, List.singleton_append, List.mem_cons, List.not_mem_nil,
      or_false] at hi
    rcases hi with rfl | rfl
    · rfl
    · trivial

theorem Does.kept {outcome : Except Failure Unit} {after : (host guest).State} (does : Does name args cube state outcome after) :
    after.1.roll = state.1.roll ∧ after.2 = state.2 := by
  cases does with
  | failed => exact ⟨rfl, rfl⟩
  | printed => exact ⟨rfl, rfl⟩
  | moved alters replaced => exact ⟨replaced.roll alters.same_id alters.same_name, rfl⟩

theorem Does.of_error {f : Failure} {after : (host guest).State} (does : Does name args cube state (.error f) after) :
    after = state := by
  cases does
  rfl

theorem Does.of_printer {outcome : Except Failure Unit} {after : (host guest).State}
    (does : Does name args cube state outcome after) (printer : name ∉ movers) : after = state := by
  cases does with
  | failed => rfl
  | printed => rfl
  | moved alters => exact absurd alters.mover printer

theorem Does.atMost {outcome : Except Failure Unit} {after : (host guest).State} (does : Does name args cube state outcome after) :
    after.1 = state.1 ∨ ∃ e e', Alters args e name e' ∧ World.Replaced (·.id = cube) state.1 e e' after.1 := by
  cases does with
  | failed => exact .inl rfl
  | printed => exact .inl rfl
  | moved alters replaced => exact .inr ⟨_, _, alters, replaced⟩

theorem Does.of_mover {after : (host guest).State} (does : Does name args cube state (.ok ()) after) (mover : name ∈ movers) :
    ∃ e e', Alters args e name e' ∧ World.Replaced (·.id = cube) state.1 e e' after.1 := by
  cases does with
  | printed printer => exact absurd mover printer
  | moved alters replaced => exact ⟨_, _, alters, replaced⟩

variable [Transport τ] {since : (host guest).State} {c : Console (host guest) τ}

/-- A command that runs keeps the controllers and does no more than its name says. -/
theorem Tended.dispatch (tended : Tended cube since c) {raw : String} {command : Command (host guest)}
    (ending : Console.Stages c raw (.ok (command, args))) :
    (∀ i ∈ (c.dispatch raw).1.scene.instances, Minds cube i.provider i.object) ∧
      Does command.name args cube c.state (c.dispatch raw).2 (c.dispatch raw).1.state := by
  have tame := tended.tame command ending.registered
  unfold Tame at tame
  cases bound : command.binding with
  | builtin b =>
    rw [bound] at tame
    have same := (c.note (c.prepare raw).1).runBuiltin_sameHost b args
    rw [Console.dispatch_builtin ending bound, same.scene, same.state]
    refine ⟨tended.minds, ?_⟩
    cases ((c.note (c.prepare raw).1).runBuiltin b args).2 with
    | error f => exact .failed f
    | ok => exact .printed tame
  | handler p run =>
    rw [bound] at tame
    -- It runs against the first live object of its provider, which minds the cube as all do.
    obtain ⟨id, named, object, present, -, chosen⟩ := c.scene.exists_first (ending.provider_live bound)
    have invoked := congrArg Prod.fst ((c.note (c.prepare raw).1).invokeIn_first present chosen run args [])
    rw [Console.invokeIn_fst, ← Console.dispatch_handler ending bound] at invoked
    have keeps := tame ⟨Transport.style c.transport, args, named⟩ c.state object (tended.minds _ present)
    rw [invoked]
    exact ⟨Scene.set_all tended.minds p id keeps.minds, keeps.does⟩

/-- A line does not get to a command, or it does what its command does. -/
theorem Tended.line (tended : Tended cube since c) (raw : String) :
    (∀ i ∈ (c.execute raw).scene.instances, Minds cube i.provider i.object) ∧
      ((∃ f, (c.dispatch raw).2 = .error f ∧ (c.execute raw).state = c.state) ∨
        ∃ command args, Console.Stages c raw (.ok (command, args)) ∧
          Does command.name args cube c.state (c.dispatch raw).2 (c.execute raw).state) := by
  rw [c.execute_scene, c.execute_state]
  have ending := c.stages_prepare raw
  rcases hp : (c.prepare raw).2 with f | ⟨command, args⟩ <;> rw [hp] at ending
  · rw [c.dispatch_eq, hp]
    exact ⟨tended.minds, .inl ⟨f, rfl, rfl⟩⟩
  · obtain ⟨minds, does⟩ := tended.dispatch ending
    exact ⟨minds, .inr ⟨command, args, ending, does⟩⟩

/-- The line changes the first entity with the property at most, and that one as the name of its
    command says. -/
structure Confined (p : Entity → Prop) (c : Console (host guest) τ) (raw : String) : Prop where
  /-- There are the same entities in the same order, with their numbers and names. -/
  roll : (c.execute raw).state.1.roll = c.state.1.roll
  rest : (c.execute raw).state.2 = c.state.2
  atMost : (c.execute raw).state.1 = c.state.1 ∨
    ∃ name, ∃ args : Arguments (host guest), ∃ e e', Alters args e name e' ∧
      World.Replaced p c.state.1 e e' (c.execute raw).state.1
  failed : ∀ f, (c.dispatch raw).2 = .error f → (c.execute raw).state = c.state
  printed : ∀ name tokens, Line.parse raw = .ok (name :: tokens) → name ∉ movers → (c.execute raw).state = c.state
  moved : ∀ command args, Console.Stages c raw (.ok (command, args)) → command.name ∈ movers → (c.dispatch raw).2 = .ok () →
    ∃ e e', Alters args e command.name e' ∧ World.Replaced p c.state.1 e e' (c.execute raw).state.1

theorem Tended.confined (tended : Tended cube since c) (raw : String) : Confined (·.id = cube) c raw := by
  obtain ⟨-, ⟨f, failed, same⟩ | ⟨command, args, ending, does⟩⟩ := tended.line raw
  · refine ⟨by rw [same], by rw [same], .inl (by rw [same]), fun _ _ => same, fun _ _ _ _ => same, fun _ _ _ _ succeeds => ?_⟩
    rw [failed] at succeeds
    cases succeeds
  · exact
      { roll := does.kept.1
        rest := does.kept.2
        atMost := does.atMost.imp_right fun ⟨e, e', one⟩ => ⟨command.name, args, e, e', one⟩
        failed := fun f failed => (failed ▸ does).of_error
        printed := fun name tokens parses printer => does.of_printer (ending.named parses ▸ printer)
        moved := fun command' args' ending' mover succeeds => by
          obtain ⟨rfl, rfl⟩ : command' = command ∧ args' = args := by simpa using ending'.unique.trans ending.unique.symm
          exact (succeeds ▸ does).of_mover mover }

/-- Where no two entities have one number, the first of the number is the first of the name. -/
theorem Confined.first_named {found : Entity} (confined : Confined (·.id = found.id) c raw) {name : String}
    (named : c.state.1.named? name = some found) (distinct : (c.state.1.entities.map (·.id)).Nodup) :
    Confined (·.name = name) c raw := by
  refine { confined with
    atMost := confined.atMost.imp_right fun ⟨name, args, e, e', alters, replaced⟩ =>
      ⟨name, args, e, e', alters, replaced.first_named named distinct⟩
    moved := fun command args ending mover succeeds => ?_ }
  obtain ⟨e, e', alters, replaced⟩ := confined.moved command args ending mover succeeds
  exact ⟨e, e', alters, replaced.first_named named distinct⟩

/-! ## Whatever happens -/

theorem Tended.execute (tended : Tended cube since c) (raw : String) : Tended cube since (c.execute raw) := by
  have confined := tended.confined raw
  have registry : (c.execute raw).registry = c.registry := (c.execute_setup raw).registry
  exact ⟨registry ▸ tended.tame, (tended.line raw).1, confined.roll.trans tended.roll, confined.rest.trans tended.rest⟩

theorem Tended.step (tended : Tended cube since c) {e : Event (host guest) τ} (off : e.HandsOff) : Tended cube since (c.step e) := by
  cases hd : c.dispatches e with
  | some ran =>
    obtain ⟨⟨t, hd⟩, ⟨u, he⟩⟩ := Console.step_dispatches hd
    have before : Tended cube since ran.1 := by
      rw [hd]
      exact ⟨tended.tame, tended.minds, tended.roll, tended.rest⟩
    have after := before.execute ran.2
    rw [he]
    exact ⟨after.tame, after.minds, after.roll, after.rest⟩
  | none =>
    cases e with
    | change a => exact off.elim
    | share state => exact off.elim
    | execute => cases hd
    | submit => cases hd
    | tick =>
      obtain ⟨t, e⟩ := Console.tick_quiet hd
      rw [Console.step, e]
      exact ⟨tended.tame, tended.minds, tended.roll, tended.rest⟩
    | key k =>
      obtain ⟨t, n, e⟩ := Console.handle_quiet hd
      rw [Console.step, e]
      exact ⟨tended.tame, tended.minds, tended.roll, tended.rest⟩
    | _ => exact ⟨tended.tame, tended.minds, tended.roll, tended.rest⟩

theorem Tended.run (tended : Tended cube since c) {es : List (Event (host guest) τ)} (off : ∀ e ∈ es, e.HandsOff) :
    Tended cube since (c.run es) := by
  induction es generalizing c with
  | nil => exact tended
  | cons e es ih =>
    exact ih (tended.step (off e List.mem_cons_self)) fun f hf => off f (List.mem_cons_of_mem e hf)

/-- With the demo installed, and whatever happens then but changes by the host to the commands,
    the scene or its state, there are the entities there were, and no line does more than to
    change one attribute of one of them, as its command says: the first one of the number that
    the cube had at the start. If no two entities have one number, that is the first cube. -/
theorem lines_confined (seed : UInt64) (start : Console (host guest) τ) (own : start.registry = Registry.standard)
    (vacant : start.scene.instances = []) (found : Entity) (named : start.state.1.named? "cube" = some found)
    (es : List (Event (host guest) τ)) (off : ∀ e ∈ es, e.HandsOff) (raw : String) :
    let c := (install seed start).1.run es
    (install seed start).2 = .ok () ∧ c.state.1.roll = start.state.1.roll ∧ Confined (·.id = found.id) c raw ∧
      ((start.state.1.entities.map (·.id)).Nodup → Confined (·.name = "cube") c raw) := by
  intro c
  obtain ⟨ok, installed⟩ := Tended.install own vacant named seed
  have tended : Tended found.id start.state c := installed.run off
  have confined := tended.confined raw
  refine ⟨ok, tended.roll, confined, fun distinct => ?_⟩
  obtain ⟨found', named', same⟩ := World.named?_of_roll tended.roll named
  have distinct : (c.state.1.entities.map (·.id)).Nodup := by
    rw [World.ids_roll, tended.roll, ← World.ids_roll]
    exact distinct
  exact (same ▸ confined : Confined (·.id = found'.id) c raw).first_named named' distinct

/-- Of two cubes the first is moved, also after other lines. -/
theorem lines_confined_two_cubes :
    let world := (World.demo.add "cube" Vec3.zero Color.red).2
    let start : Console (host Host.bare) Surface := Console.create Surface.start Settings.standard (world, ())
    let es : List (Event (host Host.bare) Surface) := [.execute "cube_color red", .execute "cube_color mauve", .submit "inspect lamp"]
    let c := (install 0 start).1.run es
    start.registry = Registry.standard ∧ start.scene.instances = [] ∧ (start.state.1.named? "cube").isSome = true ∧
      (∀ e ∈ es, e.HandsOff) ∧ (start.state.1.entities.map (·.id)).Nodup ∧
      Confined (·.name = "cube") c "cube_move 1,2,3" ∧ (c.dispatch "cube_move 1,2,3").2.isOk = true ∧
      (c.execute "cube_move 1,2,3").state.1 ≠ c.state.1 := by
  intro world start es c
  have off : ∀ e ∈ es, e.HandsOff := by simp [es, Event.HandsOff]
  have built : World.Built world := .add _ _ _ (.add _ _ _ (.add _ _ _ (.add _ _ _ .empty)))
  obtain ⟨-, -, -, first⟩ := lines_confined 0 start rfl rfl _ rfl es off "cube_move 1,2,3"
  exact ⟨rfl, rfl, rfl, off, built.distinct, first built.distinct, by decide +kernel, by decide +kernel⟩

end Demo

end CommandConsole
