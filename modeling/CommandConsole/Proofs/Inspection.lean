/-
  CommandConsole.Proofs.Inspection — an entity is inspected by its name in quotes.

  A name in quotes passes six places before its entity is printed. The line is cut into
  tokens; the token is cut at its commas and the pieces are trimmed; the overload for so many
  pieces is looked for; if there is none, and there were commas, the token goes whole; the
  world is asked for the first entity of the name; and the inspector asks it again by the
  number that was found.

  The token is the name as it was typed (`parse_inspectLine`). What the world is asked for need
  not be: a name without commas has been trimmed by then, as the only piece of itself, and a
  name with commas has not, as no overload takes its pieces. `sought` is the name asked for
  (`Refers.convertToken`), and it is the name typed exactly if that has a comma or no blanks
  at its ends (`sought_eq_iff`).

  Proved, for a console that did not convert references before, on any host and transport:
  - `Installed.install`, `Installed.run`: once the demo is installed, nothing but a change by
    the host to the commands, the scene or the conversions takes the inspector away.
  - `inspected_by_quoted_name`: at any such moment the line prints the entity that the world
    finds by the name sought and does nothing else, and fails if there is none.
  `edged_name_missed` is an entity that its own name does not find.
-/

import CommandConsole.Proofs.Instances
import CommandConsole.Proofs.Quoting
import CommandConsole.Proofs.Visibility
import CommandConsole.Proofs.WholeTokens

namespace CommandConsole

variable {h : Host} {τ : Type}

/-! ## The line -/

namespace Demo

/-- The line that inspects the entity of a name. -/
def inspectLine (name : String) : String := "inspect \"" ++ name ++ "\""

/-- A name that needs no escape between quotes. -/
def Plain (name : String) : Prop := ∀ ch ∈ name.toList, ch ≠ '"' ∧ ch ≠ '\\' ∧ ch ≠ Line.standIn

instance (name : String) : Decidable (Plain name) :=
  List.decidableBAll (fun ch => ch ≠ '"' ∧ ch ≠ '\\' ∧ ch ≠ Line.standIn) name.toList

end Demo

namespace Line

/-- Text without quotes needs no escape. -/
theorem escape_eq_self {t : List Char} (unquoted : '"' ∉ t) : escape t = t := by
  induction t with
  | nil => rfl
  | cons c t ih =>
    rw [List.mem_cons, not_or] at unquoted
    rw [escape_cons, if_neg (Ne.symm unquoted.1), ih unquoted.2]
    rfl

theorem scan_inspect (r : List Char) :
    scan .unquoted [] ("inspect ".toList ++ r) = ("inspect".toList :: (scan .unquoted [] r).1, (scan .unquoted [] r).2) := rfl

/-- The name comes back as it was typed. -/
theorem parse_inspectLine {name : String} (plain : Demo.Plain name) :
    parse (Demo.inspectLine name) = .ok ["inspect", name] := by
  have unquoted : '"' ∉ name.toList := fun hc => (plain _ hc).1 rfl
  have ends : name.toList.getLast? ≠ some '\\' := fun last => (plain _ (List.mem_of_getLast? last)).2.1 rfl
  have clean : standIn ∉ name.toList := fun hc => (plain _ hc).2.2 rfl
  have chars : (Demo.inspectLine name).toList = "inspect ".toList ++ quote name.toList := by
    rw [quote, if_neg ends, escape_eq_self unquoted, Demo.inspectLine, String.toList_append, String.toList_append]
    simp
  have scanned : scan .unquoted [] (Demo.inspectLine name).toList = (["inspect".toList, name.toList], .unquoted) := by
    rw [chars, scan_inspect, scan_quote ⟨clean, fun last => absurd last ends⟩]
  have whole : standIn ∉ (Demo.inspectLine name).toList := by
    rw [chars, List.mem_append, not_or]
    exact ⟨by decide, standIn_notMem_quote clean⟩
  have solid : (Demo.inspectLine name).toList.all Text.isBlank = false := by
    rw [chars]
    rfl
  rw [parse_eq_ok_iff, tokens_eq_scan whole, scanned, solid]
  rfl

end Line

/-! ## The scene and the events -/

namespace Scene

theorem isLive_spawn (s : Scene h) (name : String) (p : h.Provider) (object : h.Object p) :
    (s.spawn name p object).2.isLive p = true := by
  rw [Scene.isLive, Scene.spawn, List.any_append]
  simp

theorem isLive_set (s : Scene h) (p q : h.Provider) (id : Nat) (object : h.Object p) :
    (s.set p id object).isLive q = s.isLive q := by
  have tagged : ∀ t : Scene h, t.isLive q = t.tags.any (·.provider == q) := fun t => by
    rw [Scene.isLive, Scene.tags, List.any_map]
    rfl
  rw [tagged, tagged, tags_set]

/-- Putting back the object that is there changes nothing. -/
theorem set_same (s : Scene h) {i : Instance h} (present : i ∈ s.instances) : s.set i.provider i.id i.object = s := by
  have same : (s.set i.provider i.id i.object).instances = s.instances := by
    rw [s.set_instances present]
    refine (List.map_congr_left fun j hj => ?_).trans (List.map_id _)
    split
    · rename_i meant
      have found := s.find?_id hj
      rw [meant, s.find?_id present] at found
      exact Option.some.inj found
    · rfl
  obtain ⟨instances, nextId, idsGrow, idsIssued⟩ := s
  exact (Scene.mk.injEq ..).mpr ⟨same, rfl⟩

end Scene

theorem Console.note_nil (c : Console h τ) : c.note [] = c := by rw [Console.note, List.append_nil]

/-- The event changes neither the commands, nor the scene, nor the conversions. -/
def Event.Settled : Event h τ → Prop
  | .change _ => False
  | .converter _ _ => False
  | _ => True

/-! ## The name sought -/

theorem Text.pieces_single {sep : Char} {s : List Char} (none : sep ∉ s) : pieces sep s = [s] := by
  induction s with
  | nil => rfl
  | cons c s ih =>
    rw [List.mem_cons, not_or] at none
    rw [pieces, if_neg (Ne.symm none.1), ih none.2]

theorem Conversions.commaPieces_single {token : String} (single : ',' ∉ token.toList) : commaPieces token = [Text.trim token] := by
  rw [commaPieces, Text.piecesOf, Text.pieces_single single, List.map_singleton, List.map_singleton, String.ofList_toList]

namespace Demo

variable {guest : Host}

/-- The name that the world is asked for. -/
def sought (name : String) : String := if ',' ∈ name.toList then name else Text.trim name

theorem sought_eq_iff (name : String) : sought name = name ↔ ',' ∈ name.toList ∨ Text.trim name = name := by
  unfold sought
  split
  · rename_i commas
    exact ⟨fun _ => .inl commas, fun _ => rfl⟩
  · rename_i single
    exact ⟨.inr, fun either => either.resolve_left single⟩

/-- References are found by exact name, and in no other way. -/
def Refers (c : Conversions (host guest)) : Prop :=
  ∀ arity, c.candidates .object arity = (Convert.objectNamed findEntity).filter (·.arity == arity)

theorem refers_register {c : Conversions (host guest)} (unknown : c.knows .object = false) :
    Refers (c.register .object (Convert.objectNamed findEntity)) := by
  intro arity
  have none : c.overloads .object = none := by simpa [Conversions.knows] using unknown
  simp [Conversions.candidates, Conversions.register, none]

/-- What a name converts to. -/
def reference (state : (host guest).State) (name : String) : Except Failure ObjectRef :=
  match findEntity state name with
  | some ref => .ok ref
  | none => .error (.unknownObject name)

variable {c : Conversions (host guest)}

theorem Refers.convert_one (refers : Refers c) (state : (host guest).State) (token : String) :
    c.convert state .object [token] = reference state token := by
  have one := refers 1
  rw [Conversions.convert_eq, show [token].length = 1 from rfl, one]
  rfl

theorem Refers.convert_several (refers : Refers c) (state : (host guest).State) {tokens : List String} (several : tokens.length ≠ 1) :
    c.convert state .object tokens = .error (.noOverload "EntityRef" tokens.length) := by
  have nothing : c.candidates .object tokens.length = [] := by
    rw [refers]
    simp [Convert.objectNamed, Convert.single, Ne.symm several]
  rw [Conversions.convert_eq, nothing]
  rfl

theorem Refers.notices (refers : Refers c) (arity : Nat) : c.notices .object arity = [] := by
  have one : ((Convert.objectNamed findEntity : List (Overload (host guest) .object)).filter (·.arity == arity)).length ≤ 1 :=
    List.length_filter_le _ _
  unfold Conversions.notices
  rw [refers, if_neg (by omega)]

/-- A name converts to the first entity that has the name sought. -/
theorem Refers.convertToken (refers : Refers c) (state : (host guest).State) (name : String) :
    c.convertToken state .object name = ([], reference state (sought name)) := by
  unfold sought
  simp only [Conversions.convertToken_eq, Conversions.converted_eq, refers.notices]
  by_cases commas : ',' ∈ name.toList
  · have several := Conversions.one_lt_commaPieces commas
    have refused : Conversions.isRefusal (c.convert state .object (Conversions.commaPieces name)) = true := by
      rw [refers.convert_several state (by omega)]
      rfl
    rw [if_pos ⟨several, refused⟩, if_pos commas, refers.convert_one]
    rfl
  · rw [Conversions.commaPieces_single commas, refers.convert_one, if_neg (by simp), if_neg commas]

/-! ## Installed -/

/-- The inspector is at hand. -/
structure Installed (c : Console (host guest) τ) : Prop where
  command : c.registry.resolve? "inspect" = inspectorCommands.head?
  live : c.scene.isLive (.inl .inspector) = true
  refers : Refers c.conversions

theorem register_eq (c : Console (host guest) τ) : ∃ log, register c =
    { c with
        conversions := c.conversions.register .object (Convert.objectNamed findEntity)
        registry := ((c.registry.registerAll cubeCommands).2.registerAll inspectorCommands).2
        log := log } := by
  obtain ⟨log, cube⟩ := (c.registerConverter .object (Convert.objectNamed findEntity)).registerCommands_eq cubeCommands
  unfold register
  rw [cube]
  exact Console.registerCommands_eq inspectorCommands _

/-- In a world with a cube the demo is installed. -/
theorem Installed.install {c : Console (host guest) τ} (cube : c.state.1.named? "cube" ≠ none)
    (unknown : c.conversions.knows .object = false) (seed : UInt64) :
    (Demo.install seed c).2 = .ok () ∧ Installed (Demo.install seed c).1 := by
  obtain ⟨log, registered⟩ := register_eq c
  obtain ⟨e, found⟩ := Option.ne_none_iff_exists'.mp cube
  unfold Demo.install
  rw [registered]
  simp only [found]
  refine ⟨trivial, ?_, Scene.isLive_spawn _ _ _ _, refers_register unknown⟩
  exact (Registry.resolve?_register _ _ _).trans (if_pos rfl)

/-! ## What the line stands for -/

/-- The line names the inspector and gives it the entity of the name sought, if there is one. -/
theorem Installed.prepare_eq {c : Console (host guest) τ} (installed : Installed c) {name : String} (plain : Plain name) :
    ∃ command : Command (host guest), command.binding = .handler (.inl .inspector) inspect ∧
      c.prepare (inspectLine name) =
        ([], (findEntity c.state (sought name)).elim (.error .badArgument) fun ref => .ok (command, [.typed .object ref])) := by
  let command : Command (host guest) := inspectorCommands.head (List.cons_ne_nil _ _)
  have found : c.registry.resolveLive? c.scene "inspect" = some command := by
    have own : c.registry.resolve? "inspect" = some command := installed.command
    rw [Registry.resolveLive?, own]
    exact if_pos installed.live
  have resolved : c.resolve (inspectLine name) = .ok (command, [name]) := by
    simp only [Console.resolve, Line.parse_inspectLine plain, found]
    exact if_pos rfl
  have given : c.conversions.convertAll c.state (command.params.map (·.type)) [name] =
      ([], (findEntity c.state (sought name)).elim (.error .badArgument) fun ref => .ok [.typed .object ref]) := by
    have converted := installed.refers.convertToken c.state name
    show c.conversions.convertAll c.state [.typed .object] [name] = _
    simp only [Conversions.convertAll, Conversions.argument, converted, reference]
    cases findEntity c.state (sought name) <;> rfl
  refine ⟨command, rfl, ?_⟩
  unfold Console.prepare
  rw [resolved]
  dsimp only
  rw [given]
  cases findEntity c.state (sought name) <;> rfl

/-- An entity found by a name is found by its number, in a world whose numbers are all
    different. Otherwise it is one of the same number. -/
theorem get?_of_named? {world : World} {name : String} {e : Entity} (found : world.named? name = some e) :
    ∃ shown, world.get? e.id = some shown ∧ shown.id = e.id ∧ ((world.entities.map (·.id)).Nodup → shown = e) := by
  have listed := List.mem_of_find?_eq_some found
  have some : (world.get? e.id).isSome = true := List.find?_isSome.mpr ⟨e, listed, beq_self_eq_true _⟩
  obtain ⟨shown, again⟩ := Option.isSome_iff_exists.mp some
  have same : shown.id = e.id := eq_of_beq (List.find?_some (p := fun f : Entity => f.id == e.id) again)
  exact ⟨shown, again, same, fun distinct => List.inj_on_of_nodup_map distinct (List.mem_of_find?_eq_some again) listed same⟩

/-- The inspector reports the entity of the number, and leaves the state and itself alone. -/
theorem inspect_reply (style : Style) (named : String) (ref : ObjectRef) {state : (host guest).State} {shown : Entity}
    (found : state.1.get? ref.id = some shown) (object : Unit) :
    inspect ⟨style, [.typed .object ref], named⟩ state object =
      { written := report shown, state := state, object := object, outcome := .ok () } := by
  have target : Arguments.typed [(.typed .object ref : Argument (host guest))] .object 0 = .ok ref := rfl
  unfold inspect
  simp only [target, found]

variable [Transport τ]

/-! ## Whatever happens -/

theorem Installed.step {c : Console (host guest) τ} (installed : Installed c) {e : Event (host guest) τ} (settled : e.Settled) :
    Installed (c.step e) := by
  have conversions : (c.step e).conversions = c.conversions :=
    c.step_conversions fun t overloads he => by rw [he] at settled; exact settled
  have altered : Setup.Altered c.setup (c.step e).setup :=
    c.step_setup fun a he => by rw [he] at settled; exact settled
  have scene : (c.step e).scene.isLive (.inl .inspector) = c.scene.isLive (.inl .inspector) := by
    rcases altered with same | ⟨p, id, object, same⟩
    · rw [show (c.step e).scene = c.scene from congrArg Setup.scene same]
    · rw [show (c.step e).scene = c.scene.set p id object from congrArg Setup.scene same]
      exact Scene.isLive_set _ _ _ _ _
  have registry : (c.step e).registry = c.registry := altered.registry
  exact ⟨registry ▸ installed.command, scene.trans installed.live, conversions ▸ installed.refers⟩

/-- The inspector stays at hand. -/
theorem Installed.run {c : Console (host guest) τ} (installed : Installed c) {es : List (Event (host guest) τ)}
    (settled : ∀ e ∈ es, e.Settled) : Installed (c.run es) := by
  induction es generalizing c with
  | nil => exact installed
  | cons e es ih =>
    exact ih (installed.step (settled e List.mem_cons_self)) fun f hf => settled f (List.mem_cons_of_mem e hf)

/-! ## Inspecting -/

/-- The console when the inspector has printed an entity, behind a warning if there are
    several inspectors. -/
def inspected (c : Console (host guest) τ) (shown : Entity) : Console (host guest) τ :=
  let noted := (c.scene.choose (.inl .inspector)).1
  { c.note noted with
      transport := Transport.write c.colors (noted.map (fun n => .warning n.text) ++ report shown) c.transport }

/-- The line prints the entity and is recorded, and nothing else is changed. -/
structure Prints (c : Console (host guest) τ) (line : String) (shown : Entity) : Prop where
  succeeds : c.dispatch line = (inspected c shown, .ok ())
  ends : c.execute line = { inspected c shown with history := c.history.record (Text.trim line) }

theorem Installed.prints {c : Console (host guest) τ} (installed : Installed c) {name : String} (plain : Plain name) {e shown : Entity}
    (found : c.state.1.named? (sought name) = some e) (again : c.state.1.get? e.id = some shown) :
    Prints c (inspectLine name) shown := by
  obtain ⟨command, bound, prepared⟩ := installed.prepare_eq plain
  have prepared : c.prepare (inspectLine name) = ([], .ok (command, [.typed .object ⟨e.id, e.name⟩])) := by
    rw [prepared, findEntity, found]
    rfl
  obtain ⟨id, named, object, present, -, chosen⟩ := c.scene.exists_first installed.live
  have reply := inspect_reply (Transport.style c.transport) named ⟨e.id, e.name⟩ again object
  have invoked := congrArg Prod.fst (c.invokeIn_first present chosen inspect [.typed .object ⟨e.id, e.name⟩] [])
  rw [Console.invokeIn_fst] at invoked
  have ran : c.dispatch (inspectLine name) = (inspected c shown, .ok ()) := by
    unfold inspected
    rw [Console.dispatch_eq, prepared]
    simp only [bound, Console.note_nil, invoked, Console.Invocation.reply, reply, Scene.set_same _ present]
    rw [chosen]
    rfl
  refine ⟨ran, ?_⟩
  rw [Console.execute_eq, ran]
  rfl

/-- Without an entity of the name sought the line fails, and changes nothing else. -/
theorem Installed.fails {c : Console (host guest) τ} (installed : Installed c) {name : String} (plain : Plain name)
    (none : c.state.1.named? (sought name) = none) :
    (c.dispatch (inspectLine name)).2 = .error .badArgument ∧
      c.execute (inspectLine name) = c.write [.error Failure.badArgument.message] := by
  obtain ⟨command, -, prepared⟩ := installed.prepare_eq plain
  have ran : c.dispatch (inspectLine name) = (c, .error .badArgument) := by
    rw [Console.dispatch_eq, prepared, findEntity, none]
    exact congrArg (·, Except.error Failure.badArgument) c.note_nil
  refine ⟨congrArg Prod.snd ran, ?_⟩
  rw [Console.execute_eq, ran]
  rfl

/-- With the demo installed, and whatever happens then but changes to the commands, the
    conversions and the scene, the line with a name in quotes prints the entity that the
    world finds by the name sought, by its number, or fails if there is none. The name sought
    is the name typed exactly if that has a comma or no blanks at its ends. -/
theorem inspected_by_quoted_name (seed : UInt64) (start : Console (host guest) τ) (cube : start.state.1.named? "cube" ≠ none)
    (unknown : start.conversions.knows .object = false) (es : List (Event (host guest) τ)) (settled : ∀ e ∈ es, e.Settled)
    (name : String) (plain : Plain name) :
    let c := (install seed start).1.run es
    let world := c.state.1
    (install seed start).2 = .ok () ∧
    (∀ e, world.named? (sought name) = some e → ∃ shown, world.get? e.id = some shown ∧ Prints c (inspectLine name) shown ∧
      shown.id = e.id ∧ ((world.entities.map (·.id)).Nodup → shown = e)) ∧
    (world.named? (sought name) = none → (c.dispatch (inspectLine name)).2 = .error .badArgument ∧
      c.execute (inspectLine name) = c.write [.error Failure.badArgument.message]) ∧
    (sought name = name ↔ ',' ∈ name.toList ∨ Text.trim name = name) := by
  intro c world
  obtain ⟨ok, installed⟩ := Installed.install cube unknown seed
  have installed : Installed c := installed.run settled
  refine ⟨ok, fun e found => ?_, installed.fails plain, sought_eq_iff name⟩
  obtain ⟨shown, again, same⟩ := get?_of_named? found
  exact ⟨shown, again, installed.prints plain found again, same⟩

/-- A name with a comma is found, blanks at its ends and all. -/
theorem inspected_by_quoted_name_comma :
    let world := (World.demo.add " desk, old" Vec3.zero Color.gray).2
    let start : Console (host Host.bare) Surface := Console.create Surface.start Settings.standard (world, ())
    let es : List (Event (host Host.bare) Surface) := [.execute "inspect nothing", .tick]
    let c := (install 0 start).1.run es
    let desk : Entity := ⟨3, " desk, old", Vec3.zero, Vec3.zero, Vec3.one, Color.gray⟩
    start.state.1.named? "cube" ≠ none ∧ start.conversions.knows .object = false ∧ (∀ e ∈ es, e.Settled) ∧ Plain " desk, old" ∧
      c.state.1.named? " desk, old" = some desk ∧ Prints c (inspectLine " desk, old") desk := by
  intro world start es c desk
  have cube : start.state.1.named? "cube" ≠ none := by decide
  have settled : ∀ e ∈ es, e.Settled := by simp [es, Event.Settled]
  have plain : Plain " desk, old" := by decide
  have found : c.state.1.named? " desk, old" = some desk := by rfl
  have own : sought " desk, old" = " desk, old" := by decide
  have distinct : (c.state.1.entities.map (·.id)).Nodup := by decide
  obtain ⟨-, shows, -⟩ := inspected_by_quoted_name 0 start cube rfl es settled " desk, old" plain
  obtain ⟨shown, -, prints, -, same⟩ := shows desk (own.symm ▸ found)
  exact ⟨cube, rfl, settled, plain, found, same distinct ▸ prints⟩

/-- Blanks at the ends of a name without commas are lost, and the entity is not found. -/
theorem edged_name_missed :
    let world := (World.demo.add " desk " Vec3.zero Color.gray).2
    let start : Console (host Host.bare) Surface := Console.create Surface.start Settings.standard (world, ())
    let c := (install 0 start).1
    (install 0 start).2 = .ok () ∧ (c.state.1.named? " desk ").isSome = true ∧ Plain " desk " ∧
      (c.dispatch (inspectLine " desk ")).2 = .error .badArgument := by
  intro world start c
  exact ⟨rfl, by decide, by decide, rfl⟩

end Demo

end CommandConsole
