/-
  CommandConsole.Proofs.Instances — the instance a handler runs against.

  An instance is live from the moment it is spawned until its number is despawned. `Life`
  is the log of both, written along a run from what the host did and was answered; `Live`
  and `Earliest` are said of the log alone, whatever the scene holds.

  A command of a provider goes through four lookups: its provider has to be live, the first
  instance of the provider is chosen, it is found again by its number, and its object is
  taken out as one of the provider. `Follows` is why they meet in one instance: the scene has
  exactly the live instances of the log, and the numbers grow in the order of spawning.

  Proved:
  - `follows_run`: after any run the scene follows the log.
  - `invokeIn_first`: what invoking a handler does, given the first instance of its provider.
  - `handler_meets_earliest`: after any run, a line whose stages end with a command of a
    provider runs its handler once, against the earliest of the live instances of just that
    provider; the line ends as the handler does; no other object is touched; and what the
    handler writes follows a warning that names the instance exactly if there were others.
-/

import CommandConsole.Demo
import CommandConsole.Proofs.Dispatch
import CommandConsole.Proofs.Runs
import CommandConsole.Transport.Surface

namespace CommandConsole

variable {h : Host}

/-! ## Lives -/

/-- An instance without its object. -/
structure Tag (h : Host) where
  id : Nat
  name : String
  provider : h.Provider

def Instance.tag (i : Instance h) : Tag h := ⟨i.id, i.name, i.provider⟩

def Scene.tags (s : Scene h) : List (Tag h) := s.instances.map Instance.tag

inductive Life (h : Host) where
  /-- With the number that was answered. -/
  | spawned (t : Tag h)
  | despawned (id : Nat)

/-- Spawned, and not despawned since. -/
def Live (log : List (Life h)) (t : Tag h) : Prop :=
  ∃ before after, log = before ++ .spawned t :: after ∧ .despawned t.id ∉ after

/-- Live, and whatever of the provider was spawned before is not. -/
def Earliest (log : List (Life h)) (p : h.Provider) (t : Tag h) : Prop :=
  t.provider = p ∧ ∃ before after, log = before ++ .spawned t :: after ∧ .despawned t.id ∉ after ∧
    ∀ u, .spawned u ∈ before → u.provider = p → ¬ Live log u

/-- A log with one more entry is cut at an entry of the old log, or at the new one. -/
theorem snoc_split {α : Type} {log before after : List α} {e x : α} (split : log ++ [e] = before ++ x :: after) :
    (log = before ∧ e = x ∧ after = []) ∨ ∃ rest, log = before ++ x :: rest ∧ after = rest ++ [e] := by
  rcases List.eq_nil_or_concat after with rfl | ⟨rest, last, rfl⟩
  · obtain ⟨same, new⟩ := List.append_inj' split rfl
    exact .inl ⟨same, (List.cons.inj new).1, rfl⟩
  · rw [List.concat_eq_append, ← List.cons_append, ← List.append_assoc] at split
    obtain ⟨same, new⟩ := List.append_inj' split rfl
    exact .inr ⟨rest, same, by rw [List.concat_eq_append, new]⟩

theorem live_snoc (log : List (Life h)) (e : Life h) (t : Tag h) :
    Live (log ++ [e]) t ↔ e = .spawned t ∨ Live log t ∧ e ≠ .despawned t.id := by
  constructor
  · rintro ⟨before, after, split, kept⟩
    rcases snoc_split split with ⟨-, new, -⟩ | ⟨rest, old, rfl⟩
    · exact .inl new
    · rw [List.mem_append, not_or] at kept
      exact .inr ⟨⟨before, rest, old, kept.1⟩, fun gone => kept.2 (by rw [gone]; exact List.mem_singleton_self _)⟩
  · rintro (rfl | ⟨⟨before, after, rfl, kept⟩, stays⟩)
    · exact ⟨log, [], rfl, List.not_mem_nil⟩
    · refine ⟨before, after ++ [e], by simp, fun gone => ?_⟩
      rcases List.mem_append.mp gone with gone | gone
      · exact kept gone
      · exact stays (List.mem_singleton.mp gone).symm

/-! ## The scene follows the log -/

/-- The scene has the live instances of the log, and numbers grow. -/
structure Follows (s : Scene h) (log : List (Life h)) : Prop where
  tags : ∀ t, t ∈ s.tags ↔ Live log t
  issued : ∀ t, .spawned t ∈ log → t.id < s.nextId
  grow : ∀ before t after, log = before ++ .spawned t :: after → ∀ u, .spawned u ∈ before → u.id < t.id

theorem follows_empty : Follows (Scene.empty : Scene h) [] := by
  refine ⟨fun t => ⟨fun ht => (nomatch ht), ?_⟩, fun t ht => (nomatch ht), fun before t after split => ?_⟩
  · rintro ⟨before, after, split, -⟩
    simp at split
  · simp at split

theorem Follows.spawn {s : Scene h} {log : List (Life h)} (follows : Follows s log) (name : String) (p : h.Provider)
    (object : h.Object p) :
    Follows (s.spawn name p object).2 (log ++ [.spawned ⟨(s.spawn name p object).1, name, p⟩]) := by
  refine ⟨fun t => ?_, fun t ht => ?_, fun before t after split u hu => ?_⟩
  · have tags : (s.spawn name p object).2.tags = s.tags ++ [⟨s.nextId, name, p⟩] := List.map_append
    rw [tags, List.mem_append, List.mem_singleton, live_snoc, follows.tags t, Scene.spawn]
    simp only [Life.spawned.injEq, ne_eq, reduceCtorEq, not_false_eq_true, and_true]
    rw [or_comm, eq_comm]
  · rcases List.mem_append.mp ht with ht | ht
    · exact Nat.lt_succ_of_lt (follows.issued t ht)
    · cases List.mem_singleton.mp ht
      exact Nat.lt_succ_self _
  · rcases snoc_split split with ⟨rfl, new, -⟩ | ⟨rest, old, -⟩
    · cases new
      exact follows.issued u hu
    · exact follows.grow before t rest old u hu

theorem Follows.despawn {s : Scene h} {log : List (Life h)} (follows : Follows s log) (id : Nat) :
    Follows (s.despawn id).2 (log ++ [.despawned id]) := by
  refine ⟨fun t => ?_, fun t ht => ?_, fun before t after split u hu => ?_⟩
  · have tags : (s.despawn id).2.tags = s.tags.filter (·.id != id) := by
      rw [Scene.tags, Scene.tags, List.filter_map]
      rfl
    rw [tags, List.mem_filter, live_snoc, follows.tags t, bne_iff_ne, ne_comm]
    simp
  · rcases List.mem_append.mp ht with ht | ht
    · exact follows.issued t ht
    · cases List.mem_singleton.mp ht
  · rcases snoc_split split with ⟨-, new, -⟩ | ⟨rest, old, -⟩
    · cases new
    · exact follows.grow before t rest old u hu

theorem tags_set (s : Scene h) (p : h.Provider) (id : Nat) (object : h.Object p) : (s.set p id object).tags = s.tags := by
  rw [Scene.tags, Scene.set, List.map_map]
  refine List.map_congr_left fun i _ => ?_
  rw [Function.comp_apply, Scene.replaced]
  split
  · rename_i meant
    rw [Instance.tag, Instance.tag, meant.2]
  · rfl

theorem Follows.set {s : Scene h} {log : List (Life h)} (follows : Follows s log) (p : h.Provider) (id : Nat)
    (object : h.Object p) : Follows (s.set p id object) log :=
  ⟨fun t => by rw [tags_set]; exact follows.tags t, follows.issued, follows.grow⟩

/-! ## The first instance -/

theorem Scene.ofProvider_grow (s : Scene h) (p : h.Provider) : (s.ofProvider p).Pairwise (·.id < ·.id) :=
  (List.pairwise_map.mp s.idsGrow).sublist List.filter_sublist

/-- A live provider has a first instance, and it is the one chosen; the choice is noted if
    there are others. -/
theorem Scene.exists_first (s : Scene h) {p : h.Provider} (live : s.isLive p = true) :
    ∃ id name object, (⟨id, name, p, object⟩ : Instance h) ∈ s.instances ∧
      (∀ j ∈ s.instances, j.provider = p → id ≤ j.id) ∧
      s.choose p = (if 2 ≤ s.count p then [.severalInstances (h.providerName p) name] else [], .ok id) := by
  obtain ⟨j, hj, hp⟩ := List.any_eq_true.mp live
  have filled : s.ofProvider p ≠ [] := List.ne_nil_of_mem (List.mem_filter.mpr ⟨hj, hp⟩)
  obtain ⟨⟨id, name, q, object⟩, rest, split⟩ := List.exists_cons_of_ne_nil filled
  have here := List.mem_filter.mp (split ▸ List.mem_cons_self : ⟨id, name, q, object⟩ ∈ s.ofProvider p)
  obtain rfl : q = p := eq_of_beq here.2
  have grow := s.ofProvider_grow q
  rw [split, List.pairwise_cons] at grow
  refine ⟨id, name, object, here.1, fun k hk kind => ?_, ?_⟩
  · have listed : k ∈ s.ofProvider q := List.mem_filter.mpr ⟨hk, by simp [kind]⟩
    rw [split] at listed
    rcases List.mem_cons.mp listed with rfl | later
    · exact Nat.le_refl _
    · exact Nat.le_of_lt (grow.1 k later)
  · rw [choose, count, split]
    cases rest <;> simp

/-- Putting another object into an instance leaves the other instances. -/
theorem Scene.set_instances (s : Scene h) {i : Instance h} (present : i ∈ s.instances) (object : h.Object i.provider) :
    (s.set i.provider i.id object).instances = s.instances.map fun j =>
      if j.id = i.id then ⟨i.id, i.name, i.provider, object⟩ else j := by
  refine List.map_congr_left fun j hj => ?_
  by_cases same : j.id = i.id
  · have found := s.find?_id hj
    rw [same, s.find?_id present] at found
    obtain rfl : i = j := Option.some.inj found
    simp [replaced]
  · simp [replaced, same]

/-- At least two instances of a provider are live. -/
def Several (log : List (Life h)) (p : h.Provider) : Prop :=
  ∃ t u, Live log t ∧ Live log u ∧ t.provider = p ∧ u.provider = p ∧ t.id ≠ u.id

theorem Follows.several_iff {s : Scene h} {log : List (Life h)} (follows : Follows s log) (p : h.Provider) :
    2 ≤ s.count p ↔ Several log p := by
  have listed : ∀ t, t ∈ (s.ofProvider p).map Instance.tag ↔ Live log t ∧ t.provider = p := by
    intro t
    rw [← follows.tags t, Scene.tags, Scene.ofProvider, List.mem_map, List.mem_map]
    constructor
    · rintro ⟨i, hi, rfl⟩
      obtain ⟨hi, kind⟩ := List.mem_filter.mp hi
      exact ⟨⟨i, hi, rfl⟩, eq_of_beq kind⟩
    · rintro ⟨⟨i, hi, rfl⟩, kind⟩
      exact ⟨i, List.mem_filter.mpr ⟨hi, beq_iff_eq.mpr kind⟩, rfl⟩
  have grow : ((s.ofProvider p).map Instance.tag).Pairwise (·.id < ·.id) :=
    List.pairwise_map.mpr (s.ofProvider_grow p)
  have size : s.count p = ((s.ofProvider p).map Instance.tag).length := (List.length_map _).symm
  rw [size]
  generalize (s.ofProvider p).map Instance.tag = tags at listed grow
  constructor
  · intro two
    match tags, two with
    | t :: u :: rest, _ =>
      obtain ⟨ht, kind⟩ := (listed t).mp (by simp)
      obtain ⟨hu, kind'⟩ := (listed u).mp (by simp)
      exact ⟨t, u, ht, hu, kind, kind', Nat.ne_of_lt ((List.pairwise_cons.mp grow).1 u (by simp))⟩
  · rintro ⟨t, u, ht, hu, kind, kind', apart⟩
    have ht := (listed t).mpr ⟨ht, kind⟩
    have hu := (listed u).mpr ⟨hu, kind'⟩
    match tags with
    | [] => cases ht
    | [only] => exact absurd (by rw [List.mem_singleton.mp ht, List.mem_singleton.mp hu]) apart
    | _ :: _ :: _ => simp

theorem Follows.earliest {s : Scene h} {log : List (Life h)} (follows : Follows s log) {i : Instance h}
    (present : i ∈ s.instances) (first : ∀ j ∈ s.instances, j.provider = i.provider → i.id ≤ j.id) :
    Earliest log i.provider i.tag := by
  obtain ⟨before, after, split, kept⟩ := (follows.tags i.tag).mp (List.mem_map_of_mem present)
  refine ⟨rfl, before, after, split, kept, fun u hu kind live => ?_⟩
  obtain ⟨j, hj, rfl⟩ := List.mem_map.mp ((follows.tags u).mpr live)
  exact Nat.lt_irrefl _ (Nat.lt_of_lt_of_le (follows.grow before i.tag after split _ hu) (first j hj kind))

namespace Console

variable {τ : Type}

/-- The log after an event, from what the host did and was answered. -/
def lived (c : Console h τ) : Event h τ → List (Life h) → List (Life h)
  | .change (.spawn name p object), log => log ++ [.spawned ⟨(c.spawn name p object).1, name, p⟩]
  | .change (.despawn id), log => log ++ [.despawned id]
  | _, log => log

variable [Transport τ]

/-- The log of a run. -/
def lives (c : Console h τ) (es : List (Event h τ)) : List (Life h) := c.along lived [] es

theorem step_follows {c : Console h τ} {log : List (Life h)} (follows : Follows c.scene log) (e : Event h τ) :
    Follows (c.step e).scene (c.lived e log) := by
  by_cases change : ∃ a, e = .change a
  · obtain ⟨a, rfl⟩ := change
    have same : (c.step (.change a)).scene = (c.setup.apply a).scene := congrArg Setup.scene (c.change_setup a)
    rw [same]
    cases a with
    | spawn name p object => exact follows.spawn name p object
    | despawn id => exact follows.despawn id
    | alter p id object => exact follows.set p id object
    | _ => exact follows
  · have other : ∀ a, e ≠ .change a := fun a he => change ⟨a, he⟩
    have unlogged : c.lived e log = log := by
      cases e with
      | change a => exact absurd rfl (other a)
      | _ => rfl
    rw [unlogged]
    rcases c.step_setup other with same | ⟨p, id, object, altered⟩
    · rw [show (c.step e).scene = c.scene from congrArg Setup.scene same]
      exact follows
    · rw [show (c.step e).scene = c.scene.set p id object from congrArg Setup.scene altered]
      exact follows.set p id object

/-- After any run the scene follows the log. -/
theorem follows_run (transport : τ) (settings : Settings) (state : h.State) (es : List (Event h τ)) :
    let start : Console h τ := create transport settings state
    Follows (start.run es).scene (start.lives es) := by
  intro start
  have kept : ∀ (c : Console h τ) (log : List (Life h)) (e : Event h τ), Follows c.scene log →
      Follows (c.step e).scene (c.lived e log) := fun _ _ e follows => step_follows follows e
  exact @along_holds h τ _ _ lived (fun c log => Follows c.scene log) kept es start [] follows_empty

/-! ## The handler -/

/-- Operations one after the other are those of both at once. -/
theorem writeAs_append (style : Style) (colors : OutputColors) (first rest : List Output.Op) (t : τ) :
    Transport.writeAs style colors rest (Transport.writeAs style colors first t) =
      Transport.writeAs style colors (first ++ rest) t := by
  rw [Transport.writeAs, Transport.writeAs, Transport.writeAs, List.flatMap_append, List.foldl_append]

/-- What invoking a handler does, given the instance it runs against. -/
theorem invokeIn_first (c : Console h τ) {i : Instance h} (present : i ∈ c.scene.instances) {noted : List Notice}
    (chosen : c.scene.choose i.provider = (noted, .ok i.id)) (run : Handler h i.provider) (args : Arguments h)
    (js : List (Invocation h)) :
    let ran : Invocation h := ⟨i.provider, run, ⟨Transport.style c.transport, args, i.name⟩, c.state, i.object⟩
    (c.invokeIn record i.provider run args).run js =
      (({ c.note noted with
            transport := Transport.writeAs (Transport.style c.transport) c.colors
              ((noted.map fun n => .warning n.text) ++ ran.reply.written) c.transport
            scene := c.scene.set i.provider i.id ran.reply.object
            state := ran.reply.state }, ran.reply.outcome), js ++ [ran]) := by
  intro ran
  have own : i.as? i.provider = some i.object := by simp [Instance.as?]
  simp only [invokeIn, chosen, note, c.scene.find?_id present, own, ← writeAs_append]
  rfl

/-- A warning that names the chosen instance, exactly if there are others of its provider. -/
inductive Warns (log : List (Life h)) (p : h.Provider) (name : String) : List Output.Op → Prop
  | several : Several log p → Warns log p name [.warning (Notice.severalInstances (h.providerName p) name).text]
  | alone : ¬ Several log p → Warns log p name []

/-- A line runs a handler, against the earliest live instance of its provider. -/
structure Meets (log : List (Life h)) (c : Console h τ) (raw : String) (t : Tag h) (ran : Invocation h) : Prop where
  earliest : Earliest log ran.provider t
  named : ran.call.instanceName = t.name
  chosen : (c.scene.choose ran.provider).2 = .ok t.id
  held : c.scene.get? ran.provider t.id = some ran.object
  once : (c.journaled raw).2 = [ran]
  /-- How the line ends is up to the handler. -/
  ends : (c.dispatch raw).2 = ran.reply.outcome
  /-- The other instances are as before. -/
  others : (c.execute raw).scene.instances = c.scene.instances.map fun j =>
    if j.id = t.id then ⟨t.id, t.name, ran.provider, ran.reply.object⟩ else j
  writes : ∃ warnings, Warns log ran.provider t.name warnings ∧
    (c.dispatch raw).1.transport =
      Transport.writeAs (Transport.style c.transport) c.colors (warnings ++ ran.reply.written) c.transport

theorem execute_scene (c : Console h τ) (raw : String) : (c.execute raw).scene = (c.dispatch raw).1.scene := by
  rw [execute_eq]
  split <;> rfl

theorem meets_earliest {c : Console h τ} {log : List (Life h)} (follows : Follows c.scene log) {raw : String}
    {command : Command h} {args : Arguments h} {p : h.Provider} {run : Handler h p}
    (ending : Stages c raw (.ok (command, args))) (bound : command.binding = .handler p run) :
    ∃ t object, Meets log c raw t ⟨p, run, ⟨Transport.style c.transport, args, t.name⟩, c.state, object⟩ := by
  obtain ⟨id, name, object, present, first, chosen⟩ := c.scene.exists_first (ending.provider_live bound)
  have invoked := invokeIn_first (c.note (c.prepare raw).1) present chosen run args []
  have ran := congrArg Prod.fst invoked
  rw [invokeIn_fst, ← dispatch_handler ending bound] at ran
  have warns : Warns log p name
      ((if 2 ≤ c.scene.count p then [Notice.severalInstances (h.providerName p) name] else []).map fun n =>
        .warning n.text) := by
    split
    · rename_i two
      exact .several ((follows.several_iff p).mp two)
    · rename_i fewer
      exact .alone fun several => fewer ((follows.several_iff p).mpr several)
  refine ⟨⟨id, name, p⟩, object, ?_⟩
  exact
    { earliest := follows.earliest present first
      named := rfl
      chosen := congrArg Prod.snd chosen
      held := by rw [Scene.get?, c.scene.find?_id present]; simp [Instance.as?]
      once := by rw [journaled_invoke ending bound, invoked]; rfl
      ends := congrArg Prod.snd ran
      others := by
        rw [execute_scene, ran]
        exact c.scene.set_instances present _
      writes := ⟨_, warns, by rw [ran]; rfl⟩ }

/-- After any run, a line with a command of a provider whose arguments convert runs its
    handler, once, against the earliest of the live instances of just that provider. -/
theorem handler_meets_earliest (transport : τ) (settings : Settings) (state : h.State) (es : List (Event h τ)) :
    let start : Console h τ := create transport settings state
    let c := start.run es
    ∀ raw command args p run, Stages c raw (.ok (command, args)) → command.binding = .handler p run →
      ∃ t object, Meets (start.lives es) c raw t
        ⟨p, run, ⟨Transport.style c.transport, args, t.name⟩, c.state, object⟩ := by
  intro start c raw command args p run ending bound
  exact meets_earliest (follows_run transport settings state es) ending bound

/-- With the first of three inspectors gone, a line runs against the second and warns; what it
    writes begins with the warning. -/
theorem handler_meets_earliest_inspect :
    let start : Console (Demo.host Host.bare) Surface := create Surface.start Settings.standard (World.demo, ())
    let es : List (Event (Demo.host Host.bare) Surface) :=
      [.converter .object (Convert.objectNamed Demo.findEntity), .change (.provide Demo.inspectorCommands),
        .change (.spawn "one" (.inl .inspector) ()), .change (.spawn "two" (.inl .inspector) ()),
        .change (.spawn "three" (.inl .inspector) ()), .change (.despawn 0)]
    let c := start.run es
    ∃ command args, Stages c "inspect lamp" (.ok (command, args)) ∧
      command.binding = .handler (.inl .inspector) Demo.inspect ∧
      (∃ t object, Meets (start.lives es) c "inspect lamp" t
        ⟨.inl .inspector, Demo.inspect, ⟨.markup, args, t.name⟩, c.state, object⟩) ∧
      (c.execute "inspect lamp").transport.output = "<color=#AA871E>\nMore than one instance found for type <b>Inspector</b>. " ++
        "Choosing <b>two</b> for execution.</color>\n<b>lamp</b>\n  id: 2\n  position: (2.0, 3.0, -1.0)\n" ++
        "  rotation: (0.0, 0.0, 0.0)\n  scale: (1.0, 1.0, 1.0)\n  color: <color=#FFEB04>#FFEB04</color>" := by
  intro start es c
  have prepared : ∃ command args, (c.prepare "inspect lamp").2 = .ok (command, args) ∧
      command.binding = .handler (.inl .inspector) Demo.inspect := ⟨_, _, rfl, rfl⟩
  obtain ⟨command, args, ready, bound⟩ := prepared
  have ending : Stages c "inspect lamp" (.ok (command, args)) := ready ▸ c.stages_prepare "inspect lamp"
  exact ⟨command, args, ending, bound, handler_meets_earliest _ _ _ es _ command args _ _ ending bound, by decide +kernel⟩

end Console

end CommandConsole
