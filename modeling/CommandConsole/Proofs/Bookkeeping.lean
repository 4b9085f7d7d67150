/-
  CommandConsole.Proofs.Bookkeeping — what a scene knows of the objects put into it.

  A host spawns objects and despawns them by the numbers it was answered. `Deed` is one such
  call with its answer and `log` what a run of them leaves on record. `standing` reads the
  record alone: an instance stands if it was spawned and no later entry despawns its number.
  A number may be despawned that is not live, before it is given out or long after. Handlers,
  which put other objects into instances, do not run here.

  The scene holds a list that is only appended to and filtered, and it is just what stands
  (`Records`): one more spawn adds an instance at the end of those that stand, one more
  despawn takes out those of its number, of which there is at most one.

  Proved (`scene_keeps_books`), after any spawns and despawns:
  - the instances are those that stand, in the order of spawning, and their numbers grow;
  - the numbers that were answered grow along the run, so none is answered twice;
  - despawning answers whether the number is live, takes out that instance and leaves the
    others and their order as they are (`Despawns`);
  - what can be asked of the scene is answered from the instances that stand, and the one
    chosen for a provider is its first (`Answers`).
-/

import CommandConsole.Scene

namespace CommandConsole.Scene

variable {h : Host}

/-! ## A run of spawns and despawns -/

inductive Act (h : Host) where
  | spawn (name : String) (p : h.Provider) (object : h.Object p)
  | despawn (id : Nat)

inductive Deed (h : Host) where
  /-- With the number that was answered. -/
  | spawned (i : Instance h)
  | despawned (id : Nat)

def act (s : Scene h) : Act h → Scene h
  | .spawn name p object => (s.spawn name p object).2
  | .despawn id => (s.despawn id).2

def deed (s : Scene h) : Act h → Deed h
  | .spawn name p object => .spawned ⟨(s.spawn name p object).1, name, p, object⟩
  | .despawn id => .despawned id

def after (s : Scene h) (acts : List (Act h)) : Scene h := acts.foldl act s

/-- What a run leaves on record. -/
def log (s : Scene h) : List (Act h) → List (Deed h)
  | [] => []
  | a :: acts => s.deed a :: (s.act a).log acts

/-! ## Reading the record -/

def Deed.despawns (id : Nat) : Deed h → Bool
  | .spawned _ => false
  | .despawned other => other == id

def Deed.issued? : Deed h → Option Nat
  | .spawned i => some i.id
  | .despawned _ => none

/-- The numbers that were answered, in their order. -/
def issued (log : List (Deed h)) : List Nat := log.filterMap Deed.issued?

/-- The instances that were spawned and not despawned since, in the order of spawning. -/
def standing : List (Deed h) → List (Instance h)
  | [] => []
  | .spawned i :: rest => if rest.any (Deed.despawns i.id) then standing rest else i :: standing rest
  | .despawned _ :: rest => standing rest

theorem standing_spawned (log : List (Deed h)) (i : Instance h) : standing (log ++ [.spawned i]) = standing log ++ [i] := by
  induction log with
  | nil => rfl
  | cons d log ih =>
    cases d with
    | spawned j =>
      have later : (log ++ [Deed.spawned i]).any (Deed.despawns j.id) = log.any (Deed.despawns j.id) := by
        simp [Deed.despawns]
      rw [List.cons_append, standing, later, ih, standing]
      split
      · rfl
      · rfl
    | despawned id => exact ih

theorem standing_despawned (log : List (Deed h)) (id : Nat) :
    standing (log ++ [.despawned id]) = (standing log).filter (·.id != id) := by
  induction log with
  | nil => rfl
  | cons d log ih =>
    cases d with
    | spawned j =>
      have later : (log ++ [Deed.despawned id]).any (Deed.despawns j.id) = (log.any (Deed.despawns j.id) || id == j.id) := by
        simp [Deed.despawns]
      rw [List.cons_append, standing, later, ih, standing]
      by_cases gone : log.any (Deed.despawns j.id) = true
      · simp [gone]
      · by_cases meant : id = j.id
        · simp [gone, meant]
        · have other : j.id ≠ id := fun same => meant same.symm
          simp [gone, meant, other]
    | despawned other => exact ih

/-! ## The scene is what stands -/

/-- The scene holds what stands, and the numbers that were answered grow. -/
structure Records (s : Scene h) (log : List (Deed h)) : Prop where
  instances : s.instances = standing log
  grow : (issued log).Pairwise (· < ·)
  below : ∀ id ∈ issued log, id < s.nextId

theorem records_empty : Records (empty : Scene h) [] := ⟨rfl, List.Pairwise.nil, fun _ hid => nomatch hid⟩

theorem Records.act {s : Scene h} {log : List (Deed h)} (records : Records s log) (a : Act h) :
    Records (s.act a) (log ++ [s.deed a]) := by
  cases a with
  | spawn name p object =>
    have numbers : issued (log ++ [s.deed (.spawn name p object)]) = issued log ++ [s.nextId] := by
      simp [issued, deed, Deed.issued?, spawn]
    refine ⟨?_, ?_, ?_⟩
    · rw [deed, standing_spawned, ← records.instances]
      rfl
    · rw [numbers, List.pairwise_append]
      refine ⟨records.grow, by simp, fun id hid new hnew => ?_⟩
      rw [List.mem_singleton.mp hnew]
      exact records.below id hid
    · intro id hid
      show id < s.nextId + 1
      rw [numbers, List.mem_append, List.mem_singleton] at hid
      rcases hid with hid | rfl
      · have := records.below id hid
        omega
      · omega
  | despawn id =>
    have numbers : issued (log ++ [s.deed (.despawn id)]) = issued log := by
      simp [issued, deed, Deed.issued?]
    refine ⟨?_, ?_, ?_⟩
    · rw [deed, standing_despawned, ← records.instances]
      rfl
    · rw [numbers]
      exact records.grow
    · rw [numbers]
      exact records.below

theorem Records.after {s : Scene h} {log : List (Deed h)} (records : Records s log) (acts : List (Act h)) :
    Records (s.after acts) (log ++ s.log acts) := by
  induction acts generalizing s log with
  | nil =>
    rw [Scene.log, List.append_nil]
    exact records
  | cons a acts ih =>
    have rest := ih (records.act a)
    rw [List.append_assoc] at rest
    exact rest

/-! ## Despawning -/

/-- What despawning a number does to a scene with these live instances. -/
structure Despawns (s : Scene h) (live : List (Instance h)) (id : Nat) : Prop where
  answer : (s.despawn id).1 = true ↔ id ∈ live.map (·.id)
  removes : ∀ before i after, live = before ++ i :: after → i.id = id → (s.despawn id).2.instances = before ++ after
  spares : id ∉ live.map (·.id) → (s.despawn id).2 = s

/-- Of growing numbers only one is met. -/
theorem filter_split {before after : List (Instance h)} {i : Instance h}
    (grow : ((before ++ i :: after).map (·.id)).Pairwise (· < ·)) :
    (before ++ i :: after).filter (·.id != i.id) = before ++ after := by
  rw [List.map_append, List.map_cons, List.pairwise_append, List.pairwise_cons] at grow
  obtain ⟨-, ⟨later, -⟩, earlier⟩ := grow
  have low : ∀ j ∈ before, (j.id != i.id) = true := by
    intro j hj
    have := earlier j.id (List.mem_map_of_mem hj) i.id List.mem_cons_self
    simp
    omega
  have high : ∀ j ∈ after, (j.id != i.id) = true := by
    intro j hj
    have := later j.id (List.mem_map_of_mem hj)
    simp
    omega
  rw [List.filter_append, List.filter_eq_self.mpr low, List.filter_cons_of_neg (by simp), List.filter_eq_self.mpr high]

theorem despawns (s : Scene h) (id : Nat) : Despawns s s.instances id := by
  refine ⟨?_, fun before i after split meant => ?_, fun absent => ?_⟩
  · simp [despawn]
  · subst meant
    have grow := s.idsGrow
    rw [split] at grow
    show s.instances.filter (·.id != i.id) = before ++ after
    rw [split, filter_split grow]
  · have same : s.instances.filter (·.id != id) = s.instances := by
      refine List.filter_eq_self.mpr fun j hj => ?_
      have other : j.id ≠ id := fun meant => absent (meant ▸ List.mem_map_of_mem hj)
      simpa using other
    cases s
    simp only [despawn, same]

/-! ## Asking -/

/-- An instance of the provider with none of them before it. -/
def First (live : List (Instance h)) (p : h.Provider) (i : Instance h) : Prop :=
  i.provider = p ∧ ∃ before after, live = before ++ i :: after ∧ ∀ j ∈ before, j.provider ≠ p

/-- What a scene with these live instances answers. -/
structure Answers (s : Scene h) (live : List (Instance h)) : Prop where
  get : ∀ p id object, s.get? p id = some object ↔ ∃ name, ⟨id, name, p, object⟩ ∈ live
  count : ∀ p, s.count p = live.countP (·.provider == p)
  isLive : ∀ p, s.isLive p = true ↔ ∃ i ∈ live, i.provider = p
  size : s.size = live.length
  chooses : ∀ p id, (s.choose p).2 = .ok id ↔ ∃ i, First live p i ∧ i.id = id
  refuses : ∀ p f, (s.choose p).2 = .error f ↔ f = .noInstance ∧ ∀ i ∈ live, i.provider ≠ p

theorem get?_eq_some_iff (s : Scene h) (p : h.Provider) (id : Nat) (object : h.Object p) :
    s.get? p id = some object ↔ ∃ name, (⟨id, name, p, object⟩ : Instance h) ∈ s.instances := by
  constructor
  · intro found
    obtain ⟨i, hi, own⟩ := Option.bind_eq_some_iff.mp found
    have number : i.id = id := by simpa using List.find?_some hi
    have present : i ∈ s.instances := List.mem_of_find?_eq_some hi
    obtain ⟨n, name, q, o⟩ := i
    unfold Instance.as? at own
    split at own
    · rename_i kind
      subst kind
      subst number
      cases own
      exact ⟨name, present⟩
    · cases own
  · rintro ⟨name, present⟩
    rw [get?, s.find?_id present]
    simp [Instance.as?]

theorem first_iff (live : List (Instance h)) (p : h.Provider) (i : Instance h) :
    live.find? (·.provider == p) = some i ↔ First live p i := by
  rw [List.find?_eq_some_iff_append, First]
  simp

/-- The chosen one is the first that is found. -/
theorem choose_eq_find? (s : Scene h) (p : h.Provider) : (s.choose p).2 =
    match s.instances.find? (·.provider == p) with
    | some i => .ok i.id
    | none => .error .noInstance := by
  have front : (s.ofProvider p).head? = s.instances.find? (·.provider == p) := List.head?_filter
  rw [← front, choose]
  split
  · rename_i e
    rw [e]
    rfl
  · rename_i e
    rw [e]
    rfl
  · rename_i e
    rw [e]
    rfl

theorem answers (s : Scene h) : Answers s s.instances := by
  refine ⟨s.get?_eq_some_iff, fun p => ?_, fun p => ?_, rfl, fun p id => ?_, fun p f => ?_⟩
  · rw [count, ofProvider, List.countP_eq_length_filter]
  · simp [isLive]
  · rw [choose_eq_find?]
    cases found : s.instances.find? (·.provider == p) with
    | none =>
      constructor
      · intro chosen
        cases chosen
      · rintro ⟨i, first, -⟩
        rw [(first_iff _ _ _).mpr first] at found
        cases found
    | some i =>
      have first := (first_iff _ _ _).mp found
      constructor
      · intro chosen
        exact ⟨i, first, Except.ok.inj chosen⟩
      · rintro ⟨j, other, rfl⟩
        rw [(first_iff _ _ _).mpr other] at found
        rw [Option.some.inj found]
  · rw [choose_eq_find?]
    cases found : s.instances.find? (·.provider == p) with
    | none =>
      have absent : ∀ i ∈ s.instances, i.provider ≠ p := by simpa using found
      constructor
      · intro refused
        exact ⟨(Except.error.inj refused).symm, absent⟩
      · rintro ⟨rfl, -⟩
        rfl
    | some i =>
      have present := List.mem_of_find?_eq_some found
      have kind : i.provider = p := by simpa using List.find?_some found
      constructor
      · intro refused
        cases refused
      · rintro ⟨-, absent⟩
        exact absurd kind (absent i present)

/-- After any spawns and despawns the scene holds the instances that were spawned and not
    despawned since, in the order of spawning and of growing numbers; no number was answered
    twice; and what it is asked to despawn or to tell, it does and tells of these. -/
theorem scene_keeps_books (acts : List (Act h)) :
    let s := (empty : Scene h).after acts
    let log := (empty : Scene h).log acts
    let live := standing log
    s.instances = live ∧ (live.map (·.id)).Pairwise (· < ·) ∧ (issued log).Pairwise (· < ·) ∧
      (∀ id, Despawns s live id) ∧ Answers s live := by
  intro s log live
  have records : Records s log := by
    have ran := Records.after (records_empty (h := h)) acts
    rwa [List.nil_append] at ran
  have grow := s.idsGrow
  have gone := s.despawns
  have told := s.answers
  rw [records.instances] at grow gone told
  exact ⟨records.instances, grow, records.grow, gone, told⟩

end CommandConsole.Scene
