/-
  CommandConsole.Scene — the live objects of the providers.

  Instances stand in the order they were spawned and are known by a number that is
  never given out twice: a scene carries the proof that its numbers grow and that the
  next one is greater than all of them. An instance carries its object together with
  the provider it belongs to, so an object can be taken out only as one of that
  provider.

  A command of a provider runs against the first instance of that provider. With more
  than one, a notice says which was chosen.
-/

import CommandConsole.Failure
import CommandConsole.Host
import CommandConsole.Notice

namespace CommandConsole

structure Instance (h : Host) where
  id : Nat
  name : String
  provider : h.Provider
  object : h.Object provider

/-- The object, taken as one of a provider. -/
def Instance.as? {h : Host} (i : Instance h) (p : h.Provider) : Option (h.Object p) :=
  if e : i.provider = p then some (e ▸ i.object) else none

structure Scene (h : Host) where
  instances : List (Instance h)
  /-- The program counts in 64 bits. Its count would come round to a used number after 2^64 objects
      have been spawned, one after the other, which no run lives to see. -/
  nextId : Nat
  idsGrow : (instances.map (·.id)).Pairwise (· < ·)
  idsIssued : ∀ i ∈ instances, i.id < nextId

namespace Scene

variable {h : Host}

def empty : Scene h := ⟨[], 0, List.Pairwise.nil, fun _ hi => nomatch hi⟩

/-- Add an object, and answer its number. -/
def spawn (s : Scene h) (name : String) (p : h.Provider) (object : h.Object p) : Nat × Scene h :=
  (s.nextId,
    { instances := s.instances ++ [⟨s.nextId, name, p, object⟩]
      nextId := s.nextId + 1
      idsGrow := by
        rw [List.map_append, List.pairwise_append]
        refine ⟨s.idsGrow, by simp, fun a ha b hb => ?_⟩
        obtain ⟨i, hi, rfl⟩ := List.mem_map.mp ha
        have := s.idsIssued i hi
        simp only [List.map_cons, List.map_nil, List.mem_singleton] at hb
        omega
      idsIssued := fun i hi => by
        rcases List.mem_append.mp hi with hi | hi
        · exact Nat.lt_succ_of_lt (s.idsIssued i hi)
        · rw [List.mem_singleton.mp hi]; exact Nat.lt_succ_self _ })

/-- Remove an instance, and answer whether it was live. -/
def despawn (s : Scene h) (id : Nat) : Bool × Scene h :=
  (s.instances.any (·.id == id),
    { instances := s.instances.filter (·.id != id)
      nextId := s.nextId
      idsGrow := s.idsGrow.sublist ((List.filter_sublist).map _)
      idsIssued := fun i hi => s.idsIssued i (List.mem_filter.mp hi).1 })

def find? (s : Scene h) (id : Nat) : Option (Instance h) := s.instances.find? (·.id == id)

theorem find?_eq_of_mem {l : List (Instance h)} (hl : (l.map (·.id)).Pairwise (· < ·)) {i : Instance h} (hi : i ∈ l) :
    l.find? (·.id == i.id) = some i := by
  induction l with
  | nil => cases hi
  | cons j l ih =>
    rw [List.map_cons, List.pairwise_cons] at hl
    rcases List.mem_cons.mp hi with rfl | hi
    · simp
    · have : j.id < i.id := hl.1 _ (List.mem_map_of_mem hi)
      have hne : (j.id == i.id) = false := by simp; omega
      rw [List.find?_cons, hne]
      exact ih hl.2 hi

theorem find?_id (s : Scene h) {i : Instance h} (hi : i ∈ s.instances) : s.find? i.id = some i :=
  find?_eq_of_mem s.idsGrow hi

/-- The object of an instance, if it is one of the provider. -/
def get? (s : Scene h) (p : h.Provider) (id : Nat) : Option (h.Object p) := (s.find? id).bind (·.as? p)

def replaced (p : h.Provider) (id : Nat) (object : h.Object p) (i : Instance h) : Instance h :=
  if i.id = id ∧ i.provider = p then ⟨i.id, i.name, p, object⟩ else i

theorem replaced_id (p : h.Provider) (id : Nat) (object : h.Object p) (i : Instance h) :
    (replaced p id object i).id = i.id := by
  unfold replaced; split <;> rfl

def set (s : Scene h) (p : h.Provider) (id : Nat) (object : h.Object p) : Scene h :=
  { instances := s.instances.map (replaced p id object)
    nextId := s.nextId
    idsGrow := by
      have ids : (s.instances.map (replaced p id object)).map (·.id) = s.instances.map (·.id) := by
        rw [List.map_map]; exact List.map_congr_left fun i _ => replaced_id p id object i
      rw [ids]; exact s.idsGrow
    idsIssued := fun i hi => by
      obtain ⟨j, hj, rfl⟩ := List.mem_map.mp hi
      rw [replaced_id]; exact s.idsIssued j hj }

def ofProvider (s : Scene h) (p : h.Provider) : List (Instance h) :=
  s.instances.filter (·.provider == p)

def count (s : Scene h) (p : h.Provider) : Nat := (s.ofProvider p).length

def isLive (s : Scene h) (p : h.Provider) : Bool := s.instances.any (·.provider == p)

def size (s : Scene h) : Nat := s.instances.length

/-- The instance a command of the provider runs against, and what is noted about the
    choice. -/
def choose (s : Scene h) (p : h.Provider) : List Notice × Except Failure Nat :=
  match s.ofProvider p with
  | [] => ([], .error .noInstance)
  | [i] => ([], .ok i.id)
  | i :: _ :: _ => ([.severalInstances (h.providerName p) i.name], .ok i.id)

/-- A live provider has a first instance; it is the one chosen, it is found by its
    number, and its object is one of the provider. -/
theorem choose_of_isLive (s : Scene h) {p : h.Provider} (live : s.isLive p = true) :
    ∃ i object, (s.choose p).2 = .ok i.id ∧ s.find? i.id = some i ∧ i.as? p = some object := by
  obtain ⟨j, hj, hp⟩ := List.any_eq_true.mp live
  have hne : s.ofProvider p ≠ [] := List.ne_nil_of_mem (List.mem_filter.mpr ⟨hj, hp⟩)
  obtain ⟨i, rest, e⟩ := List.exists_cons_of_ne_nil hne
  have hi : i ∈ s.instances ∧ (i.provider == p) = true := List.mem_filter.mp (e ▸ List.mem_cons_self)
  have ep : i.provider = p := eq_of_beq hi.2
  subst ep
  refine ⟨i, i.object, ?_, s.find?_id hi.1, by simp [Instance.as?]⟩
  unfold choose
  rw [e]
  cases rest <;> rfl

end Scene

end CommandConsole
