/-
  CommandConsole.Proofs.Navigation — where stepping through the history leads.

  Stepping reads the entry under the cursor and then moves the cursor by one, toward older
  entries or newer ones, from either end to the other. Recording, which may evict an entry or
  none, and clearing put the cursor back on the newest entry, so whatever has happened the
  cursor stands on an entry or there is none (`Placed`).

  From such a state on a cursor is a number modulo the number of entries. `distance` is where
  it comes to by some steps: start plus steps back minus steps forward, reduced once at the
  end. A single step wraps by a comparison; it is the same because the cursor never is more
  than one place off (`turned_eq`), and steps one after the other add up (`turned_turned`).

  Proved (`navigation_cycles`), after any records, steps, resets and clears: the cursor is
  placed; on an empty history a step answers the empty string and changes nothing; and on any
  other (`Cycles`)
  - steps change nothing but the cursor, which ends at its distance;
  - each step answers the entry at the distance of the steps before it;
  - a step back and a step forward undo one another;
  - as many steps of one kind as there are entries visit every distance once, answer every
    entry once and leave the history as it was.
-/

import CommandConsole.History
import Mathlib.Data.List.Nodup
import Mathlib.Data.List.Perm.Subperm

namespace CommandConsole.History

/-! ## Steps -/

inductive Move where
  /-- Toward older entries. -/
  | back
  /-- Toward newer entries. -/
  | forward
  deriving DecidableEq

/-- How much farther from the newest entry the cursor is after a step. -/
def Move.shift : Move → Int
  | back => 1
  | forward => -1

def move (l : History) : Move → String × History
  | .back => l.back
  | .forward => l.forward

/-- The history after some steps. -/
def walked (l : History) (ms : List Move) : History := ms.foldl (fun l m => (l.move m).2) l

/-- What the steps answer. -/
def answers (l : History) : List Move → List String
  | [] => []
  | m :: ms => (l.move m).1 :: (l.move m).2.answers ms

/-- The steps back, less the steps forward. -/
def shift (ms : List Move) : Int := ms.count .back - ms.count .forward

/-- The cursor so much farther from the newest entry, around the ends. -/
def turned (l : History) (d : Int) : Nat := ((l.cursor + d) % l.entries.length).toNat

/-- How far from the newest entry some steps lead. -/
def distance (l : History) (ms : List Move) : Nat := l.turned (shift ms)

/-- The entry at a distance from the newest. -/
def fromNewest (l : History) (d : Nat) : Option String := l.entries.reverse[d]?

/-- What can happen to a history. -/
inductive Act where
  | record (line : String)
  | move (m : Move)
  | resetCursor
  | clear

def act (l : History) : Act → History
  | .record line => l.record line
  | .move m => (l.move m).2
  | .resetCursor => l.resetCursor
  | .clear => l.clear

def after (l : History) (acts : List Act) : History := acts.foldl act l

/-! ## The cursor is on an entry -/

/-- The cursor is on an entry, if there is one. -/
def Placed (l : History) : Prop := l.cursor < l.entries.length ∨ l.entries.length = 0 ∧ l.cursor = 0

theorem placed_of_newest {l : History} (newest : l.cursor = 0) : l.Placed := by
  unfold Placed
  omega

theorem Placed.lt {l : History} (placed : l.Placed) (filled : 0 < l.entries.length) : l.cursor < l.entries.length := by
  unfold Placed at placed
  omega

theorem isEmpty_eq_false {l : History} (filled : 0 < l.entries.length) : l.entries.isEmpty = false := by
  cases e : l.entries with
  | nil => simp [e] at filled
  | cons _ _ => rfl

theorem move_empty {l : History} (empty : l.entries.length = 0) (m : Move) : l.move m = ("", l) := by
  have none : l.entries.isEmpty = true := by simpa using empty
  cases m with
  | back => simp [move, back, none]
  | forward => simp [move, forward, none]

/-- Around the ends, for a cursor that is less than one turn off. -/
theorem turned_eq (l : History) (d : Int) (low : -(l.entries.length : Int) ≤ l.cursor + d)
    (high : l.cursor + d < 2 * l.entries.length) :
    (l.turned d : Int) =
      if l.cursor + d < 0 then l.cursor + d + l.entries.length
      else if l.cursor + d < l.entries.length then l.cursor + d
      else l.cursor + d - l.entries.length := by
  rw [turned]
  split
  · rw [← Int.add_emod_right, Int.emod_eq_of_lt]
    · omega
    · omega
    · omega
  · split
    · rw [Int.emod_eq_of_lt]
      · omega
      · omega
      · omega
    · rw [← Int.sub_emod_right, Int.emod_eq_of_lt]
      · omega
      · omega
      · omega

theorem turned_lt (l : History) (filled : 0 < l.entries.length) (d : Int) : l.turned d < l.entries.length := by
  have low := Int.emod_nonneg (l.cursor + d) (b := l.entries.length) (by omega)
  have high := Int.emod_lt_of_pos (l.cursor + d) (b := l.entries.length) (by omega)
  rw [turned]
  omega

theorem turned_turned (l : History) (filled : 0 < l.entries.length) (a b : Int) :
    { l with cursor := l.turned a }.turned b = l.turned (a + b) := by
  have low := Int.emod_nonneg (l.cursor + a) (b := l.entries.length) (by omega)
  have sum : l.cursor + a + b = l.cursor + (a + b) := by omega
  simp only [turned]
  rw [Int.toNat_of_nonneg low, Int.emod_add_emod, sum]

/-- A step moves the cursor by one, around the ends. -/
theorem move_filled {l : History} (placed : l.Placed) (filled : 0 < l.entries.length) (m : Move) :
    l.move m = (l.current, { l with cursor := l.turned m.shift }) := by
  have inside := placed.lt filled
  have some := isEmpty_eq_false filled
  cases m with
  | back =>
    have wrap := turned_eq l 1 (by omega) (by omega)
    have cursor : (if l.cursor + 1 < l.entries.length then l.cursor + 1 else 0) = l.turned 1 := by
      split
      · omega
      · omega
    simp [move, back, some, Move.shift, cursor]
  | forward =>
    have wrap := turned_eq l (-1) (by omega) (by omega)
    have cursor : (if l.cursor = 0 then l.entries.length - 1 else l.cursor - 1) = l.turned (-1) := by
      split
      · omega
      · omega
    simp [move, forward, some, Move.shift, cursor]

theorem Placed.move {l : History} (placed : l.Placed) (m : Move) : (l.move m).2.Placed := by
  by_cases filled : 0 < l.entries.length
  · rw [move_filled placed filled]
    exact .inl (l.turned_lt filled _)
  · rw [move_empty (by omega)]
    exact placed

theorem Placed.act {l : History} (placed : l.Placed) (a : Act) : (l.act a).Placed := by
  cases a with
  | record line =>
    refine placed_of_newest ?_
    show (l.record line).cursor = 0
    unfold record
    split
    · rfl
    · rfl
  | move m => exact placed.move m
  | resetCursor => exact placed_of_newest rfl
  | clear => exact placed_of_newest rfl

theorem Placed.after {l : History} (placed : l.Placed) (acts : List Act) : (l.after acts).Placed := by
  induction acts generalizing l with
  | nil => exact placed
  | cons a acts ih => exact ih (placed.act a)

/-! ## Several steps -/

theorem shift_cons (m : Move) (ms : List Move) : shift (m :: ms) = m.shift + shift ms := by
  cases m with
  | back => simp [shift, Move.shift]; omega
  | forward => simp [shift, Move.shift]; omega

theorem shift_replicate (k : Nat) (m : Move) : shift (List.replicate k m) = k * m.shift := by
  cases m with
  | back => simp [shift, Move.shift, List.count_replicate]
  | forward => simp [shift, Move.shift, List.count_replicate]

theorem turned_zero {l : History} (placed : l.Placed) (filled : 0 < l.entries.length) : l.turned 0 = l.cursor := by
  have inside := placed.lt filled
  have wrap := turned_eq l 0 (by omega) (by omega)
  omega

theorem distance_move {l : History} (placed : l.Placed) (filled : 0 < l.entries.length) (m : Move) (ms : List Move) :
    (l.move m).2.distance ms = l.distance (m :: ms) := by
  rw [move_filled placed filled, distance, distance, shift_cons]
  exact l.turned_turned filled _ _

theorem walked_eq {l : History} (placed : l.Placed) (filled : 0 < l.entries.length) (ms : List Move) :
    l.walked ms = { l with cursor := l.distance ms } := by
  induction ms generalizing l with
  | nil =>
    have start : l.distance [] = l.cursor := turned_zero placed filled
    rw [start]
    rfl
  | cons m ms ih =>
    have first := move_filled placed filled m
    have rest := ih (placed.move m) (by rw [first]; exact filled)
    show (l.move m).2.walked ms = _
    rw [rest, distance_move placed filled, first]

/-- The entry under the cursor is the one so far from the newest. -/
theorem current_eq {l : History} (placed : l.Placed) (filled : 0 < l.entries.length) :
    l.fromNewest l.cursor = some l.current := by
  have inside := placed.lt filled
  rw [fromNewest, List.getElem?_reverse inside, current, Nat.mod_eq_of_lt inside, List.getD_eq_getElem?_getD,
    List.getElem?_eq_getElem (by omega), Option.getD_some]

theorem length_answers (l : History) (ms : List Move) : (l.answers ms).length = ms.length := by
  induction ms generalizing l with
  | nil => rfl
  | cons m ms ih => simp [answers, ih]

/-- A step among others answers the entry at the distance of the steps before it. -/
theorem getElem?_answers {l : History} (placed : l.Placed) (filled : 0 < l.entries.length) {ms : List Move} {k : Nat}
    (hk : k < ms.length) : (l.answers ms)[k]? = l.fromNewest (l.distance (ms.take k)) := by
  induction ms generalizing l k with
  | nil => cases hk
  | cons m ms ih =>
    have first := move_filled placed filled m
    cases k with
    | zero =>
      have start : l.distance ([] : List Move) = l.cursor := turned_zero placed filled
      rw [List.take_zero, start, current_eq placed filled, answers, first]
      rfl
    | succ k =>
      have rest := ih (placed.move m) (by rw [first]; exact filled) (Nat.lt_of_succ_lt_succ hk)
      have same : (l.move m).2.fromNewest = l.fromNewest := by rw [first]; rfl
      rw [answers, List.getElem?_cons_succ, rest, distance_move placed filled, same, List.take_succ_cons]

/-! ## A full turn -/

/-- As many steps of one kind as there are entries. -/
def turn (l : History) (m : Move) : List Move := List.replicate l.entries.length m

theorem distance_take_turn (l : History) (m : Move) {k : Nat} (hk : k < l.entries.length) :
    l.distance ((l.turn m).take k) = l.turned (k * m.shift) := by
  rw [distance, turn, List.take_replicate, shift_replicate, Nat.min_eq_left (by omega)]

/-- No distance comes twice in a turn. -/
theorem turned_injective {l : History} (placed : l.Placed) (filled : 0 < l.entries.length) (m : Move) {j k : Nat}
    (hj : j < l.entries.length) (hk : k < l.entries.length) (same : l.turned (j * m.shift) = l.turned (k * m.shift)) :
    j = k := by
  have inside := placed.lt filled
  cases m with
  | back =>
    simp only [Move.shift, Int.mul_one] at same
    have first := turned_eq l j (by omega) (by omega)
    have second := turned_eq l k (by omega) (by omega)
    omega
  | forward =>
    simp only [Move.shift, Int.mul_neg, Int.mul_one] at same
    have first := turned_eq l (-j) (by omega) (by omega)
    have second := turned_eq l (-k) (by omega) (by omega)
    omega

/-- A turn visits every distance once. -/
theorem turn_visits {l : History} (placed : l.Placed) (filled : 0 < l.entries.length) (m : Move) :
    ((List.range l.entries.length).map fun k => l.distance ((l.turn m).take k)).Perm (List.range l.entries.length) := by
  have once : ((List.range l.entries.length).map fun k => l.distance ((l.turn m).take k)).Nodup := by
    refine List.Nodup.map_on (fun j hj k hk same => ?_) List.nodup_range
    have hj := List.mem_range.mp hj
    have hk := List.mem_range.mp hk
    rw [l.distance_take_turn m hj, l.distance_take_turn m hk] at same
    exact turned_injective placed filled m hj hk same
  have inside : ((List.range l.entries.length).map fun k => l.distance ((l.turn m).take k)) ⊆ List.range l.entries.length := by
    intro d hd
    obtain ⟨k, -, rfl⟩ := List.mem_map.mp hd
    exact List.mem_range.mpr (l.turned_lt filled _)
  exact (List.subperm_of_subset once inside).perm_of_length_le (by simp)

theorem walked_turn {l : History} (placed : l.Placed) (filled : 0 < l.entries.length) (m : Move) :
    l.walked (l.turn m) = l := by
  have inside := placed.lt filled
  have round : l.distance (l.turn m) = l.cursor := by
    rw [distance, turn, shift_replicate]
    cases m with
    | back =>
      rw [Move.shift, Int.mul_one]
      have wrap := turned_eq l (l.entries.length) (by omega) (by omega)
      omega
    | forward =>
      rw [Move.shift, Int.mul_neg, Int.mul_one]
      have wrap := turned_eq l (-l.entries.length) (by omega) (by omega)
      omega
  rw [walked_eq placed filled, round]

/-- A turn answers every entry once. -/
theorem answers_turn {l : History} (placed : l.Placed) (filled : 0 < l.entries.length) (m : Move) :
    (l.answers (l.turn m)).Perm l.entries := by
  have visited := (turn_visits placed filled m).map fun d => l.entries.reverse.getD d ""
  have told : l.answers (l.turn m) = ((List.range l.entries.length).map fun k => l.distance ((l.turn m).take k)).map
      fun d => l.entries.reverse.getD d "" := by
    apply List.ext_getElem?
    intro k
    by_cases hk : k < l.entries.length
    · have within : l.distance ((l.turn m).take k) < l.entries.reverse.length := by
        rw [List.length_reverse]
        exact l.turned_lt filled _
      rw [getElem?_answers placed filled (by simpa [turn] using hk), fromNewest, List.getElem?_map, List.getElem?_map,
        List.getElem?_range hk, Option.map_some, Option.map_some, List.getD_eq_getElem?_getD,
        List.getElem?_eq_getElem within, Option.getD_some]
    · have past : (l.answers (l.turn m)).length ≤ k := by
        rw [length_answers, turn, List.length_replicate]
        omega
      rw [List.getElem?_eq_none past, List.getElem?_eq_none (by simp; omega)]
  have all : (List.range l.entries.length).map (fun d => l.entries.reverse.getD d "") = l.entries.reverse := by
    apply List.ext_getElem
    · simp
    · intro d hd hd'
      simp at hd'
      simp [hd']
  rw [told]
  rw [all] at visited
  exact visited.trans (List.reverse_perm _)

/-! ## After anything -/

/-- How stepping goes through the entries. -/
structure Cycles (l : History) : Prop where
  walk : ∀ ms, l.walked ms = { l with cursor := l.distance ms }
  answer : ∀ ms k, k < ms.length → (l.answers ms)[k]? = l.fromNewest (l.distance (ms.take k))
  undo : l.back.2.forward.2 = l ∧ l.forward.2.back.2 = l
  visits : ∀ m, ((List.range l.entries.length).map fun k => l.distance ((l.turn m).take k)).Perm
    (List.range l.entries.length)
  entries : ∀ m, (l.answers (l.turn m)).Perm l.entries
  restores : ∀ m, l.walked (l.turn m) = l

theorem Placed.cycles {l : History} (placed : l.Placed) (filled : 0 < l.entries.length) : l.Cycles := by
  have undo : ∀ m m' : Move, m.shift + m'.shift = 0 → l.walked [m, m'] = l := by
    intro m m' level
    rw [walked_eq placed filled, distance, shift_cons, shift_cons]
    have start : l.turned (m.shift + (m'.shift + shift [])) = l.cursor := by
      rw [← turned_zero placed filled]
      congr 1
      simp [shift]
      omega
    rw [start]
  exact
    { walk := walked_eq placed filled
      answer := fun ms k hk => getElem?_answers placed filled hk
      undo := ⟨undo .back .forward rfl, undo .forward .back rfl⟩
      visits := turn_visits placed filled
      entries := answers_turn placed filled
      restores := walked_turn placed filled }

/-- After anything that can happen to a history, the cursor is on an entry if there is one;
    if there is none, a step answers the empty string and changes nothing, and else stepping
    goes around. -/
theorem navigation_cycles (capacity : Nat) (acts : List Act) :
    let l := (create capacity).after acts
    (l.cursor < l.entries.length ∨ l.entries.length = 0 ∧ l.cursor = 0) ∧
      (l.entries.length = 0 → l.back = ("", l) ∧ l.forward = ("", l)) ∧ (0 < l.entries.length → l.Cycles) := by
  intro l
  have placed : l.Placed := Placed.after (placed_of_newest rfl) acts
  exact ⟨placed, fun empty => ⟨move_empty empty .back, move_empty empty .forward⟩, fun filled => placed.cycles filled⟩

/-- Two steps back from the newest of three entries and one forward. -/
example : (⟨["one", "two", "three"], 5, 0⟩ : History).answers [.back, .back, .forward, .forward] =
    ["three", "two", "one", "two"] := by decide

end CommandConsole.History
