/-
  CommandConsole.Proofs.Recall — what the history remembers of a run.

  The lines of a run that count are those whose command succeeded, since the start or since
  the history was cleared last: `accepted`, in their order, as they were submitted. The
  history drops and forgets line by line, a repetition when it is recorded and the oldest
  line when there are too many. What is left is said without any of that (`Recalls`): trim
  all lines, drop each that equals the one before it, and take the last ones there is room
  for.

  Proved, for every host, transport and run:
  - `Recalls.record`: recording line by line does the same as trimming the whole list down.
  - `parse_trim`: a line and the line trimmed have the same tokens.
  - `history_recalls_run`: after any run the history is the last of the lines that
    succeeded; so it never has too many entries, two equal neighbours or an empty entry, and
    an entry that is recalled and submitted again has the tokens of the line it came from.
-/

import CommandConsole.Network.Exchange
import CommandConsole.Proofs.Dispatch
import CommandConsole.Proofs.Runs
import CommandConsole.Transport.Surface
import Mathlib.Data.List.Destutter
import Mathlib.Data.List.DropRight
import Mathlib.Data.List.GetD

namespace CommandConsole

/-! ## Dropping repetitions -/

theorem destutter'_append_singleton {α : Type} [DecidableEq α] (a b : α) (l : List α) :
    (l ++ [b]).destutter' (· ≠ ·) a =
      if (l.destutter' (· ≠ ·) a).getLast? = some b then l.destutter' (· ≠ ·) a
      else l.destutter' (· ≠ ·) a ++ [b] := by
  induction l generalizing a with
  | nil => by_cases e : a = b <;> simp [e]
  | cons c l ih =>
    by_cases e : a = c
    · simpa [List.destutter'_cons, e] using ih c
    · obtain ⟨d, rest, hd⟩ := List.exists_cons_of_ne_nil (List.destutter'_ne_nil (a := c) l (· ≠ ·))
      have last : (a :: l.destutter' (· ≠ ·) c).getLast? = (l.destutter' (· ≠ ·) c).getLast? := by
        rw [hd, List.getLast?_cons_cons]
      rw [List.cons_append, List.destutter'_cons_pos _ e, List.destutter'_cons_pos _ e, last, ih]
      split <;> rfl

/-- Without repetitions, one more element shows unless it equals the last. -/
theorem destutter_append_singleton {α : Type} [DecidableEq α] (l : List α) (b : α) :
    (l ++ [b]).destutter (· ≠ ·) =
      if (l.destutter (· ≠ ·)).getLast? = some b then l.destutter (· ≠ ·) else l.destutter (· ≠ ·) ++ [b] := by
  cases l with
  | nil => simp
  | cons a l => exact destutter'_append_singleton a b l

theorem getLast?_rtake {α : Type} (l : List α) {n : Nat} (hn : 0 < n) : (l.rtake n).getLast? = l.getLast? := by
  rw [List.rtake, List.getLast?_drop]
  cases l with
  | nil => rfl
  | cons a l => rw [if_neg (by simp; omega)]

/-! ## Recording -/

namespace History

/-- The history is what is left of the lines: each of them once where it is repeated, and
    the last ones there is room for. -/
def Recalls (l : History) (lines : List String) : Prop :=
  l.entries = (lines.destutter (· ≠ ·)).rtake l.capacity

theorem recalls_nil {l : History} (none : l.entries = []) : l.Recalls [] := by
  rw [Recalls, none, List.destutter_nil, List.rtake_nil]

/-- One entry more than there was, evicted down to the room, are the last there is room for. -/
theorem evict_append (l : History) {shown : List String} (hl : l.entries = shown.rtake l.capacity)
    (room : 0 < l.capacity) (line : String) : l.evict (l.entries ++ [line]) = (shown ++ [line]).rtake l.capacity := by
  obtain ⟨n, hn⟩ : ∃ n, l.capacity = n + 1 := ⟨l.capacity - 1, by omega⟩
  rw [evict, hl, hn, List.rtake_concat_succ]
  simp only [List.rtake, List.length_append, List.length_drop, List.length_singleton]
  by_cases full : n + 1 ≤ shown.length
  · rw [if_pos (by omega), List.tail_append_of_ne_nil, List.tail_drop]
    · congr 2
      omega
    · simp; omega
  · rw [if_neg (by omega)]
    congr 2
    omega

theorem Recalls.record {l : History} {lines : List String} (recalls : l.Recalls lines) (room : 0 < l.capacity)
    (line : String) : (l.record line).Recalls (lines ++ [line]) := by
  have last : l.entries.getLast? = (lines.destutter (· ≠ ·)).getLast? := by
    rw [recalls, getLast?_rtake _ room]
  unfold History.record
  split
  · rename_i same
    rw [Recalls, destutter_append_singleton, if_pos (last ▸ same)]
    exact recalls
  · rename_i new
    rw [Recalls, destutter_append_singleton, if_neg (last ▸ new)]
    exact l.evict_append recalls room line

theorem record_capacity (l : History) (line : String) : (l.record line).capacity = l.capacity := by
  unfold History.record
  split <;> rfl

end History

/-! ## Tokens of a trimmed line -/

namespace Line

theorem toList_trim (raw : String) : (Text.trim raw).toList = Text.trimChars raw.toList := String.toList_ofList

/-- A line and the line trimmed have the same tokens. -/
theorem parse_trim (raw : String) : parse (Text.trim raw) = parse raw := by
  have same : tokens (Text.trimChars raw.toList) = tokens raw.toList := by
    unfold tokens
    rw [Text.trimChars_trimChars]
  rw [parse, toList_trim, same, parse]

theorem trim_ne_empty {raw : String} {ts : List String} (parses : parse raw = .ok ts) : Text.trim raw ≠ "" := by
  intro empty
  rw [← parse_trim, empty] at parses
  cases parses

end Line

/-! ## Lines that succeeded -/

namespace Console

variable {h : Host} {τ : Type}

/-- The history and the lines that succeeded, at one moment of a run. -/
structure Remembers (room : Nat) (c : Console h τ) (lines : List String) : Prop where
  capacity : c.history.capacity = room
  recalls : c.history.Recalls (lines.map Text.trim)
  parses : ∀ raw ∈ lines, ∃ tokens, Line.parse raw = .ok tokens

/-- Only the entries and the room count. -/
theorem Remembers.same {room : Nat} {c d : Console h τ} {lines : List String} (held : Remembers room c lines)
    (entries : d.history.entries = c.history.entries) (capacity : d.history.capacity = c.history.capacity) :
    Remembers room d lines := by
  refine ⟨capacity.trans held.capacity, ?_, held.parses⟩
  rw [History.Recalls, entries, capacity]
  exact held.recalls

theorem remembers_create (transport : τ) (settings : Settings) (state : h.State) :
    Remembers (max settings.historyCapacity 1) (create transport settings state) [] :=
  ⟨rfl, History.recalls_nil rfl, fun _ hraw => nomatch hraw⟩

variable [Transport τ]

/-- The line an event runs, if its command succeeds. -/
def succeeded (c : Console h τ) (e : Event h τ) : Option String :=
  match c.dispatches e with
  | none => none
  | some (d, raw) =>
    match (d.dispatch raw).2 with
    | .ok _ => some raw
    | .error _ => none

/-- The lines to remember after an event. -/
def remember (c : Console h τ) : Event h τ → List String → List String
  | .forget, _ => []
  | e, lines => lines ++ (c.succeeded e).toList

/-- The lines of a run whose command succeeded, since the start or since the history was
    cleared last. -/
def accepted (c : Console h τ) (es : List (Event h τ)) : List String := c.along remember [] es

/-- A line whose command succeeds has tokens. -/
theorem parses_of_dispatch {c : Console h τ} {raw : String} {u : Unit} (ok : (c.dispatch raw).2 = .ok u) :
    ∃ tokens, Line.parse raw = .ok tokens := by
  have ending := c.stages_prepare raw
  rcases hp : c.prepare raw with ⟨noted, f | ready⟩
  · rw [dispatch_eq, hp] at ok
    cases ok
  · rw [hp] at ending
    cases ending with
    | ready parses => exact ⟨_, parses⟩

/-- A line is executed: it is recorded exactly if its command succeeds. -/
theorem Remembers.execute {room : Nat} (positive : 0 < room) {c : Console h τ} {lines : List String}
    (held : Remembers room c lines) (raw : String) : Remembers room (c.execute raw) (lines ++
      (match (c.dispatch raw).2 with
      | .ok _ => some raw
      | .error _ => none).toList) := by
  have history := (c.dispatch_ran raw).history
  rw [execute_eq]
  rcases hr : (c.dispatch raw).2 with f | u
  · rw [Option.toList_none, List.append_nil]
    exact held.same (congrArg History.entries history) (congrArg History.capacity history)
  · have recorded := held.recalls.record (by rw [held.capacity]; exact positive) (Text.trim raw)
    refine ⟨?_, ?_, ?_⟩
    · rw [← held.capacity, ← history]
      exact History.record_capacity _ _
    · rw [Option.toList_some, List.map_append]
      dsimp only
      rw [history]
      exact recorded
    · intro line hline
      rcases List.mem_append.mp hline with hline | hline
      · exact held.parses line hline
      · rw [List.mem_singleton.mp hline]
        exact parses_of_dispatch hr

theorem remember_of_ne (c : Console h τ) {e : Event h τ} (kept : e ≠ .forget) (lines : List String) :
    c.remember e lines = lines ++ (c.succeeded e).toList := by
  cases e with
  | forget => exact absurd rfl kept
  | _ => rfl

theorem Remembers.step {room : Nat} (positive : 0 < room) {c : Console h τ} {lines : List String}
    (held : Remembers room c lines) (e : Event h τ) : Remembers room (c.step e) (c.remember e lines) := by
  by_cases cleared : e = .forget
  · subst cleared
    exact ⟨held.capacity, History.recalls_nil rfl, fun _ hraw => nomatch hraw⟩
  · rw [c.remember_of_ne cleared, succeeded]
    cases hd : c.dispatches e with
    | some ran =>
      obtain ⟨⟨t, hc⟩, ⟨u, he⟩⟩ := step_dispatches hd
      have meets : Remembers room ran.1 lines := by
        rw [hc]
        exact held.same rfl rfl
      rw [he]
      exact (meets.execute positive ran.2).same rfl rfl
    | none =>
      obtain ⟨n, history⟩ := step_quiet hd cleared
      rw [Option.toList_none, List.append_nil]
      exact held.same (by rw [history]) (by rw [history])

/-! ## Recalling -/

/-- A transport whose input field holds what was put there last. -/
class LawfulField (τ : Type) [Transport τ] : Prop where
  input_setInput (text : String) (t : τ) : Transport.input (Transport.setInput text t) = text
  isVisible_setInput (text : String) (t : τ) : Transport.isVisible (Transport.setInput text t) = Transport.isVisible t

instance : LawfulField Surface := ⟨fun _ _ => rfl, fun _ _ => rfl⟩

instance : LawfulField Network.Link := ⟨fun _ _ => rfl, fun _ _ => rfl⟩

theorem current_mem {l : History} (filled : l.entries ≠ []) : l.current ∈ l.entries := by
  have size : 0 < l.entries.length := List.length_pos_iff.mpr filled
  have inside : l.entries.length - 1 - l.cursor % l.entries.length < l.entries.length := by omega
  rw [History.current, List.getD_eq_getElem _ _ inside]
  exact List.getElem_mem inside

/-- A key of the history puts the entry under the cursor into the input field, and
    submitting then runs it. -/
theorem dispatches_recalled [LawfulField τ] {c : Console h τ} (visible : Transport.isVisible c.transport = true)
    (filled : c.history.entries ≠ []) (solid : c.history.current ≠ "") {k : Key}
    (hk : k ∈ [Key.historyBack, Key.historyForward]) :
    ((c.step (.key (.key k))).dispatches (.key (.key .submit))).map Prod.snd = some c.history.current := by
  have empty : c.history.entries.isEmpty = false := by simpa using filled
  have shown : c.history.current.isEmpty = false := by simpa using solid
  have field : (c.step (.key (.key k))).transport = Transport.setInput c.history.current c.transport := by
    rcases List.mem_cons.mp hk with rfl | hk
    · simp [step, handle, visible, showRecalled, History.back, empty, shown, setInput]
    · rw [List.mem_singleton.mp hk]
      simp [step, handle, visible, showRecalled, History.forward, empty, shown, setInput]
  rw [dispatches, field, LawfulField.isVisible_setInput, if_pos visible, LawfulField.input_setInput]
  rfl

/-- After any run the history is what is left of the lines that succeeded: trimmed, without
    repetitions, the last ones there is room for. So there are never more entries than
    that, no two neighbours are equal and none is empty; each entry has the tokens of the
    line it came from, and recalling it by a key and submitting it runs it. -/
theorem history_recalls_run (transport : τ) (settings : Settings) (state : h.State) (es : List (Event h τ)) :
    let start := create transport settings state
    let c := start.run es
    let lines := start.accepted es
    let room := max settings.historyCapacity 1
    c.history.capacity = room ∧
    c.history.entries = ((lines.map Text.trim).destutter (· ≠ ·)).rtake room ∧
    c.history.entries.length ≤ room ∧
    c.history.entries.IsChain (· ≠ ·) ∧
    "" ∉ c.history.entries ∧
    (∀ entry ∈ c.history.entries, ∃ raw ∈ lines, entry = Text.trim raw) ∧
    (∀ raw ∈ lines, ∃ tokens, Line.parse raw = .ok tokens ∧ Line.parse (Text.trim raw) = .ok tokens) ∧
    ∀ [LawfulField τ], Transport.isVisible c.transport = true → c.history.entries ≠ [] →
      ∀ k ∈ [Key.historyBack, Key.historyForward], ∃ raw ∈ lines,
        ((c.step (.key (.key k))).dispatches (.key (.key .submit))).map Prod.snd = some (Text.trim raw) := by
  intro start c lines room
  have held : Remembers room c lines :=
    along_holds (fun _ _ e holds => holds.step (by omega) e) es (remembers_create transport settings state)
  have entries : c.history.entries = ((lines.map Text.trim).destutter (· ≠ ·)).rtake room := by
    rw [← held.capacity]
    exact held.recalls
  have origin : ∀ entry ∈ c.history.entries, ∃ raw ∈ lines, entry = Text.trim raw := by
    intro entry hentry
    rw [entries] at hentry
    have kept := (List.destutter_sublist _ _).subset (List.mem_of_mem_drop hentry)
    obtain ⟨raw, hraw, rfl⟩ := List.mem_map.mp kept
    exact ⟨raw, hraw, rfl⟩
  have solid : "" ∉ c.history.entries := by
    intro empty
    obtain ⟨raw, hraw, e⟩ := origin _ empty
    obtain ⟨tokens, parses⟩ := held.parses raw hraw
    exact Line.trim_ne_empty parses e.symm
  refine ⟨held.capacity, entries, ?_, ?_, solid, origin, ?_, ?_⟩
  · rw [entries, List.rtake, List.length_drop]
    omega
  · rw [entries]
    exact (List.isChain_destutter _ _).suffix (List.drop_suffix _ _)
  · intro raw hraw
    obtain ⟨tokens, parses⟩ := held.parses raw hraw
    exact ⟨tokens, parses, (Line.parse_trim raw).trans parses⟩
  · intro _ visible filled k hk
    have under := current_mem filled
    obtain ⟨raw, hraw, e⟩ := origin _ under
    refine ⟨raw, hraw, ?_⟩
    rw [← e]
    exact dispatches_recalled visible filled (fun empty => solid (empty ▸ under)) hk

end Console

end CommandConsole
