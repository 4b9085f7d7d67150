/-
  CommandConsole.Proofs.Turns — the listener and the host take turns.

  Queue, flag and output are three things the listener and the host both touch, without
  a lock around more than one of them. What keeps them apart is the listener's wait:
  from the moment it has queued a line until it has taken the output again, the line is
  queued, running or complete (`Stands`), and only the host moves it on; at all other
  times the queue is empty and the host runs nothing. The output belongs to the line
  that runs. It is empty when the line is queued, because the listener has taken what
  was there before it first reads, and after every line.

  An orderly run is one in which no stop is asked for and the host writes only while it
  runs a line, or before the first client. Clients may come and go at any point, fail
  to be set up, or be gone when their response is written.

  Proved, for every state of an orderly run (`in_turn`): at most one line is queued or
  in flight; what the host has run is what was queued, in the order in which it was
  read, but for at most the last line; a line is queued only when every line before it
  has run and its output has been taken; and each response is that of exactly the text
  its own line has left in the output.
-/

import Mathlib.Data.List.Forall2
import CommandConsole.Network.Listener

namespace CommandConsole.Network.Listener

open Text.Utf8 (Byte)

/-! ## Orderly runs -/

/-- No stop is asked for, and the host writes only while it runs a line or before the
    first client. -/
def orderly (s : System) : Ev → Prop
  | .append _ => s.running.isSome ∨ s.nextSocket = 0
  | .clear => s.running.isSome ∨ s.nextSocket = 0
  | .raiseStop => False
  | _ => True

inductive Orderly : System → Prop
  | init : Orderly start
  | step {s t : System} (e : Ev) : Orderly s → orderly s e → step s e = some t → Orderly t

/-! ## Where a line stands -/

/-- The answer is the response to what the line has left in the output when it ran. -/
def Answers (a : Answer) (run : String × String) : Prop := a.request.line = run.1 ∧ a.bytes = response run.2

variable {queue : List String} {output : String} {running : Option String} {j : Journal}

/-- Every line that was queued has run and is answered. -/
structure Quiet (queue : List String) (running : Option String) (j : Journal) : Prop where
  queue : queue = []
  running : running = none
  pushed : j.pushed = j.made.map Answer.request
  answered : List.Forall₂ Answers j.made j.finished

structure Queued (queue : List String) (output : String) (running : Option String) (j : Journal) (r : Request) : Prop where
  queue : queue = [r.line]
  running : running = none
  output : output = ""
  pushed : j.pushed = j.made.map Answer.request ++ [r]
  answered : List.Forall₂ Answers j.made j.finished

structure Running (queue : List String) (output : String) (running : Option String) (j : Journal) (r : Request) : Prop where
  queue : queue = []
  running : running = some r.line
  output : output = j.own
  pushed : j.pushed = j.made.map Answer.request ++ [r]
  answered : List.Forall₂ Answers j.made j.finished

/-- The line has run, and the output is what it has left. -/
structure Complete (queue : List String) (output : String) (running : Option String) (j : Journal) (r : Request) : Prop where
  queue : queue = []
  running : running = none
  pushed : j.pushed = j.made.map Answer.request ++ [r]
  answered : ∃ earlier, j.finished = earlier ++ [(r.line, output)] ∧ List.Forall₂ Answers j.made earlier

/-- Where the listener has taken the output since its client came, and has left none there. -/
def Phase.isServed : Phase → Bool
  | .sending .. | .looping _ | .reading _ | .refusing _ | .queuing .. | .acknowledging _ => true
  | _ => false

/-- What holds when the listener is about to do its next step. -/
def Stands (queue : List String) (output : String) (running : Option String) (j : Journal) : Phase → Prop
  | .waiting k line =>
    Queued queue output running j ⟨k, line⟩ ∨ Running queue output running j ⟨k, line⟩ ∨ Complete queue output running j ⟨k, line⟩
  | .taking k (some line) _ => Complete queue output running j ⟨k, line⟩
  | p => Quiet queue running j ∧ (p.isServed → output = "")

/-- The host runs a line only while the listener waits for it. -/
theorem Stands.waits_running {line : String} {p : Phase} (h : Stands queue output (some line) j p) :
    ∃ k, p = .waiting k line ∧ Running queue output (some line) j ⟨k, line⟩ := by
  cases p with
  | waiting k line' =>
    rcases h with h | h | h
    · cases h.running
    · obtain rfl : line = line' := Option.some.inj h.running
      exact ⟨k, rfl, h⟩
    · cases h.running
  | taking k asked next =>
    cases asked with
    | none => cases h.1.running
    | some => cases Complete.running h
  | _ => cases h.1.running

/-- A line is in the queue only while the listener waits for it. -/
theorem Stands.waits_queued {line : String} {rest : List String} {p : Phase} (h : Stands (line :: rest) output running j p) :
    ∃ k, p = .waiting k line ∧ Queued (line :: rest) output running j ⟨k, line⟩ := by
  cases p with
  | waiting k line' =>
    rcases h with h | h | h
    · obtain ⟨rfl, -⟩ := List.cons.inj h.queue
      exact ⟨k, rfl, h⟩
    · cases h.queue
    · cases h.queue
  | taking k asked next =>
    cases asked with
    | none => cases h.1.queue
    | some => cases Complete.queue h
  | _ => cases h.1.queue

theorem Stands.turn {p : Phase} (h : Stands queue output running j p) : Quiet queue running j ∨
    ∃ r, Queued queue output running j r ∨ Running queue output running j r ∨ Complete queue output running j r := by
  cases p with
  | waiting k line => exact .inr ⟨⟨k, line⟩, h⟩
  | taking k asked next =>
    cases asked with
    | none => exact .inl h.1
    | some line => exact .inr ⟨⟨k, line⟩, .inr (.inr h)⟩
  | _ => exact .inl h.1

theorem answers_lines {answers : List Answer} {runs : List (String × String)} (h : List.Forall₂ Answers answers runs) :
    (answers.map Answer.request).map Request.line = runs.map Prod.fst := by
  induction h with
  | nil => rfl
  | cons same _ ih => rw [List.map_cons, List.map_cons, List.map_cons, ih, same.1]

/-- The lines that were queued are those the host has run, the one it runs, and the queue. -/
theorem Stands.lines {p : Phase} (h : Stands queue output running j p) :
    j.pushed.map Request.line = j.finished.map Prod.fst ++ running.toList ++ queue := by
  rcases h.turn with h | ⟨r, h | h | h⟩
  · rw [h.pushed, h.running, h.queue, answers_lines h.answered, Option.toList_none, List.append_nil, List.append_nil]
  · rw [h.pushed, h.running, h.queue, List.map_append, answers_lines h.answered, Option.toList_none, List.append_nil]
    rfl
  · rw [h.pushed, h.running, h.queue, List.map_append, answers_lines h.answered, List.append_nil]
    rfl
  · obtain ⟨earlier, hf, answered⟩ := h.answered
    rw [h.pushed, h.running, h.queue, hf, List.map_append, List.map_append, answers_lines answered, Option.toList_none,
      List.append_nil, List.append_nil]
    rfl

theorem Stands.single {p : Phase} (h : Stands queue output running j p) : queue.length + running.isSome.toNat ≤ 1 := by
  rcases h.turn with h | ⟨r, h | h | h⟩
  · rw [h.queue, h.running]
    exact Nat.zero_le 1
  · rw [h.queue, h.running]
    exact Nat.le_refl 1
  · rw [h.queue, h.running]
    exact Nat.le_refl 1
  · rw [h.queue, h.running]
    exact Nat.zero_le 1

/-- The answers are to the first lines that were queued, with what the first runs have left. -/
theorem Stands.answers {p : Phase} (h : Stands queue output running j p) :
    (∃ last, j.pushed = j.made.map Answer.request ++ last) ∧
      ∃ earlier later, j.finished = earlier ++ later ∧ List.Forall₂ Answers j.made earlier := by
  rcases h.turn with h | ⟨r, h | h | h⟩
  · exact ⟨⟨[], by rw [h.pushed, List.append_nil]⟩, j.finished, [], (List.append_nil _).symm, h.answered⟩
  · exact ⟨⟨[r], h.pushed⟩, j.finished, [], (List.append_nil _).symm, h.answered⟩
  · exact ⟨⟨[r], h.pushed⟩, j.finished, [], (List.append_nil _).symm, h.answered⟩
  · obtain ⟨earlier, hf, answered⟩ := h.answered
    exact ⟨⟨[r], h.pushed⟩, earlier, _, hf, answered⟩

/-! ## The invariant -/

/-- The line that has been read and is about to be queued. -/
def Phase.unqueued : Phase → List Request
  | .queuing k line => [⟨k, line⟩]
  | _ => []

/-- The answer that has been made and is about to be written. -/
def Phase.outgoing : Phase → List Answer
  | .sending k line bytes _ => answerTo k line bytes
  | _ => []

structure Serial (s : System) : Prop where
  unstopped : s.exchange.stopped = false
  notAsked : s.shutdown = .notAsked
  inFlight : s.exchange.inFlight = s.running.isSome
  popped : s.journal.popped = s.journal.finished.map Prod.fst ++ s.running.toList
  read : s.journal.read = s.journal.pushed ++ s.phase.unqueued
  sent : (s.journal.sent ++ s.phase.outgoing).Sublist s.journal.made
  /-- Before the first client the listener does nothing but look for one. -/
  client : s.nextSocket ≠ 0 ∨ s.phase = .idle ∨ s.phase = .accepting
  stands : Stands s.exchange.queue s.exchange.outbound s.running s.journal s.phase

variable {s t : System}

theorem serial_start : Serial start where
  unstopped := rfl
  notAsked := rfl
  inFlight := rfl
  popped := rfl
  read := rfl
  sent := .slnil
  client := .inr (.inl rfl)
  stands := ⟨⟨rfl, rfl, rfl, .nil⟩, fun h => nomatch h⟩

/-- A step after which the listener is about to do something else. The socket that
    shutdown would close and the pending reply do not matter. -/
theorem Serial.move (h : Serial s) {p : Phase} {c : Option Nat} {pending : Bool} (read : p.unqueued = s.phase.unqueued)
    (sent : p.outgoing = []) (client : s.nextSocket ≠ 0 ∨ p = .idle ∨ p = .accepting)
    (stands : Stands s.exchange.queue s.exchange.outbound s.running s.journal p) :
    Serial { s with phase := p, client := c, exchange := { s.exchange with replyPending := pending } } where
  unstopped := h.unstopped
  notAsked := h.notAsked
  inFlight := h.inFlight
  popped := h.popped
  read := by rw [read]; exact h.read
  sent := by rw [sent, List.append_nil]; exact (List.sublist_append_left _ _).trans h.sent
  client := client
  stands := stands

/-- After the first client has come, the listener is past its first two steps. -/
theorem Serial.known (h : Serial s) {p : Phase} (hp : s.phase = p) (hi : p ≠ .idle) (ha : p ≠ .accepting) :
    s.nextSocket ≠ 0 := by
  rcases h.client with known | e | e
  · exact known
  · exact absurd (hp.symm.trans e) hi
  · exact absurd (hp.symm.trans e) ha

/-! ## The listener's steps -/

/-- The output is taken: what it holds is the answer to the line that is complete. -/
theorem Serial.taken (h : Serial s) {k : Nat} {line : Option String} {next : Next} (hp : s.phase = .taking k line next) :
    Serial { s with
      phase := .sending k line (response s.exchange.outbound) next
      exchange := s.exchange.clear
      journal := { s.journal with made := s.journal.made ++ answerTo k line (response s.exchange.outbound) } } := by
  have known := h.known hp (by simp) (by simp)
  have st := h.stands
  have read := h.read
  have sent := h.sent
  rw [hp] at st read sent
  refine ⟨h.unstopped, h.notAsked, h.inFlight, h.popped, read, ?_, .inl known, ?_⟩
  · exact List.Sublist.append ((List.sublist_append_left _ _).trans sent) (List.Sublist.refl _)
  · refine ⟨?_, fun _ => rfl⟩
    cases line with
    | none =>
      have quiet := st.1
      exact ⟨quiet.queue, quiet.running, by simpa [answerTo] using quiet.pushed, by simpa [answerTo] using quiet.answered⟩
    | some line =>
      have done : Complete _ _ _ _ _ := st
      obtain ⟨earlier, hf, answered⟩ := done.answered
      refine ⟨done.queue, done.running, ?_, ?_⟩
      · rw [done.pushed, List.map_append]
        rfl
      · rw [hf]
        exact List.rel_append answered (.cons ⟨rfl, rfl⟩ .nil)

theorem Serial.queued (h : Serial s) {k : Nat} {line : String} (hp : s.phase = .queuing k line) :
    Serial { s with
      phase := .waiting k line
      exchange := s.exchange.push line
      journal := { s.journal with pushed := s.journal.pushed ++ [⟨k, line⟩] } } := by
  have known := h.known hp (by simp) (by simp)
  have st := h.stands
  have read := h.read
  have sent := h.sent
  rw [hp] at st read sent
  obtain ⟨quiet, output⟩ := st
  refine ⟨h.unstopped, h.notAsked, h.inFlight, h.popped, ?_, sent, .inl known, .inl ?_⟩
  · rw [read]
    exact (List.append_nil _).symm
  · refine ⟨?_, quiet.running, output rfl, by rw [quiet.pushed], quiet.answered⟩
    rw [Exchange.push, quiet.queue]
    rfl

/-- The wait ends only when the line that was queued is complete. -/
theorem Serial.polled (h : Serial s) {k : Nat} {line : String} (hp : s.phase = .waiting k line) :
    Serial { s with phase := if s.exchange.isIdle || s.exchange.stopped then .taking k (some line) .acknowledge else .waiting k line } := by
  have known := h.known hp (by simp) (by simp)
  have st := h.stands
  rw [hp] at st
  rw [h.unstopped, Bool.or_false]
  split
  · rename_i idle
    obtain ⟨empty, still⟩ := Bool.and_eq_true_iff.mp idle
    refine h.move (by rw [hp]; rfl) rfl (.inl known) ?_
    rcases st with st | st | st
    · rw [st.queue] at empty
      cases empty
    · rw [h.inFlight, st.running] at still
      cases still
    · exact st
  · exact h.move (by rw [hp]) rfl (.inl known) st

theorem Serial.listener (h : Serial s) (hs : listenerStep s = some t) : Serial t := by
  have st := h.stands
  cases hp : s.phase with
  | idle =>
    rw [hp] at st
    simp only [listenerStep, hp, h.unstopped, Bool.false_eq_true, if_false, Option.some.injEq] at hs
    subst hs
    exact h.move (by rw [hp]; rfl) rfl (.inr (.inr rfl)) ⟨st.1, fun c => nomatch c⟩
  | registering k =>
    have known := h.known hp (by simp) (by simp)
    rw [hp] at st
    simp only [listenerStep, hp, Option.some.injEq] at hs
    subst hs
    exact h.move (by rw [hp]; rfl) rfl (.inl known) ⟨st.1, fun c => nomatch c⟩
  | admitting k =>
    have known := h.known hp (by simp) (by simp)
    rw [hp] at st
    simp only [listenerStep, hp, h.unstopped, Bool.false_eq_true, if_false, Option.some.injEq] at hs
    subst hs
    exact h.move (by rw [hp]; rfl) rfl (.inl known) ⟨st.1, fun c => nomatch c⟩
  | taking k line next =>
    simp only [listenerStep, hp, Option.some.injEq] at hs
    subst hs
    exact h.taken hp
  | refusing k =>
    have known := h.known hp (by simp) (by simp)
    rw [hp] at st
    simp only [listenerStep, hp, Option.some.injEq] at hs
    subst hs
    have moved : Serial { s with phase := .taking k none .again } :=
      h.move (by rw [hp]; rfl) rfl (.inl known) ⟨st.1, fun c => nomatch c⟩
    exact { moved with stands := ⟨st.1, fun c => nomatch c⟩ }
  | queuing k line =>
    simp only [listenerStep, hp, Option.some.injEq] at hs
    subst hs
    exact h.queued hp
  | waiting k line =>
    simp only [listenerStep, hp, Option.some.injEq] at hs
    subst hs
    exact h.polled hp
  | acknowledging k =>
    have known := h.known hp (by simp) (by simp)
    rw [hp] at st
    simp only [listenerStep, hp, Option.some.injEq] at hs
    subst hs
    exact h.move (by rw [hp]; rfl) rfl (.inl known) st
  | leaving k =>
    have known := h.known hp (by simp) (by simp)
    rw [hp] at st
    simp only [listenerStep, hp, Option.some.injEq] at hs
    subst hs
    exact h.move (by rw [hp]; rfl) rfl (.inl known) ⟨st.1, fun c => nomatch c⟩
  | settling =>
    rw [hp] at st
    simp only [listenerStep, hp, Option.some.injEq] at hs
    subst hs
    exact h.move (by rw [hp]; rfl) rfl (.inr (.inl rfl)) ⟨st.1, fun c => nomatch c⟩
  | _ => simp [listenerStep, hp] at hs

theorem Serial.accept (h : Serial s) {connected : Bool} (hs : step s (.accept connected) = some t) : Serial t := by
  have st := h.stands
  by_cases hp : s.phase = .accepting
  · rw [hp] at st
    simp only [step, if_pos hp, Option.some.injEq] at hs
    subst hs
    cases connected with
    | false => exact h.move (by rw [hp]; rfl) rfl (.inr (.inl rfl)) ⟨st.1, fun c => nomatch c⟩
    | true =>
      have moved : Serial { s with phase := .idle } :=
        h.move (by rw [hp]; rfl) rfl (.inr (.inl rfl)) ⟨st.1, fun c => nomatch c⟩
      exact { moved with client := .inl (Nat.succ_ne_zero _), stands := ⟨st.1, fun c => nomatch c⟩ }
  · simp [step, hp] at hs

theorem Serial.fail (h : Serial s) (hs : step s .fail = some t) : Serial t := by
  have st := h.stands
  cases hp : s.phase with
  | registering k =>
    have known := h.known hp (by simp) (by simp)
    rw [hp] at st
    simp only [step, hp, Option.some.injEq] at hs
    subst hs
    exact h.move (by rw [hp]; rfl) rfl (.inl known) ⟨st.1, fun c => nomatch c⟩
  | admitting k =>
    have known := h.known hp (by simp) (by simp)
    rw [hp] at st
    simp only [step, hp, Option.some.injEq] at hs
    subst hs
    exact h.move (by rw [hp]; rfl) rfl (.inl known) ⟨st.1, fun c => nomatch c⟩
  | _ => simp [step, hp] at hs

theorem Serial.guard (h : Serial s) {gone : Bool} (hs : step s (.guard gone) = some t) : Serial t := by
  have st := h.stands
  cases hp : s.phase with
  | looping k =>
    have known := h.known hp (by simp) (by simp)
    rw [hp] at st
    simp only [step, hp, h.unstopped, Bool.false_or, Option.some.injEq] at hs
    subst hs
    cases gone with
    | false => exact h.move (by rw [hp]; rfl) rfl (.inl known) st
    | true => exact h.move (by rw [hp]; rfl) rfl (.inl known) ⟨st.1, fun c => nomatch c⟩
  | _ => simp [step, hp] at hs

theorem Serial.read_line (h : Serial s) {got : Option Incoming} (hs : step s (.read got) = some t) : Serial t := by
  have st := h.stands
  cases hp : s.phase with
  | reading k =>
    have known := h.known hp (by simp) (by simp)
    rw [hp] at st
    simp only [step, hp, Option.some.injEq] at hs
    subst hs
    have left : Serial { s with phase := .leaving k } :=
      h.move (by rw [hp]; rfl) rfl (.inl known) ⟨st.1, fun c => nomatch c⟩
    match got with
    | none => exact left
    | some .tooLong => exact h.move (by rw [hp]; rfl) rfl (.inl known) st
    | some (.line text) =>
      rw [received]
      split
      · exact left
      · refine { left with read := ?_, client := .inl known, stands := ⟨⟨st.1.1, st.1.2, st.1.3, st.1.4⟩, st.2⟩ }
        have read := left.read
        simp only [Phase.unqueued, List.append_nil] at read
        rw [read]
        rfl
  | _ => simp [step, hp] at hs

theorem Serial.send (h : Serial s) {ok : Bool} (hs : step s (.send ok) = some t) : Serial t := by
  have st := h.stands
  cases hp : s.phase with
  | sending k line bytes next =>
    have known := h.known hp (by simp) (by simp)
    rw [hp] at st
    simp only [step, hp, Option.some.injEq] at hs
    subst hs
    cases ok with
    | false => exact h.move (by rw [hp]; rfl) rfl (.inl known) ⟨st.1, fun c => nomatch c⟩
    | true =>
      have read := h.read
      have written := h.sent
      rw [hp] at read written
      have sent : ((s.journal.sent ++ answerTo k line bytes) ++ []).Sublist s.journal.made := by
        rw [List.append_nil]
        exact written
      obtain ⟨quiet, output⟩ := st
      have quiet : Quiet s.exchange.queue s.running { s.journal with sent := s.journal.sent ++ answerTo k line bytes } :=
        ⟨quiet.queue, quiet.running, quiet.pushed, quiet.answered⟩
      cases next with
      | again => exact ⟨h.unstopped, h.notAsked, h.inFlight, h.popped, read, sent, .inl known, quiet, output⟩
      | acknowledge => exact ⟨h.unstopped, h.notAsked, h.inFlight, h.popped, read, sent, .inl known, quiet, output⟩
  | _ => simp [step, hp] at hs

/-! ## The host's steps -/

theorem Serial.pop (h : Serial s) (hs : step s .pop = some t) : Serial t := by
  have st := h.stands
  cases hr : s.running with
  | some line => simp [step, hr] at hs
  | none =>
    cases hq : s.exchange.queue with
    | nil => simp [step, hr, hq, Exchange.pop] at hs
    | cons line rest =>
      simp only [step, hr, hq, Exchange.pop, Option.some.injEq] at hs
      subst hs
      rw [hq] at st
      obtain ⟨k, hp, waits⟩ := st.waits_queued
      obtain ⟨-, rfl⟩ := List.cons.inj waits.queue
      refine ⟨h.unstopped, h.notAsked, rfl, ?_, h.read, h.sent, h.client, ?_⟩
      · have popped := h.popped
        rw [hr, Option.toList_none, List.append_nil] at popped
        exact congrArg (· ++ [line]) popped
      · rw [hp]
        exact .inr (.inl ⟨rfl, rfl, waits.output, waits.pushed, waits.answered⟩)

/-- What the host may do to the output: it writes while it runs a line, or before the
    first client. -/
theorem Serial.written (h : Serial s) (ok : s.running.isSome ∨ s.nextSocket = 0) {output own : String}
    (same : s.exchange.outbound = s.journal.own → output = own) :
    Serial { s with exchange := { s.exchange with outbound := output }, journal := { s.journal with own := own } } := by
  refine ⟨h.unstopped, h.notAsked, h.inFlight, h.popped, h.read, h.sent, h.client, ?_⟩
  have st := h.stands
  cases hr : s.running with
  | some line =>
    rw [hr] at st
    obtain ⟨k, hp, runs⟩ := st.waits_running
    rw [hp]
    exact .inr (.inl ⟨runs.queue, runs.running, same runs.output, runs.pushed, runs.answered⟩)
  | none =>
    have early : s.nextSocket = 0 := by simpa [hr] using ok
    rcases h.client with known | hp | hp
    · exact absurd early known
    · rw [hp] at st ⊢
      exact ⟨⟨st.1.queue, rfl, st.1.pushed, st.1.answered⟩, fun c => nomatch c⟩
    · rw [hp] at st ⊢
      exact ⟨⟨st.1.queue, rfl, st.1.pushed, st.1.answered⟩, fun c => nomatch c⟩

theorem Serial.finish (h : Serial s) (hs : step s .finish = some t) : Serial t := by
  have st := h.stands
  cases hr : s.running with
  | none => simp [step, hr] at hs
  | some line =>
    simp only [step, hr, Option.map_some, Option.some.injEq] at hs
    subst hs
    rw [hr] at st
    obtain ⟨k, hp, runs⟩ := st.waits_running
    refine ⟨h.unstopped, h.notAsked, rfl, ?_, h.read, h.sent, h.client, ?_⟩
    · rw [h.popped, hr, List.map_append]
      exact (List.append_nil _).symm
    · rw [hp]
      refine .inr (.inr ⟨runs.queue, rfl, runs.pushed, s.journal.finished, ?_, runs.answered⟩)
      rw [Exchange.finish, runs.output]

/-! ## Every orderly run -/

theorem Serial.step (h : Serial s) {e : Ev} (ok : orderly s e) (hs : step s e = some t) : Serial t := by
  cases e with
  | listener => exact h.listener hs
  | accept => exact h.accept hs
  | fail => exact h.fail hs
  | guard => exact h.guard hs
  | read => exact h.read_line hs
  | send => exact h.send hs
  | pop => exact h.pop hs
  | append text =>
    cases hs
    exact h.written ok (fun same => by rw [same])
  | clear =>
    cases hs
    exact h.written ok (fun _ => rfl)
  | finish => exact h.finish hs
  | raiseStop => cases ok
  | closeClient => simp [Listener.step, h.notAsked] at hs

theorem Orderly.serial (h : Orderly s) : Serial s := by
  induction h with
  | init => exact serial_start
  | step e _ ok hs ih => exact ih.step ok hs

/-- Only the listener queues lines. -/
theorem step_pushed {e : Ev} (hs : Listener.step s e = some t) :
    t.journal.pushed = s.journal.pushed ∨ ∃ k line, s.phase = .queuing k line := by
  cases e with
  | listener =>
    cases hp : s.phase with
    | queuing k line => exact .inr ⟨k, line, rfl⟩
    | _ => simp [step, listenerStep, hp] at hs <;> subst hs <;> exact .inl rfl
  | finish =>
    obtain ⟨line, -, rfl⟩ := Option.map_eq_some_iff.mp hs
    exact .inl rfl
  | _ =>
    left
    simp only [step, sent, received] at hs
    grind

/-- The listener and the host take turns. -/
structure InTurn (s : System) : Prop where
  /-- At most one line is queued or in flight. -/
  single : s.exchange.queue.length + s.exchange.inFlight.toNat ≤ 1
  /-- Lines are queued in the order in which they were read. -/
  read : ∃ held, s.journal.read = s.journal.pushed ++ held ∧ held.length ≤ 1
  /-- The host takes the lines that were queued in their order, each of them once. -/
  popped : ∃ left, s.journal.pushed.map Request.line = s.journal.popped ++ left ∧ left.length ≤ 1
  ran : s.journal.popped = s.journal.finished.map Prod.fst ++ s.running.toList
  /-- When a line is queued, all lines before it have run and are answered, and nothing is
      left of their output. -/
  alternates : ∀ e t, step s e = some t → t.journal.pushed ≠ s.journal.pushed →
    s.exchange.isIdle ∧ s.exchange.outbound = "" ∧ s.journal.finished.length = s.journal.pushed.length ∧
      s.journal.made.map Answer.request = s.journal.pushed
  /-- While a line runs, the output is what it has left there. -/
  own : s.running.isSome → s.exchange.outbound = s.journal.own
  /-- The answer to a line is the response to what that line has left in the output. -/
  answered : ∀ (i : Nat) (a : Answer), s.journal.made[i]? = some a → s.journal.pushed[i]? = some a.request ∧
    ∃ text, s.journal.finished[i]? = some (a.request.line, text) ∧ a.bytes = response text
  /-- What is written to the clients are these answers in their order. -/
  sent : (s.journal.sent ++ s.phase.outgoing).Sublist s.journal.made

theorem Serial.alternates (h : Serial s) {e : Ev} (hs : Listener.step s e = some t) (new : t.journal.pushed ≠ s.journal.pushed) :
    s.exchange.isIdle ∧ s.exchange.outbound = "" ∧ s.journal.finished.length = s.journal.pushed.length ∧
      s.journal.made.map Answer.request = s.journal.pushed := by
  obtain ⟨k, line, hp⟩ := (step_pushed hs).resolve_left new
  have st := h.stands
  rw [hp] at st
  obtain ⟨quiet, output⟩ := st
  refine ⟨?_, output rfl, ?_, quiet.pushed.symm⟩
  · rw [Exchange.isIdle, quiet.queue, h.inFlight, quiet.running]
    rfl
  · rw [quiet.pushed, List.length_map, quiet.answered.length_eq]

theorem Serial.answered (h : Serial s) {i : Nat} {a : Answer} (ha : s.journal.made[i]? = some a) :
    s.journal.pushed[i]? = some a.request ∧
      ∃ text, s.journal.finished[i]? = some (a.request.line, text) ∧ a.bytes = response text := by
  obtain ⟨⟨last, hp⟩, earlier, later, hf, answered⟩ := h.stands.answers
  obtain ⟨hi, rfl⟩ := List.getElem?_eq_some_iff.mp ha
  have hi' : i < earlier.length := answered.length_eq ▸ hi
  have same := answered.get hi hi'
  refine ⟨?_, earlier[i].2, ?_, same.2⟩
  · rw [hp, List.getElem?_append_left (by simpa using hi), List.getElem?_map, ha, Option.map_some]
  · rw [hf, List.getElem?_append_left hi', List.getElem?_eq_getElem hi']
    exact congrArg some (Prod.ext same.1.symm rfl)

/-- In every orderly run the listener and the host take turns. -/
theorem in_turn (h : Orderly s) : InTurn s := by
  have serial := h.serial
  have single := serial.stands.single
  refine ⟨by rw [serial.inFlight]; exact single, ⟨s.phase.unqueued, serial.read, ?_⟩, ⟨s.exchange.queue, ?_, by omega⟩,
    serial.popped, fun _ _ => serial.alternates, fun runs => ?_, fun _ _ => serial.answered, serial.sent⟩
  · cases s.phase <;> simp [Phase.unqueued]
  · rw [serial.stands.lines, serial.popped]
  · obtain ⟨line, hr⟩ := Option.isSome_iff_exists.mp runs
    have st := serial.stands
    rw [hr] at st
    obtain ⟨k, -, runs⟩ := st.waits_running
    exact runs.output

theorem in_turn_one_line : ∃ s, Orderly s ∧ s.journal.sent = [⟨⟨0, "help"⟩, response "text"⟩] ∧ InTurn s := by
  have connected : Orderly _ := .step (.accept true) (.step .listener .init trivial rfl) trivial rfl
  have admitted : Orderly _ := .step .listener (.step .listener connected trivial rfl) trivial rfl
  have greeted : Orderly _ := .step (.send true) (.step .listener admitted trivial rfl) trivial rfl
  have read : Orderly _ := .step (.read (some (.line "help"))) (.step (.guard false) greeted trivial rfl) trivial rfl
  have popped : Orderly _ := .step .pop (.step .listener read trivial rfl) trivial rfl
  have waited : Orderly _ := .step .listener (.step (.append "text") popped (.inl rfl) rfl) trivial rfl
  have finished : Orderly _ := .step .finish waited trivial rfl
  have taken : Orderly _ := .step .listener (.step .listener finished trivial rfl) trivial rfl
  have sent : Orderly _ := .step (.send true) taken trivial rfl
  exact ⟨_, sent, rfl, in_turn sent⟩

end CommandConsole.Network.Listener
