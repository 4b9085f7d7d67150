/-
  CommandConsole.Proofs.Delivery — no response is lost while a reply is pending.

  A reply is pending from the step that queues a line on. Two steps end it: the listener
  takes it back when it has written a response, and again when a session is over. A
  session works on one line at a time, so it owes its client at most one response
  (`Owes`): none before it has queued the line and after it has written the answer, and
  the last one in between, where the reply is pending throughout. A session that breaks
  off in between still owes it until it is settled.

  Nothing here depends on what the host does, on a stop, or on clients that come and go:
  all of it holds in every run.

  Proved (`drained_is_answered`): whenever no reply is pending, every session that has not
  ended has written the answers to all its lines, in their order, each of them once; and a
  host that waits for the last reply and is told that it is out, while the listener is still
  there, can rely on it for every line that it had run before: `quit` is answered, unless
  its session has ended.
-/

import CommandConsole.Proofs.Moves

namespace CommandConsole.Network.Listener

open Text.Utf8 (Byte)

variable {s t : System}

/-! ## What a session has queued and what it has written -/

/-- The lines that were queued in a session. -/
def Journal.queuedIn (j : Journal) (k : Nat) : List Request := j.pushed.filter (·.session == k)

/-- The lines whose answers were written in a session. -/
def Journal.answeredIn (j : Journal) (k : Nat) : List Request :=
  (j.sent.map Answer.request).filter (·.session == k)

/-- What was queued and what was written later goes behind what was there before; sockets
    are numbered in the order in which they come, and a session that has ended is over. -/
structure Later (s t : System) : Prop where
  pushed : s.journal.pushed <+: t.journal.pushed
  sent : s.journal.sent <+: t.journal.sent
  sockets : s.nextSocket ≤ t.nextSocket
  socket : ∀ k, t.phase.socket = some k → s.phase.socket = some k ∨ s.nextSocket ≤ k

theorem Later.refl (s : System) : Later s s :=
  ⟨List.prefix_rfl, List.prefix_rfl, Nat.le_refl _, fun _ hk => .inl hk⟩

/-- A step on which nothing is queued and nothing written. -/
theorem Later.move {p : Phase} {e : Exchange} {r : Option String} {c : Option Nat} {d : List Nat} {f : Shutdown} {j : Journal}
    (socket : ∀ k, p.socket = some k → s.phase.socket = some k) (pushed : j.pushed = s.journal.pushed)
    (sent : j.sent = s.journal.sent) :
    Later s { s with phase := p, exchange := e, running := r, client := c, closed := d, shutdown := f, journal := j } :=
  ⟨pushed ▸ List.prefix_rfl, sent ▸ List.prefix_rfl, Nat.le_refl _, fun k hk => .inl (socket k hk)⟩

theorem step_later {e : Ev} (hs : step s e = some t) : Later s t := by
  cases step_move hs with
  | findsClient hp =>
    refine ⟨List.prefix_rfl, List.prefix_rfl, Nat.le_succ _, fun k hk => .inr ?_⟩
    cases hk
    exact Nat.le_refl _
  | fails k hp =>
    rcases hp with hp | hp
    · exact Later.move (fun _ hk => hp ▸ hk) rfl rfl
    · exact Later.move (fun _ hk => hp ▸ hk) rfl rfl
  | queues k line hp => exact ⟨List.prefix_append _ _, List.prefix_rfl, Nat.le_refl _, fun _ hk => .inl (hp ▸ hk)⟩
  | sends k line bytes next hp =>
    refine ⟨List.prefix_rfl, List.prefix_append _ _, Nat.le_refl _, fun _ hk => .inl ?_⟩
    rw [hp]
    cases next with
    | again => exact hk
    | acknowledge => exact hk
  | findsStop | looks | findsNone | leaves | settles => exact Later.move (fun _ hk => by cases hk) rfl rfl
  | pops | appends | clears | finishes | raises | closes => exact Later.move (fun _ hk => hk) rfl rfl
  | registers _ hp | turnsAway _ hp | admits _ hp | takes _ _ _ hp | losesClient _ _ _ _ hp | breaksOff _ _ hp | goesOn _ hp
  | hangsUp _ _ hp | skips _ hp | refuses _ hp | reads _ _ hp | waits _ _ hp | hasWaited _ _ hp | acknowledges _ hp =>
    exact Later.move (fun _ hk => hp ▸ hk) rfl rfl

theorem Later.trans {u : System} (h : Later s t) (h' : Later t u) : Later s u := by
  refine ⟨h.pushed.trans h'.pushed, h.sent.trans h'.sent, Nat.le_trans h.sockets h'.sockets, ?_⟩
  intro k hk
  rcases h'.socket k hk with hk | hk
  · exact h.socket k hk
  · exact .inr (Nat.le_trans h.sockets hk)

theorem Later.stays_over (h : Later s t) {k : Nat} (past : s.Over k) : t.Over k := by
  obtain ⟨known, gone⟩ := past
  refine ⟨Nat.lt_of_lt_of_le known h.sockets, fun hk => ?_⟩
  rcases h.socket k hk with hk | hk
  · exact gone hk
  · omega

theorem Later.queuedIn (h : Later s t) (k : Nat) : s.journal.queuedIn k <+: t.journal.queuedIn k :=
  h.pushed.filter _

theorem Later.answeredIn (h : Later s t) (k : Nat) : s.journal.answeredIn k <+: t.journal.answeredIn k :=
  (h.sent.map _).filter _

/-! ## What a session owes -/

/-- What a session has queued beyond what it has answered, and that a reply is pending as
    long as there is such a line. -/
def Owes (j : Journal) (pending : Bool) : Phase → Prop
  | .waiting k line | .taking k (some line) _ | .sending k (some line) _ _ =>
    j.queuedIn k = j.answeredIn k ++ [⟨k, line⟩] ∧ pending = true
  | .leaving k => j.answeredIn k <+: j.queuedIn k ∧ (j.queuedIn k = j.answeredIn k ∨ pending = true)
  | p => ∀ k, p.socket = some k → j.queuedIn k = j.answeredIn k

structure Ledger (s : System) : Prop where
  queued : ∀ r ∈ s.journal.pushed, r.session < s.nextSocket
  sent : ∀ a ∈ s.journal.sent, a.request.session < s.nextSocket
  socket : ∀ k, s.phase.socket = some k → k < s.nextSocket
  owes : Owes s.journal s.exchange.replyPending s.phase

theorem ledger_start : Ledger start := by
  refine ⟨?_, ?_, ?_, ?_⟩
  · intro r hr; cases hr
  · intro a ha; cases ha
  · intro k hk; cases hk
  · intro k hk; cases hk

/-- Nothing was queued or written yet in a session that is still to come. -/
theorem Ledger.fresh (h : Ledger s) : s.journal.queuedIn s.nextSocket = s.journal.answeredIn s.nextSocket := by
  have queued : s.journal.queuedIn s.nextSocket = [] := by
    apply List.filter_eq_nil_iff.mpr
    intro r hr same
    have := h.queued r hr
    simp only [beq_iff_eq] at same
    omega
  have answered : s.journal.answeredIn s.nextSocket = [] := by
    apply List.filter_eq_nil_iff.mpr
    intro r hr same
    obtain ⟨a, ha, rfl⟩ := List.mem_map.mp hr
    have := h.sent a ha
    simp only [beq_iff_eq] at same
    omega
  rw [queued, answered]

/-- A step on which nothing is queued and nothing written. -/
theorem Ledger.move (h : Ledger s) {p : Phase} {e : Exchange} {r : Option String} {c : Option Nat} {d : List Nat} {f : Shutdown}
    {j : Journal} (socket : ∀ k, p.socket = some k → s.phase.socket = some k) (pushed : j.pushed = s.journal.pushed)
    (sent : j.sent = s.journal.sent) (owes : Owes j e.replyPending p) :
    Ledger { s with phase := p, exchange := e, running := r, client := c, closed := d, shutdown := f, journal := j } := by
  refine ⟨?_, ?_, fun k hk => h.socket k (socket k hk), owes⟩
  · intro r hr
    exact h.queued r (pushed ▸ hr)
  · intro a ha
    exact h.sent a (sent ▸ ha)

theorem queuedIn_push (j : Journal) (k : Nat) (line : String) :
    Journal.queuedIn { j with pushed := j.pushed ++ [⟨k, line⟩] } k = j.queuedIn k ++ [⟨k, line⟩] := by
  simp [Journal.queuedIn, List.filter_append]

theorem answeredIn_answerTo (j : Journal) (k : Nat) (line : Option String) (bytes : List Byte) :
    Journal.answeredIn { j with sent := j.sent ++ answerTo k line bytes } k =
      j.answeredIn k ++ line.toList.map fun line => ⟨k, line⟩ := by
  cases line <;> simp [Journal.answeredIn, answerTo, List.filter_append]

/-- Wherever a session stands, all it can owe is behind what it has answered, and then a
    reply is pending. -/
theorem Owes.behind {j : Journal} {pending : Bool} {p : Phase} (h : Owes j pending p) {k : Nat} (hk : p.socket = some k) :
    j.answeredIn k <+: j.queuedIn k ∧ (j.queuedIn k = j.answeredIn k ∨ pending = true) := by
  cases p with
  | idle | accepting | settling | ended => cases hk
  | waiting =>
    cases hk
    exact ⟨h.1 ▸ List.prefix_append _ _, .inr h.2⟩
  | taking _ line | sending _ line =>
    cases line with
    | none => exact ⟨h k hk ▸ List.prefix_rfl, .inl (h k hk)⟩
    | some =>
      cases hk
      exact ⟨h.1 ▸ List.prefix_append _ _, .inr h.2⟩
  | leaving =>
    cases hk
    exact h
  | _ => exact ⟨h k hk ▸ List.prefix_rfl, .inl (h k hk)⟩

/-- The output is taken for the line that is owed, if there is one. -/
theorem Ledger.taken (h : Ledger s) {k : Nat} {line : Option String} {next : Next} (hp : s.phase = .taking k line next)
    (bytes : List Byte) :
    Ledger { s with
      phase := .sending k line bytes next
      exchange := s.exchange.clear
      journal := { s.journal with made := s.journal.made ++ answerTo k line bytes } } := by
  have owes := h.owes
  rw [hp] at owes
  refine h.move (fun _ hk => hp ▸ hk) rfl rfl ?_
  cases line with
  | none => exact owes
  | some line => exact owes

/-- What is written is what was owed. -/
theorem Ledger.sends (h : Ledger s) {k : Nat} {line : Option String} {bytes : List Byte} {next : Next}
    (hp : s.phase = .sending k line bytes next) : Ledger (Listener.sent s k line bytes next) := by
  have owes := h.owes
  rw [hp] at owes
  have known : k < s.nextSocket := h.socket k (by rw [hp]; rfl)
  have even : s.journal.queuedIn k = s.journal.answeredIn k ++ line.toList.map fun line => ⟨k, line⟩ := by
    cases line with
    | none => simpa using owes k rfl
    | some line => exact owes.1
  have written : ∀ a ∈ s.journal.sent ++ answerTo k line bytes, a.request.session < s.nextSocket := by
    intro a ha
    rcases List.mem_append.mp ha with ha | ha
    · exact h.sent a ha
    · obtain ⟨line, -, rfl⟩ := List.mem_map.mp ha
      exact known
  have balance : ∀ k', some k = some k' →
      s.journal.queuedIn k' = Journal.answeredIn { s.journal with sent := s.journal.sent ++ answerTo k line bytes } k' := by
    intro k' hk
    cases hk
    rw [answeredIn_answerTo, even]
  cases next with
  | again => exact ⟨h.queued, written, fun k' hk => by cases hk; exact known, balance⟩
  | acknowledge => exact ⟨h.queued, written, fun k' hk => by cases hk; exact known, balance⟩

/-- From here on the reply is pending. -/
theorem Ledger.queues (h : Ledger s) {k : Nat} {line : String} (hp : s.phase = .queuing k line) :
    Ledger { s with
      phase := .waiting k line
      exchange := s.exchange.push line
      journal := { s.journal with pushed := s.journal.pushed ++ [⟨k, line⟩] } } := by
  have owes := h.owes
  rw [hp] at owes
  have known : k < s.nextSocket := h.socket k (by rw [hp]; rfl)
  refine ⟨?_, h.sent, ?_, ?_, rfl⟩
  · intro r hr
    rcases List.mem_append.mp hr with hr | hr
    · exact h.queued r hr
    · cases List.mem_singleton.mp hr
      exact known
  · intro k' hk
    cases hk
    exact known
  · rw [queuedIn_push, owes k rfl]
    rfl

theorem Ledger.findsClient (h : Ledger s) :
    Ledger { s with phase := .registering s.nextSocket, nextSocket := s.nextSocket + 1 } := by
  refine ⟨?_, ?_, ?_, ?_⟩
  · intro r hr
    exact Nat.lt_succ_of_lt (h.queued r hr)
  · intro a ha
    exact Nat.lt_succ_of_lt (h.sent a ha)
  · intro k hk
    cases hk
    exact Nat.lt_succ_self _
  · intro k hk
    cases hk
    exact h.fresh

/-- The session breaks off, and what it owes it still owes. -/
theorem Ledger.breaksOff (h : Ledger s) {k : Nat} (hk : s.phase.socket = some k) : Ledger { s with phase := .leaving k } :=
  h.move (fun _ hk' => by cases hk'; exact hk) rfl rfl (h.owes.behind hk)

theorem Ledger.step (h : Ledger s) {e : Ev} (hs : step s e = some t) : Ledger t := by
  have owes := h.owes
  cases step_move hs with
  | findsClient hp => exact h.findsClient
  | takes k line next hp => exact h.taken hp _
  | sends k line bytes next hp => exact h.sends hp
  | queues k line hp => exact h.queues hp
  | findsStop | looks | findsNone | leaves | settles =>
    exact h.move (fun _ hk => by cases hk) rfl rfl (fun _ hk => by cases hk)
  | pops | appends | clears | finishes | raises | closes => exact h.move (fun _ hk => hk) rfl rfl owes
  | registers _ hp | admits _ hp | goesOn _ hp | skips _ hp | refuses _ hp | reads _ _ hp | waits _ _ hp | hasWaited _ _ hp
  | acknowledges _ hp =>
    rw [hp] at owes
    exact h.move (fun _ hk => hp ▸ hk) rfl rfl owes
  | turnsAway _ hp | breaksOff _ _ hp | hangsUp _ _ hp | losesClient _ _ _ _ hp =>
    exact h.breaksOff (by rw [hp]; rfl)
  | fails k hp =>
    refine h.breaksOff ?_
    rcases hp with hp | hp
    · rw [hp]; rfl
    · rw [hp]; rfl

theorem Reach.ledger (h : Reach s) : Ledger s := by
  induction h with
  | init => exact ledger_start
  | step e _ hs ih => exact ih.step hs

/-- When no reply is pending, a session that has not ended has answered all its lines. -/
theorem Ledger.answered (h : Ledger s) (none : s.exchange.replyPending = false) {r : Request} (hr : r ∈ s.journal.pushed) :
    s.Over r.session ∨ s.journal.answeredIn r.session = s.journal.queuedIn r.session := by
  by_cases here : s.phase.socket = some r.session
  · right
    rcases (h.owes.behind here).2 with even | pending
    · exact even.symm
    · rw [none] at pending
      cases pending
  · exact .inl ⟨h.queued r hr, here⟩

/-! ## The lines the host has run -/

/-- The lines that were queued are those the host has run, the one it runs, and the queue. -/
def InOrder (s : System) : Prop :=
  s.journal.pushed.map Request.line = s.journal.finished.map Prod.fst ++ s.running.toList ++ s.exchange.queue

theorem InOrder.step (h : InOrder s) {e : Ev} (hs : step s e = some t) : InOrder t := by
  unfold InOrder at h ⊢
  cases step_move hs with
  | queues k line hp =>
    show (s.journal.pushed ++ [Request.mk k line]).map Request.line = _ ++ _ ++ (s.exchange.queue ++ [line])
    rw [List.map_append, h, List.append_assoc _ s.exchange.queue]
    rfl
  | pops line rest hr hq =>
    rw [hr, hq] at h
    rw [h]
    simp
  | finishes line hr =>
    rw [hr] at h
    rw [h]
    simp [Exchange.finish]
  | sends k line bytes next hp => cases next <;> exact h
  | _ => exact h

theorem Reach.inOrder (h : Reach s) : InOrder s := by
  induction h with
  | init => rfl
  | step e _ hs ih => exact ih.step hs

/-- A line that the host has run was queued in its place. -/
theorem InOrder.ran (h : InOrder s) {i : Nat} {line text : String} (hi : s.journal.finished[i]? = some (line, text)) :
    ∃ r, s.journal.pushed[i]? = some r ∧ r.line = line := by
  have place : (s.journal.pushed.map Request.line)[i]? = some line := by
    obtain ⟨hlt, -⟩ := List.getElem?_eq_some_iff.mp hi
    have h : s.journal.pushed.map Request.line = _ := h
    rw [h, List.append_assoc, List.getElem?_append_left (by simpa using hlt), List.getElem?_map, hi]
    rfl
  rw [List.getElem?_map] at place
  exact Option.map_eq_some_iff.mp place

/-! ## Waiting for the last reply -/

/-- What had been queued at `s` is answered at `t`, but for sessions that have ended. -/
def Settled (s t : System) : Prop :=
  ∀ r ∈ s.journal.pushed, t.Over r.session ∨ s.journal.queuedIn r.session <+: t.journal.answeredIn r.session

/-- Nothing that happens later can take an answer back. -/
theorem Settled.later {u : System} (h : Settled s t) (later : Later t u) : Settled s u := by
  intro r hr
  rcases h r hr with past | answered
  · exact .inl (later.stays_over past)
  · exact .inr (answered.trans (later.answeredIn r.session))

theorem settled_now (h : Reach t) (later : Later s t) (none : t.exchange.replyPending = false) : Settled s t := by
  intro r hr
  rcases h.ledger.answered none (later.pushed.subset hr) with past | answered
  · exact .inl past
  · exact .inr (answered ▸ later.queuedIn r.session)

/-- What the host knows while it waits, having begun at `s`. -/
structure Waited (s : System) (w : System × Wait) : Prop where
  reach : Reach w.1
  later : Later s w.1
  settled : w.2 = .finished true → w.1.phase = .ended ∨ Settled s w.1

theorem step_ended {e : Ev} (hp : s.phase = .ended) (hs : step s e = some t) : t.phase = .ended := by
  cases step_move hs with
  | pops | appends | clears | finishes | raises | closes => exact hp
  | fails k h =>
    rcases h with h | h
    · rw [hp] at h; cases h
    · rw [hp] at h; cases h
  | _ => simp_all

theorem Waited.step {w w' : System × Wait} (h : Waited s w) {e : WaitEv} (hs : waitStep w e = some w') : Waited s w' := by
  obtain ⟨u, wait⟩ := w
  cases e with
  | look =>
    cases wait with
    | asking =>
      cases hs
      refine ⟨h.reach, h.later, ?_⟩
      show (if u.exchange.replyPending then Wait.checking else .finished true) = .finished true → _
      split
      · intro asks; cases asks
      · rename_i none
        intro _
        exact .inr (settled_now h.reach h.later (Bool.eq_false_iff.mpr none))
    | checking | finished => cases hs
  | check expired =>
    cases wait with
    | checking =>
      cases hs
      refine ⟨h.reach, h.later, ?_⟩
      show (if u.phase = .ended then Wait.finished true else if expired then .finished false else .asking) = .finished true → _
      split
      · rename_i ended
        intro _
        exact .inl ended
      · split
        · intro late; cases late
        · intro again; cases again
    | asking | finished => cases hs
  | other e =>
    obtain ⟨v, hv, rfl⟩ : ∃ v, Listener.step u e = some v ∧ w' = (v, wait) := by
      cases wait <;> exact (Option.map_eq_some_iff.mp hs).imp fun _ hv => ⟨hv.1, hv.2.symm⟩
    have later := step_later hv
    refine ⟨h.reach.step e hv, h.later.trans later, fun told => ?_⟩
    rcases h.settled told with ended | settled
    · exact .inl (step_ended ended hv)
    · exact .inr (settled.later later)

theorem Waited.run {w w' : System × Wait} (h : Waited s w) {es : List WaitEv} (hs : es.foldlM waitStep w = some w') :
    Waited s w' := by
  induction es generalizing w with
  | nil =>
    cases hs
    exact h
  | cons e es ih =>
    rw [List.foldlM_cons] at hs
    obtain ⟨u, hu, rest⟩ := Option.bind_eq_some_iff.mp hs
    exact ih (h.step hu) rest

/-- When no reply is pending every line is answered or its session has ended, and a host
    that waits until it is told so has lost no response to what it has run. -/
theorem drained_is_answered (h : Reach s) :
    (s.exchange.replyPending = false → ∀ r ∈ s.journal.pushed,
      s.Over r.session ∨ s.journal.answeredIn r.session = s.journal.queuedIn r.session) ∧
    ∀ (es : List WaitEv) (t : System), es.foldlM waitStep (s, .asking) = some (t, .finished true) → t.phase ≠ .ended →
      ∀ (i : Nat) (line text : String), s.journal.finished[i]? = some (line, text) →
        ∃ r, s.journal.pushed[i]? = some r ∧ r.line = line ∧
          (t.Over r.session ∨ s.journal.queuedIn r.session <+: t.journal.answeredIn r.session) := by
  refine ⟨fun none _ => h.ledger.answered none, fun es t hs alive i line text hi => ?_⟩
  obtain ⟨r, hr, same⟩ := h.inOrder.ran hi
  have begun : Waited s (s, .asking) := ⟨h, Later.refl s, fun told => by cases told⟩
  have settled : Settled s t := ((begun.run hs).settled rfl).resolve_left alive
  exact ⟨r, hr, same, settled r (List.mem_of_getElem? hr)⟩

theorem drained_is_answered_quit : ∃ s t, Reach s ∧ s.phase = .waiting 0 "quit" ∧ s.journal.finished = [("quit", "bye")] ∧
    List.foldlM waitStep (s, .asking) [.look, .check false, .other .listener, .other .listener, .other (.send true),
      .other .listener, .look] = some (t, .finished true) ∧
    t.phase = .looping 0 ∧ t.journal.sent = [⟨⟨0, "quit"⟩, response "bye"⟩] ∧
    ∃ r, s.journal.pushed[0]? = some r ∧ r.line = "quit" ∧
      (t.Over r.session ∨ s.journal.queuedIn r.session <+: t.journal.answeredIn r.session) := by
  have connected : Reach _ := .step (.accept true) (.step .listener .init rfl) rfl
  have admitted : Reach _ := .step .listener (.step .listener connected rfl) rfl
  have greeted : Reach _ := .step (.send true) (.step .listener admitted rfl) rfl
  have read : Reach _ := .step (.read (some (.line "quit"))) (.step (.guard false) greeted rfl) rfl
  have popped : Reach _ := .step .pop (.step .listener read rfl) rfl
  have finished : Reach _ := .step .finish (.step (.append "bye") popped rfl) rfl
  have drained := (drained_is_answered finished).2 [.look, .check false, .other .listener, .other .listener, .other (.send true),
    .other .listener, .look] _ rfl
  exact ⟨_, _, finished, rfl, rfl, rfl, rfl, rfl, drained (fun ended => by cases ended) 0 "quit" "bye" rfl⟩

end CommandConsole.Network.Listener
