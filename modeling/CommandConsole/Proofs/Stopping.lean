/-
  CommandConsole.Proofs.Stopping — shutdown leaves the listener nowhere to wait.

  Shutdown raises the stop flag and then closes the socket that is registered at that
  moment. The listener does the two things the other way round: it registers the socket
  of a new client and then looks at the flag. So whichever comes first, one of them sees
  the other. A session that has passed the look at the flag was registered before the
  flag was raised, and is registered still when shutdown comes for it; every other
  session ends at that look.

  Three facts about each state say this (`Guarded`), and every event of the listener, the
  host and shutdown keeps them, in any order.

  Proved, for every state after both steps of shutdown (`shutdown_frees_listener`) and
  for all that may still happen then: the listener looks for a client, is before the look
  that ends the session, leaves, or has a socket that shutdown has closed; so it reads
  from no other socket and waits for no line of another. Until it has ended it can take a
  step of its own, and it takes no more than ten.
-/

import CommandConsole.Proofs.Moves

namespace CommandConsole.Network.Listener

variable {s t : System}

/-! ## Where a session is -/

/-- The socket of a session that has passed the look at the stop flag. -/
def Phase.admitted : Phase → Option Nat
  | .taking k .. | .sending k .. | .looping k | .reading k | .refusing k | .queuing k _ | .waiting k _
  | .acknowledging k => some k
  | _ => none

/-- The socket that the listener has registered and not forgotten again. -/
def Phase.registered : Phase → Option Nat
  | .admitting k => some k
  | p => p.admitted

/-- The socket whose next bytes, or whose line, the listener waits for. -/
def Phase.awaited : Phase → Option Nat
  | .reading k | .waiting k _ => some k
  | _ => none

theorem registered_of_admitted {p : Phase} {k : Nat} (h : p.admitted = some k) : p.registered = some k := by
  cases p with
  | admitting => cases h
  | _ => exact h

/-! ## What keeps shutdown and the listener from missing each other -/

structure Guarded (s : System) : Prop where
  raised : s.shutdown ≠ .notAsked → s.exchange.stopped = true
  /-- Until shutdown comes for it, what is registered is the socket of the session. -/
  registered : s.shutdown ≠ .done → ∀ k, s.phase.registered = some k → s.client = some k
  closed : s.shutdown = .done → ∀ k, s.phase.admitted = some k → k ∈ s.closed

theorem guarded_start : Guarded start := by
  refine ⟨?_, ?_, ?_⟩
  · intro h; cases h rfl
  · intro _ k hk; cases hk
  · intro h; cases h

/-- A step on which neither the flag, the registered socket nor shutdown changes, and
    after which the session is no further than before. -/
theorem Guarded.move (h : Guarded s) {p : Phase} {e : Exchange} {r : Option String} {j : Journal}
    (flag : e.stopped = s.exchange.stopped) (registered : ∀ k, p.registered = some k → s.phase.registered = some k)
    (admitted : ∀ k, p.admitted = some k → s.phase.admitted = some k) :
    Guarded { s with phase := p, exchange := e, running := r, journal := j } :=
  ⟨fun asked => flag.trans (h.raised asked), fun early k hk => h.registered early k (registered k hk),
    fun done k hk => h.closed done k (admitted k hk)⟩

/-- A step out of the session. -/
theorem Guarded.leave (h : Guarded s) {p : Phase} {e : Exchange} {c : Option Nat} {n : Nat}
    (flag : e.stopped = s.exchange.stopped) (out : p.registered = none) :
    Guarded { s with phase := p, exchange := e, client := c, nextSocket := n } := by
  have out' : p.admitted = none := by
    cases hp : p.admitted with
    | none => rfl
    | some k => rw [registered_of_admitted hp] at out; cases out
  refine ⟨fun asked => flag.trans (h.raised asked), fun _ k hk => ?_, fun _ k hk => ?_⟩
  · rw [show p.registered = some k from hk] at out; cases out
  · rw [show p.admitted = some k from hk] at out'; cases out'

/-- The session passes the look at the flag: shutdown has not begun, and what it will find
    is this session's socket. -/
theorem Guarded.admit (h : Guarded s) {k : Nat} (hp : s.phase = .admitting k) (go : s.exchange.stopped = false) :
    Guarded { s with phase := .taking k none .again } := by
  have early : s.shutdown = .notAsked := by
    apply Classical.byContradiction
    intro asked
    rw [h.raised asked] at go
    cases go
  refine ⟨fun asked => absurd early asked, fun before k' hk => ?_, fun done => ?_⟩
  · apply h.registered before k'
    rw [hp]
    exact hk
  · rw [show s.shutdown = .done from done] at early
    cases early

/-- Shutdown closes what is registered, and that is the session's socket. -/
theorem Guarded.close (h : Guarded s) (asked : s.shutdown = .flagRaised) :
    Guarded { s with shutdown := .done, client := none, closed := s.closed ++ s.client.toList } := by
  refine ⟨fun _ => h.raised ?_, fun early => absurd rfl early, ?_⟩
  · rw [asked]
    decide
  · intro _ k hk
    have found : s.client = some k := h.registered (by rw [asked]; decide) k (registered_of_admitted hk)
    show k ∈ s.closed ++ s.client.toList
    rw [found]
    exact List.mem_append_right _ (List.mem_singleton_self k)

theorem Guarded.step (h : Guarded s) {e : Ev} (hs : step s e = some t) : Guarded t := by
  cases step_move hs with
  | registers k hp => exact ⟨h.raised, fun _ _ hk => hk, fun _ _ hk => nomatch hk⟩
  | admits k hp go => exact h.admit hp go
  | raises early =>
    refine ⟨fun _ => rfl, fun _ => h.registered ?_, fun done => by cases done⟩
    rw [early]
    decide
  | closes asked => exact h.close asked
  | findsStop | looks | findsNone | findsClient | fails | turnsAway | losesClient | breaksOff | hangsUp | leaves | settles =>
    exact h.leave rfl rfl
  | sends k line bytes next hp =>
    cases next with
    | again => exact h.move rfl (fun _ hk => hp ▸ hk) (fun _ hk => hp ▸ hk)
    | acknowledge => exact h.move rfl (fun _ hk => hp ▸ hk) (fun _ hk => hp ▸ hk)
  | takes _ _ _ hp | goesOn _ hp | skips _ hp | refuses _ hp | reads _ _ hp | queues _ _ hp | waits _ _ hp | hasWaited _ _ hp
  | acknowledges _ hp => exact h.move rfl (fun _ hk => hp ▸ hk) (fun _ hk => hp ▸ hk)
  | pops | appends | clears | finishes => exact h.move rfl (fun _ hk => hk) (fun _ hk => hk)

theorem Reach.guarded (h : Reach s) : Guarded s := by
  induction h with
  | init => exact guarded_start
  | step e _ hs ih => exact ih.step hs

/-! ## The way out -/

/-- Where the listener can be when both steps of shutdown are done. -/
inductive Freed (s : System) : Prop
  /-- It has no client. -/
  | outside (h : s.phase.socket = none)
  /-- The look at the stop flag that ends the session is still to come. -/
  | before (k : Nat) (h : s.phase = .registering k ∨ s.phase = .admitting k)
  | leaving (k : Nat) (h : s.phase = .leaving k)
  /-- Shutdown has closed the socket of its client. -/
  | closed (k : Nat) (h : s.phase.socket = some k) (hk : k ∈ s.closed)

theorem Guarded.freed (h : Guarded s) (done : s.shutdown = .done) : Freed s := by
  cases hp : s.phase with
  | idle => exact .outside (by rw [hp]; rfl)
  | accepting => exact .outside (by rw [hp]; rfl)
  | settling => exact .outside (by rw [hp]; rfl)
  | ended => exact .outside (by rw [hp]; rfl)
  | registering k => exact .before k (.inl hp)
  | admitting k => exact .before k (.inr hp)
  | leaving k => exact .leaving k hp
  | taking k | sending k | looping k | reading k | refusing k | queuing k | waiting k | acknowledging k =>
    exact .closed k (by rw [hp]; rfl) (h.closed done k (by rw [hp]; rfl))

theorem Guarded.awaited_closed (h : Guarded s) (done : s.shutdown = .done) {k : Nat} (hk : s.phase.awaited = some k) :
    k ∈ s.closed := by
  apply h.closed done
  cases hp : s.phase with
  | reading => rw [hp] at hk; exact hk
  | waiting => rw [hp] at hk; exact hk
  | _ => rw [hp] at hk; cases hk

/-- The listener's own steps. -/
def Ev.own : Ev → Bool
  | .listener | .accept _ | .fail | .guard _ | .read _ | .send _ => true
  | _ => false

/-- No more than so many steps are left to the listener once the stop flag is raised. -/
def Phase.left : Phase → Nat
  | .ended => 0
  | .idle => 1
  | .settling => 2
  | .leaving _ => 3
  | .looping _ | .admitting _ => 4
  | .registering _ | .acknowledging _ => 5
  | .accepting | .sending .. => 6
  | .taking .. => 7
  | .refusing _ | .waiting .. => 8
  | .queuing .. => 9
  | .reading _ => 10

theorem own_step_left {e : Ev} (stop : s.exchange.stopped = true) (own : e.own = true) (hs : step s e = some t) :
    t.phase.left < s.phase.left := by
  cases step_move hs with
  | fails k hp =>
    rcases hp with hp | hp
    · rw [hp]
      show 3 < 5
      decide
    · rw [hp]
      show 3 < 4
      decide
  | sends k line bytes next hp =>
    rw [hp]
    cases next with
    | again => show 4 < 6; decide
    | acknowledge => show 5 < 6; decide
  | looks _ go | admits _ _ go | goesOn _ _ go => rw [stop] at go; cases go
  | waits k line hp go => rw [stop, Bool.or_true] at go; cases go
  | pops | appends | clears | finishes | raises | closes => cases own
  | _ => simp [Phase.left, *]

/-- The host and shutdown do not move the listener. -/
theorem other_step_phase {e : Ev} (other : e.own = false) (hs : step s e = some t) : t.phase = s.phase := by
  cases step_move hs with
  | pops | appends | clears | finishes | raises | closes => rfl
  | _ => cases other

/-- Until it has ended, the listener can take a step: it never waits for the host or for
    shutdown. -/
theorem own_step_due (h : s.phase ≠ .ended) : ∃ e u, e.own = true ∧ step s e = some u := by
  cases hp : s.phase with
  | ended => exact absurd hp h
  | accepting => exact ⟨.accept false, _, rfl, if_pos hp⟩
  | looping k => exact ⟨.guard true, _, rfl, by simp only [step, hp]; rfl⟩
  | reading k => exact ⟨.read none, _, rfl, by simp only [step, hp]; rfl⟩
  | sending => exact ⟨.send false, _, rfl, by simp only [step, hp]; rfl⟩
  | _ => exact ⟨.listener, _, rfl, by simp only [step, listenerStep, hp]; rfl⟩

theorem step_done {e : Ev} (done : s.shutdown = .done) (hs : step s e = some t) : t.shutdown = .done := by
  cases step_move hs with
  | raises early => rw [done] at early; cases early
  | closes => rfl
  | _ => exact done

/-- What may still happen after shutdown uses the listener's steps up. -/
theorem Reach.run_down (h : Reach s) (done : s.shutdown = .done) {es : List Ev}
    (hs : es.foldlM Listener.step s = some t) : Reach t ∧ t.shutdown = .done ∧ es.countP Ev.own + t.phase.left ≤ s.phase.left := by
  induction es generalizing s with
  | nil =>
    cases hs
    exact ⟨h, done, by simp⟩
  | cons e es ih =>
    rw [List.foldlM_cons] at hs
    obtain ⟨u, hu, rest⟩ := Option.bind_eq_some_iff.mp hs
    obtain ⟨ht, hd, hleft⟩ := ih (h.step e hu) (step_done done hu) rest
    refine ⟨ht, hd, ?_⟩
    cases own : e.own with
    | true =>
      have less := own_step_left (h.guarded.raised (by rw [done]; decide)) own hu
      rw [List.countP_cons_of_pos own]
      omega
    | false =>
      have same := other_step_phase own hu
      rw [List.countP_cons_of_neg (by rw [own]; decide)]
      rw [same] at hleft
      exact hleft

/-- What holds at `t` when `es` have happened since `s`. -/
structure WayOut (s : System) (es : List Ev) (t : System) : Prop where
  stopped : t.exchange.stopped = true
  freed : Freed t
  awaited : ∀ k, t.phase.awaited = some k → k ∈ t.closed
  bounded : es.countP Ev.own + t.phase.left ≤ s.phase.left
  due : t.phase ≠ .ended → ∃ e u, e.own = true ∧ step t e = some u

/-- Shutdown leaves the listener nowhere to wait. -/
theorem shutdown_frees_listener (h : Reach s) (done : s.shutdown = .done) {es : List Ev} (hs : es.foldlM step s = some t) :
    WayOut s es t := by
  obtain ⟨ht, hd, bounded⟩ := h.run_down done hs
  have guarded := ht.guarded
  have stopped : t.exchange.stopped = true := guarded.raised (by rw [hd]; decide)
  exact ⟨stopped, guarded.freed hd, fun _ hk => guarded.awaited_closed hd hk, bounded, own_step_due⟩

theorem shutdown_frees_listener_waiting : ∃ s, Reach s ∧ s.shutdown = .done ∧ s.phase = .waiting 0 "help" ∧ s.closed = [0] ∧
    ∃ t, t.phase = .ended ∧ WayOut s [.listener, .pop, .listener, .send false, .listener, .listener, .listener] t := by
  have connected : Reach _ := .step (.accept true) (.step .listener .init rfl) rfl
  have admitted : Reach _ := .step .listener (.step .listener connected rfl) rfl
  have greeted : Reach _ := .step (.send true) (.step .listener admitted rfl) rfl
  have read : Reach _ := .step (.read (some (.line "help"))) (.step (.guard false) greeted rfl) rfl
  have stopped : Reach _ := .step .closeClient (.step .raiseStop (.step .listener read rfl) rfl) rfl
  exact ⟨_, stopped, rfl, rfl, rfl, _, rfl, shutdown_frees_listener stopped rfl rfl⟩

end CommandConsole.Network.Listener
