/-
  CommandConsole.Proofs.Moves — the steps of the listener, the host and shutdown as rules.

  `step` computes what an event does. `Move` says the same as rules, one for each thing
  that can happen, with what must hold before it. What every step keeps is proved by going
  through the rules.

  Proved: the rules allow what `step` does and nothing else (`step_eq_some_iff`).
-/

import CommandConsole.Network.Listener

namespace CommandConsole.Network.Listener

open Text.Utf8 (Byte)

inductive Move (s : System) : Ev → System → Prop
  -- The listener looks for a client.
  | findsStop (hp : s.phase = .idle) (stop : s.exchange.stopped = true) : Move s .listener { s with phase := .ended }
  | looks (hp : s.phase = .idle) (go : s.exchange.stopped = false) : Move s .listener { s with phase := .accepting }
  | findsNone (hp : s.phase = .accepting) : Move s (.accept false) { s with phase := .idle }
  | findsClient (hp : s.phase = .accepting) :
    Move s (.accept true) { s with phase := .registering s.nextSocket, nextSocket := s.nextSocket + 1 }
  -- A session begins.
  | fails (k : Nat) (hp : s.phase = .registering k ∨ s.phase = .admitting k) : Move s .fail { s with phase := .leaving k }
  | registers (k : Nat) (hp : s.phase = .registering k) : Move s .listener { s with phase := .admitting k, client := some k }
  | turnsAway (k : Nat) (hp : s.phase = .admitting k) (stop : s.exchange.stopped = true) :
    Move s .listener { s with phase := .leaving k }
  | admits (k : Nat) (hp : s.phase = .admitting k) (go : s.exchange.stopped = false) :
    Move s .listener { s with phase := .taking k none .again }
  -- It takes output and sends it.
  | takes (k : Nat) (line : Option String) (next : Next) (hp : s.phase = .taking k line next) :
    Move s .listener { s with
      phase := .sending k line (response s.exchange.outbound) next
      exchange := s.exchange.clear
      journal := { s.journal with made := s.journal.made ++ answerTo k line (response s.exchange.outbound) } }
  | sends (k : Nat) (line : Option String) (bytes : List Byte) (next : Next) (hp : s.phase = .sending k line bytes next) :
    Move s (.send true) (sent s k line bytes next)
  | losesClient (k : Nat) (line : Option String) (bytes : List Byte) (next : Next) (hp : s.phase = .sending k line bytes next) :
    Move s (.send false) { s with phase := .leaving k }
  -- It reads a line.
  | breaksOff (k : Nat) (gone : Bool) (hp : s.phase = .looping k) (quits : s.exchange.stopped || gone) :
    Move s (.guard gone) { s with phase := .leaving k }
  | goesOn (k : Nat) (hp : s.phase = .looping k) (go : s.exchange.stopped = false) :
    Move s (.guard false) { s with phase := .reading k }
  | hangsUp (k : Nat) (got : Option Incoming) (hp : s.phase = .reading k) (quits : got = none ∨ got = some (.line exitCommand)) :
    Move s (.read got) { s with phase := .leaving k }
  | skips (k : Nat) (hp : s.phase = .reading k) : Move s (.read (some .tooLong)) { s with phase := .refusing k }
  | refuses (k : Nat) (hp : s.phase = .refusing k) :
    Move s .listener { s with phase := .taking k none .again, exchange := s.exchange.append tooLongNotice }
  | reads (k : Nat) (line : String) (hp : s.phase = .reading k) (on : line ≠ exitCommand) :
    Move s (.read (some (.line line)))
      { s with phase := .queuing k line, journal := { s.journal with read := s.journal.read ++ [⟨k, line⟩] } }
  -- It waits until the line has run.
  | queues (k : Nat) (line : String) (hp : s.phase = .queuing k line) :
    Move s .listener { s with
      phase := .waiting k line
      exchange := s.exchange.push line
      journal := { s.journal with pushed := s.journal.pushed ++ [⟨k, line⟩] } }
  | waits (k : Nat) (line : String) (hp : s.phase = .waiting k line) (go : (s.exchange.isIdle || s.exchange.stopped) = false) :
    Move s .listener { s with phase := .waiting k line }
  | hasWaited (k : Nat) (line : String) (hp : s.phase = .waiting k line) (enough : s.exchange.isIdle || s.exchange.stopped) :
    Move s .listener { s with phase := .taking k (some line) .acknowledge }
  | acknowledges (k : Nat) (hp : s.phase = .acknowledging k) :
    Move s .listener { s with phase := .looping k, exchange := s.exchange.replySent }
  -- A session ends.
  | leaves (k : Nat) (hp : s.phase = .leaving k) : Move s .listener { s with phase := .settling, client := none }
  | settles (hp : s.phase = .settling) : Move s .listener { s with phase := .idle, exchange := s.exchange.replySent }
  -- The host runs a line.
  | pops (line : String) (rest : List String) (hr : s.running = none) (hq : s.exchange.queue = line :: rest) :
    Move s .pop { s with
      exchange := { s.exchange with queue := rest, inFlight := true }
      running := some line
      journal := { s.journal with popped := s.journal.popped ++ [line], own := "" } }
  | appends (text : String) :
    Move s (.append text)
      { s with exchange := s.exchange.append text, journal := { s.journal with own := s.journal.own ++ text } }
  | clears : Move s .clear { s with exchange := s.exchange.clear, journal := { s.journal with own := "" } }
  | finishes (line : String) (hr : s.running = some line) :
    Move s .finish { s with
      exchange := s.exchange.finish
      running := none
      journal := { s.journal with finished := s.journal.finished ++ [(line, s.journal.own)] } }
  -- Shutdown.
  | raises (early : s.shutdown = .notAsked) :
    Move s .raiseStop { s with shutdown := .flagRaised, exchange := s.exchange.stop }
  | closes (asked : s.shutdown = .flagRaised) :
    Move s .closeClient { s with shutdown := .done, client := none, closed := s.closed ++ s.client.toList }

variable {s t : System}

theorem listenerStep_move (hs : listenerStep s = some t) : Move s .listener t := by
  cases hp : s.phase with
  | idle =>
    simp only [listenerStep, hp, Option.some.injEq] at hs
    subst hs
    split
    · exact .findsStop hp ‹_›
    · exact .looks hp (Bool.eq_false_iff.mpr ‹_›)
  | registering k =>
    simp only [listenerStep, hp, Option.some.injEq] at hs
    exact hs ▸ .registers k hp
  | admitting k =>
    simp only [listenerStep, hp, Option.some.injEq] at hs
    subst hs
    split
    · exact .turnsAway k hp ‹_›
    · exact .admits k hp (Bool.eq_false_iff.mpr ‹_›)
  | taking k line next =>
    simp only [listenerStep, hp, Option.some.injEq] at hs
    exact hs ▸ .takes k line next hp
  | refusing k =>
    simp only [listenerStep, hp, Option.some.injEq] at hs
    exact hs ▸ .refuses k hp
  | queuing k line =>
    simp only [listenerStep, hp, Option.some.injEq] at hs
    exact hs ▸ .queues k line hp
  | waiting k line =>
    simp only [listenerStep, hp, Option.some.injEq] at hs
    subst hs
    split
    · exact .hasWaited k line hp ‹_›
    · exact .waits k line hp (Bool.eq_false_iff.mpr ‹_›)
  | acknowledging k =>
    simp only [listenerStep, hp, Option.some.injEq] at hs
    exact hs ▸ .acknowledges k hp
  | leaving k =>
    simp only [listenerStep, hp, Option.some.injEq] at hs
    exact hs ▸ .leaves k hp
  | settling =>
    simp only [listenerStep, hp, Option.some.injEq] at hs
    exact hs ▸ .settles hp
  | accepting | sending | looping | reading | ended => simp [listenerStep, hp] at hs

theorem read_move {k : Nat} (hp : s.phase = .reading k) (got : Option Incoming) : Move s (.read got) (received s k got) := by
  cases got with
  | none => exact .hangsUp k none hp (.inl rfl)
  | some got =>
    cases got with
    | tooLong => exact .skips k hp
    | line text =>
      simp only [received]
      split
      · rename_i exits
        exact exits ▸ .hangsUp k _ hp (.inr rfl)
      · exact .reads k text hp ‹_›

theorem step_move {e : Ev} (hs : step s e = some t) : Move s e t := by
  cases e with
  | listener => exact listenerStep_move hs
  | accept connected =>
    simp only [step] at hs
    split at hs
    · cases hs
      cases connected with
      | true => exact .findsClient ‹_›
      | false => exact .findsNone ‹_›
    · cases hs
  | fail =>
    simp only [step] at hs
    split at hs
    · cases hs
      exact .fails _ (.inl ‹_›)
    · cases hs
      exact .fails _ (.inr ‹_›)
    · cases hs
  | guard gone =>
    simp only [step] at hs
    split at hs
    · cases hs
      split
      · exact .breaksOff _ gone ‹_› ‹_›
      · rename_i k hp on
        obtain ⟨go, here⟩ := Bool.or_eq_false_iff.mp (Bool.eq_false_iff.mpr on)
        exact here ▸ .goesOn k hp go
    · cases hs
  | read got =>
    simp only [step] at hs
    split at hs
    · cases hs
      exact read_move ‹_› got
    · cases hs
  | send ok =>
    simp only [step] at hs
    split at hs
    · cases hs
      cases ok with
      | true => exact .sends _ _ _ _ ‹_›
      | false => exact .losesClient _ _ _ _ ‹_›
    · cases hs
  | pop =>
    simp only [step] at hs
    split at hs
    · rename_i line e hr hq
      cases hs
      cases queue : s.exchange.queue with
      | nil => simp [Exchange.pop, queue] at hq
      | cons first rest =>
        simp only [Exchange.pop, queue, Prod.mk.injEq, Option.some.injEq] at hq
        obtain ⟨rfl, rfl⟩ := hq
        exact .pops first rest hr queue
    · cases hs
  | append text =>
    cases hs
    exact .appends text
  | clear =>
    cases hs
    exact .clears
  | finish =>
    obtain ⟨line, hr, rfl⟩ := Option.map_eq_some_iff.mp hs
    exact .finishes line hr
  | raiseStop =>
    simp only [step] at hs
    split at hs
    · cases hs
      exact .raises ‹_›
    · cases hs
  | closeClient =>
    simp only [step] at hs
    split at hs
    · cases hs
      exact .closes ‹_›
    · cases hs

theorem step_eq_some_iff {e : Ev} : step s e = some t ↔ Move s e t := by
  refine ⟨step_move, fun h => ?_⟩
  cases h with
  | fails k hp =>
    rcases hp with hp | hp
    · simp [step, hp]
    · simp [step, hp]
  | hangsUp k got hp quits =>
    rcases quits with rfl | rfl
    · simp [step, hp, received]
    · simp [step, hp, received]
  | pops line rest hr hq => simp [step, hr, hq, Exchange.pop]
  | _ => simp [step, listenerStep, Exchange.take, received, *]

end CommandConsole.Network.Listener
