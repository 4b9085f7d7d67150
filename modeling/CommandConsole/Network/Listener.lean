/-
  CommandConsole.Network.Listener — the listener and the host, step by step.

  Actors. The listener accepts one client at a time, registers its socket, answers
  with the pending output, and then over and over reads a line, queues it, waits until
  the console has run it and sends what it wrote. The host takes lines out of the
  queue, writes while it runs them, and finishes them. Shutdown raises the stop flag
  and then takes the registered socket and closes it. Each event is one atomic step of
  one of the three; they interleave freely.

  The listener looks at the stop flag before it accepts, after it has registered a
  socket, before every read and while it waits. What the outside decides is part of
  the event: whether a client connects and its socket can be set up, what a read
  yields, whether a write succeeds, whether the client is gone.

  `step` answers nothing when the event is not due in that state. The journal keeps
  what was read and what was queued in which session, what the host ran and what each
  run left in the output, the answers that were made and those that went out. A session
  is known by its socket, and has ended when the listener is done with that socket.

  Before it shuts down, the host may wait for the last reply. It looks in turn whether a
  reply is pending and whether the listener is still there, until one of them says no or
  its time is up.
-/

import CommandConsole.Network.Exchange
import CommandConsole.Network.Framing
import CommandConsole.Network.Response
import CommandConsole.Network.Session

namespace CommandConsole.Network.Listener

open Text.Utf8 (Byte)

inductive Next where
  | again
  | acknowledge
  deriving DecidableEq

/-- What the listener is about to do. `k` is the socket of its client. -/
inductive Phase where
  | idle
  | accepting
  | registering (k : Nat)
  | admitting (k : Nat)
  /-- Take the output, in answer to a line or to none. -/
  | taking (k : Nat) (line : Option String) (next : Next)
  | sending (k : Nat) (line : Option String) (bytes : List Byte) (next : Next)
  | looping (k : Nat)
  | reading (k : Nat)
  | refusing (k : Nat)
  | queuing (k : Nat) (line : String)
  | waiting (k : Nat) (line : String)
  | acknowledging (k : Nat)
  | leaving (k : Nat)
  | settling
  | ended
  deriving DecidableEq

/-- The socket the listener is busy with. -/
def Phase.socket : Phase → Option Nat
  | .registering k | .admitting k | .taking k .. | .sending k .. | .looping k | .reading k | .refusing k | .queuing k _
  | .waiting k _ | .acknowledging k | .leaving k => some k
  | .idle | .accepting | .settling | .ended => none

inductive Shutdown where
  | notAsked
  | flagRaised
  | done
  deriving DecidableEq

structure Request where
  session : Nat
  line : String
  deriving DecidableEq

structure Answer where
  request : Request
  bytes : List Byte
  deriving DecidableEq

structure Journal where
  read : List Request
  pushed : List Request
  popped : List String
  /-- What the line that runs has left in the output so far. -/
  own : String
  finished : List (String × String)
  made : List Answer
  sent : List Answer
  deriving DecidableEq

def Journal.start : Journal := ⟨[], [], [], "", [], [], []⟩

structure System where
  exchange : Exchange
  phase : Phase
  running : Option String
  /-- The socket that shutdown would close. -/
  client : Option Nat
  closed : List Nat
  nextSocket : Nat
  shutdown : Shutdown
  journal : Journal
  deriving DecidableEq

def start : System := ⟨Exchange.start, .idle, none, none, [], 0, .notAsked, Journal.start⟩

def System.Over (s : System) (k : Nat) : Prop := k < s.nextSocket ∧ s.phase.socket ≠ some k

inductive Ev where
  /-- The listener's next step, where nothing is open. -/
  | listener
  | accept (connected : Bool)
  /-- The socket of a new client cannot be set up. -/
  | fail
  | guard (gone : Bool)
  /-- A read ends: with a line, at the end of the stream, or with an error (`none`). -/
  | read (got : Option Incoming)
  | send (ok : Bool)
  | pop
  | append (text : String)
  | clear
  | finish
  | raiseStop
  | closeClient
  deriving DecidableEq

/-- The answer to a line; the output sent on connection and after a refused line
    answers none. -/
def answerTo (k : Nat) (line : Option String) (bytes : List Byte) : List Answer :=
  line.toList.map fun line => ⟨⟨k, line⟩, bytes⟩

def listenerStep (s : System) : Option System :=
  match s.phase with
  | .idle => some { s with phase := if s.exchange.stopped then .ended else .accepting }
  | .registering k => some { s with phase := .admitting k, client := some k }
  | .admitting k =>
    some { s with phase := if s.exchange.stopped then .leaving k else .taking k none .again }
  | .taking k line next =>
    let (text, e) := s.exchange.take
    some { s with
      phase := .sending k line (response text) next
      exchange := e
      journal := { s.journal with made := s.journal.made ++ answerTo k line (response text) } }
  | .refusing k =>
    some { s with phase := .taking k none .again, exchange := s.exchange.append tooLongNotice }
  | .queuing k line =>
    some { s with
      phase := .waiting k line
      exchange := s.exchange.push line
      journal := { s.journal with pushed := s.journal.pushed ++ [⟨k, line⟩] } }
  | .waiting k line =>
    some { s with
      phase := if s.exchange.isIdle || s.exchange.stopped then .taking k (some line) .acknowledge
        else .waiting k line }
  | .acknowledging k => some { s with phase := .looping k, exchange := s.exchange.replySent }
  | .leaving _ => some { s with phase := .settling, client := none }
  | .settling => some { s with phase := .idle, exchange := s.exchange.replySent }
  | _ => none

def sent (s : System) (k : Nat) (line : Option String) (bytes : List Byte) (next : Next) : System :=
  { s with
    phase := match next with
      | .again => .looping k
      | .acknowledge => .acknowledging k
    journal := { s.journal with sent := s.journal.sent ++ answerTo k line bytes } }

def received (s : System) (k : Nat) : Option Incoming → System
  | none => { s with phase := .leaving k }
  | some .tooLong => { s with phase := .refusing k }
  | some (.line text) =>
    if text = exitCommand then { s with phase := .leaving k }
    else { s with phase := .queuing k text, journal := { s.journal with read := s.journal.read ++ [⟨k, text⟩] } }

def step (s : System) : Ev → Option System
  | .listener => listenerStep s
  | .accept connected =>
    if s.phase = .accepting then
      some (if connected then { s with phase := .registering s.nextSocket, nextSocket := s.nextSocket + 1 }
        else { s with phase := .idle })
    else none
  | .fail =>
    match s.phase with
    | .registering k => some { s with phase := .leaving k }
    | .admitting k => some { s with phase := .leaving k }
    | _ => none
  | .guard gone =>
    match s.phase with
    | .looping k => some { s with phase := if s.exchange.stopped || gone then .leaving k else .reading k }
    | _ => none
  | .read got =>
    match s.phase with
    | .reading k => some (received s k got)
    | _ => none
  | .send ok =>
    match s.phase with
    | .sending k line bytes next => some (if ok then sent s k line bytes next else { s with phase := .leaving k })
    | _ => none
  | .pop =>
    match s.running, s.exchange.pop with
    | none, (some line, e) =>
      some { s with
        exchange := e
        running := some line
        journal := { s.journal with popped := s.journal.popped ++ [line], own := "" } }
    | _, _ => none
  | .append text =>
    some { s with
      exchange := s.exchange.append text
      journal := { s.journal with own := s.journal.own ++ text } }
  | .clear => some { s with exchange := s.exchange.clear, journal := { s.journal with own := "" } }
  | .finish =>
    s.running.map fun line =>
      { s with
        exchange := s.exchange.finish
        running := none
        journal := { s.journal with finished := s.journal.finished ++ [(line, s.journal.own)] } }
  | .raiseStop =>
    if s.shutdown = .notAsked then some { s with shutdown := .flagRaised, exchange := s.exchange.stop } else none
  | .closeClient =>
    if s.shutdown = .flagRaised then
      some { s with shutdown := .done, client := none, closed := s.closed ++ s.client.toList }
    else none

inductive Reach : System → Prop
  | init : Reach start
  | step {s t : System} (e : Ev) : Reach s → step s e = some t → Reach t

/-! ## Waiting for the last reply -/

/-- What the host is about to do while it waits for the last reply. -/
inductive Wait where
  | asking
  | checking
  /-- The wait is over, and whether it was in time. -/
  | finished (drained : Bool)
  deriving DecidableEq

inductive WaitEv where
  | look
  /-- The host's time is up, or it tries again. -/
  | check (expired : Bool)
  | other (e : Ev)
  deriving DecidableEq

/-- The host waits, and everything else goes on. -/
def waitStep : System × Wait → WaitEv → Option (System × Wait)
  | (s, .asking), .look => some (s, if s.exchange.replyPending then .checking else .finished true)
  | (s, .checking), .check expired =>
    some (s, if s.phase = .ended then .finished true else if expired then .finished false else .asking)
  | (s, w), .other e => (step s e).map (·, w)
  | _, _ => none

end CommandConsole.Network.Listener
