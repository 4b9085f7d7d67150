/-
  CommandConsole.Network.Exchange — what the listener and the console share.

  The listener puts lines into the queue and takes output out; the console takes lines
  out of the queue, marks the one it works on as in flight, and appends output. A reply
  is pending from the moment a line is queued until its response has been sent. Each
  function here is one atomic step.

  `Link` is the console's end of it: a plain display without a surface, whose lines
  come from the queue. Its input field is its own.
-/

import CommandConsole.Transport

namespace CommandConsole.Network

structure Exchange where
  queue : List String
  inFlight : Bool
  replyPending : Bool
  outbound : String
  stopped : Bool
  deriving DecidableEq

namespace Exchange

def start : Exchange := ⟨[], false, false, "", false⟩

/-- Queue a line of the client. -/
def push (e : Exchange) (line : String) : Exchange :=
  { e with queue := e.queue ++ [line], replyPending := true }

/-- Take the next line to work on it. -/
def pop (e : Exchange) : Option String × Exchange :=
  match e.queue with
  | [] => (none, e)
  | line :: rest => (some line, { e with queue := rest, inFlight := true })

/-- The line in flight is done. -/
def finish (e : Exchange) : Exchange := { e with inFlight := false }

/-- Nothing queued and nothing in flight. -/
def isIdle (e : Exchange) : Bool := e.queue.isEmpty && !e.inFlight

def replySent (e : Exchange) : Exchange := { e with replyPending := false }

def append (e : Exchange) (text : String) : Exchange := { e with outbound := e.outbound ++ text }

def clear (e : Exchange) : Exchange := { e with outbound := "" }

/-- Take all output at once. -/
def take (e : Exchange) : String × Exchange := (e.outbound, e.clear)

def stop (e : Exchange) : Exchange := { e with stopped := true }

end Exchange

/-- The console's end of an exchange. -/
structure Link where
  exchange : Exchange
  input : String
  deriving DecidableEq

def Link.start : Link := ⟨Exchange.start, ""⟩

instance : Transport Link where
  input := Link.input
  setInput text l := { l with input := text }
  append text l := { l with exchange := l.exchange.append text }
  clearOutput l := { l with exchange := l.exchange.clear }
  style _ := .plain
  poll l := let (line, e) := l.exchange.pop; (line, { l with exchange := e })
  handled l := { l with exchange := l.exchange.finish }

instance : LawfulTransport Link where
  output l := l.exchange.outbound
  output_append _ _ := rfl
  input_append _ _ := rfl
  isVisible_append _ _ := rfl

end CommandConsole.Network
