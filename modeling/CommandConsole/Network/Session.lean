/-
  CommandConsole.Network.Session — one client from connection to goodbye.

  A client sends all its bytes and then reads what comes back, while the host ticks.
  On connection it gets whatever output is pending; then every line gets one response.
  A line is queued, run by the next tick and answered before the next one is read. A
  line that is too long is answered with an error and not run. The session ends at a
  line that says `exit`, at the end of the bytes, or when the server has been stopped.
-/

import CommandConsole.Console.Dispatch
import CommandConsole.Network.Exchange
import CommandConsole.Network.Framing
import CommandConsole.Network.Response

namespace CommandConsole.Network

open Text.Utf8 (Byte)

def exitCommand : String := "exit"

def tooLongNotice : String := Output.errorSigil ++ "Input line too long." ++ "\n"

structure Session (h : Host) where
  console : Console h Link
  received : List Byte
  /-- How many lines the console has run. -/
  lines : Nat

namespace Session

variable {h : Host}

def update (s : Session h) (f : Exchange → Exchange) : Session h :=
  let link := s.console.transport
  { s with console := { s.console with transport := { link with exchange := f link.exchange } } }

def flush (s : Session h) : Session h :=
  let (text, _) := s.console.transport.exchange.take
  let s := s.update fun e => e.take.2
  { s with received := s.received ++ response text }

/-- Queue a line, let the host run it, and answer it. -/
def answer (s : Session h) (line : String) : Session h :=
  let s := s.update (·.push line)
  let (ran, console) := s.console.tick
  let s := { s with console := console, lines := if ran then s.lines + 1 else s.lines }
  s.flush.update Exchange.replySent

def refuse (s : Session h) : Session h := (s.update (·.append tooLongNotice)).flush

/-- Serve one line of the bytes, and answer what is left of them; `none` when the
    session is over. -/
def next (limit : Nat) (source : Chunks) (s : Session h) : Option (Chunks × Session h) :=
  if s.console.transport.exchange.stopped then none
  else
    match readLine limit source with
    | none => none
    | some (.tooLong, rest) => some (rest, s.refuse)
    | some (.line text, rest) => if text = exitCommand then none else some (rest, s.answer text)

/-- Serve the rest of the bytes; every line takes at least one of them. -/
def serve (limit : Nat) : Nat → Chunks → Session h → Session h
  | 0, _, s => s
  | fuel + 1, source, s =>
    match s.next limit source with
    | none => s
    | some (rest, s) => serve limit fuel rest s

/-- A client has connected, and gets the pending output. -/
def greet (console : Console h Link) : Session h :=
  let s : Session h := { console := console, received := [], lines := 0 }
  if s.console.transport.exchange.stopped then s else s.flush

/-- A line may always have one byte. -/
def lineLimit (limit : Nat) : Nat := max limit 1

def run (limit : Nat) (console : Console h Link) (sent : List Byte) : Session h :=
  (serve (lineLimit limit) (sent.length + 1) (unread sent []) (greet console)).update Exchange.replySent

end Session

end CommandConsole.Network
