/-
  CommandConsole.Main — the demo program.

  The settings come from the file named on the command line, or else from the file that
  the environment variable names, or else are the standard ones. Then the demo is
  served on this terminal or over the network until a command quits. Only reading,
  drawing and sending happen here; what a line does is decided by `Terminal` and
  `Network.Session`.
-/

import CommandConsole.Settings.File
import CommandConsole.Terminal
import Std.Async.DNS
import Std.Async.TCP

namespace CommandConsole.Program

open Text.Utf8 (Byte)
open Std.Async.TCP (Socket.Client Socket.Server)

/-- The environment variable that names the settings file. -/
def settingsVariable : String := "DEVCON_CONFIG"

def orFail {α : Type} : Except Failure α → IO α
  | .ok a => pure a
  | .error f => throw (IO.userError f.message)

def readSettings (options : Terminal.Options) : IO Settings := do
  let fromEnvironment ← IO.getEnv settingsVariable
  match options.settingsFile <|> fromEnvironment with
  | none => return options.apply Settings.standard
  | some path => return options.apply (← orFail (Settings.ofText (← IO.FS.readFile path)))

/-- Print the notices of the console, and empty its log. -/
def report {h : Host} {τ : Type} (c : Console h τ) : IO (Console h τ) := do
  c.log.forM fun n => IO.eprintln n.text
  return { c with log := [] }

/-! ## On this terminal -/

/-- The bytes of the next line with its end, or what is left of the input. -/
partial def readLine (input : IO.FS.Stream) (held : List Byte) : IO (List Byte) := do
  match (← input.read 1).toList with
  | [] => return held.reverse
  | b :: _ => if b = Network.lineFeed then return (b :: held).reverse else readLine input (b :: held)

def draw (output : IO.FS.Stream) (text : String) : IO Unit := do
  output.putStr text
  output.flush

partial def converse (input output : IO.FS.Stream) (c : Terminal.DemoConsole Surface) : IO Unit := do
  if c.quitRequested then return
  match Terminal.linesOf (← readLine input []) with
  | [] => return
  | line :: _ =>
    let (drawn, c) := Terminal.step c line
    draw output drawn
    converse input output (← report c)

def runTerminal (settings : Settings) (seed : UInt64) : IO Unit := do
  let (c, installed) := Terminal.create settings seed Surface.start
  orFail installed
  let output ← IO.getStdout
  let (drawn, c) := Terminal.greet c
  draw output drawn
  converse (← IO.getStdin) output c
  draw output "\n"

/-! ## Over the network -/

abbrev DemoSession := Network.Session (Demo.host Host.bare)

def resolveAddress (network : NetworkSettings) : IO Std.Net.SocketAddress := do
  let found : Array Std.Net.IPAddr ←
    (Std.Async.DNS.getAddrInfo network.bindAddress (Number.decimal network.port)).block
  match found.toList with
  | .v4 addr :: _ => return .v4 ⟨addr, network.port.toUInt16⟩
  | .v6 addr :: _ => return .v6 ⟨addr, network.port.toUInt16⟩
  | [] => throw (IO.userError ("no such address: " ++ network.socketAddress))

/-- Send what the session has for its client, and answer whether it got there. -/
def deliver (client : Socket.Client) (s : DemoSession) : IO (Bool × DemoSession) := do
  let sent ← try (client.send ⟨s.received.toArray⟩).block; pure true catch _ => pure false
  return (sent, { s with console := ← report s.console, received := [] })

/-- The next bytes of the client; `none` at their end or when the client is gone. -/
def receive (client : Socket.Client) : IO (Option (List Byte)) := do
  let bytes ← try (client.recv? 4096).block catch _ => pure none
  return bytes.map (·.toList)

/-- Serve the lines that have arrived whole, and then wait for more. Of a line that is
    too long already, only as much is kept as shows it. -/
partial def attend (limit : Nat) (client : Socket.Client) (held : List Byte) :
    Bool × DemoSession → IO DemoSession
  | (false, s) => return s
  | (true, s) => do
    if s.console.quitRequested then return s
    let more ← if held.contains Network.lineFeed then pure none else receive client
    match more with
    | some bytes => attend limit client (held.take (limit + 2) ++ bytes) (true, s)
    | none =>
      match s.next limit (Network.unread held []) with
      | none => return s
      | some (rest, s) => attend limit client rest.flatten (← deliver client s)

def serveClient (limit : Nat) (client : Socket.Client) (c : Terminal.DemoConsole Network.Link) :
    IO DemoSession := do
  let s ← attend limit client [] (← deliver client (Network.Session.greet c))
  try client.shutdown.block catch _ => pure ()
  return s.update Network.Exchange.replySent

/-- One client after the other, until a command quits. -/
partial def serveClients (limit : Nat) (server : Socket.Server) (c : Terminal.DemoConsole Network.Link) :
    IO Unit := do
  if c.quitRequested then return
  let client ← server.accept.block
  let s ← serveClient limit client c
  serveClients limit server s.console

def runNetwork (settings : Settings) (seed : UInt64) : IO Unit := do
  let address ← resolveAddress settings.network
  let server ← Socket.Server.mk
  server.bind address
  server.listen 128
  let (c, installed) := Terminal.create settings seed Network.Link.start
  orFail installed
  IO.eprintln ("Console server listening on " ++ settings.network.socketAddress)
  serveClients (Network.Session.lineLimit settings.network.maxLineLength) server (← report c.start)

/-- The exit status that stands for a stopped program. -/
def stoppedStatus : Nat := 134

/-- Runs the program, and answers its exit status. -/
def run (args : List String) : IO UInt32 := do
  let settings ← readSettings (Terminal.Options.ofArgs args)
  let seed := (← IO.monoNanosNow).toUInt64
  let room := History.room History.addressSpace settings.historyCapacity
  if room ≠ .granted then
    IO.eprintln "Error: no room for the history"
    return ((Terminal.roomStatus room).getD stoppedStatus).toUInt32
  if settings.network.enabled then runNetwork settings seed else runTerminal settings seed
  return 0

end CommandConsole.Program

/-- Exits with 1 if the program could not start. -/
def main (args : List String) : IO UInt32 := do
  try
    CommandConsole.Program.run args
  catch e =>
    IO.eprintln ("Error: " ++ toString e)
    return 1
