/-
  CommandConsole.Terminal — the console on a terminal, from first to last line.

  The demo is installed, the surface shown and the user greeted; then every line of
  the terminal becomes key events, and after each line what is new is drawn. A line
  that only recalls history also shows the recalled entry, dimmed, before the frame.
  The run ends when a command quits or the lines end, with a line break.

  Input is bytes. Lines are cut at line feeds, and reading stops at the first line that
  is not valid text.
-/

import CommandConsole.Console.Keyboard
import CommandConsole.Demo
import CommandConsole.Network.Session
import CommandConsole.Transport.Surface

namespace CommandConsole.Terminal

open Text.Utf8 (Byte)

/-! ## Lines of the terminal -/

/-- The bytes between line feeds; what follows the last one is a line unless it is
    empty. -/
def splitLines (held : List Byte) : List Byte → List (List Byte)
  | [] => if held.isEmpty then [] else [held.reverse]
  | b :: rest => if b = 10 then (10 :: held).reverse :: splitLines [] rest else splitLines (b :: held) rest

/-- A line without its end. A carriage return counts as part of it only before a line
    feed. -/
def dropEnd (line : List Byte) : List Byte :=
  if line.getLast? = some 10 then Network.dropLastIf 13 line.dropLast else line

def readable : List (List Byte) → List String
  | [] => []
  | l :: ls =>
    match Text.Utf8.decode? (dropEnd l) with
    | some s => String.ofList s :: readable ls
    | none => []

def linesOf (input : List Byte) : List String := readable (splitLines [] input)

/-! ## The run -/

abbrev DemoConsole (τ : Type) := Console (Demo.host Host.bare) τ

def create {τ : Type} (settings : Settings) (seed : UInt64) (transport : τ) :
    DemoConsole τ × Except Failure Unit :=
  Demo.install seed (Console.create transport settings (World.demo, ()))

def frame (c : DemoConsole Surface) : String × DemoConsole Surface :=
  let (text, surface) := c.transport.draw
  (text, { c with transport := surface })

def recalled (input : String) : String := "\n\x1b[2m" ++ input ++ "\x1b[22m"

def step (c : DemoConsole Surface) (line : String) : String × DemoConsole Surface :=
  let c := c.handleAll (Keys.events line)
  let shown := if c.transport.visible && Keys.recalls line then recalled c.transport.input else ""
  let c := c.tick.2
  let (drawn, c) := frame c
  (shown ++ drawn, c)

def greet (c : DemoConsole Surface) : String × DemoConsole Surface := frame c.toggle.start

def runLines (c : DemoConsole Surface) : List String → String
  | [] => ""
  | l :: ls =>
    if c.quitRequested then ""
    else
      let (text, c) := step c l
      text ++ runLines c ls

/-- Everything drawn over a run, or why it could not start. -/
def run (settings : Settings) (seed : UInt64) (lines : List String) : Except Failure String :=
  match create settings seed Surface.start with
  | (_, .error f) => .error f
  | (c, .ok ()) =>
    let (first, c) := greet c
    .ok (first ++ runLines c lines ++ "\n")

/-! ## The console on the network -/

/-- What the first client receives from a console served over the network. -/
def serve (settings : Settings) (seed : UInt64) (sent : List Byte) : Except Failure (List Byte) :=
  match create settings seed Network.Link.start with
  | (_, .error f) => .error f
  | (c, .ok ()) => .ok (Network.Session.run settings.network.maxLineLength c.start sent).received

/-! ## The command line -/

/-- How a program ends that did not get the room for its history: with a status of its
    own, or stopped without any. -/
def roomStatus : History.Room → Option Nat
  | .overflow => some 101
  | _ => none

structure Options where
  network : Option Bool
  settingsFile : Option String
  deriving DecidableEq

/-- `--net` and `--local` choose where to serve, anything else names the settings file;
    the last one of each counts. -/
def Options.ofArgs (args : List String) : Options :=
  args.foldl (fun o arg =>
    if arg = "--net" then { o with network := some true }
    else if arg = "--local" then { o with network := some false }
    else { o with settingsFile := some arg }) ⟨none, none⟩

def Options.apply (o : Options) (s : Settings) : Settings :=
  match o.network with
  | some enabled => { s with network := { s.network with enabled := enabled } }
  | none => s

end CommandConsole.Terminal
