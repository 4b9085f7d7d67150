/-
  CommandConsole.Console — a console bound to one transport.

  The console owns its transport, the known commands and conversions, the live
  instances, the history and the state it shares with its host's commands. Everything
  runs on the host's tick: no two commands run at once. `log` collects the notices for
  the host, oldest first.

  A new console knows its own five commands and converters and nothing else.
-/

import CommandConsole.Conversion
import CommandConsole.History
import CommandConsole.Registry
import CommandConsole.Settings
import CommandConsole.Transport

namespace CommandConsole

structure Console (h : Host) (τ : Type) where
  transport : τ
  registry : Registry h
  conversions : Conversions h
  scene : Scene h
  history : History
  colors : OutputColors
  toggleKey : String
  quitRequested : Bool
  state : h.State
  log : List Notice

namespace Console

variable {h : Host} {τ : Type}

def create (transport : τ) (settings : Settings) (state : h.State) : Console h τ :=
  { transport := transport, registry := Registry.standard, conversions := Conversions.standard,
    scene := Scene.empty, history := History.create settings.historyCapacity, colors := settings.colors,
    toggleKey := settings.toggleKey, quitRequested := false, state := state, log := [] }

def note (c : Console h τ) (notices : List Notice) : Console h τ := { c with log := c.log ++ notices }

/-! ## Registration -/

def registerCommand (c : Console h τ) (command : Command h) : Console h τ :=
  let (noted, registry) := c.registry.register command
  { c.note noted with registry := registry }

def registerCommands (c : Console h τ) (commands : List (Command h)) : Console h τ :=
  commands.foldl registerCommand c

def registerConverter (c : Console h τ) (t : Target h) (overloads : List (Overload h t)) : Console h τ :=
  { c with conversions := c.conversions.register t overloads }

def spawn (c : Console h τ) (name : String) (p : h.Provider) (object : h.Object p) : Nat × Console h τ :=
  let (id, scene) := c.scene.spawn name p object
  (id, { c with scene := scene })

def despawn (c : Console h τ) (id : Nat) : Bool × Console h τ :=
  let (live, scene) := c.scene.despawn id
  (live, { c with scene := scene })

/-! ## Output -/

variable [Transport τ]

def write (c : Console h τ) (ops : List Output.Op) : Console h τ :=
  { c with transport := Transport.write c.colors ops c.transport }

/-- The lines that greet the user; the last one is for surfaces only. -/
def welcome (toggleKey : String) (surface : Bool) : List Output.Op :=
  [.info "Console has been initialized", .info "Write <b>help</b> for a list of all commands.",
    .info "Write <b>chelp command</b> to get further info on a specific command."] ++
    (if surface then [.info ("Press <b>" ++ toggleKey ++ "</b> to close console window.")] else [])

def start (c : Console h τ) : Console h τ :=
  c.write (welcome c.toggleKey (Transport.hasSurface c.transport))

end Console

end CommandConsole
