/-
  CommandConsole.Registry — the known commands, by name.

  There is at most one command of a name: registering one replaces the command that
  had the name, and a notice says whose it was. The commands are kept in the order of
  their names, by code points.

  A command is live while its provider has an instance; the console's own commands
  always are. `listed` and `resolveLive?` show live commands only.
-/

import CommandConsole.Command
import CommandConsole.Scene

namespace CommandConsole

structure Registry (h : Host) where
  commands : List (Command h)

namespace Registry

variable {h : Host}

def empty : Registry h := ⟨[]⟩

/-- Insert by name, in place of a command of the same name. -/
def insert (c : Command h) : List (Command h) → List (Command h)
  | [] => [c]
  | d :: ds =>
    if c.name = d.name then c :: ds
    else if c.name < d.name then c :: d :: ds
    else d :: insert c ds

/-- The command of a name, live or not. -/
def resolve? (r : Registry h) (name : String) : Option (Command h) := r.commands.find? (·.name == name)

/-- Add a command, and note the one it replaces. -/
def register (r : Registry h) (c : Command h) : List Notice × Registry h :=
  let noted := match r.resolve? c.name with
    | some previous => [.replaced c.name previous.providerName]
    | none => []
  (noted, ⟨insert c r.commands⟩)

def registerAll (r : Registry h) : List (Command h) → List Notice × Registry h
  | [] => ([], r)
  | c :: cs =>
    let (noted, r) := r.register c
    let (more, r) := r.registerAll cs
    (noted ++ more, r)

/-- The registry of the console's own commands. -/
def standard : Registry h := (empty.registerAll Command.builtins).2

/-! ## Live commands -/

def isLive (scene : Scene h) (c : Command h) : Bool := c.provider.all scene.isLive

def resolveLive? (r : Registry h) (scene : Scene h) (name : String) : Option (Command h) :=
  (r.resolve? name).filter (isLive scene)

/-- The live commands, in the order of their names. -/
def listed (r : Registry h) (scene : Scene h) : List (Command h) := r.commands.filter (isLive scene)

def size (r : Registry h) : Nat := r.commands.length

end Registry

end CommandConsole
