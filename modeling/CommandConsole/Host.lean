/-
  CommandConsole.Host — the program a console belongs to.

  A host brings three things. Providers: kinds of object that carry commands; each has
  a name, and its live objects have a type of their own. Custom targets: types of
  arguments beyond the console's own, each with a name and its type of values. And a
  state that its commands share: they read and change it, and conversions may look
  things up in it.

  The console's own targets are colors, vectors and references to named objects.
  `Target.Value` gives each target its type, so that a value converted for one target
  cannot be taken for another's.
-/

import CommandConsole.Color
import CommandConsole.Vector

namespace CommandConsole

structure Host where
  Provider : Type
  Object : Provider → Type
  providerName : Provider → String
  Custom : Type
  CustomValue : Custom → Type
  customName : Custom → String
  State : Type
  [decProvider : DecidableEq Provider]
  [decCustom : DecidableEq Custom]

attribute [instance] Host.decProvider Host.decCustom

namespace Host

/-- The host that brings nothing. -/
def bare : Host where
  Provider := Empty
  Object := Empty.elim
  providerName := Empty.elim
  Custom := Empty
  CustomValue := Empty.elim
  customName := Empty.elim
  State := Unit

end Host

/-- A named object of the host, found when the argument was converted. -/
structure ObjectRef where
  id : Nat
  name : String
  deriving DecidableEq

/-- A type that arguments are converted to. -/
inductive Target (h : Host) where
  | color
  | vec2
  | vec3
  | object
  | custom (t : h.Custom)
  deriving DecidableEq

namespace Target

variable {h : Host}

/-- The values of a target. -/
@[reducible] def Value : Target h → Type
  | color => Color
  | vec2 => Vec2
  | vec3 => Vec3
  | object => ObjectRef
  | custom t => h.CustomValue t

def name : Target h → String
  | color => "Color"
  | vec2 => "Vec2"
  | vec3 => "Vec3"
  | object => "EntityRef"
  | custom t => h.customName t

end Target

end CommandConsole
