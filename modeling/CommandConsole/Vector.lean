/-
  CommandConsole.Vector — points and extents with two or three components.

  A component is a single-precision word. A vector is shown between parentheses with
  one digit after each point.
-/

import CommandConsole.Number.Written

namespace CommandConsole

open Number (Single oneDecimal)

structure Vec2 where
  x : Single
  y : Single
  deriving DecidableEq

structure Vec3 where
  x : Single
  y : Single
  z : Single
  deriving DecidableEq

namespace Vec2

/-- The same value in both components. -/
def splat (v : Single) : Vec2 := ⟨v, v⟩

def render (v : Vec2) : String := "(" ++ oneDecimal v.x ++ ", " ++ oneDecimal v.y ++ ")"

end Vec2

namespace Vec3

/-- The same value in all components. -/
def splat (v : Single) : Vec3 := ⟨v, v, v⟩

def zero : Vec3 := splat (Number.Binary.zero Number.single false)

def one : Vec3 := splat (Number.Binary.ofInt Number.single 1)

def render (v : Vec3) : String :=
  "(" ++ oneDecimal v.x ++ ", " ++ oneDecimal v.y ++ ", " ++ oneDecimal v.z ++ ")"

end Vec3

end CommandConsole
