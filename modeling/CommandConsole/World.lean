/-
  CommandConsole.World — a small scene of named entities.

  Entities stand in the order they were added and have numbers that are not reused;
  names need not be unique, and a name finds the first entity that has it. An entity is
  added unrotated and at its natural size. Rotation is in degrees. Turning about the
  vertical axis takes the angle modulo a full turn and rounds: it stays below a full turn,
  but for a sum just below zero, which is rounded to a full turn itself.
-/

import CommandConsole.Color
import CommandConsole.Vector

namespace CommandConsole

open Number (Single)

structure Entity where
  id : Nat
  name : String
  position : Vec3
  rotation : Vec3
  scale : Vec3
  color : Color
  deriving DecidableEq

structure World where
  entities : List Entity
  /-- The program counts in 64 bits, which 2^64 additions would exhaust; no world is added to that
      often. -/
  nextId : Nat
  deriving DecidableEq

def fullTurn : Single := Number.Binary.ofInt Number.single 360

/-- Turn about the vertical axis. -/
def Entity.turn (e : Entity) (degrees : Single) : Entity :=
  { e with rotation := { e.rotation with y := (e.rotation.y.add degrees).remEuclid fullTurn } }

namespace World

def empty : World := ⟨[], 0⟩

/-- Add an entity, and answer its number. -/
def add (w : World) (name : String) (position : Vec3) (color : Color) : Nat × World :=
  (w.nextId,
    ⟨w.entities ++ [⟨w.nextId, name, position, Vec3.zero, Vec3.one, color⟩], w.nextId + 1⟩)

/-- The first entity with exactly this name. -/
def named? (w : World) (name : String) : Option Entity := w.entities.find? (·.name == name)

def get? (w : World) (id : Nat) : Option Entity := w.entities.find? (·.id == id)

/-- Change the first entity with a number. -/
def update (w : World) (id : Nat) (f : Entity → Entity) : World :=
  { w with entities := go w.entities }
where
  go : List Entity → List Entity
    | [] => []
    | e :: es => if e.id = id then f e :: es else e :: go es

def size (w : World) : Nat := w.entities.length

/-- A cube on a floor under a lamp. -/
def demo : World :=
  let half : Single := Number.Binary.ofQuotient Number.single false 1 2
  let whole (n : Int) : Single := Number.Binary.ofInt Number.single n
  let w := (empty.add "cube" ⟨whole 0, half, whole 0⟩ Color.white).2
  let w := (w.add "floor" Vec3.zero Color.gray).2
  (w.add "lamp" ⟨whole 2, whole 3, whole (-1)⟩ Color.yellow).2

end World

end CommandConsole
