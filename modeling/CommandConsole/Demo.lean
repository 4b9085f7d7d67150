/-
  CommandConsole.Demo — the commands of the demo scene.

  Two providers share one world with the console. The cube controller turns, scales,
  paints and moves one entity, which it knows by number, and prints its rotation and
  scale; it fails when that entity is gone. The inspector prints any entity. A name is
  converted to a reference when the line is read, by exact lookup in the world.

  The demo can be put on top of another host, whose providers, targets and state stay
  beside the demo's own.

  `install` registers the conversion and both providers' commands first and looks for
  the cube only then; in a world without one it fails with everything registered and
  nothing spawned.
-/

import CommandConsole.Console
import CommandConsole.World

namespace CommandConsole.Demo

open Number (Single)

/-! ## The host -/

inductive Provider where
  | cube
  | inspector
  deriving DecidableEq

/-- What the cube controller keeps: its entity and the state of its random numbers. -/
structure Controller where
  cube : Nat
  seed : UInt64
  deriving DecidableEq

def Provider.Object : Provider → Type
  | cube => Controller
  | inspector => Unit

def Provider.name : Provider → String
  | cube => "CubeController"
  | inspector => "Inspector"

/-- The demo on top of a host. -/
@[reducible] def host (guest : Host) : Host where
  Provider := Provider ⊕ guest.Provider
  Object := Sum.elim Provider.Object guest.Object
  providerName := Sum.elim Provider.name guest.providerName
  Custom := guest.Custom
  CustomValue := guest.CustomValue
  customName := guest.customName
  State := World × guest.State

variable {guest : Host}

def Reply.cube (written : List Output.Op) (state : (host guest).State) (k : Controller)
    (outcome : Except Failure Unit) : Reply (host guest) (.inl .cube) :=
  { written := written, state := state, object := k, outcome := outcome }

/-! ## The cube -/

def cubeGone : Failure := .command "The cube is gone."

/-- Change the cube, if it is still there. -/
def changeCube (f : Entity → Entity) (k : Controller) (state : (host guest).State) :
    Reply (host guest) (.inl .cube) :=
  match state.1.get? k.cube with
  | none => Reply.cube [] state k (.error cubeGone)
  | some _ => Reply.cube [] (state.1.update k.cube f, state.2) k (.ok ())

/-- Change the cube by a converted argument. -/
def changeBy {α : Type} (arg : Except Failure α) (f : α → Entity → Entity) (k : Controller)
    (state : (host guest).State) : Reply (host guest) (.inl .cube) :=
  match arg with
  | .error e => Reply.cube [] state k (.error e)
  | .ok a => changeCube (f a) k state

/-- Print one of the cube's vectors. -/
def showCube (label : String) (f : Entity → Vec3) (k : Controller) (state : (host guest).State) :
    Reply (host guest) (.inl .cube) :=
  match state.1.get? k.cube with
  | none => Reply.cube [] state k (.error cubeGone)
  | some e => Reply.cube [.nextLine, .write label, .bold (f e).render] state k (.ok ())

/-- The next random number from zero up to one, and the state after it. -/
def nextUnit (seed : UInt64) : Single × UInt64 :=
  let seed := seed * 6364136223846793005 + 1
  (Number.Binary.ofScaled Number.single false (seed >>> 40).toNat (-24), seed)

/-- A random opaque color, and the state after it. -/
def randomColor (seed : UInt64) : Color × UInt64 :=
  let top : Single := Number.Binary.ofInt Number.single 255
  let (r, seed) := nextUnit seed
  let (g, seed) := nextUnit seed
  let (b, seed) := nextUnit seed
  (Color.ofChannels (r.mul top) (g.mul top) (b.mul top) top, seed)

/-- A floating-point argument, in single precision. -/
def singleArgument (args : Arguments (host guest)) (i : Nat) : Except Failure Single :=
  (args.float i).map (Number.Binary.convert Number.single)

def cubeCommand (name description : String) (params : List (Param (host guest)))
    (run : Call (host guest) → Controller → (host guest).State → Reply (host guest) (.inl .cube)) :
    Command (host guest) :=
  { name := name, description := description, params := params,
    binding := .handler (.inl .cube) fun call state k => run call k state }

def cubeCommands : List (Command (host guest)) :=
  [cubeCommand "cube_rotate" "Rotates the cube by the given angle." [⟨"degrees", .float, none⟩]
      fun call => changeBy (singleArgument call.args 0) fun degrees e => e.turn degrees,
   cubeCommand "cube_rotation" "Prints the current rotation of the cube." []
      fun _ => showCube "Current rotation is: " (·.rotation),
   cubeCommand "cube_scaling" "Prints the current scale of the cube." []
      fun _ => showCube "Current scale is: " (·.scale),
   cubeCommand "cube_scale" "Scales the cube by the given factor."
      [⟨"factor", .float, some "Factor. 1 is default"⟩]
      fun call => changeBy (singleArgument call.args 0) fun factor e => { e with scale := Vec3.splat factor },
   cubeCommand "cube_random_color" "Randomizes the color of the cube." []
      fun _ k =>
        let (color, seed) := randomColor k.seed
        changeCube (fun e => { e with color := color }) { k with seed := seed },
   cubeCommand "cube_color" "Paints the cube." [⟨"color", .typed .color, some "name, #hex or r,g,b[,a]"⟩]
      fun call => changeBy (call.args.typed .color 0) fun color e => { e with color := color },
   cubeCommand "cube_move" "Moves the cube to a position." [⟨"position", .typed .vec3, some "x,y,z"⟩]
      fun call => changeBy (call.args.typed .vec3 0) fun position e => { e with position := position }]

/-! ## The inspector -/

/-- What is printed of an entity. -/
def report (e : Entity) : List Output.Op :=
  [.lineBold e.name, .line ("  id: " ++ Number.decimal e.id), .line ("  position: " ++ e.position.render),
    .line ("  rotation: " ++ e.rotation.render), .line ("  scale: " ++ e.scale.render), .write "\n  color: ",
    .openColor e.color, .write ("#" ++ e.color.toHex), .closeColor]

def inspect : Handler (host guest) (.inl .inspector) := fun call state object =>
  match call.args.typed .object 0 with
  | .error f => { written := [], state := state, object := object, outcome := .error f }
  | .ok target =>
    match state.1.get? target.id with
    | none => { written := [], state := state, object := object, outcome := .error (.unknownObject target.name) }
    | some e => { written := report e, state := state, object := object, outcome := .ok () }

def inspectorCommands : List (Command (host guest)) :=
  [{ name := "inspect", description := "Prints the transform and color of an entity.",
     params := [⟨"entity", .typed .object, none⟩], binding := .handler (.inl .inspector) inspect }]

def commands : Provider → List (Command (host guest))
  | .cube => cubeCommands
  | .inspector => inspectorCommands

/-! ## Installation -/

/-- Find an entity of the world by its name. -/
def findEntity (state : (host guest).State) (name : String) : Option ObjectRef :=
  (state.1.named? name).map fun e => ⟨e.id, e.name⟩

/-- Register what the demo knows. -/
def register {τ : Type} (c : Console (host guest) τ) : Console (host guest) τ :=
  ((c.registerConverter .object (Convert.objectNamed findEntity)).registerCommands cubeCommands).registerCommands
    inspectorCommands

def install {τ : Type} (seed : UInt64) (c : Console (host guest) τ) :
    Console (host guest) τ × Except Failure Unit :=
  let c := register c
  match c.state.1.named? "cube" with
  | none => (c, .error (.settings "demo scene has no cube"))
  | some cube =>
    let c := (c.spawn "GameController" (.inl .cube) { cube := cube.id, seed := seed : Controller }).2
    let c := (c.spawn "Inspector" (.inl .inspector) ()).2
    (c, .ok ())

end CommandConsole.Demo
