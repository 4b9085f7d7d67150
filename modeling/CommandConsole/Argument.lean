/-
  CommandConsole.Argument — declared parameters and converted arguments.

  A parameter is a truth value, a whole number, a floating-point number, text, or a
  value of a target. `coerce` reads the first four straight from a token: numbers and
  truth values with blanks around them, text as it stands. A command asks for its
  arguments by position and type; a whole number also answers for a floating-point
  one, and every other mismatch is a failure that shows the value.
-/

import CommandConsole.Failure
import CommandConsole.Host
import CommandConsole.Text.Quoted

namespace CommandConsole

open Number (Double decimal)

inductive ParamType (h : Host) where
  | bool
  | int
  | float
  | text
  | typed (t : Target h)
  deriving DecidableEq

def ParamType.name {h : Host} : ParamType h → String
  | bool => "bool"
  | int => "int"
  | float => "float"
  | text => "string"
  | typed t => t.name

inductive Argument (h : Host) where
  | bool (v : Bool)
  | int (v : Int)
  | float (v : Double)
  | text (v : String)
  | typed (t : Target h) (v : t.Value)

namespace Argument

variable {h : Host}

/-- The argument as it is shown to a developer. -/
def inspect : Argument h → String
  | bool v => "Bool(" ++ (if v then "true" else "false") ++ ")"
  | int v => "Int(" ++ Number.decimalInt v ++ ")"
  | float v => "Float(" ++ Number.shortest v ++ ")"
  | text v => "Text(" ++ Text.quoted v ++ ")"
  | typed _ _ => "Typed(..)"

/-! ## Reading a token -/

def bool? (token : List Char) : Option Bool :=
  let t := Text.trimChars token
  if Text.sameIgnoringCase t "true".toList || t == ['1'] then some true
  else if Text.sameIgnoringCase t "false".toList || t == ['0'] then some false
  else none

/-- Read a token for a parameter that needs no conversion. `none` for a target. -/
def coerce (type : ParamType h) (token : String) : Option (Except Failure (Argument h)) :=
  let found : Option (Argument h) → Option (Except Failure (Argument h)) := fun a =>
    some (match a with
      | some a => .ok a
      | none => .error .badArgument)
  match type with
  | .bool => found ((bool? token.toList).map .bool)
  | .int => found ((Number.integer? (Text.trimChars token.toList)).map .int)
  | .float => found ((Number.float? Number.double (Text.trimChars token.toList)).map .float)
  | .text => found (some (.text token))
  | .typed _ => none

end Argument

/-! ## Asking for arguments -/

abbrev Arguments (h : Host) := List (Argument h)

namespace Arguments

variable {h : Host}

def mismatch (i : Nat) (wanted : String) (got : Argument h) : Failure :=
  .command ("argument " ++ decimal i ++ " is not a " ++ wanted ++ ": " ++ got.inspect)

def nth (args : Arguments h) (i : Nat) : Except Failure (Argument h) :=
  match args[i]? with
  | some a => .ok a
  | none => .error (.command ("missing argument " ++ decimal i))

def bool (args : Arguments h) (i : Nat) : Except Failure Bool :=
  args.nth i >>= fun
    | .bool v => .ok v
    | other => .error (mismatch i "bool" other)

def int (args : Arguments h) (i : Nat) : Except Failure Int :=
  args.nth i >>= fun
    | .int v => .ok v
    | other => .error (mismatch i "int" other)

/-- A floating-point argument; a whole number is widened. -/
def float (args : Arguments h) (i : Nat) : Except Failure Double :=
  args.nth i >>= fun
    | .float v => .ok v
    | .int v => .ok (Number.Binary.ofInt Number.double v)
    | other => .error (mismatch i "float" other)

def text (args : Arguments h) (i : Nat) : Except Failure String :=
  args.nth i >>= fun
    | .text v => .ok v
    | other => .error (mismatch i "string" other)

/-- An argument converted for a target. -/
def typed (args : Arguments h) (t : Target h) (i : Nat) : Except Failure t.Value :=
  args.nth i >>= fun
    | .typed u v =>
      if e : u = t then .ok (e ▸ v)
      else .error (.command ("argument " ++ decimal i ++ " is not a " ++ t.name))
    | other => .error (mismatch i t.name other)

end Arguments

end CommandConsole
