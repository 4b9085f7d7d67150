/-
  CommandConsole.Conversion — from tokens to values of a target.

  A target has overloads, each for one number of tokens. Registering a converter
  appends its overloads after those already there, also when they take the same number
  of tokens; a target counts as known from its first converter on, even one without
  overloads. A conversion runs the first overload for the number of tokens given, and
  says so in a notice if there were others. As with handlers, how an overload is run is
  left open (`convertIn`, `convertTokenIn`); `convert` and `convertToken` run it plainly.

  A parameter takes one token. For a target, `convertToken` cuts the token at commas
  and converts the trimmed pieces; when that answers that no overload fits and there
  were commas, it converts the token whole. The answer decides, wherever it came from:
  an overload that itself reports a missing overload also gets the token whole.
  `convertAll` converts the tokens in order, up to the first failure, and reports every
  failure alike.

  The console's own converters: a color is four or three channels, or one name or
  hexadecimal form; a vector is all its components, or one for all, and a point may
  leave out its third component. A reference to an object is found by the host.
-/

import CommandConsole.Argument
import CommandConsole.Notice

namespace CommandConsole

open Number (Single decimal)

/-- A conversion of a fixed number of tokens. -/
structure Overload (h : Host) (t : Target h) where
  arity : Nat
  run : h.State → List String → Except Failure t.Value

/-- The overloads of each target, in the order of their registration. -/
structure Conversions (h : Host) where
  overloads : (t : Target h) → Option (List (Overload h t))

namespace Conversions

variable {h : Host}

def empty : Conversions h := ⟨fun _ => none⟩

/-- Append the overloads of one converter. -/
def register (c : Conversions h) (t : Target h) (added : List (Overload h t)) : Conversions h :=
  ⟨fun u => if e : t = u then some ((c.overloads u).getD [] ++ e ▸ added) else c.overloads u⟩

def knows (c : Conversions h) (t : Target h) : Bool := (c.overloads t).isSome

/-- The overloads for a number of tokens. -/
def candidates (c : Conversions h) (t : Target h) (arity : Nat) : List (Overload h t) :=
  ((c.overloads t).getD []).filter (·.arity == arity)

/-- What a conversion of so many tokens notes. -/
def notices (c : Conversions h) (t : Target h) (arity : Nat) : List Notice :=
  let found := (c.candidates t arity).length
  if 1 < found then [.severalConversions found t.name arity] else []

/-- An overload, run on some tokens. -/
structure Attempt (h : Host) (t : Target h) where
  overload : Overload h t
  tokens : List String

def plainly {t : Target h} (state : h.State) (a : Attempt h t) : Id (Except Failure t.Value) := a.overload.run state a.tokens

/-- The pieces of a token between its commas, trimmed. -/
def commaPieces (token : String) : List String := (Text.piecesOf ',' token).map Text.trim

/-- The answer that there is no overload, wherever it comes from. -/
def isRefusal {α : Type} : Except Failure α → Bool
  | .error (.noOverload _ _) => true
  | _ => false

section
variable {t : Target h} {m : Type → Type} [Monad m] (ask : Attempt h t → m (Except Failure t.Value))

/-- What a conversion notes, and how it ends. -/
def convertIn (c : Conversions h) (tokens : List String) : m (List Notice × Except Failure t.Value) := do
  let ending ← match c.candidates t tokens.length with
    | [] => pure (.error (.noOverload t.name tokens.length))
    | o :: _ => ask ⟨o, tokens⟩
  pure (c.notices t tokens.length, ending)

def convertTokenIn (c : Conversions h) (token : String) : m (List Notice × Except Failure t.Value) := do
  let parts := commaPieces token
  let (noted, ending) ← c.convertIn ask parts
  if 1 < parts.length ∧ isRefusal ending then
    let (more, ending) ← c.convertIn ask [token]
    pure (noted ++ more, ending)
  else pure (noted, ending)

end

def converted (c : Conversions h) (state : h.State) (t : Target h) (tokens : List String) :
    List Notice × Except Failure t.Value := Id.run (c.convertIn (plainly state) tokens)

def convert (c : Conversions h) (state : h.State) (t : Target h) (tokens : List String) : Except Failure t.Value :=
  (c.converted state t tokens).2

def convertToken (c : Conversions h) (state : h.State) (t : Target h) (token : String) :
    List Notice × Except Failure t.Value := Id.run (c.convertTokenIn (plainly state) token)

theorem convert_eq (c : Conversions h) (state : h.State) (t : Target h) (tokens : List String) : c.convert state t tokens =
    match c.candidates t tokens.length with
    | [] => .error (.noOverload t.name tokens.length)
    | o :: _ => o.run state tokens := by
  unfold convert converted convertIn
  cases c.candidates t tokens.length <;> rfl

theorem converted_eq (c : Conversions h) (state : h.State) (t : Target h) (tokens : List String) :
    c.converted state t tokens = (c.notices t tokens.length, c.convert state t tokens) := by
  unfold convert converted convertIn
  cases c.candidates t tokens.length <;> rfl

/-- A token is converted by its pieces, and once more whole if there are several and they are refused. -/
theorem convertToken_eq (c : Conversions h) (state : h.State) (t : Target h) (token : String) : c.convertToken state t token =
    if 1 < (commaPieces token).length ∧ isRefusal (c.convert state t (commaPieces token)) then
      ((c.converted state t (commaPieces token)).1 ++ (c.converted state t [token]).1, c.convert state t [token])
    else c.converted state t (commaPieces token) := by
  change Id.run (if 1 < (commaPieces token).length ∧ isRefusal (c.convert state t (commaPieces token)) then _ else _) = _
  split <;> rfl

/-! ## Arguments -/

/-- The argument that a token gives for a declared type. -/
def argument (c : Conversions h) (state : h.State) (type : ParamType h) (token : String) :
    List Notice × Except Failure (Argument h) :=
  match type with
  | .typed t => let (noted, r) := c.convertToken state t token; (noted, r.map (.typed t))
  | plain => ([], (Argument.coerce plain token).getD (.error .badArgument))

def convertAll (c : Conversions h) (state : h.State) :
    List (ParamType h) → List String → List Notice × Except Failure (Arguments h)
  | type :: types, token :: tokens =>
    match c.argument state type token with
    | (noted, .error _) => (noted, .error .badArgument)
    | (noted, .ok a) =>
      let (more, rest) := c.convertAll state types tokens
      (noted ++ more, rest.map (a :: ·))
  | _, _ => ([], .ok [])

end Conversions

/-! ## The console's own converters -/

namespace Convert

variable {h : Host}

def readFloat (token : String) : Except Failure Single :=
  match Number.float? Number.single (Text.trimChars token.toList) with
  | some x => .ok x
  | none => .error (.conversion ("not a number: " ++ token))

/-- Exactly so many numbers. -/
def readFloats (count : Nat) (tokens : List String) : Except Failure (List Single) :=
  if tokens.length = count then tokens.mapM readFloat
  else .error (.conversion ("expected " ++ decimal count ++ " numbers, got " ++ decimal tokens.length))

/-- A color in one token: `#` and its digits, or a name. -/
def readColor (token : String) : Except Failure Color :=
  let s := Text.trimChars token.toList
  match s with
  | '#' :: _ => match Color.ofHex s with
    | some c => .ok c
    | none => .error (.conversion ("Invalid hex color " ++ String.ofList s ++ "."))
  | _ => match Color.ofName s with
    | some c => .ok c
    | none => .error (.conversion ("Unknown color " ++ String.ofList s ++ "."))

/-- An overload that reads numbers. -/
def numbers {t : Target h} (count : Nat) (build : List Single → Option t.Value) : Overload h t where
  arity := count
  run _ tokens := do
    match build (← readFloats count tokens) with
    | some v => .ok v
    | none => .error .badArgument

/-- An overload that reads one token. -/
def single {t : Target h} (read : h.State → String → Except Failure t.Value) : Overload h t where
  arity := 1
  run state tokens := match tokens with
    | [token] => read state token
    | _ => .error .badArgument

def opaqueChannel : Single := Number.Binary.ofInt Number.single 255

def color : List (Overload h .color) :=
  [numbers 4 fun | [r, g, b, a] => some (Color.ofChannels r g b a) | _ => none,
   numbers 3 fun | [r, g, b] => some (Color.ofChannels r g b opaqueChannel) | _ => none,
   single fun _ => readColor]

def vec2 : List (Overload h .vec2) :=
  [numbers 2 fun | [x, y] => some ⟨x, y⟩ | _ => none,
   numbers 1 fun | [v] => some (Vec2.splat v) | _ => none]

def vec3 : List (Overload h .vec3) :=
  [numbers 3 fun | [x, y, z] => some ⟨x, y, z⟩ | _ => none,
   numbers 2 fun | [x, y] => some ⟨x, y, Number.Binary.zero Number.single false⟩ | _ => none,
   numbers 1 fun | [v] => some (Vec3.splat v) | _ => none]

/-- References by name, looked up in the host's state. -/
def objectNamed (find : h.State → String → Option ObjectRef) : List (Overload h .object) :=
  [single fun state name => match find state name with
    | some ref => .ok ref
    | none => .error (.unknownObject name)]

end Convert

/-- The converters every console starts with. -/
def Conversions.standard {h : Host} : Conversions h :=
  ((Conversions.empty.register .color Convert.color).register .vec2 Convert.vec2).register .vec3 Convert.vec3

end CommandConsole
