/-
  CommandConsole.Command — what a command is.

  A command has a name, a description, declared parameters and a binding: one of the
  five the console implements itself, or a handler of a provider.

  A handler runs against a live object of its provider. It gets the arguments, the
  name of the instance and the style of the display, and the host's state and the
  object as they are. It answers what it writes, in order, the state and the object
  after it, and how it ended. A handler that fails keeps what it has done up to then.
-/

import CommandConsole.Argument
import CommandConsole.Output

namespace CommandConsole

/-! ## Parameters -/

structure Param (h : Host) where
  name : String
  type : ParamType h
  hint : Option String

/-- What the usage line calls the parameter. -/
def Param.label {h : Host} (p : Param h) : String := p.hint.getD p.name

/-! ## Handlers -/

/-- What a handler is given. -/
structure Call (h : Host) where
  style : Style
  args : Arguments h
  instanceName : String

/-- What a handler leaves behind. -/
structure Reply (h : Host) (p : h.Provider) where
  written : List Output.Op
  state : h.State
  object : h.Object p
  outcome : Except Failure Unit

abbrev Handler (h : Host) (p : h.Provider) := Call h → h.State → h.Object p → Reply h p

/-- The commands of the console itself. -/
inductive Builtin where
  | help
  | describe
  | quit
  | close
  | clear
  deriving DecidableEq

inductive Binding (h : Host) where
  | builtin (b : Builtin)
  | handler (p : h.Provider) (run : Handler h p)

structure Command (h : Host) where
  name : String
  description : String
  params : List (Param h)
  binding : Binding h

namespace Command

variable {h : Host}

/-- The provider the command belongs to; `none` for the console's own. -/
def provider (c : Command h) : Option h.Provider :=
  match c.binding with
  | .builtin _ => none
  | .handler p _ => some p

def providerName (c : Command h) : Option String := c.provider.map h.providerName

/-- The name in bold, then every parameter in brackets. -/
def usage (c : Command h) : String :=
  String.join (("<b>" ++ c.name ++ "</b>") :: c.params.map fun p => " [" ++ p.label ++ "]")

/-! ## Descriptions for developers -/

def inspectOption (o : Option String) : String := o.elim "None" fun s => "Some(" ++ Text.quoted s ++ ")"

def inspectType : ParamType h → String
  | .bool => "Bool"
  | .int => "Int"
  | .float => "Float"
  | .text => "Text"
  | .typed t => "Typed(TypeKey \x7b name: " ++ Text.quoted t.name ++ " \x7d)"

def inspectParam (p : Param h) : String :=
  "Param \x7b name: " ++ Text.quoted p.name ++ ", ty: " ++ inspectType p.type ++ ", hint: " ++
    inspectOption p.hint ++ " \x7d"

def inspect (c : Command h) : String :=
  "CommandDescriptor \x7b name: " ++ Text.quoted c.name ++ ", params: [" ++
    ", ".intercalate (c.params.map inspectParam) ++ "], provider: " ++ inspectOption c.providerName ++ " \x7d"

/-! ## The console's own commands -/

def builtins : List (Command h) :=
  [{ name := "help", description := "Lists all available commands.", params := [], binding := .builtin .help },
   { name := "chelp", description := "Shows the description and usage of a command.",
     params := [{ name := "command", type := .text, hint := none }], binding := .builtin .describe },
   { name := "quit", description := "Quits the application.", params := [], binding := .builtin .quit },
   { name := "close", description := "Closes the console window.", params := [], binding := .builtin .close },
   { name := "clear", description := "Clears the console output.", params := [], binding := .builtin .clear }]

end Command

end CommandConsole
