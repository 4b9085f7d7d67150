/-
  CommandConsole.Failure — why a line, a setting or a command did not work.

  A failure is its cause; `message` is the one place that words it. The messages go to
  the user as they are and may carry `<b>` markup. A command that failed and has
  already said so itself raises `command ""`: `isSilent` holds of it alone, and
  nothing more is written for it.
-/

import CommandConsole.Number.Numeral

namespace CommandConsole

inductive Failure where
  | emptyInput
  | unterminatedQuote
  | unknownCommand (name : String)
  /-- The usage line is shown after the message, not in it. -/
  | wrongArgumentCount (given expected : Nat) (usage : String)
  | badArgument
  | noOverload (target : String) (arity : Nat)
  | conversion (text : String)
  | unknownObject (name : String)
  | noInstance
  /-- Raised by a command. -/
  | command (text : String)
  | settings (text : String)
  | system (text : String)
  /-- A settings file that cannot be read, with the cause when it is a color. -/
  | settingsSyntax (badColor : Option String)
  deriving DecidableEq

namespace Failure

open Number (decimal)

def badColorMessage (text : String) : String := "invalid color: " ++ text

def message : Failure → String
  | emptyInput => "Empty input."
  | unterminatedQuote => "Unterminated quote in input."
  | unknownCommand name => "Command <b>" ++ name ++ "</b> not found."
  | wrongArgumentCount given expected _ =>
    decimal given ++ " parameters given but " ++ decimal expected ++ " expected."
  | badArgument => "Parameter conversion error."
  | noOverload target arity =>
    "No conversion found for type '" ++ target ++ "' that takes " ++ decimal arity ++ " parameters."
  | conversion text => text
  | unknownObject name => "Object with name <b>" ++ name ++ "</b> not found."
  | noInstance => "No executable instance found."
  | command text => text
  | settings text => "config error: " ++ text
  | system text => "I/O error: " ++ text
  | settingsSyntax badColor => "TOML parse error: " ++ (badColor.elim "" badColorMessage)

/-- Whether the failure has been reported already. -/
def isSilent : Failure → Bool
  | command text => text.isEmpty
  | _ => false

end Failure

end CommandConsole
