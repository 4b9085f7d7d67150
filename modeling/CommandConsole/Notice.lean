/-
  CommandConsole.Notice — warnings that go to the host's log.

  They report ambiguities that were settled by a rule: a command name registered
  twice (the later one wins), several conversions for one number of tokens and several
  instances of one provider (the first one wins). The last one is also shown to the
  user.
-/

import CommandConsole.Number.Numeral

namespace CommandConsole

open Number (decimal)

inductive Notice where
  /-- The owner of a replaced command; `none` is the console. -/
  | replaced (command : String) (owner : Option String)
  | severalConversions (count : Nat) (target : String) (arity : Nat)
  | severalInstances (provider chosen : String)
  deriving DecidableEq

def Notice.text : Notice → String
  | replaced command owner =>
    "Command '" ++ command ++ "' registered twice; replacing the one from " ++ owner.getD "console"
  | severalConversions count target arity =>
    "Found " ++ decimal count ++ " conversions for '" ++ target ++ "' taking " ++ decimal arity ++
      " parameters. First one was chosen by default."
  | severalInstances provider chosen =>
    "More than one instance found for type <b>" ++ provider ++ "</b>. Choosing <b>" ++ chosen ++
      "</b> for execution."

end CommandConsole
