/-
  CommandConsole.Settings — what can be set about a console.

  Every setting has a standard value, so nothing has to be set. A history holds at
  least one line and a network line has at least one byte; `check` refuses the rest,
  the history first.
-/

import CommandConsole.Failure
import CommandConsole.Output

namespace CommandConsole

structure NetworkSettings where
  /-- Serve the console over the network instead of the local surface. -/
  enabled : Bool
  bindAddress : String
  port : Nat
  /-- Pause between two looks at the queue, in milliseconds. -/
  pollInterval : Nat
  /-- The longest accepted input line, in bytes. -/
  maxLineLength : Nat
  deriving DecidableEq

structure Settings where
  historyCapacity : Nat
  /-- The name of the visibility key in the welcome message. -/
  toggleKey : String
  network : NetworkSettings
  colors : OutputColors
  deriving DecidableEq

def NetworkSettings.standard : NetworkSettings :=
  { enabled := false, bindAddress := "127.0.0.1", port := 6001, pollInterval := 50, maxLineLength := 1024 }

def NetworkSettings.socketAddress (n : NetworkSettings) : String := n.bindAddress ++ ":" ++ Number.decimal n.port

namespace Settings

def standard : Settings :=
  { historyCapacity := 10, toggleKey := "Tab", network := NetworkSettings.standard,
    colors := OutputColors.standard }

def check (s : Settings) : Except Failure Settings :=
  if s.historyCapacity = 0 then .error (.settings "history_capacity must be at least 1")
  else if s.network.maxLineLength = 0 then .error (.settings "network.max_line_len must be at least 1")
  else .ok s

end Settings

end CommandConsole
