/-
  CommandConsole.Keys — key events, and the lines of a terminal that stand for them.

  A terminal in line mode delivers whole lines only, so a key with a meaning of its own
  is recognised when it is the entire line: a lone tab shows and hides the console, the
  escape sequences of the up and down arrows step through the history. Every other
  line is typed in, character by character, and submitted. Line breaks at the end do
  not count.
-/

import CommandConsole.Text.Blank

namespace CommandConsole

/-- Keys with a meaning for the console. -/
inductive Key where
  | submit
  | toggleVisibility
  | historyBack
  | historyForward
  deriving DecidableEq

inductive KeyEvent where
  | character (c : Char)
  | backspace
  | key (k : Key)
  deriving DecidableEq

namespace Keys

def arrowUp : List Char := ['\x1b', '[', 'A']

def arrowDown : List Char := ['\x1b', '[', 'B']

/-- The line without the line breaks at its end. -/
def content (line : List Char) : List Char := Text.dropEnd (fun c => c == '\r' || c == '\n') line

def eventsOf (line : List Char) : List KeyEvent :=
  let l := content line
  if l = ['\t'] then [.key .toggleVisibility]
  else if l = arrowUp then [.key .historyBack]
  else if l = arrowDown then [.key .historyForward]
  else l.map .character ++ [.key .submit]

/-- The events of a line read from a terminal. -/
def events (line : String) : List KeyEvent := eventsOf line.toList

/-- Whether the line only recalls history. -/
def recalls (line : String) : Bool :=
  content line.toList == arrowUp || content line.toList == arrowDown

end Keys

end CommandConsole
