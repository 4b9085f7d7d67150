/-
  CommandConsole.Transport.Surface — the console on the terminal it runs in.

  Keys arrive on the thread that draws, so nothing waits to be polled. The output since
  the last clear is kept as markup in two parts, what has been drawn and what is fresh;
  together they are the whole output. `draw` turns the fresh part into escape sequences
  and wipes the screen first if there was a clear since the last frame.
-/

import CommandConsole.Transport

namespace CommandConsole

structure Surface where
  input : String
  drawn : String
  fresh : String
  cleared : Bool
  visible : Bool
  deriving DecidableEq

namespace Surface

/-- A hidden surface, empty throughout. -/
def start : Surface := ⟨"", "", "", false, false⟩

/-- Everything written since the last clear. -/
def output (s : Surface) : String := s.drawn ++ s.fresh

def takeFresh (s : Surface) : String × Surface := (s.fresh, { s with drawn := s.output, fresh := "" })

def takeCleared (s : Surface) : Bool × Surface := (s.cleared, { s with cleared := false })

instance : Transport Surface where
  input := Surface.input
  setInput text s := { s with input := text }
  append text s := { s with fresh := s.fresh ++ text }
  clearOutput s := { s with drawn := "", fresh := "", cleared := true }
  hasSurface _ := true
  isVisible := Surface.visible
  setVisible on s := { s with visible := on }

instance : LawfulTransport Surface where
  output := Surface.output
  output_append text s := by simp [Transport.append, output, String.append_assoc]
  input_append _ _ := rfl
  isVisible_append _ _ := rfl

/-! ## Frames -/

/-- Erases the screen and puts the cursor into its corner. -/
def clearScreen : String := "\x1b[2J\x1b[H"

/-- The text of the next frame, and the surface after it. -/
def draw (s : Surface) : String × Surface :=
  let (cleared, s) := s.takeCleared
  let (fresh, s) := s.takeFresh
  if cleared then (clearScreen ++ Markup.toAnsi fresh, s)
  else if fresh.isEmpty then ("", s)
  else (Markup.toAnsi fresh, s)

end Surface

end CommandConsole
