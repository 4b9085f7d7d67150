/-
  CommandConsole.Console.Keyboard — key events on the local surface.

  While the surface is hidden only the visibility key does anything. Showing the
  surface empties the input field. Characters go to the end of the input field,
  backspace takes the last one away; a key of the history replaces the field by the
  entry it recalls, unless there is none.
-/

import CommandConsole.Console.Dispatch
import CommandConsole.Keys

namespace CommandConsole.Console

variable {h : Host} {τ : Type} [Transport τ]

def setInput (c : Console h τ) (text : String) : Console h τ :=
  { c with transport := Transport.setInput text c.transport }

def toggle (c : Console h τ) : Console h τ :=
  if Transport.hasSurface c.transport then
    let visible := !Transport.isVisible c.transport
    let t := Transport.setVisible visible c.transport
    { c with transport := if visible then Transport.clearInput t else t }
  else c

/-- Show a recalled line in the input field. -/
def showRecalled (c : Console h τ) (found : String × History) : Console h τ :=
  let c := { c with history := found.2 }
  if found.1.isEmpty then c else c.setInput found.1

def handle (c : Console h τ) (e : KeyEvent) : Console h τ :=
  match e with
  | .key .toggleVisibility => c.toggle
  | e =>
    if Transport.isVisible c.transport then
      let input := Transport.input c.transport
      match e with
      | .character ch => c.setInput (input.push ch)
      | .backspace =>
        if input.isEmpty then c else c.setInput (String.ofList input.toList.dropLast)
      | .key .submit => c.submit input
      | .key .historyBack => c.showRecalled c.history.back
      | .key .historyForward => c.showRecalled c.history.forward
      | .key .toggleVisibility => c
    else c

def handleAll (c : Console h τ) (es : List KeyEvent) : Console h τ := es.foldl handle c

end CommandConsole.Console
