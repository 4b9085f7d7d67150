/-
  CommandConsole.Output — what a command writes, and what reaches the display.

  A command writes through a handful of operations: text, whole lines, bold and
  italic text, lines that report an error, a warning or a piece of information, and
  single tags. A display has one of two styles. A `markup` display gets the tags and
  renders them; its cursor stays at the end of the last line, so a line starts with
  the line break. A `plain` display is read line by line: bold becomes an apostrophe,
  the other tags vanish, a line ends with its break, and errors and warnings carry a
  sigil instead of a color.

  `effects` is the whole writer: it turns one operation into appends and clears. It
  reads nothing back from the display.
-/

import CommandConsole.Markup

namespace CommandConsole

/-- How a display wants its text. -/
inductive Style where
  | markup
  | plain
  deriving DecidableEq

/-- The colors of error, information and warning lines. -/
structure OutputColors where
  error : Color
  info : Color
  warning : Color
  deriving DecidableEq

def OutputColors.standard : OutputColors :=
  { error := Color.red, info := Color.rgb 30 98 206, warning := Color.rgb 170 135 30 }

namespace Output

/-- One operation of a command on its output. -/
inductive Op where
  | write (text : String)
  | line (text : String)
  | bold (text : String)
  | lineBold (text : String)
  | italic (text : String)
  | lineItalic (text : String)
  | error (text : String)
  | warning (text : String)
  | info (text : String)
  | openBold
  | closeBold
  | openColor (c : Color)
  | closeColor
  | nextLine
  | clear
  deriving DecidableEq

/-- What a display is asked to do. -/
inductive Effect where
  | append (text : String)
  | clear
  deriving DecidableEq

/-! ## Writing in a style -/

def sigil : String := "#>>"

def errorSigil : String := sigil ++ "x"

def warningSigil : String := sigil ++ "!"

/-- Text as the style wants it. -/
def put (style : Style) (text : String) : Effect :=
  match style with
  | .markup => .append text
  | .plain => .append (Markup.toPlain text)

def putLine (style : Style) (text : String) : Effect :=
  match style with
  | .markup => put style ("\n" ++ text)
  | .plain => put style (text ++ "\n")

def colorTag (c : Color) : String := "<color=#" ++ c.toHex ++ ">"

def inBold (text : String) : String := "<b>" ++ text ++ "</b>"

def inItalics (text : String) : String := "<i>" ++ text ++ "</i>"

/-- A line set apart: in a color, or after a sigil where there are none. -/
def flagged (style : Style) (color : Color) (mark text : String) : List Effect :=
  match style with
  | .markup => [put style (colorTag color), putLine style text, put style "</color>"]
  | .plain => [putLine style (mark ++ text)]

/-- What one operation does to a display of the style. -/
def effects (style : Style) (colors : OutputColors) : Op → List Effect
  | .write text => [put style text]
  | .line text => [putLine style text]
  | .bold text => [put style (inBold text)]
  | .lineBold text => [putLine style (inBold text)]
  | .italic text => [put style (inItalics text)]
  | .lineItalic text => [putLine style (inItalics text)]
  | .error text => flagged style colors.error errorSigil text
  | .warning text => flagged style colors.warning warningSigil text
  | .info text => flagged style colors.info "" text
  | .openBold => [put style "<b>"]
  | .closeBold => [put style "</b>"]
  | .openColor c => match style with
    | .markup => [put style (colorTag c)]
    | .plain => []
  | .closeColor => match style with
    | .markup => [put style "</color>"]
    | .plain => []
  | .nextLine => [put style "\n"]
  | .clear => [.clear]

/-! ## The text of operations -/

def Effect.text : Effect → String
  | .append text => text
  | .clear => ""

theorem put_eq_append (style : Style) (text : String) : put style text = .append (put style text).text := by
  cases style <;> rfl

/-- Every operation but `clear` appends and does nothing else. -/
theorem effects_append (style : Style) (colors : OutputColors) {op : Op} (hop : op ≠ .clear) :
    ∀ e ∈ effects style colors op, e = .append e.text := by
  cases op with
  | clear => exact absurd rfl hop
  | _ => cases style <;> simp [effects, flagged, putLine, ← put_eq_append]

/-- The text that operations append. -/
def written (style : Style) (colors : OutputColors) (ops : List Op) : String :=
  String.join ((ops.flatMap (effects style colors)).map Effect.text)

end Output

end CommandConsole
