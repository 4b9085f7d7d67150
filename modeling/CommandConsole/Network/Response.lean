/-
  CommandConsole.Network.Response — how output reaches a client.

  What a line has written goes out as one response: its lines, each ended by a line
  feed, and then a zero byte. Blank lines are left out, and so are lines that start
  like an echoed input line.
-/

import CommandConsole.Text.Blank
import CommandConsole.Text.Utf8

namespace CommandConsole.Network

def echoMark : List Char := ['>', ' ']

/-- Whether a line of output is sent. -/
def isSent (line : List Char) : Bool := !line.all Text.isBlank && !echoMark.isPrefixOf line

/-- The lines of the output that are sent, with their ends. -/
def responseText (output : List Char) : List Char :=
  ((Text.pieces '\n' output).filter isSent).flatMap (· ++ ['\n'])

def endOfResponse : Text.Utf8.Byte := 0

/-- The bytes of a response. -/
def response (output : String) : List Text.Utf8.Byte :=
  Text.Utf8.encodeChars (responseText output.toList) ++ [endOfResponse]

end CommandConsole.Network
