/-
  CommandConsole.Network.Framing — lines out of a stream of bytes.

  Bytes arrive in chunks of any size. A line ends with a line feed, and one carriage
  return before it belongs to the end; the last line of a stream may end without.
  `readLine` takes at most two bytes more than a line may have, room for that end. If
  no line feed was among them, the line is too long and the rest of it is thrown away
  up to its line feed. A line that fits is decoded, with a replacement for every
  invalid byte sequence, and trimmed.
-/

import CommandConsole.Text.Blank
import CommandConsole.Text.Utf8

namespace CommandConsole.Network

open Text.Utf8 (Byte)

/-- Bytes that have arrived, in the portions in which they came. -/
abbrev Chunks := List (List Byte)

def lineFeed : Byte := 10

def carriageReturn : Byte := 13

/-- A line as the client sent it. -/
inductive Incoming where
  | line (text : String)
  | tooLong
  deriving DecidableEq

def unread (chunk : List Byte) (rest : Chunks) : Chunks := if chunk.isEmpty then rest else chunk :: rest

/-- Take bytes through the first line feed, but no more than `limit`. -/
def takeLine : Nat → Chunks → List Byte × Chunks
  | _, [] => ([], [])
  | limit, chunk :: rest =>
    let inReach := chunk.take limit
    let before := inReach.takeWhile (· != lineFeed)
    if before.length < inReach.length then
      (before ++ [lineFeed], unread (chunk.drop (before.length + 1)) rest)
    else if limit ≤ chunk.length then (inReach, unread (chunk.drop limit) rest)
    else
      let (more, rest) := takeLine (limit - chunk.length) rest
      (chunk ++ more, rest)

def discardLine : Chunks → Chunks
  | [] => []
  | chunk :: rest =>
    match chunk.dropWhile (· != lineFeed) with
    | _ :: after => unread after rest
    | [] => discardLine rest

def dropLastIf (b : Byte) (bytes : List Byte) : List Byte :=
  if bytes.getLast? = some b then bytes.dropLast else bytes

def decodeLine (bytes : List Byte) : String := String.ofList (Text.trimChars (Text.Utf8.decodeLossy bytes))

/-- The next line of at most `limit` bytes; `none` at the end of the stream. -/
def readLine (limit : Nat) (source : Chunks) : Option (Incoming × Chunks) :=
  let (taken, rest) := takeLine (limit + 2) source
  if taken.isEmpty then none
  else
    let terminated := taken.getLast? = some lineFeed
    let body := dropLastIf carriageReturn (dropLastIf lineFeed taken)
    if limit < body.length then some (.tooLong, if terminated then rest else discardLine rest)
    else some (.line (decodeLine body), rest)

end CommandConsole.Network
