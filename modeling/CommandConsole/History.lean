/-
  CommandConsole.History — the lines that succeeded, and a cursor over them.

  Entries are kept oldest first, at most `capacity` of them. Recording a line appends
  it unless it equals the newest entry, drops the oldest when there are too many, and
  puts the cursor back on the newest.

  The cursor counts back from the newest entry. `back` and `forward` first answer the
  entry under the cursor and then move it, toward older or newer entries, around the
  ends. On an empty history both answer the empty string and nothing moves.
-/

namespace CommandConsole

structure History where
  entries : List String
  capacity : Nat
  cursor : Nat
  deriving DecidableEq

namespace History

def standardCapacity : Nat := 10

/-! ## Room

A history reserves room for all its lines when it is made. -/

/-- The bytes that a line takes in the reserved room, its text apart. -/
def lineSize : Nat := 24

/-- The most bytes that can be asked for at once. -/
def largestRequest : Nat := Nat.pow 2 63 - 8

def addressSpace : Nat := Nat.pow 2 47

inductive Room where
  | granted
  /-- There is not so much memory, and the program is stopped. -/
  | exhausted
  /-- It is more than can be asked for, and the program fails. -/
  | overflow
  deriving DecidableEq

/-- The request of a history on a machine with so many bytes of memory. -/
def room (memory capacity : Nat) : Room :=
  let bytes := capacity * lineSize
  if largestRequest < bytes then .overflow else if memory < bytes then .exhausted else .granted

/-! ## Lines -/

def create (capacity : Nat) : History := ⟨[], max capacity 1, 0⟩

def resetCursor (h : History) : History := { h with cursor := 0 }

def clear (h : History) : History := { h with entries := [], cursor := 0 }

def evict (h : History) (entries : List String) : List String :=
  if h.capacity < entries.length then entries.tail else entries

def record (h : History) (line : String) : History :=
  if h.entries.getLast? = some line then h.resetCursor
  else { h with entries := h.evict (h.entries ++ [line]), cursor := 0 }

def current (h : History) : String :=
  h.entries.getD (h.entries.length - 1 - h.cursor % h.entries.length) ""

def back (h : History) : String × History :=
  if h.entries.isEmpty then ("", h)
  else (h.current, { h with cursor := if h.cursor + 1 < h.entries.length then h.cursor + 1 else 0 })

def forward (h : History) : String × History :=
  if h.entries.isEmpty then ("", h)
  else (h.current, { h with cursor := if h.cursor = 0 then h.entries.length - 1 else h.cursor - 1 })

end History

end CommandConsole
