/-
  CommandConsole.Toml.Tree — the tables of a settings file while they are built.

  A table remembers how it came to be, because that decides who may still add to it.
  A `header` table was opened by a header of its own. An `implied` one was only passed
  through by a longer header, and may be opened once later; it then moves behind its
  siblings. A `dotted` one was made by dotted keys, and only dotted keys of the same
  table add to it. An `inline` table is complete.

  `alter` follows the path of a header from the top; a list of tables stands for its
  last element. `assign` puts one value under a dotted key; the table that gets the
  value, unless it is the current one, has to be dotted.

  Entries keep the order in which their keys were first written.
-/

namespace CommandConsole.Toml

inductive Origin where
  | header
  | implied
  | dotted
  | inline
  deriving DecidableEq

inductive Tree where
  | string (s : String)
  | integer (n : Int)
  | float
  | boolean (b : Bool)
  | datetime
  | array (items : List Tree)
  | table (origin : Origin) (entries : List (String × Tree))
  | tables (items : List (List (String × Tree)))

abbrev Entries := List (String × Tree)

namespace Entries

def get? (es : Entries) (key : String) : Option Tree := (es.find? (·.1 == key)).map (·.2)

def replace (es : Entries) (key : String) (t : Tree) : Entries :=
  es.map fun e => if e.1 == key then (key, t) else e

def remove (es : Entries) (key : String) : Entries := es.filter (·.1 != key)

def add (es : Entries) (key : String) (t : Tree) : Entries := es ++ [(key, t)]

/-! ## Paths -/

/-- Change the table at the end of a header's path. -/
def alter (f : Entries → Option Entries) : List String → Entries → Option Entries
  | [], es => f es
  | k :: ks, es =>
    match es.get? k with
    | none => (alter f ks []).map fun sub => es.add k (.table .implied sub)
    | some (.table .inline _) => none
    | some (.table origin sub) => (alter f ks sub).map fun sub => es.replace k (.table origin sub)
    | some (.tables items) =>
      match items.getLast? with
      | none => none
      | some last => (alter f ks last).map fun last => es.replace k (.tables (items.dropLast ++ [last]))
    | some _ => none

/-- Put a value under a dotted key; `open_` says whether this table takes values. -/
def assign (key : String) (v : Tree) (open_ : Bool) : List String → Entries → Option Entries
  | [], es => if open_ && (es.get? key).isNone then some (es.add key v) else none
  | k :: ks, es =>
    match es.get? k with
    | none => (assign key v true ks []).map fun sub => es.add k (.table .dotted sub)
    | some (.table .dotted sub) =>
      (assign key v true ks sub).map fun sub => es.replace k (.table .dotted sub)
    | some (.table .implied sub) =>
      (assign key v false ks sub).map fun sub => es.replace k (.table .implied sub)
    | some (.tables items) =>
      match items.getLast? with
      | none => none
      | some last =>
        (assign key v false ks last).map fun last => es.replace k (.tables (items.dropLast ++ [last]))
    | some _ => none

/-! ## Headers -/

/-- Open a table. -/
def openTable (key : String) (es : Entries) : Option Entries :=
  match es.get? key with
  | none => some (es.add key (.table .header []))
  | some (.table .implied sub) => some ((es.remove key).add key (.table .header sub))
  | some _ => none

/-- Open one more table of a list. -/
def openElement (key : String) (es : Entries) : Option Entries :=
  match es.get? key with
  | none => some (es.add key (.tables [[]]))
  | some (.tables items) => some (es.replace key (.tables (items ++ [[]])))
  | some _ => none

end Entries

end CommandConsole.Toml
