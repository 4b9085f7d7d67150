/-
  CommandConsole.Settings.File — settings read from a file.

  A section is a table of known keys; unknown ones are passed over, and a known one has
  to have its type. A section may also be a list of its values in the order of the
  keys, as far as it goes; a date in its place sets nothing. The keys are taken in the
  order of the file, and the first that does not fit decides the failure. A color is a
  string that names one.
-/

import CommandConsole.Settings
import CommandConsole.Toml.Document

namespace CommandConsole.Settings

open Toml (Tree Entries)

def mistyped {α : Type} : Except Failure α := .error (.settingsSyntax none)

/-! ## Values -/

def readString : Tree → Except Failure String
  | .string s => .ok s
  | _ => mistyped

def readBool : Tree → Except Failure Bool
  | .boolean b => .ok b
  | _ => mistyped

/-- A whole number from zero up to a limit. -/
def readNat (limit : Nat) : Tree → Except Failure Nat
  | .integer n => if 0 ≤ n ∧ n ≤ limit then .ok n.toNat else mistyped
  | _ => mistyped

def readColor (t : Tree) : Except Failure Color := do
  let s ← readString t
  match Color.ofText s.toList with
  | some c => .ok c
  | none => .error (.settingsSyntax (some s))

/-! ## Sections -/

/-- A key of a section: its name, and how a value sets it. -/
abbrev Field (α : Type) := String × (α → Tree → Except Failure α)

def field {α β : Type} (name : String) (read : Tree → Except Failure β) (set : α → β → α) : Field α :=
  (name, fun a t => (read t).map (set a))

def readEntries {α : Type} (fields : List (Field α)) (start : α) (es : Entries) : Except Failure α :=
  es.foldlM (fun a (key, t) =>
    match fields.find? (·.1 == key) with
    | some f => f.2 a t
    | none => .ok a) start

def readItems {α : Type} (fields : List (Field α)) (start : α) (ts : List Tree) : Except Failure α :=
  (fields.zip ts).foldlM (fun a (f, t) => f.2 a t) start

def readSection {α : Type} (fields : List (Field α)) (start : α) : Tree → Except Failure α
  | .table _ es => readEntries fields start es
  | .array ts => readItems fields start ts
  | .tables tss => readItems fields start (tss.map (.table .header))
  | .datetime => .ok start
  | _ => mistyped

def wholeLimit : Nat := Number.wholeBound - 1

def networkFields : List (Field NetworkSettings) :=
  [field "enabled" readBool fun n v => { n with enabled := v },
   field "bind_address" readString fun n v => { n with bindAddress := v },
   field "port" (readNat 65535) fun n v => { n with port := v },
   field "poll_interval_ms" (readNat wholeLimit) fun n v => { n with pollInterval := v },
   field "max_line_len" (readNat wholeLimit) fun n v => { n with maxLineLength := v }]

def colorFields : List (Field OutputColors) :=
  [field "error" readColor fun c v => { c with error := v },
   field "info" readColor fun c v => { c with info := v },
   field "warning" readColor fun c v => { c with warning := v }]

def fields : List (Field Settings) :=
  [field "history_capacity" (readNat wholeLimit) fun s v => { s with historyCapacity := v },
   field "toggle_key_name" readString fun s v => { s with toggleKey := v },
   field "network" (readSection networkFields NetworkSettings.standard) fun s v => { s with network := v },
   field "colors" (readSection colorFields OutputColors.standard) fun s v => { s with colors := v }]

/-- The settings in the text of a file. -/
def ofText (text : String) : Except Failure Settings :=
  match Toml.read text with
  | none => mistyped
  | some es => readEntries fields standard es >>= check

end CommandConsole.Settings
