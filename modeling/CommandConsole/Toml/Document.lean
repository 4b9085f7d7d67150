/-
  CommandConsole.Toml.Document — a whole settings file.

  A file is a list of statements, one a line: a key with its value, the header of a
  table or of one more element of a list of tables. Values are strings, numbers, truth
  values, dates, arrays and inline tables; arrays may run over lines, inline tables
  may not. Arrays and inline tables nest at most `nestingLimit` deep.

  `read` folds the statements into the entries of the top-level table. It answers
  nothing when the text is not of this form or defines something twice.
-/

import CommandConsole.Toml.Lexeme
import CommandConsole.Toml.Tree

namespace CommandConsole.Toml

/-! ## Values -/

def nestingLimit : Nat := 79

/-- The values of an array, after its bracket. -/
def items (value : Rest → Option (Tree × Rest)) : Nat → Rest → Option (List Tree × Rest)
  | 0, _ => none
  | fuel + 1, s => do
    let s ← skipGaps false s
    match s with
    | ']' :: r => some ([], r)
    | s =>
      let (v, s) ← value s
      let s ← skipGaps false s
      match s with
      | ']' :: r => some ([v], r)
      | ',' :: r => (items value fuel r).map fun (vs, r) => (v :: vs, r)
      | _ => none

/-- A dotted key, an equals sign and a value. -/
def pair? (value : Rest → Option (Tree × Rest)) (s : Rest) : Option ((List String × Tree) × Rest) := do
  let (path, s) ← key? s
  let s ← expect '=' s
  let (v, s) ← value (skipSpaces s)
  some ((path, v), s)

def assignPath (es : Entries) (path : List String) (v : Tree) : Option Entries :=
  match path.getLast? with
  | none => none
  | some key => es.assign key v true path.dropLast

/-- The pairs of an inline table; there is at least one. -/
def pairs (value : Rest → Option (Tree × Rest)) : Nat → Entries → Rest → Option (Entries × Rest)
  | 0, _, _ => none
  | fuel + 1, es, s => do
    let ((path, v), s) ← pair? value s
    let es ← assignPath es path v
    match skipSpaces s with
    | '\x7d' :: r => some (es, r)
    | ',' :: r => pairs value fuel es r
    | _ => none

/-- A number, a date or a time. -/
def number? (s : Rest) : Option (Tree × Rest) :=
  match datetime? s with
  | some r => some (.datetime, r)
  | none =>
    match float? s with
    | some r => some (.float, r)
    | none => (integer? s).map fun (n, r) => (.integer n, r)

/-- A value with so much nesting left. -/
def value : Nat → Rest → Option (Tree × Rest)
  | depth, s =>
    match s with
    | [] => none
    | c :: r =>
      if c = '"' ∨ c = '\'' then (string? s).map fun (t, r) => (.string t, r)
      else if c = '[' then
        match depth with
        | 0 => none
        | depth + 1 => (items (value depth) (r.length + 1) r).map fun (vs, r) => (.array vs, r)
      else if c = '\x7b' then
        match depth with
        | 0 => none
        | depth + 1 =>
          match skipSpaces r with
          | '\x7d' :: r => some (.table .inline [], r)
          | _ => (pairs (value depth) (r.length + 1) [] r).map fun (es, r) => (.table .inline es, r)
      else if c = 't' then (named? "true" s).map (.boolean true, ·)
      else if c = 'f' then (named? "false" s).map (.boolean false, ·)
      else if c = 'i' ∨ c = 'n' ∨ c = '+' ∨ c = '-' ∨ c.isDigit then number? s
      else none

/-! ## Statements -/

/-- The file read so far, and the path of the table that is open. -/
structure Draft where
  entries : Entries
  path : List String

def Draft.enter (d : Draft) (path : List String) (f : String → Entries → Option Entries) : Option Draft := do
  let key ← path.getLast?
  let es ← d.entries.alter (f key) path.dropLast
  some ⟨es, path⟩

def header? (d : Draft) (s : Rest) : Option (Draft × Rest) :=
  match s with
  | '[' :: '[' :: r => do
    let (path, s) ← key? r
    let s ← expect ']' s
    let s ← expect ']' s
    let s ← lineEnd? s
    let d ← d.enter path Entries.openElement
    some (d, s)
  | '[' :: r => do
    let (path, s) ← key? r
    let s ← expect ']' s
    let s ← lineEnd? s
    let d ← d.enter path Entries.openTable
    some (d, s)
  | _ => none

def setting? (d : Draft) (s : Rest) : Option (Draft × Rest) := do
  let ((path, v), s) ← pair? (value nestingLimit) s
  let s ← lineEnd? s
  let es ← d.entries.alter (fun es => assignPath es path v) d.path
  some ({ d with entries := es }, s)

/-- The statements of the rest of a file. -/
def statements : Nat → Draft → Rest → Option Draft
  | 0, _, _ => none
  | fuel + 1, d, s =>
    match skipSpaces s with
    | [] => some d
    | c :: r =>
      if c = '#' ∨ c = '\n' ∨ c = '\r' then (lineEnd? (c :: r)).bind (statements fuel d)
      else
        let next := if c = '[' then header? d (c :: r) else setting? d (c :: r)
        next.bind fun (d, s) => statements fuel d s

/-- The entries of a file. A byte-order mark may stand in front. -/
def read (text : String) : Option Entries :=
  let s := match text.toList with
    | c :: r => if c.toNat = 0xFEFF then r else c :: r
    | [] => []
  (statements (s.length + 1) ⟨[], []⟩ s).map (·.entries)

end CommandConsole.Toml
