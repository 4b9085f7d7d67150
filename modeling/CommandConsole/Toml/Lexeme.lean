/-
  CommandConsole.Toml.Lexeme — the smallest parts of a settings file.

  Every reader takes the rest of the text and answers what it read with what is left,
  or nothing when the text does not start with such a part. Blanks are spaces and
  tabs; a line ends with LF or with CR LF, and a lone CR is an error. Control
  characters stand nowhere but in an escape.

  Strings come in four forms: with escapes or literal, each on one line or over
  several. Over several lines the first line break is dropped, the others become LF, a
  backslash at the end of a line swallows the break and all blanks and breaks after
  it, and the string ends at the last three of up to five quotes.
-/

import CommandConsole.Number.Numeral

namespace CommandConsole.Toml

abbrev Rest := List Char

def isSpace (c : Char) : Bool := c == ' ' || c == '\t'

def skipSpaces (s : Rest) : Rest := s.dropWhile isSpace

/-- A character that may stand in a comment. -/
def isPlain (c : Char) : Bool := c == '\t' || (0x20 ≤ c.toNat && c.toNat ≠ 0x7F)

def newline? : Rest → Option Rest
  | '\n' :: r => some r
  | '\r' :: '\n' :: r => some r
  | _ => none

/-- Blanks, line breaks and comments inside an array; a comment has to end. -/
def skipGaps (inComment : Bool) : Rest → Option Rest
  | [] => if inComment then none else some []
  | '\n' :: r => skipGaps false r
  | '\r' :: '\n' :: r => skipGaps false r
  | c :: r =>
    if inComment then (if isPlain c then skipGaps true r else none)
    else if isSpace c then skipGaps false r
    else if c = '#' then skipGaps true r
    else some (c :: r)

/-- The end of a line after a value or a header: blanks, a comment, and the break or the
    end of the text. -/
def lineEnd? (s : Rest) : Option Rest :=
  let s := skipSpaces s
  let s := match s with
    | '#' :: r => r.dropWhile isPlain
    | r => r
  match s with
  | [] => some []
  | r => newline? r

/-! ## Strings -/

def hexDigit? (c : Char) : Option Nat :=
  if c.isDigit then some (c.toNat - 48)
  else if 'a' ≤ c ∧ c ≤ 'f' then some (c.toNat - 87)
  else if 'A' ≤ c ∧ c ≤ 'F' then some (c.toNat - 55)
  else none

/-- The character with a number written in hexadecimal, unless it is no character. -/
def scalar? (digits : List Char) : Option Char := do
  let n ← digits.foldlM (fun n c => (hexDigit? c).map (16 * n + ·)) 0
  if h : n.isValidChar then some (Char.ofNatAux n h) else none

def escapes : List (Char × Char) :=
  [('b', '\x08'), ('t', '\t'), ('n', '\n'), ('f', '\x0c'), ('r', '\r'), ('"', '"'), ('\\', '\\')]

/-- The character an escape stands for, after its backslash. -/
def escaped? : Rest → Option (Char × Rest)
  | 'u' :: r => if 4 ≤ r.length then (scalar? (r.take 4)).map (·, r.drop 4) else none
  | 'U' :: r => if 8 ≤ r.length then (scalar? (r.take 8)).map (·, r.drop 8) else none
  | c :: r => (escapes.find? (·.1 == c)).map (·.2, r)
  | [] => none

/-- A string with escapes, after its opening quote. -/
def basicBody (fuel : Nat) (s : Rest) (read : List Char) : Option (String × Rest) :=
  match fuel, s with
  | _, '"' :: r => some (String.ofList read.reverse, r)
  | fuel + 1, '\\' :: r =>
    match escaped? r with
    | some (c, r) => basicBody fuel r (c :: read)
    | none => none
  | fuel + 1, c :: r => if isPlain c then basicBody fuel r (c :: read) else none
  | _, _ => none

/-- The quotes that still belong to a string over several lines, after the three that
    close it. -/
def trailingQuotes (quote : Char) : Rest → List Char × Rest
  | a :: b :: r =>
    if a = quote then (if b = quote then ([a, b], r) else ([a], b :: r)) else ([], a :: b :: r)
  | [a] => if a = quote then ([a], []) else ([], [a])
  | [] => ([], [])

def closed (quote : Char) (s : Rest) (read : List Char) : Option (String × Rest) :=
  let (more, r) := trailingQuotes quote s
  some (String.ofList (read.reverse ++ more), r)

/-- A backslash at the end of a line: what is left after it and all blanks and breaks. -/
def continued? (s : Rest) : Option Rest :=
  (newline? (skipSpaces s)).map skip
where
  skip : Rest → Rest
    | '\r' :: '\n' :: r => skip r
    | c :: r => if isSpace c || c == '\n' then skip r else c :: r
    | [] => []

/-- A string with escapes over several lines, after its opening quotes. -/
def longBody (fuel : Nat) (s : Rest) (read : List Char) : Option (String × Rest) :=
  match fuel, s with
  | _, '"' :: '"' :: '"' :: r => closed '"' r read
  | fuel + 1, '\\' :: r =>
    match continued? r with
    | some r => longBody fuel r read
    | none =>
      match escaped? r with
      | some (c, r) => longBody fuel r (c :: read)
      | none => none
  | fuel + 1, '\r' :: '\n' :: r => longBody fuel r ('\n' :: read)
  | fuel + 1, c :: r => if isPlain c || c == '\n' then longBody fuel r (c :: read) else none
  | _, _ => none

/-- A literal string, after its opening quote. -/
def literalBody (read : List Char) : Rest → Option (String × Rest)
  | [] => none
  | c :: r =>
    if c = '\'' then some (String.ofList read.reverse, r)
    else if isPlain c then literalBody (c :: read) r
    else none

/-- A literal string over several lines, after its opening quotes. -/
def longLiteralBody (read : List Char) : Rest → Option (String × Rest)
  | '\'' :: '\'' :: '\'' :: r => closed '\'' r read
  | '\r' :: '\n' :: r => longLiteralBody ('\n' :: read) r
  | c :: r => if isPlain c || c == '\n' then longLiteralBody (c :: read) r else none
  | [] => none

def dropBreak (s : Rest) : Rest := (newline? s).getD s

/-- A string on one line, as it also stands in keys. -/
def shortString? : Rest → Option (String × Rest)
  | '"' :: r => basicBody (r.length + 1) r []
  | '\'' :: r => literalBody [] r
  | _ => none

def string? : Rest → Option (String × Rest)
  | '"' :: '"' :: '"' :: r => longBody (r.length + 1) (dropBreak r) []
  | '\'' :: '\'' :: '\'' :: r => longLiteralBody [] (dropBreak r)
  | s => shortString? s

/-! ## Keys -/

def isBare (c : Char) : Bool := c.isAlphanum || c == '_' || c == '-'

def simpleKey? (s : Rest) : Option (String × Rest) :=
  match s with
  | '"' :: _ | '\'' :: _ => shortString? s
  | _ =>
    let key := s.takeWhile isBare
    if key.isEmpty then none else some (String.ofList key, s.dropWhile isBare)

/-- How many parts a dotted key can have. -/
def keyLimit : Nat := 79

/-- The parts of a dotted key, with blanks around each. -/
def keyParts (fuel : Nat) (s : Rest) : Option (List String × Rest) :=
  match fuel with
  | 0 => none
  | fuel + 1 =>
    match simpleKey? (skipSpaces s) with
    | none => none
    | some (k, r) =>
      match skipSpaces r with
      | '.' :: r => (keyParts fuel r).map fun (ks, r) => (k :: ks, r)
      | r => some ([k], r)

def key? (s : Rest) : Option (List String × Rest) := keyParts keyLimit s

/-! ## Numbers -/

/-- Digits with single underscores between them, after the first digit. -/
def moreDigits (p : Char → Bool) : Rest → List Char × Rest
  | '_' :: d :: r =>
    if p d then let (ds, r) := moreDigits p r; (d :: ds, r) else ([], '_' :: d :: r)
  | c :: r => if p c then let (ds, r) := moreDigits p r; (c :: ds, r) else ([], c :: r)
  | [] => ([], [])

def digits? (p : Char → Bool) : Rest → Option (List Char × Rest)
  | c :: r => if p c then let (ds, r) := moreDigits p r; some (c :: ds, r) else none
  | [] => none

def sign? : Rest → List Char × Rest
  | '+' :: r => (['+'], r)
  | '-' :: r => (['-'], r)
  | r => ([], r)

/-- A sign and decimal digits without leading zeros. -/
def decimal? (s : Rest) : Option (List Char × Rest) :=
  let (sign, s) := sign? s
  match s with
  | '0' :: r => some (sign ++ ['0'], r)
  | s => (digits? Char.isDigit s).map fun (ds, r) => (sign ++ ds, r)

/-- Digits of another base, after its mark. -/
def based? (base : Nat) (p : Char → Bool) (s : Rest) : Option (Int × Rest) := do
  let (ds, r) ← digits? p s
  let n := ds.foldl (fun n c => base * n + (hexDigit? c).getD 0) 0
  if n < Number.wholeBound then some (n, r) else none

def isHex (c : Char) : Bool := (hexDigit? c).isSome

def integer? : Rest → Option (Int × Rest)
  | '0' :: 'x' :: r => based? 16 isHex r
  | '0' :: 'o' :: r => based? 8 (fun c => '0' ≤ c && c ≤ '7') r
  | '0' :: 'b' :: r => based? 2 (fun c => c == '0' || c == '1') r
  | s => do
    let (ds, r) ← decimal? s
    let n ← Number.integer? ds
    some (n, r)

def exponentPart? : Rest → Option (List Char × Rest)
  | c :: r =>
    if c = 'e' ∨ c = 'E' then
      let (sign, r) := sign? r
      (digits? Char.isDigit r).map fun (ds, r) => ('e' :: sign ++ ds, r)
    else none
  | [] => none

def fractionPart? : Rest → Option (List Char × Rest)
  | '.' :: r => (digits? Char.isDigit r).map fun (ds, r) => ('.' :: ds, r)
  | _ => none

/-- The digits of a floating-point number: a whole part and then a fraction, an exponent
    or both. -/
def floatDigits? (s : Rest) : Option (List Char × Rest) := do
  let (whole, r) ← decimal? s
  match fractionPart? r with
  | some (part, r) =>
    match exponentPart? r with
    | some (e, r) => some (whole ++ part ++ e, r)
    | none => some (whole ++ part, r)
  | none => (exponentPart? r).map fun (e, r) => (whole ++ e, r)

def named? (name : String) (s : Rest) : Option Rest :=
  if name.toList.isPrefixOf s then some (s.drop name.length) else none

/-- A floating-point number, an infinity or what is not a number. One that would round
    up to infinity is refused. -/
def float? (s : Rest) : Option Rest :=
  match floatDigits? s with
  | some (ds, r) =>
    match Number.float? Number.double ds with
    | some x => if x = Number.Binary.infinity Number.double false then none else some r
    | none => none
  | none => let s := (sign? s).2; (named? "inf" s).or (named? "nan" s)

/-! ## Dates and times -/

/-- A number of exactly so many digits, in a range. -/
def fixed? (count lo hi : Nat) (s : Rest) : Option (Nat × Rest) :=
  let ds := s.take count
  if ds.length = count && ds.all Char.isDigit then
    let n := Number.ofDigits ds
    if lo ≤ n && n ≤ hi then some (n, s.drop count) else none
  else none

def expect (c : Char) : Rest → Option Rest
  | d :: r => if c = d then some r else none
  | [] => none

def daysIn (year month : Nat) : Nat :=
  if month = 2 then (if year % 4 = 0 ∧ (year % 100 ≠ 0 ∨ year % 400 = 0) then 29 else 28)
  else if month = 4 ∨ month = 6 ∨ month = 9 ∨ month = 11 then 30
  else 31

def date? (s : Rest) : Option Rest := do
  let (year, s) ← fixed? 4 0 9999 s
  let s ← expect '-' s
  let (month, s) ← fixed? 2 1 12 s
  let s ← expect '-' s
  let (_, s) ← fixed? 2 1 (daysIn year month) s
  some s

def time? (s : Rest) : Option Rest := do
  let (_, s) ← fixed? 2 0 23 s
  let s ← expect ':' s
  let (_, s) ← fixed? 2 0 59 s
  let s ← expect ':' s
  let (_, s) ← fixed? 2 0 60 s
  match s with
  | '.' :: r => if (r.takeWhile Char.isDigit).isEmpty then some s else some (r.dropWhile Char.isDigit)
  | _ => some s

def offset? : Rest → Option Rest
  | c :: r =>
    if c = 'Z' ∨ c = 'z' then some r
    else if c = '+' ∨ c = '-' then do
      let (_, s) ← fixed? 2 0 23 r
      let s ← expect ':' s
      let (_, s) ← fixed? 2 0 59 s
      some s
    else none
  | [] => none

/-- A date, a time, or both with an optional offset. -/
def datetime? (s : Rest) : Option Rest :=
  match date? s with
  | some r =>
    match r with
    | c :: r' =>
      if c = 'T' ∨ c = 't' ∨ c = ' ' then
        match time? r' with
        | some after => some ((offset? after).getD after)
        | none => some r
      else some r
    | [] => some []
  | none => time? s

end CommandConsole.Toml
