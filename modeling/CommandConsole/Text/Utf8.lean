/-
  CommandConsole.Text.Utf8 — text as bytes and back.

  A character is one to four bytes. `encode` writes them; `front` reads one character
  from the front of a byte list, or names how many bytes to replace when no
  character starts there: a lead byte together with the continuation bytes that
  could still have belonged to it form one replacement, every other stray byte is
  one of its own. `decodeLossy` never fails and puts U+FFFD for each of them;
  `decode?` refuses the whole text instead.

  The continuation ranges after E0, ED, F0 and F4 are narrower than 80..BF: they keep
  out overlong forms, surrogates and everything above U+10FFFF. No range holds a byte
  below 80, so such a byte begins a character whatever stands before it
  (`decodeLossy_append`).
-/

namespace CommandConsole.Text.Utf8

abbrev Byte := UInt8

/-! ## Writing -/

def encodeChar (c : Char) : List Byte :=
  let n := c.toNat
  if n < 0x80 then [n.toUInt8]
  else if n < 0x800 then [(0xC0 + n / 64).toUInt8, (0x80 + n % 64).toUInt8]
  else if n < 0x10000 then
    [(0xE0 + n / 4096).toUInt8, (0x80 + n / 64 % 64).toUInt8, (0x80 + n % 64).toUInt8]
  else
    [(0xF0 + n / 262144).toUInt8, (0x80 + n / 4096 % 64).toUInt8, (0x80 + n / 64 % 64).toUInt8,
      (0x80 + n % 64).toUInt8]

def encodeChars (s : List Char) : List Byte := s.flatMap encodeChar

def encode (s : String) : List Byte := encodeChars s.toList

/-! ## Reading -/

/-- What stands at the front of a byte list: a character, or bytes that form none.
    Both say how many bytes after the first belong to it. -/
inductive Front where
  | char (c : Char) (more : Nat)
  | invalid (more : Nat)
  deriving DecidableEq

def within (lo hi : Nat) (b : Byte) : Bool := lo ≤ b.toNat && b.toNat ≤ hi

def isContinuation (b : Byte) : Bool := within 0x80 0xBF b

/-- The second bytes a lead byte of three or four admits. -/
def secondFits (lead second : Byte) : Bool :=
  if lead = 0xE0 then within 0xA0 0xBF second
  else if lead = 0xED then within 0x80 0x9F second
  else if lead = 0xF0 then within 0x90 0xBF second
  else if lead = 0xF4 then within 0x80 0x8F second
  else isContinuation second

def front (b : Byte) (rest : List Byte) : Front :=
  let n := b.toNat
  if n < 0x80 then .char (Char.ofNat n) 0
  else if within 0xC2 0xDF b then
    match rest with
    | c :: _ =>
      if isContinuation c then .char (Char.ofNat ((n - 0xC0) * 64 + (c.toNat - 0x80))) 1 else .invalid 0
    | [] => .invalid 0
  else if within 0xE0 0xEF b then
    match rest with
    | c :: rest' =>
      if secondFits b c then
        match rest' with
        | d :: _ =>
          if isContinuation d then
            .char (Char.ofNat ((n - 0xE0) * 4096 + (c.toNat - 0x80) * 64 + (d.toNat - 0x80))) 2
          else .invalid 1
        | [] => .invalid 1
      else .invalid 0
    | [] => .invalid 0
  else if within 0xF0 0xF4 b then
    match rest with
    | c :: rest' =>
      if secondFits b c then
        match rest' with
        | d :: rest'' =>
          if isContinuation d then
            match rest'' with
            | e :: _ =>
              if isContinuation e then
                .char (Char.ofNat ((n - 0xF0) * 262144 + (c.toNat - 0x80) * 4096 + (d.toNat - 0x80) * 64 +
                  (e.toNat - 0x80))) 3
              else .invalid 2
            | [] => .invalid 2
          else .invalid 1
        | [] => .invalid 1
      else .invalid 0
    | [] => .invalid 0
  else .invalid 0

/-- How many bytes after the first belong to what stands in front. -/
def Front.more : Front → Nat
  | .char _ n => n
  | .invalid n => n

theorem front_more_le (b : Byte) (rest : List Byte) : (front b rest).more ≤ rest.length := by
  simp only [front]
  repeat' split
  all_goals simp [Front.more]

theorem isContinuation_eq_false {b : Byte} (low : b < 0x80) : isContinuation b = false := by
  have : b.toNat < 0x80 := UInt8.lt_iff_toNat_lt.mp low
  simp only [isContinuation, within, Bool.and_eq_false_iff, decide_eq_false_iff_not]
  omega

theorem secondFits_eq_false (lead : Byte) {b : Byte} (low : b < 0x80) : secondFits lead b = false := by
  have : b.toNat < 0x80 := UInt8.lt_iff_toNat_lt.mp low
  unfold secondFits
  simp only [isContinuation, within]
  repeat' split
  all_goals simp only [Bool.and_eq_false_iff, decide_eq_false_iff_not]; omega

/-- A byte below 80 never belongs to the character before it. -/
theorem front_append (b : Byte) (rest : List Byte) {x : Byte} (low : x < 0x80) (t : List Byte) :
    front b (rest ++ x :: t) = front b rest := by
  have hx := isContinuation_eq_false low
  have hs := secondFits_eq_false b low
  match rest with
  | [] => simp [front, hx, hs]
  | [c] => simp [front, hx]
  | [c, d] => simp [front, hx]
  | c :: d :: e :: rest => simp [front]

def replacement : Char := Char.ofNat 0xFFFD

theorem length_drop_lt (n : Nat) (b : Byte) (rest : List Byte) : (rest.drop n).length < (b :: rest).length := by
  rw [List.length_drop, List.length_cons]
  omega

/-- Every byte list as text: what is no character becomes U+FFFD. -/
def decodeLossy : List Byte → List Char
  | [] => []
  | b :: rest =>
    match front b rest with
    | .char c more => c :: decodeLossy (rest.drop more)
    | .invalid more => replacement :: decodeLossy (rest.drop more)
  termination_by bytes => bytes.length
  decreasing_by all_goals exact length_drop_lt _ b rest

/-- A text may be decoded in two parts if the second starts with a byte below 80. -/
theorem decodeLossy_append (bytes : List Byte) {x : Byte} (low : x < 0x80) (t : List Byte) :
    decodeLossy (bytes ++ x :: t) = decodeLossy bytes ++ decodeLossy (x :: t) := by
  fun_induction decodeLossy bytes with
  | case1 => rfl
  | case2 b rest c more h ih =>
    have fits : more ≤ rest.length := by simpa [h, Front.more] using front_more_le b rest
    rw [List.cons_append, decodeLossy, front_append b rest low t, h]
    simp only []
    rw [List.drop_append_of_le_length fits, ih, List.cons_append]
  | case3 b rest more h ih =>
    have fits : more ≤ rest.length := by simpa [h, Front.more] using front_more_le b rest
    rw [List.cons_append, decodeLossy, front_append b rest low t, h]
    simp only []
    rw [List.drop_append_of_le_length fits, ih, List.cons_append]

/-- The text of a byte list that is valid throughout. -/
def decode? : List Byte → Option (List Char)
  | [] => some []
  | b :: rest =>
    match front b rest with
    | .char c more => (decode? (rest.drop more)).map (c :: ·)
    | .invalid _ => none
  termination_by bytes => bytes.length
  decreasing_by exact length_drop_lt _ b rest

end CommandConsole.Text.Utf8
