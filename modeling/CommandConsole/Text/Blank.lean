/-
  CommandConsole.Text.Blank — blank characters, and what is cut at them.

  A character is blank when Unicode gives it the White_Space property: the ASCII
  blanks, NEL, the no-break spaces, the typographic spaces, the two separators and
  the ideographic space. Zero-width characters, the byte-order mark and the ASCII
  file separators are not blank.

  - `trim` drops the blanks at both ends and nothing else.
  - `words` are the maximal runs of non-blank characters, in order.
  - `pieces` cuts at every occurrence of one character and keeps the empty pieces,
    so there is always one piece more than there are cuts.
-/

namespace CommandConsole.Text

/-- Whether Unicode counts the character as white space. -/
def isBlank (c : Char) : Bool :=
  let n := c.toNat
  (9 ≤ n && n ≤ 13) || n == 32 || n == 0x85 || n == 0xA0 || n == 0x1680 ||
    (0x2000 ≤ n && n ≤ 0x200A) || n == 0x2028 || n == 0x2029 || n == 0x202F ||
    n == 0x205F || n == 0x3000

/-! ## Ends -/

/-- Drop the trailing characters that satisfy `p`. -/
def dropEnd (p : Char → Bool) (s : List Char) : List Char := (s.reverse.dropWhile p).reverse

def trimChars (s : List Char) : List Char := dropEnd isBlank (s.dropWhile isBlank)

def trim (s : String) : String := String.ofList (trimChars s.toList)

def isBlankText (s : String) : Bool := s.toList.all isBlank

theorem dropEnd_split (p : Char → Bool) (s : List Char) : ∃ trail, s = dropEnd p s ++ trail ∧ ∀ c ∈ trail, p c = true := by
  refine ⟨(s.reverse.takeWhile p).reverse, ?_, fun c hc => ?_⟩
  · rw [dropEnd, ← List.reverse_append, List.takeWhile_append_dropWhile, List.reverse_reverse]
  · exact List.all_eq_true.mp List.all_takeWhile c (List.mem_reverse.mp hc)

/-- Trimming takes off blanks at the two ends. -/
theorem trimChars_split (s : List Char) : ∃ lead trail, s = lead ++ (trimChars s ++ trail) ∧
    (∀ c ∈ lead, isBlank c = true) ∧ ∀ c ∈ trail, isBlank c = true := by
  obtain ⟨trail, e, ht⟩ := dropEnd_split isBlank (s.dropWhile isBlank)
  refine ⟨s.takeWhile isBlank, trail, ?_, List.all_eq_true.mp List.all_takeWhile, ht⟩
  unfold trimChars
  rw [← e, List.takeWhile_append_dropWhile]

theorem trimChars_eq_nil {s : List Char} : trimChars s = [] ↔ ∀ c ∈ s, isBlank c = true := by
  constructor
  · intro h
    obtain ⟨lead, trail, e, hl, ht⟩ := trimChars_split s
    rw [e, h]
    intro c hc
    rcases List.mem_append.mp hc with hc | hc
    · exact hl c hc
    · exact ht c hc
  · intro h
    have : s.dropWhile isBlank = [] := by
      induction s with
      | nil => rfl
      | cons c s ih =>
        rw [List.dropWhile_cons, if_pos (h c List.mem_cons_self), ih (fun d hd => h d (List.mem_cons_of_mem c hd))]
    simp [trimChars, dropEnd, this]

theorem dropEnd_append {p : Char → Bool} {trail : List Char} (h : ∀ c ∈ trail, p c = true) (s : List Char) :
    dropEnd p (s ++ trail) = dropEnd p s := by
  have hr : ∀ c ∈ trail.reverse, p c = true := fun c hc => h c (List.mem_reverse.mp hc)
  rw [dropEnd, List.reverse_append, List.dropWhile_append_of_pos hr, dropEnd]

/-- Blanks at the end do not show in a trimmed text. -/
theorem trimChars_append_blanks {trail : List Char} (h : ∀ c ∈ trail, isBlank c = true) (s : List Char) :
    trimChars (s ++ trail) = trimChars s := by
  rw [trimChars, List.dropWhile_append]
  split
  · rename_i empty
    have hs : s.dropWhile isBlank = [] := List.isEmpty_iff.mp empty
    have ht : trail.dropWhile isBlank = [] := by rw [← List.append_nil trail, List.dropWhile_append_of_pos h]; rfl
    rw [trimChars, hs, ht]
  · rw [dropEnd_append h, trimChars]

theorem trimChars_blanks_append {lead : List Char} (h : ∀ c ∈ lead, isBlank c = true) (s : List Char) :
    trimChars (lead ++ s) = trimChars s := by
  rw [trimChars, List.dropWhile_append_of_pos h, trimChars]

theorem trimChars_trimChars (s : List Char) : trimChars (trimChars s) = trimChars s := by
  obtain ⟨lead, trail, e, hl, ht⟩ := trimChars_split s
  calc trimChars (trimChars s)
      = trimChars (trimChars s ++ trail) := (trimChars_append_blanks ht _).symm
    _ = trimChars (lead ++ (trimChars s ++ trail)) := (trimChars_blanks_append hl _).symm
    _ = trimChars s := by rw [← e]

/-! ## Cutting -/

def words : List Char → List (List Char)
  | [] => []
  | c :: r =>
    if isBlank c then words r
    else if r.head?.all isBlank then [c] :: words r
    else match words r with
      | w :: ws => (c :: w) :: ws
      | [] => [[c]]

def pieces (sep : Char) : List Char → List (List Char)
  | [] => [[]]
  | c :: r =>
    if c = sep then [] :: pieces sep r
    else match pieces sep r with
      | p :: ps => (c :: p) :: ps
      | [] => [[c]]

theorem pieces_ne_nil (sep : Char) (s : List Char) : pieces sep s ≠ [] := by
  cases s with
  | nil => simp [pieces]
  | cons c r =>
    simp only [pieces]
    split
    · simp
    · split <;> simp

def piecesOf (sep : Char) (s : String) : List String := (pieces sep s.toList).map String.ofList

/-! ## Letters -/

/-- Equal up to the case of ASCII letters. -/
def sameIgnoringCase (s t : List Char) : Bool := s.map Char.toLower == t.map Char.toLower

end CommandConsole.Text
