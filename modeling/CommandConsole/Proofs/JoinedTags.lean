/-
  CommandConsole.Proofs.JoinedTags — tags that only show up in plain text.

  Plain text is made in one pass. Bold tags become apostrophes, italic and color tags are
  dropped, and what is no tag stays, a lone `<` too. So where a tag is dropped, the characters
  in front of it and behind it become neighbours, and a `<` that started no tag may start one
  then: `<<i>i>` becomes `<i>`.

  This is the only way. A tag of the plain text is made of characters that stood in the text in
  this order (`exists_passes`). An apostrophe is in no tag, so there was no bold tag between
  them; and if there was none at all between them, they stood side by side, and would have been
  read as the tag that they are (`Passes.side_by_side`). `Joined` says what is left: literal
  characters that make up a tag once the tags dropped between them are gone.

  Proved (`plain_untagged_iff`), for every text: its plain text has no tag exactly if a second
  pass leaves it alone, and exactly if nothing in the text is joined. So a text without italic
  and color tags has plain text without tags (`plain_untagged`). `italics_joined` is a text
  that is joined.
-/

import CommandConsole.Proofs.Spans
import CommandConsole.Proofs.UnknownNames
import CommandConsole.Proofs.WrittenSpans

namespace CommandConsole.Markup

variable {s r rest t : List Char} {ss : List Span} {span : Span}

/-! ## Text and tags -/

theorem Tag.ne_nil (tag : Tag t span) : t ≠ [] := by
  obtain ⟨body, rfl, -⟩ := tag.shape
  exact List.cons_ne_nil _ _

theorem Tag.not_isText (tag : Tag t span) : ¬ span.IsText := by
  cases span with
  | text t => exact absurd rfl (tag.not_text t)
  | _ => exact id

/-- A text has no tag in it if and only if all its spans are text. -/
theorem tagFree_iff (s : List Char) : TagFree s ↔ ∀ span ∈ scan [] s, span.IsText := by
  obtain ⟨ps, reads⟩ := exists_reads [] s
  have spans : ps.map Piece.span = scan [] s := reads.spans
  have sources : ps.flatMap Piece.source = s := reads.sources
  rw [← spans, List.forall_mem_map]
  constructor
  · intro free p hp
    rcases reads.fits p hp with ⟨isLiteral, -⟩ | tag
    · rw [isLiteral]
      trivial
    · have inside : p.source <:+: ps.flatMap Piece.source := List.infix_of_mem_flatten (List.mem_map_of_mem hp)
      exact absurd (sources ▸ inside) (free _ _ tag)
  · intro texts
    have shown : ∀ p ∈ ps, p.span.plain = p.source := by
      intro p hp
      rcases reads.fits p hp with ⟨isLiteral, -⟩ | tag
      · rw [isLiteral]
        rfl
      · exact absurd (texts p hp) tag.not_isText
    rw [← plainChars_eq_iff]
    calc plainChars s = (ps.map Piece.span).flatMap Span.plain := by rw [spans, plainChars]
      _ = ps.flatMap fun p => p.span.plain := List.flatMap_map ..
      _ = ps.flatMap Piece.source := List.flatMap_congr shown
      _ = s := sources

/-! ## From a place in the text to another -/

/-- A reader passes literal characters and tags, and comes to stand in front of the rest. -/
inductive Passes : List Char → List Span → List Char → Prop
  | stop (s : List Char) : Passes s [] s
  | char {c : Char} {r rest : List Char} {ss : List Span} (literal : tag? (c :: r) = none) (on : Passes r ss rest) :
      Passes (c :: r) (.text [c] :: ss) rest
  | tag {s r rest : List Char} {span : Span} {ss : List Span} (found : tag? s = some (span, r)) (on : Passes r ss rest) :
      Passes s (span :: ss) rest

/-- A tag of which plain text shows nothing. -/
def Span.Dropped : Span → Prop
  | .italicOn | .italicOff | .colorOn _ | .colorOff => True
  | _ => False

theorem Span.Dropped.plain (dropped : span.Dropped) : span.plain = [] := by
  cases span with
  | text | boldOn | boldOff => exact dropped.elim
  | _ => rfl

theorem Span.Dropped.not_isText (dropped : span.Dropped) : ¬ span.IsText := by
  cases span with
  | text => exact dropped.elim
  | _ => exact id

/-- Somewhere in the text, characters and dropped tags make up a tag without the dropped ones. -/
def Joined (s : List Char) : Prop :=
  ∃ before here inside rest span, Passes s before here ∧ Passes here inside rest ∧
    Tag (inside.flatMap Span.plain) span ∧ ∃ d ∈ inside, d.Dropped

theorem tag?_opens (found : tag? s = some (span, r)) : ∃ u, s = '<' :: u := by
  obtain ⟨t, tag, rfl⟩ := tag?_eq_some_iff.mp found
  obtain ⟨body, rfl, -⟩ := tag.shape
  exact ⟨_, rfl⟩

theorem tag?_literal {c : Char} (literal : c = '<' → tag? ('<' :: r) = none) : tag? (c :: r) = none := by
  by_contra tagged
  obtain ⟨⟨span, rest⟩, found⟩ := Option.ne_none_iff_exists'.mp tagged
  obtain ⟨u, opens⟩ := tag?_opens found
  cases opens
  exact tagged (literal rfl)

/-- What is passed is shown, and then the rest. -/
theorem Passes.plainChars_eq (passes : Passes s ss r) : plainChars s = ss.flatMap Span.plain ++ plainChars r := by
  induction passes with
  | stop => rfl
  | @char c r rest ss literal on ih =>
    rw [plainChars_literal (by rintro rfl; exact literal), ih]
    rfl
  | tag found on ih =>
    obtain ⟨u, rfl⟩ := tag?_opens found
    rw [plainChars_tag found, ih, List.flatMap_cons, List.append_assoc]

theorem Passes.trans {ss' : List Span} (passes : Passes s ss r) (on : Passes r ss' rest) : Passes s (ss ++ ss') rest := by
  induction passes with
  | stop => exact on
  | char literal _ ih => exact .char literal (ih on)
  | tag found _ ih => exact .tag found (ih on)

/-- A tag that is passed is a span of the text. -/
theorem Passes.mem_scan (passes : Passes s ss r) (held : List Char) : ∀ d ∈ ss, ¬ d.IsText → d ∈ scan held s := by
  induction passes generalizing held with
  | stop => simp
  | @char c r rest ss literal on ih =>
    intro d hd tagged
    rcases List.mem_cons.mp hd with rfl | hd
    · exact absurd trivial tagged
    · rw [scan_literal (by rintro rfl; exact literal)]
      exact ih _ d hd tagged
  | tag found on ih =>
    intro d hd tagged
    obtain ⟨u, rfl⟩ := tag?_opens found
    rw [scan_tag found]
    rcases List.mem_cons.mp hd with rfl | hd
    · simp
    · exact List.mem_append_right _ (List.mem_cons_of_mem _ (ih [] d hd tagged))

/-- Plain text shows an apostrophe or nothing of a tag. -/
theorem Tag.plain_cases (tag : Tag t span) : span.Dropped ∨ span.plain = ['\''] := by
  cases span with
  | text t => exact absurd rfl (tag.not_text t)
  | boldOn | boldOff => exact .inr rfl
  | _ => exact .inl trivial

/-- Plain text is shown on the way, so a part of it up to any place is what is passed on the
    way to some place. -/
theorem exists_passes {a b : List Char} (shown : plainChars s = a ++ b) :
    ∃ ss r, Passes s ss r ∧ ss.flatMap Span.plain = a ∧ plainChars r = b := by
  induction s using tagInduction generalizing a with
  | nil =>
    rw [plainChars_nil] at shown
    obtain ⟨rfl, rfl⟩ := List.append_eq_nil_iff.mp shown.symm
    exact ⟨[], [], .stop _, rfl, plainChars_nil⟩
  | literal c u h ih =>
    cases a with
    | nil => exact ⟨[], _, .stop _, rfl, shown⟩
    | cons x a =>
      rw [plainChars_literal h, List.cons_append, List.cons.injEq] at shown
      obtain ⟨rfl, behind⟩ := shown
      obtain ⟨ss, r, passes, front, back⟩ := ih behind
      exact ⟨_, r, .char (tag?_literal h) passes, congrArg (c :: ·) front, back⟩
  | tag u span v h ih =>
    rw [plainChars_tag h] at shown
    obtain ⟨t, tag, -⟩ := tag?_eq_some_iff.mp h
    rcases tag.plain_cases with dropped | bold
    · rw [dropped.plain, List.nil_append] at shown
      obtain ⟨ss, r, passes, front, back⟩ := ih shown
      refine ⟨_, r, .tag h passes, ?_, back⟩
      rw [List.flatMap_cons, dropped.plain, front, List.nil_append]
    · cases a with
      | nil => exact ⟨[], _, .stop _, rfl, (plainChars_tag h).trans shown⟩
      | cons x a =>
        rw [bold, List.singleton_append, List.cons_append, List.cons.injEq] at shown
        obtain ⟨rfl, behind⟩ := shown
        obtain ⟨ss, r, passes, front, back⟩ := ih behind
        refine ⟨_, r, .tag h passes, ?_, back⟩
        rw [List.flatMap_cons, bold, front, List.singleton_append]

/-! ## What joins -/

theorem fixedTags_no_apostrophe : ∀ t ∈ fixedTags, '\'' ∉ t.1 := by decide

theorem Tag.no_apostrophe (tag : Tag t span) : '\'' ∉ t := by
  cases tag with
  | fixed known => exact fixedTags_no_apostrophe _ known
  | color _ named =>
    have color : '\'' ∉ _ := fun inside => absurd (Color.ofText_letters named '\'' inside) (by decide)
    simp [color]

/-- Where no tag is passed, the characters that are shown stood side by side, and at the first
    of them no tag started. -/
theorem Passes.side_by_side (passes : Passes s ss r) (kept : ∀ d ∈ ss, ¬ d.Dropped) (unquoted : '\'' ∉ ss.flatMap Span.plain) :
    s = ss.flatMap Span.plain ++ r ∧ (ss ≠ [] → tag? s = none) := by
  induction passes with
  | stop => exact ⟨rfl, fun some => absurd rfl some⟩
  | @char c r rest ss literal on ih =>
    rw [List.flatMap_cons, List.mem_append, not_or] at unquoted
    have behind := (ih (fun d hd => kept d (List.mem_cons_of_mem _ hd)) unquoted.2).1
    exact ⟨congrArg (c :: ·) behind, fun _ => literal⟩
  | tag found on =>
    obtain ⟨t, tag, -⟩ := tag?_eq_some_iff.mp found
    rcases tag.plain_cases with dropped | bold
    · exact absurd dropped (kept _ List.mem_cons_self)
    · rw [List.flatMap_cons, bold] at unquoted
      exact absurd (List.mem_append_left _ List.mem_cons_self) unquoted

/-- A text has a tag in its plain text if and only if it is joined somewhere. -/
theorem tagFree_plainChars_iff (s : List Char) : TagFree (plainChars s) ↔ ¬ Joined s := by
  constructor
  · rintro free ⟨before, here, inside, rest, span, reaches, reads, tag, -⟩
    refine free _ span tag ⟨before.flatMap Span.plain, plainChars rest, ?_⟩
    rw [reaches.plainChars_eq, reads.plainChars_eq, List.append_assoc]
  · rintro apart t span tag ⟨a, b, shown⟩
    rw [List.append_assoc] at shown
    obtain ⟨before, here, reaches, -, behind⟩ := exists_passes shown.symm
    obtain ⟨inside, rest, reads, rfl, -⟩ := exists_passes behind
    refine apart ⟨before, here, inside, rest, span, reaches, reads, tag, ?_⟩
    by_contra none
    have kept : ∀ d ∈ inside, ¬ d.Dropped := fun d hd dropped => none ⟨d, hd, dropped⟩
    obtain ⟨whole, literal⟩ := reads.side_by_side kept tag.no_apostrophe
    have some : inside ≠ [] := fun empty => tag.ne_nil (by rw [empty]; rfl)
    have recognised := tag.recognised rest
    rw [← whole, literal some] at recognised
    cases recognised

theorem tagFree_toPlain_iff (text : String) : TagFree (toPlain text).toList ↔ ¬ Joined text.toList := by
  rw [toPlain, String.toList_ofList, tagFree_plainChars_iff]

/-- Text without italic and color tags has plain text without tags. -/
theorem plain_untagged {text : String} (kept : ∀ span ∈ spans text, ¬ span.Dropped) : TagFree (toPlain text).toList := by
  rw [tagFree_toPlain_iff]
  rintro ⟨before, here, inside, rest, span, reaches, reads, tag, d, hd, dropped⟩
  have passed : d ∈ before ++ inside := List.mem_append_right _ hd
  exact kept d ((reaches.trans reads).mem_scan [] d passed dropped.not_isText) dropped

/-- The plain text of a text has no tag in it exactly if rendering it once more leaves it
    alone, and exactly if the text is not joined anywhere. -/
theorem plain_untagged_iff (text : String) :
    ((∀ span ∈ spans (toPlain text), span.IsText) ↔ toPlain (toPlain text) = toPlain text) ∧
    ((∀ span ∈ spans (toPlain text), span.IsText) ↔ ¬ Joined text.toList) := by
  have free := tagFree_iff (toPlain text).toList
  exact ⟨free.symm.trans (toPlain_eq_iff _).symm, free.symm.trans (tagFree_toPlain_iff text)⟩

/-- What stands around an italic tag is joined to one. -/
theorem italics_joined : toPlain "<<i>i>" = "<i>" ∧ spans (toPlain "<<i>i>") = [.italicOn] ∧
    toPlain (toPlain "<<i>i>") ≠ toPlain "<<i>i>" := by
  decide +kernel

end CommandConsole.Markup
