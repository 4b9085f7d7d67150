/-
  CommandConsole.Proofs.Spans — a text is read position by position.

  What the spans of a text should be can be said with one place in it. A reader stands at a
  position, within a run of literal characters. If a tag starts there, the run ends, the tag
  is the next piece, and the reader goes on behind it; if not, the character joins the run.
  `Reads` is this reader, with the pieces it makes: each has its source, the characters it
  was read from, and its span. It knows nothing of how a tag is found.

  `search` is a reader with two places. It keeps what lies behind the last tag, and a place
  up to which no tag starts in it; it goes from `<` to `<`, past one that starts no tag, and a
  tag cuts off all that lies before and in it.

  Proved (`spans_read`), for every text: there is one way to read it, and `spans` and `search`
  both answer its spans. The sources make up the text again. A piece is a tag or literal;
  literal pieces are not empty and no two are neighbours, and at no position in one does a
  tag start, however far into the text behind it that tag would reach.
-/

import CommandConsole.Proofs.Tags
import Mathlib.Data.List.Chain

namespace CommandConsole.Markup

variable {s t run rest : List Char} {span : Span}

/-! ## Reading position by position -/

/-- A tag starts at the front of the text. -/
def StartsTag (s : List Char) : Prop := ∃ t span, Tag t span ∧ t <+: s

theorem startsTag_iff : StartsTag s ↔ tag? s ≠ none := by
  constructor
  · rintro ⟨t, span, tag, rest, rfl⟩
    rw [tag.recognised]
    exact Option.some_ne_none _
  · intro h
    obtain ⟨⟨span, rest⟩, e⟩ := Option.ne_none_iff_exists'.mp h
    obtain ⟨t, tag, rfl⟩ := tag?_eq_some_iff.mp e
    exact ⟨t, span, tag, List.prefix_append _ _⟩

instance (s : List Char) : Decidable (StartsTag s) := decidable_of_iff _ startsTag_iff.symm

theorem StartsTag.opens {c : Char} (h : StartsTag (c :: rest)) : c = '<' := by
  obtain ⟨t, span, tag, opens⟩ := h
  obtain ⟨body, rfl, -⟩ := tag.shape
  exact (List.cons_prefix_cons.mp opens).1.symm

/-- A part of a text, and what it is read as. -/
structure Piece where
  source : List Char
  span : Span
  deriving DecidableEq

/-- The piece that a run of literal characters ends as, if there is any of it. -/
def literal (run : List Char) : List Piece := if run.isEmpty then [] else [⟨run, .text run⟩]

/-- The pieces of the rest of a text, when the reader is behind a run of literal characters. -/
inductive Reads : List Char → List Char → List Piece → Prop
  | stop (run : List Char) : Reads run [] (literal run)
  | tag {run s t rest : List Char} {span : Span} {ps : List Piece} (tag : Tag t span) (front : s = t ++ rest)
    (behind : Reads [] rest ps) : Reads run s (literal run ++ ⟨t, span⟩ :: ps)
  | char {run rest : List Char} {c : Char} {ps : List Piece} (none : ¬ StartsTag (c :: rest))
    (behind : Reads (run ++ [c]) rest ps) : Reads run (c :: rest) ps

variable {ps qs : List Piece}

theorem exists_reads (run s : List Char) : ∃ ps, Reads run s ps := by
  induction s using tagInduction generalizing run with
  | nil => exact ⟨_, .stop run⟩
  | literal c r h ih =>
    obtain ⟨ps, behind⟩ := ih (run ++ [c])
    refine ⟨ps, .char (fun starts => ?_) behind⟩
    cases starts.opens
    exact startsTag_iff.mp starts (h rfl)
  | tag r span rest h ih =>
    obtain ⟨t, tag, front⟩ := tag?_eq_some_iff.mp h
    obtain ⟨ps, behind⟩ := ih []
    exact ⟨_, .tag tag front behind⟩

/-- The reader has no choice. -/
theorem Reads.unique (h : Reads run s ps) (h' : Reads run s qs) : ps = qs := by
  induction h generalizing qs with
  | stop run =>
    cases h' with
    | stop => rfl
    | tag tag front _ =>
      obtain ⟨body, rfl, -⟩ := tag.shape
      cases front
  | @tag run s t rest span ps tag front behind ih =>
    have first := tag?_eq_some_iff.mpr ⟨t, tag, front⟩
    cases h' with
    | stop =>
      obtain ⟨body, rfl, -⟩ := tag.shape
      cases front
    | @tag _ _ t' rest' span' qs tag' front' behind' =>
      have second := tag?_eq_some_iff.mpr ⟨t', tag', front'⟩
      rw [first] at second
      cases second
      cases List.append_cancel_right (front.symm.trans front')
      rw [ih behind']
    | char none _ => exact absurd ⟨t, span, tag, rest, front.symm⟩ none
  | char none behind ih =>
    cases h' with
    | tag tag front _ => exact absurd ⟨_, _, tag, _, front.symm⟩ none
    | char _ behind' => exact ih behind'

theorem map_literal (run : List Char) : (literal run).map Piece.span = flush run.reverse := by
  cases run <;> simp [literal, flush]

theorem Reads.spans (h : Reads run s ps) : ps.map Piece.span = scan run.reverse s := by
  induction h with
  | stop run => rw [map_literal, scan]
  | @tag run s t rest span ps tag front behind ih =>
    obtain ⟨body, rfl, -⟩ := tag.shape
    have found := tag?_eq_some_iff.mpr ⟨_, tag, front⟩
    rw [front, List.cons_append] at found ⊢
    rw [scan_tag found, List.map_append, map_literal, List.map_cons, ih, List.reverse_nil]
  | @char run rest c ps none behind ih =>
    have untagged : c = '<' → tag? ('<' :: rest) = Option.none := by
      rintro rfl
      by_contra tagged
      exact none (startsTag_iff.mpr tagged)
    rw [ih, scan_literal untagged, List.reverse_append, List.reverse_singleton, List.singleton_append]

/-! ## What is read -/

/-- A piece is literal text. -/
def Piece.IsLiteral (p : Piece) : Prop := p.span = .text p.source

/-- Literal text that is not empty, or a tag. -/
def Piece.Fits (p : Piece) : Prop := p.IsLiteral ∧ p.source ≠ [] ∨ Tag p.source p.span

theorem Tag.not_text (tag : Tag t span) (text : List Char) : span ≠ .text text := by
  have fixed : ∀ entry ∈ fixedTags, ∀ t, entry.2 ≠ .text t := by simp [fixedTags]
  cases tag with
  | fixed known => exact fixed _ known text
  | color => exact Span.noConfusion

theorem Reads.sources (h : Reads run s ps) : ps.flatMap Piece.source = run ++ s := by
  have one : ∀ run, (literal run).flatMap Piece.source = run := by
    intro run
    cases run <;> simp [literal]
  induction h with
  | stop run => rw [one, List.append_nil]
  | tag _ front _ ih => rw [List.flatMap_append, one, List.flatMap_cons, ih, front, List.nil_append]
  | char _ _ ih => rw [ih, List.append_assoc, List.singleton_append]

theorem literal_cases (run : List Char) : run = [] ∧ literal run = [] ∨ run ≠ [] ∧ literal run = [⟨run, .text run⟩] := by
  cases run <;> simp [literal]

theorem Reads.fits (h : Reads run s ps) : ∀ p ∈ ps, p.Fits := by
  have one : ∀ run, ∀ p ∈ literal run, p.Fits := by
    intro run p hp
    rcases literal_cases run with ⟨rfl, e⟩ | ⟨some, e⟩
    · rw [e] at hp
      cases hp
    · rw [e] at hp
      cases List.mem_singleton.mp hp
      exact .inl ⟨rfl, some⟩
  induction h with
  | stop run => exact one run
  | @tag run s t rest span ps tag front behind ih =>
    rw [List.forall_mem_append, List.forall_mem_cons]
    exact ⟨one run, .inr tag, ih⟩
  | char _ _ ih => exact ih

/-- Of two neighbours one is a tag. -/
def Parted (p q : Piece) : Prop := ¬ (p.IsLiteral ∧ q.IsLiteral)

theorem Reads.parted (h : Reads run s ps) : ps.IsChain Parted := by
  induction h with
  | stop run => rcases literal_cases run with ⟨-, e⟩ | ⟨-, e⟩ <;> simp [e]
  | @tag run s t rest span ps tag front behind ih =>
    have tagged : ¬ Piece.IsLiteral ⟨t, span⟩ := tag.not_text t
    have later : List.IsChain Parted (⟨t, span⟩ :: ps) := by
      cases ps with
      | nil => exact List.isChain_singleton _
      | cons q ps => exact List.isChain_cons_cons.mpr ⟨fun both => tagged both.1, ih⟩
    rcases literal_cases run with ⟨-, e⟩ | ⟨-, e⟩
    · rwa [e]
    · rw [e]
      exact List.isChain_cons_cons.mpr ⟨fun both => tagged both.2, later⟩
  | char _ _ ih => exact ih

/-- No tag starts within the first part of a text. -/
def Untagged (run rest : List Char) : Prop := ∀ before v, run = before ++ v → v ≠ [] → ¬ StartsTag (v ++ rest)

theorem Untagged.snoc {c : Char} (untagged : Untagged run (c :: rest)) (none : ¬ StartsTag (c :: rest)) :
    Untagged (run ++ [c]) rest := by
  intro before v whole some starts
  rcases List.eq_nil_or_concat' v with rfl | ⟨v, d, rfl⟩
  · exact some rfl
  · rw [← List.append_assoc] at whole
    obtain ⟨front, last⟩ := List.append_inj' whole rfl
    cases last
    rw [List.append_assoc, List.singleton_append] at starts
    cases v with
    | nil => exact none starts
    | cons e v => exact untagged before (e :: v) front (List.cons_ne_nil _ _) starts

/-- The literal pieces of a text have no tag in them. -/
theorem Reads.untagged (h : Reads run s ps) (untagged : Untagged run s) :
    ∀ p after, p :: after <:+ ps → p.IsLiteral → Untagged p.source (after.flatMap Piece.source) := by
  induction h with
  | stop run =>
    intro p after within _
    rcases literal_cases run with ⟨-, e⟩ | ⟨-, e⟩
    · rw [e] at within
      cases List.suffix_nil.mp within
    · rw [e] at within
      rcases List.suffix_cons_iff.mp within with whole | within
      · cases whole
        exact untagged
      · cases List.suffix_nil.mp within
  | @tag run s t rest span ps tag front behind ih =>
    intro p after within isLiteral
    have ih := ih (fun before v whole some => absurd (List.append_eq_nil_iff.mp whole.symm).2 some)
    have later : p :: after <:+ ⟨t, span⟩ :: ps → Untagged p.source (after.flatMap Piece.source) := by
      intro within
      rcases List.suffix_cons_iff.mp within with whole | within
      · cases whole
        exact absurd isLiteral (tag.not_text t)
      · exact ih p after within isLiteral
    rcases literal_cases run with ⟨-, e⟩ | ⟨-, e⟩
    · rw [e] at within
      exact later within
    · rw [e, List.singleton_append] at within
      rcases List.suffix_cons_iff.mp within with whole | within
      · cases whole
        rw [List.flatMap_cons, behind.sources, List.nil_append, ← front]
        exact untagged
      · exact later within
  | char none _ ih => exact ih (untagged.snoc none)

/-! ## Reading with two cursors -/

theorem findIdx?_lt {pos offset : Nat} (h : (s.drop pos).findIdx? (· == '<') = some offset) : pos + offset < s.length := by
  have := (List.findIdx?_eq_some_iff_getElem.mp h).1
  rw [List.length_drop] at this
  omega

/-- The spans of a text that lies behind a tag. No tag starts in it before `pos`, where the
    search for the next `<` goes on. -/
def search (s : List Char) (pos : Nat) : List Span :=
  match _h : (s.drop pos).findIdx? (· == '<') with
  | none => flush s.reverse
  | some offset =>
    match _tagged : tag? (s.drop (pos + offset)) with
    | some (span, rest) => flush (s.take (pos + offset)).reverse ++ span :: search rest 0
    | none => search s (pos + offset + 1)
  termination_by (s.length, s.length - pos)
  decreasing_by
    · have := tag_shortens _tagged
      rw [List.length_drop] at this
      exact Prod.Lex.left _ _ (by omega)
    · have := findIdx?_lt _h
      exact Prod.Lex.right _ (by omega)

/-- The text from a cursor on, up to the next `<` and from there. -/
theorem drop_findIdx? {pos offset : Nat} (h : (s.drop pos).findIdx? (· == '<') = some offset) :
    ∃ u r, '<' ∉ u ∧ s.drop pos = u ++ '<' :: r ∧ s.take (pos + offset) = s.take pos ++ u ∧ s.drop (pos + offset) = '<' :: r := by
  obtain ⟨inside, here, before⟩ := List.findIdx?_eq_some_iff_getElem.mp h
  have front : (s.drop pos).drop offset = '<' :: (s.drop pos).drop (offset + 1) := by
    rw [List.drop_eq_getElem_cons inside, eq_of_beq here]
  refine ⟨(s.drop pos).take offset, (s.drop pos).drop (offset + 1), ?_, ?_, ?_, ?_⟩
  · intro opens
    obtain ⟨i, hi, e⟩ := List.mem_iff_getElem.mp opens
    rw [List.getElem_take] at e
    have earlier : i < offset := by
      rw [List.length_take] at hi
      omega
    exact before i earlier (beq_iff_eq.mpr e)
  · rw [← front, List.take_append_drop]
  · rw [List.take_add]
  · rw [← front, List.drop_drop]

theorem search_eq_scan (s : List Char) (pos : Nat) : search s pos = scan (s.take pos).reverse (s.drop pos) := by
  fun_induction search s pos with
  | case1 s pos last =>
    have unopened : '<' ∉ s.drop pos := by
      intro opens
      have := List.findIdx?_eq_none_iff.mp last '<' opens
      exact absurd this (by decide)
    have all := scan_unopened unopened (s.take pos).reverse []
    rw [List.append_nil, ← List.reverse_append, List.take_append_drop, scan] at all
    exact all.symm
  | case2 s pos offset next span rest tagged ih =>
    obtain ⟨u, r, unopened, front, passed, here⟩ := drop_findIdx? next
    rw [here] at tagged
    rw [ih, front, scan_unopened unopened, scan_tag tagged, ← List.reverse_append, ← passed]
    rfl
  | case3 s pos offset next untagged ih =>
    obtain ⟨u, r, unopened, front, passed, here⟩ := drop_findIdx? next
    rw [here] at untagged
    have inside := findIdx?_lt next
    have onward : s.drop (pos + offset + 1) = r := by
      rw [← List.drop_drop, here, List.drop_one, List.tail_cons]
    have passed' : s.take (pos + offset + 1) = s.take pos ++ u ++ ['<'] := by
      rw [List.take_add, passed, here]
      rfl
    rw [ih, onward, passed', front, scan_unopened unopened, scan_literal fun _ => untagged]
    simp

/-! ## The spans of a text -/

/-- There is one way to read a text position by position, and its spans are those of the
    text; the search with two cursors finds the same. The sources of its pieces make up the
    text. Each piece is a tag or literal text that is not empty, of two neighbours one is a
    tag, and within a literal piece no tag starts. -/
theorem spans_read (text : String) : ∃ ps,
    (∀ qs, Reads [] text.toList qs ↔ qs = ps) ∧
    spans text = ps.map Piece.span ∧
    spans text = search text.toList 0 ∧
    ps.flatMap Piece.source = text.toList ∧
    (∀ p ∈ ps, p.Fits) ∧
    ps.IsChain Parted ∧
    ∀ p after, p :: after <:+ ps → p.IsLiteral → Untagged p.source (after.flatMap Piece.source) := by
  obtain ⟨ps, reads⟩ := exists_reads [] text.toList
  have nothing : Untagged [] text.toList := fun before v whole some => absurd (List.append_eq_nil_iff.mp whole.symm).2 some
  refine ⟨ps, fun qs => ⟨fun h => h.unique reads, fun h => h ▸ reads⟩, ?_, ?_, reads.sources, reads.fits, reads.parted,
    reads.untagged nothing⟩
  · exact reads.spans.symm
  · rw [search_eq_scan]
    rfl

/-- A `<` that starts no tag is text, also in front of one that does, and so is what looks like
    a color until the next tag. -/
theorem spans_read_overlaps :
    let text := "<<b></b><color=<i></i><color=#0F0>x</color>"
    let pieces : List Piece := [⟨['<'], .text ['<']⟩, ⟨"<b>".toList, .boldOn⟩, ⟨"</b>".toList, .boldOff⟩,
      ⟨"<color=".toList, .text "<color=".toList⟩, ⟨"<i>".toList, .italicOn⟩, ⟨"</i>".toList, .italicOff⟩,
      ⟨"<color=#0F0>".toList, .colorOn ⟨0, 255, 0, 255⟩⟩, ⟨['x'], .text ['x']⟩, ⟨"</color>".toList, .colorOff⟩]
    (∀ qs, Reads [] text.toList qs ↔ qs = pieces) ∧ spans text = pieces.map Piece.span := by
  intro text pieces
  have last : Reads [] "<color=#0F0>x</color>".toList
      [⟨"<color=#0F0>".toList, .colorOn ⟨0, 255, 0, 255⟩⟩, ⟨['x'], .text ['x']⟩, ⟨"</color>".toList, .colorOff⟩] :=
    .tag (.color (v := "#0F0".toList) (by decide) (by decide)) rfl (.char (by decide) (.tag (.fixed (by decide)) rfl (.stop [])))
  have italics : Reads "<color=".toList "<i></i><color=#0F0>x</color>".toList
      (⟨"<color=".toList, .text "<color=".toList⟩ :: ⟨"<i>".toList, .italicOn⟩ :: ⟨"</i>".toList, .italicOff⟩ :: _) :=
    .tag (.fixed (by decide)) rfl (.tag (.fixed (by decide)) rfl last)
  have likeColor : Reads [] "<color=<i></i><color=#0F0>x</color>".toList _ :=
    .char (by decide) (.char (by decide) (.char (by decide) (.char (by decide) (.char (by decide) (.char (by decide)
      (.char (by decide) italics))))))
  have bold : Reads ['<'] "<b></b><color=<i></i><color=#0F0>x</color>".toList
      (⟨['<'], .text ['<']⟩ :: ⟨"<b>".toList, .boldOn⟩ :: ⟨"</b>".toList, .boldOff⟩ :: _) :=
    .tag (.fixed (by decide)) rfl (.tag (.fixed (by decide)) rfl likeColor)
  have reads : Reads [] ('<' :: "<b></b><color=<i></i><color=#0F0>x</color>".toList) pieces := .char (by decide) bold
  obtain ⟨ps, unique, same, -⟩ := spans_read text
  have whole : text.toList = '<' :: "<b></b><color=<i></i><color=#0F0>x</color>".toList := by decide
  obtain rfl := (unique pieces).mp (whole ▸ reads)
  exact ⟨unique, same⟩

end CommandConsole.Markup
