/-
  CommandConsole.Proofs.Tags — reading marked-up text, one tag or character at a time.

  A tag is one of five fixed ones or a color. `Tag` spells them out, apart from the tables of the
  scan, and the scan recognises just these in front of any rest (`tag?_eq_some_iff`). A tag goes
  from a `<` to the first `>`, so what follows a text makes a tag of it only if the tag goes on
  into what follows (`tag?_append_of`).

  A text is empty, or its first character is literal, or a tag stands in front: every proof
  about `Markup.scan` goes by these three (`tagInduction`). In the second case the character
  is held back, in the third the held text comes out, then the tag, and the scan starts
  afresh (`scan_literal`, `scan_tag`).

  A rendering writes something for every span and leaves text as it is. What has been held
  back then only stands in front of the rest (`flatMap_scan`), so a rendering too can be
  read character by character (`flatMap_literal`, `flatMap_tag`). Two texts are rendered
  apart if the second does not change the tags of the first (`flatMap_append`), as when it
  begins with a character that no tag has behind its first one (`Outside`).
-/

import CommandConsole.Markup
import Mathlib.Data.List.Basic

namespace CommandConsole.Markup

/-! ## Tags -/

/-- A color tag is read off its opening, the color up to the first `>`, and that. -/
theorem colorTag?_closed {v : List Char} (hv : '>' ∉ v) (after : List Char) :
    colorTag? (colorOpen ++ (v ++ '>' :: after)) = (Color.ofText v).map fun c => (.colorOn c, after) := by
  have opens : colorOpen.isPrefixOf (colorOpen ++ (v ++ '>' :: after)) = true :=
    List.isPrefixOf_iff_prefix.mpr (List.prefix_append _ _)
  have inside : ∀ c ∈ v, (c != '>') = true := fun c hc => bne_iff_ne.mpr fun e => hv (e ▸ hc)
  unfold colorTag?
  rw [if_pos opens, List.drop_left]
  dsimp only
  rw [List.dropWhile_append_of_pos inside, List.takeWhile_append_of_pos inside]
  simp

theorem colorTag?_open {body : List Char} (h : '>' ∉ body) : colorTag? (colorOpen ++ body) = none := by
  have opens : colorOpen.isPrefixOf (colorOpen ++ body) = true := List.isPrefixOf_iff_prefix.mpr (List.prefix_append _ _)
  have inside : ∀ c ∈ body, (c != '>') = true := fun c hc => bne_iff_ne.mpr fun e => h (e ▸ hc)
  have nothing : body.dropWhile (· != '>') = [] := by
    rw [← List.append_nil body, List.dropWhile_append_of_pos inside, List.dropWhile_nil]
  unfold colorTag?
  rw [if_pos opens, List.drop_left]
  dsimp only
  rw [nothing]

theorem colorTag?_other {s : List Char} (h : ¬ colorOpen <+: s) : colorTag? s = none := by
  unfold colorTag?
  exact if_neg fun opens => h (List.isPrefixOf_iff_prefix.mp opens)

/-- A tag as it is written, and what it stands for. -/
inductive Tag : List Char → Span → Prop
  | fixed {t : List Char} {span : Span} (known : (t, span) ∈ [("<b>".toList, .boldOn), ("</b>".toList, .boldOff),
      ("<i>".toList, .italicOn), ("</i>".toList, .italicOff), ("</color>".toList, .colorOff)]) : Tag t span
  | color {v : List Char} {c : Color} (closed : '>' ∉ v) (named : (Color.ofHex v <|> Color.ofName v) = some c) :
    Tag ("<color=".toList ++ (v ++ ['>'])) (.colorOn c)

section

variable {s t r rest : List Char} {span : Span}

theorem fixedTags_shape : ∀ t ∈ fixedTags, t.1 = '<' :: (t.1.tail.dropLast ++ ['>']) ∧ '>' ∉ t.1.tail.dropLast := by decide

/-- A tag goes from a `<` to the first `>`. -/
theorem Tag.shape (tag : Tag t span) : ∃ body, t = '<' :: (body ++ ['>']) ∧ '>' ∉ body := by
  cases tag with
  | fixed known =>
    obtain ⟨whole, closed⟩ := fixedTags_shape _ known
    exact ⟨_, whole, closed⟩
  | @color v c closed _ =>
    have opening : "<color=".toList = '<' :: "color=".toList := rfl
    refine ⟨"color=".toList ++ v, ?_, ?_⟩
    · rw [List.append_assoc, ← List.cons_append, ← opening]
    · simp [closed]

theorem Tag.recognised (tag : Tag t span) (rest : List Char) : tag? (t ++ rest) = some (span, rest) := by
  cases tag with
  | fixed known =>
    simp only [List.mem_cons, Prod.mk.injEq, List.not_mem_nil, or_false] at known
    rcases known with ⟨rfl, rfl⟩ | ⟨rfl, rfl⟩ | ⟨rfl, rfl⟩ | ⟨rfl, rfl⟩ | ⟨rfl, rfl⟩ <;> rfl
  | @color v c closed named =>
    have named : Color.ofText v = some c := named
    have other : tag? ("<color=".toList ++ (v ++ '>' :: rest)) = colorTag? (colorOpen ++ (v ++ '>' :: rest)) := rfl
    rw [List.append_assoc, List.append_assoc, List.singleton_append, other, colorTag?_closed closed, named, Option.map_some]

/-- What is recognised in front of a text is a tag, and all tags are. -/
theorem tag?_eq_some_iff : tag? s = some (span, rest) ↔ ∃ t, Tag t span ∧ s = t ++ rest := by
  constructor
  · intro h
    unfold tag? at h
    split at h
    · rename_i t span' found
      cases h
      have opens := List.find?_some found
      obtain ⟨rest, rfl⟩ := List.isPrefixOf_iff_prefix.mp opens
      exact ⟨t, .fixed (List.mem_of_find?_eq_some found), by rw [List.drop_left]⟩
    · by_cases opens : colorOpen <+: s
      · obtain ⟨body, rfl⟩ := opens
        by_cases closes : '>' ∈ body
        · obtain ⟨v, after, rfl, closed⟩ := List.eq_append_cons_of_mem closes
          rw [colorTag?_closed closed] at h
          obtain ⟨c, named, e⟩ := Option.map_eq_some_iff.mp h
          cases e
          exact ⟨_, .color closed named, by rw [List.append_assoc, List.append_assoc]; rfl⟩
        · rw [colorTag?_open closes] at h
          cases h
      · rw [colorTag?_other opens] at h
        cases h
  · rintro ⟨t, tag, rfl⟩
    exact tag.recognised rest

theorem tag_suffix (h : tag? s = some (span, rest)) : rest <:+ s := by
  obtain ⟨t, -, rfl⟩ := tag?_eq_some_iff.mp h
  exact List.suffix_append _ _

/-- What follows a text does not change the tag at its front, if no tag goes on from the
    text into what follows. -/
theorem tag?_append_of (within : ∀ t span, Tag t span → t <+: s ++ r → t <+: s) :
    tag? (s ++ r) = (tag? s).map (Prod.map id (· ++ r)) := by
  cases e : tag? s with
  | some found =>
    obtain ⟨t, tag, rfl⟩ := tag?_eq_some_iff.mp e
    rw [List.append_assoc]
    exact tag.recognised _
  | none =>
    cases e' : tag? (s ++ r) with
    | none => rfl
    | some found =>
      obtain ⟨t, tag, whole⟩ := tag?_eq_some_iff.mp e'
      obtain ⟨rest, rfl⟩ := within t _ tag ⟨_, whole.symm⟩
      rw [tag.recognised] at e
      cases e

end

/-! ## The scan -/

theorem scan_tag {r rest : List Char} {span : Span} (h : tag? ('<' :: r) = some (span, rest)) (held : List Char) :
    scan held ('<' :: r) = flush held ++ span :: scan [] rest := by
  rw [scan, if_pos rfl]
  split
  · rename_i e
    rw [h] at e
    cases e
    rfl
  · rename_i e
    rw [h] at e
    cases e

theorem scan_literal {c : Char} {r : List Char} (h : c = '<' → tag? ('<' :: r) = none) (held : List Char) :
    scan held (c :: r) = scan (c :: held) r := by
  rw [scan]
  split
  · rename_i opens
    subst opens
    split
    · rename_i e
      rw [h rfl] at e
      cases e
    · rfl
  · rfl

/-- Text without `<` is held back as it is. -/
theorem scan_unopened {u : List Char} (h : '<' ∉ u) (held r : List Char) : scan held (u ++ r) = scan (u.reverse ++ held) r := by
  induction u generalizing held with
  | nil => rfl
  | cons c u ih =>
    have hc : c ≠ '<' := fun e => h (e ▸ List.mem_cons_self)
    rw [List.cons_append, scan_literal fun e => absurd e hc, ih fun hu => h (List.mem_cons_of_mem c hu)]
    simp

/-- Text is empty, or its first character is none of a tag, or a tag stands in front. -/
@[elab_as_elim]
theorem tagInduction {motive : List Char → Prop} (nil : motive [])
    (literal : ∀ c r, (c = '<' → tag? ('<' :: r) = none) → motive r → motive (c :: r))
    (tag : ∀ r span rest, tag? ('<' :: r) = some (span, rest) → motive rest → motive ('<' :: r)) (s : List Char) : motive s := by
  induction hn : s.length using Nat.strongRecOn generalizing s with
  | ind n ih =>
    cases s with
    | nil => exact nil
    | cons c r =>
      by_cases h : c = '<' → tag? ('<' :: r) = none
      · have shorter : r.length < n := hn ▸ Nat.lt_succ_self _
        exact literal c r h (ih _ shorter r rfl)
      · obtain ⟨rfl, tagged⟩ := Classical.not_imp.mp h
        obtain ⟨⟨span, rest⟩, e⟩ := Option.ne_none_iff_exists'.mp tagged
        have shorter : rest.length < n := hn ▸ tag_shortens e
        exact tag r span rest e (ih _ shorter rest rfl)

/-! ## Renderings -/

/-- What follows the text changes none of its tags. -/
def Apart (s r : List Char) : Prop :=
  ∀ t, '<' :: t <:+ s → tag? ('<' :: (t ++ r)) = (tag? ('<' :: t)).map (Prod.map id (· ++ r))

theorem Apart.suffix {s t r : List Char} (apart : Apart s r) (h : t <:+ s) : Apart t r := fun u hu => apart u (hu.trans h)

/-- A character that no tag has behind its first one. -/
def Outside (x : Char) : Prop := ∀ t span, Tag t span → x ∉ t.tail

/-- A text and what begins with such a character have no tag in common. -/
theorem Outside.apart {x : Char} (outside : Outside x) (s r : List Char) : Apart s (x :: r) := by
  intro t _
  refine tag?_append_of (s := '<' :: t) (r := x :: r) fun u span tag opens => ?_
  rcases List.prefix_or_prefix_of_prefix opens (List.prefix_append _ _) with short | ⟨more, rfl⟩
  · exact short
  · cases more with
    | nil => simp
    | cons d more =>
      obtain ⟨rfl, -⟩ := List.cons_prefix_cons.mp ((List.prefix_append_right_inj _).mp opens)
      exact absurd (by simp) (outside _ span tag)

section

variable {f : Span → List Char} (text : ∀ t, f (.text t) = t)

include text

theorem flatMap_flush (held : List Char) : (flush held).flatMap f = held.reverse := by
  unfold flush
  split
  · rename_i empty
    rw [List.isEmpty_iff.mp empty]
    rfl
  · simp [text]

/-- What has been held back comes out in front. -/
theorem flatMap_scan (held s : List Char) : (scan held s).flatMap f = held.reverse ++ (scan [] s).flatMap f := by
  induction s using tagInduction generalizing held with
  | nil => rw [scan, scan, flatMap_flush text, flatMap_flush text, List.reverse_nil, List.append_nil]
  | literal c r h ih =>
    rw [scan_literal h, scan_literal h, ih (c :: held), ih [c]]
    simp
  | tag r span rest h _ =>
    rw [scan_tag h, scan_tag h, List.flatMap_append, List.flatMap_append, flatMap_flush text, flatMap_flush text]
    rfl

theorem flatMap_literal {c : Char} {r : List Char} (h : c = '<' → tag? ('<' :: r) = none) :
    (scan [] (c :: r)).flatMap f = c :: (scan [] r).flatMap f := by
  rw [scan_literal h, flatMap_scan text]
  rfl

omit text in
theorem flatMap_tag {r rest : List Char} {span : Span} (h : tag? ('<' :: r) = some (span, rest)) :
    (scan [] ('<' :: r)).flatMap f = f span ++ (scan [] rest).flatMap f := by
  rw [scan_tag h]
  rfl

theorem flatMap_append {s r : List Char} (apart : Apart s r) :
    (scan [] (s ++ r)).flatMap f = (scan [] s).flatMap f ++ (scan [] r).flatMap f := by
  induction s using tagInduction with
  | nil =>
    rw [List.nil_append, scan.eq_1]
    rfl
  | literal c s h ih =>
    have h' : c = '<' → tag? ('<' :: (s ++ r)) = none := by
      rintro rfl
      have same := apart s (List.suffix_refl _)
      rw [h rfl] at same
      exact same
    rw [List.cons_append, flatMap_literal text h', flatMap_literal text h, ih (apart.suffix (List.suffix_cons _ _))]
    rfl
  | tag s span rest h ih =>
    have h' : tag? ('<' :: (s ++ r)) = some (span, rest ++ r) := by
      have same := apart s (List.suffix_refl _)
      rw [h] at same
      exact same
    rw [List.cons_append, flatMap_tag h', flatMap_tag h, ih (apart.suffix (tag_suffix h)), List.append_assoc]

end

end CommandConsole.Markup
