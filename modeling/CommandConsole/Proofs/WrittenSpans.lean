/-
  CommandConsole.Proofs.WrittenSpans — what is written as markup is read back.

  A list of spans is written by one operation for each: tags by the operations that open and
  close, a color by its six digits, text as it stands (`Span.op`). On a markup display the
  operations leave nothing between each other, so what is written is the sources of the spans,
  one behind the other (`written_spans`).

  Read back, three things could go wrong. Text could start a tag: not if it has no `<`. Text
  that is empty, or that stands beside other text, comes back as no span or as one: so there
  is none of it (`Legible`). And the opacity of a color is not written: every color comes back
  opaque (`Span.readBack`). Otherwise each tag is recognised whatever stands around it
  (`Span.tag_source`), and the text in front of it is cut off there (`scan_render`).

  Proved (`spans_written`): a legible list comes back as it was, its colors opaque.
-/

import CommandConsole.Proofs.Styles
import Mathlib.Data.List.Chain

namespace CommandConsole.Markup

open Output (Op colorTag)

/-! ## Writing spans -/

/-- The operation that writes a span. There is none for italics alone. -/
def Span.op : Span → Op
  | .text t => .write (String.ofList t)
  | .boldOn => .openBold
  | .boldOff => .closeBold
  | .italicOn => .write "<i>"
  | .italicOff => .write "</i>"
  | .colorOn c => .openColor c
  | .colorOff => .closeColor

/-- The span as it is read back. -/
def Span.readBack : Span → Span
  | .colorOn c => .colorOn (c.withAlpha 255)
  | s => s

def Span.IsText : Span → Prop
  | .text _ => True
  | _ => False

instance (s : Span) : Decidable s.IsText := by
  cases s <;> unfold Span.IsText <;> infer_instance

/-- Text that is neither empty nor has a `<`, or a tag. -/
def Span.Legible : Span → Prop
  | .text t => t ≠ [] ∧ '<' ∉ t
  | _ => True

instance (s : Span) : Decidable s.Legible := by
  cases s <;> unfold Span.Legible <;> infer_instance

/-- Spans that can be told apart once they are written. -/
structure Legible (ss : List Span) : Prop where
  each : ∀ s ∈ ss, s.Legible
  parted : ss.IsChain fun s r => ¬ (s.IsText ∧ r.IsText)

theorem toList_colorTag (c : Color) : (colorTag c).toList = (Span.colorOn c).source := by
  have closing : ">".toList = ['>'] := by decide
  have digits : c.toHex.toList = c.hexChars := String.toList_ofList
  rw [colorTag, String.toList_append, String.toList_append, closing, digits]
  rfl

theorem written_op (colors : OutputColors) (s : Span) : Output.written .markup colors [s.op] = String.ofList s.source := by
  cases s with
  | text t => exact Output.written_put rfl
  | colorOn c =>
    have tag : Output.written .markup colors [.openColor c] = colorTag c := Output.written_put rfl
    rw [Span.op, tag, ← toList_colorTag, String.ofList_toList]
  | _ => exact (Output.written_put rfl).trans String.ofList_toList.symm

/-- The operations write the sources of the spans. -/
theorem written_spans (colors : OutputColors) (ss : List Span) :
    Output.written .markup colors (ss.map Span.op) = String.ofList (render ss) := by
  induction ss with
  | nil => rfl
  | cons s ss ih =>
    have first : Output.written .markup colors (s.op :: ss.map Span.op) =
        Output.written .markup colors [s.op] ++ Output.written .markup colors (ss.map Span.op) := by
      simp [Output.written, String.join_append]
    rw [List.map_cons, first, written_op, ih, render, render, List.flatMap_cons, String.ofList_append]

/-! ## Reading them back -/

/-- A span that is no text is written as its tag. -/
theorem Span.tag_source {s : Span} (tagged : ¬ s.IsText) : Tag s.source s.readBack := by
  cases s with
  | text t => exact absurd trivial tagged
  | colorOn c =>
    have tag := Output.colorTag_tag c
    rwa [toList_colorTag] at tag
  | _ => exact .fixed (by decide)

/-- What has been held back comes out in front of the spans, if they do not begin with text. -/
theorem scan_render {ss : List Span} (legible : Legible ss) {held : List Char}
    (apart : held ≠ [] → ∀ s ∈ ss.head?, ¬ s.IsText) : scan held (render ss) = flush held ++ ss.map Span.readBack := by
  induction ss generalizing held with
  | nil => rw [render, List.flatMap_nil, scan, List.map_nil, List.append_nil]
  | cons s ss ih =>
    obtain ⟨here, behind⟩ := List.forall_mem_cons.mp legible.each
    obtain ⟨next, parted⟩ := List.isChain_cons.mp legible.parted
    have ih := fun held => @ih ⟨behind, parted⟩ held
    have split : render (s :: ss) = s.source ++ render ss := rfl
    rw [split, List.map_cons]
    by_cases isText : s.IsText
    · cases s with
      | text t =>
        obtain ⟨some, unopened⟩ := here
        have none : held = [] := by
          by_contra holds
          exact apart holds _ rfl isText
        have told : ∀ r ∈ ss.head?, ¬ r.IsText := fun r hr both => next r hr ⟨isText, both⟩
        have source : (Span.text t).source = t := rfl
        rw [none, source, scan_unopened unopened, List.append_nil, ih _ fun _ => told]
        simp [flush, some, Span.readBack]
      | _ => exact absurd isText id
    · have tag := s.tag_source isText
      have front := tag.recognised (render ss)
      obtain ⟨body, opens, -⟩ := tag.shape
      rw [opens, List.cons_append] at front ⊢
      rw [scan_tag front, ih [] (fun holds => absurd rfl holds)]
      rfl

/-- Spans that are written as markup are read back, with their colors opaque. -/
theorem spans_written (colors : OutputColors) (ss : List Span) (legible : Legible ss) :
    spans (Output.written .markup colors (ss.map Span.op)) = ss.map Span.readBack ∧
      spans (String.ofList (render ss)) = ss.map Span.readBack := by
  have back : spans (String.ofList (render ss)) = ss.map Span.readBack := by
    rw [spans, String.toList_ofList, scan_render legible fun holds => absurd rfl holds]
    rfl
  exact ⟨by rw [written_spans, back], back⟩

/-- Tags beside each other, closed in another order than opened, and text with the
    characters of tags. -/
theorem spans_written_nested :
    let ss : List Span := [.boldOn, .colorOn ⟨1, 171, 255, 0⟩, .text "color=#>".toList, .boldOff, .colorOff, .italicOff, .text ['>']]
    Legible ss ∧ spans (String.ofList (render ss)) =
      [.boldOn, .colorOn ⟨1, 171, 255, 255⟩, .text "color=#>".toList, .boldOff, .colorOff, .italicOff, .text ['>']] := by
  intro ss
  have legible : Legible ss := ⟨by decide, by decide⟩
  exact ⟨legible, (spans_written .standard ss legible).2⟩

end CommandConsole.Markup
