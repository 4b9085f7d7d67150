/-
  CommandConsole.Transport — the display a console writes to and is typed into.

  A transport holds the text being typed and takes the output. Lines reach the console
  in one of two ways: the host feeds key events, which edit the input field, or the
  transport has lines waiting and hands out one per tick with `poll`; such a line is in
  flight until `handled`. A transport that has a surface can be shown and hidden.

  A transport need only take input and output. By default it is a markup display
  without a surface, always visible, with no line waiting.
-/

import CommandConsole.Output

namespace CommandConsole

class Transport (τ : Type) where
  input : τ → String
  setInput : String → τ → τ
  clearInput : τ → τ := setInput ""
  append : String → τ → τ
  clearOutput : τ → τ
  style : τ → Style := fun _ => .markup
  hasSurface : τ → Bool := fun _ => false
  isVisible : τ → Bool := fun _ => true
  setVisible : Bool → τ → τ := fun _ t => t
  poll : τ → Option String × τ := fun t => (none, t)
  handled : τ → τ := id

namespace Transport

variable {τ : Type} [Transport τ]

def apply (t : τ) : Output.Effect → τ
  | .append text => append text t
  | .clear => clearOutput t

/-- Carry out operations in one style, in order. -/
def writeAs (style : Style) (colors : OutputColors) (ops : List Output.Op) (t : τ) : τ :=
  (ops.flatMap (Output.effects style colors)).foldl apply t

/-- Carry out operations in the transport's own style. -/
def write (colors : OutputColors) (ops : List Output.Op) (t : τ) : τ := writeAs (style t) colors ops t

end Transport

/-- A transport whose output is a text: what is appended goes to the end of it, and
    shows nowhere else. -/
class LawfulTransport (τ : Type) [Transport τ] where
  output : τ → String
  output_append (text : String) (t : τ) : output (Transport.append text t) = output t ++ text
  input_append (text : String) (t : τ) : Transport.input (Transport.append text t) = Transport.input t
  isVisible_append (text : String) (t : τ) : Transport.isVisible (Transport.append text t) = Transport.isVisible t

namespace LawfulTransport

variable {τ : Type} [Transport τ] [LawfulTransport τ]

/-- Appends show in the output only, in their order. -/
theorem foldl_apply {es : List Output.Effect} (hes : ∀ e ∈ es, e = .append e.text) (t : τ) :
    output (es.foldl Transport.apply t) = output t ++ String.join (es.map (·.text)) ∧
      Transport.input (es.foldl Transport.apply t) = Transport.input t ∧
      Transport.isVisible (es.foldl Transport.apply t) = Transport.isVisible t := by
  induction es generalizing t with
  | nil => simp
  | cons e es ih =>
    obtain ⟨ho, hi, hv⟩ := ih (fun e he => hes e (List.mem_cons_of_mem _ he)) (Transport.apply t e)
    have happ : Transport.apply t e = Transport.append e.text t := by
      rw [hes e List.mem_cons_self]; rfl
    rw [happ] at ho hi hv
    rw [output_append] at ho
    rw [input_append] at hi
    rw [isVisible_append] at hv
    refine ⟨?_, ?_, ?_⟩
    · rw [List.foldl_cons, happ, ho, List.map_cons, String.join_cons, String.append_assoc]
    · rw [List.foldl_cons, happ, hi]
    · rw [List.foldl_cons, happ, hv]

/-- Operations without a `clear` add their text to the output and leave the rest. -/
theorem writeAs {ops : List Output.Op} (hops : .clear ∉ ops) (style : Style) (colors : OutputColors) (t : τ) :
    output (Transport.writeAs style colors ops t) = output t ++ Output.written style colors ops ∧
      Transport.input (Transport.writeAs style colors ops t) = Transport.input t ∧
      Transport.isVisible (Transport.writeAs style colors ops t) = Transport.isVisible t := by
  apply foldl_apply
  intro e he
  obtain ⟨op, hop, he⟩ := List.mem_flatMap.mp he
  exact Output.effects_append style colors (fun hc => hops (hc ▸ hop)) e he

end LawfulTransport

end CommandConsole
