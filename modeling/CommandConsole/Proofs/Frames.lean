/-
  CommandConsole.Proofs.Frames — a screen drawn bit by bit shows the whole output.

  A surface draws in each frame what has been appended since the last one, turned into escape
  sequences by itself. The output as a whole may read differently: where a frame ends inside
  a tag, neither part of the tag is one. A text is `Closed` when no `<` comes after its last
  `>`; then no tag that starts in it goes on behind it, however far a color tag looks for its
  `>`, and the text and what follows are rendered apart (`toAnsi_append`).

  Actors. The host appends and clears output and asks for frames, in any order. A frame
  writes to the terminal: it wipes the screen if there was a clear, and writes the fresh part
  (`frame`, which is what `draw` answers: `draw_eq_frame`). `Screen` is a surface with all
  that its frames have written, `shown` what of it came after the last wipe.

  Proved, for a new surface and any actions such that the output is closed whenever a frame is
  drawn (`screen_shows_output`): after every frame the screen shows the rendering of the whole
  output, and a frame wipes once if the output was cleared since the frame before, and else
  not at all. The invariant (`Drawn`) is that the drawn part is on the screen, unless it is to
  be wiped; then it is empty.
-/

import CommandConsole.Proofs.Tags
import CommandConsole.Transport.Surface
import Mathlib.Data.List.DropRight
import Mathlib.Data.List.Infix

namespace CommandConsole

namespace Markup

/-! ## Closed texts -/

/-- No `<` comes after the last `>`, and none at all where there is no `>`. -/
def Closed (s : List Char) : Prop := '<' ∉ s.rtakeWhile (· != '>')

instance (s : List Char) : Decidable (Closed s) := inferInstanceAs (Decidable ('<' ∉ s.rtakeWhile (· != '>')))

theorem closed_nil : Closed [] := by decide

theorem rtakeWhile_of_notMem {s : List Char} (h : '>' ∉ s) : s.rtakeWhile (· != '>') = s := by
  rw [List.rtakeWhile_eq_self_iff]
  intro c hc
  exact bne_iff_ne.mpr fun e => h (e ▸ hc)

theorem rtakeWhile_append_of_mem {r : List Char} (h : '>' ∈ r) (s : List Char) :
    (s ++ r).rtakeWhile (· != '>') = r.rtakeWhile (· != '>') := by
  induction r using List.reverseRecOn with
  | nil => cases h
  | append_singleton r c ih =>
    rw [← List.append_assoc, List.rtakeWhile_concat, List.rtakeWhile_concat]
    by_cases hc : c = '>'
    · simp [hc]
    · rw [ih (by simpa [Ne.symm hc] using h)]

/-- A text is closed, if each `<` in it has a `>` behind it. -/
theorem closed_cons {c : Char} {r : List Char} : Closed (c :: r) ↔ (c = '<' → '>' ∈ r) ∧ Closed r := by
  unfold Closed
  by_cases h : '>' ∈ r
  · have same := rtakeWhile_append_of_mem h [c]
    rw [List.singleton_append] at same
    simp [same, h]
  · rw [rtakeWhile_of_notMem h]
    by_cases hc : c = '>'
    · have last : ('>' :: r).rtakeWhile (· != '>') = r := by
        have before : ∀ d ∈ r.reverse, (d != '>') = true := by
          intro d hd
          exact bne_iff_ne.mpr fun e => h (e ▸ List.mem_reverse.mp hd)
        rw [List.rtakeWhile, List.reverse_cons, List.takeWhile_append_of_pos before]
        simp
      rw [hc, last]
      simp
    · rw [rtakeWhile_of_notMem (by simp [h, Ne.symm hc])]
      simp [h, eq_comm]

/-! ## Tags in a closed text -/

/-- The tag at the front of a text with a `>` in it does not reach beyond the text. -/
theorem tag?_append_closed {s : List Char} (hs : '>' ∈ s) (r : List Char) :
    tag? (s ++ r) = (tag? s).map (Prod.map id (· ++ r)) := by
  refine tag?_append_of fun t span tag opens => ?_
  rcases List.prefix_or_prefix_of_prefix opens (List.prefix_append s r) with short | ⟨more, whole⟩
  · exact short
  · -- The tag would have a `>` before its end.
    rcases List.eq_nil_or_concat more with rfl | ⟨more, last, rfl⟩
    · rw [← whole, List.append_nil]
    · obtain ⟨body, rfl, closed⟩ := tag.shape
      have split : s ++ more ++ [last] = ('<' :: body) ++ ['>'] := by simpa using whole
      have before : s ++ more = '<' :: body := (List.append_inj' split rfl).1
      have inside : '>' ∈ '<' :: body := before ▸ List.mem_append_left more hs
      exact absurd inside (by simp [closed])

theorem Closed.suffix {s t : List Char} (closed : Closed s) (h : t <:+ s) : Closed t := by
  obtain ⟨front, rfl⟩ := h
  induction front with
  | nil => exact closed
  | cons c front ih => exact ih (closed_cons.mp closed).2

/-- A closed text and what follows it are rendered apart. -/
theorem Closed.apart {s : List Char} (closed : Closed s) (r : List Char) : Apart s r := by
  intro t ht
  have later : '>' ∈ t := (closed_cons.mp (closed.suffix ht)).1 rfl
  exact tag?_append_closed (List.mem_cons_of_mem _ later) r

theorem toAnsi_append {s : String} (closed : Closed s.toList) (r : String) : toAnsi (s ++ r) = toAnsi s ++ toAnsi r := by
  have apart := flatMap_append (f := Span.ansi) (fun _ => rfl) (closed.apart r.toList)
  rw [toAnsi, spans, String.toList_append, apart, String.ofList_append]
  rfl

theorem toAnsi_empty : toAnsi "" = "" := by
  rw [toAnsi, spans, String.toList_empty, scan.eq_1]
  rfl

end Markup

namespace Surface

/-! ## Frames -/

/-- What the host does to a surface. -/
inductive Action where
  | append (text : String)
  | clear
  | draw
  deriving DecidableEq

def act (s : Surface) : Action → Surface
  | .append text => Transport.append text s
  | .clear => Transport.clearOutput s
  | .draw => s.draw.2

/-- What a frame writes to the terminal. -/
inductive Write where
  | wipe
  | text (ansi : String)
  deriving DecidableEq

def Write.bytes : Write → String
  | .wipe => clearScreen
  | .text ansi => ansi

/-- The writes of the next frame. -/
def frame (s : Surface) : List Write := (if s.cleared then [.wipe] else []) ++ [.text (Markup.toAnsi s.fresh)]

theorem draw_eq_frame (s : Surface) : s.draw.1 = String.join (s.frame.map Write.bytes) := by
  unfold draw frame takeCleared takeFresh
  cases s.cleared with
  | true => simp [Write.bytes, String.join]
  | false =>
    by_cases still : s.fresh = ""
    · simp [still, Write.bytes, Markup.toAnsi_empty, String.join]
    · simp [still, Write.bytes, String.join]

theorem draw_snd (s : Surface) : s.draw.2 = { s with drawn := s.output, fresh := "", cleared := false } := by
  unfold draw takeCleared takeFresh
  dsimp only
  split
  · rfl
  · split <;> rfl

/-- A surface, and all that its frames have written, in order. -/
structure Screen where
  surface : Surface
  sent : List Write

namespace Screen

def step (t : Screen) (a : Action) : Screen :=
  { surface := t.surface.act a, sent := if a = .draw then t.sent ++ t.surface.frame else t.sent }

/-- A new surface after some actions. -/
def after (acts : List Action) : Screen := acts.foldl step ⟨.start, []⟩

theorem after_snoc (acts : List Action) (a : Action) : after (acts ++ [a]) = (after acts).step a := by
  simp [after]

end Screen

/-! ## What the actions say -/

/-- The screen after one more write. -/
def Write.onto (shown : String) : Write → String
  | .wipe => ""
  | .text ansi => shown ++ ansi

/-- What has been written since the last wipe. -/
def shown (ws : List Write) : String := ws.foldl Write.onto ""

/-- The output after one more action. -/
def Action.onto (output : String) : Action → String
  | .append text => output ++ text
  | .clear => ""
  | .draw => output

/-- What has been appended since the last clear. -/
def written (acts : List Action) : String := acts.foldl Action.onto ""

/-- There was a clear, and no frame since. -/
def Cleared (acts : List Action) : Prop := .clear ∈ acts.rtakeWhile (· != .draw)

instance (acts : List Action) : Decidable (Cleared acts) :=
  inferInstanceAs (Decidable (.clear ∈ acts.rtakeWhile (· != .draw)))

/-- Whenever a frame is drawn, the output is closed. -/
def ClosedFrames (acts : List Action) : Prop :=
  ∀ before, before ++ [.draw] <+: acts → Markup.Closed (Screen.after before).surface.output.toList

instance (acts : List Action) : Decidable (ClosedFrames acts) :=
  decidable_of_iff (∀ before ∈ acts.inits, before ++ [.draw] <+: acts →
      Markup.Closed (Screen.after before).surface.output.toList)
    ⟨fun h before draws => h before ((List.mem_inits _ _).mpr ((List.prefix_append _ _).trans draws)) draws,
      fun h before _ => h before⟩

theorem ClosedFrames.initial {acts : List Action} {before : List Action} (closed : ClosedFrames acts) (h : before <+: acts) :
    ClosedFrames before := fun _ draws => closed _ (draws.trans h)

/-! ## The invariant -/

/-- The state of a screen between two actions. -/
structure Drawn (acts : List Action) (t : Screen) : Prop where
  output : t.surface.output = written acts
  cleared : t.surface.cleared = true ↔ Cleared acts
  closed : Markup.Closed t.surface.drawn.toList
  kept : t.surface.cleared = false → shown t.sent = Markup.toAnsi t.surface.drawn
  /-- What a wipe will take away has been dropped already. -/
  wiped : t.surface.cleared = true → t.surface.drawn = ""

theorem drawn_start : Drawn [] ⟨.start, []⟩ where
  output := rfl
  cleared := by simp [start, Cleared]
  closed := Markup.closed_nil
  kept _ := Markup.toAnsi_empty.symm
  wiped _ := rfl

variable {acts : List Action} {t : Screen}

theorem written_snoc (acts : List Action) (a : Action) : written (acts ++ [a]) = a.onto (written acts) := by
  simp [written]

theorem cleared_snoc (acts : List Action) (a : Action) : Cleared (acts ++ [a]) ↔ a ≠ .draw ∧ (a = .clear ∨ Cleared acts) := by
  unfold Cleared
  rw [List.rtakeWhile_concat]
  cases a <;> simp

theorem Drawn.append (drawn : Drawn acts t) (text : String) : Drawn (acts ++ [.append text]) (t.step (.append text)) where
  output := by
    rw [written_snoc, ← drawn.output]
    exact LawfulTransport.output_append text t.surface
  cleared := by
    rw [cleared_snoc]
    show t.surface.cleared = true ↔ _
    simpa using drawn.cleared
  closed := drawn.closed
  kept := drawn.kept
  wiped := drawn.wiped

theorem Drawn.clear (acts : List Action) (t : Screen) : Drawn (acts ++ [.clear]) (t.step .clear) where
  output := by
    rw [written_snoc]
    rfl
  cleared := by simp [cleared_snoc, Screen.step, act, Transport.clearOutput]
  closed := Markup.closed_nil
  kept uncleared := by cases uncleared
  wiped _ := rfl

/-- A frame adds to the screen what of the output was not on it. -/
theorem Drawn.shown_frame (drawn : Drawn acts t) : shown (t.sent ++ t.surface.frame) = Markup.toAnsi t.surface.output := by
  unfold frame shown
  cases wipes : t.surface.cleared with
  | true =>
    rw [Surface.output, drawn.wiped wipes]
    simp [Write.onto]
  | false =>
    have kept := drawn.kept wipes
    unfold shown at kept
    rw [Surface.output, Markup.toAnsi_append drawn.closed, ← kept]
    simp [Write.onto]

theorem Drawn.draw (drawn : Drawn acts t) (closed : Markup.Closed t.surface.output.toList) :
    Drawn (acts ++ [.draw]) (t.step .draw) := by
  have surface : (t.step .draw).surface = { t.surface with drawn := t.surface.output, fresh := "", cleared := false } :=
    draw_snd t.surface
  refine ⟨?_, ?_, ?_, fun _ => ?_, fun wipes => ?_⟩
  · rw [written_snoc, surface]
    simpa [Surface.output, Action.onto] using drawn.output
  · rw [cleared_snoc, surface]
    simp
  · rw [surface]
    exact closed
  · rw [surface]
    exact drawn.shown_frame
  · rw [surface] at wipes
    cases wipes

theorem drawn_after (acts : List Action) (closed : ClosedFrames acts) : Drawn acts (Screen.after acts) := by
  induction acts using List.reverseRecOn with
  | nil => exact drawn_start
  | append_singleton acts a ih =>
    have drawn := ih (closed.initial (List.prefix_append _ _))
    rw [Screen.after_snoc]
    cases a with
    | append text => exact drawn.append text
    | clear => exact Drawn.clear acts _
    | draw => exact drawn.draw (closed acts (List.prefix_refl _))

/-- Whenever a frame is drawn on a surface that was new, and the output was closed at this
    frame and at all before: the frame wipes the screen once if the output was cleared since
    the frame before, and else not at all; and the screen then shows the rendering of the
    whole output, which is what has been appended since the last clear. -/
theorem screen_shows_output (acts : List Action) (closed : ClosedFrames acts) (before : List Action)
    (drawn : before ++ [.draw] <+: acts) :
    let s := (Screen.after before).surface
    let t := Screen.after (before ++ [.draw])
    s.draw.1 = String.join (s.frame.map Write.bytes) ∧
      t.sent = (Screen.after before).sent ++ s.frame ∧
      s.frame.count .wipe = (if Cleared before then 1 else 0) ∧
      shown t.sent = Markup.toAnsi t.surface.output ∧
      t.surface.output = written before := by
  intro s t
  have here : Drawn before (Screen.after before) :=
    drawn_after before (closed.initial ((List.prefix_append _ _).trans drawn))
  have next : t = (Screen.after before).step .draw := Screen.after_snoc _ _
  have output : t.surface.output = s.output := by
    rw [next]
    show s.draw.2.output = s.output
    rw [draw_snd]
    simp [Surface.output]
  have sent : t.sent = (Screen.after before).sent ++ s.frame := by
    rw [next]
    rfl
  refine ⟨s.draw_eq_frame, sent, ?_, ?_, output.trans here.output⟩
  · have wipes := here.cleared
    unfold frame
    by_cases h : Cleared before
    · simp [h, wipes.mpr h, s]
    · have : s.cleared = false := Bool.eq_false_iff.mpr fun hc => h (wipes.mp hc)
      simp [h, this]
  · rw [output, sent]
    exact here.shown_frame

/-- A frame may end within a bold text, but not within a tag. -/
theorem screen_shows_bold :
    let before : List Action :=
      [.append "a <b>bo", .draw, .append "ld</b> ", .clear, .draw, .append "<color=#00FF00>g", .clear, .append "<i>x"]
    ClosedFrames (before ++ [.draw, .append "</i"]) ∧
      shown (Screen.after (before ++ [.draw])).sent = Markup.toAnsi (Screen.after (before ++ [.draw])).surface.output ∧
      (Screen.after before).surface.frame.count .wipe = 1 := by
  intro before
  have closed : ClosedFrames (before ++ [.draw, .append "</i"]) := by decide
  obtain ⟨-, -, wipes, shows, -⟩ := screen_shows_output _ closed before ⟨[.append "</i"], by simp⟩
  exact ⟨closed, shows, wipes.trans (if_pos (by decide))⟩

/-- Drawn apart, the parts of a tag are text. -/
example : shown (Screen.after [.append "<b", .draw, .append ">", .draw]).sent = "<b>" ∧
    Markup.toAnsi "<b>" ≠ "<b>" := by
  decide +kernel

end Surface

end CommandConsole
