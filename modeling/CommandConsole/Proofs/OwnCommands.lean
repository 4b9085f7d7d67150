/-
  CommandConsole.Proofs.OwnCommands — what a line leaves in the output of a bare console.

  A console that has no commands but its own writes texts of its own, and in two places
  it repeats what the client sent: the name of a command it does not know, and the topic
  of a `chelp` that it does not know (`repeated`). Here every line is followed through
  its stages to the output it leaves on a plain display (`Leaves`).

  Proved (`submit_leaves`): the output is empty after a line that clears it, and else
  the echoed line and behind it either texts without a zero character, or one error line
  around what is repeated.
-/

import CommandConsole.Network.Exchange
import CommandConsole.Proofs.Controls
import CommandConsole.Proofs.Dispatch
import CommandConsole.Proofs.Visibility
import Mathlib.Data.Nat.Digits.Defs

namespace CommandConsole

/-- Text without a zero character. -/
def ZeroFree (text : String) : Prop := '\x00' ∉ text.toList

instance (text : String) : Decidable (ZeroFree text) := inferInstanceAs (Decidable (_ ∉ _))

theorem ZeroFree.append {s t : String} (hs : ZeroFree s) (ht : ZeroFree t) : ZeroFree (s ++ t) := by
  intro h
  rw [String.toList_append] at h
  rcases List.mem_append.mp h with h | h
  · exact hs h
  · exact ht h

theorem ZeroFree.toPlain {s : String} (hs : ZeroFree s) : ZeroFree (Markup.toPlain s) := by
  intro h
  rw [Markup.toPlain, String.toList_ofList] at h
  exact hs (Markup.mem_plainChars (by decide) h)

theorem zeroFree_join {l : List String} (h : ∀ s ∈ l, ZeroFree s) : ZeroFree (String.join l) := by
  induction l with
  | nil => decide
  | cons s l ih =>
    rw [String.join_cons]
    exact (h s List.mem_cons_self).append (ih fun t ht => h t (List.mem_cons_of_mem s ht))

theorem zeroFree_intercalate {sep : String} (hsep : ZeroFree sep) {l : List String} (h : ∀ s ∈ l, ZeroFree s) :
    ZeroFree (sep.intercalate l) := by
  induction l with
  | nil =>
    rw [String.intercalate_nil]
    decide
  | cons s l ih =>
    have hs := h s List.mem_cons_self
    have hl := ih fun t ht => h t (List.mem_cons_of_mem s ht)
    cases l with
    | nil => rwa [String.intercalate_singleton]
    | cons t l =>
      rw [String.intercalate_cons_cons]
      exact (hs.append hsep).append hl

theorem zeroFree_decimal (n : Nat) : ZeroFree (Number.decimal n) := by
  intro h
  rw [Number.decimal, String.toList_ofList] at h
  have digit := Nat.isDigit_of_mem_toDigits (by decide) (by decide) h
  revert digit
  decide

/-! ## What operations write on a plain display -/

namespace Output

/-- The text that an operation is given. -/
def Op.said : Op → String
  | .write t | .line t | .bold t | .lineBold t | .italic t | .lineItalic t | .error t | .warning t | .info t => t
  | .openBold | .closeBold | .openColor _ | .closeColor | .nextLine | .clear => ""

theorem zeroFree_put {text : String} (free : ZeroFree text) : ∀ e ∈ [put .plain text], ZeroFree e.text := by
  intro e he
  cases List.mem_singleton.mp he
  exact ZeroFree.toPlain free

theorem zeroFree_effects (colors : OutputColors) {op : Op} (free : ZeroFree op.said) :
    ∀ e ∈ effects .plain colors op, ZeroFree e.text := by
  have around : ∀ before ∈ ["<b>", "<i>", errorSigil, warningSigil, ""], ∀ after ∈ ["</b>", "</i>", "\n"],
      ZeroFree (before ++ op.said ++ after) := by
    intro before hb after ha
    have opens : ∀ text ∈ ["<b>", "<i>", errorSigil, warningSigil, ""], ZeroFree text := by decide
    have closes : ∀ text ∈ ["</b>", "</i>", "\n"], ZeroFree text := by decide
    exact ((opens before hb).append free).append (closes after ha)
  have feed : ZeroFree "\n" := by decide
  cases op with
  | write t => exact zeroFree_put free
  | line t => exact zeroFree_put (free.append feed)
  | bold t => exact zeroFree_put (around "<b>" (by simp) "</b>" (by simp))
  | lineBold t => exact zeroFree_put ((around "<b>" (by simp) "</b>" (by simp)).append feed)
  | italic t => exact zeroFree_put (around "<i>" (by simp) "</i>" (by simp))
  | lineItalic t => exact zeroFree_put ((around "<i>" (by simp) "</i>" (by simp)).append feed)
  | error t => exact zeroFree_put (around errorSigil (by simp) "\n" (by simp))
  | warning t => exact zeroFree_put (around warningSigil (by simp) "\n" (by simp))
  | info t => exact zeroFree_put (around "" (by simp) "\n" (by simp))
  | openBold | closeBold | nextLine => exact zeroFree_put (by decide)
  | openColor | closeColor =>
    intro e he
    cases he
  | clear =>
    intro e he
    cases List.mem_singleton.mp he
    decide

theorem zeroFree_written (colors : OutputColors) {ops : List Op} (h : ∀ op ∈ ops, ZeroFree op.said) :
    ZeroFree (written .plain colors ops) := by
  apply zeroFree_join
  intro s hs
  obtain ⟨e, he, rfl⟩ := List.mem_map.mp hs
  obtain ⟨op, hop, he⟩ := List.mem_flatMap.mp he
  exact zeroFree_effects colors (h op hop) e he

theorem written_append (style : Style) (colors : OutputColors) (ops ops' : List Op) :
    written style colors (ops ++ ops') = written style colors ops ++ written style colors ops' := by
  simp [written, String.join_append]

end Output

/-! ## The console's own commands -/

variable {h : Host}

/-- The names of the console's own commands. -/
def ownNames : List String := (Command.builtins : List (Command Host.bare)).map (·.name)

theorem mem_ownNames {c : Command h} (hc : c ∈ (Command.builtins : List (Command h))) : c.name ∈ ownNames := by
  have names : (Command.builtins : List (Command h)).map (·.name) = ownNames := rfl
  rw [← names]
  exact List.mem_map_of_mem hc

theorem chelp_params {c : Command h} (hc : c ∈ (Command.builtins : List (Command h))) (chelp : c.name = "chelp") :
    c.params.length = 1 := by
  simp only [Command.builtins, List.mem_cons, List.not_mem_nil, or_false] at hc
  rcases hc with rfl | rfl | rfl | rfl | rfl <;> simp at chelp ⊢

/-- What they say of themselves. -/
theorem zeroFree_builtins : ∀ c ∈ (Command.builtins : List (Command h)), ZeroFree c.name ∧ ZeroFree c.description ∧ ZeroFree c.usage := by
  intro c hc
  have texts : ∀ x ∈ (Command.builtins : List (Command Host.bare)).map fun c => (c.name, c.description, c.usage),
      ZeroFree x.1 ∧ ZeroFree x.2.1 ∧ ZeroFree x.2.2 := by decide
  exact texts (c.name, c.description, c.usage) (List.mem_map_of_mem (f := fun c => (c.name, c.description, c.usage)) hc)

/-- Where nothing else is registered, a name stands for one of them or for nothing. -/
theorem standard_holds : Registry.Holds (Registry.standard : Registry h) Command.builtins := Registry.holds_empty.registerAll _

theorem standard_resolve {name : String} {c : Command h} (found : (Registry.standard : Registry h).resolve? name = some c) :
    c ∈ (Command.builtins : List (Command h)) ∧ c.name = name := by
  rw [standard_holds.latest] at found
  obtain ⟨hc, named⟩ := List.mem_filter.mp (List.mem_of_getLast? found)
  exact ⟨hc, eq_of_beq named⟩

theorem standard_resolveLive {scene : Scene h} {name : String} {c : Command h}
    (found : (Registry.standard : Registry h).resolveLive? scene name = some c) :
    c ∈ (Command.builtins : List (Command h)) ∧ c.name = name :=
  standard_resolve (Option.filter_eq_some_iff.mp found).1

/-- They belong to no provider, so they are live in every scene. -/
theorem builtins_live (scene : Scene h) : ∀ c ∈ (Command.builtins : List (Command h)), Registry.isLive scene c = true := by
  intro c hc
  simp only [Command.builtins, List.mem_cons, List.not_mem_nil, or_false] at hc
  rcases hc with rfl | rfl | rfl | rfl | rfl <;> rfl

theorem standard_unknown {scene : Scene h} {name : String} (absent : (Registry.standard : Registry h).resolveLive? scene name = none) :
    name ∉ ownNames := by
  intro own
  cases found : (Registry.standard : Registry h).resolve? name with
  | some c =>
    rw [Registry.resolveLive?, found, Option.filter_some, if_pos (builtins_live scene c (standard_resolve found).1)] at absent
    cases absent
  | none =>
    rw [standard_holds.latest, List.getLast?_eq_none_iff, List.filter_eq_nil_iff] at found
    have names : (Command.builtins : List (Command h)).map (·.name) = ownNames := rfl
    rw [← names] at own
    obtain ⟨c, hc, rfl⟩ := List.mem_map.mp own
    exact found c hc (beq_self_eq_true _)

/-! ## What a line leaves -/

/-- What the console repeats of a line: the name of a command that is not known, and the
    topic of `chelp` that is none. -/
def repeated (line : String) : String :=
  match Line.parse line with
  | .ok ["chelp", topic] => if topic ∈ ownNames then "" else topic
  | .ok (name :: _) => if name ∈ ownNames then "" else name
  | _ => ""

theorem repeated_unparsed {line : String} {f : Failure} (parses : Line.parse line = .error f) : repeated line = "" := by
  simp [repeated, parses]

theorem repeated_unknown {line name : String} {tokens : List String} (parses : Line.parse line = .ok (name :: tokens))
    (unknown : name ∉ ownNames) : repeated line = name := by
  unfold repeated
  rw [parses]
  split
  · rename_i e
    cases e
    exact absurd (by decide) unknown
  · rename_i e
    cases e
    exact if_neg unknown
  · rename_i absent
    exact absurd rfl (absent name tokens)

theorem repeated_topic {line topic : String} (parses : Line.parse line = .ok ["chelp", topic]) :
    repeated line = if topic ∈ ownNames then "" else topic := by
  simp [repeated, parses]

/-- A line with a known command repeats nothing, but for one topic of `chelp`. -/
theorem repeated_own {line name : String} {tokens : List String} (parses : Line.parse line = .ok (name :: tokens))
    (own : name ∈ ownNames) (other : name = "chelp" → tokens.length ≠ 1) : repeated line = "" := by
  unfold repeated
  rw [parses]
  split
  · rename_i e
    cases e
    exact absurd rfl (other rfl)
  · rename_i e
    cases e
    exact if_pos own
  · rfl

theorem mem_repeated {x : Char} (control : IsControl x) {line : String} (hx : x ∈ (repeated line).toList) : x ∈ line.toList := by
  unfold repeated at hx
  split at hx
  · rename_i parses
    split at hx
    · cases hx
    · exact Line.mem_parse control parses (by simp) hx
  · rename_i parses
    split at hx
    · cases hx
    · exact Line.mem_parse control parses List.mem_cons_self hx
  · cases hx

open Output (written)

/-- What can be in the output when a line has run that found it empty. -/
inductive Leaves (colors : OutputColors) (line : String) : String → Prop
  | cleared (own : repeated line = "") : Leaves colors line ""
  | said (ops : List Output.Op) (own : repeated line = "") (free : ∀ op ∈ ops, ZeroFree op.said) :
    Leaves colors line (written .plain colors (Console.echo line :: ops))
  | repeats (before after : String) (visible : Visible (before ++ after).toList) :
    Leaves colors line (written .plain colors [Console.echo line, .error (before ++ repeated line ++ after)])

namespace Console

open Network (Link)

def output (c : Console h Link) : String := c.transport.exchange.outbound

theorem output_write (c : Console h Link) {ops : List Output.Op} (keep : .clear ∉ ops) :
    (c.write ops).output = c.output ++ written .plain c.colors ops :=
  (LawfulTransport.writeAs keep _ _ c.transport).1

/-- To empty the input field leaves the output alone. -/
theorem output_submit (c : Console h Link) (line : String) : (c.submit line).output = ((c.write [echo line]).execute line).output := by
  unfold submit
  generalize (c.write [echo line]).execute line = d
  rfl

variable {c : Console h Link} {line : String}

/-- A stage that fails repeats the name of the command at most. -/
theorem failed_leaves (own : c.registry = Registry.standard) (colors : OutputColors) {f : Failure} (ending : Stages c line (.error f)) :
    Leaves colors line (written .plain colors (echo line :: failureReport f)) := by
  cases ending with
  | unparsed parses =>
    refine .said _ (repeated_unparsed parses) ?_
    rcases Line.parse_error parses with rfl | rfl <;> decide
  | unknown parses absent =>
    rw [own] at absent
    have name := repeated_unknown parses (standard_unknown absent)
    rw [← name]
    exact .repeats "Command <b>" "</b> not found." (by decide)
  | @miscounted name tokens command parses found counts =>
    rw [own] at found
    obtain ⟨builtin, rfl⟩ := standard_resolveLive found
    refine .said _ (repeated_own parses (mem_ownNames builtin) ?_) ?_
    · intro chelp one
      apply counts
      rw [one]
      exact (chelp_params builtin chelp).symm
    · intro op hop
      rcases List.mem_cons.mp hop with rfl | hop
      · have given := (zeroFree_decimal tokens.length).append (show ZeroFree " parameters given but " by decide)
        exact (given.append (zeroFree_decimal _)).append (by decide)
      · cases List.mem_singleton.mp hop
        exact ZeroFree.append (by decide) (zeroFree_builtins command builtin).2.2
  | @unconverted name tokens command x g parses found counts hx hg =>
    rw [own] at found
    obtain ⟨builtin, -⟩ := standard_resolveLive found
    have text : ∀ p ∈ command.params, p.type = .text := by
      simp only [Command.builtins, List.mem_cons, List.not_mem_nil, or_false] at builtin
      rcases builtin with rfl | rfl | rfl | rfl | rfl <;> simp
    obtain ⟨p, hp, type⟩ := List.mem_map.mp (List.of_mem_zip hx).1
    rw [← type, text p hp] at hg
    cases hg

/-- The one argument of `chelp` is the topic as it stands. -/
theorem topic_of_gives {conversions : Conversions h} {state : h.State} {p : Param h} (text : p.type = .text) {tokens : List String}
    {args : Arguments h} (one : tokens.length = 1)
    (gives : List.Forall₂ (conversions.Gives state) (([p].map (·.type)).zip tokens) args) :
    ∃ topic, tokens = [topic] ∧ args = [.text topic] := by
  obtain ⟨topic, rfl⟩ := List.length_eq_one_iff.mp one
  refine ⟨topic, rfl, ?_⟩
  cases gives with
  | cons first rest =>
    cases rest
    simp only [Conversions.Gives, text] at first
    cases first
    rfl

theorem echoed_append (echoed : c.output = written .plain c.colors [echo line]) (ops : List Output.Op) :
    c.output ++ written .plain c.colors ops = written .plain c.colors (echo line :: ops) := by
  rw [echoed, ← Output.written_append]
  rfl

theorem zeroFree_listed (scene : Scene h) :
    ZeroFree (", ".intercalate (((Registry.standard : Registry h).listed scene).map (·.name))) := by
  apply zeroFree_intercalate (by decide)
  intro name hn
  obtain ⟨live, found⟩ := Option.isSome_iff_exists.mp ((standard_holds.ordered.mem_listed_iff scene name).mp hn)
  obtain ⟨builtin, rfl⟩ := standard_resolveLive found
  exact (zeroFree_builtins _ builtin).1

theorem failureReport_topic (topic : String) : failureReport (.command ("Invalid command <b>" ++ topic ++ "</b>.")) =
    [.error ("Invalid command <b>" ++ topic ++ "</b>.")] := by
  have loud : Failure.isSilent (.command ("Invalid command <b>" ++ topic ++ "</b>.")) = false := by
    simp [Failure.isSilent]
  unfold failureReport
  rw [loud]
  rfl

theorem failureReport_keeps (f : Failure) : .clear ∉ failureReport f := by
  unfold failureReport
  split
  · simp
  · split <;> simp

/-- A stage that fails adds its report to the output. -/
theorem failed_output {f : Failure} (ending : Stages c line (.error f)) :
    (c.execute line).output = c.output ++ written .plain c.colors (failureReport f) := by
  rw [← journaled_fst, journaled_failed ending, output_write _ (failureReport_keeps f)]
  rfl

/-- A command of the console says texts of its own, clears the output, or does not know
    the topic it is asked about. -/
theorem ran_leaves (own : c.registry = Registry.standard) (echoed : c.output = written .plain c.colors [echo line])
    {command : Command h} {args : Arguments h} (ending : Stages c line (.ok (command, args))) (noted : List Notice) :
    ∃ b, command.binding = .builtin b ∧
      Leaves c.colors line (match (c.note noted).runBuiltin b args with
        | (d, .ok _) => d.output
        | (d, .error f) => d.output ++ written .plain c.colors (failureReport f)) := by
  have said : ∀ ops : List Output.Op, repeated line = "" → (∀ op ∈ ops, ZeroFree op.said) →
      Leaves c.colors line (c.output ++ written .plain c.colors ops) := by
    intro ops nothing free
    rw [echoed_append echoed]
    exact .said ops nothing free
  have silent : repeated line = "" → Leaves c.colors line c.output := by
    intro nothing
    rw [echoed]
    exact .said [] nothing (fun op hop => by cases hop)
  cases ending with
  | @ready name tokens command args parses found counts gives =>
    rw [own] at found
    obtain ⟨builtin, rfl⟩ := standard_resolveLive found
    have named := mem_ownNames builtin
    simp only [Command.builtins, List.mem_cons, List.not_mem_nil, or_false] at builtin
    rcases builtin with rfl | rfl | rfl | rfl | rfl
    · refine ⟨.help, rfl, ?_⟩
      simp only [runBuiltin]
      rw [output_write (c.note noted) (by simp)]
      refine said _ (repeated_own parses named (by simp)) ?_
      simp only [List.forall_mem_cons, List.not_mem_nil, false_imp_iff, implies_true, and_true]
      refine ⟨by decide, by decide, by decide, ?_⟩
      show ZeroFree (", ".intercalate ((c.registry.listed c.scene).map (·.name)))
      rw [own]
      exact zeroFree_listed c.scene
    · refine ⟨.describe, rfl, ?_⟩
      obtain ⟨topic, rfl, rfl⟩ := topic_of_gives rfl counts gives
      have given : Arguments.text [(.text topic : Argument h)] 0 = .ok topic := rfl
      simp only [runBuiltin, given, note, own]
      cases topics : (Registry.standard : Registry h).resolveLive? c.scene topic with
      | none =>
        have unknown := (repeated_topic parses).trans (if_neg (standard_unknown topics))
        dsimp only
        rw [failureReport_topic]
        show Leaves c.colors line (c.output ++ written .plain c.colors _)
        rw [echoed_append echoed, ← unknown]
        exact .repeats "Invalid command <b>" "</b>." (by decide)
      | some described =>
        obtain ⟨builtin, rfl⟩ := standard_resolveLive topics
        have texts := zeroFree_builtins described builtin
        dsimp only
        rw [output_write _ (by simp)]
        refine said _ ((repeated_topic parses).trans (if_pos (mem_ownNames builtin))) ?_
        simp only [List.forall_mem_cons, List.not_mem_nil, false_imp_iff, implies_true, and_true]
        exact ⟨texts.2.1, ZeroFree.append (by decide) texts.2.2⟩
    · exact ⟨.quit, rfl, silent (repeated_own parses named (by simp))⟩
    · exact ⟨.close, rfl, silent (repeated_own parses named (by simp))⟩
    · exact ⟨.clear, rfl, .cleared (repeated_own parses named (by simp))⟩

/-- Whatever the line, all that is in the output afterwards are texts of the console's own
    and one repetition. -/
theorem submit_leaves (own : c.registry = Registry.standard) (empty : c.output = "") (line : String) :
    Leaves c.colors line (c.submit line).output := by
  have echoed : (c.write [echo line]).output = written .plain c.colors [echo line] := by
    rw [output_write c (by simp [echo]), empty, String.empty_append]
  rw [output_submit]
  generalize hd : c.write [echo line] = d at echoed
  have own' : d.registry = Registry.standard := by rw [← hd]; exact own
  have colors : d.colors = c.colors := by rw [← hd]; rfl
  rw [← colors] at echoed ⊢
  have ending := d.stages_prepare line
  rcases hp : d.prepare line with ⟨noted, f | ⟨command, args⟩⟩
  · rw [hp] at ending
    rw [failed_output ending, echoed_append echoed]
    exact failed_leaves own' d.colors ending
  · rw [hp] at ending
    obtain ⟨b, bound, leaves⟩ := ran_leaves own' echoed ending noted
    rw [execute_eq, dispatch_eq]
    simp only [hp, bound]
    rcases ran : (d.note noted).runBuiltin b args with ⟨e, f | done⟩
    · rw [ran] at leaves
      have kept : e.colors = d.colors := by
        have same := ((d.note noted).runBuiltin_ran b args).colors
        rw [ran] at same
        exact same
      dsimp only at leaves ⊢
      rw [output_write _ (failureReport_keeps f), kept]
      exact leaves
    · rw [ran] at leaves
      exact leaves

end Console

end CommandConsole
