/-
  CommandConsole.Proofs.Tick — a tick of a console is made of the host's steps.

  The listener's machine knows the host by four events: a line is taken, output is
  appended or cleared, the line is finished. A console does more in one tick. It parses,
  resolves, converts, runs a handler of the host, reports and keeps its history. Here
  all of that is followed down to the exchange: whatever the line and whatever the
  handler, running a line appends and clears output and does nothing else to the
  exchange (`wrote_submit`).

  Proved: from any state of an orderly run in which the host runs nothing, a tick of a
  console on that exchange is again an orderly run, one event after the other, to the
  exchange the tick leaves (`Orderly.tick`).
-/

import CommandConsole.Proofs.Displays
import CommandConsole.Proofs.Turns

namespace CommandConsole.Network.Listener

/-! ## What a console does to an exchange -/

/-- All that has happened to the exchange between the two is that output was written. -/
def Wrote (l l' : Link) : Prop := ∃ es : List Output.Effect, l'.exchange = (es.foldl Transport.apply l).exchange

theorem Wrote.refl (l : Link) : Wrote l l := ⟨[], rfl⟩

theorem apply_exchange (e : Output.Effect) {l l' : Link} (same : l.exchange = l'.exchange) :
    (Transport.apply l e).exchange = (Transport.apply l' e).exchange := by
  cases e with
  | append text => exact congrArg (Exchange.append · text) same
  | clear => exact congrArg Exchange.clear same

theorem foldl_apply_exchange (es : List Output.Effect) {l l' : Link} (same : l.exchange = l'.exchange) :
    (es.foldl Transport.apply l).exchange = (es.foldl Transport.apply l').exchange := by
  induction es generalizing l l' with
  | nil => exact same
  | cons e es ih => exact ih (apply_exchange e same)

theorem Wrote.trans {l l' l'' : Link} (h : Wrote l l') (h' : Wrote l' l'') : Wrote l l'' := by
  obtain ⟨es, he⟩ := h
  obtain ⟨es', he'⟩ := h'
  refine ⟨es ++ es', ?_⟩
  rw [he', foldl_apply_exchange es' he, List.foldl_append]

/-- Whatever a line does to a link, only output is written. -/
theorem wrote_kept (l : Link) : Transport.Kept (Wrote l) where
  append text wrote := wrote.trans ⟨[.append text], rfl⟩
  clearOutput wrote := wrote.trans ⟨[.clear], rfl⟩
  setVisible _ wrote := wrote

variable {h : Host}

theorem wrote_submit (c : Console h Link) (line : String) : Wrote c.transport (c.submit line).transport := by
  obtain ⟨es, he⟩ := Console.execute_kept (wrote_kept c.transport) (.refl _) [Console.echo line] line
  exact ⟨es, he⟩

/-! ## The host's steps -/

variable {s : System}

/-- The host's writes, one event each, while it runs a line. -/
theorem Orderly.writes (orderly : Orderly s) (runs : s.running.isSome) (es : List Output.Effect) {l : Link} (same : l.exchange = s.exchange) :
    ∃ t, Orderly t ∧ t.exchange = (es.foldl Transport.apply l).exchange ∧ t.phase = s.phase ∧ t.running = s.running := by
  induction es generalizing s l with
  | nil => exact ⟨s, orderly, same.symm, rfl, rfl⟩
  | cons e es ih =>
    cases e with
    | append text => exact ih (.step (.append text) orderly (.inl runs) rfl) runs (congrArg (Exchange.append · text) same)
    | clear => exact ih (.step .clear orderly (.inl runs) rfl) runs (congrArg Exchange.clear same)

theorem step_pop {line : String} {rest : List String} (still : s.running = none) (hq : s.exchange.queue = line :: rest) :
    ∃ t, step s .pop = some t ∧ t.exchange = s.exchange.pop.2 ∧ t.phase = s.phase ∧ t.running = some line := by
  simp [step, still, Exchange.pop, hq]

theorem step_finish {line : String} (runs : s.running = some line) :
    ∃ t, step s .finish = some t ∧ t.exchange = s.exchange.finish ∧ t.phase = s.phase ∧ t.running = none := by
  simp [step, runs]

/-- A tick of a console is made of the host's steps: it takes a line, writes while it
    runs it, and finishes it. -/
theorem Orderly.tick (orderly : Orderly s) (still : s.running = none) {c : Console h Link}
    (same : c.transport.exchange = s.exchange) (ran : c.tick.1 = true) :
    ∃ t, Orderly t ∧ t.exchange = c.tick.2.transport.exchange ∧ t.phase = s.phase ∧ t.running = none := by
  cases hq : s.exchange.queue with
  | nil => simp [Console.tick, Transport.poll, same, Exchange.pop, hq] at ran
  | cons line rest =>
    let l : Link := (Transport.poll c.transport).2
    obtain ⟨es, wrote⟩ := wrote_submit { c with transport := l } line
    have tick : c.tick.2.transport.exchange = (Console.submit { c with transport := l } line).transport.exchange.finish := by
      simp [Console.tick, Transport.poll, same, Exchange.pop, hq, Transport.handled, l]
    obtain ⟨s₁, hs₁, exchange₁, phase₁, running₁⟩ := step_pop still hq
    have popped : l.exchange = s₁.exchange := by rw [exchange₁, ← same]; rfl
    obtain ⟨s₂, orderly₂, exchange₂, phase₂, running₂⟩ :=
      (Orderly.step .pop orderly trivial hs₁).writes (by rw [running₁]; rfl) es popped
    obtain ⟨s₃, hs₃, exchange₃, phase₃, running₃⟩ := step_finish (running₂.trans running₁)
    refine ⟨s₃, .step .finish orderly₂ trivial hs₃, ?_, phase₃.trans (phase₂.trans phase₁), running₃⟩
    rw [exchange₃, exchange₂, tick, wrote]

end CommandConsole.Network.Listener
