/-
  CommandConsole.Proofs.Responses — where a client can cut what it receives.

  Every response ends with a zero byte. A client that cuts the stream at its zero bytes
  gets the responses back if no response has a zero byte before its end (`Framed`). The
  end is in-band: nothing on the way from a line to its response takes a zero character
  out, and a line is repeated in the answer when it names a command, or a topic, that is
  not known. So a client that sends a zero byte can break its own frames.

  What a line of output becomes is said one line at a time (`responseText_line`): the echo of
  a line is not sent (`responseText_echo`), an error is (`responseText_error`). Between two
  answers a session is `Quiet`, whatever commands its console has, and an answer is what the
  line has written (`Quiet.answer`).

  A console with its own commands only is followed through a session: which lines are
  answered (`served`), what each answer adds to the stream (`responses`), and how many zero
  bytes are in it (`Answered`).

  Proved (`responses_cut`): the client receives the responses and nothing else, first the
  pending output and then one response for each line before `exit`, in order; a response
  has as many zero bytes before its end as what is repeated of its line; so all are
  framed exactly when none is repeated and none was pending, and then the cut gives the
  responses back. A client that sends no zero byte gets none repeated.
  `zero_byte_in_response`: one that sends a zero byte in an unknown name gets a response with two.
-/

import CommandConsole.Network.Session
import CommandConsole.Proofs.Framing
import CommandConsole.Proofs.OwnCommands
import CommandConsole.Proofs.Styles
import CommandConsole.Proofs.Tick

namespace CommandConsole.Network

open Text.Utf8 (Byte)

/-! ## One response -/

/-- The response has one zero byte, and that is its last byte. -/
def Framed (r : List Byte) : Prop := ∃ body, r = body ++ [endOfResponse] ∧ endOfResponse ∉ body

theorem pieces_line {line : List Char} (single : '\n' ∉ line) (rest : List Char) :
    Text.pieces '\n' (line ++ '\n' :: rest) = line :: Text.pieces '\n' rest := by
  induction line with
  | nil => simp [Text.pieces]
  | cons c line ih =>
    have hc : c ≠ '\n' := fun e => single (e ▸ List.mem_cons_self)
    rw [List.cons_append, Text.pieces, if_neg hc, ih fun h => single (List.mem_cons_of_mem c h)]

/-- A line goes out with its end, or not at all. -/
theorem responseText_line {line : List Char} (single : '\n' ∉ line) (rest : List Char) :
    responseText (line ++ '\n' :: rest) = (if isSent line then line ++ ['\n'] else []) ++ responseText rest := by
  rw [responseText, pieces_line single, List.filter_cons]
  split
  · rfl
  · rfl

/-- An echoed line is not sent. -/
theorem responseText_echoed {line : List Char} (single : '\n' ∉ line) (rest : List Char) :
    responseText (echoMark ++ line ++ '\n' :: rest) = responseText rest := by
  have unsent : isSent (echoMark ++ line) = false := by
    have echoed : echoMark.isPrefixOf (echoMark ++ line) = true := List.isPrefixOf_iff_prefix.mpr (List.prefix_append _ _)
    rw [isSent, echoed]
    simp
  have whole : '\n' ∉ echoMark ++ line := by
    intro h
    rcases List.mem_append.mp h with h | h
    · revert h; decide
    · exact single h
  rw [responseText_line whole, unsent]
  rfl

theorem count_response (output : String) : (response output).count endOfResponse = (responseText output.toList).count '\x00' + 1 := by
  rw [response, List.count_append, endOfResponse, Text.Utf8.count_encodeChars]
  rfl

/-- A response is framed if it has one zero byte. -/
theorem framed_iff {r body : List Byte} (ends : r = body ++ [endOfResponse]) : Framed r ↔ r.count endOfResponse = 1 := by
  subst ends
  rw [List.count_append, List.count_singleton_self]
  constructor
  · rintro ⟨body', e, free⟩
    obtain ⟨rfl, -⟩ := List.append_inj' e rfl
    rw [List.count_eq_zero.mpr free]
  · intro one
    exact ⟨body, rfl, List.count_eq_zero.mp (by omega)⟩

/-! ## The response to a line -/

open Output (written)

/-- A text without its tags is one line if the text is. -/
theorem single_toPlain {text : String} (single : '\n' ∉ text.toList) : '\n' ∉ (Markup.toPlain text).toList := by
  intro feed
  rw [Markup.toPlain, String.toList_ofList] at feed
  exact single (Markup.mem_plainChars (by decide) feed)

theorem written_echo (colors : OutputColors) (line : String) :
    written .plain colors [Console.echo line] = "> " ++ Markup.toPlain line ++ "\n" := by
  rw [Console.echo, Output.written_lineItalic, Markup.toPlain_mark (by decide)]

/-- What follows the echo of a line is all that is sent of the output. -/
theorem responseText_echo (colors : OutputColors) {line : String} (single : '\n' ∉ line.toList) (output : String) :
    responseText (written .plain colors [Console.echo line] ++ output).toList = responseText output.toList := by
  have echoed : (written .plain colors [Console.echo line] ++ output).toList =
      echoMark ++ (Markup.toPlain line).toList ++ '\n' :: output.toList := by
    simp [written_echo, echoMark]
  rw [echoed, responseText_echoed (single_toPlain single)]

theorem responseText_behind_echo (colors : OutputColors) {line : String} (single : '\n' ∉ line.toList) (ops : List Output.Op) :
    responseText (written .plain colors (Console.echo line :: ops)).toList = responseText (written .plain colors ops).toList := by
  rw [← List.singleton_append, Output.written_append, responseText_echo colors single]

/-- The error line is one line, and it is sent. -/
theorem responseText_error (colors : OutputColors) {text : String} (single : '\n' ∉ text.toList) :
    responseText (written .plain colors [.error text]).toList = (Output.errorSigil ++ Markup.toPlain text ++ "\n").toList := by
  let line := '#' :: (">>x".toList ++ (Markup.toPlain text).toList)
  have chars : (Output.errorSigil ++ Markup.toPlain text ++ "\n").toList = line ++ '\n' :: [] := by
    simp [Output.errorSigil, Output.sigil, line]
  have whole : '\n' ∉ line := by
    intro feed
    rcases List.mem_cons.mp feed with e | feed
    · revert e; decide
    · rcases List.mem_append.mp feed with feed | feed
      · revert feed; decide
      · exact single_toPlain single feed
  have sent : isSent line = true := by
    have visible : line.all Text.isBlank = false := by
      have first : Text.isBlank '#' = false := by decide
      rw [List.all_cons, first, Bool.false_and]
    have other : echoMark.isPrefixOf line = false := rfl
    rw [isSent, visible, other]
    rfl
  rw [Output.written_error, chars, responseText_line whole, sent]
  exact List.append_nil _

theorem count_responseText_error (colors : OutputColors) {text : String} (single : '\n' ∉ text.toList) :
    (responseText (written .plain colors [.error text]).toList).count '\x00' = text.toList.count '\x00' := by
  have plain : (Markup.toPlain text).toList.count '\x00' = text.toList.count '\x00' := by
    rw [Markup.toPlain, String.toList_ofList, Markup.count_plainChars (by decide)]
  have free : ZeroFree Output.errorSigil ∧ ZeroFree "\n" := by decide
  rw [responseText_error colors single, String.toList_append, String.toList_append, List.count_append, List.count_append, plain,
    List.count_eq_zero.mpr free.1, List.count_eq_zero.mpr free.2, Nat.zero_add, Nat.add_zero]

theorem count_responseText_free {output : String} (free : ZeroFree output) : (responseText output.toList).count '\x00' = 0 := by
  rw [List.count_eq_zero]
  intro zero
  obtain ⟨p, hp, zero⟩ := List.mem_flatMap.mp zero
  rcases List.mem_append.mp zero with zero | zero
  · exact free (Text.mem_pieces (List.mem_of_mem_filter hp) zero)
  · revert zero; decide

/-- The response to a line has the zero characters of what is repeated of the line. -/
theorem count_responseText_leaves {colors : OutputColors} {line output : String} (single : '\n' ∉ line.toList)
    (h : Leaves colors line output) : (responseText output.toList).count '\x00' = (repeated line).toList.count '\x00' := by
  cases h with
  | cleared own =>
    rw [own]
    rfl
  | said ops own free =>
    rw [own, responseText_behind_echo colors single]
    exact count_responseText_free (Output.zeroFree_written colors free)
  | repeats before after visible =>
    have outer : ∀ x, IsControl x → before.toList.count x = 0 ∧ after.toList.count x = 0 := by
      intro x control
      rw [String.toList_append] at visible
      exact ⟨List.count_eq_zero.mpr fun hx => visible x (List.mem_append_left _ hx) control,
        List.count_eq_zero.mpr fun hx => visible x (List.mem_append_right _ hx) control⟩
    have feeds := outer '\n' (by decide)
    have whole : '\n' ∉ (before ++ repeated line ++ after).toList := by
      rw [← List.count_eq_zero, String.toList_append, String.toList_append, List.count_append, List.count_append, feeds.1, feeds.2,
        List.count_eq_zero.mpr fun feed => single (mem_repeated (by decide) feed)]
    have zeros := outer '\x00' (by decide)
    rw [responseText_behind_echo colors single, count_responseText_error colors whole, String.toList_append, String.toList_append,
      List.count_append, List.count_append, zeros.1, zeros.2, Nat.zero_add, Nat.add_zero]

/-! ## What a session answers -/

/-- What the console repeats of what a client sent. A line that is too long is not even
    decoded. -/
def Incoming.repeated : Incoming → String
  | .line text => CommandConsole.repeated text
  | .tooLong => ""

/-- The lines that a session answers, which are all before the first `exit`. -/
def served (limit : Nat) (sent : List Byte) : List Incoming :=
  ((linePieces sent).map (classify limit)).takeWhile (· ≠ .line exitCommand)

/-- A response ends with a zero byte, and before that it has those of what it repeats. -/
structure Answered (got : Incoming) (r : List Byte) : Prop where
  ends : ∃ body, r = body ++ [endOfResponse]
  zeros : r.count endOfResponse = got.repeated.toList.count '\x00' + 1

theorem answered_response {got : Incoming} {output : String}
    (zeros : (responseText output.toList).count '\x00' = got.repeated.toList.count '\x00') : Answered got (response output) :=
  ⟨⟨_, rfl⟩, by rw [count_response, zeros]⟩

theorem Answered.framed_iff {got : Incoming} {r : List Byte} (answered : Answered got r) :
    Framed r ↔ '\x00' ∉ got.repeated.toList := by
  obtain ⟨body, ends⟩ := answered.ends
  rw [Network.framed_iff ends, answered.zeros, ← List.count_eq_zero]
  omega

theorem replies_end {gots : List Incoming} {rs : List (List Byte)} (replied : List.Forall₂ Answered gots rs) :
    ∀ r ∈ rs, ∃ body, r = body ++ [endOfResponse] := by
  induction replied with
  | nil => simp
  | cons answered _ ih => exact List.forall_mem_cons.mpr ⟨answered.ends, ih⟩

theorem replies_framed_iff {gots : List Incoming} {rs : List (List Byte)} (replied : List.Forall₂ Answered gots rs) :
    (∀ r ∈ rs, Framed r) ↔ ∀ got ∈ gots, '\x00' ∉ got.repeated.toList := by
  induction replied with
  | nil => simp
  | cons answered _ ih => rw [List.forall_mem_cons, List.forall_mem_cons, answered.framed_iff, ih]

theorem mem_decodeLine {c : Char} (low : c.toNat < 0x80) {piece : List Byte} (hc : c ∈ (decodeLine piece).toList) :
    ∃ b ∈ piece, c.toNat = b.toNat := by
  rw [decodeLine, String.toList_ofList] at hc
  exact Text.Utf8.mem_decodeLossy low (Text.mem_trimChars hc)

/-- A decoded line is one line. -/
theorem decodeLine_single {piece : List Byte} (closed : lineFeed ∉ piece) : '\n' ∉ (decodeLine piece).toList := by
  intro feed
  obtain ⟨b, hb, same⟩ := mem_decodeLine (by decide) feed
  have : b = lineFeed := UInt8.toNat_inj.mp same.symm
  exact closed (this ▸ hb)

theorem classify_line {limit : Nat} {piece : List Byte} {text : String} (got : classify limit piece = .line text) :
    text = decodeLine piece := by
  unfold classify at got
  split at got
  · cases got
  · cases got
    rfl

/-- A line that is read is one line. -/
theorem readLine_single {limit : Nat} {source rest : Chunks} {text : String}
    (read : readLine limit source = some (.line text, rest)) : '\n' ∉ text.toList := by
  rcases readLine_cases limit source with ⟨-, ended⟩ | ⟨piece, rest', classified, used⟩
  · rw [ended] at read
    cases read
  · rw [classified] at read
    obtain ⟨got, -⟩ := Prod.mk.inj (Option.some.inj read)
    rw [classify_line got]
    exact decodeLine_single used.1

/-- The pieces between separators hold none and nothing new. -/
theorem mem_splitOn {z : Byte} {bytes p : List Byte} (hp : p ∈ bytes.splitOn z) : z ∉ p ∧ p ⊆ bytes := by
  induction hn : bytes.length using Nat.strongRecOn generalizing bytes with
  | ind n ih =>
    by_cases hz : z ∈ bytes
    · obtain ⟨first, more, rfl, closed⟩ := List.eq_append_cons_of_mem hz
      rw [List.splitOn_append_cons_self_of_not_mem closed] at hp
      rcases List.mem_cons.mp hp with rfl | hp
      · exact ⟨closed, List.subset_append_left _ _⟩
      · have shorter : more.length < n := by
          rw [← hn, List.length_append, List.length_cons]
          omega
        obtain ⟨open', inside⟩ := ih _ shorter hp rfl
        exact ⟨open', fun b hb => List.mem_append_right _ (List.mem_cons_of_mem _ (inside hb))⟩
    · rw [List.splitOn_eq_singleton hz] at hp
      cases List.mem_singleton.mp hp
      exact ⟨hz, List.Subset.refl _⟩

theorem mem_linePieces {piece bytes : List Byte} (hp : piece ∈ linePieces bytes) : piece ⊆ bytes := by
  simp only [linePieces] at hp
  split at hp
  · exact (mem_splitOn (List.dropLast_subset _ hp)).2
  · exact (mem_splitOn hp).2

/-- A zero character that is repeated was a zero byte. -/
theorem repeated_sent {limit : Nat} {sent : List Byte} {got : Incoming} (hg : got ∈ served limit sent)
    (zero : '\x00' ∈ got.repeated.toList) : endOfResponse ∈ sent := by
  obtain ⟨piece, hp, rfl⟩ := List.mem_map.mp (List.takeWhile_subset _ hg)
  unfold classify at zero
  split at zero
  · cases zero
  · obtain ⟨b, hb, same⟩ := mem_decodeLine (by decide) (mem_repeated (by decide) zero)
    have : b = endOfResponse := UInt8.toNat_inj.mp same.symm
    exact mem_linePieces hp (this ▸ hb)

variable {h : Host}

/-- A console of its own commands that serves, with nothing left to run. -/
structure Ready (c : Console h Link) : Prop where
  own : c.registry = Registry.standard
  still : c.transport.exchange.queue = []
  serving : c.transport.exchange.stopped = false

theorem Listener.Wrote.still {l l' : Link} (wrote : Wrote l l') :
    l'.exchange.queue = l.exchange.queue ∧ l'.exchange.stopped = l.exchange.stopped := by
  obtain ⟨es, same⟩ := wrote
  rw [same]
  clear same
  induction es generalizing l with
  | nil => exact ⟨rfl, rfl⟩
  | cons e es ih => cases e <;> exact ih

namespace Session

/-- Between two responses, whatever the console knows. -/
structure Quiet (s : Session h) : Prop where
  still : s.console.transport.exchange.queue = []
  serving : s.console.transport.exchange.stopped = false
  empty : s.console.output = ""

/-- Between two responses. -/
structure Settled (s : Session h) : Prop where
  ready : Ready s.console
  empty : s.console.output = ""

theorem Settled.quiet {s : Session h} (settled : s.Settled) : s.Quiet :=
  ⟨settled.ready.still, settled.ready.serving, settled.empty⟩

theorem flush_settled {s : Session h} (ready : Ready s.console) :
    s.flush.received = s.received ++ response s.console.output ∧ s.flush.Settled :=
  ⟨rfl, ⟨ready.own, ready.still, ready.serving⟩, rfl⟩

variable {s : Session h}

/-- The console that runs the one line in its queue. -/
def taken (s : Session h) : Console h Link :=
  { s.console with
    transport := { s.console.transport with
      exchange := { s.console.transport.exchange with queue := [], inFlight := true, replyPending := true } } }

/-- A line is answered with what it has written when it is submitted. -/
theorem Quiet.answer (quiet : s.Quiet) (line : String) :
    (s.answer line).received = s.received ++ response (s.taken.submit line).output ∧
      (s.answer line).console.registry = s.console.registry ∧ (s.answer line).Quiet := by
  have polled : Transport.poll (s.update (·.push line)).console.transport = (some line, s.taken.transport) := by
    simp [Transport.poll, update, Exchange.push, Exchange.pop, quiet.still, taken]
  have ticked : (s.update (·.push line)).console.tick =
      (true, { s.taken.submit line with transport := Transport.handled (s.taken.submit line).transport }) := by
    unfold Console.tick
    rw [polled]
    rfl
  obtain ⟨queue, stopped⟩ := (Listener.wrote_submit s.taken line).still
  have registry := s.taken.submit_registry line
  simp only [Session.answer, ticked]
  generalize s.taken.submit line = d at queue stopped registry
  exact ⟨rfl, registry, queue, stopped.trans quiet.serving, rfl⟩

theorem answer_settled (settled : s.Settled) {line : String} (single : '\n' ∉ line.toList) :
    ∃ r, (s.answer line).received = s.received ++ r ∧ Answered (.line line) r ∧ (s.answer line).Settled := by
  obtain ⟨received, registry, after⟩ := settled.quiet.answer line
  have leaves := Console.submit_leaves (c := s.taken) settled.ready.own settled.empty line
  refine ⟨_, received, answered_response (count_responseText_leaves single leaves), ?_, after.empty⟩
  exact ⟨registry.trans settled.ready.own, after.still, after.serving⟩

theorem refuse_settled (settled : s.Settled) :
    ∃ r, s.refuse.received = s.received ++ r ∧ Answered .tooLong r ∧ s.refuse.Settled := by
  refine ⟨response tooLongNotice, ?_, answered_response (count_responseText_free (by decide)), ?_⟩
  · show s.received ++ response (s.console.output ++ tooLongNotice) = _
    rw [settled.empty, String.empty_append]
  · exact ⟨⟨settled.ready.own, settled.ready.still, settled.ready.serving⟩, rfl⟩

/-- A session is over when there is no more line to answer. Otherwise it answers the next
    one. -/
theorem next_settled (settled : s.Settled) (limit : Nat) (source : Chunks) :
    (served limit source.flatten = [] ∧ s.next limit source = none) ∨
    ∃ got rest s' r, s.next limit source = some (rest, s') ∧ rest.flatten.length < source.flatten.length ∧
      served limit source.flatten = got :: served limit rest.flatten ∧
      s'.received = s.received ++ r ∧ Answered got r ∧ s'.Settled := by
  unfold next
  rw [settled.ready.serving, if_neg Bool.false_ne_true]
  rcases readLine_cases limit source with ⟨e, read⟩ | ⟨piece, rest, read, used⟩
  · left
    rw [read, e]
    exact ⟨rfl, rfl⟩
  · have lines : served limit source.flatten =
        (classify limit piece :: (linePieces rest.flatten).map (classify limit)).takeWhile (· ≠ .line exitCommand) := by
      rw [served, linePieces_usesUp used, List.map_cons]
    rw [read]
    cases got : classify limit piece with
    | tooLong =>
      obtain ⟨r, received, answered, settled'⟩ := refuse_settled settled
      refine .inr ⟨.tooLong, rest, s.refuse, r, rfl, used.shortens, ?_, received, answered, settled'⟩
      rw [lines, got, List.takeWhile_cons_of_pos (by simp), served]
    | line text =>
      by_cases exits : text = exitCommand
      · left
        rw [lines, got, exits, List.takeWhile_cons_of_neg (by simp)]
        exact ⟨rfl, if_pos rfl⟩
      · have single : '\n' ∉ text.toList := readLine_single (read.trans (by rw [got]))
        obtain ⟨r, received, answered, settled'⟩ := answer_settled settled single
        refine .inr ⟨.line text, rest, s.answer text, r, if_neg exits, used.shortens, ?_, received, answered, settled'⟩
        rw [lines, got, List.takeWhile_cons_of_pos (by simpa using exits), served]

/-- What each line that is served adds to the stream. -/
def replies (limit : Nat) : Nat → Chunks → Session h → List (List Byte)
  | 0, _, _ => []
  | fuel + 1, source, s =>
    match s.next limit source with
    | none => []
    | some (rest, s') => s'.received.drop s.received.length :: replies limit fuel rest s'

/-- One reply for each line, in order, and nothing between them. -/
theorem serve_replies (settled : s.Settled) (limit : Nat) {source : Chunks} {fuel : Nat} (enough : source.flatten.length < fuel) :
    (serve limit fuel source s).received = s.received ++ (replies limit fuel source s).flatten ∧
      List.Forall₂ Answered (served limit source.flatten) (replies limit fuel source s) := by
  induction fuel generalizing source s with
  | zero => omega
  | succ fuel ih =>
    rw [serve, replies]
    rcases next_settled settled limit source with ⟨done, next⟩ | ⟨got, rest, s', r, next, shorter, lines, received, answered, settled'⟩
    · rw [next, done]
      exact ⟨by simp, .nil⟩
    · obtain ⟨all, replied⟩ := ih settled' (show rest.flatten.length < fuel by omega)
      rw [next, lines]
      dsimp only
      rw [all, received, List.drop_left]
      exact ⟨by simp, .cons answered replied⟩

end Session

/-! ## Cutting the stream -/

/-- A cut at the zero bytes gives back responses that are framed, and no others. -/
theorem splitOn_responses {rs : List (List Byte)} (ends : ∀ r ∈ rs, ∃ body, r = body ++ [endOfResponse]) :
    rs.flatten.splitOn endOfResponse = rs.map List.dropLast ++ [[]] ↔ ∀ r ∈ rs, Framed r := by
  constructor
  · intro cut r hr
    obtain ⟨body, rfl⟩ := ends r hr
    have piece : body ∈ rs.flatten.splitOn endOfResponse := by
      rw [cut]
      exact List.mem_append_left _ (List.mem_map.mpr ⟨_, hr, List.dropLast_concat⟩)
    exact ⟨body, rfl, (mem_splitOn piece).1⟩
  · intro framed
    clear ends
    induction rs with
    | nil => rfl
    | cons r rs ih =>
      obtain ⟨body, rfl, closed⟩ := framed r List.mem_cons_self
      rw [List.flatten_cons, List.append_assoc, List.singleton_append, List.splitOn_append_cons_self_of_not_mem closed,
        ih fun r hr => framed r (List.mem_cons_of_mem _ hr), List.map_cons, List.dropLast_concat]
      rfl

/-- The responses of a session, first the one on connection. -/
def responses (limit : Nat) (console : Console h Link) (sent : List Byte) : List (List Byte) :=
  let greeted := Session.greet console
  greeted.received :: Session.replies (Session.lineLimit limit) (sent.length + 1) (unread sent []) greeted

theorem responses_answer {c : Console h Link} (ready : Ready c) (limit : Nat) (sent : List Byte) :
    ∃ replies, responses limit c sent = response c.output :: replies ∧
      (Session.run limit c sent).received = (responses limit c sent).flatten ∧
      List.Forall₂ Answered (served (Session.lineLimit limit) sent) replies := by
  have greeted : Session.greet c = Session.flush { console := c, received := [], lines := 0 } := by
    unfold Session.greet
    rw [if_neg]
    simp [ready.serving]
  obtain ⟨received, settled⟩ := Session.flush_settled (s := { console := c, received := [], lines := 0 }) ready
  rw [← greeted] at received settled
  have all : (unread sent []).flatten = sent := by rw [flatten_unread, List.flatten_nil, List.append_nil]
  have enough : (unread sent []).flatten.length < sent.length + 1 := by
    rw [all]
    omega
  obtain ⟨served, replied⟩ := Session.serve_replies settled (Session.lineLimit limit) enough
  rw [all] at replied
  refine ⟨_, ?_, served, replied⟩
  rw [responses, received]
  rfl

/-- A client receives the responses and nothing else, in order: the pending output and
    then one response for each line that is served. To cut at the zero bytes gives them
    back if and only if each has one, and that is so unless a zero character was pending or
    is repeated from a line. Then the client has sent a zero byte. -/
theorem responses_cut {c : Console h Link} (ready : Ready c) (limit : Nat) (sent : List Byte) :
    ∃ replies, responses limit c sent = response c.output :: replies ∧
      (Session.run limit c sent).received = (responses limit c sent).flatten ∧
      List.Forall₂ Answered (served (Session.lineLimit limit) sent) replies ∧
      ((Session.run limit c sent).received.splitOn endOfResponse = (responses limit c sent).map List.dropLast ++ [[]] ↔
        ∀ r ∈ responses limit c sent, Framed r) ∧
      ((∀ r ∈ responses limit c sent, Framed r) ↔
        '\x00' ∉ responseText c.output.toList ∧
          ∀ got ∈ served (Session.lineLimit limit) sent, '\x00' ∉ got.repeated.toList) ∧
      (endOfResponse ∉ sent → ∀ got ∈ served (Session.lineLimit limit) sent, '\x00' ∉ got.repeated.toList) := by
  obtain ⟨replies, all, received, replied⟩ := responses_answer ready limit sent
  have ends : ∀ r ∈ responses limit c sent, ∃ body, r = body ++ [endOfResponse] := by
    rw [all, List.forall_mem_cons]
    exact ⟨⟨_, rfl⟩, replies_end replied⟩
  have greeting : Framed (response c.output) ↔ '\x00' ∉ responseText c.output.toList := by
    have one := framed_iff (r := response c.output) rfl
    rw [count_response] at one
    rw [one, ← List.count_eq_zero]
    omega
  refine ⟨replies, all, received, replied, ?_, ?_, ?_⟩
  · rw [received]
    exact splitOn_responses ends
  · rw [all, List.forall_mem_cons, greeting, replies_framed_iff replied]
  · intro free got hg zero
    exact free (repeated_sent hg zero)

/-- A session of three lines, one of them behind `exit`. -/
theorem responses_cut_help :
    let c : Console Host.bare Link := Console.create Link.start Settings.standard ()
    let sent := Text.Utf8.encode "help\nexit\nhelp\n"
    Ready c ∧ endOfResponse ∉ sent ∧ (responses 1024 c sent).length = 2 ∧
      (Session.run 1024 c sent).received.splitOn endOfResponse = (responses 1024 c sent).map List.dropLast ++ [[]] := by
  intro c sent
  have ready : Ready c := ⟨rfl, rfl, rfl⟩
  have free : endOfResponse ∉ sent := by decide
  have one : served (Session.lineLimit 1024) sent = [.line "help"] := by decide +kernel
  obtain ⟨replies, all, -, replied, cut, framed, unrepeated⟩ := responses_cut ready 1024 sent
  refine ⟨ready, free, ?_, cut.mpr (framed.mpr ⟨by decide, unrepeated free⟩)⟩
  rw [all, List.length_cons, ← replied.length_eq, one]
  rfl

/-- A zero byte in the name of a command that is not known: the session has two
    responses, and the cut gives three pieces. -/
theorem zero_byte_in_response :
    let c : Console Host.bare Link := Console.create Link.start Settings.standard ()
    let sent : List Byte := [97, 0, 98, 10]
    let r := Text.Utf8.encode "#>>xCommand 'a\x00b' not found.\n" ++ [endOfResponse]
    Ready c ∧ responses 1024 c sent = [[endOfResponse], r] ∧ ¬ Framed r ∧
      (Session.run 1024 c sent).received.splitOn endOfResponse =
        [[], Text.Utf8.encode "#>>xCommand 'a", Text.Utf8.encode "b' not found.\n", []] := by
  intro c sent r
  refine ⟨⟨rfl, rfl, rfl⟩, by decide +kernel, ?_, by decide +kernel⟩
  rw [framed_iff rfl]
  decide

end CommandConsole.Network
