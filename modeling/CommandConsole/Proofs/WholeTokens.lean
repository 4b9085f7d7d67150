/-
  CommandConsole.Proofs.WholeTokens — when a token is converted whole.

  A token with commas stands for its pieces, unless no overload takes so many: then it is
  converted whole, so that a name may have a comma in it. Whether there is one the
  conversions know, but `convertToken` does not ask them. It goes by the answer to the
  pieces, and `noOverload` is an answer that an overload can give too: one that converts its
  tokens by other conversions hands on what those refuse. Such an overload took the pieces,
  and the token is tried once more all the same.

  What is tried does not show in what comes of it, so `attempted` converts a token by overloads
  that write down each run. `Runs` says for given tokens what is run and what comes of it, by
  what was registered; `Tries` says it for a token with commas.

  Proved (`pieces_decide`, `ByPieces`), whatever was registered, for a token with commas:
  - the runs and what comes of them are those of `Tries`, and no others;
  - an overload for the pieces that does not refuse them is all that is run, and decides;
  - an overload is run on the whole token exactly if there is one that takes it, and those
    that take the pieces, if there are any, refuse them;
  - a failure fails the call, as every failure does, and a value is the argument.
  `refused_pieces_tried_whole` is an overload for the pieces that fails, in a call that does not.
-/

import CommandConsole.Proofs.Dispatch
import CommandConsole.Proofs.Precedence

namespace CommandConsole.Conversions

variable {h : Host}

/-! ## What is run -/

/-- An overload run plainly, and written down. -/
def record {t : Target h} (state : h.State) (a : Attempt h t) : StateM (List (Attempt h t)) (Except Failure t.Value) := do
  modify (· ++ [a])
  pure (a.overload.run state a.tokens)

/-- What comes of a token, and the overloads that were run for it, in order. -/
def attempted (c : Conversions h) (state : h.State) (t : Target h) (token : String) :
    Except Failure t.Value × List (Attempt h t) :=
  let (ending, tries) := (c.convertTokenIn (record state) token).run []
  (ending.2, tries)

/-! ## By what was registered -/

/-- What is run on some tokens, and what comes of it. -/
inductive Runs (registered : List (Entry h)) (state : h.State) (t : Target h) (tokens : List String) :
    List (Attempt h t) → Except Failure t.Value → Prop
  | ran {o : Overload h t} : First registered t tokens.length o → Runs registered state t tokens [⟨o, tokens⟩] (o.run state tokens)
  | refused : (∀ e ∈ registered, ¬ Fits t tokens.length e) →
      Runs registered state t tokens [] (.error (.noOverload t.name tokens.length))

/-- What is run for a token with commas, and what comes of it. -/
inductive Tries (registered : List (Entry h)) (state : h.State) (t : Target h) (token : String) :
    List (Attempt h t) → Except Failure t.Value → Prop
  | pieces {tries : List (Attempt h t)} {r : Except Failure t.Value} : Runs registered state t (commaPieces token) tries r →
      isRefusal r = false → Tries registered state t token tries r
  | whole {first rest : List (Attempt h t)} {refusal r : Except Failure t.Value} :
      Runs registered state t (commaPieces token) first refusal → isRefusal refusal = true →
      Runs registered state t [token] rest r → Tries registered state t token (first ++ rest) r

section

variable {registered : List (Entry h)} {state : h.State} {t : Target h} {tokens : List String} {token : String}
  {tries tries' : List (Attempt h t)} {r r' : Except Failure t.Value}

theorem not_first_of_unfit (none : ∀ e ∈ registered, ¬ Fits t tokens.length e) (o : Overload h t) :
    ¬ First registered t tokens.length o := by
  intro first
  obtain ⟨e, he, fits⟩ := exists_first_iff.mp ⟨o, first⟩
  exact none e he fits

theorem Runs.unique (runs : Runs registered state t tokens tries r) (runs' : Runs registered state t tokens tries' r') :
    tries = tries' ∧ r = r' := by
  cases runs with
  | ran first =>
    cases runs' with
    | ran other => exact first.unique other ▸ ⟨rfl, rfl⟩
    | refused none => exact absurd first (not_first_of_unfit none _)
  | refused none =>
    cases runs' with
    | ran first => exact absurd first (not_first_of_unfit none _)
    | refused => exact ⟨rfl, rfl⟩

theorem Tries.unique (own : Tries registered state t token tries r) (other : Tries registered state t token tries' r') :
    tries = tries' ∧ r = r' := by
  cases own with
  | pieces runs kept =>
    cases other with
    | pieces runs' _ => exact runs.unique runs'
    | whole runs' refused _ =>
      obtain ⟨-, rfl⟩ := runs.unique runs'
      rw [kept] at refused
      cases refused
  | whole runs refused again =>
    cases other with
    | pieces runs' kept =>
      obtain ⟨-, rfl⟩ := runs.unique runs'
      rw [refused] at kept
      cases kept
    | whole runs' _ again' =>
      obtain ⟨rfl, -⟩ := runs.unique runs'
      obtain ⟨rfl, rfl⟩ := again.unique again'
      exact ⟨rfl, rfl⟩

/-- An overload that takes the tokens is what is run on them. -/
theorem Runs.first {o : Overload h t} (runs : Runs registered state t tokens tries r)
    (first : First registered t tokens.length o) : tries = [⟨o, tokens⟩] ∧ r = o.run state tokens :=
  runs.unique (.ran first)

theorem Runs.mem_iff (runs : Runs registered state t tokens tries r) (a : Attempt h t) :
    a ∈ tries ↔ a.tokens = tokens ∧ First registered t tokens.length a.overload := by
  constructor
  · intro ha
    cases runs with
    | ran first =>
      rw [List.mem_singleton.mp ha]
      exact ⟨rfl, first⟩
    | refused => cases ha
  · rintro ⟨same, first⟩
    obtain ⟨rfl, -⟩ := runs.first first
    exact List.mem_singleton.mpr (same ▸ rfl)

/-- The pieces are refused if none takes them, or the one that does says so. -/
theorem Runs.isRefusal_iff (runs : Runs registered state t tokens tries r) :
    isRefusal r = true ↔ ∀ o, First registered t tokens.length o → isRefusal (o.run state tokens) = true := by
  constructor
  · intro refused o first
    obtain ⟨-, rfl⟩ := runs.first first
    exact refused
  · intro all
    cases runs with
    | ran first => exact all _ first
    | refused => rfl

end

/-! ## What is written down -/

section

variable {c : Conversions h} {registered : List (Entry h)}

theorem Holds.runs (holds : c.Holds registered) (state : h.State) (t : Target h) (tokens : List String) :
    ∃ tries, Runs registered state t tokens tries (c.convert state t tokens) ∧
      ∀ before, (c.convertIn (record state) tokens).run before = (c.converted state t tokens, before ++ tries) := by
  have ends := holds t tokens.length
  rw [converted_eq, convert_eq]
  unfold convertIn
  cases found : c.candidates t tokens.length with
  | nil =>
    rw [found] at ends
    exact ⟨[], .refused (filterMap_offer_eq_nil.mp ends.symm), fun before => by rw [List.append_nil]; rfl⟩
  | cons o others =>
    rw [found] at ends
    exact ⟨[⟨o, tokens⟩], .ran (first_iff.mp (by rw [← ends]; rfl)), fun before => rfl⟩

/-- The pieces are tried first, and then the whole token if they are refused. -/
theorem attempted_eq (c : Conversions h) (state : h.State) (t : Target h) (token : String) : c.attempted state t token =
    let (first, tries) := (c.convertIn (record state) (commaPieces token)).run []
    if 1 < (commaPieces token).length ∧ isRefusal first.2 then
      let (second, tries) := (c.convertIn (record state) [token]).run tries
      (second.2, tries)
    else (first.2, tries) := by
  unfold attempted convertTokenIn
  rw [StateT.run_bind]
  rcases (c.convertIn (record state) (commaPieces token)).run [] with ⟨⟨noted, ending⟩, tries⟩
  dsimp only [bind]
  by_cases whole : 1 < (commaPieces token).length ∧ isRefusal ending = true
  · rw [if_pos whole, if_pos whole]
    rfl
  · rw [if_neg whole, if_neg whole]
    rfl

theorem Holds.attempted (holds : c.Holds registered) (state : h.State) (t : Target h) {token : String}
    (several : 1 < (commaPieces token).length) :
    ∃ tries, Tries registered state t token tries (c.convertToken state t token).2 ∧
      c.attempted state t token = ((c.convertToken state t token).2, tries) := by
  obtain ⟨first, runs, written⟩ := holds.runs state t (commaPieces token)
  obtain ⟨rest, runs', written'⟩ := holds.runs state t [token]
  rw [attempted_eq, written [], convertToken_eq]
  cases refused : isRefusal (c.convert state t (commaPieces token)) with
  | false =>
    refine ⟨first, ?_, ?_⟩
    · rw [if_neg (by simp), converted_eq]
      exact .pieces runs refused
    · simp [converted_eq, refused]
  | true =>
    refine ⟨first ++ rest, ?_, ?_⟩
    · rw [if_pos ⟨several, rfl⟩]
      exact .whole runs refused runs'
    · simp [converted_eq, refused, several, written']

end

/-! ## In a call -/

section

variable {c : Conversions h} {state : h.State} {t : Target h} {token : String} {types : List (ParamType h)} {tokens : List String}
  {i : Nat}

/-- A token that does not convert fails the call. -/
theorem convertAll_failure (declared : types[i]? = some (.typed t)) (given : tokens[i]? = some token) {f : Failure}
    (fails : (c.convertToken state t token).2 = .error f) : (c.convertAll state types tokens).2 = .error .badArgument := by
  have here : (types.zip tokens)[i]? = some (.typed t, token) := List.getElem?_zip_eq_some.mpr ⟨declared, given⟩
  refine (convertAll_error_iff c state).mpr ⟨rfl, _, List.mem_of_getElem? here, f, ?_⟩
  show (c.convertToken state t token).2.map _ = _
  rw [fails]
  rfl

/-- In a call that converts, a token has given the argument of its place. -/
theorem convertAll_value (declared : types[i]? = some (.typed t)) (given : tokens[i]? = some token) {args : Arguments h}
    (converts : (c.convertAll state types tokens).2 = .ok args) :
    ∃ v, (c.convertToken state t token).2 = .ok v ∧ args[i]? = some (.typed t v) := by
  have gives := (convertAll_ok_iff c state).mp converts
  have here : (types.zip tokens)[i]? = some (.typed t, token) := List.getElem?_zip_eq_some.mpr ⟨declared, given⟩
  obtain ⟨inZip, place⟩ := List.getElem?_eq_some_iff.mp here
  have inArgs : i < args.length := gives.length_eq ▸ inZip
  have one := gives.get inZip inArgs
  rw [List.get_eq_getElem, List.get_eq_getElem, place] at one
  have one : (c.convertToken state t token).2.map (Argument.typed t) = .ok args[i] := one
  cases answer : (c.convertToken state t token).2 with
  | error f =>
    rw [answer] at one
    cases one
  | ok v =>
    rw [answer] at one
    exact ⟨v, rfl, by rw [List.getElem?_eq_getElem inArgs, ← Except.ok.inj one]⟩

end

/-! ## Tokens with commas -/

theorem length_pieces (sep : Char) (s : List Char) : (Text.pieces sep s).length = s.count sep + 1 := by
  induction s with
  | nil => rfl
  | cons c r ih =>
    obtain ⟨p, ps, e⟩ := List.exists_cons_of_ne_nil (Text.pieces_ne_nil sep r)
    rw [e] at ih
    by_cases hc : c = sep
    · simp [Text.pieces, hc, e, ← ih]
    · simp [Text.pieces, hc, e, ← ih]

theorem one_lt_commaPieces {token : String} (commas : ',' ∈ token.toList) : 1 < (commaPieces token).length := by
  have some := List.count_pos_iff.mpr commas
  rw [commaPieces, Text.piecesOf, List.length_map, List.length_map, length_pieces]
  omega

/-- How a token with commas is converted. -/
structure ByPieces (c : Conversions h) (registered : List (Entry h)) (state : h.State) (t : Target h) (token : String) : Prop where
  tries : ∀ tries r, c.attempted state t token = (r, tries) ↔ Tries registered state t token tries r
  /-- Writing down the runs changes nothing. -/
  converted : (c.attempted state t token).1 = (c.convertToken state t token).2
  decides : ∀ o, First registered t (commaPieces token).length o → isRefusal (o.run state (commaPieces token)) = false →
    c.attempted state t token = (o.run state (commaPieces token), [⟨o, commaPieces token⟩])
  whole : ∀ o, ⟨o, [token]⟩ ∈ (c.attempted state t token).2 ↔ First registered t 1 o ∧
    ∀ p, First registered t (commaPieces token).length p → isRefusal (p.run state (commaPieces token)) = true
  fails : ∀ (types : List (ParamType h)) (tokens : List String) (i : Nat) f, types[i]? = some (.typed t) → tokens[i]? = some token →
    (c.convertToken state t token).2 = .error f → (c.convertAll state types tokens).2 = .error .badArgument
  gives : ∀ (types : List (ParamType h)) (tokens : List String) (i : Nat) args, types[i]? = some (.typed t) → tokens[i]? = some token →
    (c.convertAll state types tokens).2 = .ok args →
    ∃ v, (c.convertToken state t token).2 = .ok v ∧ args[i]? = some (.typed t v)

/-- The whole token is run on exactly if the pieces are refused. -/
theorem Tries.whole_iff {registered : List (Entry h)} {state : h.State} {t : Target h} {token : String} {tries : List (Attempt h t)}
    {r : Except Failure t.Value} (several : 1 < (commaPieces token).length) (own : Tries registered state t token tries r)
    (o : Overload h t) : ⟨o, [token]⟩ ∈ tries ↔ First registered t 1 o ∧
      ∀ p, First registered t (commaPieces token).length p → isRefusal (p.run state (commaPieces token)) = true := by
  have apart : [token] ≠ commaPieces token := by
    intro same
    rw [← same] at several
    exact Nat.lt_irrefl _ several
  cases own with
  | pieces runs kept =>
    rw [← runs.isRefusal_iff, kept, runs.mem_iff]
    simp [apart]
  | whole runs refused again =>
    rw [← runs.isRefusal_iff, refused, List.mem_append, runs.mem_iff, again.mem_iff]
    simp [apart]

/-- A token with commas is converted by its pieces. An overload that takes them decides,
    unless it answers that there is none; the token is tried whole exactly if it does, or
    there is none; and a failure, whichever it is, fails the call. -/
theorem pieces_decide (converters : List (Converter h)) (state : h.State) (t : Target h) (token : String)
    (commas : ',' ∈ token.toList) : ByPieces (empty.registerAll converters) (entries converters) state t token := by
  have several := one_lt_commaPieces commas
  obtain ⟨tries, own, written⟩ := (holds_registerAll converters).attempted state t several
  refine
    { tries := fun other r => ?_
      converted := by rw [written]
      decides := fun o first kept => ?_
      whole := fun o => by rw [written]; exact own.whole_iff several o
      fails := fun types tokens i f declared given => convertAll_failure declared given
      gives := fun types tokens i args declared given => convertAll_value declared given }
  · rw [written, Prod.mk.injEq]
    constructor
    · rintro ⟨rfl, rfl⟩
      exact own
    · intro tried
      obtain ⟨rfl, rfl⟩ := own.unique tried
      exact ⟨rfl, rfl⟩
  · obtain ⟨rfl, e⟩ := own.unique (.pieces (.ran first) kept)
    rw [written, e]

/-- The overload for two tokens fails, and the call fails with it, though one takes the token whole. -/
theorem pieces_decide_crate :
    let crate : Overload Host.bare .object := ⟨1, fun _ _ => .ok ⟨7, "crate, large"⟩⟩
    let part : Overload Host.bare .object := ⟨2, fun _ _ => .error (.unknownObject "crate")⟩
    let c := (empty : Conversions Host.bare).registerAll [⟨.object, [part, crate]⟩]
    ',' ∈ "crate, large".toList ∧
      First (entries [⟨.object, [part, crate]⟩]) .object 2 part ∧
      c.attempted () .object "crate, large" = (.error (.unknownObject "crate"), [⟨part, ["crate", "large"]⟩]) ∧
      (c.convertAll () [.typed .object] ["crate, large"]).2 = .error .badArgument ∧
      crate.run () ["crate, large"] = .ok ⟨7, "crate, large"⟩ := by
  intro crate part c
  have commas : ',' ∈ "crate, large".toList := by decide
  have split : commaPieces "crate, large" = ["crate", "large"] := by decide
  have by_pieces := pieces_decide [⟨.object, [part, crate]⟩] () .object "crate, large" commas
  have first : First (entries [⟨.object, [part, crate]⟩]) .object 2 part := ⟨rfl, [], [⟨.object, crate⟩], rfl, nofun⟩
  have decided := by_pieces.decides part (by rw [split]; exact first) (by rw [split]; rfl)
  rw [split] at decided
  have fails : (c.convertToken () .object "crate, large").2 = .error (.unknownObject "crate") := by
    rw [← by_pieces.converted, decided]
  exact ⟨commas, first, decided, by_pieces.fails [.typed .object] ["crate, large"] 0 _ rfl rfl fails, rfl⟩

/-- The overload for two tokens fails, but says that there is none: the token is tried whole,
    and the call is good. -/
theorem refused_pieces_tried_whole :
    let crate : Overload Host.bare .object := ⟨1, fun _ _ => .ok ⟨7, "crate, large"⟩⟩
    let part : Overload Host.bare .object := ⟨2, fun _ _ => .error (.noOverload "Part" 3)⟩
    let c := (empty : Conversions Host.bare).registerAll [⟨.object, [part, crate]⟩]
    First (entries [⟨.object, [part, crate]⟩]) .object (commaPieces "crate, large").length part ∧
      part.run () (commaPieces "crate, large") = .error (.noOverload "Part" 3) ∧
      c.attempted () .object "crate, large" =
        (.ok ⟨7, "crate, large"⟩, [⟨part, ["crate", "large"]⟩, ⟨crate, ["crate, large"]⟩]) ∧
      (c.convertAll () [.typed .object] ["crate, large"]).2 = .ok [.typed .object ⟨7, "crate, large"⟩] := by
  intro crate part c
  have split : commaPieces "crate, large" = ["crate", "large"] := by decide
  rw [split]
  refine ⟨⟨rfl, [], [⟨.object, crate⟩], rfl, nofun⟩, rfl, ?_, ?_⟩
  · unfold attempted convertTokenIn
    rw [split]
    rfl
  · have converts : (c.convertToken () .object "crate, large").2 = .ok ⟨7, "crate, large"⟩ := by
      have tried := congrArg Prod.snd (convertToken_eq c () .object "crate, large")
      rw [split] at tried
      exact tried
    refine (convertAll_ok_iff c ()).mpr (.cons ?_ .nil)
    show (c.convertToken () .object "crate, large").2.map _ = _
    rw [converts]
    rfl

end CommandConsole.Conversions
