/-
  CommandConsole.Proofs.Arguments — the arguments a handler asks for are there.

  A handler asks for its arguments one by one, by position and type, and each time it can
  be told that there is none or that it is of another type. Whether it is depends on four
  places that know nothing of each other: the tokens are counted, each is read or
  converted for the type its parameter declares, what a conversion answers is kept beside
  the target it is for, and asking compares that target with the one asked for.

  `ParamType.Value` is the type of what a declared type is asked for, `Argument.of` the
  argument that holds such a value, and `Arguments.read` asks for it. So `argument_of`
  says that a token gives an argument of the declared type and of no other, and `read_of`
  that asking for that type answers its value.

  Proved, for every console, whatever converters it knows:
  - `gives_nth`: the tokens of a line give as many arguments as types are declared, each of
    its declared type and from the token of its place.
  - `handler_arguments_fit`: so a handler that runs has an argument for each parameter of
    its command, and asking for it by its declared type answers the value that the token
    gives; a whole number also answers as a floating-point one.
-/

import CommandConsole.Demo
import CommandConsole.Proofs.Dispatch
import CommandConsole.Transport.Surface

namespace CommandConsole

variable {h : Host}

/-! ## Declared types and their values -/

/-- What a declared type is asked for. -/
@[reducible] def ParamType.Value : ParamType h → Type
  | bool => Bool
  | int => Int
  | float => Number.Double
  | text => String
  | typed t => t.Value

/-- The argument that holds a value of a declared type. -/
def Argument.of : (type : ParamType h) → type.Value → Argument h
  | .bool, v => .bool v
  | .int, v => .int v
  | .float, v => .float v
  | .text, v => .text v
  | .typed t, v => .typed t v

/-- Ask for an argument by its declared type. -/
def Arguments.read (args : Arguments h) : (type : ParamType h) → Nat → Except Failure type.Value
  | .bool, i => args.bool i
  | .int, i => args.int i
  | .float, i => args.float i
  | .text, i => args.text i
  | .typed t, i => args.typed t i

namespace Arguments

/-- Whatever is asked for, it is the argument of that place that answers. -/
theorem nth_eq {args : Arguments h} {i : Nat} {a : Argument h} (here : args[i]? = some a) : args.nth i = .ok a := by
  rw [nth, here]

/-- Asking for the type of an argument answers its value. -/
theorem read_of {args : Arguments h} {i : Nat} {type : ParamType h} {v : type.Value}
    (here : args[i]? = some (.of type v)) : args.read type i = .ok v := by
  have found := nth_eq here
  cases type with
  | bool => rw [read, bool, found]; rfl
  | int => rw [read, int, found]; rfl
  | float => rw [read, float, found]; rfl
  | text => rw [read, text, found]; rfl
  | typed t => rw [read, typed, found]; exact dif_pos rfl

/-- A whole number is widened where a floating-point number is asked for. -/
theorem float_of_int {args : Arguments h} {i : Nat} {n : Int} (here : args[i]? = some (.int n)) :
    args.float i = .ok (Number.Binary.ofInt Number.double n) := by
  rw [float, nth_eq here]
  rfl

end Arguments

/-! ## What a token gives -/

theorem Argument.found_of {α : Type} (hold : α → Argument h) {found : Option α} {a : Argument h}
    (read : (match found.map hold with
      | some a => .ok a
      | none => .error .badArgument : Except Failure (Argument h)) = .ok a) : ∃ v, a = hold v := by
  cases found with
  | none => cases read
  | some v => exact ⟨v, (Except.ok.inj read).symm⟩

/-- A token read without conversion gives an argument of the declared type. -/
theorem Argument.coerce_of {type : ParamType h} {token : String} {a : Argument h}
    (read : Argument.coerce type token = some (.ok a)) : ∃ v, a = .of type v := by
  cases type with
  | bool => exact found_of .bool (Option.some.inj read)
  | int => exact found_of .int (Option.some.inj read)
  | float => exact found_of .float (Option.some.inj read)
  | text => exact ⟨token, (Except.ok.inj (Option.some.inj read)).symm⟩
  | typed t => cases read

namespace Conversions

/-- A converted one does so too, whichever overload ran. -/
theorem argument_of {c : Conversions h} {state : h.State} {type : ParamType h} {token : String} {a : Argument h}
    (given : c.Gives state (type, token) a) : ∃ v, a = .of type v := by
  have plain : ∀ {r}, Argument.coerce type token = some r → (c.argument state type token).2 = r →
      ∃ v, a = .of type v := by
    rintro r read rfl
    rw [given] at read
    exact Argument.coerce_of read
  cases type with
  | typed t =>
    have given : (c.convertToken state t token).2.map (Argument.typed t) = .ok a := given
    cases converted : (c.convertToken state t token).2 with
    | error f => rw [converted] at given; cases given
    | ok v => rw [converted] at given; exact ⟨v, (Except.ok.inj given).symm⟩
  | _ => exact plain rfl rfl

/-- The arguments that tokens give are as many, and each is of its declared type and comes
    from the token of its place. -/
theorem gives_nth {c : Conversions h} {state : h.State} {types : List (ParamType h)} {tokens : List String}
    {args : Arguments h} (given : List.Forall₂ (c.Gives state) (types.zip tokens) args)
    (counts : tokens.length = types.length) :
    args.length = types.length ∧
    ∀ (i : Nat) (type : ParamType h), types[i]? = some type → ∃ token v, tokens[i]? = some token ∧
      args[i]? = some (Argument.of type v) ∧ c.Gives state (type, token) (Argument.of type v) := by
  have size : args.length = types.length := by
    rw [← given.length_eq, List.length_zip, counts, Nat.min_self]
  refine ⟨size, fun i type declared => ?_⟩
  obtain ⟨inside, rfl⟩ := List.getElem?_eq_some_iff.mp declared
  have inTokens : i < tokens.length := by omega
  have inArgs : i < args.length := by omega
  have inZip : i < (types.zip tokens).length := by rw [given.length_eq]; exact inArgs
  have gives := given.get inZip inArgs
  rw [List.get_eq_getElem, List.get_eq_getElem, List.getElem_zip] at gives
  obtain ⟨v, e⟩ := argument_of gives
  have here : args[i]? = some (Argument.of _ v) := by rw [← e]; exact List.getElem?_eq_getElem inArgs
  exact ⟨tokens[i], v, List.getElem?_eq_getElem inTokens, here, e ▸ gives⟩

end Conversions

/-! ## The arguments of a handler -/

namespace Console

variable {τ : Type}

/-- What a handler finds at a place it asks for by its declared type. -/
structure Fits (c : Console h τ) (args : Arguments h) (i : Nat) (type : ParamType h) (token : String) (v : type.Value) :
    Prop where
  given : (c.conversions.argument c.state type token).2 = .ok (.of type v)
  read : args.read type i = .ok v
  widened : type = .int → ∃ n, args.int i = .ok n ∧ args.float i = .ok (Number.Binary.ofInt Number.double n)

theorem Fits.of_nth {c : Console h τ} {args : Arguments h} {i : Nat} {type : ParamType h} {token : String}
    {v : type.Value} (here : args[i]? = some (.of type v))
    (given : c.conversions.Gives c.state (type, token) (.of type v)) :
    Fits c args i type token v := by
  refine ⟨given, Arguments.read_of here, ?_⟩
  rintro rfl
  exact ⟨v, Arguments.read_of here, Arguments.float_of_int here⟩

variable [Transport τ]

/-- A line gives a handler all its command declares. -/
structure Furnishes (c : Console h τ) (raw name : String) (tokens : List String) (command : Command h)
    (ran : Invocation h) : Prop where
  parses : Line.parse raw = .ok (name :: tokens)
  resolved : c.registry.resolveLive? c.scene name = some command
  bound : command.binding = .handler ran.provider ran.run
  counts : tokens.length = command.params.length
  size : ran.call.args.length = command.params.length
  fits : ∀ i param, command.params[i]? = some param →
    ∃ token v, tokens[i]? = some token ∧ Fits c ran.call.args i param.type token v

/-- A line that writes down the handlers it runs is executed as any other, and a handler
    that runs has one argument for each parameter of its command. Each of them fits: it
    comes from the token of its place, and asking for it by its declared type answers the
    value that the token gives. -/
theorem handler_arguments_fit (c : Console h τ) (raw : String) :
    (c.journaled raw).1 = c.execute raw ∧
      ∀ ran ∈ (c.journaled raw).2, ∃ name tokens command, Furnishes c raw name tokens command ran := by
  refine ⟨c.journaled_fst raw, fun ran hran => ?_⟩
  rcases c.journaled_cases raw with none | ⟨-, command, args, p, run, ending, bound⟩
  · rw [none] at hran
    cases hran
  · obtain ⟨name, object, journal⟩ := journaled_handler ending bound
    rw [journal, List.mem_singleton] at hran
    subst hran
    cases ending with
    | ready parses resolved counts given =>
      obtain ⟨size, each⟩ := Conversions.gives_nth given (by rw [List.length_map]; exact counts)
      refine ⟨_, _, command, parses, resolved, bound, counts, by rw [size, List.length_map], fun i param declared => ?_⟩
      have declared : (command.params.map (·.type))[i]? = some param.type := by rw [List.getElem?_map, declared]; rfl
      obtain ⟨token, v, place, here, gives⟩ := each i param.type declared
      exact ⟨token, v, place, Fits.of_nth here gives⟩

/-- The inspector of the demo, asked about the lamp. -/
theorem handler_arguments_fit_inspect :
    let c : Console (Demo.host Host.bare) Surface :=
      (Demo.install 0 (create Surface.start Settings.standard (World.demo, ()))).1
    (c.journaled "inspect lamp").1 = c.execute "inspect lamp" ∧
      ∃ ran ∈ (c.journaled "inspect lamp").2, ran.call.args = [.typed .object ⟨2, "lamp"⟩] ∧
        ∃ name tokens command, Furnishes c "inspect lamp" name tokens command ran := by
  intro c
  have ran : ∃ ran, (c.journaled "inspect lamp").2 = [ran] ∧ ran.call.args = [.typed .object ⟨2, "lamp"⟩] :=
    ⟨_, rfl, rfl⟩
  obtain ⟨ran, journal, args⟩ := ran
  have one : ran ∈ (c.journaled "inspect lamp").2 := by rw [journal]; exact List.mem_singleton_self ran
  obtain ⟨executed, fit⟩ := handler_arguments_fit c "inspect lamp"
  exact ⟨executed, ran, one, args, fit ran one⟩

end Console

end CommandConsole
