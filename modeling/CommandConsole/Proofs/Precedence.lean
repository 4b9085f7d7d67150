/-
  CommandConsole.Proofs.Precedence — which overload converts.

  Conversions are kept by target, and a converter adds its overloads to those of its target.
  `entries` forgets that: it is the one list of everything that was registered, converter by
  converter and in each converter in its order, every overload with its target. The overloads
  a conversion chooses from are those of this list that fit its target and its number of
  tokens, in the order of the list (`candidates_registerAll`), and another converter adds
  entries at the end of it.

  Proved (`convert_by_precedence`, `ByPrecedence`), whatever converters were registered:
  - a conversion runs the first entry that fits and ends as that does, whatever it answers;
    it is refused by the conversions themselves exactly if none fits (`Ends`), which shows in
    the answer unless an overload gives the same one;
  - there is a first if any fits, and only one;
  - a further converter changes no conversion that something fits already and none to another
    target;
  - a conversion makes a notice exactly if two or more fit, and it tells how many; none is
    lost in the conversion of an argument.
-/

import CommandConsole.Conversion

namespace CommandConsole.Conversions

variable {h : Host}

/-! ## What was registered -/

structure Converter (h : Host) where
  target : Target h
  overloads : List (Overload h target)

/-- An overload, with its target. -/
abbrev Entry (h : Host) := (t : Target h) × Overload h t

def Converter.entries (k : Converter h) : List (Entry h) := k.overloads.map fun o => ⟨k.target, o⟩

/-- All overloads of the converters, in the order of registration. -/
def entries (converters : List (Converter h)) : List (Entry h) := converters.flatMap Converter.entries

def add (c : Conversions h) (k : Converter h) : Conversions h := c.register k.target k.overloads

def registerAll (c : Conversions h) (converters : List (Converter h)) : Conversions h := converters.foldl add c

def Fits (t : Target h) (arity : Nat) (e : Entry h) : Prop := e.1 = t ∧ e.2.arity = arity

instance (t : Target h) (arity : Nat) (e : Entry h) : Decidable (Fits t arity e) := inferInstanceAs (Decidable (_ ∧ _))

/-- The overload fits, and nothing registered before it does. -/
def First (registered : List (Entry h)) (t : Target h) (arity : Nat) (o : Overload h t) : Prop :=
  o.arity = arity ∧ ∃ before after, registered = before ++ ⟨t, o⟩ :: after ∧ ∀ e ∈ before, ¬ Fits t arity e

/-- How a conversion ends. -/
inductive Ends (registered : List (Entry h)) (state : h.State) (t : Target h) (tokens : List String) :
    Except Failure t.Value → Prop
  | ran {o : Overload h t} : First registered t tokens.length o → Ends registered state t tokens (o.run state tokens)
  | refused : (∀ e ∈ registered, ¬ Fits t tokens.length e) →
      Ends registered state t tokens (.error (.noOverload t.name tokens.length))

/-! ## The overloads to choose from -/

/-- The overload of an entry, if it fits. -/
def offer (t : Target h) (arity : Nat) (e : Entry h) : Option (Overload h t) :=
  if fits : Fits t arity e then some (fits.1 ▸ e.2) else none

theorem offer_eq_some_iff {t : Target h} {arity : Nat} {e : Entry h} {o : Overload h t} :
    offer t arity e = some o ↔ e = ⟨t, o⟩ ∧ o.arity = arity := by
  obtain ⟨u, p⟩ := e
  constructor
  · intro given
    unfold offer at given
    split at given
    · rename_i fits
      obtain ⟨same, size⟩ := fits
      cases same
      cases given
      exact ⟨rfl, size⟩
    · cases given
  · rintro ⟨same, size⟩
    cases same
    exact dif_pos ⟨rfl, size⟩

theorem offer_isSome (t : Target h) (arity : Nat) (e : Entry h) : (offer t arity e).isSome = decide (Fits t arity e) := by
  unfold offer
  split
  · rename_i fits
    simp [fits]
  · rename_i misfit
    simp [misfit]

theorem offer_eq_none_iff {t : Target h} {arity : Nat} {e : Entry h} : offer t arity e = none ↔ ¬ Fits t arity e := by
  rw [← Option.isNone_iff_eq_none, ← Option.not_isSome, offer_isSome]
  simp

theorem candidates_add (c : Conversions h) (k : Converter h) (t : Target h) (arity : Nat) :
    (c.add k).candidates t arity = c.candidates t arity ++ k.entries.filterMap (offer t arity) := by
  obtain ⟨u, os⟩ := k
  by_cases same : u = t
  · subst same
    have added : (os.map fun o => (⟨u, o⟩ : Entry h)).filterMap (offer u arity) = os.filter (·.arity == arity) := by
      induction os with
      | nil => rfl
      | cons o os ih =>
        by_cases size : o.arity = arity
        · simp [offer, Fits, size, ih]
        · simp [offer, Fits, size, ih]
    simp [candidates, add, register, Converter.entries, added]
  · have nothing : (os.map fun o => (⟨u, o⟩ : Entry h)).filterMap (offer t arity) = [] := by
      simp [offer, Fits, same]
    simp [candidates, add, register, Converter.entries, nothing, same]

/-- After some registrations the overloads to choose from are the entries that fit. -/
theorem candidates_registerAll (c : Conversions h) (converters : List (Converter h)) (t : Target h) (arity : Nat) :
    (c.registerAll converters).candidates t arity = c.candidates t arity ++ (entries converters).filterMap (offer t arity) := by
  induction converters generalizing c with
  | nil => simp [registerAll, entries]
  | cons k converters ih =>
    have rest := ih (c.add k)
    rw [candidates_add, List.append_assoc, ← List.filterMap_append] at rest
    exact rest

/-- The conversions that have just these registrations. -/
def Holds (c : Conversions h) (registered : List (Entry h)) : Prop :=
  ∀ t arity, c.candidates t arity = registered.filterMap (offer t arity)

theorem holds_registerAll (converters : List (Converter h)) : (empty.registerAll converters).Holds (entries converters) := by
  intro t arity
  rw [candidates_registerAll]
  rfl

theorem Holds.add {c : Conversions h} {registered : List (Entry h)} (holds : c.Holds registered) (k : Converter h) :
    (c.add k).Holds (registered ++ k.entries) := by
  intro t arity
  rw [candidates_add, holds t arity, List.filterMap_append]

/-! ## The first -/

theorem first_iff {registered : List (Entry h)} {t : Target h} {arity : Nat} {o : Overload h t} :
    (registered.filterMap (offer t arity)).head? = some o ↔ First registered t arity o := by
  rw [List.head?_filterMap, List.findSome?_eq_some_iff, First]
  constructor
  · rintro ⟨before, e, after, split, given, earlier⟩
    obtain ⟨rfl, size⟩ := offer_eq_some_iff.mp given
    exact ⟨size, before, after, split, fun e he => offer_eq_none_iff.mp (earlier e he)⟩
  · rintro ⟨size, before, after, split, earlier⟩
    exact ⟨before, _, after, split, offer_eq_some_iff.mpr ⟨rfl, size⟩, fun e he => offer_eq_none_iff.mpr (earlier e he)⟩

theorem filterMap_offer_eq_nil {registered : List (Entry h)} {t : Target h} {arity : Nat} :
    registered.filterMap (offer t arity) = [] ↔ ∀ e ∈ registered, ¬ Fits t arity e := by
  simp only [List.filterMap_eq_nil_iff, offer_eq_none_iff]

theorem First.unique {registered : List (Entry h)} {t : Target h} {arity : Nat} {o p : Overload h t}
    (first : First registered t arity o) (other : First registered t arity p) : o = p := by
  have same := (first_iff.mpr first).symm.trans (first_iff.mpr other)
  exact Option.some.inj same

theorem exists_first_iff {registered : List (Entry h)} {t : Target h} {arity : Nat} :
    (∃ o, First registered t arity o) ↔ ∃ e ∈ registered, Fits t arity e := by
  constructor
  · rintro ⟨o, size, before, after, rfl, -⟩
    exact ⟨⟨t, o⟩, by simp, rfl, size⟩
  · rintro ⟨e, he, fits⟩
    cases offered : registered.filterMap (offer t arity) with
    | nil => exact absurd fits (filterMap_offer_eq_nil.mp offered e he)
    | cons o rest => exact ⟨o, first_iff.mp (by rw [offered]; rfl)⟩

/-- What comes later does not get in front. -/
theorem First.append {registered : List (Entry h)} {t : Target h} {arity : Nat} {o : Overload h t}
    (first : First registered t arity o) (more : List (Entry h)) : First (registered ++ more) t arity o := by
  obtain ⟨size, before, after, rfl, earlier⟩ := first
  exact ⟨size, before, after ++ more, by simp, earlier⟩

/-! ## Converting -/

theorem Ends.unique {registered : List (Entry h)} {state : h.State} {t : Target h} {tokens : List String}
    {r r' : Except Failure t.Value} (ends : Ends registered state t tokens r) (ends' : Ends registered state t tokens r') :
    r = r' := by
  have exclusive : ∀ {o : Overload h t}, First registered t tokens.length o →
      ¬ ∀ e ∈ registered, ¬ Fits t tokens.length e := by
    intro o first none
    obtain ⟨e, he, fits⟩ := exists_first_iff.mp ⟨o, first⟩
    exact none e he fits
  cases ends with
  | ran first =>
    cases ends' with
    | ran other => rw [first.unique other]
    | refused none => exact absurd none (exclusive first)
  | refused none =>
    cases ends' with
    | ran first => exact absurd none (exclusive first)
    | refused => rfl

theorem Holds.ends {c : Conversions h} {registered : List (Entry h)} (holds : c.Holds registered) (state : h.State)
    (t : Target h) (tokens : List String) : Ends registered state t tokens (c.convert state t tokens) := by
  have chosen := holds t tokens.length
  rw [convert_eq]
  split
  · rename_i none
    rw [none] at chosen
    exact .refused (filterMap_offer_eq_nil.mp chosen.symm)
  · rename_i o rest some
    rw [some] at chosen
    exact .ran (first_iff.mp (by rw [← chosen]; rfl))

/-- A further converter is not asked where another fits, nor for another target. -/
theorem Holds.convert_add {c : Conversions h} {registered : List (Entry h)} (holds : c.Holds registered) (k : Converter h)
    (state : h.State) {t : Target h} {tokens : List String}
    (settled : (∃ e ∈ registered, Fits t tokens.length e) ∨ k.target ≠ t) :
    (c.add k).convert state t tokens = c.convert state t tokens := by
  have before := holds.ends state t tokens
  have after := (holds.add k).ends state t tokens
  refine after.unique ?_
  generalize c.convert state t tokens = r at before
  cases before with
  | ran first => exact .ran (first.append _)
  | refused none =>
    refine .refused fun e he => ?_
    rcases List.mem_append.mp he with old | new
    · exact none e old
    · rcases settled with ⟨e', he', fits⟩ | other
      · exact absurd fits (none e' he')
      · obtain ⟨o, -, rfl⟩ := List.mem_map.mp new
        exact fun fits => other fits.1

theorem Holds.notices {c : Conversions h} {registered : List (Entry h)} (holds : c.Holds registered) (t : Target h) (arity : Nat) :
    c.notices t arity =
      if 2 ≤ registered.countP (Fits t arity ·) then [.severalConversions (registered.countP (Fits t arity ·)) t.name arity]
      else [] := by
  have count : (c.candidates t arity).length = registered.countP (Fits t arity ·) := by
    rw [holds t arity, List.length_filterMap_eq_countP]
    exact List.countP_congr fun e _ => by rw [offer_isSome]
  rw [Conversions.notices, count]
  rfl

/-- How registrations decide about conversions. -/
structure ByPrecedence (c : Conversions h) (registered : List (Entry h)) : Prop where
  ends : ∀ state t tokens r, c.convert state t tokens = r ↔ Ends registered state t tokens r
  /-- Where no overload answers so itself, this answer means that none fits. -/
  refuses : ∀ state t tokens,
    (∀ o, First registered t tokens.length o → o.run state tokens ≠ .error (.noOverload t.name tokens.length)) →
    (c.convert state t tokens = .error (.noOverload t.name tokens.length) ↔ ∀ e ∈ registered, ¬ Fits t tokens.length e)
  first : ∀ t arity, (∃ o, First registered t arity o) ↔ ∃ e ∈ registered, Fits t arity e
  unique : ∀ t arity o p, First registered t arity o → First registered t arity p → o = p
  stable : ∀ k state t tokens, (∃ e ∈ registered, Fits t tokens.length e) ∨ k.target ≠ t →
    (c.add k).convert state t tokens = c.convert state t tokens
  noted : ∀ t arity, c.notices t arity =
    if 2 ≤ registered.countP (Fits t arity ·) then [.severalConversions (registered.countP (Fits t arity ·)) t.name arity]
    else []
  /-- A conversion makes that notice and ends as above. -/
  paired : ∀ state t tokens, c.converted state t tokens = (c.notices t tokens.length, c.convert state t tokens)
  /-- The notices of a token are those of the conversions it goes through. -/
  token : ∀ state t token, c.convertToken state t token =
    if 1 < (commaPieces token).length ∧ isRefusal (c.convert state t (commaPieces token)) then
      ((c.converted state t (commaPieces token)).1 ++ (c.converted state t [token]).1, c.convert state t [token])
    else c.converted state t (commaPieces token)

theorem Holds.refuses {c : Conversions h} {registered : List (Entry h)} (holds : c.Holds registered) {state : h.State}
    {t : Target h} {tokens : List String}
    (own : ∀ o, First registered t tokens.length o → o.run state tokens ≠ .error (.noOverload t.name tokens.length)) :
    c.convert state t tokens = .error (.noOverload t.name tokens.length) ↔ ∀ e ∈ registered, ¬ Fits t tokens.length e := by
  have ends := holds.ends state t tokens
  constructor
  · intro refused e he fits
    obtain ⟨o, first⟩ := exists_first_iff.mpr ⟨e, he, fits⟩
    exact own o first ((Ends.ran first).unique (refused ▸ ends))
  · intro none
    exact ends.unique (.refused none)

/-- Whatever converters were registered, a conversion runs the first of their overloads that
    fits and ends as it does, and is refused exactly if none fits; of those that fit one is
    the first; a further converter changes nothing where one fits or for another target; and
    a conversion makes a notice exactly if two or more fit, also in the course of an argument. -/
theorem convert_by_precedence (converters : List (Converter h)) :
    ByPrecedence (empty.registerAll converters) (entries converters) := by
  have holds := holds_registerAll converters
  refine
    { ends := fun state t tokens r => ⟨?_, fun ends => (holds.ends state t tokens).unique ends⟩
      refuses := fun state t tokens own => holds.refuses own
      first := fun t arity => exists_first_iff
      unique := fun t arity o p first other => first.unique other
      stable := fun k state t tokens settled => holds.convert_add k state settled
      noted := holds.notices
      paired := converted_eq _
      token := convertToken_eq _ }
  rintro rfl
  exact holds.ends state t tokens

/-- The console's own conversions are registered like any other. -/
example : (standard : Conversions h) =
    empty.registerAll [⟨.color, Convert.color⟩, ⟨.vec2, Convert.vec2⟩, ⟨.vec3, Convert.vec3⟩] := rfl

end CommandConsole.Conversions
