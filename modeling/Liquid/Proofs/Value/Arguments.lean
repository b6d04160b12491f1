import Liquid.Value.Argument

/-!
# Handing out arguments

Hosts keep an order of parameters: the context, required ones, options, the rest. A list of parameters in this order takes
exactly the numbers of values that its signature covers. Each value is then handed to one parameter, in their order, and the
parameters that are left without a value are options and those for the rest.
-/

namespace Liquid

/-- A list of values is refused for one of its values. -/
theorem exists_of_mapM_eq_error {α β : Type} {convert : α → Except Fault β} {fault : Fault} :
    ∀ {values : List α}, values.mapM convert = .error fault → ∃ value ∈ values, convert value = .error fault
  | [], h => by cases h
  | value :: rest, h => by
    rw [List.mapM_cons] at h
    obtain hfirst | ⟨converted, -, h⟩ := of_bind_eq_error h
    · exact ⟨value, List.mem_cons_self, hfirst⟩
    · obtain hrest | ⟨others, -, h⟩ := of_bind_eq_error h
      · obtain ⟨found, hmem, hfound⟩ := exists_of_mapM_eq_error hrest
        exact ⟨found, List.mem_cons_of_mem value hmem, hfound⟩
      · cases h

theorem pair_eq_ok_iff {ε α β : Type} {first : Except ε α} {second : Except ε β} {pair : α × β} :
    (do return (← first, ← second)) = Except.ok pair ↔ first = .ok pair.1 ∧ second = .ok pair.2 := by
  cases first with
  | error failure => simp [bind, Except.bind]
  | ok a => cases second <;> simp [bind, Except.bind, pure, Except.pure, Prod.ext_iff]

theorem of_pair_eq_error {ε α β : Type} {first : Except ε α} {second : Except ε β} {failure : ε}
    (h : (do return (← first, ← second)) = Except.error failure) : first = .error failure ∨ second = .error failure := by
  obtain hfirst | ⟨a, -, h⟩ := of_bind_eq_error h
  · exact .inl hfirst
  · obtain hsecond | ⟨b, -, h⟩ := of_bind_eq_error h
    · exact .inr hsecond
    · cases h

namespace ArgumentKind

variable {tallies : Tallies}

/-- A value that is given is converted or refused for what it is. -/
theorem exists_refused {fault : Fault} :
    ∀ {kind : ArgumentKind} {given : Value}, kind.convert tallies given = .error fault →
      ∃ value title, fault = refused value title
  | integer bounds, given, h => by
    rw [convert] at h
    split at h
    · split at h
      · cases h
      · exact ⟨given, _, (Except.error.inj h).symm⟩
    · exact ⟨given, _, (Except.error.inj h).symm⟩
  | float, given, h => by
    rw [convert] at h
    split at h
    · cases h
    · exact ⟨given, _, (Except.error.inj h).symm⟩
  | bool, _, h => by cases h
  | text, given, h => by
    unfold convert at h
    split at h
    · cases h
    · exact ⟨_, _, (Except.error.inj h).symm⟩
  | printed, _, h => by cases h
  | value, _, h => by cases h
  | list item, given, h => by
    rw [convert] at h
    split at h
    · obtain ⟨item, -, hitem⟩ := exists_of_mapM_eq_error h
      exact exists_refused hitem
    · exact ⟨given, _, (Except.error.inj h).symm⟩
  | option kind, given, h => by
    rw [convert] at h
    split at h
    · cases h
    · cases hsome : kind.convert tallies given with
      | ok converted =>
        rw [hsome] at h
        cases h
      | error other =>
        rw [hsome] at h
        obtain rfl := Except.error.inj h
        exact exists_refused hsome

end ArgumentKind

/-! ## Signatures -/

namespace Parameter

/-- The place of a parameter in the order: the context, required parameters, options, the rest. -/
def rank : Parameter → Nat
  | context => 0
  | one (.option _) => 2
  | one _ => 1
  | rest _ => 3

/-- Parameters stand in the order. -/
def InOrder (parameters : List Parameter) : Prop := parameters.Pairwise fun a b ↦ a.rank ≤ b.rank

instance (parameters : List Parameter) : Decidable (InOrder parameters) := inferInstanceAs (Decidable (List.Pairwise ..))

/-- A parameter for one value is required or an option. -/
theorem rank_one (kind : ArgumentKind) : (one kind).rank = 1 ∨ ∃ inner, kind = .option inner := by
  cases kind <;> simp [rank]

theorem rank_one_le (kind : ArgumentKind) : (one kind).rank ≤ 2 := by
  obtain h | ⟨inner, rfl⟩ := rank_one kind
  · omega
  · exact Nat.le_refl 2

theorem inOrder_cons {first : Parameter} {others : List Parameter} :
    InOrder (first :: others) ↔ (∀ other ∈ others, first.rank ≤ other.rank) ∧ InOrder others := List.pairwise_cons

end Parameter

namespace Signature

variable {parameters : List Parameter} {kind : ArgumentKind} {count : Nat}

theorem covers_iff {signature : Signature} : signature.covers count ↔
    signature.required ≤ count ∧ (signature.variadic ∨ count ≤ signature.required + signature.optional) := by
  simp [covers]

/-- A parameter for one value that is no option is required. -/
theorem ofParameters_one (hrequired : (Parameter.one kind).rank = 1) (parameters : List Parameter) :
    ofParameters (.one kind :: parameters) =
      { ofParameters parameters with required := (ofParameters parameters).required + 1 } := by
  cases kind <;> first | rfl | cases hrequired

/-- Nothing is required behind an option. -/
theorem required_eq_zero (h : ∀ other ∈ parameters, 2 ≤ other.rank) : (ofParameters parameters).required = 0 := by
  induction parameters with
  | nil => rfl
  | cons first others ih =>
    rw [List.forall_mem_cons] at h
    cases first with
    | context => exact absurd h.1 (by decide)
    | rest kind => exact ih h.2
    | one kind =>
      obtain hone | ⟨inner, rfl⟩ := Parameter.rank_one kind
      · omega
      · exact ih h.2

/-- Only more parameters for the rest stand behind a parameter for the rest. -/
theorem variadic_of_rest (h : ∀ other ∈ parameters, 3 ≤ other.rank) (hne : parameters ≠ []) :
    (ofParameters parameters).variadic = true := by
  cases parameters with
  | nil => exact absurd rfl hne
  | cons first others =>
    have hrank := h first List.mem_cons_self
    cases first with
    | context => exact absurd hrank (by decide)
    | rest kind => rfl
    | one kind =>
      have hle := Parameter.rank_one_le kind
      omega

/-- A required parameter takes one of the values. -/
theorem covers_required (hrequired : (Parameter.one kind).rank = 1) :
    (ofParameters (.one kind :: parameters)).covers (count + 1) ↔ (ofParameters parameters).covers count := by
  rw [ofParameters_one hrequired, covers_iff, covers_iff]
  grind

theorem not_covers_zero (hrequired : (Parameter.one kind).rank = 1) :
    ¬(ofParameters (.one kind :: parameters)).covers 0 := by
  rw [ofParameters_one hrequired, covers_iff]
  exact fun h ↦ Nat.not_succ_le_zero _ h.1

/-- An option takes one of the values, if there is one. -/
theorem covers_option (hbehind : ∀ other ∈ parameters, 2 ≤ other.rank) :
    (ofParameters (.one (.option kind) :: parameters)).covers count ↔ (ofParameters parameters).covers (count - 1) := by
  have hrequired := required_eq_zero hbehind
  rw [ofParameters, covers_iff, covers_iff]
  grind

/-- Parameters for the rest take any number of values. -/
theorem covers_rest (hbehind : ∀ other ∈ parameters, 3 ≤ other.rank) (hne : parameters ≠ []) (count : Nat) :
    (ofParameters parameters).covers count := by
  have hrequired := required_eq_zero fun other hother ↦ Nat.le_of_succ_le (hbehind other hother)
  rw [covers_iff, hrequired]
  exact ⟨Nat.zero_le count, .inl (variadic_of_rest hbehind hne)⟩

end Signature

/-! ## Shares -/

/-- What each parameter is handed of the values: one value, all that are left at the end, or nothing. Options and parameters
for the rest go without a value only if none is left. -/
inductive Handed : List Parameter → List Value → List (List Value) → Prop where
  | nil : Handed [] [] []
  | context {parameters : List Parameter} {values : List Value} {shares : List (List Value)} :
    Handed parameters values shares → Handed (.context :: parameters) values ([] :: shares)
  | given {parameters : List Parameter} {kind : ArgumentKind} {value : Value} {values : List Value}
    {shares : List (List Value)} :
    Handed parameters values shares → Handed (.one kind :: parameters) (value :: values) ([value] :: shares)
  | leftOut {parameters : List Parameter} {kind : ArgumentKind} {shares : List (List Value)} :
    Handed parameters [] shares → Handed (.one (.option kind) :: parameters) [] ([] :: shares)
  | last {kind : ArgumentKind} {values : List Value} : Handed [.rest kind] values [values]
  | next {parameters : List Parameter} {kind : ArgumentKind} {values : List Value} {shares : List (List Value)} :
    parameters ≠ [] → Handed parameters (values.drop 1) shares →
      Handed (.rest kind :: parameters) values (values.take 1 :: shares)

/-- Arguments are what parameters make of their shares. -/
def Converted (tallies : Tallies) :
    (parameters : List Parameter) → List (List Value) → Arguments parameters → Prop
  | [], [], _ => True
  | .context :: parameters, [] :: shares, arguments => Converted tallies parameters shares arguments
  | .one kind :: parameters, [value] :: shares, (first, others) =>
    kind.convert tallies value = .ok first ∧ Converted tallies parameters shares others
  | .one (.option _) :: parameters, [] :: shares, (first, others) =>
    first = none ∧ Converted tallies parameters shares others
  | .rest kind :: parameters, share :: shares, (all, others) =>
    share.mapM (kind.convert tallies) = .ok all ∧ Converted tallies parameters shares others
  | _, _, _ => False

namespace Handed

variable {parameters : List Parameter} {values : List Value} {shares : List (List Value)} {tallies : Tallies}
  {hasContext : Bool}

/-- Every value is in exactly one share, and their order is that of the parameters. -/
theorem flatten_eq (h : Handed parameters values shares) : shares.flatten = values := by
  induction h with
  | nil => rfl
  | context _ ih => exact ih
  | given _ ih => exact congrArg (_ :: ·) ih
  | leftOut _ ih => exact ih
  | last => exact List.append_nil _
  | next _ _ ih => rw [List.flatten_cons, ih, List.take_append_drop]

theorem length_eq (h : Handed parameters values shares) : shares.length = parameters.length := by
  induction h with
  | nil | last => rfl
  | context _ ih | given _ ih | leftOut _ ih | next _ _ ih => exact congrArg (· + 1) ih

/-- As many values as a signature covers can be handed out to parameters in the order. -/
theorem exists_of_covers (horder : Parameter.InOrder parameters)
    (hcovers : (Signature.ofParameters parameters).covers values.length) : ∃ shares, Handed parameters values shares := by
  induction parameters generalizing values with
  | nil =>
    have hlength : values.length ≤ 0 := by simpa [Signature.ofParameters, Signature.covers_iff] using hcovers
    obtain rfl : values = [] := List.length_eq_zero_iff.1 (Nat.le_zero.1 hlength)
    exact ⟨[], .nil⟩
  | cons first parameters ih =>
    obtain ⟨hbehind, hothers⟩ := Parameter.inOrder_cons.1 horder
    cases first with
    | context =>
      obtain ⟨shares, h⟩ := ih hothers hcovers
      exact ⟨_, .context h⟩
    | rest kind =>
      by_cases hlast : parameters = []
      · obtain rfl := hlast
        exact ⟨_, .last⟩
      · obtain ⟨shares, h⟩ := ih hothers (Signature.covers_rest hbehind hlast (values.drop 1).length)
        exact ⟨_, .next hlast h⟩
    | one kind =>
      obtain hone | ⟨inner, rfl⟩ := Parameter.rank_one kind
      · cases values with
        | nil => exact absurd hcovers (Signature.not_covers_zero hone)
        | cons value values =>
          obtain ⟨shares, h⟩ := ih hothers ((Signature.covers_required hone).1 hcovers)
          exact ⟨_, .given h⟩
      · -- An option that is left out takes none of no values: `covers_option` counts down to zero and stops there.
        rw [Signature.covers_option hbehind] at hcovers
        cases values with
        | nil =>
          have hnone : (Signature.ofParameters parameters).covers ([] : List Value).length := hcovers
          obtain ⟨shares, h⟩ := ih hothers hnone
          exact ⟨_, .leftOut h⟩
        | cons value values =>
          obtain ⟨shares, h⟩ := ih hothers hcovers
          exact ⟨_, .given h⟩

/-- What can be handed out to parameters, in any order, is covered by their signature. -/
theorem covers (h : Handed parameters values shares) : (Signature.ofParameters parameters).covers values.length := by
  induction h with
  | nil => rfl
  | context _ ih => exact ih
  | last => exact Signature.covers_iff.2 ⟨Nat.zero_le _, .inl rfl⟩
  | next _ _ ih =>
    rw [Signature.covers_iff, List.length_drop] at ih
    exact Signature.covers_iff.2 ⟨Nat.le_trans ih.1 (Nat.sub_le _ _), .inl rfl⟩
  | leftOut _ ih =>
    rw [Signature.covers_iff] at ih ⊢
    exact ⟨ih.1, .inr (Nat.zero_le _)⟩
  | @given parameters kind _ _ _ _ ih =>
    obtain hone | ⟨inner, rfl⟩ := Parameter.rank_one kind
    · exact (Signature.covers_required hone).2 ih
    · rw [Signature.covers_iff] at ih
      simp only [Signature.ofParameters, Signature.covers_iff, List.length_cons]
      grind

/-- Parameters in the order can be handed exactly the numbers of values that their signature covers. -/
theorem covers_iff (horder : Parameter.InOrder parameters) :
    (Signature.ofParameters parameters).covers values.length ↔ ∃ shares, Handed parameters values shares :=
  ⟨exists_of_covers horder, fun ⟨_, h⟩ ↦ h.covers⟩

variable {arguments : Arguments parameters} {fault : Fault}

/-- A parameter for the rest that is not the last one takes one value at most. -/
theorem convert_next {kind : ArgumentKind} (hne : parameters ≠ []) :
    Arguments.convert tallies hasContext (.rest kind :: parameters) values =
      (do return (← (values.take 1).mapM (kind.convert tallies),
        ← Arguments.convert tallies hasContext parameters (values.drop 1))) := by
  have hdrop : values.drop (values.take 1).length = values.drop 1 := by cases values <;> rfl
  rw [Arguments.convert, if_neg (by simpa using hne), hdrop]

/-- The parameters make arguments of their shares, if the context is there where it is asked for. -/
theorem convert_eq_ok_iff (h : Handed parameters values shares) :
    Arguments.convert tallies hasContext parameters values = .ok arguments ↔
      (Parameter.context ∈ parameters → hasContext = true) ∧ Converted tallies parameters shares arguments := by
  induction h with
  | nil => simp [Arguments.convert, Converted]
  | context h ih =>
    rw [Arguments.convert, Converted]
    cases hasContext <;> simp [ih]
  | given h ih =>
    -- The context is asked for by one of the others, if at all.
    rw [Arguments.convert, pair_eq_ok_iff, List.tail_cons, ih, Converted]
    simp only [List.head?_cons, ArgumentKind.convert?, List.mem_cons, reduceCtorEq, false_or]
    exact and_left_comm
  | leftOut h ih =>
    rw [Arguments.convert, pair_eq_ok_iff, List.tail_nil, ih, Converted]
    simp only [List.head?_nil, ArgumentKind.convert?, ArgumentKind.missing, Except.ok.injEq, List.mem_cons, reduceCtorEq,
      false_or, eq_comm (a := none)]
    exact and_left_comm
  | last =>
    rw [Arguments.convert, pair_eq_ok_iff, Converted]
    simp [Arguments.convert, Converted]
  | next hne h ih =>
    rw [convert_next hne, pair_eq_ok_iff, ih, Converted]
    simp only [List.mem_cons, reduceCtorEq, false_or]
    exact and_left_comm

/-- Where values have been handed out, the context is not there or one of the values is refused. -/
theorem of_convert_eq_error (h : Handed parameters values shares)
    (herror : Arguments.convert tallies hasContext parameters values = .error fault) :
    fault = .contextUnavailable ∨ ∃ value title, fault = ArgumentKind.refused value title := by
  induction h with
  | nil => cases herror
  | context h ih =>
    rw [Arguments.convert] at herror
    split at herror
    · exact ih herror
    · exact .inl (Except.error.inj herror).symm
  | given h ih =>
    obtain hfirst | hothers := of_pair_eq_error herror
    · exact .inr (ArgumentKind.exists_refused hfirst)
    · exact ih hothers
  | leftOut h ih =>
    obtain hfirst | hothers := of_pair_eq_error herror
    · cases hfirst
    · exact ih hothers
  | last =>
    obtain hall | hothers := of_pair_eq_error herror
    · obtain ⟨value, -, hvalue⟩ := exists_of_mapM_eq_error hall
      exact .inr (ArgumentKind.exists_refused hvalue)
    · simp [Arguments.convert] at hothers
  | next hne h ih =>
    rw [convert_next hne] at herror
    obtain hall | hothers := of_pair_eq_error herror
    · obtain ⟨value, -, hvalue⟩ := exists_of_mapM_eq_error hall
      exact .inr (ArgumentKind.exists_refused hvalue)
    · exact ih hothers

end Handed

end Liquid
