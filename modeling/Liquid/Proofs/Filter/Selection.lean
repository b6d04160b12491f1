import Liquid.Filter.Builtin
import Liquid.Proofs.Evaluation.Filters
import Liquid.Proofs.Value.Arguments

/-!
# Selecting an overload

The overload that is selected for a number of values is the first that takes exactly so many, else the first with the fewest
options, else the first that takes any number. It is one whose parameters can be handed that many values.
-/

namespace Liquid

namespace Filter

variable {overloads : List Filter} {filter : Filter} {count : Nat}

/-- A filter is the first one to pass a test. -/
def IsFirst (test : Filter → Bool) (overloads : List Filter) (filter : Filter) : Prop :=
  test filter = true ∧ ∃ before after, overloads = before ++ filter :: after ∧ ∀ other ∈ before, test other = false

/-- Among those that pass a test, a filter is the first one with the fewest options. -/
def IsFirstWithFewest (test : Filter → Bool) (overloads : List Filter) (filter : Filter) : Prop :=
  test filter = true ∧ ∃ before after, overloads = before ++ filter :: after ∧
    (∀ other ∈ before, test other = true → filter.signature.optional < other.signature.optional) ∧
    ∀ other ∈ after, test other = true → filter.signature.optional ≤ other.signature.optional

/-- The overload that a number of values calls for. -/
inductive IsPreferred (overloads : List Filter) (count : Nat) (filter : Filter) : Prop where
  | exact (hfirst : IsFirst (fits count) overloads filter)
  | options (hnone : ∀ other ∈ overloads, fits count other = false)
    (hfewest : IsFirstWithFewest (admits count) overloads filter)
  | variadic (hnone : ∀ other ∈ overloads, admits count other = false)
    (hfirst : IsFirst (absorbs count) overloads filter)

theorem find?_eq_some_iff_isFirst {test : Filter → Bool} :
    overloads.find? test = some filter ↔ IsFirst test overloads filter := by
  rw [List.find?_eq_some_iff_append, IsFirst]
  simp only [Bool.not_eq_true']

theorem find?_eq_none_iff {test : Filter → Bool} :
    overloads.find? test = none ↔ ∀ other ∈ overloads, test other = false := by
  simp [List.find?_eq_none]

theorem fewestOptions_eq_none_iff : ∀ {candidates : List Filter}, fewestOptions candidates = none ↔ candidates = []
  | [] => by simp [fewestOptions]
  | first :: rest => by
    rw [fewestOptions]
    cases fewestOptions rest <;> simp

/-- The fewest options in front: what stands behind has as many at least. -/
theorem fewestOptions_cons_of_le {rest : List Filter}
    (h : ∀ other ∈ rest, filter.signature.optional ≤ other.signature.optional) :
    fewestOptions (filter :: rest) = some filter := by
  rw [fewestOptions]
  cases hbest : fewestOptions rest with
  | none => rfl
  | some best => exact congrArg some (if_pos (h best (fewestOptions_mem hbest)))

theorem fewestOptions_cons_of_lt {first : Filter} {rest : List Filter} (hrest : fewestOptions rest = some filter)
    (h : filter.signature.optional < first.signature.optional) : fewestOptions (first :: rest) = some filter := by
  rw [fewestOptions, hrest]
  exact congrArg some (if_neg (Nat.not_le.2 h))

theorem fewestOptions_eq_some_iff {candidates : List Filter} : fewestOptions candidates = some filter ↔
    ∃ before after, candidates = before ++ filter :: after ∧
      (∀ other ∈ before, filter.signature.optional < other.signature.optional) ∧
      ∀ other ∈ after, filter.signature.optional ≤ other.signature.optional := by
  constructor
  · intro h
    induction candidates generalizing filter with
    | nil => cases h
    | cons first rest ih =>
      rw [fewestOptions] at h
      cases hbest : fewestOptions rest with
      | none =>
        rw [hbest] at h
        obtain rfl := Option.some.inj h
        obtain rfl := fewestOptions_eq_none_iff.1 hbest
        exact ⟨[], [], rfl, List.forall_mem_nil _, List.forall_mem_nil _⟩
      | some best =>
        simp only [hbest, Option.some.injEq] at h
        obtain ⟨before, after, rfl, hbefore, hafter⟩ := ih hbest
        split at h
        · next hle =>
          obtain rfl := h
          refine ⟨[], _, rfl, List.forall_mem_nil _, fun other hother ↦ ?_⟩
          obtain hother | hother := List.mem_append.1 hother
          · exact Nat.le_trans hle (Nat.le_of_lt (hbefore other hother))
          · obtain rfl | hother := List.mem_cons.1 hother
            · exact hle
            · exact Nat.le_trans hle (hafter other hother)
        · next hlt =>
          obtain rfl := h
          exact ⟨first :: before, after, rfl, List.forall_mem_cons.2 ⟨Nat.not_le.1 hlt, hbefore⟩, hafter⟩
  · rintro ⟨before, after, rfl, hbefore, hafter⟩
    induction before with
    | nil => exact fewestOptions_cons_of_le hafter
    | cons first before ih =>
      rw [List.forall_mem_cons] at hbefore
      exact fewestOptions_cons_of_lt (ih hbefore.2) hbefore.1

/-- The candidates among the overloads are those that pass the test. -/
theorem fewestOptions_filter_eq_some_iff {test : Filter → Bool} :
    fewestOptions (overloads.filter test) = some filter ↔ IsFirstWithFewest test overloads filter := by
  rw [fewestOptions_eq_some_iff]
  constructor
  · rintro ⟨before, after, hcandidates, hbefore, hafter⟩
    obtain ⟨first, second, rfl, rfl, hsecond⟩ := List.filter_eq_append_iff.1 hcandidates
    obtain ⟨dropped, last, rfl, hdropped, hfilter, rfl⟩ := List.filter_eq_cons_iff.1 hsecond
    refine ⟨hfilter, first ++ dropped, last, by rw [List.append_assoc], ?_, ?_⟩
    · intro other hother htest
      obtain hother | hother := List.mem_append.1 hother
      · exact hbefore other (List.mem_filter.2 ⟨hother, htest⟩)
      · exact absurd htest (hdropped other hother)
    · exact fun other hother htest ↦ hafter other (List.mem_filter.2 ⟨hother, htest⟩)
  · rintro ⟨hfilter, before, after, rfl, hbefore, hafter⟩
    refine ⟨before.filter test, after.filter test, ?_, ?_, ?_⟩
    · rw [List.filter_append, List.filter_cons_of_pos hfilter]
    · exact fun other hother ↦ hbefore other (List.mem_filter.1 hother).1 (List.mem_filter.1 hother).2
    · exact fun other hother ↦ hafter other (List.mem_filter.1 hother).1 (List.mem_filter.1 hother).2

/-- What takes exactly a number of values takes it without options. -/
theorem fits_eq_false_of_admits (h : admits count filter = false) : fits count filter = false := by
  refine Bool.eq_false_iff.2 fun hfits ↦ Bool.eq_false_iff.1 h ?_
  simp only [fits, admits, Bool.and_eq_true, beq_iff_eq] at hfits ⊢
  exact ⟨hfits.1, Signature.covers_iff.2 ⟨Nat.le_of_eq hfits.2, .inr (by omega)⟩⟩

theorem covers_eq_false_iff :
    filter.signature.covers count = false ↔ admits count filter = false ∧ absorbs count filter = false := by
  rw [admits, absorbs]
  cases filter.signature.variadic <;> simp

theorem select?_eq_or : select? overloads count = ((overloads.find? (fits count)).or
    (fewestOptions (overloads.filter (admits count)))).or (overloads.find? (absorbs count)) := by
  rw [select?, Option.or_assoc]
  cases overloads.find? (fits count) <;> cases fewestOptions (overloads.filter (admits count)) <;> rfl

/-- Selection fails exactly where no overload covers the number of values. -/
theorem select?_eq_none_iff :
    select? overloads count = none ↔ ∀ filter ∈ overloads, filter.signature.covers count = false := by
  simp only [select?_eq_or, Option.or_eq_none_iff, find?_eq_none_iff, fewestOptions_eq_none_iff, List.filter_eq_nil_iff,
    Bool.not_eq_true]
  constructor
  · rintro ⟨⟨-, hadmits⟩, habsorbs⟩ filter hfilter
    exact covers_eq_false_iff.2 ⟨hadmits filter hfilter, habsorbs filter hfilter⟩
  · intro h
    have hadmits (filter : Filter) (hfilter : filter ∈ overloads) : admits count filter = false :=
      (covers_eq_false_iff.1 (h filter hfilter)).1
    have habsorbs (filter : Filter) (hfilter : filter ∈ overloads) : absorbs count filter = false :=
      (covers_eq_false_iff.1 (h filter hfilter)).2
    exact ⟨⟨fun filter hfilter ↦ fits_eq_false_of_admits (hadmits filter hfilter), hadmits⟩, habsorbs⟩

/-- The selected overload is the preferred one. -/
theorem select?_eq_some_iff : select? overloads count = some filter ↔ IsPreferred overloads count filter := by
  simp only [select?_eq_or, Option.or_eq_some_iff, Option.or_eq_none_iff, find?_eq_some_iff_isFirst, find?_eq_none_iff,
    fewestOptions_filter_eq_some_iff, fewestOptions_eq_none_iff, List.filter_eq_nil_iff, Bool.not_eq_true]
  constructor
  · rintro ((hfirst | ⟨hnone, hfewest⟩) | ⟨⟨-, hnone⟩, hfirst⟩)
    · exact .exact hfirst
    · exact .options hnone hfewest
    · exact .variadic hnone hfirst
  · rintro (hfirst | ⟨hnone, hfewest⟩ | ⟨hnone, hfirst⟩)
    · exact .inl (.inl hfirst)
    · exact .inl (.inr ⟨hnone, hfewest⟩)
    · exact .inr ⟨⟨fun other hother ↦ fits_eq_false_of_admits (hnone other hother), hnone⟩, hfirst⟩

theorem covers_of_select? (h : select? overloads count = some filter) : filter.signature.covers count = true := by
  refine Bool.of_not_eq_false fun hfalse ↦ ?_
  obtain ⟨hadmits, habsorbs⟩ := covers_eq_false_iff.1 hfalse
  obtain ⟨hfits, -⟩ | ⟨-, hadmitted, -⟩ | ⟨-, habsorbed, -⟩ := select?_eq_some_iff.1 h
  · exact Bool.eq_false_iff.1 (fits_eq_false_of_admits hadmits) hfits
  · exact Bool.eq_false_iff.1 hadmits hadmitted
  · exact Bool.eq_false_iff.1 habsorbs habsorbed

/-- Selection and conversion agree. Selection fails exactly where no overload covers the number of values, and selects the
preferred overload else. Of a selected one whose parameters stand in the order, each parameter is handed its share of the
values, and conversion makes the arguments of the shares, so that it fails for a value or for the context only. -/
theorem selected_converts (overloads : List Filter) (horder : ∀ filter ∈ overloads, Parameter.InOrder filter.parameters)
    (count : Nat) :
    (select? overloads count = none ↔ ∀ filter ∈ overloads, filter.signature.covers count = false) ∧
      (∀ filter, select? overloads count = some filter ↔ IsPreferred overloads count filter) ∧
      ∀ filter, select? overloads count = some filter → ∀ values : List Value, values.length = count →
        ∃ shares, Handed filter.parameters values shares ∧ shares.flatten = values ∧
          shares.length = filter.parameters.length ∧ ∀ tallies hasContext,
            (∀ arguments, Arguments.convert tallies hasContext filter.parameters values = .ok arguments ↔
              (Parameter.context ∈ filter.parameters → hasContext = true) ∧
                Converted tallies filter.parameters shares arguments) ∧
            ∀ fault, Arguments.convert tallies hasContext filter.parameters values = .error fault →
              fault.kind ≠ .missingArgument ∧ fault.kind ≠ .tooManyArguments := by
  refine ⟨select?_eq_none_iff, fun filter ↦ select?_eq_some_iff, fun filter hselect values hcount ↦ ?_⟩
  have hcovers : (Signature.ofParameters filter.parameters).covers values.length = true := by
    rw [hcount]
    exact covers_of_select? hselect
  obtain ⟨shares, hhanded⟩ := (Handed.covers_iff (horder filter (select?_mem hselect))).1 hcovers
  refine ⟨shares, hhanded, hhanded.flatten_eq, hhanded.length_eq, fun tallies hasContext ↦
    ⟨fun arguments ↦ hhanded.convert_eq_ok_iff, fun fault herror ↦ ?_⟩⟩
  obtain rfl | ⟨value, title, rfl⟩ := hhanded.of_convert_eq_error herror
  · exact ⟨nofun, nofun⟩
  · exact ⟨nofun, nofun⟩

/-- Filters for one value, for one or two, and for any number. -/
def assorted : List Filter :=
  [onText Text.upper, sort, splitText, direct [.one .value, .rest .value] fun (first, others, ()) ↦ .seq (first :: others)]

/-- Two values call for the first of the filters that have an option for the second one. -/
theorem selected_converts_assorted :
    (∀ filter ∈ assorted, Parameter.InOrder filter.parameters) ∧ select? assorted 2 = some sort ∧
      IsPreferred assorted 2 sort ∧
      ∃ shares, Handed sort.parameters [.seq [], .string "size"] shares ∧
        Arguments.convert [] true sort.parameters [.seq [], .string "size"] = .ok (.seq [], some "size", ()) ∧
        Converted [] sort.parameters shares (.seq [], some "size", ()) := by
  have horder : ∀ filter ∈ assorted, Parameter.InOrder filter.parameters := by
    simp only [assorted, List.forall_mem_cons, List.not_mem_nil, false_implies, implies_true, and_true]
    decide
  obtain ⟨-, hpreferred, hselected⟩ := selected_converts assorted horder 2
  have hselect : select? assorted 2 = some sort := rfl
  obtain ⟨shares, hhanded, -, -, hconverted⟩ := hselected sort hselect [.seq [], .string "size"] rfl
  have hconvert :
      Arguments.convert [] true sort.parameters [.seq [], .string "size"] = .ok (.seq [], some "size", ()) := rfl
  obtain ⟨-, hconverts⟩ := ((hconverted [] true).1 _).1 hconvert
  exact ⟨horder, hselect, (hpreferred sort).1 hselect, shares, hhanded, hconvert, hconverts⟩

end Filter

end Liquid
