import Liquid.Environment
import Liquid.Host.Filters
import Liquid.Proofs.Evaluation.Composition
import Mathlib.Data.List.Induction

/-!
# Registering filters

A name keeps one filter for each signature that has been registered under it: the latest one, at the place of the first one.
A call that supplies exactly the required values runs a filter of the first signature that fits, whatever has been registered
with another signature later.
-/

namespace Liquid

namespace Registry

variable {α : Type} {registry : Registry α} {name other : String}

theorem find?_insertSorted (name : String) (value : α) :
    ∀ entries : List (String × α), (insertSorted name value entries).find? (·.1 == name) = some (name, value)
  | [] => List.find?_cons_of_pos (by simp)
  | (first, old) :: rest => by
    rw [insertSorted]
    split
    · exact List.find?_cons_of_pos (by simp)
    · split
      · exact List.find?_cons_of_pos (by simp)
      · next hne =>
        rw [List.find?_cons_of_neg (by simpa using Ne.symm hne)]
        exact find?_insertSorted name value rest

theorem find?_insertSorted_of_ne (hne : name ≠ other) (value : α) :
    ∀ entries : List (String × α), (insertSorted name value entries).find? (·.1 == other) = entries.find? (·.1 == other)
  | [] => List.find?_cons_of_neg (by simpa using hne)
  | (first, old) :: rest => by
    rw [insertSorted]
    split
    · exact List.find?_cons_of_neg (by simpa using hne)
    · split
      · next hsame =>
        obtain rfl := hsame
        rw [List.find?_cons_of_neg (by simpa using hne), List.find?_cons_of_neg (by simpa using hne)]
      · rw [List.find?_cons, List.find?_cons, find?_insertSorted_of_ne hne value rest]

@[simp] theorem get?_insert (registry : Registry α) (name : String) (value : α) :
    (registry.insert name value).get? name = some value := by
  rw [get?, insert, find?_insertSorted, Option.map_some]

theorem get?_insert_of_ne (hne : name ≠ other) (registry : Registry α) (value : α) :
    (registry.insert name value).get? other = registry.get? other := by
  rw [get?, insert, find?_insertSorted_of_ne hne, get?]

theorem request?_eq_some_of_get? {value : α} (h : registry.get? name = some value) (naming : NamingConvention) :
    registry.request? naming name = some value := by
  rw [request?, h]
  rfl

end Registry

namespace Filter

/-- A test of filters looks at nothing but their signatures. -/
def OnSignatures (test : Filter → Bool) : Prop := ∀ a b : Filter, a.signature = b.signature → test a = test b

theorem onSignatures_fits (count : Nat) : OnSignatures (fits count) := by
  intro a b h
  rw [fits, fits, h]

/-- The first overload that passes a test stays at its place when a filter is added. -/
theorem find?_addOverload {test : Filter → Bool} (htest : OnSignatures test) (filter : Filter) :
    ∀ overloads : List Filter, (filter.addOverload overloads).find? test =
      match overloads.find? test with
      | some found => some (if found.signature = filter.signature then filter else found)
      | none => if test filter then some filter else none
  | [] => by
    rw [addOverload, List.find?_cons, List.find?_nil]
    cases test filter <;> rfl
  | other :: rest => by
    have ih := find?_addOverload htest filter rest
    rw [addOverload]
    by_cases hsame : other.signature = filter.signature
    · rw [if_pos hsame]
      cases hpasses : test filter with
      | true =>
        rw [List.find?_cons_of_pos hpasses, List.find?_cons_of_pos (by rw [htest _ _ hsame, hpasses])]
        exact congrArg some (if_pos hsame).symm
      | false =>
        -- None of the others has the signature of the filter if it passes the test.
        rw [List.find?_cons_of_neg (by simp [hpasses]), List.find?_cons_of_neg (by simp [htest _ _ hsame, hpasses])]
        cases hfound : rest.find? test with
        | none => rfl
        | some found =>
          have hother : found.signature ≠ filter.signature := by
            intro hequal
            have hpassed := List.find?_some hfound
            rw [htest _ _ hequal, hpasses] at hpassed
            cases hpassed
          exact congrArg some (if_neg hother).symm
    · rw [if_neg hsame]
      cases hpasses : test other with
      | true =>
        rw [List.find?_cons_of_pos hpasses, List.find?_cons_of_pos hpasses]
        exact congrArg some (if_neg hsame).symm
      | false =>
        rw [List.find?_cons_of_neg (by simp [hpasses]), List.find?_cons_of_neg (by simp [hpasses])]
        exact ih

/-- The overloads of a name under which filters have been registered in the given order. -/
def overloads (history : List Filter) : List Filter := history.foldl (fun overloads filter ↦ filter.addOverload overloads) []

theorem overloads_concat (history : List Filter) (filter : Filter) :
    overloads (history ++ [filter]) = filter.addOverload (overloads history) := List.foldl_append ..

/-- The latest filter of a signature. -/
def latest? (history : List Filter) (signature : Signature) : Option Filter :=
  history.reverse.find? fun filter ↦ filter.signature = signature

theorem latest?_concat (history : List Filter) (filter : Filter) (signature : Signature) :
    latest? (history ++ [filter]) signature =
      if filter.signature = signature then some filter else latest? history signature := by
  rw [latest?, List.reverse_concat, List.find?_cons, latest?]
  split <;> simp_all

theorem signature_of_latest? {history : List Filter} {signature : Signature} {filter : Filter}
    (h : latest? history signature = some filter) : filter.signature = signature := by
  simpa using List.find?_some h

theorem exists_latest? {history : List Filter} {filter : Filter} (h : filter ∈ history) :
    ∃ chosen, latest? history filter.signature = some chosen :=
  Option.isSome_iff_exists.1 (List.find?_isSome.2 ⟨filter, List.mem_reverse.2 h, by simp⟩)

/-- The overload that passes a test first is the latest one of the signature that passed it first. -/
theorem find?_overloads {test : Filter → Bool} (htest : OnSignatures test) (history : List Filter) :
    (overloads history).find? test = (history.find? test).bind fun first ↦ latest? history first.signature := by
  induction history using List.reverseRecOn with
  | nil => rfl
  | append_singleton history filter ih =>
    rw [overloads_concat, find?_addOverload htest, ih, List.find?_append]
    cases hfirst : history.find? test with
    | none =>
      rw [List.find?_singleton]
      cases test filter with
      | true => simp [latest?_concat]
      | false => simp
    | some first =>
      obtain ⟨found, hfound⟩ := exists_latest? (List.mem_of_find?_eq_some hfirst)
      simp only [Option.bind_some, Option.some_or, hfound, latest?_concat, signature_of_latest? hfound,
        eq_comm (a := filter.signature)]
      split <;> rfl

/-- Where filters fit exactly, the latest one of the first signature that fits is selected. -/
theorem select?_overloads {history : List Filter} {count : Nat} {first chosen : Filter}
    (hfirst : history.find? (fits count) = some first) (hchosen : latest? history first.signature = some chosen) :
    select? (overloads history) count = some chosen := by
  rw [select?, find?_overloads (onSignatures_fits count), hfirst, Option.bind_some, hchosen]
  rfl

end Filter

namespace FilterSet

/-- Registers filters in the given order. -/
def addEntries (filters : FilterSet) (entries : List (String × Filter)) : FilterSet :=
  entries.foldl (fun filters entry ↦ filters.add entry.1 entry.2) filters

/-- The filters that are registered under a name, in their order. -/
def registered (entries : List (String × Filter)) (name : String) : List Filter :=
  (entries.filter (·.1 == name)).map Prod.snd

variable {filters : FilterSet} {name : String}

theorem get?_add (filters : FilterSet) (name : String) (filter : Filter) :
    (filters.add name filter).get? name = some (filter.addOverload ((filters.get? name).getD [])) :=
  Registry.get?_insert ..

theorem registered_concat (entries : List (String × Filter)) (other : String) (filter : Filter) (name : String) :
    registered (entries ++ [(other, filter)]) name =
      if other = name then registered entries name ++ [filter] else registered entries name := by
  rw [registered, List.filter_append, List.map_append, registered]
  split <;> simp_all

/-- A name that was free holds the overloads of the filters that have been registered under it. -/
theorem get?_addEntries (hfree : filters.get? name = none) (entries : List (String × Filter)) :
    ((filters.addEntries entries).get? name).getD [] = Filter.overloads (registered entries name) ∧
      (registered entries name ≠ [] → (filters.addEntries entries).get? name ≠ none) := by
  induction entries using List.reverseRecOn with
  | nil => exact ⟨by rw [addEntries, List.foldl_nil, hfree]; rfl, fun h ↦ absurd rfl h⟩
  | append_singleton entries entry ih =>
    obtain ⟨other, filter⟩ := entry
    have hadd : filters.addEntries (entries ++ [(other, filter)]) = (filters.addEntries entries).add other filter :=
      List.foldl_append ..
    rw [hadd, registered_concat]
    by_cases hname : other = name
    · obtain rfl := hname
      rw [get?_add, if_pos rfl, Filter.overloads_concat, ← ih.1]
      exact ⟨rfl, fun _ ↦ Option.some_ne_none _⟩
    · rw [if_neg hname, add, Registry.get?_insert_of_ne hname]
      exact ih

end FilterSet

namespace Toolbox

/-- A set of filters answers for a name: it is the set of the render, or the shared one if that of the render does not know the
name. -/
def Asks (tools : Toolbox) (naming : NamingConvention) (name : String) (filters : FilterSet) : Prop :=
  tools.localFilters = filters ∨ tools.localFilters.request? naming name = none ∧ tools.filters = filters

theorem filter_eq_ok {tools : Toolbox} {naming : NamingConvention} {name : String} {filters : FilterSet}
    {overloads : List Filter} {count : Nat} {filter : Filter} (hasks : tools.Asks naming name filters)
    (hget : filters.get? name = some overloads) (hselect : Filter.select? overloads count = some filter) :
    tools.filter naming name count = .ok filter := by
  have hrequest := Registry.request?_eq_some_of_get? hget naming
  have hoverloads : tools.overloads? naming name = some overloads := by
    obtain rfl | ⟨hlocal, rfl⟩ := hasks
    · rw [overloads?, hrequest]
      rfl
    · rw [overloads?, hlocal, hrequest]
      rfl
  rw [Toolbox.filter, hoverloads]
  simp only [hselect]

end Toolbox

/-- A call runs the filter that is chosen for it. -/
theorem evalFilters_eq_invoke {tools : Toolbox} {context : Context} {name : String} {arguments : List Expr} {filter : Filter}
    (h : tools.filter context.naming name (arguments.length + 1) = .ok filter) (texts : List String)
    (rest : List FilterRequest) (value : Value) (drive : Drive) (shared : Shared) :
    evalFilters tools (.mk name texts arguments :: rest) value drive context shared =
      (do
        let values ← evalList tools arguments
        evalFilters tools rest (← filter.invoke name (value :: values))) drive context shared := by
  have hcontext : Eval.context drive context shared = (.ok context, shared) := rfl
  rw [evalFilters, Eval.run_bind, hcontext]
  simp only [h]

namespace Toolbox

variable {tools : Toolbox} {filters : FilterSet} {entries : List (String × Filter)} {name : String} {last : Filter}
  {arguments : List Expr} {context : Context}

/-- A call that supplies exactly the values that the latest filter of its name requires runs the latest filter of the first
signature that fits. This is the latest filter of the name if and only if it has this signature. -/
theorem latest_runs_iff (hfree : filters.get? name = none)
    (hasks : tools.Asks context.naming name (filters.addEntries entries))
    (hlast : (FilterSet.registered entries name).getLast? = some last) (hfits : last.fits (arguments.length + 1)) :
    ∃ first chosen, (FilterSet.registered entries name).find? (Filter.fits (arguments.length + 1)) = some first ∧
      Filter.latest? (FilterSet.registered entries name) first.signature = some chosen ∧
      (∀ texts rest value drive shared, evalFilters tools (.mk name texts arguments :: rest) value drive context shared =
        (do
          let values ← evalList tools arguments
          evalFilters tools rest (← chosen.invoke name (value :: values))) drive context shared) ∧
      (chosen = last ↔ first.signature = last.signature) := by
  have hmem : last ∈ FilterSet.registered entries name := List.mem_of_getLast? hlast
  obtain ⟨first, hfirst⟩ := Option.isSome_iff_exists.1 (List.find?_isSome.2 ⟨last, hmem, hfits⟩)
  obtain ⟨chosen, hchosen⟩ := Filter.exists_latest? (List.mem_of_find?_eq_some hfirst)
  obtain ⟨hheld, hsome⟩ := FilterSet.get?_addEntries hfree entries
  obtain ⟨overloads, hget⟩ := Option.ne_none_iff_exists'.1 (hsome (List.ne_nil_of_mem hmem))
  rw [hget, Option.getD_some] at hheld
  have hselect := Filter.select?_overloads hfirst hchosen
  rw [← hheld] at hselect
  refine ⟨first, chosen, hfirst, hchosen, evalFilters_eq_invoke (filter_eq_ok hasks hget hselect), ?_⟩
  constructor
  · rintro rfl
    exact (Filter.signature_of_latest? hchosen).symm
  · intro hsame
    obtain ⟨earlier, hearlier⟩ := List.getLast?_eq_some_iff.1 hlast
    rw [hearlier, Filter.latest?_concat, if_pos hsame.symm] at hchosen
    exact (Option.some.inj hchosen).symm

/-- The toolbox of a set in which filters have been registered in the given order. -/
def registering (entries : List (String × Filter)) : Toolbox := ⟨.empty, FilterSet.addEntries .empty entries, .empty⟩

/-- The context of a render without variables. -/
def emptyContext : Context := Environment.standard.context .nil

/-- The built-in filters, and one in place of `upcase` that turns letters into small ones. -/
def lowering : List (String × Filter) := Filter.builtins ++ [("upcase", Filter.onText Text.lower)]

/-- A filter of the signature of a built-in one runs in its place. -/
theorem latest_runs_iff_lowering :
    (FilterSet.registered lowering "upcase").getLast? = some (Filter.onText Text.lower) ∧
      (Filter.onText Text.lower).fits 1 = true ∧
      ∀ rest value drive shared,
        evalFilters (registering lowering) (.mk "upcase" [] [] :: rest) value drive emptyContext shared =
          (do
            let values ← evalList (registering lowering) []
            evalFilters (registering lowering) rest
              (← (Filter.onText Text.lower).invoke "upcase" (value :: values))) drive emptyContext shared := by
  have hasks : (registering lowering).Asks emptyContext.naming "upcase" (FilterSet.addEntries .empty lowering) :=
    .inr ⟨rfl, rfl⟩
  have hlast : (FilterSet.registered lowering "upcase").getLast? = some (Filter.onText Text.lower) := rfl
  have hfits : (Filter.onText Text.lower).fits (([] : List Expr).length + 1) = true := rfl
  obtain ⟨first, chosen, hfirst, -, hruns, hiff⟩ := latest_runs_iff rfl hasks hlast hfits
  have hsame : first = Filter.onText Text.upper := (Option.some.inj hfirst).symm
  obtain rfl := hiff.2 (by rw [hsame]; rfl)
  exact ⟨hlast, hfits, hruns []⟩

/-- The built-in filters, and the stock filter `greet` in place of `upcase`. -/
def greeting : List (String × Filter) :=
  Filter.builtins ++ (Host.filters.filter (·.1 == "greet")).map fun entry ↦ ("upcase", entry.2)

/-- A filter that takes the context never runs where a built-in one takes as many values without it. -/
theorem greeting_never_runs :
    (FilterSet.registered greeting "upcase").getLast?.map (Filter.fits 1) = some true ∧
      ((FilterSet.registered greeting "upcase").getLast?.map fun last ↦
        (last.invoke "upcase" [.string "a"] .blocking emptyContext ⟨⟨[], none⟩, 0, 0⟩).1) =
        some (.ok (.string "Hello, a")) ∧
      (evalFilters (registering greeting) [.mk "upcase" [] []] (.string "a") .blocking emptyContext
        ⟨⟨[], none⟩, 0, 0⟩).1 = .ok (.string "A") := by
  refine ⟨rfl, rfl, ?_⟩
  have hchosen : (registering greeting).filter emptyContext.naming "upcase" 1 = .ok (Filter.onText Text.upper) := rfl
  rw [evalFilters_eq_invoke hchosen]
  simp only [evalList, evalFilters]
  rfl

end Toolbox

end Liquid
