import Liquid.Evaluation

/-!
# Properties of all filters

A property of filters holds throughout a set if it holds of every overload of every name. What is chosen from a set for a
call is one of its filters.
-/

namespace Liquid

theorem Filter.mem_addOverload {filter other : Filter} :
    ∀ {overloads : List Filter}, other ∈ filter.addOverload overloads → other = filter ∨ other ∈ overloads
  | [], h => .inl (List.mem_singleton.1 h)
  | first :: rest, h => by
    rw [Filter.addOverload] at h
    split at h
    · exact (List.mem_cons.1 h).imp_right (List.mem_cons_of_mem first)
    · obtain rfl | h := List.mem_cons.1 h
      · exact .inr List.mem_cons_self
      · exact (Filter.mem_addOverload h).imp_right (List.mem_cons_of_mem first)

theorem Registry.mem_insertSorted {α : Type} {name : String} {value : α} {entry : String × α} :
    ∀ {entries : List (String × α)}, entry ∈ insertSorted name value entries → entry = (name, value) ∨ entry ∈ entries
  | [], h => .inl (List.mem_singleton.1 h)
  | (other, old) :: rest, h => by
    rw [insertSorted] at h
    split at h
    · exact List.mem_cons.1 h
    · split at h
      · exact (List.mem_cons.1 h).imp_right (List.mem_cons_of_mem _)
      · obtain rfl | h := List.mem_cons.1 h
        · exact .inr List.mem_cons_self
        · exact (mem_insertSorted h).imp_right (List.mem_cons_of_mem _)

namespace FilterSet

/-- A property holds of every filter of a set. -/
def All (holds : Filter → Prop) (filters : FilterSet) : Prop :=
  ∀ entry ∈ filters.entries, ∀ filter ∈ entry.2, holds filter

theorem All.mono {holds weaker : Filter → Prop} {filters : FilterSet} (h : filters.All holds)
    (himp : ∀ filter, holds filter → weaker filter) : filters.All weaker :=
  fun entry hentry filter hfilter ↦ himp filter (h entry hentry filter hfilter)

/-- What is added to a set is all that a set gains. -/
theorem All.add {holds : Filter → Prop} {filters : FilterSet} (h : filters.All holds) (name : String) {filter : Filter}
    (hfilter : holds filter) : (filters.add name filter).All holds := by
  have hold : ∀ old ∈ (filters.get? name).getD [], holds old := by
    intro old hmem
    cases hfound : filters.get? name with
    | none =>
      rw [hfound] at hmem
      cases hmem
    | some overloads =>
      rw [hfound] at hmem
      rw [Registry.get?, Option.map_eq_some_iff] at hfound
      obtain ⟨entry, hentry, rfl⟩ := hfound
      exact h entry (List.mem_of_find?_eq_some hentry) old hmem
  intro entry hentry other hother
  obtain rfl | hentry := Registry.mem_insertSorted hentry
  · obtain rfl | hmem := Filter.mem_addOverload hother
    · exact hfilter
    · exact hold other hmem
  · exact h entry hentry other hother

theorem All.ofList {holds : Filter → Prop} {entries : List (String × Filter)} (h : ∀ entry ∈ entries, holds entry.2) :
    (FilterSet.ofList entries).All holds := by
  have hfold : ∀ (entries : List (String × Filter)) (filters : FilterSet), (∀ entry ∈ entries, holds entry.2) →
      filters.All holds → All holds (entries.foldl (fun filters entry ↦ FilterSet.add filters entry.1 entry.2) filters) := by
    intro entries
    induction entries with
    | nil => exact fun _ _ hfilters ↦ hfilters
    | cons first rest ih =>
      intro filters hentries hfilters
      rw [List.forall_mem_cons] at hentries
      exact ih _ hentries.2 (hfilters.add first.1 hentries.1)
  exact hfold entries Registry.empty h (fun _ hentry ↦ by cases hentry)

theorem All.request? {holds : Filter → Prop} {filters : FilterSet} (h : filters.All holds)
    {naming : NamingConvention} {name : String} {overloads : List Filter}
    (hfound : filters.request? naming name = some overloads) : ∀ filter ∈ overloads, holds filter := by
  rw [Registry.request?, Registry.get?, Option.orElse_eq_orElse, Option.orElse_eq_or, Option.or_eq_some_iff] at hfound
  simp only [Option.map_eq_some_iff] at hfound
  obtain ⟨entry, hentry, rfl⟩ | ⟨-, entry, hentry, rfl⟩ := hfound
  · exact h entry (List.mem_of_find?_eq_some hentry)
  · exact h entry (List.mem_of_find?_eq_some hentry)

end FilterSet

namespace Filter

theorem fewestOptions_mem {filter : Filter} :
    ∀ {overloads : List Filter}, fewestOptions overloads = some filter → filter ∈ overloads
  | [], h => by cases h
  | first :: rest, h => by
    rw [fewestOptions] at h
    cases hbest : fewestOptions rest with
    | none =>
      rw [hbest] at h
      obtain rfl := Option.some.inj h
      exact List.mem_cons_self
    | some best =>
      rw [hbest] at h
      have hmem := fewestOptions_mem hbest
      obtain rfl := Option.some.inj h
      split
      · exact List.mem_cons_self
      · exact List.mem_cons_of_mem _ hmem

theorem select?_mem {filter : Filter} {overloads : List Filter} {count : Nat}
    (h : select? overloads count = some filter) : filter ∈ overloads := by
  rw [select?] at h
  simp only [Option.orElse_eq_orElse, Option.orElse_eq_or, Option.or_eq_some_iff] at h
  obtain h | ⟨-, h | ⟨-, h⟩⟩ := h
  · exact List.mem_of_find?_eq_some h
  · exact (List.mem_filter.1 (fewestOptions_mem h)).1
  · exact List.mem_of_find?_eq_some h

end Filter

/-- What all filters have in common holds of the one that is chosen for a call. -/
theorem Toolbox.filter_holds {tools : Toolbox} {holds : Filter → Prop} (hlocal : tools.localFilters.All holds)
    (hshared : tools.filters.All holds) {naming : NamingConvention} {name : String} {count : Nat} {filter : Filter}
    (hchosen : tools.filter naming name count = .ok filter) : holds filter := by
  rw [Toolbox.filter] at hchosen
  cases hfound : tools.overloads? naming name with
  | none =>
    rw [hfound] at hchosen
    cases hchosen
  | some overloads =>
    rw [hfound] at hchosen
    have hoverloads : ∀ filter ∈ overloads, holds filter := by
      rw [Toolbox.overloads?, Option.orElse_eq_orElse, Option.orElse_eq_or, Option.or_eq_some_iff] at hfound
      obtain hlocally | ⟨-, hglobally⟩ := hfound
      · exact hlocal.request? hlocally
      · exact hshared.request? hglobally
    cases hselected : Filter.select? overloads count with
    | none =>
      simp only [hselected] at hchosen
      cases hchosen
    | some selected =>
      simp only [hselected] at hchosen
      obtain rfl := Except.ok.inj hchosen
      exact hoverloads _ (Filter.select?_mem hselected)

end Liquid
