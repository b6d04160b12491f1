/-!
# Entries in insertion order

A list of keys with their values. A key that is put again keeps its place and takes the new value; a new key goes to
the end. Every operation is described by what a later search finds.
-/

namespace Liquid

/-- Keys with their values, in the order in which the keys were first put. -/
abbrev Entries (κ α : Type) := List (κ × α)

namespace Entries

variable {κ α : Type} [DecidableEq κ]

/-- The value of a key. -/
def find? (key : κ) : Entries κ α → Option α
  | [] => none
  | (other, value) :: rest => if other = key then some value else find? key rest

/-- Gives a key a value. -/
def put (key : κ) (value : α) : Entries κ α → Entries κ α
  | [] => [(key, value)]
  | (other, old) :: rest => if other = key then (other, value) :: rest else (other, old) :: put key value rest

/-- Removes a key. -/
def erase (key : κ) (entries : Entries κ α) : Entries κ α :=
  entries.filter fun entry ↦ !decide (entry.1 = key)

/-- Puts all entries of the second list into the first one. -/
def putAll (entries more : Entries κ α) : Entries κ α :=
  more.foldl (fun result entry ↦ put entry.1 entry.2 result) entries

/-- The entries of a list in which a key may occur several times; the last value counts. -/
def ofList (entries : List (κ × α)) : Entries κ α := putAll [] entries

/-- Whether a key has a value. -/
def contains (key : κ) (entries : Entries κ α) : Bool := (find? key entries).isSome

@[simp] theorem find?_nil (key : κ) : find? key ([] : Entries κ α) = none := rfl

theorem find?_put (key asked : κ) (value : α) (entries : Entries κ α) :
    find? asked (put key value entries) = if key = asked then some value else find? asked entries := by
  induction entries with
  | nil => simp [put, find?]
  | cons entry rest ih =>
    obtain ⟨other, old⟩ := entry
    by_cases same : other = key
    · subst same
      by_cases hit : other = asked <;> simp [put, find?, hit]
    · by_cases hit : other = asked
      · subst hit
        have apart : ¬ key = other := fun equal ↦ same equal.symm
        simp [put, find?, same, apart]
      · simp [put, find?, same, hit, ih]

@[simp] theorem find?_put_self (key : κ) (value : α) (entries : Entries κ α) :
    find? key (put key value entries) = some value := by
  simp [find?_put]

theorem find?_put_of_ne {key asked : κ} (apart : key ≠ asked) (value : α) (entries : Entries κ α) :
    find? asked (put key value entries) = find? asked entries := by
  simp [find?_put, apart]

theorem find?_erase (key asked : κ) (entries : Entries κ α) :
    find? asked (erase key entries) = if key = asked then none else find? asked entries := by
  induction entries with
  | nil => simp [erase]
  | cons entry rest ih =>
    obtain ⟨other, old⟩ := entry
    unfold erase at ih ⊢
    by_cases same : other = key
    · subst same
      by_cases hit : other = asked
      · subst hit
        simpa [find?] using ih
      · simp_all [find?]
    · by_cases hit : other = asked
      · subst hit
        have apart : ¬ key = other := fun equal ↦ same equal.symm
        simp [find?, same, apart]
      · simp_all [find?]

theorem erase_put (key : κ) (value : α) (entries : Entries κ α) : erase key (put key value entries) = erase key entries := by
  induction entries with
  | nil => simp [put, erase]
  | cons entry rest ih =>
    obtain ⟨other, old⟩ := entry
    unfold erase at ih ⊢
    by_cases same : other = key
    · simp [put, same]
    · simp [put, same, ih]

theorem erase_put_of_ne {key other : κ} (apart : other ≠ key) (value : α) (entries : Entries κ α) :
    erase key (put other value entries) = put other value (erase key entries) := by
  induction entries with
  | nil => simp [put, erase, apart]
  | cons entry rest ih =>
    obtain ⟨first, old⟩ := entry
    unfold erase at ih ⊢
    by_cases same : first = other
    · simp [put, same, apart]
    · by_cases gone : first = key <;> simp_all [put]

/-- The keys stay in their order, and a new key goes to the end. -/
theorem keys_put (key : κ) (value : α) (entries : Entries κ α) :
    (put key value entries).map Prod.fst =
      if contains key entries then entries.map Prod.fst else entries.map Prod.fst ++ [key] := by
  induction entries with
  | nil => simp [put, contains, find?]
  | cons entry rest ih =>
    obtain ⟨other, old⟩ := entry
    by_cases same : other = key
    · simp [put, contains, find?, same]
    · simp only [put, if_neg same, List.map_cons, ih, contains, find?]
      by_cases present : (find? key rest).isSome <;> simp [present]

end Entries

end Liquid
