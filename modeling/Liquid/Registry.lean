import Liquid.Naming

/-!
# Registries

A registry holds things under names, in the order of the names. A request that no name equals is answered by the
first name that matches it under the naming convention.
-/

namespace Liquid

/-- Things with names, sorted by name. -/
structure Registry (α : Type) where
  entries : List (String × α)

namespace Registry

variable {α : Type}

/-- The registry that holds nothing. -/
def empty : Registry α := ⟨[]⟩

/-- Whether a registry holds nothing. -/
def isEmpty (registry : Registry α) : Bool := registry.entries.isEmpty

/-- Puts a thing under a name of a sorted list; what the name held is replaced. -/
def insertSorted (name : String) (value : α) : List (String × α) → List (String × α)
  | [] => [(name, value)]
  | (other, old) :: rest =>
    if name < other then (name, value) :: (other, old) :: rest
    else if name = other then (name, value) :: rest
    else (other, old) :: insertSorted name value rest

/-- Puts a thing under a name; what the name held is replaced. -/
def insert (registry : Registry α) (name : String) (value : α) : Registry α :=
  ⟨insertSorted name value registry.entries⟩

/-- Removes a name. -/
def erase (registry : Registry α) (name : String) : Registry α :=
  ⟨registry.entries.filter fun entry ↦ entry.1 != name⟩

/-- What stands under exactly the given name. -/
def get? (registry : Registry α) (name : String) : Option α :=
  (registry.entries.find? fun entry ↦ entry.1 == name).map Prod.snd

/-- What answers a request. -/
def request? (registry : Registry α) (convention : NamingConvention) (requested : String) : Option α :=
  registry.get? requested <|>
    (registry.entries.find? fun entry ↦
      convention.matchesName (convention.registeredName entry.1) requested).map Prod.snd

/-- A registry with the given names; a later entry of a name replaces earlier ones. -/
def ofList (entries : List (String × α)) : Registry α :=
  entries.foldl (fun registry entry ↦ registry.insert entry.1 entry.2) empty

end Registry

end Liquid
