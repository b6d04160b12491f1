import Liquid.Environment

/-!
# Where a name is bound

A name has the value of its nearest binding: in the scopes, then among the assigned variables, the render's variables and
the globals. Render variables that are a map answer to one name more than their entries have. A map has a size, and this
size stands between its entries and the globals: it hides a global of that name, and is there when nothing is bound.
-/

namespace Liquid

/-- The nearest of some layers with an entry of a name gives the name a value. -/
def IsBoundIn (layers : List (Entries String Value)) (name : String) (value : Value) : Prop :=
  ∃ nearer layer farther, layers = nearer ++ layer :: farther ∧
    (∀ other ∈ nearer, Entries.find? name other = none) ∧ Entries.find? name layer = some value

/-- No layer has an entry of a name. -/
def IsUnboundIn (layers : List (Entries String Value)) (name : String) : Prop :=
  ∀ layer ∈ layers, Entries.find? name layer = none

theorem isBoundIn_iff_findSome? {layers : List (Entries String Value)} {name : String} {value : Value} :
    IsBoundIn layers name value ↔ layers.findSome? (Entries.find? name) = some value := by
  rw [List.findSome?_eq_some_iff]
  constructor
  · rintro ⟨nearer, layer, farther, hlayers, hnearer, hlayer⟩
    exact ⟨nearer, layer, farther, hlayers, hlayer, hnearer⟩
  · rintro ⟨nearer, layer, farther, hlayers, hlayer, hnearer⟩
    exact ⟨nearer, layer, farther, hlayers, hnearer, hlayer⟩

theorem isUnboundIn_iff_findSome? {layers : List (Entries String Value)} {name : String} :
    IsUnboundIn layers name ↔ layers.findSome? (Entries.find? name) = none :=
  List.findSome?_eq_none_iff.symm

namespace Value

/-- What a map has beside its entries. -/
def structureOf (entries : Entries String Value) : Entries String Value := [("size", ofCount entries.length)]

theorem find?_structureOf_of_ne {name : String} (hname : name ≠ "size") (entries : Entries String Value) :
    (structureOf entries).find? name = none :=
  if_neg (Ne.symm hname)

/-- A search for an entry that a name matches finds the entry of that name where names are exact. -/
theorem find?_matchesName_ruby (entries : Entries String Value) (name : String) :
    (List.find? (fun entry ↦ NamingConvention.ruby.matchesName entry.1 name) entries).map Prod.snd =
      entries.find? name := by
  induction entries with
  | nil => rfl
  | cons entry rest ih =>
    obtain ⟨key, value⟩ := entry
    by_cases hkey : key = name
    · simp [Entries.find?, NamingConvention.matchesName, hkey]
    · simpa [Entries.find?, NamingConvention.matchesName, hkey] using ih

/-- Where names are exact, the members of a map are its entries and, behind them, its size. -/
theorem mapMember?_ruby (entries : Entries String Value) (name : String) :
    mapMember? .ruby entries name = (entries.find? name <|> (structureOf entries).find? name) := by
  have hsize : (if name == "size" then some (ofCount entries.length) else none) = (structureOf entries).find? name := by
    by_cases hname : name = "size"
    · simp [structureOf, Entries.find?, hname]
    · simp [find?_structureOf_of_ne hname, hname]
  rw [mapMember?, hsize, find?_matchesName_ruby]
  cases entries.find? name <;> rfl

end Value

namespace Context

/-- The layers in which a name is documented to be looked for where the render's variables are a map. -/
def layers (context : Context) (entries : Entries String Value) : List (Entries String Value) :=
  context.scopes.toList ++ [context.assigned, entries, context.globals]

/-- The layers in which a name is looked for: the size of the render's variables stands before the globals. -/
def searchedLayers (context : Context) (entries : Entries String Value) : List (Entries String Value) :=
  context.scopes.toList ++ [context.assigned, entries, Value.structureOf entries, context.globals]

variable {context : Context} {entries : Entries String Value}

/-- A lookup is a search through layers, and counts nothing. -/
theorem lookup_eq_findSome? (hinputs : context.inputs = .map entries) (hnaming : context.naming = .ruby) (name : String) :
    context.lookup name = pure ((context.searchedLayers entries).findSome? (Entries.find? name)) := by
  have hmember : context.member? context.inputs name =
      pure (entries.find? name <|> (Value.structureOf entries).find? name) := by
    rw [hinputs, member?, hnaming, Value.member?, Value.mapMember?_ruby]
  rw [lookup, variableWith, hmember, searchedLayers, List.findSome?_append, Scopes.find?]
  cases context.scopes.toList.findSome? (Entries.find? name) with
  | some value => rfl
  | none =>
    simp only [List.findSome?_cons, List.findSome?_nil]
    cases context.assigned.find? name with
    | some value => rfl
    | none =>
      cases entries.find? name with
      | some value => rfl
      | none => cases (Value.structureOf entries).find? name <;> cases context.globals.find? name <;> rfl

/-- The size of a map is no entry of a name other than `size`. -/
theorem findSome?_searchedLayers {name : String} (hname : name ≠ "size") :
    (context.searchedLayers entries).findSome? (Entries.find? name) =
      (context.layers entries).findSome? (Entries.find? name) := by
  rw [searchedLayers, layers, List.findSome?_append, List.findSome?_append]
  simp only [List.findSome?_cons, List.findSome?_nil, Value.find?_structureOf_of_ne hname]

/-- A lookup counts nothing and gives the nearest binding of the name, and nothing if there is none. Except for the name of
the size, the bindings are those of the scopes, the assigned variables, the render's variables and the globals. -/
theorem lookup_isBoundIn (hinputs : context.inputs = .map entries) (hnaming : context.naming = .ruby) (name : String)
    (tallies : Tallies) :
    (context.lookup name tallies).2 = tallies ∧
    (∀ value, (context.lookup name tallies).1 = some value ↔ IsBoundIn (context.searchedLayers entries) name value) ∧
    ((context.lookup name tallies).1 = none ↔ IsUnboundIn (context.searchedLayers entries) name) ∧
    (name ≠ "size" →
      (∀ value, (context.lookup name tallies).1 = some value ↔ IsBoundIn (context.layers entries) name value) ∧
      ((context.lookup name tallies).1 = none ↔ IsUnboundIn (context.layers entries) name)) := by
  have hfound : context.lookup name tallies =
      ((context.searchedLayers entries).findSome? (Entries.find? name), tallies) := by
    rw [lookup_eq_findSome? hinputs hnaming]
    rfl
  rw [hfound]
  refine ⟨rfl, fun value ↦ isBoundIn_iff_findSome?.symm, isUnboundIn_iff_findSome?.symm, fun hname ↦ ?_⟩
  rw [findSome?_searchedLayers hname]
  exact ⟨fun value ↦ isBoundIn_iff_findSome?.symm, isUnboundIn_iff_findSome?.symm⟩

/-- The context in which an environment with a global `size` renders with a map of one variable. -/
def sizedContext : Context :=
  Environment.context { Environment.empty with globals := [("size", .int 42)] } (.map [("a", .int 1)])

theorem lookup_isBoundIn_sizedContext :
    (∀ value, (sizedContext.lookup "a" []).1 = some value ↔
      IsBoundIn (sizedContext.layers [("a", .int 1)]) "a" value) ∧
    (∀ value, (sizedContext.lookup "size" []).1 = some value ↔
      IsBoundIn (sizedContext.searchedLayers [("a", .int 1)]) "size" value) :=
  ⟨((lookup_isBoundIn rfl rfl "a" []).2.2.2 (by decide)).1, (lookup_isBoundIn rfl rfl "size" []).2.1⟩

/-- The size of the render's variables hides a global `size`. -/
theorem lookup_size_hides_global :
    sizedContext.inputs = .map [("a", .int 1)] ∧ sizedContext.naming = .ruby ∧
    IsBoundIn (sizedContext.layers [("a", .int 1)]) "size" (.int 42) ∧
    (sizedContext.lookup "size" []).1 = some (.int 1) :=
  ⟨rfl, rfl, ⟨[[], [], [("a", .int 1)]], [("size", .int 42)], [], rfl, by decide, rfl⟩, rfl⟩

end Context

end Liquid
