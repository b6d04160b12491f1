import Liquid.Environment
import Liquid.Host.Objects
import Liquid.Proofs.Evaluation.Composition
import Liquid.Proofs.Text.Places
import Liquid.Proofs.Value.Sameness

/-!
# Members under another name

Where the case of the first letter of a name does not matter, a map answers to a name of the other case with the entry that it
has, in paths, in indexes by text and for the render's variables alike. Objects do not take part in the convention: they have
their members under the names that they list and under no others.
-/

namespace Liquid

namespace Naming

/-- The other case of a letter of ASCII. -/
def otherCase (c : Char) : Char := if c.isUpper then c.toLower else c.toUpper

/-- Whether two names differ in the case of their first letter, a letter of ASCII, and in nothing else. -/
def DifferInCase (name other : String) : Prop :=
  ∃ first rest, first.isAlpha = true ∧ name.toList = first :: rest ∧ other.toList = otherCase first :: rest

/-- Letters of ASCII change to letters and back. -/
theorem otherCase_of_isAlpha {c : Char} (h : c.isAlpha = true) :
    otherCase c ≠ c ∧ otherCase (otherCase c) = c ∧ (otherCase c).isAlpha = true := by
  have hall : ∀ code < 128, (Char.ofNat code).isAlpha = true → otherCase (Char.ofNat code) ≠ Char.ofNat code ∧
      otherCase (otherCase (Char.ofNat code)) = Char.ofNat code ∧ (otherCase (Char.ofNat code)).isAlpha = true := by
    decide +kernel
  have hcode := hall c.toNat (Text.toNat_lt_of_isAlpha h)
  rw [Char.ofNat_toNat] at hcode
  exact hcode h

/-- Within ASCII nothing else changes. -/
theorem flipCase_ascii {c : Char} (h : c.toNat < 128) : flipCase c = if c.isAlpha then otherCase c else c := by
  have hall : ∀ code < 128, flipCase (Char.ofNat code) =
      if (Char.ofNat code).isAlpha then otherCase (Char.ofNat code) else Char.ofNat code := by
    decide +kernel
  have hcode := hall c.toNat h
  rwa [Char.ofNat_toNat] at hcode

theorem flipCase_of_isAlpha {c : Char} (h : c.isAlpha = true) : flipCase c = otherCase c := by
  rw [flipCase_ascii (Text.toNat_lt_of_isAlpha h), if_pos h]

variable {name other : String}

/-- What is known under a name is referred to by the name of the other case, -/
theorem DifferInCase.matches (h : DifferInCase name other) : NamingConvention.csharp.matchesName name other = true := by
  obtain ⟨first, rest, hletter, hname, hother⟩ := h
  have hne : first ≠ otherCase first := (otherCase_of_isAlpha hletter).1.symm
  have hdiffer : differInFirstCase name other = true := by
    rw [differInFirstCase, hname, hother]
    simp [flipCase_of_isAlpha hletter, hne]
  rw [NamingConvention.matchesName, hdiffer, Bool.or_true]

/-- and nothing else is that is known under another name, unless that begins with a character beyond ASCII. -/
theorem DifferInCase.eq_of_matches (h : DifferInCase name other) {key : String}
    (hascii : ∀ c ∈ key.toList.head?, c.toNat < 128) (hkey : key ≠ other)
    (hmatches : NamingConvention.csharp.matchesName key other = true) : key = name := by
  obtain ⟨first, rest, hletter, hname, hother⟩ := h
  obtain ⟨-, hback, hother'⟩ := otherCase_of_isAlpha hletter
  rw [NamingConvention.matchesName, beq_eq_false_iff_ne.2 hkey, Bool.false_or, differInFirstCase, hother] at hmatches
  cases hlist : key.toList with
  | nil =>
    rw [hlist] at hmatches
    cases hmatches
  | cons c others =>
    rw [hlist] at hmatches hascii
    simp only [Bool.and_eq_true, bne_iff_ne, beq_iff_eq] at hmatches
    obtain ⟨⟨-, hcase⟩, rfl⟩ := hmatches
    have hcletter : c.isAlpha = true := by
      by_contra hother
      rw [flipCase_ascii (hascii c rfl), if_neg hother] at hcase
      exact hother (hcase ▸ hother')
    rw [flipCase_of_isAlpha hcletter] at hcase
    have hsame : c = first := by rw [← (otherCase_of_isAlpha hcletter).2.1, hcase, hback]
    rw [← String.toList_inj, hlist, hname, hsame]

end Naming

/-! ## Members of maps and objects -/

theorem Entries.find?_ne_none_of_mem {κ α : Type} [DecidableEq κ] {entries : Entries κ α} {entry : κ × α}
    (h : entry ∈ entries) : Entries.find? entry.1 entries ≠ none := by
  induction entries with
  | nil => cases h
  | cons first rest ih =>
    rw [Entries.find?]
    split
    · exact Option.some_ne_none _
    · next hkey =>
      obtain rfl | hrest := List.mem_cons.1 h
      · exact absurd rfl hkey
      · exact ih hrest

namespace Value

variable {entries : Entries String Value} {name other : String} {value : Value}

/-- A map answers to a name that it does not have with the entry of the only key that matches the name. -/
theorem mapMember?_of_matches {naming : NamingConvention} (hname : Entries.find? name entries = some value)
    (hother : Entries.find? other entries = none) (hmatches : naming.matchesName name other = true)
    (hunique : ∀ entry ∈ entries, naming.matchesName entry.1 other = true → entry.1 = name) :
    mapMember? naming entries other = some value := by
  have hfound : List.find? (fun entry ↦ naming.matchesName entry.1 other) entries = some (name, value) := by
    clear hother
    induction entries with
    | nil => cases hname
    | cons entry rest ih =>
      obtain ⟨key, kept⟩ := entry
      rw [List.forall_mem_cons] at hunique
      rw [Entries.find?] at hname
      by_cases hkey : key = name
      · rw [if_pos hkey] at hname
        rw [List.find?_cons_of_pos (by rw [hkey]; exact hmatches), hkey, Option.some.inj hname]
      · rw [if_neg hkey] at hname
        rw [List.find?_cons_of_neg (by simpa using fun h ↦ hkey (hunique.1 h))]
        exact ih hname hunique.2
  rw [mapMember?, hother, hfound]
  rfl

/-- Of a name that no key matches a map has only the size. -/
theorem mapMember?_of_unmatched {naming : NamingConvention}
    (h : ∀ entry ∈ entries, naming.matchesName entry.1 name = false) (hsize : name ≠ "size") :
    mapMember? naming entries name = none := by
  have hfind : Entries.find? name entries = none := by
    by_contra hfound
    obtain ⟨value, hvalue⟩ := Option.ne_none_iff_exists'.1 hfound
    have hself := h _ (Entries.mem_of_find? hvalue)
    simp [NamingConvention.matchesName] at hself
  have hmatching : List.find? (fun entry ↦ naming.matchesName entry.1 name) entries = none := by
    simpa using h
  rw [mapMember?, hfind, hmatching, if_neg (by simpa using hsize)]
  rfl

theorem mapMember?_of_find? {naming : NamingConvention} (hname : Entries.find? name entries = some value) :
    mapMember? naming entries name = some value := by
  rw [mapMember?, hname]
  rfl

/-- Sizes, first and last items are all that values have by their structure. -/
theorem structuralMember?_eq_none (h : name ∉ ["size", "first", "last"]) (value : Value) :
    value.structuralMember? name = none := by
  simp only [List.mem_cons, List.not_mem_nil, or_false, not_or] at h
  obtain ⟨hsize, hfirst, hlast⟩ := h
  simp [structuralMember?, hsize, hfirst, hlast]

end Value

namespace Context

variable {context : Context} {current : Option Value} {value : Value} {name other : String}

/-- What a name stands for behind a value, or at the beginning of a path. -/
def next? (context : Context) (current : Option Value) (name : String) : StateM Tallies (Option Value) :=
  match current with
  | some value => context.member? value name
  | none => context.lookup name

/-- Whether two names lead to the same from a place in a path, both as steps and as texts of indexes. -/
structure SameStep (context : Context) (current : Option Value) (name other : String) : Prop where
  step : ∀ tools path rest drive shared,
    evalPath tools path current (.member name :: rest) drive context shared =
      evalPath tools path current (.member other :: rest) drive context shared
  index : ∀ tools path key otherKey rest drive shared after,
    Expr.eval tools key drive context shared = (.ok (.string name), after) →
      Expr.eval tools otherKey drive context shared = (.ok (.string other), after) →
        evalPath tools path current (.index key :: rest) drive context shared =
          evalPath tools path current (.index otherKey :: rest) drive context shared

theorem run_evalPath_member (tools : Toolbox) (path : String) (rest : List Segment) (drive : Drive) (shared : Shared) :
    evalPath tools path current (.member name :: rest) drive context shared =
      (Eval.counting (fun context ↦ context.next? current name) >>= fun next? ↦
        match next? with
        | some value => evalPath tools path (some value) rest
        | none => missingPath path) drive context shared := by
  rw [evalPath]
  rfl

theorem run_evalPath_index {tools : Toolbox} {key : Expr} {drive : Drive} {shared after : Shared}
    (hkey : Expr.eval tools key drive context shared = (.ok (.string name), after)) (path : String) (rest : List Segment) :
    evalPath tools path current (.index key :: rest) drive context shared =
      (Eval.counting (fun context ↦ context.next? current name) >>= fun next? ↦
        match next? with
        | some value => evalPath tools path (some value) rest
        | none => missingPath path) drive context after := by
  rw [evalPath, Eval.run_bind, hkey]
  cases current <;> rfl

/-- Names that stand for the same lead to the same. -/
theorem sameStep_of_next?_eq (h : context.next? current name = context.next? current other) :
    SameStep context current name other where
  step tools path rest drive shared := by
    rw [run_evalPath_member, run_evalPath_member, Eval.run_bind, Eval.run_bind, Eval.run_counting, Eval.run_counting, h]
  index tools path key otherKey rest drive shared after hkey hother := by
    rw [run_evalPath_index hkey, run_evalPath_index hother, Eval.run_bind, Eval.run_bind, Eval.run_counting,
      Eval.run_counting, h]

/-- Whether neither a scope nor an assigned variable has a name. -/
def IsInput (context : Context) (name : String) : Prop :=
  context.scopes.find? name = none ∧ Entries.find? name context.assigned = none

/-- What no scope and no assigned variable has is looked for among the render's variables. -/
theorem lookup_of_isInput (hname : context.IsInput name)
    (hmember : context.member? context.inputs name = pure (some value)) : context.lookup name = pure (some value) := by
  rw [lookup, variableWith, hname.1, hname.2, hmember]
  rfl

theorem member?_map (context : Context) (entries : Entries String Value) (name : String) :
    context.member? (.map entries) name = pure (Value.mapMember? context.naming entries name) := rfl

/-- An object has its members under the names that it lists; under other names it has the members of its structure. -/
theorem member?_host {members : Entries String Member} (hnone : Entries.find? name members = none) (context : Context)
    (id : Nat) (text : String) (truthy : Bool) (items : Option (List Value)) :
    context.member? (.object id (.host text truthy members items)) name =
      pure ((Value.object id (.host text truthy members items)).structuralMember? name) := by
  rw [member?, Value.member?, Object.member?]
  simp only [hnone]
  rfl

/-- A member that an object lists is there, whatever has been counted. -/
theorem member?_host_ne_none {members : Entries String Member} (hsome : Entries.find? name members ≠ none)
    (context : Context) (id : Nat) (text : String) (truthy : Bool) (items : Option (List Value)) (tallies : Tallies) :
    (context.member? (.object id (.host text truthy members items)) name tallies).1 ≠ none := by
  obtain ⟨member, hmember⟩ := Option.ne_none_iff_exists'.1 hsome
  rw [member?, Value.member?, Object.member?]
  simp only [hmember]
  exact Option.some_ne_none _

/-- Where the case of the first letter does not matter, a map that has an entry of one name and none of the name of the other case
gives that entry under both names, as a step of a path, as an index and, if it holds the render's variables, as a variable, as
long as no other key matches the name. Keys that begin with characters of ASCII never do. Nothing but entries is found in this
way: a map has its size, and an object of the host its members and those of its structure, under their own names only. -/
theorem members_by_case (hnaming : context.naming = .csharp) (hcase : Naming.DifferInCase name other) :
    (∀ entries value, Entries.find? name entries = some value → Entries.find? other entries = none →
      (∀ entry ∈ entries, NamingConvention.csharp.matchesName entry.1 other = true → entry.1 = name) →
      context.member? (.map entries) other = pure (some value) ∧
      context.item? (.map entries) (.string other) = pure (some value) ∧
      SameStep context (some (.map entries)) other name ∧
      (context.inputs = .map entries → context.IsInput name → context.IsInput other →
        context.lookup other = pure (some value) ∧ SameStep context none other name)) ∧
    (∀ entries : Entries String Value, (∀ entry ∈ entries, ∀ c ∈ entry.1.toList.head?, c.toNat < 128) →
      Entries.find? other entries = none →
      ∀ entry ∈ entries, NamingConvention.csharp.matchesName entry.1 other = true → entry.1 = name) ∧
    (∀ entries : Entries String Value,
      (∀ entry ∈ entries, NamingConvention.csharp.matchesName entry.1 other = false) → other ≠ "size" →
      context.member? (.map entries) other = pure none) ∧
    ∀ id text truthy (members : Entries String Member) items, Entries.find? name members ≠ none →
      Entries.find? other members = none → other ∉ ["size", "first", "last"] → ∀ tallies,
        (context.member? (.object id (.host text truthy members items)) name tallies).1 ≠ none ∧
        (context.member? (.object id (.host text truthy members items)) other tallies).1 = none := by
  refine ⟨fun entries value hname hother hunique ↦ ?_, fun entries hascii hother entry hentry hmatches ↦ ?_,
    fun entries hunmatched hsize ↦ ?_, fun id text truthy members items hname hother hstructure tallies ↦ ⟨?_, ?_⟩⟩
  · have hmember : context.member? (.map entries) name = pure (some value) := by
      rw [member?_map, Value.mapMember?_of_find? hname]
    have hfound : context.member? (.map entries) other = pure (some value) := by
      rw [member?_map, hnaming, Value.mapMember?_of_matches hname hother hcase.matches hunique]
    refine ⟨hfound, hfound, sameStep_of_next?_eq (hfound.trans hmember.symm), fun hinputs hbound hunbound ↦ ?_⟩
    have hlookup : context.lookup other = pure (some value) := lookup_of_isInput hunbound (by rw [hinputs, hfound])
    have hlookup' : context.lookup name = pure (some value) := lookup_of_isInput hbound (by rw [hinputs, hmember])
    exact ⟨hlookup, sameStep_of_next?_eq (hlookup.trans hlookup'.symm)⟩
  · have hkey : entry.1 ≠ other := by
      rintro rfl
      exact Entries.find?_ne_none_of_mem hentry hother
    exact hcase.eq_of_matches (hascii entry hentry) hkey hmatches
  · rw [member?_map, hnaming, Value.mapMember?_of_unmatched hunmatched hsize]
  · exact member?_host_ne_none hname context id text truthy items tallies
  · rw [member?_host hother, Value.structuralMember?_eq_none hstructure]
    rfl

/-- A context in which the case of the first letter of a name does not matter. -/
def caselessContext : Context :=
  { Environment.standard.context (.map [("Name", .string "Ann"), ("age", .int 7)]) with naming := .csharp }

theorem members_by_case_named :
    Naming.DifferInCase "Name" "name" ∧ caselessContext.lookup "name" = pure (some (.string "Ann")) ∧
      SameStep caselessContext none "name" "Name" ∧
      (caselessContext.member? (.object 0 (.host "$4.50" true [("cents", .constant (.int 450))] none)) "Cents" []).1 =
        none := by
  have hcase : Naming.DifferInCase "Name" "name" := ⟨'N', _, rfl, rfl, rfl⟩
  have hcents : Naming.DifferInCase "cents" "Cents" := ⟨'c', _, rfl, rfl, rfl⟩
  have hnaming : caselessContext.naming = .csharp := rfl
  have hname := members_by_case hnaming hcase
  have hascii : ∀ entry ∈ [("Name", Value.string "Ann"), ("age", .int 7)], ∀ c ∈ entry.1.toList.head?, c.toNat < 128 := by
    simp only [List.forall_mem_cons]
    refine ⟨?_, ?_, List.forall_mem_nil _⟩ <;> rintro _ ⟨⟩ <;> decide
  have hunique := hname.2.1 _ hascii rfl
  obtain ⟨-, -, -, hinput⟩ := hname.1 _ (.string "Ann") rfl rfl hunique
  obtain ⟨hlookup, hstep⟩ := hinput rfl ⟨rfl, rfl⟩ ⟨rfl, rfl⟩
  have hprice := (members_by_case hnaming hcents).2.2.2 0 "$4.50" true
    [("cents", .constant (.int 450))] none (Option.some_ne_none _) rfl (by decide) []
  exact ⟨hcase, hlookup, hstep, hprice.2⟩

/-- An amount of money has no member `Cents`, and a key that begins with a letter beyond ASCII takes the place of one that
differs in case only. -/
theorem member_ne_by_case :
    Naming.DifferInCase "cents" "Cents" ∧
      (caselessContext.member? (.object 0 (Host.money 450)) "cents" []).1 = some (.int 450) ∧
      (caselessContext.member? (.object 0 (Host.money 450)) "Cents" []).1 = none ∧
    Naming.DifferInCase "sa" "Sa" ∧
      let entries : Entries String Value := [("\u00dfa", .int 1), ("sa", .int 2)]
      (caselessContext.member? (.map entries) "sa" []).1 = some (.int 2) ∧
      (caselessContext.member? (.map entries) "Sa" []).1 = some (.int 1) := by
  refine ⟨⟨'c', _, rfl, rfl, rfl⟩, rfl, rfl, ⟨'s', _, rfl, rfl, rfl⟩, rfl, rfl⟩

end Context

end Liquid
