import Liquid.Proofs.Value.Order
import Mathlib.Data.List.Perm.Subperm

/-!
# Sameness is an equivalence

Values are the same if they have the same structure. For values without floats this is an equivalence: it does not matter in
which order the entries of maps were put, nothing is the same as what a lookup that misses gives, and an object is the same as
itself alone. A map has each key once, and so the test whether all entries of one map are in another one of the same length
answers for both directions. The wider equality of conditions has no direction either.
-/

namespace Liquid

/-! ## Entries with distinct keys -/

namespace Entries

variable {α : Type} {entries others : Entries String α} {key : String} {value : α}

theorem mem_of_find? (h : find? key entries = some value) : (key, value) ∈ entries := by
  induction entries with
  | nil => cases h
  | cons entry rest ih =>
    obtain ⟨other, found⟩ := entry
    rw [find?] at h
    split at h
    · next hkey =>
      obtain rfl := Option.some.inj h
      rw [hkey]
      exact List.mem_cons_self
    · exact List.mem_cons_of_mem _ (ih h)

/-- Where each key occurs once, a search finds every entry. -/
theorem find?_of_mem (hkeys : (entries.map Prod.fst).Nodup) (h : (key, value) ∈ entries) :
    find? key entries = some value := by
  induction entries with
  | nil => cases h
  | cons entry rest ih =>
    rw [List.map_cons, List.nodup_cons] at hkeys
    obtain heq | hrest := List.mem_cons.1 h
    · rw [← heq]
      exact if_pos rfl
    · have hne : entry.1 ≠ key := fun heq ↦ hkeys.1 (heq ▸ List.mem_map_of_mem hrest)
      exact (if_neg hne).trans (ih hkeys.2 hrest)

/-- Entries with distinct keys that are all among those of as many others have all keys of the others. -/
theorem keys_perm (hkeys : (entries.map Prod.fst).Nodup) (hlength : entries.length = others.length)
    (h : ∀ entry ∈ entries, ∃ other, find? entry.1 others = some other) :
    (entries.map Prod.fst).Perm (others.map Prod.fst) := by
  have hsubset : entries.map Prod.fst ⊆ others.map Prod.fst := by
    intro key hkey
    obtain ⟨entry, hentry, rfl⟩ := List.mem_map.1 hkey
    obtain ⟨other, hfound⟩ := h entry hentry
    exact List.mem_map.2 ⟨(entry.1, other), mem_of_find? hfound, rfl⟩
  have hle : (others.map Prod.fst).length ≤ (entries.map Prod.fst).length :=
    Nat.le_of_eq (by rw [List.length_map, List.length_map, hlength])
  exact (hkeys.subperm hsubset).perm_of_length_le hle

/-- A map never gets a key twice. -/
theorem nodup_keys_put (h : (entries.map Prod.fst).Nodup) (key : String) (value : α) :
    ((put key value entries).map Prod.fst).Nodup := by
  rw [keys_put]
  split
  · exact h
  · next hnew =>
    refine List.nodup_append.2 ⟨h, List.pairwise_singleton _ key, ?_⟩
    rintro other hmem _ hkey rfl
    obtain rfl := List.mem_singleton.1 hkey
    refine hnew ?_
    obtain ⟨entry, hentry, rfl⟩ := List.mem_map.1 hmem
    rw [contains, find?_of_mem h hentry]
    rfl

theorem nodup_keys_ofList (list : List (String × α)) : ((ofList list).map Prod.fst).Nodup := by
  have hputs (entries : Entries String α) (h : (entries.map Prod.fst).Nodup) :
      ((putAll entries list).map Prod.fst).Nodup := by
    induction list generalizing entries with
    | nil => exact h
    | cons entry rest ih => exact ih _ (nodup_keys_put h entry.1 entry.2)
  exact hputs [] List.nodup_nil

end Entries

namespace Value

/-- The values that a value consists of. What an object shows is not a part of it. -/
def parts : Value → List Value
  | seq items => items
  | map entries => entries.map Prod.snd
  | _ => []

/-- Whether a property holds of a value, of its parts, of their parts and so on. -/
inductive Everywhere (holds : Value → Prop) : Value → Prop where
  | intro {a : Value} (h : holds a) (hparts : ∀ part ∈ a.parts, Everywhere holds part) : Everywhere holds a

/-- Values without floats at any depth. -/
def FloatFree : Value → Prop := Everywhere fun a ↦ a.isFloat = false

/-- Values whose maps, at any depth, have each key once. -/
def DistinctKeys : Value → Prop := Everywhere fun a ↦ ((a.entries?.getD []).map Prod.fst).Nodup

/-- When two values are the same. -/
inductive Same : Value → Value → Prop where
  | nothing {a b : Value} (ha : a.isNil = true) (hb : b.isNil = true) : Same a b
  | empty : Same empty empty
  | blank : Same blank blank
  | bool (value : Bool) : Same (bool value) (bool value)
  | number {a b : Value} {x y : Number} (ha : a.number? = some x) (hb : b.number? = some y) (h : x.equal y = true) : Same a b
  | string (text : String) : Same (string text) (string text)
  | seq {items others : List Value} (h : List.Forall₂ (fun item other ↦ item.same other = true) items others) :
    Same (seq items) (seq others)
  | map {entries others : List (String × Value)} (hlength : entries.length = others.length)
    (h : ∀ entry ∈ entries, ∃ other, Entries.find? entry.1 others = some other ∧ entry.2.same other = true) :
    Same (map entries) (map others)
  | range (first last : Int64) : Same (range first last) (range first last)
  | moment {s t : Calendar.Moment} (hsecond : s.seconds = t.seconds) (hnanosecond : s.nanosecond = t.nanosecond) :
    Same (moment s) (moment t)
  | object (id : Nat) (shown other : Object) : Same (object id shown) (object id other)

theorem sameItems_iff {items others : List Value} :
    sameItems items others = true ↔ List.Forall₂ (fun item other ↦ item.same other = true) items others := by
  induction items generalizing others with
  | nil => cases others <;> simp [sameItems]
  | cons item rest ih => cases others <;> simp [sameItems, ih]

theorem sameEntries_iff {entries others : List (String × Value)} :
    sameEntries entries others = true ↔
      ∀ entry ∈ entries, ∃ other, Entries.find? entry.1 others = some other ∧ entry.2.same other = true := by
  induction entries with
  | nil => simp [sameEntries]
  | cons entry rest ih =>
    rw [sameEntries, Bool.and_eq_true, ih, List.forall_mem_cons]
    cases Entries.find? entry.1 others <;> simp

theorem same_iff {a b : Value} : a.same b = true ↔ Same a b := by
  constructor
  · intro h
    unfold same at h
    split at h
    · exact .nothing rfl h
    · exact .nothing rfl h
    · exact .empty
    · exact .blank
    · obtain rfl := eq_of_beq h
      exact .bool _
    · obtain rfl := eq_of_beq h
      exact .string _
    · exact .seq (sameItems_iff.1 h)
    · rw [Bool.and_eq_true] at h
      exact .map (eq_of_beq h.1) (sameEntries_iff.1 h.2)
    · rw [Bool.and_eq_true] at h
      obtain rfl := eq_of_beq h.1
      obtain rfl := eq_of_beq h.2
      exact .range _ _
    · rw [Calendar.Moment.sameInstant, Bool.and_eq_true, beq_iff_eq, beq_iff_eq] at h
      exact .moment h.1 h.2
    · obtain rfl := eq_of_beq h
      exact .object _ _ _
    · exact .number rfl rfl h
    · exact .number rfl rfl h
    · exact .number rfl rfl h
    · exact .number rfl rfl h
    · cases h
  · intro h
    cases h with
    | nothing ha hb =>
      cases a with
      | undefined | nil => exact hb
      | _ => cases ha
    | empty | blank => rfl
    | bool | string | object => exact beq_self_eq_true _
    | @number a b x y ha hb h =>
      obtain rfl := eq_toValue_of_number? ha
      obtain rfl := eq_toValue_of_number? hb
      cases x <;> cases y <;> exact h
    | seq h => exact sameItems_iff.2 h
    | map hlength h =>
      exact Bool.and_eq_true_iff.2 ⟨beq_iff_eq.2 hlength, sameEntries_iff.2 h⟩
    | range => simp [same]
    | moment hsecond hnanosecond => exact Bool.and_eq_true_iff.2 ⟨beq_iff_eq.2 hsecond, beq_iff_eq.2 hnanosecond⟩

/-! ## An equivalence -/

theorem Everywhere.part {holds : Value → Prop} {a part : Value} (h : a.Everywhere holds) (hpart : part ∈ a.parts) :
    part.Everywhere holds := by
  cases h with
  | intro _ hparts => exact hparts part hpart

theorem Everywhere.here {holds : Value → Prop} {a : Value} (h : a.Everywhere holds) : holds a := by
  cases h with
  | intro h _ => exact h

/-- A property holds everywhere in a value without parts if it holds of it. -/
theorem Everywhere.of_parts_eq_nil {holds : Value → Prop} {a : Value} (h : holds a) (hparts : a.parts = []) :
    a.Everywhere holds :=
  .intro h (by rw [hparts]; exact List.forall_mem_nil _)

@[simp] theorem floatFree_seq {items : List Value} : (seq items).FloatFree ↔ ∀ item ∈ items, item.FloatFree :=
  ⟨fun h _ ↦ h.part, fun h ↦ .intro rfl h⟩

@[simp] theorem floatFree_map {entries : List (String × Value)} :
    (map entries).FloatFree ↔ ∀ entry ∈ entries, entry.2.FloatFree :=
  ⟨fun h _ hentry ↦ h.part (List.mem_map_of_mem hentry), fun h ↦ .intro rfl (List.forall_mem_map.2 h)⟩

@[simp] theorem distinctKeys_seq {items : List Value} :
    (seq items).DistinctKeys ↔ ∀ item ∈ items, item.DistinctKeys :=
  ⟨fun h _ ↦ h.part, fun h ↦ .intro List.nodup_nil h⟩

@[simp] theorem distinctKeys_map {entries : List (String × Value)} :
    (map entries).DistinctKeys ↔ (entries.map Prod.fst).Nodup ∧ ∀ entry ∈ entries, entry.2.DistinctKeys :=
  ⟨fun h ↦ ⟨h.here, fun _ hentry ↦ h.part (List.mem_map_of_mem hentry)⟩,
    fun h ↦ .intro h.1 (List.forall_mem_map.2 h.2)⟩

/-- Without floats a value is the same as itself. -/
theorem same_refl {a : Value} (hfloat : a.FloatFree) (hkeys : a.DistinctKeys) : a.same a = true := by
  induction hfloat with
  | @intro a hfloat _ ih =>
    cases a with
    | undefined | nil | empty | blank => rfl
    | bool | int | string | object => exact beq_self_eq_true _
    | float => cases hfloat
    | seq items =>
      exact same_iff.2 (.seq (List.forall₂_same.2 fun item hitem ↦ ih item hitem (hkeys.part hitem)))
    | map entries =>
      refine same_iff.2 (.map rfl fun entry hentry ↦ ⟨entry.2, Entries.find?_of_mem hkeys.here hentry, ?_⟩)
      have hpart : entry.2 ∈ (map entries).parts := List.mem_map_of_mem hentry
      exact ih entry.2 hpart (hkeys.part hpart)
    | range => exact same_iff.2 (.range _ _)
    | moment => exact same_iff.2 (.moment rfl rfl)

/-- The order of its entries does not matter to a map. -/
theorem same_map_of_perm {entries others : List (String × Value)} (hfloat : (map entries).FloatFree)
    (hkeys : (map entries).DistinctKeys) (hperm : entries.Perm others) : (map entries).same (map others) = true := by
  have hothers : (others.map Prod.fst).Nodup := (hperm.map Prod.fst).nodup_iff.1 hkeys.here
  refine same_iff.2 (.map hperm.length_eq fun entry hentry ↦ ⟨entry.2, ?_, ?_⟩)
  · exact Entries.find?_of_mem hothers (hperm.mem_iff.1 hentry)
  · have hpart : entry.2 ∈ (map entries).parts := List.mem_map_of_mem hentry
    exact same_refl (hfloat.part hpart) (hkeys.part hpart)

/-- Where related items are related the other way round, so are the lists. -/
theorem forall₂_flip {R S : Value → Value → Prop} {items others : List Value} (h : List.Forall₂ R items others)
    (hflip : ∀ item ∈ items, ∀ other ∈ others, R item other → S other item) : List.Forall₂ S others items := by
  induction h with
  | nil => exact .nil
  | cons hhead _ ih =>
    exact .cons (hflip _ List.mem_cons_self _ List.mem_cons_self hhead) (ih fun item hitem other hother ↦
      hflip item (List.mem_cons_of_mem _ hitem) other (List.mem_cons_of_mem _ hother))

theorem same_symm {a b : Value} (ha : a.DistinctKeys) (hb : b.DistinctKeys) (h : a.same b = true) :
    b.same a = true := by
  induction ha generalizing b with
  | @intro a hkeys _ ih =>
    cases same_iff.1 h with
    | nothing hnil hnil' => exact same_iff.2 (.nothing hnil' hnil)
    | empty | blank => rfl
    | bool | string => exact h
    | number hx hy hequal => exact same_iff.2 (.number hy hx (by rwa [Number.equal_comm]))
    | seq hitems =>
      exact same_iff.2 (.seq (forall₂_flip hitems fun item hitem other hother ↦ ih item hitem (hb.part hother)))
    | @map entries others hlength hentries =>
      -- All keys of the first map are keys of the second one. As both have as many, the second one has no others.
      have hperm := Entries.keys_perm hkeys hlength fun entry hentry ↦ (hentries entry hentry).imp fun _ h ↦ h.1
      refine same_iff.2 (.map hlength.symm fun other hother ↦ ?_)
      obtain ⟨entry, hentry, hkey⟩ := List.mem_map.1 (hperm.mem_iff.2 (List.mem_map_of_mem hother))
      obtain ⟨found, hfound, hsame⟩ := hentries entry hentry
      obtain rfl : other.2 = found := by
        rw [hkey] at hfound
        exact Option.some.inj ((Entries.find?_of_mem hb.here hother).symm.trans hfound)
      refine ⟨entry.2, ?_, ih entry.2 (List.mem_map_of_mem hentry) (hb.part (List.mem_map_of_mem hother)) hsame⟩
      rw [← hkey]
      exact Entries.find?_of_mem hkeys hentry
    | range => exact h
    | moment hsecond hnanosecond => exact same_iff.2 (.moment hsecond.symm hnanosecond.symm)
    | object id => exact beq_self_eq_true id

/-- Equality of items passes on from one list over a second one to a third one. -/
theorem forall₂_trans {R S T : Value → Value → Prop} {items others thirds : List Value} (h : List.Forall₂ R items others)
    (h' : List.Forall₂ S others thirds)
    (htrans : ∀ item ∈ items, ∀ other ∈ others, ∀ third, R item other → S other third → T item third) :
    List.Forall₂ T items thirds := by
  induction h generalizing thirds with
  | nil =>
    cases h'
    exact .nil
  | cons hhead _ ih =>
    cases h' with
    | cons hhead' htail' =>
      exact .cons (htrans _ List.mem_cons_self _ List.mem_cons_self _ hhead hhead') (ih htail'
        fun item hitem other hother ↦ htrans item (List.mem_cons_of_mem _ hitem) other (List.mem_cons_of_mem _ hother))

theorem same_trans {a b c : Value} (ha : a.FloatFree) (hb : b.FloatFree) (hab : a.same b = true)
    (hbc : b.same c = true) : a.same c = true := by
  induction ha generalizing b c with
  | @intro a hfloat _ ih =>
    cases same_iff.1 hab with
    | nothing hnil hnil' =>
      cases b with
      | undefined | nil => exact same_iff.2 (.nothing hnil hbc)
      | _ => cases hnil'
    | empty | blank | bool | string | range => exact hbc
    | @number _ _ x y hx hy hequal =>
      -- Equality of floats and integers is not transitive: two integers may be equal to the same float.
      obtain rfl := eq_toValue_of_number? hx
      obtain rfl := eq_toValue_of_number? hy
      obtain ⟨i, rfl⟩ := exists_int_of_isFloat hfloat
      obtain ⟨j, rfl⟩ := exists_int_of_isFloat hb.here
      obtain rfl : i = j := eq_of_beq hequal
      exact hbc
    | seq hitems =>
      cases same_iff.1 hbc with
      | nothing hnil => cases hnil
      | number hnumber => cases hnumber
      | seq hothers =>
        exact same_iff.2 (.seq (forall₂_trans hitems hothers fun item hitem other hother third ↦
          ih item hitem (hb.part hother)))
    | @map entries others hlength hentries =>
      cases same_iff.1 hbc with
      | nothing hnil => cases hnil
      | number hnumber => cases hnumber
      | map hlength' hothers =>
        refine same_iff.2 (.map (hlength.trans hlength') fun entry hentry ↦ ?_)
        obtain ⟨other, hother, hsame⟩ := hentries entry hentry
        have hmem := Entries.mem_of_find? hother
        obtain ⟨third, hthird, hsame'⟩ := hothers (entry.1, other) hmem
        exact ⟨third, hthird,
          ih entry.2 (List.mem_map_of_mem hentry) (hb.part (List.mem_map_of_mem hmem)) hsame hsame'⟩
    | moment hsecond hnanosecond =>
      cases same_iff.1 hbc with
      | nothing hnil => cases hnil
      | number hnumber => cases hnumber
      | moment hsecond' hnanosecond' =>
        exact same_iff.2 (.moment (hsecond.trans hsecond') (hnanosecond.trans hnanosecond'))
    | object id =>
      cases same_iff.1 hbc with
      | nothing hnil => cases hnil
      | number hnumber => cases hnumber
      | object => exact beq_self_eq_true id

/-- Equality in conditions has no direction: neither the keywords nor texts that write numbers have a side. -/
theorem looselyEqual_comm {a b : Value} (ha : a.DistinctKeys) (hb : b.DistinctKeys) (level : SyntaxLevel) :
    a.looselyEqual level b = b.looselyEqual level a := by
  have hsame : a.same b = b.same a := Bool.eq_iff_iff.2 ⟨same_symm ha hb, same_symm hb ha⟩
  cases a with
  | empty | blank => cases b <;> rfl
  | string =>
    cases b with
    | empty | blank | int | float => rfl
    | _ => exact hsame
  | int | float =>
    cases b with
    | empty | blank | string => rfl
    | _ => exact hsame
  | _ =>
    cases b with
    | empty | blank => rfl
    | _ => exact hsame

/-- Sameness is an equivalence on the values without floats whose maps have each key once, as every map has, and maps that have
the same entries in any order are the same. Equality in conditions has no direction there, at any level. -/
theorem same_equivalence (a b c : Value) (ha : a.FloatFree) (hb : b.FloatFree) (hka : a.DistinctKeys)
    (hkb : b.DistinctKeys) :
    a.same a = true ∧ (a.same b = true → b.same a = true) ∧
      (a.same b = true → b.same c = true → a.same c = true) ∧
      (∀ entries others, a = map entries → entries.Perm others → a.same (map others) = true) ∧
      ∀ level, a.looselyEqual level b = b.looselyEqual level a := by
  refine ⟨same_refl ha hka, same_symm hka hkb, same_trans ha hb, ?_, looselyEqual_comm hka hkb⟩
  rintro entries others rfl hperm
  exact same_map_of_perm ha hka hperm

/-- Two maps with the same entries in another order, in which nothing stands for what a lookup missed. -/
theorem same_equivalence_reordered :
    let a := map [("x", seq [int 1, nil]), ("y", range 1 3)]
    let b := map [("y", range 1 3), ("x", seq [int 1, undefined])]
    a.FloatFree ∧ b.FloatFree ∧ a.DistinctKeys ∧ b.DistinctKeys ∧ a.same b = true ∧ b.same a = true ∧
      a.looselyEqual .liquid20 b = b.looselyEqual .liquid20 a := by
  intro a b
  have hfloat : ∀ atom ∈ [int 1, nil, undefined, range 1 3], atom.FloatFree := by
    simp only [List.forall_mem_cons, List.not_mem_nil, false_implies, implies_true, and_true]
    exact ⟨.of_parts_eq_nil rfl rfl, .of_parts_eq_nil rfl rfl, .of_parts_eq_nil rfl rfl, .of_parts_eq_nil rfl rfl⟩
  have hkeys : ∀ atom ∈ [int 1, nil, undefined, range 1 3], atom.DistinctKeys := by
    simp only [List.forall_mem_cons, List.not_mem_nil, false_implies, implies_true, and_true]
    have hnil : (([] : List (String × Value)).map Prod.fst).Nodup := List.nodup_nil
    exact ⟨.of_parts_eq_nil hnil rfl, .of_parts_eq_nil hnil rfl, .of_parts_eq_nil hnil rfl, .of_parts_eq_nil hnil rfl⟩
  have ha : a.FloatFree := by simp_all [a]
  have hb : b.FloatFree := by simp_all [b]
  have hka : a.DistinctKeys := by simp_all [a]
  have hkb : b.DistinctKeys := by simp_all [b]
  have hab : a.same b = true := by decide
  have h := same_equivalence a b b ha hb hka hkb
  exact ⟨ha, hb, hka, hkb, hab, h.2.1 hab, h.2.2.2.2 .liquid20⟩

end Value

end Liquid
