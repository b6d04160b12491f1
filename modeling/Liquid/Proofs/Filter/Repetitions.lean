import Liquid.Environment
import Liquid.Proofs.Value.Sameness
import Mathlib.Data.List.Induction

/-!
# Repetitions

An item is dropped exactly if it repeats one that has been kept before it. So items that are kept differ from all that are kept
behind them, and a second pass finds nothing to drop. Without floats sameness is transitive: an item that repeats a dropped one
repeats the one that was kept in its place, and what is kept is the first of all items that are the same.
-/

namespace Liquid.Filter

variable {items : List Value} {marked front behind : List (Value × Bool)} {item : Value} {isKept : Bool}

/-- The items that are marked as kept. -/
def keptOf (marked : List (Value × Bool)) : List Value := (marked.filter Prod.snd).map Prod.fst

/-- An item is kept exactly if none of those kept before is the same. -/
def DropsRepetitions (marked : List (Value × Bool)) : Prop :=
  ∀ front item isKept behind, marked = front ++ (item, isKept) :: behind →
    (isKept = true ↔ ∀ earlier ∈ keptOf front, earlier.same item = false)

theorem keptOf_append (front behind : List (Value × Bool)) : keptOf (front ++ behind) = keptOf front ++ keptOf behind := by
  rw [keptOf, List.filter_append, List.map_append, keptOf, keptOf]

theorem mem_keptOf : item ∈ keptOf marked ↔ (item, true) ∈ marked := by
  simp [keptOf]

theorem keptOf_sublist (marked : List (Value × Bool)) : (keptOf marked).Sublist (marked.map Prod.fst) :=
  List.filter_sublist.map Prod.fst

theorem uniqueItems_append (items : List Value) (item : Value) :
    uniqueItems (items ++ [item]) =
      if (uniqueItems items).any (·.same item) then uniqueItems items else uniqueItems items ++ [item] := by
  rw [uniqueItems, List.foldl_append]
  rfl

/-! ## The pass -/

theorem DropsRepetitions.of_append (h : DropsRepetitions (front ++ behind)) : DropsRepetitions front := by
  rintro earlier item isKept others rfl
  exact h earlier item isKept (others ++ behind) (List.append_assoc _ _ _)

/-- One step of the pass: the next item is marked by what has been kept. -/
theorem DropsRepetitions.append (h : DropsRepetitions marked)
    (hitem : isKept = true ↔ ∀ earlier ∈ keptOf marked, earlier.same item = false) :
    DropsRepetitions (marked ++ [(item, isKept)]) := by
  intro front other isOther behind hsplit
  obtain rfl | ⟨others, last, rfl⟩ := List.eq_nil_or_concat' behind
  · obtain ⟨rfl, hlast⟩ := List.append_inj' hsplit rfl
    obtain ⟨rfl, rfl⟩ := Prod.mk.inj (List.head_eq_of_cons_eq hlast)
    exact hitem
  · rw [← List.cons_append, ← List.append_assoc] at hsplit
    obtain ⟨hmarked, -⟩ := List.append_inj' hsplit rfl
    exact h front other isOther others hmarked

/-- The pass keeps the items that it marks so. -/
theorem exists_marked (items : List Value) :
    ∃ marked, marked.map Prod.fst = items ∧ keptOf marked = uniqueItems items ∧ DropsRepetitions marked := by
  induction items using List.reverseRecOn with
  | nil => exact ⟨[], rfl, rfl, fun front _ _ _ h ↦ absurd h (by simp)⟩
  | append_singleton items item ih =>
    obtain ⟨marked, hitems, hkept, hdrops⟩ := ih
    rw [uniqueItems_append, ← hkept]
    split
    · next hrepeats =>
      obtain ⟨earlier, hearlier, hsame⟩ := List.any_eq_true.1 hrepeats
      refine ⟨marked ++ [(item, false)], ?_, ?_, hdrops.append ?_⟩
      · rw [List.map_append, hitems, List.map_singleton]
      · rw [keptOf_append]
        exact List.append_nil _
      · exact ⟨nofun, fun hnone ↦ absurd hsame (by rw [hnone earlier hearlier]; exact Bool.false_ne_true)⟩
    · next hnew =>
      refine ⟨marked ++ [(item, true)], ?_, ?_, hdrops.append ?_⟩
      · rw [List.map_append, hitems, List.map_singleton]
      · rw [keptOf_append]
        rfl
      · exact ⟨fun _ earlier hearlier ↦ Bool.eq_false_iff.2 fun hsame ↦
          hnew (List.any_eq_true.2 ⟨earlier, hearlier, hsame⟩), fun _ ↦ rfl⟩

/-- What is kept differs from all that is kept behind it. -/
theorem DropsRepetitions.pairwise (h : DropsRepetitions marked) :
    (keptOf marked).Pairwise fun earlier later ↦ earlier.same later = false := by
  induction marked using List.reverseRecOn with
  | nil => exact .nil
  | append_singleton marked last ih =>
    obtain ⟨item, isKept⟩ := last
    rw [keptOf_append, List.pairwise_append]
    refine ⟨ih h.of_append, ?_, ?_⟩
    · cases isKept
      · exact .nil
      · exact List.pairwise_singleton _ _
    · intro earlier hearlier later hlater
      obtain ⟨rfl, rfl⟩ := Prod.mk.inj (List.mem_singleton.1 (mem_keptOf.1 hlater))
      exact (h marked later true [] rfl).1 rfl earlier hearlier

/-- Where nothing is repeated, nothing is dropped. -/
theorem uniqueItems_eq_self (h : items.Pairwise fun earlier later ↦ earlier.same later = false) :
    uniqueItems items = items := by
  induction items using List.reverseRecOn with
  | nil => rfl
  | append_singleton items item ih =>
    obtain ⟨hitems, -, hlast⟩ := List.pairwise_append.1 h
    have hnew : ¬items.any (·.same item) = true := by
      rw [List.any_eq_true]
      rintro ⟨earlier, hearlier, hsame⟩
      cases hsame.symm.trans (hlast earlier hearlier item List.mem_cons_self)
    rw [uniqueItems_append, ih hitems, if_neg hnew]

/-- An item that is dropped repeats one that is kept before it. -/
theorem DropsRepetitions.exists_same (h : DropsRepetitions (front ++ (item, false) :: behind)) :
    ∃ earlier ∈ keptOf front, earlier.same item = true := by
  by_contra hnone
  refine Bool.false_ne_true ((h front item false behind rfl).2 fun earlier hearlier ↦ ?_)
  exact Bool.eq_false_iff.2 fun hsame ↦ hnone ⟨earlier, hearlier, hsame⟩

/-- Without floats, what is kept is the first of all items that are the same. -/
theorem DropsRepetitions.isKept_iff (h : DropsRepetitions (front ++ (item, isKept) :: behind))
    (hfloat : ∀ earlier ∈ front.map Prod.fst, earlier.FloatFree) :
    isKept = true ↔ ∀ earlier ∈ front.map Prod.fst, earlier.same item = false := by
  rw [h front item isKept behind rfl]
  refine ⟨fun hnew _ hearlier ↦ ?_, fun hnew earlier hearlier ↦ hnew earlier ((keptOf_sublist front).subset hearlier)⟩
  obtain ⟨⟨earlier, isOther⟩, hmem, rfl⟩ := List.mem_map.1 hearlier
  cases isOther with
  | true => exact hnew _ (mem_keptOf.2 hmem)
  | false =>
    -- The item in front was dropped itself. The one that was kept in its place is the same as both.
    obtain ⟨before, between, rfl⟩ := List.append_of_mem hmem
    obtain ⟨first, hfirst, hsame⟩ := h.of_append.exists_same
    have hkept : first ∈ keptOf (before ++ (earlier, false) :: between) := by
      rw [keptOf_append]
      exact List.mem_append_left _ hfirst
    refine Bool.eq_false_iff.2 fun hrepeats ↦ ?_
    have hall := Value.same_trans (hfloat first ((keptOf_sublist _).subset hkept)) (hfloat _ hearlier) hsame hrepeats
    cases hall.symm.trans (hnew first hkept)

/-! ## The filter -/

theorem invoke_onItems (change : List Value → List Value) (name : String) {value : Value} (h : value.items? = some items)
    (drive : Drive) (context : Context) (shared : Shared) :
    (onItems change).invoke name [value] drive context shared = (.ok (.seq (change items)), shared) := by
  have hrun : (onItems change).run (value, ()) = return .seq (change items) := by
    unfold onItems direct atOnce
    simp only [h]
  exact congrArg (fun run : Query Value ↦ Eval.query (invocationError name) run drive context shared) hrun

/-- For every value with items, some of the items are kept, in their order. None of them is the same as one that is kept behind
it, and each item that is dropped repeats one that is kept before it. Without floats, what is kept is the first of all items
that are the same, and nothing else is dropped. What is kept has no repetitions itself. -/
theorem uniq_drops_repetitions {value : Value} {items : List Value} (h : value.items? = some items) :
    (FilterSet.ofList builtins).get? "uniq" = some [onItems uniqueItems] ∧
    ∃ marked, marked.map Prod.fst = items ∧
      (∀ drive context shared,
        (onItems uniqueItems).invoke "uniq" [value] drive context shared = (.ok (.seq (keptOf marked)), shared) ∧
        (onItems uniqueItems).invoke "uniq" [.seq (keptOf marked)] drive context shared =
          (.ok (.seq (keptOf marked)), shared)) ∧
      (keptOf marked).Sublist items ∧ (keptOf marked).Pairwise (fun earlier later ↦ earlier.same later = false) ∧
      ∀ front item isKept behind, marked = front ++ (item, isKept) :: behind →
        (isKept = false → ∃ earlier ∈ keptOf front, earlier.same item = true) ∧
        ((∀ item ∈ items, item.FloatFree) →
          (isKept = true ↔ ∀ earlier ∈ front.map Prod.fst, earlier.same item = false)) := by
  obtain ⟨marked, hitems, hkept, hdrops⟩ := exists_marked items
  refine ⟨rfl, marked, hitems, fun drive context shared ↦ ⟨?_, ?_⟩, hitems ▸ keptOf_sublist marked, hdrops.pairwise, ?_⟩
  · rw [invoke_onItems uniqueItems "uniq" h, hkept]
  · rw [invoke_onItems uniqueItems "uniq" rfl, uniqueItems_eq_self hdrops.pairwise]
  · rintro front item isKept behind rfl
    refine ⟨?_, fun hfloat ↦ hdrops.isKept_iff fun earlier hearlier ↦ hfloat earlier ?_⟩
    · rintro rfl
      exact hdrops.exists_same
    · rw [← hitems, List.map_append]
      exact List.mem_append_left _ hearlier

/-- The second nothing and the second sequence repeat the first ones, although they are written otherwise. -/
theorem uniq_drops_repetitions_alike :
    let items : List Value := [.nil, .seq [.int 1, .nil], .undefined, .seq [.int 1, .undefined]]
    (Value.seq items).items? = some items ∧ (∀ item ∈ items, item.FloatFree) ∧
      ((onItems uniqueItems).invoke "uniq" [.seq items] .blocking (Environment.standard.context .nil) ⟨⟨[], none⟩, 0, 0⟩).1 =
        .ok (.seq [.nil, .seq [.int 1, .nil]]) ∧
      ∃ marked, marked.map Prod.fst = items ∧ keptOf marked = [.nil, .seq [.int 1, .nil]] ∧
        ∀ front item isKept behind, marked = front ++ (item, isKept) :: behind →
          (isKept = true ↔ ∀ earlier ∈ front.map Prod.fst, earlier.same item = false) := by
  intro items
  have hitems : (Value.seq items).items? = some items := rfl
  have hfloat : ∀ item ∈ items, item.FloatFree := by
    have hatom : ∀ atom ∈ [Value.int 1, .nil, .undefined], atom.FloatFree := by
      simp only [List.forall_mem_cons, List.not_mem_nil, false_implies, implies_true, and_true]
      exact ⟨.of_parts_eq_nil rfl rfl, .of_parts_eq_nil rfl rfl, .of_parts_eq_nil rfl rfl⟩
    simp_all [items]
  have hresult : ((onItems uniqueItems).invoke "uniq" [.seq items] .blocking (Environment.standard.context .nil)
      ⟨⟨[], none⟩, 0, 0⟩).1 = .ok (.seq [.nil, .seq [.int 1, .nil]]) := rfl
  obtain ⟨-, marked, hmarked, hinvoke, -, -, hsplit⟩ := uniq_drops_repetitions hitems
  refine ⟨hitems, hfloat, hresult, marked, hmarked, ?_, fun front item isKept behind h ↦ (hsplit front item isKept behind h).2
    hfloat⟩
  rw [(hinvoke _ _ _).1] at hresult
  exact Value.seq.inj (Except.ok.inj hresult)

end Liquid.Filter
