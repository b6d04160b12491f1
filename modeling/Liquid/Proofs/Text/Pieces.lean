import Liquid.Text.Search
import Mathlib.Data.List.DropRight
import Mathlib.Data.List.Infix

/-!
# The pieces of a text

The pieces of a text between the occurrences of a pattern do not contain the pattern, and joined with the pattern they are the
text again. Empty pieces at the end stand for occurrences at the end. Replacing passes the text once from the left: where the
pattern stands it goes on behind it, and else behind the next character.
-/

namespace Liquid.Text

variable {pattern text before after : List Char}

/-! ## Occurrences -/

theorem isPrefixOf?_eq_none_iff : pattern.isPrefixOf? text = none ↔ ¬pattern <+: text := by
  constructor
  · rintro h ⟨rest, rfl⟩
    rw [isPrefixOf?_append] at h
    cases h
  · intro h
    by_contra hfound
    obtain ⟨rest, hrest⟩ := Option.ne_none_iff_exists'.1 hfound
    exact h ⟨rest, (eq_append_of_isPrefixOf? hrest).symm⟩

theorem breakOn_eq_none_iff : breakOn pattern text = none ↔ ¬pattern <:+: text := by
  rw [← contains_iff, contains, Option.not_isSome_iff_eq_none]

/-- In front of the first occurrence the pattern does not occur. -/
theorem not_infix_of_breakOn (hpattern : pattern ≠ []) (h : breakOn pattern text = some (before, after)) :
    ¬pattern <:+: before := by
  induction text generalizing before with
  | nil =>
    rw [breakOn, if_neg (by simpa using hpattern)] at h
    cases h
  | cons c rest ih =>
    rw [breakOn] at h
    cases hhere : pattern.isPrefixOf? (c :: rest) with
    | some behind =>
      rw [hhere] at h
      obtain ⟨rfl, -⟩ := Prod.mk.inj (Option.some.inj h)
      rwa [List.infix_nil]
    | none =>
      rw [hhere] at h
      obtain ⟨⟨front, behind⟩, hlater, heq⟩ := Option.map_eq_some_iff.1 h
      obtain ⟨rfl, rfl⟩ := Prod.mk.inj heq
      rw [List.infix_cons_iff, not_or]
      refine ⟨fun hprefix ↦ isPrefixOf?_eq_none_iff.1 hhere ?_, ih hlater⟩
      have hrest : rest = front ++ (pattern ++ behind) := by rw [eq_append_of_breakOn hlater, List.append_assoc]
      rw [hrest, ← List.cons_append]
      exact hprefix.trans (List.prefix_append _ _)

/-! ## Pieces -/

theorem splitOn_of_breakOn_none (h : breakOn pattern text = none) : splitOn pattern text = [text] := by
  rw [splitOn]
  split
  · rfl
  · split
    · rfl
    · next hfound => rw [h] at hfound; cases hfound

theorem splitOn_of_breakOn_some (hpattern : pattern ≠ []) (h : breakOn pattern text = some (before, after)) :
    splitOn pattern text = before :: splitOn pattern after := by
  rw [splitOn, if_neg hpattern]
  split
  · next hnone => rw [h] at hnone; cases hnone
  · next hfound =>
    rw [h] at hfound
    obtain ⟨rfl, rfl⟩ := Prod.mk.inj (Option.some.inj hfound)
    rfl

theorem splitOn_ne_nil (pattern text : List Char) : splitOn pattern text ≠ [] := by
  rw [splitOn]
  split
  · exact List.cons_ne_nil _ _
  · split <;> exact List.cons_ne_nil _ _

/-- No piece contains the pattern. -/
theorem not_infix_of_mem_splitOn (hpattern : pattern ≠ []) : ∀ piece ∈ splitOn pattern text, ¬pattern <:+: piece := by
  fun_induction splitOn pattern text with
  | case1 _ hempty => exact absurd hempty hpattern
  | case2 text _ hnone => exact List.forall_mem_singleton.2 (breakOn_eq_none_iff.1 hnone)
  | case3 text _ before after hfound ih => exact List.forall_mem_cons.2 ⟨not_infix_of_breakOn hpattern hfound, ih⟩

/-- The pieces joined with the pattern are the text. -/
theorem intercalate_splitOn (pattern text : List Char) : pattern.intercalate (splitOn pattern text) = text := by
  fun_induction splitOn pattern text with
  | case1 text => exact List.intercalate_singleton
  | case2 text _ _ => exact List.intercalate_singleton
  | case3 text _ before after hfound ih =>
    rw [List.intercalate_cons_of_ne_nil (splitOn_ne_nil _ _), ih, eq_append_of_breakOn hfound]

/-- Joining one more piece. -/
theorem intercalate_concat {pieces : List (List Char)} (hpieces : pieces ≠ []) (separator piece : List Char) :
    separator.intercalate (pieces ++ [piece]) = separator.intercalate pieces ++ separator ++ piece := by
  induction pieces with
  | nil => exact absurd rfl hpieces
  | cons first rest ih =>
    cases rest with
    | nil => rw [List.singleton_append, List.intercalate_cons_cons, List.intercalate_singleton, List.intercalate_singleton]
    | cons second rest =>
      rw [List.cons_append, List.cons_append, List.intercalate_cons_cons, ← List.cons_append,
        ih (List.cons_ne_nil _ _), List.intercalate_cons_cons]
      simp only [List.append_assoc]

/-- Without the empty pieces at its end a joined text lacks the separators at its end. -/
theorem exists_intercalate_eq_append (separator : List Char) (pieces : List (List Char)) :
    ∃ count, separator.intercalate pieces =
      separator.intercalate (pieces.rdropWhile List.isEmpty) ++ (List.replicate count separator).flatten := by
  induction pieces using List.reverseRecOn with
  | nil => exact ⟨0, (List.append_nil _).symm⟩
  | append_singleton pieces piece ih =>
    cases piece with
    | cons c rest =>
      rw [List.rdropWhile_concat_neg _ _ _ (by simp)]
      exact ⟨0, (List.append_nil _).symm⟩
    | nil =>
      rw [List.rdropWhile_concat_pos _ _ _ (by simp)]
      obtain rfl | hpieces := eq_or_ne pieces []
      · exact ⟨0, rfl⟩
      · obtain ⟨count, hcount⟩ := ih
        refine ⟨count + 1, ?_⟩
        rw [intercalate_concat hpieces, hcount, List.replicate_succ', List.flatten_append, List.flatten_singleton,
          List.append_nil, List.append_assoc]

/-! ## Replacing -/

/-- Where the pattern stands, its replacement does. -/
theorem replace_append (hpattern : pattern ≠ []) (replacement rest : List Char) :
    replace pattern replacement (pattern ++ rest) = replacement ++ replace pattern replacement rest := by
  have hfound : breakOn pattern (pattern ++ rest) = some ([], rest) := by
    obtain ⟨c, others, rfl⟩ := List.exists_cons_of_ne_nil hpattern
    rw [List.cons_append, breakOn, ← List.cons_append, isPrefixOf?_append]
  rw [replace, splitOn_of_breakOn_some hpattern hfound, List.intercalate_cons_of_ne_nil (splitOn_ne_nil _ _)]
  rfl

/-- Where it does not stand, a character stays. -/
theorem replace_cons (hpattern : pattern ≠ []) (replacement : List Char) {c : Char} {rest : List Char}
    (h : ¬pattern <+: c :: rest) :
    replace pattern replacement (c :: rest) = c :: replace pattern replacement rest := by
  rw [replace, replace]
  cases hrest : breakOn pattern rest with
  | none =>
    have hnone : breakOn pattern (c :: rest) = none := by
      rw [breakOn, isPrefixOf?_eq_none_iff.2 h, hrest]
      rfl
    rw [splitOn_of_breakOn_none hnone, splitOn_of_breakOn_none hrest, List.intercalate_singleton,
      List.intercalate_singleton]
  | some found =>
    obtain ⟨before, after⟩ := found
    have hsome : breakOn pattern (c :: rest) = some (c :: before, after) := by
      rw [breakOn, isPrefixOf?_eq_none_iff.2 h, hrest]
      rfl
    rw [splitOn_of_breakOn_some hpattern hsome, splitOn_of_breakOn_some hpattern hrest,
      List.intercalate_cons_of_ne_nil (splitOn_ne_nil _ _), List.intercalate_cons_of_ne_nil (splitOn_ne_nil _ _)]
    rfl

theorem replace_nil (hpattern : pattern ≠ []) (replacement : List Char) : replace pattern replacement [] = [] := by
  rw [replace, splitOn_of_breakOn_none (breakOn_eq_none_iff.2 (by simpa using hpattern)), List.intercalate_singleton]

end Liquid.Text
