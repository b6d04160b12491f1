/-!
# Finding, replacing and splitting

Occurrences of a pattern are found from the left and do not overlap. Splitting at a pattern and joining with it
again gives the text back, and replacing is splitting followed by joining with the replacement.
-/

namespace Liquid.Text

/-- The text before the first occurrence of a pattern and the text behind it. -/
def breakOn (pattern : List Char) : List Char → Option (List Char × List Char)
  | [] => if pattern.isEmpty then some ([], []) else none
  | c :: rest =>
    match pattern.isPrefixOf? (c :: rest) with
    | some after => some ([], after)
    | none => (breakOn pattern rest).map fun (before, after) ↦ (c :: before, after)

theorem eq_append_of_isPrefixOf? {pattern text after : List Char}
    (found : pattern.isPrefixOf? text = some after) : text = pattern ++ after := by
  induction pattern generalizing text with
  | nil => exact Option.some.inj found
  | cons p pattern ih =>
    cases text with
    | nil => exact absurd found nofun
    | cons c text =>
      change (if p == c then pattern.isPrefixOf? text else none) = some after at found
      split at found
      · rename_i same
        have same : p = c := by simpa using same
        simp [same, ih found]
      · simp at found

/-- The pattern stands between the two parts that breaking a text at it gives. -/
theorem eq_append_of_breakOn {pattern text before after : List Char}
    (found : breakOn pattern text = some (before, after)) : text = before ++ pattern ++ after := by
  induction text generalizing before with
  | nil =>
    simp only [breakOn] at found
    split at found
    · rename_i empty
      simp_all
    · simp at found
  | cons c rest ih =>
    simp only [breakOn] at found
    split at found
    · rename_i tail here
      simp only [Option.some.injEq, Prod.mk.injEq] at found
      rw [eq_append_of_isPrefixOf? here, ← found.1, found.2]
      simp
    · obtain ⟨⟨head, tail⟩, later, shape⟩ := Option.map_eq_some_iff.1 found
      simp only [Prod.mk.injEq] at shape
      rw [shape.2] at later
      rw [ih later, ← shape.1]
      simp

/-- The pieces of a text between the occurrences of a pattern; an empty pattern does not occur. -/
def splitOn (pattern text : List Char) : List (List Char) :=
  if pattern = [] then [text]
  else
    match _found : breakOn pattern text with
    | none => [text]
    | some (before, after) => before :: splitOn pattern after
termination_by text.length
decreasing_by
  rw [eq_append_of_breakOn _found]
  have positive : 0 < pattern.length := List.length_pos_iff.2 ‹_›
  simp only [List.length_append]
  omega

/-- Replaces every occurrence of a pattern. -/
def replace (pattern replacement text : List Char) : List Char :=
  replacement.intercalate (splitOn pattern text)

/-- Replaces the first occurrence of a pattern. -/
def replaceFirst (pattern replacement text : List Char) : List Char :=
  match breakOn pattern text with
  | some (before, after) => before ++ replacement ++ after
  | none => text

/-- Whether a pattern occurs in a text. -/
def contains (pattern text : List Char) : Bool := (breakOn pattern text).isSome

theorem isPrefixOf?_append (pattern after : List Char) : pattern.isPrefixOf? (pattern ++ after) = some after := by
  induction pattern with
  | nil => rfl
  | cons p pattern ih =>
    change (if p == p then pattern.isPrefixOf? (pattern ++ after) else none) = some after
    rw [if_pos (beq_self_eq_true p), ih]

/-- A pattern occurs in a text if it stands somewhere in it. -/
theorem contains_iff (pattern text : List Char) : contains pattern text = true ↔ pattern <:+: text := by
  constructor
  · intro h
    obtain ⟨⟨before, after⟩, found⟩ := Option.isSome_iff_exists.1 h
    exact ⟨before, after, (eq_append_of_breakOn found).symm⟩
  · rintro ⟨before, after, rfl⟩
    induction before with
    | nil =>
      cases pattern with
      | nil => cases after <;> rfl
      | cons p pattern =>
        have here := isPrefixOf?_append (p :: pattern) after
        rw [List.cons_append] at here
        rw [List.nil_append, List.cons_append, contains, breakOn, here]
        rfl
    | cons c before ih =>
      rw [List.cons_append, List.cons_append, contains, breakOn]
      cases pattern.isPrefixOf? (c :: (before ++ pattern ++ after)) with
      | some _ => rfl
      | none =>
        rw [Option.isSome_map]
        exact ih

end Liquid.Text
