import Liquid.Evaluation
import Liquid.Filter.Builtin
import Mathlib.Data.List.TakeWhile

/-!
# The words of a text

Splitting a text at a space gives its words, the maximal runs of characters that are not blank. The search passes the text
once; what it has passed since the last piece is a word that has begun or blanks, so that blanks at the end of the text are
a piece like a word.
-/

namespace Liquid

namespace Text

/-- The maximal runs of characters of a text that are not blank, in their order. -/
inductive Runs : List Char → List (List Char) → Prop where
  | none {blanks : List Char} (hblanks : ∀ c ∈ blanks, isBlank c = true) : Runs blanks []
  | run {blanks word rest : List Char} {words : List (List Char)} (hblanks : ∀ c ∈ blanks, isBlank c = true)
      (hword : word ≠ []) (hletters : ∀ c ∈ word, isBlank c = false) (hend : ∀ c ∈ rest.head?, isBlank c = true)
      (hrest : Runs rest words) : Runs (blanks ++ word ++ rest) (word :: words)

variable {text : List Char}

theorem words_of_blank {c : Char} (h : isBlank c = true) (rest : List Char) : words (c :: rest) = words rest := by
  rw [words, if_pos h]

theorem words_of_not_blank {c : Char} (h : isBlank c = false) (rest : List Char) :
    words (c :: rest) = (c :: rest.takeWhile (!isBlank ·)) :: words (rest.dropWhile (!isBlank ·)) := by
  rw [words, if_neg (by simp [h])]

theorem words_append_of_blank {blanks : List Char} (h : ∀ c ∈ blanks, isBlank c = true) (rest : List Char) :
    words (blanks ++ rest) = words rest := by
  induction blanks with
  | nil => rfl
  | cons c blanks ih =>
    obtain ⟨hc, hblanks⟩ := List.forall_mem_cons.1 h
    rw [List.cons_append, words_of_blank hc, ih hblanks]

/-- The letters up to a blank or the end are one word. -/
theorem words_append_of_letters {word rest : List Char} (hword : word ≠ []) (hletters : ∀ c ∈ word, isBlank c = false)
    (hend : ∀ c ∈ rest.head?, isBlank c = true) : words (word ++ rest) = word :: words rest := by
  obtain ⟨c, others, rfl⟩ := List.exists_cons_of_ne_nil hword
  obtain ⟨hc, hothers⟩ := List.forall_mem_cons.1 hletters
  have hinside : ∀ d ∈ others, (!isBlank d) = true := fun d hd ↦ by rw [hothers d hd]; rfl
  have hstop : rest.takeWhile (!isBlank ·) = [] ∧ rest.dropWhile (!isBlank ·) = rest := by
    cases rest with
    | nil => exact ⟨rfl, rfl⟩
    | cons d rest => simp [hend d rfl]
  rw [List.cons_append, words_of_not_blank hc, List.takeWhile_append_of_pos hinside,
    List.dropWhile_append_of_pos hinside, hstop.1, hstop.2, List.append_nil]

/-- The words of a text are its runs, -/
theorem runs_words (text : List Char) : Runs text (words text) := by
  fun_induction words text with
  | case1 => exact .none (List.forall_mem_nil _)
  | case2 c rest hblank ih =>
    -- The blank joins those in front of the first word of the rest.
    generalize words rest = found at ih ⊢
    cases ih with
    | none hblanks => exact .none (List.forall_mem_cons.2 ⟨hblank, hblanks⟩)
    | run hblanks hword hletters hend hrest =>
      rw [← List.cons_append, ← List.cons_append]
      exact .run (List.forall_mem_cons.2 ⟨hblank, hblanks⟩) hword hletters hend hrest
  | case3 c rest hblank ih =>
    have hletters : ∀ d ∈ c :: rest.takeWhile (!isBlank ·), isBlank d = false :=
      List.forall_mem_cons.2 ⟨Bool.eq_false_iff.2 hblank, fun d hd ↦ by simpa using List.mem_takeWhile_imp hd⟩
    have hend : ∀ d ∈ (rest.dropWhile (!isBlank ·)).head?, isBlank d = true := by
      intro d hd
      have hhead := List.head?_dropWhile_not (!isBlank ·) rest
      rw [Option.mem_def.1 hd] at hhead
      simpa using hhead
    have hrun := Runs.run (List.forall_mem_nil _) (List.cons_ne_nil _ _) hletters hend ih
    rwa [List.nil_append, List.cons_append, List.takeWhile_append_dropWhile] at hrun

/-- and it has no others. -/
theorem Runs.eq_words {runs : List (List Char)} (h : Runs text runs) : runs = words text := by
  induction h with
  | @none blanks hblanks =>
    rw [← List.append_nil blanks, words_append_of_blank hblanks, words]
  | run hblanks hword hletters hend hrest ih =>
    rw [List.append_assoc, words_append_of_blank hblanks, words_append_of_letters hword hletters hend, ih]

/-- Behind a character that is not of the class the end of a text is that of the rest. -/
theorem takeEndWhile_append {class_ : Char → Bool} {front : List Char} (h : ∀ c ∈ front.getLast?, class_ c = false)
    (rest : List Char) : takeEndWhile class_ (front ++ rest) = takeEndWhile class_ rest := by
  have hfront : front.reverse.takeWhile class_ = [] := by
    rw [← List.head?_reverse] at h
    cases hreversed : front.reverse with
    | nil => rfl
    | cons c others =>
      rw [hreversed] at h
      simp [h c rfl]
  rw [takeEndWhile, takeEndWhile, List.reverse_append, List.takeWhile_append, hfront, List.append_nil]
  split
  · next hwhole => rw [(List.takeWhile_prefix class_).eq_of_length hwhole]
  · rfl

end Text

namespace Filter

open Text

/-- The blanks at the end of a text, if there are any. -/
def blankEnd (text : List Char) : List (List Char) :=
  if takeEndWhile isBlank text = [] then [] else [takeEndWhile isBlank text]

/-- A word that has begun goes on to the next blank. -/
theorem searchWords_inWord {pending : List Char} (hpending : pending ≠ []) (text : List Char) :
    searchWords true pending text =
      (pending ++ text.takeWhile (!isBlank ·)) :: searchWords false [] (text.dropWhile (!isBlank ·)) := by
  induction text generalizing pending with
  | nil => simp [searchWords, hpending]
  | cons c rest ih =>
    rw [searchWords]
    split
    · next hblank => simp [hblank, searchWords]
    · next hblank =>
      rw [if_pos rfl, ih (by simp)]
      simp [hblank]

/-- Blanks are passed up to the next word, and are a piece if there is none. -/
theorem searchWords_blanks {pending : List Char} (hpending : ∀ c ∈ pending, isBlank c = true) (text : List Char) :
    searchWords false pending text = words text ++ blankEnd (pending ++ text) := by
  fun_induction words text generalizing pending with
  | case1 =>
    have hwhole : takeEndWhile isBlank pending = pending := by
      rw [takeEndWhile, List.takeWhile_eq_self_iff.2 fun d hd ↦ hpending d (List.mem_reverse.1 hd), List.reverse_reverse]
    rw [searchWords, List.append_nil, List.nil_append, blankEnd, hwhole]
    cases pending <;> rfl
  | case2 c rest hblank ih =>
    have hmore : ∀ d ∈ pending ++ [c], isBlank d = true :=
      List.forall_mem_append.2 ⟨hpending, List.forall_mem_singleton.2 hblank⟩
    rw [searchWords, if_pos hblank, if_neg Bool.false_ne_true, ih hmore, List.append_assoc]
    rfl
  | case3 c rest hblank ih =>
    have hsplit : pending ++ c :: rest =
        (pending ++ c :: rest.takeWhile (!isBlank ·)) ++ rest.dropWhile (!isBlank ·) := by
      rw [List.append_assoc, List.cons_append, List.takeWhile_append_dropWhile]
    have hletters : ∀ d ∈ c :: rest.takeWhile (!isBlank ·), isBlank d = false :=
      List.forall_mem_cons.2 ⟨Bool.eq_false_iff.2 hblank, fun d hd ↦ by simpa using List.mem_takeWhile_imp hd⟩
    have hlast : ∀ d ∈ (pending ++ c :: rest.takeWhile (!isBlank ·)).getLast?, isBlank d = false := by
      intro d hd
      rw [List.getLast?_append, List.getLast?_cons, Option.some_or, ← List.getLast?_cons] at hd
      exact hletters d (List.mem_of_getLast? hd)
    rw [searchWords, if_neg hblank, if_neg Bool.false_ne_true, searchWords_inWord (List.cons_ne_nil c []),
      ih (List.forall_mem_nil _), blankEnd, blankEnd, hsplit, takeEndWhile_append hlast]
    rfl

/-- There are blanks at the end of a text exactly if its last character is one. -/
theorem blankEnd_eq_nil_iff (text : List Char) : blankEnd text = [] ↔ ∀ c ∈ text.getLast?, isBlank c = false := by
  rw [blankEnd, takeEndWhile, ← List.head?_reverse]
  cases text.reverse with
  | nil => simp
  | cons c others => cases hblank : isBlank c <;> simp [hblank]

theorem invoke_splitText (text separator : String) (drive : Drive) (context : Context) (shared : Shared) :
    splitText.invoke "split" [.string text, .string separator] drive context shared =
      (.ok (.seq ((split separator.toList text.toList).map Value.ofText)), shared) := rfl

theorem invoke_splitText_alone (text : String) (drive : Drive) (context : Context) (shared : Shared) :
    splitText.invoke "split" [.string text] drive context shared =
      (.ok (.seq ((split " ".toList text.toList).map Value.ofText)), shared) := rfl

/-- Splitting a text at a space, or without a separator, gives the runs of its characters that are not blank, in their order,
and behind them the blanks at the end of the text as one more piece; so it gives the runs exactly if the text does not end
with a blank. -/
theorem split_gives_runs (text : String) :
    (FilterSet.ofList builtins).get? "split" = some [splitText] ∧
      ∃ runs, Runs text.toList runs ∧ (∀ others, Runs text.toList others → others = runs) ∧
        (∀ values ∈ [[Value.string text], [Value.string text, Value.string " "]], ∀ drive context shared,
          splitText.invoke "split" values drive context shared =
            (.ok (.seq ((runs ++ blankEnd text.toList).map Value.ofText)), shared)) ∧
        (blankEnd text.toList = [] ↔ ∀ c ∈ text.toList.getLast?, isBlank c = false) := by
  have hpieces : split " ".toList text.toList = words text.toList ++ blankEnd text.toList :=
    searchWords_blanks (List.forall_mem_nil _) text.toList
  refine ⟨rfl, words text.toList, runs_words text.toList, fun others h ↦ h.eq_words, ?_, blankEnd_eq_nil_iff _⟩
  rw [List.forall_mem_cons, List.forall_mem_singleton]
  refine ⟨fun drive context shared ↦ ?_, fun drive context shared ↦ ?_⟩
  · rw [invoke_splitText_alone, hpieces]
  · rw [invoke_splitText, hpieces]

/-- A blank behind the last word is a piece, although it is no run. -/
theorem split_ne_runs_blankEnd :
    Runs "a b ".toList ["a".toList, "b".toList] ∧ split " ".toList "a b ".toList = ["a".toList, "b".toList, " ".toList] := by
  have hblank : ∀ c ∈ [' '], isBlank c = true := List.forall_mem_singleton.2 rfl
  have hhead : ∀ c ∈ some ' ', isBlank c = true := by
    rintro _ ⟨⟩
    rfl
  have hsecond : Runs ([' '] ++ ['b'] ++ [' ']) [['b']] :=
    .run hblank (List.cons_ne_nil _ _) (List.forall_mem_singleton.2 rfl) hhead (.none hblank)
  have hruns : Runs ([] ++ ['a'] ++ ([' '] ++ ['b'] ++ [' '])) [['a'], ['b']] :=
    .run (List.forall_mem_nil _) (List.cons_ne_nil _ _) (List.forall_mem_singleton.2 rfl) hhead hsecond
  exact ⟨hruns, by decide⟩

end Filter

end Liquid
