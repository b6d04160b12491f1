import Liquid.Evaluation
import Liquid.Filter.Builtin
import Liquid.Proofs.Filter.Words
import Liquid.Proofs.Text.Pieces

/-!
# Joining what was split

The pieces of a text joined with the separator again are the text, but for the separators at its end: empty pieces at the end
are dropped when a text is split.
-/

namespace Liquid.Filter

open Text

variable {separator text : List Char}

theorem splitAt_eq_rdropWhile (separator text : List Char) :
    splitAt separator text = (splitOn separator text).rdropWhile List.isEmpty := rfl

theorem split_eq_splitAt (hsome : separator ≠ []) (hspace : separator ≠ [' ']) :
    split separator text = splitAt separator text := by
  rw [split, if_neg (by simpa using hspace), if_neg (by simpa using hsome)]

/-- No piece contains the separator, -/
theorem not_infix_of_mem_splitAt (hsome : separator ≠ []) : ∀ piece ∈ splitAt separator text, ¬separator <:+: piece := by
  intro piece hpiece
  rw [splitAt_eq_rdropWhile] at hpiece
  exact not_infix_of_mem_splitOn hsome piece ((List.rdropWhile_prefix _ _).subset hpiece)

/-- the last one is not empty, -/
theorem ne_nil_of_getLast_splitAt : ∀ piece ∈ (splitAt separator text).getLast?, piece ≠ [] := by
  rw [splitAt_eq_rdropWhile]
  intro piece hpiece
  obtain ⟨hpieces, rfl⟩ := List.mem_getLast?_eq_getLast hpiece
  have hlast := List.rdropWhile_last_not List.isEmpty (splitOn separator text) hpieces
  rwa [List.isEmpty_iff] at hlast

/-- and joined they are the text without separators at its end. -/
theorem exists_eq_intercalate_splitAt_append (separator text : List Char) :
    ∃ count, text = separator.intercalate (splitAt separator text) ++ (List.replicate count separator).flatten := by
  obtain ⟨count, hcount⟩ := exists_intercalate_eq_append separator (splitOn separator text)
  exact ⟨count, by rwa [intercalate_splitOn, ← splitAt_eq_rdropWhile] at hcount⟩

theorem invoke_join (items : List Value) (separator : String) (drive : Drive) (context : Context) (shared : Shared) :
    join.invoke "join" [.seq items, .string separator] drive context shared =
      (.ok (.string (separator.intercalate (items.map (·.text shared.counts.tallies)))), shared) := rfl

theorem intercalate_text_ofText (separator : String) (pieces : List (List Char)) (tallies : Tallies) :
    separator.intercalate ((pieces.map Value.ofText).map (·.text tallies)) =
      String.ofList (separator.toList.intercalate pieces) := by
  have htexts : (pieces.map Value.ofText).map (·.text tallies) = pieces.map String.ofList := by
    rw [List.map_map]
    exact List.map_congr_left fun piece _ ↦ rfl
  rw [htexts, ← String.toList_inj, String.toList_intercalate, String.toList_ofList, List.map_map]
  congr 1
  exact (List.map_congr_left fun piece _ ↦ String.toList_ofList).trans (List.map_id _)

/-- The pieces of a text at a separator that is neither empty nor a space are texts without the separator, the last of them not
empty, and joining them gives the text up to separators at its end. -/
theorem join_split (text separator : String) (hsome : separator ≠ "") (hspace : separator ≠ " ") :
    (FilterSet.ofList builtins).get? "split" = some [splitText] ∧ (FilterSet.ofList builtins).get? "join" = some [join] ∧
      ∃ (pieces : List String) (joined : String) (count : ℕ),
        (∀ drive context shared,
          splitText.invoke "split" [.string text, .string separator] drive context shared =
              (.ok (.seq (pieces.map Value.string)), shared) ∧
            join.invoke "join" [.seq (pieces.map Value.string), .string separator] drive context shared =
              (.ok (.string joined), shared)) ∧
          (∀ piece ∈ pieces, ¬separator.toList <:+: piece.toList) ∧ (∀ piece ∈ pieces.getLast?, piece ≠ "") ∧
          text = joined ++ String.join (List.replicate count separator) := by
  have hsome' : separator.toList ≠ [] := by simpa using hsome
  have hspace' : separator.toList ≠ [' '] := fun h ↦ hspace (String.toList_inj.1 h)
  obtain ⟨count, hcount⟩ := exists_eq_intercalate_splitAt_append separator.toList text.toList
  have hvalues : (splitAt separator.toList text.toList).map Value.ofText =
      ((splitAt separator.toList text.toList).map String.ofList).map Value.string := by
    rw [List.map_map]
    exact List.map_congr_left fun piece _ ↦ rfl
  refine ⟨rfl, rfl, (splitAt separator.toList text.toList).map String.ofList,
    String.ofList (separator.toList.intercalate (splitAt separator.toList text.toList)), count,
    fun drive context shared ↦ ⟨?_, ?_⟩, ?_, ?_, ?_⟩
  · rw [invoke_splitText, split_eq_splitAt hsome' hspace', hvalues]
  · rw [invoke_join, ← hvalues, intercalate_text_ofText]
  · rw [List.forall_mem_map]
    intro piece hpiece
    rw [String.toList_ofList]
    exact not_infix_of_mem_splitAt hsome' piece hpiece
  · rw [List.getLast?_map]
    rintro _ hpiece
    obtain ⟨piece, hlast, rfl⟩ := Option.map_eq_some_iff.1 hpiece
    have hpiece' : piece ≠ [] := ne_nil_of_getLast_splitAt piece hlast
    simpa using hpiece'
  · rw [← String.toList_inj, String.toList_append, String.toList_ofList, String.toList_join]
    simpa [List.flatMap, List.map_replicate] using hcount

/-- A text with empty pieces within and at its end. -/
theorem join_split_commas :
    "," ≠ "" ∧ "," ≠ " " ∧
      ∃ (pieces : List String) (joined : String) (count : ℕ),
        (∀ drive context shared,
          splitText.invoke "split" [.string "a,,b,,", .string ","] drive context shared =
              (.ok (.seq (pieces.map Value.string)), shared) ∧
            join.invoke "join" [.seq (pieces.map Value.string), .string ","] drive context shared =
              (.ok (.string joined), shared)) ∧
          (∀ piece ∈ pieces, ¬",".toList <:+: piece.toList) ∧ (∀ piece ∈ pieces.getLast?, piece ≠ "") ∧
          "a,,b,," = joined ++ String.join (List.replicate count ",") := by
  have hsome : "," ≠ "" := by decide
  have hspace : "," ≠ " " := by decide
  obtain ⟨-, -, hjoined⟩ := join_split "a,,b,," "," hsome hspace
  exact ⟨hsome, hspace, hjoined⟩

end Liquid.Filter
