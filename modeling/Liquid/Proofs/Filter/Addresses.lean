import Liquid.Evaluation
import Liquid.Filter.Builtin
import Liquid.Proofs.Text.Percent

/-!
# Texts in addresses

The filters that write a text for an address and read it again.
-/

namespace Liquid.Filter

open Text

theorem invoke_onText (change : List Char → List Char) (name text : String) (drive : Drive) (context : Context)
    (shared : Shared) :
    (onText change).invoke name [.string text] drive context shared = (.ok (.ofText (change text.toList)), shared) := rfl

/-- Every text is read as what it was before it was written, and what is written consists of letters and digits of ASCII, five
marks, and percent signs with two digits behind them. -/
theorem url_decode_url_encode (text : String) :
    (FilterSet.ofList builtins).get? "url_encode" = some [onText Percent.encode] ∧
      (FilterSet.ofList builtins).get? "url_decode" = some [onText Percent.decode] ∧
      ∃ written : String, Percent.IsWritten written.toList ∧ ∀ drive context shared,
        (onText Percent.encode).invoke "url_encode" [.string text] drive context shared = (.ok (.string written), shared) ∧
          (onText Percent.decode).invoke "url_decode" [.string written] drive context shared =
            (.ok (.string text), shared) := by
  have hread : Value.ofText (Percent.decode (String.ofList (Percent.encode text.toList)).toList) = .string text := by
    rw [String.toList_ofList, Percent.decode_encode, Value.ofText, String.ofList_toList]
  refine ⟨rfl, rfl, String.ofList (Percent.encode text.toList), ?_, fun drive context shared ↦ ⟨?_, ?_⟩⟩
  · rw [String.toList_ofList]
    exact Percent.isWritten_encode text.toList
  · rw [invoke_onText, Value.ofText]
  · rw [invoke_onText, hread]

end Liquid.Filter
