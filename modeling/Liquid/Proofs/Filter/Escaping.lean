import Liquid.Evaluation
import Liquid.Filter.Builtin
import Liquid.Proofs.Text.Entities

/-!
# Texts in pages

The filter that writes a text for a page.
-/

namespace Liquid.Filter

open Text.Html

theorem invoke_escape (name text : String) (drive : Drive) (context : Context) (shared : Shared) :
    escape.invoke name [.string text] drive context shared = (.ok (.ofText (Text.Html.escape text.toList)), shared) := rfl

/-- An escaped text is the concatenation of the images of the characters of the text, and this is what one pass over its bytes
computes, without ever cutting a character. None of the special characters is left in it but the ampersands, each of which
begins an entity. Texts are escaped piece by piece, and the entities of an escaped text are read as the text. -/
theorem escape_exact (text more : String) :
    let escaped (text : String) := Text.Html.escape text.toList
    (∀ name ∈ ["escape", "h"], (FilterSet.ofList builtins).get? name = some [escape] ∧ ∀ drive context shared,
      escape.invoke name [.string text] drive context shared = (.ok (.ofText (escaped text)), shared)) ∧
    escapeBytes? (Text.Utf8.encode text.toList) = some (Text.Utf8.encode (escaped text)) ∧
    (∃ images, List.Forall₂ Image text.toList images ∧ escaped text = images.flatten) ∧
    (∀ c ∈ ['<', '>', '"', '\'', '/'], c ∉ escaped text) ∧
    (∀ before behind, escaped text = before ++ '&' :: behind →
      ∃ c entity, (c, entity) ∈ entities ∧ entity <+: '&' :: behind) ∧
    escaped (text ++ more) = escaped text ++ escaped more ∧ unescape (escaped text) = text.toList := by
  intro escaped
  refine ⟨?_, escapeBytes?_encode _, exists_images _, ?_, fun before behind ↦ exists_entity_prefix, ?_, unescape_escape _⟩
  · rw [List.forall_mem_cons, List.forall_mem_singleton]
    exact ⟨⟨rfl, invoke_escape "escape" text⟩, rfl, invoke_escape "h" text⟩
  · have hall : ['<', '>', '"', '\'', '/'].all (fun c ↦ c ∈ entities.map Prod.fst ∧ c ≠ '&') = true := by decide
    intro c hc
    obtain ⟨hspecial, hampersand⟩ := of_decide_eq_true (List.all_eq_true.1 hall c hc)
    exact not_mem_escape hspecial hampersand
  · change Text.Html.escape (text ++ more).toList = _
    rw [String.toList_append, escape_append]

/-- Special characters next to each other and at the end of a text whose first character has two bytes. -/
theorem escape_exact_adjacent :
    "h" ∈ ["escape", "h"] ∧ (FilterSet.ofList builtins).get? "h" = some [escape] ∧
      '<' ∈ ['<', '>', '"', '\'', '/'] ∧ '<' ∉ Text.Html.escape "é<&".toList ∧
      Text.Html.escape "é<&".toList = "é&lt;".toList ++ '&' :: "amp;".toList ∧
      (∃ c entity, (c, entity) ∈ entities ∧ entity <+: '&' :: "amp;".toList) ∧
      unescape "é&lt;&amp;".toList = "é<&".toList := by
  have h := escape_exact "é<&" ""
  have hname : "h" ∈ ["escape", "h"] := by decide
  have hspecial : '<' ∈ ['<', '>', '"', '\'', '/'] := by decide
  have hescaped : Text.Html.escape "é<&".toList = "é&lt;".toList ++ '&' :: "amp;".toList := by decide
  obtain ⟨hfilter, -, -, habsent, hbegins, -, hread⟩ := h
  exact ⟨hname, (hfilter "h" hname).1, hspecial, habsent '<' hspecial, hescaped, hbegins _ _ hescaped, hread⟩

end Liquid.Filter
