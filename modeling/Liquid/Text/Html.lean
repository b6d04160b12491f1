/-!
# HTML escaping

Six characters have a meaning in HTML and are written as entities; all others stand for themselves.
-/

namespace Liquid.Text.Html

/-- The written form of one character. -/
def escapeChar : Char → List Char
  | '<' => "&lt;".toList
  | '>' => "&gt;".toList
  | '&' => "&amp;".toList
  | '"' => "&quot;".toList
  | '\'' => "&#x27;".toList
  | '/' => "&#x2f;".toList
  | c => [c]

/-- The written form of a text is that of its characters, one after the other. -/
def escape (text : List Char) : List Char := text.flatMap escapeChar

@[simp] theorem escape_nil : escape [] = [] := rfl

theorem escape_append (text more : List Char) : escape (text ++ more) = escape text ++ escape more := by
  simp [escape]

end Liquid.Text.Html
