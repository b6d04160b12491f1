import Liquid.Environment
import Liquid.Proofs.Template.Depth

/-!
# Which depths of accepted templates are bounded

The blocks of an accepted template are nested to a fixed depth at most, and its conditions are no deeper than the
number of terms that the environment allows. Only the length of the template bounds the depth of its expressions: a
name in brackets is accepted whatever the number of brackets is.
-/

namespace Liquid.Template

/-! ## Brackets in brackets -/

/-- A name in a number of brackets. -/
def bracketed : Nat → List Char
  | 0 => ['x']
  | levels + 1 => '[' :: bracketed levels ++ [']']

/-- The expression that a name in a number of brackets writes. -/
def bracketedExpr : Nat → Expr
  | 0 => .path [.member "x"]
  | levels + 1 => .path [.index (bracketedExpr levels)]

theorem depth_bracketedExpr (levels : Nat) : (bracketedExpr levels).depth = levels + 1 := by
  induction levels with
  | zero => rfl
  | succ levels ih =>
    rw [bracketedExpr, Expr.depth, Expr.depthOfSegments, ih]
    rfl

open Lexeme Markup in
theorem exists_writes_bracketed (source : String) (levels : Nat) {place : Nat} {later : List Char}
    {others : List PlacedLexeme} (hlater : ∀ c ∈ later.head?, c = ']')
    (hothers : scanFrom source (place + (bracketed levels).length) later = .ok others) :
    ∃ lexemes, Writes source (.expr (bracketedExpr levels)) lexemes ∧
      scanFrom source place (bracketed levels ++ later) = .ok (lexemes ++ others) := by
  induction levels generalizing place later others with
  | zero =>
    have hone : scanOne source 'x' ([] ++ later) = .ok (.ident "x", ([] : List Char).length) := by
      cases later with
      | nil => rfl
      | cons c more =>
        obtain rfl := hlater c rfl
        rfl
    refine ⟨[⟨.ident "x", place, place + 1⟩], .named (fun _ ↦ rfl) .noSegment, ?_⟩
    exact scanFrom_eq_ok_cons.2 ⟨[], 'x', [], later, rfl, nofun, rfl, hone, rfl, rfl, hothers⟩
  | succ levels ih =>
    obtain ⟨stop, hstop⟩ : ∃ stop, stop = place + 1 + (bracketed levels).length := ⟨_, rfl⟩
    have hbehind : place + (bracketed (levels + 1)).length = stop + 1 := by
      simp only [bracketed, List.length_cons, List.length_append, List.length_nil]
      omega
    rw [hbehind] at hothers
    have hclose : scanFrom source stop (']' :: later) = .ok (⟨.closeBracket, stop, stop + 1⟩ :: others) :=
      scanFrom_eq_ok_cons.2 ⟨[], ']', [], later, rfl, nofun, rfl, rfl, rfl, rfl, hothers⟩
    rw [hstop] at hclose
    have hbracket : ∀ c ∈ (']' :: later).head?, c = ']' := fun c hc ↦ (Option.some.inj hc).symm
    obtain ⟨lexemes, hwrites, hscan⟩ := ih hbracket hclose
    rw [← hstop] at hscan
    have hwhole : scanFrom source place ('[' :: ([] ++ (bracketed levels ++ ']' :: later))) =
        .ok (⟨.openBracket, place, place + 1⟩ :: (lexemes ++ ⟨.closeBracket, stop, stop + 1⟩ :: others)) :=
      scanFrom_eq_ok_cons.2 ⟨[], '[', [], _, rfl, nofun, rfl, rfl, rfl, rfl, hscan⟩
    have hwrites : Writes source (.expr (bracketedExpr (levels + 1)))
        (⟨.openBracket, place, place + 1⟩ :: lexemes ++ ⟨.closeBracket, stop, stop + 1⟩ :: []) :=
      .indexed hwrites .noSegment
    exact ⟨_, hwrites, by simpa [bracketed] using hwhole⟩

open Markup in
theorem exists_parse_bracketed (levels : Nat) :
    ∃ name, Markup.parse (String.ofList (bracketed levels)) = .ok ⟨name, bracketedExpr levels, []⟩ := by
  generalize hsource : String.ofList (bracketed levels) = source
  have hended : Lexeme.scanFrom source (0 + (bracketed levels).length) [] = .ok [] :=
    Lexeme.scanFrom_eq_ok_nil.2 (List.forall_mem_nil _)
  obtain ⟨lexemes, hwrites, hscan⟩ := exists_writes_bracketed source levels (by simp) hended
  have hscan' : Lexeme.scan source = .ok lexemes := by
    rw [Lexeme.scan, ← hsource, String.toList_ofList, hsource]
    simpa using hscan
  have hwritten : IsWritten source ⟨coveredText source lexemes, bracketedExpr levels, []⟩ ([] ++ lexemes ++ []) :=
    .pipeline (List.forall_mem_nil _) hwrites .noFilter
  rw [List.nil_append, List.append_nil] at hwritten
  refine ⟨coveredText source lexemes, ?_⟩
  rw [Markup.parse, hscan']
  change ofLexemes source (dropLoneParen lexemes) = _
  rw [dropLoneParen_of_isBalanced hwrites.isBalanced]
  exact ofLexemes_of_isWritten hwritten

/-- Text without quotes and closing braces ends in front of the first two closing braces. -/
theorem breakUnquoted_of_plain {inside : List Char} (h : ∀ c ∈ inside, c ≠ '\'' ∧ c ≠ '"' ∧ c ≠ '\x7d') :
    Lexer.breakUnquoted ['\x7d', '\x7d'] none (inside ++ ['\x7d', '\x7d']) = some (inside, []) := by
  induction inside with
  | nil => rfl
  | cons c rest ih =>
    obtain ⟨⟨hsingle, hdouble, hbrace⟩, hrest⟩ := List.forall_mem_cons.1 h
    have hquote : ¬(c == '\'' || c == '"') = true := by simp [hsingle, hdouble]
    have hdelimiter : ['\x7d', '\x7d'].isPrefixOf? (c :: (rest ++ ['\x7d', '\x7d'])) = none :=
      if_neg (by simpa using hbrace.symm)
    rw [List.cons_append, Lexer.breakUnquoted, if_neg hquote, hdelimiter, ih hrest]
    rfl

theorem mem_bracketed {levels : Nat} {c : Char} (h : c ∈ bracketed levels) : c = 'x' ∨ c = '[' ∨ c = ']' := by
  induction levels with
  | zero => exact .inl (List.mem_singleton.1 h)
  | succ levels ih =>
    simp only [bracketed, List.cons_append, List.mem_cons, List.mem_append, List.not_mem_nil, or_false] at h
    obtain rfl | h | rfl := h
    · exact .inr (.inl rfl)
    · exact ih h
    · exact .inr (.inr rfl)

/-- A name in brackets begins and ends with no hyphen and no blank. -/
theorem exists_ends_bracketed (levels : Nat) : ∃ first last, (bracketed levels).head? = some first ∧
    (bracketed levels).getLast? = some last ∧ (first = 'x' ∨ first = '[') ∧ (last = 'x' ∨ last = ']') := by
  cases levels with
  | zero => exact ⟨'x', 'x', rfl, rfl, .inl rfl, .inl rfl⟩
  | succ levels => exact ⟨'[', ']', rfl, List.getLast?_concat, .inr rfl, .inr rfl⟩

theorem trim_of_ends {text : List Char} {first last : Char} (hfirst : text.head? = some first)
    (hlast : text.getLast? = some last) (hfirstBlank : Text.isBlank first = false)
    (hlastBlank : Text.isBlank last = false) : Text.trim text = text := by
  have hstart : Text.trimStart text = text := by
    obtain ⟨rest, rfl⟩ := List.head?_eq_some_iff.1 hfirst
    exact List.dropWhile_cons_of_neg (by simp [hfirstBlank])
  obtain ⟨front, rfl⟩ := List.getLast?_eq_some_iff.1 hlast
  rw [Text.trim, hstart, Text.trimEnd, Text.dropEndWhile, List.reverse_concat]
  rw [List.dropWhile_cons_of_neg (by simp [hlastBlank]), ← List.reverse_concat, List.reverse_reverse]

theorem dropHyphen_of_head {text : List Char} {first : Char} (hfirst : text.head? = some first) (h : first ≠ '-') :
    Lexer.dropHyphen text = (false, text) := by
  obtain ⟨rest, rfl⟩ := List.head?_eq_some_iff.1 hfirst
  unfold Lexer.dropHyphen
  split
  · next heq => exact (h (List.cons.inj heq).1).elim
  · rfl

theorem dropLastHyphen_of_getLast {text : List Char} {last : Char} (hlast : text.getLast? = some last)
    (h : last ≠ '-') : Lexer.dropLastHyphen text = (false, text) := by
  obtain ⟨front, rfl⟩ := List.getLast?_eq_some_iff.1 hlast
  unfold Lexer.dropLastHyphen
  rw [List.reverse_concat]
  split
  · next heq => exact (h (List.cons.inj heq).1).elim
  · rfl

/-- An output of a name in brackets is one piece. -/
theorem takePiece_bracketed (levels : Nat) :
    Lexer.takePiece false ('\x7b' :: '\x7b' :: (bracketed levels ++ ['\x7d', '\x7d'])) =
      .taken (some (.output (String.ofList (bracketed levels)) false false)) [] false := by
  have hmarker : Marker.at? ('\x7b' :: '\x7b' :: (bracketed levels ++ ['\x7d', '\x7d'])) = some .output := by
    cases levels with
    | zero => rfl
    | succ levels => exact Marker.at?_output (by decide) _
  have hplain : ∀ c ∈ bracketed levels, c ≠ '\'' ∧ c ≠ '"' ∧ c ≠ '\x7d' := by
    intro c hc
    obtain rfl | rfl | rfl := mem_bracketed hc <;> decide
  have hclosing : Lexer.breakClosing ['\x7d', '\x7d'] (bracketed levels ++ ['\x7d', '\x7d']) =
      some (bracketed levels, []) := by
    rw [Lexer.breakClosing, breakUnquoted_of_plain hplain]
    rfl
  obtain ⟨first, last, hfirst, hlast, hfirstKind, hlastKind⟩ := exists_ends_bracketed levels
  have hfirstEnd : first ≠ '-' ∧ Text.isBlank first = false := by
    obtain rfl | rfl := hfirstKind <;> decide
  have hlastEnd : last ≠ '-' ∧ Text.isBlank last = false := by
    obtain rfl | rfl := hlastKind <;> decide
  rw [Lexer.takePiece, hmarker]
  simp only [Lexer.takeMarker, List.drop_succ_cons, List.drop_zero, hclosing, dropHyphen_of_head hfirst hfirstEnd.1,
    dropLastHyphen_of_getLast hlast hlastEnd.1, trim_of_ends hfirst hlast hfirstEnd.2 hlastEnd.2]

/-- The source of an output of a name in brackets. -/
def bracketedSource (levels : Nat) : String :=
  String.ofList ('\x7b' :: '\x7b' :: (bracketed levels ++ ['\x7d', '\x7d']))

/-! ## Accepted templates -/

theorem grammar_standard : Environment.standard.grammar = .builtin 50 := rfl

/-- A template is accepted in the default environment if its tokens spell it. -/
theorem parse_standard_eq_ok_iff {name source : String} {block : Block} :
    Environment.standard.parse name source = .ok block ↔ (TokenStream.ofSource source).failure = none ∧
      Spelled 50 0 (.block block) (TokenStream.ofSource source).tokens := by
  have hparse : Environment.standard.parse name source = .ok block ↔
      ofTokens (.builtin 50) (.ofSource source) = .ok block := by
    rw [Environment.parse, parse, grammar_standard]
    cases ofTokens (.builtin 50) (.ofSource source) with
    | ok tree =>
      change (Except.ok tree : Except Error Block) = .ok block ↔ _
      rw [Except.ok.injEq, Except.ok.injEq]
    | error fault => exact ⟨nofun, nofun⟩
  rw [hparse, ← ofTokens_eq_ok_iff]
  obtain ⟨tokens, _ | failure⟩ := TokenStream.ofSource source
  · exact ⟨fun h ↦ ⟨rfl, h⟩, fun h ↦ h.2⟩
  · refine ⟨fun h ↦ ?_, fun h ↦ nomatch h.1⟩
    obtain ⟨tree, -, hended⟩ := of_bind_eq_ok h
    cases hended

theorem exists_parse_bracketedSource (name : String) (levels : Nat) :
    ∃ node, Environment.standard.parse name (bracketedSource levels) = .ok [node] ∧
      bracketedExpr levels ∈ node.expressions := by
  obtain ⟨text, hmarkup⟩ := exists_parse_bracketed levels
  have hrest : (Lexer.start (bracketedSource levels)).rest =
      '\x7b' :: '\x7b' :: (bracketed levels ++ ['\x7d', '\x7d']) :=
    String.toList_ofList
  have hpiece := takePiece_bracketed levels
  rw [← hrest] at hpiece
  have hne : (Lexer.start (bracketedSource levels)).rest ≠ [] := hrest ▸ List.cons_ne_nil _ _
  have htokens := TokenStream.ofLexer_of_token hne hpiece
  rw [← TokenStream.ofSource_eq_ofLexer, TokenStream.ofLexer_of_nil (Lexer.moveTo_rest _ [] false)] at htokens
  generalize (⟨(Lexer.start (bracketedSource levels)).position, _⟩ : Span) = span at htokens
  have hspelled : Spelled 50 0 (.block [.output ⟨text, bracketedExpr levels, []⟩ span])
      (TokenStream.ofSource (bracketedSource levels)).tokens := by
    rw [htokens]
    exact .cons (.output hmarkup) .nil
  exact ⟨_, parse_standard_eq_ok_iff.2 ⟨by rw [htokens], hspelled⟩, List.mem_cons_self⟩

/-- The blocks of every template that is accepted in the default environment are nested to a fixed depth at most, and
its conditions are at most as deep as the number of terms allowed. Its expressions are no deeper than its source is
long. -/
theorem depth_of_accepted {name source : String} {block : Block}
    (h : Environment.standard.parse name source = .ok block) :
    nesting block ≤ maxNesting ∧
      ∀ node ∈ nodesWithin block, (∀ expr ∈ node.expressions, expr.depth ≤ source.length) ∧
        ∀ condition ∈ node.conditions, condition.depth ≤ 50 := by
  obtain ⟨hread, hspelled⟩ := parse_standard_eq_ok_iff.1 h
  have hnesting := fits_of_spelled hspelled (Nat.zero_le _)
  rw [Nat.zero_add] at hnesting
  have hshort : MarkupsShorter source.length (TokenStream.ofSource source).tokens := by
    rw [TokenStream.ofSource_eq_ofLexer] at hread ⊢
    obtain ⟨final, htakes, -⟩ := TokenStream.takes_ofLexer hread
    exact fun placed hplaced markup hmarkup ↦ htakes.length_markup_lt hplaced hmarkup
  have hshallow := isShallow_of_spelled hspelled hshort
  exact ⟨hnesting, fun node hnode ↦ ⟨(hshallow node hnode).expressions, (hshallow node hnode).conditions⟩⟩

/-- A source with a block in a block and a path in a path. -/
def nested : String :=
  "\x7b% if a[b] %\x7d\x7b% ifchanged %\x7d\x7b\x7b x \x7d\x7d\x7b% endifchanged %\x7d\x7b% endif %\x7d"

theorem depth_of_accepted_nested :
    ∃ block, Environment.standard.parse "" nested = .ok block ∧ nesting block = 2 ∧ nesting block ≤ maxNesting ∧
      ∀ node ∈ nodesWithin block, (∀ expr ∈ node.expressions, expr.depth ≤ nested.length) ∧
        ∀ condition ∈ node.conditions, condition.depth ≤ 50 := by
  have hnesting : (Environment.standard.parse "" nested).toOption.map nesting = some 2 := by decide +kernel
  cases hparse : Environment.standard.parse "" nested with
  | error fault =>
    rw [hparse] at hnesting
    cases hnesting
  | ok block =>
    rw [hparse] at hnesting
    exact ⟨block, rfl, Option.some.inj hnesting, depth_of_accepted hparse⟩

/-- Nothing bounds the depth of the expressions of accepted templates. -/
theorem expressions_unbounded :
    ¬∃ bound, ∀ name source block, Environment.standard.parse name source = .ok block →
      nesting block ≤ bound ∧ ∀ node ∈ nodesWithin block, ∀ expr ∈ node.expressions, expr.depth ≤ bound := by
  rintro ⟨bound, hbound⟩
  obtain ⟨node, hparse, hexpr⟩ := exists_parse_bracketedSource "" bound
  obtain ⟨-, hnodes⟩ := hbound "" _ [node] hparse
  have hnode : node ∈ nodesWithin [node] := by
    cases node <;> simp [nodesWithin, nodesWithinNode]
  have hdepth := hnodes node hnode _ hexpr
  rw [depth_bracketedExpr] at hdepth
  exact Nat.not_succ_le_self bound hdepth

end Liquid.Template
