import Liquid.Proofs.Markup.Quotation
import Liquid.Template.Header

/-!
# How deep expressions are nested

An expression as deep as a number takes at least that many lexemes, and so as many characters. Nothing else bounds its
depth. A condition is no deeper than the number of terms that it may have.
-/

namespace Liquid

namespace Expr

mutual

/-- The number of expressions that are nested in one another at the deepest place of an expression. -/
def depth : Expr → Nat
  | .literal _ => 1
  | .path segments => depthOfSegments segments + 1
  | .range first last => max first.depth last.depth + 1
  | .filtered _ primary filters => max primary.depth (depthOfFilters filters) + 1

/-- The depth of the indices of a path. -/
def depthOfSegments : List Segment → Nat
  | [] => 0
  | .member _ :: rest => depthOfSegments rest
  | .index key :: rest => max key.depth (depthOfSegments rest)

/-- The depth of the arguments of filters. -/
def depthOfFilters : List FilterRequest → Nat
  | [] => 0
  | .mk _ _ arguments :: rest => max (depthOfArguments arguments) (depthOfFilters rest)

/-- The depth of expressions that stand side by side. -/
def depthOfArguments : List Expr → Nat
  | [] => 0
  | argument :: rest => max argument.depth (depthOfArguments rest)

end

theorem depth_le_depthOfArguments {argument : Expr} {arguments : List Expr} (h : argument ∈ arguments) :
    argument.depth ≤ depthOfArguments arguments := by
  induction arguments with
  | nil => cases h
  | cons first rest ih =>
    rw [depthOfArguments]
    obtain rfl | h := List.mem_cons.1 h
    · exact Nat.le_max_left _ _
    · exact (ih h).trans (Nat.le_max_right _ _)

theorem depth_le_depthOfFilters {argument : Expr} {filter : FilterRequest} {filters : List FilterRequest}
    (hfilter : filter ∈ filters) (hargument : argument ∈ filter.arguments) :
    argument.depth ≤ depthOfFilters filters := by
  induction filters with
  | nil => cases hfilter
  | cons first rest ih =>
    obtain ⟨name, texts, arguments⟩ := first
    rw [depthOfFilters]
    obtain rfl | hfilter := List.mem_cons.1 hfilter
    · exact (depth_le_depthOfArguments hargument).trans (Nat.le_max_left _ _)
    · exact (ih hfilter).trans (Nat.le_max_right _ _)

end Expr

/-- The outermost expressions of a markup. -/
def Markup.expressions (markup : Markup) : List Expr :=
  markup.primary :: markup.filters.flatMap FilterRequest.arguments

/-- The operands of the comparisons and tests of a condition. -/
def Condition.operands : Condition → List Expr
  | truthy operand => [operand]
  | compare left _ right => [left, right]
  | and left right | or left right => left.operands ++ right.operands

/-- The number of conditions that are nested in one another at the deepest place of a condition. -/
def Condition.depth : Condition → Nat
  | truthy _ | compare _ _ _ => 1
  | and left right | or left right => max left.depth right.depth + 1

namespace Markup

variable {source : String} {lexemes : List PlacedLexeme}

/-- How deep the expressions of a phrase are nested. -/
def Phrase.depth : Phrase → Nat
  | .expr read => read.depth
  | .segments read => Expr.depthOfSegments read
  | .filters read => Expr.depthOfFilters read
  | .arguments read => Expr.depthOfArguments (read.map Prod.snd)

/-- Every level of a phrase takes a lexeme at least. -/
theorem Writes.depth_le {phrase : Phrase} (h : Writes source phrase lexemes) : phrase.depth ≤ lexemes.length := by
  induction h with
  | text | int | float | keyword => exact Nat.le_refl 1
  | named _ _ ih =>
    simp only [Phrase.depth, Expr.depth, Expr.depthOfSegments, List.length_cons] at ih ⊢
    omega
  | indexed _ _ hkey hrest =>
    simp only [Phrase.depth, Expr.depth, Expr.depthOfSegments, List.length_cons, List.length_append] at hkey hrest ⊢
    omega
  | range _ _ hfirst hlast =>
    simp only [Phrase.depth, Expr.depth, List.length_cons, List.length_append, List.length_nil] at hfirst hlast ⊢
    omega
  | enclosed _ _ hprimary hfilters =>
    rw [Phrase.depth, Markup.enclosed]
    simp only [Phrase.depth, List.length_cons, List.length_append, List.length_nil] at hprimary hfilters ⊢
    split
    · omega
    · rw [Expr.depth]
      omega
  | noSegment | noFilter => exact Nat.le_refl 0
  | member _ ih =>
    simp only [Phrase.depth, Expr.depthOfSegments, List.length_cons] at ih ⊢
    omega
  | place _ ih =>
    simp only [Phrase.depth, Expr.depth, Expr.depthOfSegments, List.length_cons] at ih ⊢
    omega
  | index _ _ hkey hrest =>
    simp only [Phrase.depth, Expr.depthOfSegments, List.length_cons, List.length_append] at hkey hrest ⊢
    omega
  | skipped _ ih => exact Nat.le_succ_of_le ih
  | bare _ ih =>
    simp only [Phrase.depth, Expr.depthOfFilters, Expr.depthOfArguments, List.length_cons] at ih ⊢
    omega
  | applied _ _ harguments hrest =>
    simp only [Phrase.depth, Expr.depthOfFilters, List.length_cons, List.length_append] at harguments hrest ⊢
    omega
  | lastArgument _ ih =>
    simp only [Phrase.depth, List.map_cons, List.map_nil, Expr.depthOfArguments] at ih ⊢
    omega
  | argument _ _ hargument hrest =>
    simp only [Phrase.depth, List.map_cons, Expr.depthOfArguments, List.length_cons, List.length_append] at hargument hrest ⊢
    omega

end Markup

/-- Expressions are at most as deep as a number. -/
def NoDeeper (bound : Nat) (exprs : List Expr) : Prop := ∀ expr ∈ exprs, expr.depth ≤ bound

theorem noDeeper_nil (bound : Nat) : NoDeeper bound [] := nofun

theorem noDeeper_cons {bound : Nat} {expr : Expr} {exprs : List Expr} :
    NoDeeper bound (expr :: exprs) ↔ expr.depth ≤ bound ∧ NoDeeper bound exprs := List.forall_mem_cons

theorem noDeeper_append {bound : Nat} {exprs others : List Expr} :
    NoDeeper bound (exprs ++ others) ↔ NoDeeper bound exprs ∧ NoDeeper bound others := List.forall_mem_append

/-- A markup is no deeper than its text is long, but that no text at all stands for nil. -/
theorem Markup.noDeeper_expressions {source : String} {markup : Markup} {bound : Nat}
    (h : Markup.parse source = .ok markup) (hbound : source.length < bound) : NoDeeper bound markup.expressions := by
  obtain ⟨lexemes, hscan, h⟩ := of_bind_eq_ok h
  have hlexemes := Lexeme.length_le_of_scanFrom hscan
  rw [String.length_toList] at hlexemes
  have hkept := ((dropLoneParen_sublist lexemes).length_le.trans hlexemes).trans_lt hbound
  have hwritten := isWritten_of_ofLexemes h
  generalize dropLoneParen lexemes = kept at hkept hwritten
  cases hwritten with
  | nothing => exact noDeeper_cons.2 ⟨Nat.zero_lt_of_lt hbound, noDeeper_nil bound⟩
  | @pipeline primary filters pipes front back hpipes hprimary hfilters =>
    have hprimaryDepth : primary.depth ≤ front.length := hprimary.depth_le
    have hfiltersDepth : Expr.depthOfFilters filters ≤ back.length := hfilters.depth_le
    rw [List.length_append, List.length_append] at hkept
    have hprimaryBound : primary.depth ≤ bound := by omega
    refine noDeeper_cons.2 ⟨hprimaryBound, fun argument hargument ↦ ?_⟩
    obtain ⟨filter, hfilter, hargument⟩ := List.mem_flatMap.1 hargument
    have hargumentDepth : argument.depth ≤ Expr.depthOfFilters filters := Expr.depth_le_depthOfFilters hfilter hargument
    omega

/-! ## Cursors -/

namespace Cursor

variable {cursor after : Cursor} {bound : Nat}

theorem length_le_of_start {markup : String} (h : start markup = .ok cursor) (hbound : markup.length ≤ bound) :
    cursor.rest.length ≤ bound := by
  obtain ⟨lexemes, hscan, h⟩ := of_bind_eq_ok h
  obtain rfl := Except.ok.inj h
  have hlexemes := Lexeme.length_le_of_scanFrom hscan
  rw [String.length_toList] at hlexemes
  exact hlexemes.trans hbound

theorem length_advance_le (hcursor : cursor.rest.length ≤ bound) : cursor.advance.rest.length ≤ bound := by
  obtain ⟨source, last, _ | ⟨placed, rest⟩⟩ := cursor
  · exact hcursor
  · exact (Nat.le_succ _).trans hcursor

theorem length_le_of_ident {name : String} (h : cursor.ident = .ok (name, after))
    (hcursor : cursor.rest.length ≤ bound) : after.rest.length ≤ bound := by
  rw [ident] at h
  split at h
  · obtain ⟨-, rfl⟩ := Prod.mk.inj (Except.ok.inj h)
    exact length_advance_le hcursor
  · cases h

theorem length_le_of_colon (h : cursor.colon = .ok after) (hcursor : cursor.rest.length ≤ bound) :
    after.rest.length ≤ bound := by
  rw [colon] at h
  split at h
  · obtain rfl := Except.ok.inj h
    exact length_advance_le hcursor
  · cases h

/-- An expression is no deeper than the number of lexemes that it is read from. -/
theorem depth_le_of_expr {read : Expr} (h : cursor.expr = .ok (read, after)) (hcursor : cursor.rest.length ≤ bound) :
    read.depth ≤ bound ∧ after.rest.length ≤ bound := by
  obtain ⟨source, last, lexemes⟩ := cursor
  obtain ⟨front, rest, rfl, rfl, hfront⟩ := (readsWritten source _).expr h
  have hdepth : read.depth ≤ front.length := hfront.depth_le
  dsimp only [behind]
  rw [List.length_append] at hcursor
  omega

theorem depth_le_of_term {condition : Condition} (h : cursor.term = .ok (condition, after))
    (hcursor : cursor.rest.length ≤ bound) :
    NoDeeper bound condition.operands ∧ condition.depth = 1 ∧ after.rest.length ≤ bound := by
  obtain ⟨⟨left, middle⟩, hleft, h⟩ := of_bind_eq_ok h
  obtain ⟨hleftDepth, hmiddle⟩ := depth_le_of_expr hleft hcursor
  dsimp only at h
  split at h
  · obtain ⟨⟨right, last⟩, hright, h⟩ := of_bind_eq_ok h
    obtain ⟨hrightDepth, hlast⟩ := depth_le_of_expr hright (length_advance_le hmiddle)
    obtain ⟨rfl, rfl⟩ := Prod.mk.inj (Except.ok.inj h)
    exact ⟨noDeeper_cons.2 ⟨hleftDepth, noDeeper_cons.2 ⟨hrightDepth, noDeeper_nil _⟩⟩, rfl, hlast⟩
  · obtain ⟨rfl, rfl⟩ := Prod.mk.inj (Except.ok.inj h)
    exact ⟨noDeeper_cons.2 ⟨hleftDepth, noDeeper_nil _⟩, rfl, hmiddle⟩

/-- Every level of a condition takes a term, and a first term is always allowed. -/
theorem depth_le_of_conditionWith {tag : String} {limit fuel before count : Nat} {condition : Condition}
    (h : conditionWith tag limit fuel before cursor = .ok ((condition, count), after))
    (hcursor : cursor.rest.length ≤ bound) :
    NoDeeper bound condition.operands ∧ before + condition.depth ≤ max limit (before + 1) := by
  induction fuel generalizing before cursor condition count after with
  | zero => cases h
  | succ fuel ih =>
    rw [conditionWith] at h
    obtain ⟨⟨left, middle⟩, hleft, h⟩ := of_bind_eq_ok h
    obtain ⟨hoperands, hdepth, hmiddle⟩ := depth_le_of_term hleft hcursor
    dsimp only at h
    split at h
    · split at h
      · cases h
      · next hlimit =>
        obtain ⟨⟨⟨right, others⟩, last⟩, hright, h⟩ := of_bind_eq_ok h
        obtain ⟨hrightOperands, hrightDepth⟩ := ih hright (length_advance_le hmiddle)
        obtain ⟨hresult, -⟩ := Prod.mk.inj (Except.ok.inj h)
        obtain ⟨rfl, -⟩ := Prod.mk.inj hresult
        have hboth : before + (max left.depth right.depth + 1) ≤ max limit (before + 1) := by omega
        dsimp only
        split
        · exact ⟨noDeeper_append.2 ⟨hoperands, hrightOperands⟩, hboth⟩
        · exact ⟨noDeeper_append.2 ⟨hoperands, hrightOperands⟩, hboth⟩
    · obtain ⟨hresult, -⟩ := Prod.mk.inj (Except.ok.inj h)
      obtain ⟨rfl, -⟩ := Prod.mk.inj hresult
      exact ⟨hoperands, by omega⟩

end Cursor

theorem Condition.depth_le_of_parse {source tag : String} {limit count bound : Nat} {condition : Condition}
    (h : Condition.parse source tag limit = .ok (condition, count)) (hbound : source.length ≤ bound) :
    NoDeeper bound condition.operands ∧ condition.depth ≤ max limit 1 := by
  obtain ⟨lexemes, hscan, h⟩ := of_bind_eq_ok h
  have hlexemes := Lexeme.length_le_of_scanFrom hscan
  rw [String.length_toList] at hlexemes
  rw [ofLexemes] at h
  split at h
  · cases h
  · obtain ⟨⟨result, last⟩, hcondition, h⟩ := of_bind_eq_ok h
    obtain ⟨⟨⟩, -, h⟩ := of_bind_eq_ok h
    obtain rfl := Except.ok.inj h
    have hdepth := Cursor.depth_le_of_conditionWith hcondition (hlexemes.trans hbound)
    rwa [Nat.zero_add, Nat.zero_add] at hdepth

end Liquid
