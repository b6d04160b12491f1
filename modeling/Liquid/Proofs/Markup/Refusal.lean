import Liquid.Markup.Cursor

/-!
# Refused markup

Whatever is wrong with a markup or a condition, it is refused with an error of syntax.
-/

namespace Liquid

/-- A computation fails with errors of syntax only. -/
def FailsSyntactically {α : Type} (result : Except Fault α) : Prop :=
  ∀ fault, result = .error fault → fault.kind = .syntaxError

namespace FailsSyntactically

variable {α β : Type}

theorem ok (value : α) : FailsSyntactically (.ok value) := nofun

theorem error {fault : Fault} (h : fault.kind = .syntaxError) : FailsSyntactically (.error fault : Except Fault α) := by
  rintro _ ⟨⟩
  exact h

theorem bind {first : Except Fault α} {second : α → Except Fault β} (hfirst : FailsSyntactically first)
    (hsecond : ∀ value, FailsSyntactically (second value)) : FailsSyntactically (first >>= second) := by
  intro fault h
  obtain h | ⟨value, -, h⟩ := of_bind_eq_error h
  · exact hfirst fault h
  · exact hsecond value fault h

theorem ite {condition : Prop} [Decidable condition] {first second : Except Fault α} (hfirst : FailsSyntactically first)
    (hsecond : FailsSyntactically second) : FailsSyntactically (if condition then first else second) := by
  split
  · exact hfirst
  · exact hsecond

end FailsSyntactically

open FailsSyntactically

namespace Lexeme

theorem scanOne_failsSyntactically (source : String) (c : Char) (rest : List Char) :
    FailsSyntactically (scanOne source c rest) := by
  unfold scanOne
  refine ite (ite (.ok _) (.error rfl)) ?_
  refine ite ?_ ?_
  · split <;> exact .ok _
  · -- Brackets, parentheses, `|`, `:` and `,`, and the signs of operators, which are always lexemes.
    iterate 8 refine ite (.ok _) ?_
    refine ite ?_ (ite (.ok _) (.error rfl))
    split
    · exact .ok _
    · exact .error rfl

theorem scanFrom_failsSyntactically (source : String) (place : Nat) (markup : List Char) :
    FailsSyntactically (scanFrom source place markup) := by
  fun_induction scanFrom source place markup with
  | case1 => exact .ok _
  | case2 _ _ _ _ ih => exact ih
  | case3 _ c rest _ fault hone => exact .error (scanOne_failsSyntactically source c rest fault hone)
  | case4 _ _ _ _ _ _ _ fault hrest ih => exact .error (ih fault hrest)
  | case5 => exact .ok _

end Lexeme

namespace Cursor

theorem start_failsSyntactically (source : String) : FailsSyntactically (start source) :=
  (Lexeme.scanFrom_failsSyntactically source 0 source.toList).bind fun _ ↦ .ok _

variable (cursor : Cursor)

theorem kind_unexpected : cursor.unexpected.kind = .syntaxError := by
  rw [unexpected]
  split <;> rfl

theorem kind_noOperand : cursor.noOperand.kind = .syntaxError := by
  rw [noOperand]
  split <;> rfl

theorem ident_failsSyntactically : FailsSyntactically cursor.ident := by
  rw [ident]
  split
  · exact .ok _
  · exact .error cursor.kind_unexpected

theorem colon_failsSyntactically : FailsSyntactically cursor.colon := by
  rw [colon]
  split
  · exact .ok _
  · exact .error cursor.kind_unexpected

theorem closeBracket_failsSyntactically : FailsSyntactically cursor.closeBracket := by
  rw [closeBracket]
  split
  · exact .ok _
  · exact .error cursor.kind_unexpected

theorem closeParen_failsSyntactically : FailsSyntactically cursor.closeParen := by
  rw [closeParen]
  split
  · exact .ok _
  · exact .error cursor.kind_unexpected

theorem finish_failsSyntactically : FailsSyntactically cursor.finish := by
  rw [finish]
  exact ite (.ok _) (.error cursor.kind_unexpected)

/-- With some fuel, phrases are refused with errors of syntax. -/
structure ReadsOrFails (fuel : Nat) : Prop where
  expr : ∀ cursor, FailsSyntactically (exprWith fuel cursor)
  path : ∀ segments cursor, FailsSyntactically (pathWith fuel segments cursor)
  filters : ∀ cursor, FailsSyntactically (filtersWith fuel cursor)
  arguments : ∀ cursor, FailsSyntactically (argumentsWith fuel cursor)

namespace ReadsOrFails

variable {fuel : Nat} (hreads : ReadsOrFails fuel)
include hreads

theorem expr_succ : FailsSyntactically (exprWith (fuel + 1) cursor) := by
  unfold exprWith
  dsimp only
  split
  · exact .ok _
  · exact .ok _
  · exact .ok _
  · split
    · exact .ok _
    · exact hreads.path _ _
  · refine (hreads.expr _).bind fun key ↦ (closeBracket_failsSyntactically _).bind fun _ ↦ hreads.path _ _
  · refine (hreads.expr _).bind fun first ↦ ?_
    split
    · exact (hreads.expr _).bind fun last ↦ (closeParen_failsSyntactically _).bind fun _ ↦ .ok _
    · exact (hreads.filters _).bind fun filters ↦ (closeParen_failsSyntactically _).bind fun _ ↦ .ok _
  · exact .error cursor.kind_noOperand

theorem path_succ (segments : List Segment) : FailsSyntactically (pathWith (fuel + 1) segments cursor) := by
  unfold pathWith
  split
  · dsimp only
    split
    · exact hreads.path _ _
    · exact hreads.path _ _
    · exact .error (kind_noOperand _)
  · exact (hreads.expr _).bind fun key ↦ (closeBracket_failsSyntactically _).bind fun _ ↦ hreads.path _ _
  · exact .ok _

theorem filters_succ : FailsSyntactically (filtersWith (fuel + 1) cursor) := by
  unfold filtersWith
  split
  · refine ite (hreads.filters _) ((ident_failsSyntactically _).bind fun name ↦ ?_)
    dsimp only
    split
    · exact (hreads.arguments _).bind fun arguments ↦ (hreads.filters _).bind fun _ ↦ .ok _
    · exact (FailsSyntactically.ok _).bind fun arguments ↦ (hreads.filters _).bind fun _ ↦ .ok _
  · exact .ok _

theorem arguments_succ : FailsSyntactically (argumentsWith (fuel + 1) cursor) := by
  unfold argumentsWith
  split
  · exact .error rfl
  · refine (hreads.expr _).bind fun argument ↦ ?_
    dsimp only
    split
    · exact (hreads.arguments _).bind fun _ ↦ .ok _
    · exact .ok _

end ReadsOrFails

theorem readsOrFails (fuel : Nat) : ReadsOrFails fuel := by
  induction fuel with
  | zero =>
    exact ⟨fun cursor ↦ .error cursor.kind_noOperand, fun _ cursor ↦ .error cursor.kind_noOperand,
      fun cursor ↦ .error cursor.kind_noOperand, fun cursor ↦ .error cursor.kind_noOperand⟩
  | succ fuel ih =>
    exact ⟨fun cursor ↦ ih.expr_succ cursor, fun segments cursor ↦ ih.path_succ cursor segments,
      fun cursor ↦ ih.filters_succ cursor, fun cursor ↦ ih.arguments_succ cursor⟩

theorem expr_failsSyntactically : FailsSyntactically cursor.expr := (readsOrFails _).expr cursor

theorem filters_failsSyntactically : FailsSyntactically cursor.filters := (readsOrFails _).filters cursor

theorem markup_failsSyntactically : FailsSyntactically cursor.markup := by
  rw [markup]
  exact ite (.ok _) ((expr_failsSyntactically _).bind fun primary ↦ (filters_failsSyntactically _).bind fun _ ↦ .ok _)

theorem term_failsSyntactically : FailsSyntactically cursor.term := by
  refine (expr_failsSyntactically cursor).bind fun left ↦ ?_
  dsimp only
  split
  · exact (expr_failsSyntactically _).bind fun right ↦ .ok _
  · exact .ok _

theorem conditionWith_failsSyntactically (tag : String) (limit fuel before : Nat) :
    FailsSyntactically (conditionWith tag limit fuel before cursor) := by
  induction fuel generalizing before cursor with
  | zero => exact .error cursor.kind_noOperand
  | succ fuel ih =>
    rw [conditionWith]
    refine (term_failsSyntactically cursor).bind fun left ↦ ?_
    dsimp only
    have hrest : FailsSyntactically (conditionWith tag limit fuel (before + 1) left.2.advance) := ih _ _
    refine ite (ite ?_ (hrest.bind fun right ↦ .ok _)) (.ok _)
    exact (FailsSyntactically.error rfl).bind fun _ ↦ hrest.bind fun right ↦ .ok _

end Cursor

/-- A text that is no markup is refused with an error of syntax. -/
theorem Markup.parse_failsSyntactically (source : String) : FailsSyntactically (Markup.parse source) := by
  refine (Lexeme.scanFrom_failsSyntactically source 0 source.toList).bind fun lexemes ↦ ?_
  exact (Cursor.markup_failsSyntactically _).bind fun result ↦ (Cursor.finish_failsSyntactically _).bind fun _ ↦ .ok _

/-- A markup that is no condition is refused with an error of syntax. -/
theorem Condition.parse_failsSyntactically (source tag : String) (limit : Nat) :
    FailsSyntactically (Condition.parse source tag limit) := by
  refine (Lexeme.scanFrom_failsSyntactically source 0 source.toList).bind fun lexemes ↦ ?_
  have hread : FailsSyntactically (do
      let read ← Cursor.conditionWith tag limit (lexemes.length + 1) 0 ⟨source, none, lexemes⟩
      read.2.finish
      return read.1) :=
    (Cursor.conditionWith_failsSyntactically _ tag limit _ 0).bind fun result ↦
      (Cursor.finish_failsSyntactically _).bind fun _ ↦ .ok _
  exact ite ((FailsSyntactically.error rfl).bind fun _ ↦ hread) hread

end Liquid
