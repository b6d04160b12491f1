import Liquid.Proofs.Markup.Refusal
import Liquid.Proofs.Template.Spelling

/-!
# Refused templates

Whatever is wrong with a token of a template, and whatever is still open at its end, the template is refused with an error of
syntax, as long as only built-in tags occur and no host changes the markup of outputs.
-/

namespace Liquid

open FailsSyntactically Cursor

/-! ## The markup of tags -/

namespace Header

variable (markup : String)

theorem name_failsSyntactically : FailsSyntactically (name markup) :=
  (start_failsSyntactically markup).bind fun cursor ↦ (ident_failsSyntactically cursor).bind fun _ ↦
    (finish_failsSyntactically _).bind fun _ ↦ .ok _

theorem assignment_failsSyntactically : FailsSyntactically (assignment markup) := by
  unfold assignment
  dsimp only
  split
  · exact .error rfl
  · exact (name_failsSyntactically _).bind fun _ ↦ (Markup.parse_failsSyntactically _).bind fun _ ↦ .ok _

theorem captureTarget_failsSyntactically : FailsSyntactically (captureTarget markup) := by
  refine (start_failsSyntactically markup).bind fun cursor ↦ ?_
  split
  · exact (finish_failsSyntactically _).bind fun _ ↦ .ok _
  · exact (finish_failsSyntactically _).bind fun _ ↦ .ok _
  · exact .error rfl

theorem subject_failsSyntactically : FailsSyntactically (subject markup) :=
  (start_failsSyntactically markup).bind fun cursor ↦ (expr_failsSyntactically cursor).bind fun _ ↦
    (finish_failsSyntactically _).bind fun _ ↦ .ok _

theorem moreValues_failsSyntactically (separates : Cursor → Bool) (fuel : Nat) (cursor : Cursor) :
    FailsSyntactically (moreValues separates fuel cursor) := by
  induction fuel generalizing cursor with
  | zero => exact .ok _
  | succ fuel ih =>
    rw [moreValues]
    exact ite ((expr_failsSyntactically _).bind fun _ ↦ (ih _).bind fun _ ↦ .ok _) (.ok _)

theorem whenValues_failsSyntactically : FailsSyntactically (whenValues markup) :=
  (start_failsSyntactically markup).bind fun cursor ↦ (expr_failsSyntactically cursor).bind fun _ ↦
    (moreValues_failsSyntactically _ _ _).bind fun _ ↦ (finish_failsSyntactically _).bind fun _ ↦ .ok _

theorem cycle_failsSyntactically : FailsSyntactically (cycle markup) := by
  refine (start_failsSyntactically markup).bind fun cursor ↦ (expr_failsSyntactically cursor).bind fun first ↦ ?_
  dsimp only
  split
  · exact (expr_failsSyntactically _).bind fun _ ↦ (moreValues_failsSyntactically _ _ _).bind fun _ ↦
      (finish_failsSyntactically _).bind fun _ ↦ .ok _
  · exact (moreValues_failsSyntactically _ _ _).bind fun _ ↦ (finish_failsSyntactically _).bind fun _ ↦ .ok _

theorem loopStart_failsSyntactically (tag : String) (cursor : Cursor) : FailsSyntactically (loopStart tag cursor) := by
  unfold loopStart
  dsimp only
  split
  · have hcollection : FailsSyntactically (expr cursor.advance.advance) := expr_failsSyntactically _
    exact ite ((FailsSyntactically.error rfl).bind fun _ ↦ hcollection.bind fun _ ↦ .ok _)
      (hcollection.bind fun _ ↦ .ok _)
  · exact .error rfl

/-- A value behind a colon. -/
theorem valueBehindColon_failsSyntactically {α : Type} (cursor : Cursor) {next : Expr × Cursor → Except Fault α}
    (hnext : ∀ result, FailsSyntactically (next result)) :
    FailsSyntactically (cursor.colon >>= fun cursor ↦ cursor.expr >>= next) :=
  (colon_failsSyntactically cursor).bind fun _ ↦ (expr_failsSyntactically _).bind hnext

theorem loopArguments_failsSyntactically (fuel : Nat) (header : LoopHeader) (cursor : Cursor) :
    FailsSyntactically (loopArguments fuel header cursor) := by
  induction fuel generalizing header cursor with
  | zero => exact .ok _
  | succ fuel ih =>
    rw [loopArguments]
    refine ite (.ok _) (ite (ih _ _) ((ident_failsSyntactically _).bind fun result ↦ ?_))
    refine ite (ih _ _) (ite (valueBehindColon_failsSyntactically _ fun _ ↦ ih _ _) (ite ?_ (.error rfl)))
    refine (colon_failsSyntactically _).bind fun cursor ↦ ite (ih _ _) ?_
    exact (expr_failsSyntactically _).bind fun _ ↦ ih _ _

theorem loop_failsSyntactically : FailsSyntactically (loop markup) :=
  (start_failsSyntactically markup).bind fun _ ↦ (loopStart_failsSyntactically _ _).bind fun _ ↦
    loopArguments_failsSyntactically _ _ _

theorem tableArguments_failsSyntactically (fuel : Nat) (header : TableHeader) (cursor : Cursor) :
    FailsSyntactically (tableArguments fuel header cursor) := by
  induction fuel generalizing header cursor with
  | zero => exact .ok _
  | succ fuel ih =>
    rw [tableArguments]
    refine ite (.ok _) (ite (ih _ _) ((ident_failsSyntactically _).bind fun result ↦ ?_))
    exact ite ((FailsSyntactically.error rfl).bind fun _ ↦ valueBehindColon_failsSyntactically _ fun _ ↦ ih _ _)
      (valueBehindColon_failsSyntactically _ fun _ ↦ ih _ _)

theorem table_failsSyntactically : FailsSyntactically (table markup) :=
  (start_failsSyntactically markup).bind fun _ ↦ (loopStart_failsSyntactically _ _).bind fun _ ↦
    tableArguments_failsSyntactically _ _ _

theorem attributes_failsSyntactically (fuel : Nat) (cursor : Cursor) :
    FailsSyntactically (attributes fuel cursor) := by
  induction fuel generalizing cursor with
  | zero => exact .ok _
  | succ fuel ih =>
    rw [attributes]
    refine ite (.ok _) (ite (ih _) ((ident_failsSyntactically _).bind fun result ↦ ?_))
    exact valueBehindColon_failsSyntactically _ fun _ ↦ (ih _).bind fun _ ↦ .ok _

theorem inclusion_failsSyntactically : FailsSyntactically (inclusion markup) := by
  refine (start_failsSyntactically markup).bind fun cursor ↦ (expr_failsSyntactically cursor).bind fun template ↦ ?_
  refine ite ?_ (ite ?_ ((attributes_failsSyntactically _ _).bind fun _ ↦ .ok _))
  · exact (expr_failsSyntactically _).bind fun _ ↦ (attributes_failsSyntactically _ _).bind fun _ ↦ .ok _
  · exact (expr_failsSyntactically _).bind fun _ ↦ (attributes_failsSyntactically _ _).bind fun _ ↦ .ok _

end Header

/-! ## Tokens -/

namespace Template

variable {grammar : Grammar} {maxTerms : Nat} {name markup : String}

theorem kind_strayTag (name : String) : (strayTag name).kind = .syntaxError := by
  rw [strayTag]
  split <;> rfl

theorem builtinMeaning_failsSyntactically : FailsSyntactically (builtinMeaning grammar name markup) := by
  have hcondition : FailsSyntactically (Condition.parse markup name grammar.maxTerms) :=
    Condition.parse_failsSyntactically markup name grammar.maxTerms
  unfold builtinMeaning
  split
  · exact (Header.assignment_failsSyntactically _).bind fun _ ↦ .ok _
  · exact (Header.captureTarget_failsSyntactically _).bind fun _ ↦ .ok _
  · exact (Header.subject_failsSyntactically _).bind fun _ ↦ .ok _
  · exact .ok _
  · exact (Header.cycle_failsSyntactically _).bind fun _ ↦ .ok _
  · exact (Header.name_failsSyntactically _).bind fun _ ↦ .ok _
  · exact (Header.name_failsSyntactically _).bind fun _ ↦ .ok _
  · exact (Header.loop_failsSyntactically _).bind fun _ ↦ .ok _
  · exact .ok _
  · exact .ok _
  · exact hcondition.bind fun _ ↦ .ok _
  · exact hcondition.bind fun _ ↦ .ok _
  · exact .ok _
  · exact (Header.inclusion_failsSyntactically _).bind fun _ ↦ .ok _
  · exact (Header.table_failsSyntactically _).bind fun _ ↦ .ok _
  · exact ite (.error (kind_strayTag _)) (.error rfl)

namespace Partial

variable {tree : Partial} {frame : Frame} {frames : List Frame} {placed : PlacedToken} {span : Span}

theorem endTag_failsSyntactically : FailsSyntactically (endTag grammar tree frame frames name markup) := by
  have hwhen (next : List Expr → Partial) :
      FailsSyntactically (Header.whenValues markup >>= fun values ↦ pure (next values)) :=
    (Header.whenValues_failsSyntactically markup).bind fun _ ↦ .ok _
  have helsif (next : Condition × Nat → Partial) :
      FailsSyntactically (Condition.parse markup "elsif" grammar.maxTerms >>= fun parsed ↦ pure (next parsed)) :=
    (Condition.parse_failsSyntactically markup "elsif" grammar.maxTerms).bind fun _ ↦ .ok _
  unfold endTag
  cases frame.opened with
  | caseStart _ | caseWhen _ _ _ => exact ite (hwhen _) (ite (.ok _) (.ok _))
  | loop _ => exact ite (.ok _) (.ok _)
  | branch _ _ _ => exact ite (helsif _) (ite (.ok _) (.ok _))
  | _ => exact .ok _

theorem otherTag_failsSyntactically :
    FailsSyntactically (otherTag (.builtin maxTerms) tree name markup span) := by
  refine builtinMeaning_failsSyntactically.bind fun meant ↦ ?_
  cases meant with
  | leaf action => exact .ok _
  | opening opened => exact ite (.error rfl) (.ok _)

theorem outsideComment_failsSyntactically :
    FailsSyntactically (tree.outsideComment (.builtin maxTerms) placed) := by
  unfold outsideComment
  split
  · exact .ok _
  · exact .ok _
  · exact (Markup.parse_failsSyntactically _).bind fun _ ↦ .ok _
  · split
    · exact ite endTag_failsSyntactically otherTag_failsSyntactically
    · exact otherTag_failsSyntactically

/-- A token that cannot be taken is refused with an error of syntax. -/
theorem step_failsSyntactically : FailsSyntactically (tree.step (.builtin maxTerms) placed) := by
  unfold step
  split
  · exact .ok _
  · exact outsideComment_failsSyntactically

/-- So is a template that ends inside of a tag. -/
theorem finish_failsSyntactically : FailsSyntactically tree.finish := by
  unfold finish
  split
  · exact .ok _
  · exact .error rfl

end Partial

end Template

end Liquid
