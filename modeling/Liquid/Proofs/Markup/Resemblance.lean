import Liquid.Proofs.Markup.Acceptance
import Liquid.Proofs.Markup.Splitting

/-!
# Markups with the same lexemes

Whether a markup can be read, and what is wrong with it if not, depends only on its lexemes: it does not matter where they
stand, and the source shows in nothing but the texts that are kept or quoted.
-/

namespace Liquid

namespace Cursor

/-- Two cursors have passed the same lexeme last and have the same lexemes left, wherever these stand. -/
structure Resembles (cursor other : Cursor) : Prop where
  last : cursor.last.map PlacedLexeme.lexeme = other.last.map PlacedLexeme.lexeme
  rest : cursor.rest.map PlacedLexeme.lexeme = other.rest.map PlacedLexeme.lexeme

/-- Whatever was read, the same lexemes are left. -/
def LeavesAlike {α β : Type} (result : α × Cursor) (other : β × Cursor) : Prop := result.2.Resembles other.2

namespace Resembles

variable {cursor other : Cursor}

theorem lexeme?_eq (h : cursor.Resembles other) : cursor.lexeme? = other.lexeme? := by
  rw [lexeme?, lexeme?, ← List.head?_map, ← List.head?_map, h.rest]

theorem second?_eq (h : cursor.Resembles other) : cursor.second? = other.second? := by
  rw [second?, second?, ← List.head?_map, ← List.head?_map, List.map_tail, List.map_tail, h.rest]

theorem atEnd_eq (h : cursor.Resembles other) : cursor.atEnd = other.atEnd := by
  rw [atEnd, atEnd, ← List.isEmpty_map, h.rest, List.isEmpty_map]

theorem fuel_eq (h : cursor.Resembles other) : cursor.fuel = other.fuel := by
  have hlength := congrArg List.length h.rest
  rw [List.length_map, List.length_map] at hlength
  rw [fuel, fuel, hlength]

theorem continuesPath_eq (h : cursor.Resembles other) : cursor.continuesPath = other.continuesPath := by
  rw [continuesPath, continuesPath, h.lexeme?_eq]

theorem skipsFilter_eq (h : cursor.Resembles other) : cursor.skipsFilter = other.skipsFilter := by
  rw [skipsFilter, skipsFilter, h.lexeme?_eq]

theorem advance (h : cursor.Resembles other) : cursor.advance.Resembles other.advance := by
  obtain ⟨source, last, rest⟩ := cursor
  obtain ⟨source', last', rest'⟩ := other
  have hrest : rest.map PlacedLexeme.lexeme = rest'.map PlacedLexeme.lexeme := h.rest
  cases rest with
  | nil =>
    rw [List.map_nil, List.nil_eq, List.map_eq_nil_iff] at hrest
    subst hrest
    exact h
  | cons placed rest =>
    cases rest' with
    | nil => cases hrest
    | cons placed' rest' =>
      obtain ⟨hplaced, hothers⟩ := List.cons.inj hrest
      exact ⟨congrArg some hplaced, hothers⟩

theorem unexpected (h : cursor.Resembles other) : cursor.unexpected.unquoted = other.unexpected.unquoted := by
  rw [Cursor.unexpected, Cursor.unexpected, h.lexeme?_eq]
  cases other.lexeme? <;> rfl

theorem noOperand (h : cursor.Resembles other) : cursor.noOperand.unquoted = other.noOperand.unquoted := by
  rw [Cursor.noOperand, Cursor.noOperand, h.lexeme?_eq, h.last]
  cases other.lexeme? <|> other.last.map PlacedLexeme.lexeme <;> rfl

theorem ident (h : cursor.Resembles other) : Alike LeavesAlike cursor.ident other.ident := by
  rw [Cursor.ident, Cursor.ident, h.lexeme?_eq]
  split
  · exact .ok h.advance
  · exact .error h.unexpected

theorem closeBracket (h : cursor.Resembles other) : Alike Resembles cursor.closeBracket other.closeBracket := by
  rw [Cursor.closeBracket, Cursor.closeBracket, h.lexeme?_eq]
  split
  · exact .ok h.advance
  · exact .error h.unexpected

theorem closeParen (h : cursor.Resembles other) : Alike Resembles cursor.closeParen other.closeParen := by
  rw [Cursor.closeParen, Cursor.closeParen, h.lexeme?_eq]
  split
  · exact .ok h.advance
  · exact .error h.unexpected

theorem finish (h : cursor.Resembles other) : Alike Eq cursor.finish other.finish := by
  rw [Cursor.finish, Cursor.finish, h.atEnd_eq]
  exact .ite (.ok rfl) (.error h.unexpected)

end Resembles

/-- With some fuel, cursors that resemble each other read alike. -/
structure ReadsAlike (fuel : Nat) : Prop where
  expr : ∀ {cursor other : Cursor}, cursor.Resembles other →
    Alike LeavesAlike (exprWith fuel cursor) (exprWith fuel other)
  path : ∀ {before before' : List Segment} {cursor other : Cursor}, cursor.Resembles other →
    Alike LeavesAlike (pathWith fuel before cursor) (pathWith fuel before' other)
  filters : ∀ {cursor other : Cursor}, cursor.Resembles other →
    Alike LeavesAlike (filtersWith fuel cursor) (filtersWith fuel other)
  arguments : ∀ {cursor other : Cursor}, cursor.Resembles other →
    Alike LeavesAlike (argumentsWith fuel cursor) (argumentsWith fuel other)

namespace ReadsAlike

variable {fuel : Nat} {cursor other : Cursor}

/-! ## One step at a time -/

/-- Behind the first expression in parentheses, a range or a pipeline is read on. -/
theorem expr_enclosed (hreads : ReadsAlike fuel) (h : cursor.Resembles other) {first first' : Expr} (start start' : Nat) :
    Alike LeavesAlike
      (match cursor.lexeme? with
        | some .dots => do
          let (last, cursor) ← exprWith fuel cursor.advance
          let cursor ← cursor.closeParen
          return (.range first last, cursor)
        | _ => do
          let name := cursor.textFrom start
          let (filters, cursor) ← filtersWith fuel cursor
          let cursor ← cursor.closeParen
          return (if filters.isEmpty then first else .filtered name first filters, cursor))
      (match other.lexeme? with
        | some .dots => do
          let (last, cursor) ← exprWith fuel other.advance
          let cursor ← cursor.closeParen
          return (.range first' last, cursor)
        | _ => do
          let name := other.textFrom start'
          let (filters, cursor) ← filtersWith fuel other
          let cursor ← cursor.closeParen
          return (if filters.isEmpty then first' else .filtered name first' filters, cursor)) := by
  rw [h.lexeme?_eq]
  split
  · refine (hreads.expr h.advance).bind fun _ _ _ hlast ↦ ?_
    exact (Resembles.closeParen hlast).bind fun _ _ _ hclosed ↦ .ok hclosed
  · refine (hreads.filters h).bind fun _ _ _ hfilters ↦ ?_
    exact (Resembles.closeParen hfilters).bind fun _ _ _ hclosed ↦ .ok hclosed

theorem expr_succ (hreads : ReadsAlike fuel) (h : cursor.Resembles other) :
    Alike LeavesAlike (exprWith (fuel + 1) cursor) (exprWith (fuel + 1) other) := by
  rw [exprWith, exprWith, h.lexeme?_eq]
  cases other.lexeme? with
  | none => exact .error h.noOperand
  | some lexeme =>
    cases lexeme with
    | text | int | float => exact .ok h.advance
    | ident name =>
      dsimp only
      rw [h.advance.continuesPath_eq]
      split
      · exact .ok h.advance
      · exact hreads.path h.advance
    | openBracket =>
      refine (hreads.expr h.advance).bind fun _ _ _ hkey ↦ ?_
      exact (Resembles.closeBracket hkey).bind fun _ _ _ hclosed ↦ hreads.path hclosed
    | openParen =>
      refine (hreads.expr h.advance).bind fun _ _ _ hfirst ↦ ?_
      exact hreads.expr_enclosed hfirst _ _
    | _ => exact .error h.noOperand

theorem path_succ (hreads : ReadsAlike fuel) (h : cursor.Resembles other) (before before' : List Segment) :
    Alike LeavesAlike (pathWith (fuel + 1) before cursor) (pathWith (fuel + 1) before' other) := by
  rw [pathWith, pathWith, h.lexeme?_eq]
  split
  · dsimp only
    rw [h.advance.lexeme?_eq]
    split
    · exact hreads.path h.advance.advance
    · exact hreads.path h.advance.advance
    · exact .error h.advance.noOperand
  · refine (hreads.expr h.advance).bind fun _ _ _ hkey ↦ ?_
    exact (Resembles.closeBracket hkey).bind fun _ _ _ hclosed ↦ hreads.path hclosed
  · exact .ok h

theorem filters_succ (hreads : ReadsAlike fuel) (h : cursor.Resembles other) :
    Alike LeavesAlike (filtersWith (fuel + 1) cursor) (filtersWith (fuel + 1) other) := by
  rw [filtersWith, filtersWith, h.lexeme?_eq]
  split
  · dsimp only
    rw [h.advance.skipsFilter_eq]
    refine .ite (hreads.filters h.advance) (h.advance.ident.bind fun named named' _ hname ↦ ?_)
    have hafter : named.2.Resembles named'.2 := hname
    rw [hafter.lexeme?_eq]
    split
    · refine (hreads.arguments hafter.advance).bind fun _ _ _ harguments ↦ ?_
      exact (hreads.filters harguments).bind fun _ _ _ hothers ↦ .ok hothers
    · exact (hreads.filters hafter).bind fun _ _ _ hothers ↦ .ok hothers
  · exact .ok h

theorem arguments_succ (hreads : ReadsAlike fuel) (h : cursor.Resembles other) :
    Alike LeavesAlike (argumentsWith (fuel + 1) cursor) (argumentsWith (fuel + 1) other) := by
  rw [argumentsWith, argumentsWith, h.second?_eq]
  split
  · exact .error rfl
  · refine (hreads.expr h).bind fun argument argument' _ hargument ↦ ?_
    have hafter : argument.2.Resembles argument'.2 := hargument
    dsimp only
    rw [hafter.lexeme?_eq]
    split
    · exact (hreads.arguments hafter.advance).bind fun _ _ _ hothers ↦ .ok hothers
    · exact .ok hafter

end ReadsAlike

/-- Cursors that resemble each other read alike. -/
theorem readsAlike (fuel : Nat) : ReadsAlike fuel := by
  induction fuel with
  | zero =>
    refine ⟨fun h ↦ ?_, fun h ↦ ?_, fun h ↦ ?_, fun h ↦ ?_⟩
    · exact .error h.noOperand
    · exact .error h.noOperand
    · exact .error h.noOperand
    · exact .error h.noOperand
  | succ fuel ih => exact ⟨ih.expr_succ, fun h ↦ ih.path_succ h _ _, ih.filters_succ, ih.arguments_succ⟩

namespace Resembles

variable {cursor other : Cursor}

theorem skipPipes (h : cursor.Resembles other) : cursor.skipPipes.Resembles other.skipPipes := by
  obtain ⟨source, last, rest⟩ := cursor
  obtain ⟨source', last', rest'⟩ := other
  induction rest generalizing last last' rest' with
  | nil =>
    obtain rfl : rest' = [] := List.map_eq_nil_iff.1 h.rest.symm
    exact h
  | cons placed rest ih =>
    obtain ⟨lexeme, start, stop⟩ := placed
    cases rest' with
    | nil => cases h.rest
    | cons placed' rest' =>
      obtain ⟨lexeme', start', stop'⟩ := placed'
      obtain ⟨rfl, hrest⟩ : lexeme = lexeme' ∧ rest.map PlacedLexeme.lexeme = rest'.map PlacedLexeme.lexeme :=
        List.cons.inj h.rest
      cases lexeme with
      | pipe => exact ih (some ⟨.pipe, start, stop⟩) (some ⟨.pipe, start', stop'⟩) rest' ⟨rfl, hrest⟩
      | _ => exact h

theorem markup (h : cursor.Resembles other) : Alike LeavesAlike cursor.markup other.markup := by
  have hskipped := h.skipPipes
  rw [Cursor.markup, Cursor.markup]
  dsimp only
  rw [hskipped.atEnd_eq]
  refine .ite (.ok hskipped) ?_
  rw [Cursor.expr, Cursor.expr, hskipped.fuel_eq]
  refine ((readsAlike _).expr hskipped).bind fun primary primary' _ hprimary ↦ ?_
  have hafter : primary.2.Resembles primary'.2 := hprimary
  rw [Cursor.filters, Cursor.filters, hafter.fuel_eq]
  exact ((readsAlike _).filters hafter).bind fun _ _ _ hfilters ↦ .ok hfilters

end Resembles

end Cursor

/-- Markups with the same lexemes are both read, or both refused for the same reason. -/
theorem Markup.ofLexemes_alike {source other : String} {lexemes others : List PlacedLexeme}
    (h : lexemes.map PlacedLexeme.lexeme = others.map PlacedLexeme.lexeme) :
    Alike (fun _ _ ↦ True) (ofLexemes source lexemes) (ofLexemes other others) := by
  have hstart : (Cursor.mk source none lexemes).Resembles ⟨other, none, others⟩ := ⟨rfl, h⟩
  refine hstart.markup.bind fun _ _ _ hleft ↦ ?_
  exact (Cursor.Resembles.finish hleft).bind fun _ _ _ _ ↦ .ok trivial

end Liquid
