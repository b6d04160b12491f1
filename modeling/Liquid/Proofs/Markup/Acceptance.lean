import Liquid.Proofs.Markup.Reading

/-!
# The accepted markups

Whatever the cursor reads is written by the lexemes that it passed. So a markup is accepted exactly if its lexemes write
one, and it is that one: the lookaheads of the cursor never refuse what the grammar allows, and no lexemes write two
markups.
-/

namespace Liquid

namespace Cursor

open Markup

/-- A cursor in front of lexemes passed some of them, which write a phrase. -/
def Passed (source : String) (last : Option PlacedLexeme) (lexemes : List PlacedLexeme) (phrase : Phrase)
    (after : Cursor) : Prop :=
  ∃ front rest, lexemes = front ++ rest ∧ after = behind source last front rest ∧ Writes source phrase front

/-- Whatever is read with some fuel is written by the lexemes that were passed. -/
structure ReadsWritten (source : String) (fuel : Nat) : Prop where
  expr : ∀ {last lexemes expr after}, exprWith fuel ⟨source, last, lexemes⟩ = .ok (expr, after) →
    Passed source last lexemes (.expr expr) after
  /-- No segment is read only where the path does not go on. -/
  path : ∀ {before last lexemes expr after}, pathWith fuel before ⟨source, last, lexemes⟩ = .ok (expr, after) →
    ∃ segments, expr = .path (before ++ segments) ∧
      (segments = [] → continuesPath ⟨source, last, lexemes⟩ = false) ∧
      Passed source last lexemes (.segments segments) after
  filters : ∀ {last lexemes filters after}, filtersWith fuel ⟨source, last, lexemes⟩ = .ok (filters, after) →
    Passed source last lexemes (.filters filters) after
  arguments : ∀ {last lexemes arguments after},
    argumentsWith fuel ⟨source, last, lexemes⟩ = .ok (arguments, after) →
      Passed source last lexemes (.arguments arguments) after

variable {source : String} {last : Option PlacedLexeme} {lexemes : List PlacedLexeme} {after : Cursor}

theorem of_first?_eq_some {lexeme : Lexeme} (h : first? lexemes = some lexeme) :
    ∃ start stop rest, lexemes = ⟨lexeme, start, stop⟩ :: rest := by
  obtain _ | ⟨placed, rest⟩ := lexemes
  · cases h
  · obtain rfl : placed.lexeme = lexeme := Option.some.inj h
    exact ⟨placed.start, placed.stop, rest, rfl⟩

theorem of_closeBracket_eq_ok (h : closeBracket ⟨source, last, lexemes⟩ = .ok after) :
    ∃ start stop rest, lexemes = ⟨.closeBracket, start, stop⟩ :: rest ∧
      after = ⟨source, some ⟨.closeBracket, start, stop⟩, rest⟩ := by
  rw [closeBracket] at h
  split at h
  · next heq =>
    obtain ⟨start, stop, rest, rfl⟩ := of_first?_eq_some heq
    exact ⟨start, stop, rest, rfl, (Except.ok.inj h).symm⟩
  · cases h

theorem of_closeParen_eq_ok (h : closeParen ⟨source, last, lexemes⟩ = .ok after) :
    ∃ start stop rest, lexemes = ⟨.closeParen, start, stop⟩ :: rest ∧
      after = ⟨source, some ⟨.closeParen, start, stop⟩, rest⟩ := by
  rw [closeParen] at h
  split at h
  · next heq =>
    obtain ⟨start, stop, rest, rfl⟩ := of_first?_eq_some heq
    exact ⟨start, stop, rest, rfl, (Except.ok.inj h).symm⟩
  · cases h

theorem of_ident_eq_ok {name : String} (h : ident ⟨source, last, lexemes⟩ = .ok (name, after)) :
    ∃ start stop rest, lexemes = ⟨.ident name, start, stop⟩ :: rest ∧
      after = ⟨source, some ⟨.ident name, start, stop⟩, rest⟩ := by
  rw [ident] at h
  split at h
  · next heq =>
    obtain ⟨start, stop, rest, rfl⟩ := of_first?_eq_some heq
    obtain ⟨rfl, rfl⟩ := Prod.mk.inj (Except.ok.inj h)
    exact ⟨start, stop, rest, rfl, rfl⟩
  · cases h

namespace ReadsWritten

variable {fuel : Nat}

/-! ### One step of the cursor at a time -/

theorem expr_ident (hreads : ReadsWritten source fuel) {name : String} {start stop : Nat} {rest : List PlacedLexeme}
    {expr : Expr} (h : exprWith (fuel + 1) ⟨source, last, ⟨.ident name, start, stop⟩ :: rest⟩ = .ok (expr, after)) :
    Passed source last (⟨.ident name, start, stop⟩ :: rest) (.expr expr) after := by
  simp only [exprWith_ident] at h
  split at h
  · next value hvalue =>
    obtain ⟨rfl, rfl⟩ := Prod.mk.inj (Except.ok.inj h)
    split at hvalue
    · cases hvalue
    · exact ⟨[⟨.ident name, start, stop⟩], rest, rfl, rfl, .keyword hvalue⟩
  · next hvalue =>
    obtain ⟨segments, rfl, hends, back, rest, rfl, rfl, hback⟩ := hreads.path h
    refine ⟨⟨.ident name, start, stop⟩ :: back, rest, rfl, behind_through source last [] _ back rest, ?_⟩
    apply Writes.named _ hback
    intro hsegments
    rwa [hends hsegments] at hvalue

theorem expr_openBracket (hreads : ReadsWritten source fuel) {start stop : Nat} {rest : List PlacedLexeme} {expr : Expr}
    (h : exprWith (fuel + 1) ⟨source, last, ⟨.openBracket, start, stop⟩ :: rest⟩ = .ok (expr, after)) :
    Passed source last (⟨.openBracket, start, stop⟩ :: rest) (.expr expr) after := by
  rw [exprWith_openBracket] at h
  obtain ⟨⟨key, cursor⟩, hkey, h⟩ := of_bind_eq_ok h
  obtain ⟨inside, rest, rfl, rfl, hinside⟩ := hreads.expr hkey
  obtain ⟨cursor, hclose, h⟩ := of_bind_eq_ok h
  obtain ⟨start', stop', rest, rfl, rfl⟩ := of_closeBracket_eq_ok hclose
  obtain ⟨segments, rfl, -, back, rest, rfl, rfl, hback⟩ := hreads.path h
  refine ⟨⟨.openBracket, start, stop⟩ :: inside ++ ⟨.closeBracket, start', stop'⟩ :: back, rest, ?_, ?_, ?_⟩
  · simp
  · exact behind_through source last (⟨.openBracket, start, stop⟩ :: inside) _ back rest
  · exact .indexed hinside hback

theorem expr_openParen (hreads : ReadsWritten source fuel) {start stop : Nat} {rest : List PlacedLexeme} {expr : Expr}
    (h : exprWith (fuel + 1) ⟨source, last, ⟨.openParen, start, stop⟩ :: rest⟩ = .ok (expr, after)) :
    Passed source last (⟨.openParen, start, stop⟩ :: rest) (.expr expr) after := by
  have hinside : ∃ first cursor, exprWith fuel ⟨source, some ⟨.openParen, start, stop⟩, rest⟩ = .ok (first, cursor) := by
    rw [exprWith] at h
    obtain ⟨⟨first, cursor⟩, hfirst, -⟩ := of_bind_eq_ok h
    exact ⟨first, cursor, hfirst⟩
  obtain ⟨first, cursor, hfirst⟩ := hinside
  obtain ⟨front, ahead, rfl, rfl, hfront⟩ := hreads.expr hfirst
  by_cases hdots : first? ahead = some .dots
  · obtain ⟨start', stop', rest, rfl⟩ := of_first?_eq_some hdots
    rw [exprWith_openParen_of_dots hfirst] at h
    obtain ⟨⟨final, cursor⟩, hfinal, h⟩ := of_bind_eq_ok h
    obtain ⟨back, rest, rfl, rfl, hback⟩ := hreads.expr hfinal
    obtain ⟨cursor, hclose, h⟩ := of_bind_eq_ok h
    obtain ⟨start'', stop'', rest, rfl, rfl⟩ := of_closeParen_eq_ok hclose
    obtain ⟨rfl, rfl⟩ := Prod.mk.inj (Except.ok.inj h)
    refine ⟨⟨.openParen, start, stop⟩ :: front ++ ⟨.dots, start', stop'⟩ :: back ++ [⟨.closeParen, start'', stop''⟩],
      rest, ?_, ?_, ?_⟩
    · simp
    · exact behind_through source last (⟨.openParen, start, stop⟩ :: front ++ ⟨.dots, start', stop'⟩ :: back) _ [] rest
    · exact .range hfront hback
  · rw [exprWith_openParen_of_ne_dots hfirst hdots, textFrom_behind hfront.ne_nil] at h
    obtain ⟨⟨filters, cursor⟩, hfilters, h⟩ := of_bind_eq_ok h
    obtain ⟨back, rest, rfl, rfl, hback⟩ := hreads.filters hfilters
    obtain ⟨cursor, hclose, h⟩ := of_bind_eq_ok h
    obtain ⟨start', stop', rest, rfl, rfl⟩ := of_closeParen_eq_ok hclose
    obtain ⟨rfl, rfl⟩ := Prod.mk.inj (Except.ok.inj h)
    refine ⟨⟨.openParen, start, stop⟩ :: front ++ back ++ [⟨.closeParen, start', stop'⟩], rest, ?_, ?_, ?_⟩
    · simp
    · exact behind_through source last (⟨.openParen, start, stop⟩ :: front ++ back) _ [] rest
    · exact .enclosed hfront hback

theorem expr_succ (hreads : ReadsWritten source fuel) {expr : Expr}
    (h : exprWith (fuel + 1) ⟨source, last, lexemes⟩ = .ok (expr, after)) :
    Passed source last lexemes (.expr expr) after := by
  obtain _ | ⟨⟨lexeme, start, stop⟩, rest⟩ := lexemes
  · rw [exprWith] at h
    cases h
  · cases lexeme with
    | text content =>
      rw [exprWith] at h
      obtain ⟨rfl, rfl⟩ := Prod.mk.inj (Except.ok.inj h)
      exact ⟨[⟨.text content, start, stop⟩], rest, rfl, rfl, .text⟩
    | int value =>
      rw [exprWith] at h
      obtain ⟨rfl, rfl⟩ := Prod.mk.inj (Except.ok.inj h)
      exact ⟨[⟨.int value, start, stop⟩], rest, rfl, rfl, .int⟩
    | float value =>
      rw [exprWith] at h
      obtain ⟨rfl, rfl⟩ := Prod.mk.inj (Except.ok.inj h)
      exact ⟨[⟨.float value, start, stop⟩], rest, rfl, rfl, .float⟩
    | ident name => exact expr_ident hreads h
    | openBracket => exact expr_openBracket hreads h
    | openParen => exact expr_openParen hreads h
    | _ =>
      rw [exprWith] at h
      cases h

theorem path_dot (hreads : ReadsWritten source fuel) {before : List Segment} {start stop : Nat}
    {rest : List PlacedLexeme} {expr : Expr}
    (h : pathWith (fuel + 1) before ⟨source, last, ⟨.dot, start, stop⟩ :: rest⟩ = .ok (expr, after)) :
    ∃ segments, expr = .path (before ++ segments) ∧ segments ≠ [] ∧
      Passed source last (⟨.dot, start, stop⟩ :: rest) (.segments segments) after := by
  rw [pathWith] at h
  obtain _ | ⟨⟨lexeme, start', stop'⟩, rest⟩ := rest
  · cases h
  · cases lexeme with
    | ident name =>
      obtain ⟨segments, rfl, -, back, rest, rfl, rfl, hback⟩ := hreads.path h
      refine ⟨.member name :: segments, by simp, List.cons_ne_nil _ _,
        ⟨.dot, start, stop⟩ :: ⟨.ident name, start', stop'⟩ :: back, rest, rfl, ?_, .member hback⟩
      exact behind_through source last [⟨.dot, start, stop⟩] _ back rest
    | int value =>
      obtain ⟨segments, rfl, -, back, rest, rfl, rfl, hback⟩ := hreads.path h
      refine ⟨.index (.literal (.int value)) :: segments, by simp, List.cons_ne_nil _ _,
        ⟨.dot, start, stop⟩ :: ⟨.int value, start', stop'⟩ :: back, rest, rfl, ?_, .place hback⟩
      exact behind_through source last [⟨.dot, start, stop⟩] _ back rest
    | _ => cases h

theorem path_openBracket (hreads : ReadsWritten source fuel) {before : List Segment} {start stop : Nat}
    {rest : List PlacedLexeme} {expr : Expr}
    (h : pathWith (fuel + 1) before ⟨source, last, ⟨.openBracket, start, stop⟩ :: rest⟩ = .ok (expr, after)) :
    ∃ segments, expr = .path (before ++ segments) ∧ segments ≠ [] ∧
      Passed source last (⟨.openBracket, start, stop⟩ :: rest) (.segments segments) after := by
  rw [pathWith_openBracket] at h
  obtain ⟨⟨key, cursor⟩, hkey, h⟩ := of_bind_eq_ok h
  obtain ⟨inside, rest, rfl, rfl, hinside⟩ := hreads.expr hkey
  obtain ⟨cursor, hclose, h⟩ := of_bind_eq_ok h
  obtain ⟨start', stop', rest, rfl, rfl⟩ := of_closeBracket_eq_ok hclose
  obtain ⟨segments, rfl, -, back, rest, rfl, rfl, hback⟩ := hreads.path h
  refine ⟨.index key :: segments, by simp, List.cons_ne_nil _ _,
    ⟨.openBracket, start, stop⟩ :: inside ++ ⟨.closeBracket, start', stop'⟩ :: back, rest, by simp, ?_,
    .index hinside hback⟩
  exact behind_through source last (⟨.openBracket, start, stop⟩ :: inside) _ back rest

theorem path_succ (hreads : ReadsWritten source fuel) {before : List Segment} {expr : Expr}
    (h : pathWith (fuel + 1) before ⟨source, last, lexemes⟩ = .ok (expr, after)) :
    ∃ segments, expr = .path (before ++ segments) ∧
      (segments = [] → continuesPath ⟨source, last, lexemes⟩ = false) ∧
      Passed source last lexemes (.segments segments) after := by
  by_cases hcontinues : continuesPath ⟨source, last, lexemes⟩ = true
  · have hread : ∃ segments, expr = .path (before ++ segments) ∧ segments ≠ [] ∧
        Passed source last lexemes (.segments segments) after := by
      rw [continuesPath] at hcontinues
      split at hcontinues
      · next heq =>
        obtain ⟨start, stop, rest, rfl⟩ := of_first?_eq_some heq
        exact path_dot hreads h
      · next heq =>
        obtain ⟨start, stop, rest, rfl⟩ := of_first?_eq_some heq
        exact path_openBracket hreads h
      · cases hcontinues
    obtain ⟨segments, hexpr, hsegments, hpassed⟩ := hread
    exact ⟨segments, hexpr, fun heq ↦ (hsegments heq).elim, hpassed⟩
  · rw [Bool.not_eq_true] at hcontinues
    rw [pathWith_of_not_continuesPath hcontinues] at h
    obtain ⟨rfl, rfl⟩ := Prod.mk.inj (Except.ok.inj h)
    exact ⟨[], by simp, fun _ ↦ hcontinues, [], lexemes, rfl, rfl, .noSegment⟩

theorem filters_pipe_ident (hreads : ReadsWritten source fuel) {name : String} {start stop start' stop' : Nat}
    {rest : List PlacedLexeme} {filters : List FilterRequest}
    (h : filtersWith (fuel + 1) ⟨source, last, ⟨.pipe, start, stop⟩ :: ⟨.ident name, start', stop'⟩ :: rest⟩ =
      .ok (filters, after)) :
    Passed source last (⟨.pipe, start, stop⟩ :: ⟨.ident name, start', stop'⟩ :: rest) (.filters filters) after := by
  by_cases hcolon : first? rest = some .colon
  · obtain ⟨start'', stop'', rest, rfl⟩ := of_first?_eq_some hcolon
    rw [filtersWith_pipe_ident_colon] at h
    obtain ⟨⟨arguments, cursor⟩, harguments, h⟩ := of_bind_eq_ok h
    obtain ⟨inside, rest, rfl, rfl, hinside⟩ := hreads.arguments harguments
    obtain ⟨⟨others, cursor⟩, hothers, h⟩ := of_bind_eq_ok h
    obtain ⟨back, rest, rfl, rfl, hback⟩ := hreads.filters hothers
    obtain ⟨rfl, rfl⟩ := Prod.mk.inj (Except.ok.inj h)
    refine ⟨⟨.pipe, start, stop⟩ :: ⟨.ident name, start', stop'⟩ :: ⟨.colon, start'', stop''⟩ :: inside ++ back, rest,
      by simp, ?_, .applied hinside hback⟩
    rw [behind_append]
    exact behind_through source last [⟨.pipe, start, stop⟩, ⟨.ident name, start', stop'⟩] _ (inside ++ back) rest
  · rw [filtersWith_pipe_ident_of_ne_colon hcolon] at h
    obtain ⟨⟨others, cursor⟩, hothers, h⟩ := of_bind_eq_ok h
    obtain ⟨back, rest, rfl, rfl, hback⟩ := hreads.filters hothers
    obtain ⟨rfl, rfl⟩ := Prod.mk.inj (Except.ok.inj h)
    exact ⟨⟨.pipe, start, stop⟩ :: ⟨.ident name, start', stop'⟩ :: back, rest, rfl,
      behind_through source last [⟨.pipe, start, stop⟩] _ back rest, .bare hback⟩

theorem filters_succ (hreads : ReadsWritten source fuel) {filters : List FilterRequest}
    (h : filtersWith (fuel + 1) ⟨source, last, lexemes⟩ = .ok (filters, after)) :
    Passed source last lexemes (.filters filters) after := by
  by_cases hpipe : first? lexemes = some .pipe
  · obtain ⟨start, stop, rest, rfl⟩ := of_first?_eq_some hpipe
    by_cases hskips : skipsFilter ⟨source, some ⟨.pipe, start, stop⟩, rest⟩ = true
    · rw [filtersWith_pipe_of_skipsFilter hskips] at h
      obtain ⟨back, rest, rfl, rfl, hback⟩ := hreads.filters h
      exact ⟨⟨.pipe, start, stop⟩ :: back, rest, rfl, behind_through source last [] _ back rest, .skipped hback⟩
    · have hname : ∃ name cursor, ident ⟨source, some ⟨.pipe, start, stop⟩, rest⟩ = .ok (name, cursor) := by
        rw [filtersWith] at h
        change (if skipsFilter ⟨source, some ⟨.pipe, start, stop⟩, rest⟩ then _ else _) = _ at h
        rw [if_neg hskips] at h
        obtain ⟨⟨name, cursor⟩, hname, -⟩ := of_bind_eq_ok h
        exact ⟨name, cursor, hname⟩
      obtain ⟨name, cursor, hname⟩ := hname
      obtain ⟨start', stop', rest, rfl, -⟩ := of_ident_eq_ok hname
      exact filters_pipe_ident hreads h
  · rw [filtersWith] at h
    split at h
    · next heq => exact (hpipe heq).elim
    · obtain ⟨rfl, rfl⟩ := Prod.mk.inj (Except.ok.inj h)
      exact ⟨[], lexemes, rfl, rfl, .noFilter⟩

theorem arguments_succ (hreads : ReadsWritten source fuel) {arguments : List (String × Expr)}
    (h : argumentsWith (fuel + 1) ⟨source, last, lexemes⟩ = .ok (arguments, after)) :
    Passed source last lexemes (.arguments arguments) after := by
  by_cases hcolon : second? ⟨source, last, lexemes⟩ = some .colon
  · rw [argumentsWith, hcolon] at h
    cases h
  · rw [argumentsWith_of_ne_colon hcolon] at h
    obtain ⟨⟨argument, cursor⟩, hargument, h⟩ := of_bind_eq_ok h
    obtain ⟨inside, rest, rfl, rfl, hinside⟩ := hreads.expr hargument
    have htext : (behind source last inside rest).textFrom (offset ⟨source, last, inside ++ rest⟩) =
        coveredText source inside := textFrom_behind hinside.ne_nil last last rest rest
    by_cases hcomma : first? rest = some .comma
    · obtain ⟨start, stop, rest, rfl⟩ := of_first?_eq_some hcomma
      obtain ⟨⟨others, cursor⟩, hothers, h⟩ := of_bind_eq_ok h
      obtain ⟨back, rest, rfl, rfl, hback⟩ := hreads.arguments hothers
      obtain ⟨rfl, rfl⟩ := Prod.mk.inj (Except.ok.inj h)
      rw [htext]
      exact ⟨inside ++ ⟨.comma, start, stop⟩ :: back, rest, by simp, behind_through source last inside _ back rest,
        .argument hinside hback⟩
    · dsimp only at h
      split at h
      · next heq => exact (hcomma heq).elim
      · obtain ⟨rfl, rfl⟩ := Prod.mk.inj (Except.ok.inj h)
        rw [htext]
        exact ⟨inside, rest, rfl, rfl, .lastArgument hinside⟩

end ReadsWritten

/-- Whatever is read is written by the lexemes that were passed. -/
theorem readsWritten (source : String) (fuel : Nat) : ReadsWritten source fuel := by
  induction fuel with
  | zero =>
    constructor
    · exact nofun
    · exact nofun
    · exact nofun
    · exact nofun
  | succ fuel ih => exact ⟨ih.expr_succ, ih.path_succ, ih.filters_succ, ih.arguments_succ⟩

/-- The pipes in front of a markup are passed. -/
theorem skipPipes_append {pipes rest : List PlacedLexeme} (hpipes : ∀ placed ∈ pipes, placed.lexeme = .pipe)
    (hrest : first? rest ≠ some .pipe) :
    skipPipes ⟨source, last, pipes ++ rest⟩ = behind source last pipes rest := by
  induction pipes generalizing last with
  | nil =>
    cases rest with
    | nil => rfl
    | cons placed rest =>
      obtain ⟨lexeme, start, stop⟩ := placed
      cases lexeme with
      | pipe => exact (hrest rfl).elim
      | _ => rfl
  | cons placed pipes ih =>
    obtain ⟨lexeme, start, stop⟩ := placed
    obtain rfl : lexeme = .pipe := hpipes _ (List.mem_cons_self ..)
    calc skipPipes ⟨source, last, ⟨.pipe, start, stop⟩ :: pipes ++ rest⟩
      _ = skipPipes ⟨source, some ⟨.pipe, start, stop⟩, pipes ++ rest⟩ := rfl
      _ = behind source (some ⟨.pipe, start, stop⟩) pipes rest :=
          ih fun placed hplaced ↦ hpipes placed (List.mem_cons_of_mem _ hplaced)
      _ = behind source last (⟨.pipe, start, stop⟩ :: pipes) rest := behind_through source last [] _ pipes rest

/-- All pipes at the front of some lexemes. -/
theorem exists_pipes (lexemes : List PlacedLexeme) :
    ∃ pipes rest, lexemes = pipes ++ rest ∧ (∀ placed ∈ pipes, placed.lexeme = .pipe) ∧ first? rest ≠ some .pipe := by
  induction lexemes with
  | nil => exact ⟨[], [], rfl, nofun, nofun⟩
  | cons placed lexemes ih =>
    obtain ⟨pipes, rest, rfl, hpipes, hrest⟩ := ih
    by_cases hplaced : placed.lexeme = .pipe
    · exact ⟨placed :: pipes, rest, rfl, List.forall_mem_cons.mpr ⟨hplaced, hpipes⟩, hrest⟩
    · exact ⟨[], placed :: (pipes ++ rest), rfl, nofun, fun heq ↦ hplaced (Option.some.inj heq)⟩

end Cursor

open Cursor

namespace Markup

variable {source : String} {markup other : Markup} {lexemes : List PlacedLexeme}

/-- Behind the pipes an expression and filters are read, unless nothing is left. -/
theorem markup_behind_pipes {pipes rest : List PlacedLexeme} (hpipes : ∀ placed ∈ pipes, placed.lexeme = .pipe)
    (hrest : first? rest ≠ some .pipe) (hne : rest ≠ []) :
    Cursor.markup ⟨source, none, pipes ++ rest⟩ = (do
      let (primary, after) ← (behind source none pipes rest).expr
      let (filters, final) ← after.filters
      return (⟨after.textFrom (behind source none pipes rest).offset, primary, filters⟩, final)) := by
  obtain ⟨placed, others, rfl⟩ := List.exists_cons_of_ne_nil hne
  rw [Cursor.markup, skipPipes_append hpipes hrest]
  rfl

/-- Lexemes that write a markup are accepted, as that markup. -/
theorem ofLexemes_of_isWritten (h : IsWritten source markup lexemes) : ofLexemes source lexemes = .ok markup := by
  cases h with
  | nothing hpipes =>
    have hskip : skipPipes ⟨source, none, lexemes ++ []⟩ = behind source none lexemes [] :=
      skipPipes_append hpipes nofun
    rw [List.append_nil] at hskip
    rw [ofLexemes, Cursor.markup, hskip]
    rfl
  | @pipeline primary filters pipes front back hpipes hprimary hfilters =>
    have hfollows : EndsArguments (first? (back ++ [])) := endsArguments_of_filters hfilters trivial
    have hends : EndsExpr (first? back) := by simpa using endsExpr_of_endsArguments hfollows
    have hpipe : first? (front ++ back) ≠ some .pipe := by
      obtain ⟨placed, rest, rfl, hbegins⟩ := hprimary.exists_head
      intro heq
      rw [Option.some.inj heq] at hbegins
      exact hbegins
    have hback : Cursor.filters ⟨source, front.getLast?.or (pipes.getLast?.or none), back ++ []⟩ =
        .ok (filters, behind source (front.getLast?.or (pipes.getLast?.or none)) back []) :=
      filters_append hfilters _ trivial
    have hname : (behind source (pipes.getLast?.or none) front back).textFrom
        (behind source none pipes (front ++ back)).offset = coveredText source front :=
      textFrom_behind hprimary.ne_nil _ _ back back
    rw [List.append_nil] at hback
    have hmarkup : Cursor.markup ⟨source, none, pipes ++ (front ++ back)⟩ =
        .ok (⟨coveredText source front, primary, filters⟩,
          behind source (front.getLast?.or (pipes.getLast?.or none)) back []) := by
      rw [markup_behind_pipes hpipes hpipe (by simp [hprimary.ne_nil])]
      rw [show (behind source none pipes (front ++ back)).expr = _ from expr_append hprimary _ hends]
      change Cursor.filters (behind source (pipes.getLast?.or none) front back) >>= _ = _
      rw [behind, hback, ← hname]
      rfl
    rw [ofLexemes, List.append_assoc, hmarkup]
    rfl

/-- An accepted markup is written by its lexemes. -/
theorem isWritten_of_ofLexemes (h : ofLexemes source lexemes = .ok markup) : IsWritten source markup lexemes := by
  obtain ⟨⟨markup, cursor⟩, hmarkup, h⟩ := of_bind_eq_ok h
  obtain ⟨⟨⟩, hfinish, h⟩ := of_bind_eq_ok h
  cases h
  obtain ⟨pipes, rest, rfl, hpipes, hrest⟩ := exists_pipes lexemes
  by_cases hne : rest = []
  · subst hne
    rw [Cursor.markup, skipPipes_append hpipes hrest] at hmarkup
    obtain ⟨rfl, -⟩ := Prod.mk.inj (Except.ok.inj hmarkup)
    rw [List.append_nil]
    exact .nothing hpipes
  · rw [markup_behind_pipes hpipes hrest hne] at hmarkup
    obtain ⟨⟨primary, after⟩, hprimary, hmarkup⟩ := of_bind_eq_ok hmarkup
    obtain ⟨front, rest, rfl, rfl, hfront⟩ := (readsWritten source _).expr hprimary
    obtain ⟨⟨filters, final⟩, hfilters, hmarkup⟩ := of_bind_eq_ok hmarkup
    obtain ⟨back, rest, rfl, rfl, hback⟩ := (readsWritten source _).filters hfilters
    obtain ⟨rfl, rfl⟩ := Prod.mk.inj (Except.ok.inj hmarkup)
    have hrest : rest = [] := by
      cases rest with
      | nil => rfl
      | cons placed rest => cases hfinish
    subst hrest
    have hname : (behind source (pipes.getLast?.or none) front (back ++ [])).textFrom
        (behind source none pipes (front ++ (back ++ []))).offset = coveredText source front :=
      textFrom_behind hfront.ne_nil _ _ (back ++ []) (back ++ [])
    rw [hname, List.append_nil, ← List.append_assoc]
    exact .pipeline hpipes hfront hback

/-- The leniency rule removes at most one lexeme, a parenthesis. -/
theorem dropLoneParen_eq_self_or (lexemes : List PlacedLexeme) :
    dropLoneParen lexemes = lexemes ∨
      ∃ front paren back, (paren.opens = true ∨ paren.closes = true) ∧ lexemes = front ++ paren :: back ∧
        dropLoneParen lexemes = front ++ back := by
  rw [dropLoneParen]
  split
  · obtain heq | ⟨paren, front, back, -, hparen, hlexemes, heq⟩ := List.exists_or_eq_self_of_eraseP PlacedLexeme.opens lexemes
    · exact .inl heq
    · exact .inr ⟨front, paren, back, .inl hparen, hlexemes, heq⟩
  · split
    · obtain heq | ⟨paren, front, back, -, hparen, hlexemes, heq⟩ :=
        List.exists_or_eq_self_of_eraseP PlacedLexeme.closes lexemes.reverse
      · rw [heq, List.reverse_reverse]
        exact .inl rfl
      · refine .inr ⟨back.reverse, paren, front.reverse, .inr hparen, ?_, ?_⟩
        · simpa using congrArg List.reverse hlexemes
        · rw [heq, List.reverse_append]
    · exact .inl rfl

/-- The parser of markups accepts exactly what the grammar describes and returns the tree of the derivation, which is the
only one. -/
theorem accepts_exactly_written (source : String) :
    (∀ lexemes markup, ofLexemes source lexemes = .ok markup ↔ IsWritten source markup lexemes) ∧
      (∀ lexemes markup other, IsWritten source markup lexemes → IsWritten source other lexemes → markup = other) ∧
      (∀ markup, parse source = .ok markup ↔
        ∃ lexemes, Lexeme.scan source = .ok lexemes ∧ IsWritten source markup (dropLoneParen lexemes)) ∧
      ∀ lexemes, dropLoneParen lexemes = lexemes ∨
        ∃ front paren back, (paren.opens = true ∨ paren.closes = true) ∧ lexemes = front ++ paren :: back ∧
          dropLoneParen lexemes = front ++ back := by
  have haccepts {lexemes : List PlacedLexeme} {markup : Markup} :
      ofLexemes source lexemes = .ok markup ↔ IsWritten source markup lexemes :=
    ⟨isWritten_of_ofLexemes, ofLexemes_of_isWritten⟩
  refine ⟨fun lexemes markup ↦ haccepts, ?_, fun markup ↦ ⟨?_, ?_⟩, dropLoneParen_eq_self_or⟩
  · intro lexemes markup other hmarkup hother
    rw [← haccepts] at hmarkup hother
    exact Except.ok.inj (hmarkup.symm.trans hother)
  · intro h
    obtain ⟨lexemes, hscan, h⟩ := of_bind_eq_ok h
    exact ⟨lexemes, hscan, haccepts.mp h⟩
  · rintro ⟨lexemes, hscan, h⟩
    rw [parse, hscan]
    exact haccepts.mpr h

end Markup

end Liquid
