import Liquid.Proofs.Markup.Grammar

/-!
# Reading what the grammar describes

The cursor reads a phrase from the lexemes that write it, provided that what follows cannot belong to the phrase: it never
looks further ahead than the grammar allows it to. Conversely, whatever it reads is written by the lexemes that it
passed. So a markup is accepted exactly if its lexemes write one, and it is that one.
-/

namespace Liquid

namespace Cursor

open Markup

/-- The cursor behind lexemes that follow a last one. -/
def behind (source : String) (last : Option PlacedLexeme) (front rest : List PlacedLexeme) : Cursor :=
  ⟨source, front.getLast?.or last, rest⟩

/-- What was passed in front of the last lexemes does not matter. -/
theorem behind_through (source : String) (last : Option PlacedLexeme) (front : List PlacedLexeme)
    (placed : PlacedLexeme) (back rest : List PlacedLexeme) :
    behind source (some placed) back rest = behind source last (front ++ placed :: back) rest := by
  cases back with
  | nil => simp [behind]
  | cons next others => simp [behind, List.getLast?_append, List.getLast?_cons]

theorem behind_append (source : String) (last : Option PlacedLexeme) (front back rest : List PlacedLexeme) :
    behind source (front.getLast?.or last) back rest = behind source last (front ++ back) rest := by
  simp [behind, List.getLast?_append, Option.or_assoc]

/-- The text from the first to the last of the lexemes that were passed. -/
theorem textFrom_behind {source : String} {front : List PlacedLexeme} (h : front ≠ []) (last before : Option PlacedLexeme)
    (rest ahead : List PlacedLexeme) :
    (behind source last front rest).textFrom (offset ⟨source, before, front ++ ahead⟩) = coveredText source front := by
  obtain ⟨placed, others, rfl⟩ := List.exists_cons_of_ne_nil h
  have hlast : (placed :: others).getLast?.or last = (placed :: others).getLast? := by
    simp [List.getLast?_cons]
  simp only [textFrom, stop, behind, hlast, coveredText]
  rfl

/-! ## Every phrase is read -/

/-- From lexemes that write a phrase the cursor reads that phrase, whatever follows that cannot belong to it. -/
def Reads (source : String) : Phrase → List PlacedLexeme → Prop
  | .expr expr, front => ∀ fuel last rest, front.length + rest.length < fuel → EndsExpr (first? rest) →
      exprWith fuel ⟨source, last, front ++ rest⟩ = .ok (expr, behind source last front rest)
  | .segments segments, front => ∀ fuel before last rest, front.length + rest.length < fuel → EndsExpr (first? rest) →
      pathWith fuel before ⟨source, last, front ++ rest⟩ =
        .ok (.path (before ++ segments), behind source last front rest)
  | .filters filters, front => ∀ fuel last rest, front.length + rest.length < fuel → EndsFilters (first? rest) →
      filtersWith fuel ⟨source, last, front ++ rest⟩ = .ok (filters, behind source last front rest)
  | .arguments arguments, front => ∀ fuel last rest, front.length + rest.length + 1 < fuel →
      EndsArguments (first? rest) →
      argumentsWith fuel ⟨source, last, front ++ rest⟩ = .ok (arguments, behind source last front rest)

variable {source : String}

theorem endsExpr_of_endsArguments {next : Option Lexeme} (h : EndsArguments next) : EndsExpr next := by
  cases next with
  | none => trivial
  | some lexeme => cases lexeme <;> trivial

/-- What may follow filters may follow what stands in front of them. -/
theorem endsArguments_of_filters {filters : List FilterRequest} {back rest : List PlacedLexeme}
    (h : Writes source (.filters filters) back) (hends : EndsFilters (first? rest)) :
    EndsArguments (first? (back ++ rest)) := by
  obtain hfirst | hfirst := h.first?_append rest
  · rw [hfirst]
    cases hnext : first? rest with
    | none => trivial
    | some lexeme =>
      rw [hnext] at hends
      cases lexeme <;> trivial
  · rw [hfirst]
    trivial

theorem lexeme?_eq_first? (last : Option PlacedLexeme) (rest : List PlacedLexeme) :
    lexeme? ⟨source, last, rest⟩ = first? rest := rfl

theorem continuesPath_eq_true {last : Option PlacedLexeme} {rest : List PlacedLexeme} (h : ContinuesPath (first? rest)) :
    continuesPath ⟨source, last, rest⟩ = true := by
  rw [continuesPath, lexeme?_eq_first?]
  cases hnext : first? rest with
  | none =>
    rw [hnext] at h
    exact h.elim
  | some lexeme =>
    rw [hnext] at h
    cases lexeme <;> first | rfl | exact h.elim

theorem continuesPath_eq_false {last : Option PlacedLexeme} {rest : List PlacedLexeme} (h : EndsExpr (first? rest)) :
    continuesPath ⟨source, last, rest⟩ = false := by
  rw [continuesPath, lexeme?_eq_first?]
  cases hnext : first? rest with
  | none => rfl
  | some lexeme =>
    rw [hnext] at h
    cases lexeme <;> first | rfl | exact h.elim

/-- Where no path goes on, the segments that were read are all. -/
theorem pathWith_of_not_continuesPath {fuel : Nat} {before : List Segment} {cursor : Cursor}
    (h : cursor.continuesPath = false) : pathWith (fuel + 1) before cursor = .ok (.path before, cursor) := by
  rw [continuesPath] at h
  rw [pathWith]
  cases hnext : cursor.lexeme? with
  | none => rfl
  | some lexeme =>
    rw [hnext] at h
    cases lexeme <;> first | rfl | cases h

theorem filtersWith_of_endsFilters {fuel : Nat} {last : Option PlacedLexeme} {rest : List PlacedLexeme}
    (h : EndsFilters (first? rest)) :
    filtersWith (fuel + 1) ⟨source, last, rest⟩ = .ok ([], ⟨source, last, rest⟩) := by
  rw [filtersWith, lexeme?_eq_first?]
  cases hnext : first? rest with
  | none => rfl
  | some lexeme =>
    rw [hnext] at h
    cases lexeme <;> first | rfl | exact h.elim

/-! ### One lexeme at a time -/

/-- An identifier is a keyword only if no path goes on behind it. -/
theorem exprWith_ident (name : String) (fuel : Nat) (last : Option PlacedLexeme) (start stop : Nat)
    (rest : List PlacedLexeme) :
    exprWith (fuel + 1) ⟨source, last, ⟨.ident name, start, stop⟩ :: rest⟩ =
      let after : Cursor := ⟨source, some ⟨.ident name, start, stop⟩, rest⟩
      match if after.continuesPath then none else keyword? name with
      | some value => .ok (.literal value, after)
      | none => pathWith fuel [.member name] after := by
  rw [exprWith]
  rfl

theorem exprWith_openBracket (fuel : Nat) (last : Option PlacedLexeme) (start stop : Nat) (rest : List PlacedLexeme) :
    exprWith (fuel + 1) ⟨source, last, ⟨.openBracket, start, stop⟩ :: rest⟩ = (do
      let (key, cursor) ← exprWith fuel ⟨source, some ⟨.openBracket, start, stop⟩, rest⟩
      let cursor ← cursor.closeBracket
      pathWith fuel [.index key] cursor) := by
  rw [exprWith]
  rfl

theorem pathWith_openBracket (fuel : Nat) (before : List Segment) (last : Option PlacedLexeme) (start stop : Nat)
    (rest : List PlacedLexeme) :
    pathWith (fuel + 1) before ⟨source, last, ⟨.openBracket, start, stop⟩ :: rest⟩ = (do
      let (key, cursor) ← exprWith fuel ⟨source, some ⟨.openBracket, start, stop⟩, rest⟩
      let cursor ← cursor.closeBracket
      pathWith fuel (before ++ [.index key]) cursor) := by
  rw [pathWith]
  rfl

/-- An opening parenthesis begins a range if dots follow the first expression, -/
theorem exprWith_openParen_of_dots {fuel start stop start' stop' : Nat} {before last : Option PlacedLexeme}
    {inside rest : List PlacedLexeme} {first : Expr}
    (h : exprWith fuel ⟨source, some ⟨.openParen, start, stop⟩, inside⟩ =
      .ok (first, ⟨source, last, ⟨.dots, start', stop'⟩ :: rest⟩)) :
    exprWith (fuel + 1) ⟨source, before, ⟨.openParen, start, stop⟩ :: inside⟩ = (do
      let (final, cursor) ← exprWith fuel ⟨source, some ⟨.dots, start', stop'⟩, rest⟩
      let cursor ← cursor.closeParen
      return (.range first final, cursor)) := by
  rw [exprWith]
  change exprWith fuel ⟨source, some ⟨.openParen, start, stop⟩, inside⟩ >>= _ = _
  rw [h]
  rfl

/-- and a pipeline otherwise. -/
theorem exprWith_openParen_of_ne_dots {fuel start stop : Nat} {before : Option PlacedLexeme} {inside : List PlacedLexeme}
    {first : Expr} {cursor : Cursor}
    (h : exprWith fuel ⟨source, some ⟨.openParen, start, stop⟩, inside⟩ = .ok (first, cursor))
    (hdots : cursor.lexeme? ≠ some .dots) :
    exprWith (fuel + 1) ⟨source, before, ⟨.openParen, start, stop⟩ :: inside⟩ = (do
      let name := cursor.textFrom (offset ⟨source, some ⟨.openParen, start, stop⟩, inside⟩)
      let (filters, cursor) ← filtersWith fuel cursor
      let cursor ← cursor.closeParen
      return (enclosed name first filters, cursor)) := by
  rw [exprWith]
  change exprWith fuel ⟨source, some ⟨.openParen, start, stop⟩, inside⟩ >>= _ = _
  rw [h]
  refine (pure_bind (first, cursor) _).trans ?_
  dsimp only
  split
  · next heq => exact (hdots heq).elim
  · rfl

/-- A pipe without a filter is passed. -/
theorem filtersWith_pipe_of_skipsFilter {fuel start stop : Nat} {last : Option PlacedLexeme} {rest : List PlacedLexeme}
    (h : skipsFilter ⟨source, some ⟨.pipe, start, stop⟩, rest⟩ = true) :
    filtersWith (fuel + 1) ⟨source, last, ⟨.pipe, start, stop⟩ :: rest⟩ =
      filtersWith fuel ⟨source, some ⟨.pipe, start, stop⟩, rest⟩ := by
  rw [filtersWith]
  exact if_pos h

/-- A name behind a pipe begins a filter, with arguments if a colon follows it -/
theorem filtersWith_pipe_ident_colon (name : String) (fuel start stop start' stop' start'' stop'' : Nat)
    (last : Option PlacedLexeme) (rest : List PlacedLexeme) :
    filtersWith (fuel + 1)
        ⟨source, last, ⟨.pipe, start, stop⟩ :: ⟨.ident name, start', stop'⟩ :: ⟨.colon, start'', stop''⟩ :: rest⟩ = (do
      let (arguments, cursor) ← argumentsWith fuel ⟨source, some ⟨.colon, start'', stop''⟩, rest⟩
      let (others, cursor) ← filtersWith fuel cursor
      return (.mk name (arguments.map Prod.fst) (arguments.map Prod.snd) :: others, cursor)) := by
  rw [filtersWith]
  rfl

/-- and without arguments otherwise. -/
theorem filtersWith_pipe_ident_of_ne_colon {name : String} {fuel start stop start' stop' : Nat}
    {last : Option PlacedLexeme} {rest : List PlacedLexeme} (h : first? rest ≠ some .colon) :
    filtersWith (fuel + 1) ⟨source, last, ⟨.pipe, start, stop⟩ :: ⟨.ident name, start', stop'⟩ :: rest⟩ = (do
      let (others, cursor) ← filtersWith fuel ⟨source, some ⟨.ident name, start', stop'⟩, rest⟩
      return (.mk name [] [] :: others, cursor)) := by
  rw [filtersWith]
  refine (if_neg Bool.false_ne_true).trans ?_
  refine (pure_bind (name, Cursor.mk source (some ⟨.ident name, start', stop'⟩) rest) _).trans ?_
  dsimp only
  split
  · next heq => exact (h heq).elim
  · rfl

theorem argumentsWith_of_ne_colon {fuel : Nat} {cursor : Cursor} (h : cursor.second? ≠ some .colon) :
    argumentsWith (fuel + 1) cursor = (do
      let (argument, after) ← exprWith fuel cursor
      let text := after.textFrom cursor.offset
      match after.lexeme? with
      | some .comma => do
        let (others, after) ← argumentsWith fuel after.advance
        return ((text, argument) :: others, after)
      | _ => return ([(text, argument)], after)) := by
  rw [argumentsWith]
  split
  · next hcolon => exact (h hcolon).elim
  · rfl

/-! ### One constructor of the grammar at a time -/

theorem reads_named {name : String} {segments : List Segment} {start stop : Nat} {back : List PlacedLexeme}
    (hname : segments = [] → keyword? name = none) (hrest : Writes source (.segments segments) back)
    (hreads : Reads source (.segments segments) back) :
    Reads source (.expr (.path (.member name :: segments))) (⟨.ident name, start, stop⟩ :: back) := by
  rintro (_ | fuel) last rest hfuel hends
  · omega
  · have hpath := hreads fuel [.member name] (some ⟨.ident name, start, stop⟩) rest
      (by simp only [List.length_cons] at hfuel; omega) hends
    rw [behind_through source last []] at hpath
    rw [List.cons_append, exprWith_ident]
    obtain ⟨rfl, rfl⟩ | hcontinues := hrest.continuesPath
    · simp only [List.nil_append, continuesPath_eq_false hends, hname rfl]
      exact hpath
    · obtain ⟨placed, others, rfl⟩ : ∃ placed others, back = placed :: others := by
        apply List.exists_cons_of_ne_nil
        rintro rfl
        exact hcontinues
      have hahead : continuesPath ⟨source, some ⟨.ident name, start, stop⟩, placed :: others ++ rest⟩ = true :=
        continuesPath_eq_true hcontinues
      simp only [hahead]
      exact hpath

theorem reads_indexed {key : Expr} {segments : List Segment} {start stop start' stop' : Nat}
    {inside back : List PlacedLexeme} (hkey : Reads source (.expr key) inside)
    (hrest : Reads source (.segments segments) back) :
    Reads source (.expr (.path (.index key :: segments)))
      (⟨.openBracket, start, stop⟩ :: inside ++ ⟨.closeBracket, start', stop'⟩ :: back) := by
  rintro (_ | fuel) last rest hfuel hends
  · omega
  · simp only [List.length_cons, List.length_append] at hfuel
    have hinside := hkey fuel (some ⟨.openBracket, start, stop⟩) (⟨.closeBracket, start', stop'⟩ :: back ++ rest)
      (by simp only [List.cons_append, List.length_cons, List.length_append]; omega) trivial
    have hpath := hrest fuel [.index key] (some ⟨.closeBracket, start', stop'⟩) rest (by omega) hends
    rw [behind_through source last (⟨.openBracket, start, stop⟩ :: inside)] at hpath
    rw [List.append_assoc, List.cons_append, exprWith_openBracket, hinside]
    exact hpath

theorem reads_range {first final : Expr} {start stop start' stop' start'' stop'' : Nat} {front back : List PlacedLexeme}
    (hfirst : Reads source (.expr first) front) (hfinal : Reads source (.expr final) back) :
    Reads source (.expr (.range first final))
      (⟨.openParen, start, stop⟩ :: front ++ ⟨.dots, start', stop'⟩ :: back ++ [⟨.closeParen, start'', stop''⟩]) := by
  rintro (_ | fuel) last rest hfuel hends
  · omega
  · simp only [List.length_cons, List.length_append, List.length_nil] at hfuel
    have hfront := hfirst fuel (some ⟨.openParen, start, stop⟩)
      (⟨.dots, start', stop'⟩ :: (back ++ ⟨.closeParen, start'', stop''⟩ :: rest))
      (by simp only [List.length_cons, List.length_append]; omega) trivial
    have hback := hfinal fuel (some ⟨.dots, start', stop'⟩) (⟨.closeParen, start'', stop''⟩ :: rest)
      (by simp only [List.length_cons]; omega) trivial
    have hclose := behind_through source last (⟨.openParen, start, stop⟩ :: front ++ ⟨.dots, start', stop'⟩ :: back)
      ⟨.closeParen, start'', stop''⟩ [] rest
    rw [List.append_assoc, List.singleton_append, List.append_assoc, List.cons_append, List.cons_append,
      exprWith_openParen_of_dots hfront, hback, ← hclose]
    rfl

theorem reads_enclosed {primary : Expr} {filters : List FilterRequest} {start stop start' stop' : Nat}
    {front back : List PlacedLexeme} (hprimary : Writes source (.expr primary) front)
    (hfilters : Writes source (.filters filters) back) (hfront : Reads source (.expr primary) front)
    (hback : Reads source (.filters filters) back) :
    Reads source (.expr (enclosed (coveredText source front) primary filters))
      (⟨.openParen, start, stop⟩ :: front ++ back ++ [⟨.closeParen, start', stop'⟩]) := by
  rintro (_ | fuel) last rest hfuel hends
  · omega
  · simp only [List.length_cons, List.length_append, List.length_nil] at hfuel
    have hfollows : EndsArguments (first? (back ++ ⟨.closeParen, start', stop'⟩ :: rest)) :=
      endsArguments_of_filters hfilters trivial
    have hinside := hfront fuel (some ⟨.openParen, start, stop⟩) (back ++ ⟨.closeParen, start', stop'⟩ :: rest)
      (by simp only [List.length_cons, List.length_append]; omega) (endsExpr_of_endsArguments hfollows)
    have hpipes := hback fuel (front.getLast?.or (some ⟨.openParen, start, stop⟩)) (⟨.closeParen, start', stop'⟩ :: rest)
      (by simp only [List.length_cons]; omega) trivial
    have hdots : first? (back ++ ⟨.closeParen, start', stop'⟩ :: rest) ≠ some .dots := by
      obtain hfirst | hfirst := hfilters.first?_append (⟨.closeParen, start', stop'⟩ :: rest) <;>
        · rw [hfirst]
          exact nofun
    have hclose := behind_through source last (⟨.openParen, start, stop⟩ :: front ++ back)
      ⟨.closeParen, start', stop'⟩ [] rest
    rw [List.append_assoc, List.singleton_append, List.append_assoc, List.cons_append,
      exprWith_openParen_of_ne_dots hinside hdots, textFrom_behind hprimary.ne_nil, behind, hpipes, ← hclose]
    rfl

theorem reads_member {name : String} {segments : List Segment} {start stop start' stop' : Nat}
    {back : List PlacedLexeme} (hrest : Reads source (.segments segments) back) :
    Reads source (.segments (.member name :: segments))
      (⟨.dot, start, stop⟩ :: ⟨.ident name, start', stop'⟩ :: back) := by
  rintro (_ | fuel) before last rest hfuel hends
  · omega
  · have hpath := hrest fuel (before ++ [.member name]) (some ⟨.ident name, start', stop'⟩) rest
      (by simp only [List.length_cons] at hfuel; omega) hends
    rw [List.append_assoc, List.singleton_append, behind_through source last [⟨.dot, start, stop⟩]] at hpath
    rw [pathWith]
    exact hpath

theorem reads_place {value : Int64} {segments : List Segment} {start stop start' stop' : Nat}
    {back : List PlacedLexeme} (hrest : Reads source (.segments segments) back) :
    Reads source (.segments (.index (.literal (.int value)) :: segments))
      (⟨.dot, start, stop⟩ :: ⟨.int value, start', stop'⟩ :: back) := by
  rintro (_ | fuel) before last rest hfuel hends
  · omega
  · have hpath := hrest fuel (before ++ [.index (.literal (.int value))]) (some ⟨.int value, start', stop'⟩) rest
      (by simp only [List.length_cons] at hfuel; omega) hends
    rw [List.append_assoc, List.singleton_append, behind_through source last [⟨.dot, start, stop⟩]] at hpath
    rw [pathWith]
    exact hpath

theorem reads_index {key : Expr} {segments : List Segment} {start stop start' stop' : Nat}
    {inside back : List PlacedLexeme} (hkey : Reads source (.expr key) inside)
    (hrest : Reads source (.segments segments) back) :
    Reads source (.segments (.index key :: segments))
      (⟨.openBracket, start, stop⟩ :: inside ++ ⟨.closeBracket, start', stop'⟩ :: back) := by
  rintro (_ | fuel) before last rest hfuel hends
  · omega
  · simp only [List.length_cons, List.length_append] at hfuel
    have hinside := hkey fuel (some ⟨.openBracket, start, stop⟩) (⟨.closeBracket, start', stop'⟩ :: back ++ rest)
      (by simp only [List.cons_append, List.length_cons, List.length_append]; omega) trivial
    have hpath := hrest fuel (before ++ [.index key]) (some ⟨.closeBracket, start', stop'⟩) rest (by omega) hends
    rw [List.append_assoc, List.singleton_append,
      behind_through source last (⟨.openBracket, start, stop⟩ :: inside)] at hpath
    rw [List.append_assoc, List.cons_append, pathWith_openBracket, hinside]
    exact hpath

theorem reads_skipped {filters : List FilterRequest} {start stop : Nat} {back : List PlacedLexeme}
    (hrest : Writes source (.filters filters) back) (hreads : Reads source (.filters filters) back) :
    Reads source (.filters filters) (⟨.pipe, start, stop⟩ :: back) := by
  rintro (_ | fuel) last rest hfuel hends
  · omega
  · have hback := hreads fuel (some ⟨.pipe, start, stop⟩) rest
      (by simp only [List.length_cons] at hfuel; omega) hends
    have hskips : skipsFilter ⟨source, some ⟨.pipe, start, stop⟩, back ++ rest⟩ = true := by
      rw [skipsFilter, lexeme?_eq_first?]
      obtain hfirst | hfirst := hrest.first?_append rest
      · rw [hfirst]
        cases hnext : first? rest with
        | none => rfl
        | some lexeme =>
          rw [hnext] at hends
          cases lexeme <;> first | rfl | exact hends.elim
      · rw [hfirst]
    rw [behind_through source last []] at hback
    rw [List.cons_append, filtersWith_pipe_of_skipsFilter hskips]
    exact hback

theorem reads_bare {name : String} {filters : List FilterRequest} {start stop start' stop' : Nat}
    {back : List PlacedLexeme} (hrest : Writes source (.filters filters) back)
    (hreads : Reads source (.filters filters) back) :
    Reads source (.filters (.mk name [] [] :: filters))
      (⟨.pipe, start, stop⟩ :: ⟨.ident name, start', stop'⟩ :: back) := by
  rintro (_ | fuel) last rest hfuel hends
  · omega
  · have hback := hreads fuel (some ⟨.ident name, start', stop'⟩) rest
      (by simp only [List.length_cons] at hfuel; omega) hends
    rw [behind_through source last [⟨.pipe, start, stop⟩]] at hback
    have hcolon : first? (back ++ rest) ≠ some .colon := by
      have hfollows := endsExpr_of_endsArguments (endsArguments_of_filters hrest hends)
      intro heq
      rw [heq] at hfollows
      exact hfollows
    rw [List.cons_append, List.cons_append, filtersWith_pipe_ident_of_ne_colon hcolon, hback]
    rfl

theorem reads_applied {name : String} {arguments : List (String × Expr)} {filters : List FilterRequest}
    {start stop start' stop' start'' stop'' : Nat} {inside back : List PlacedLexeme}
    (hrest : Writes source (.filters filters) back) (harguments : Reads source (.arguments arguments) inside)
    (hreads : Reads source (.filters filters) back) :
    Reads source (.filters (.mk name (arguments.map Prod.fst) (arguments.map Prod.snd) :: filters))
      (⟨.pipe, start, stop⟩ :: ⟨.ident name, start', stop'⟩ :: ⟨.colon, start'', stop''⟩ :: inside ++ back) := by
  rintro (_ | fuel) last rest hfuel hends
  · omega
  · simp only [List.length_cons, List.length_append] at hfuel
    have hinside := harguments fuel (some ⟨.colon, start'', stop''⟩) (back ++ rest)
      (by simp only [List.length_append]; omega) (endsArguments_of_filters hrest hends)
    have hback := hreads fuel (inside.getLast?.or (some ⟨.colon, start'', stop''⟩)) rest (by omega) hends
    rw [behind_append, behind_through source last [⟨.pipe, start, stop⟩, ⟨.ident name, start', stop'⟩]] at hback
    rw [List.append_assoc, List.cons_append, List.cons_append, List.cons_append, filtersWith_pipe_ident_colon, hinside]
    change filtersWith fuel (behind source (some ⟨.colon, start'', stop''⟩) inside (back ++ rest)) >>= _ = _
    rw [behind, hback]
    rfl

theorem reads_lastArgument {argument : Expr} {inside : List PlacedLexeme}
    (hargument : Writes source (.expr argument) inside) (hreads : Reads source (.expr argument) inside) :
    Reads source (.arguments [(coveredText source inside, argument)]) inside := by
  rintro (_ | fuel) last rest hfuel hends
  · omega
  · have hends' := endsExpr_of_endsArguments hends
    have hinside := hreads fuel last rest (by omega) hends'
    have hcolon : second? ⟨source, last, inside ++ rest⟩ ≠ some .colon := hargument.second_ne_colon hends'
    rw [argumentsWith_of_ne_colon hcolon, hinside]
    change (match first? rest with | some .comma => _ | _ => _) = _
    split
    · next heq =>
        rw [heq] at hends
        exact hends.elim
    · rw [← textFrom_behind hargument.ne_nil last last rest rest]
      rfl

theorem reads_argument {argument : Expr} {others : List (String × Expr)} {start stop : Nat}
    {inside back : List PlacedLexeme} (hargument : Writes source (.expr argument) inside)
    (hinside : Reads source (.expr argument) inside) (hback : Reads source (.arguments others) back) :
    Reads source (.arguments ((coveredText source inside, argument) :: others))
      (inside ++ ⟨.comma, start, stop⟩ :: back) := by
  rintro (_ | fuel) last rest hfuel hends
  · omega
  · simp only [List.length_cons, List.length_append] at hfuel
    have hfirst := hinside fuel last (⟨.comma, start, stop⟩ :: back ++ rest)
      (by simp only [List.cons_append, List.length_cons, List.length_append]; omega) trivial
    have hothers := hback fuel (some ⟨.comma, start, stop⟩) rest (by omega) hends
    have hcolon : second? ⟨source, last, inside ++ (⟨.comma, start, stop⟩ :: back ++ rest)⟩ ≠ some .colon :=
      hargument.second_ne_colon trivial
    rw [behind_through source last inside] at hothers
    rw [List.append_assoc, argumentsWith_of_ne_colon hcolon, hfirst]
    change argumentsWith fuel ⟨source, some ⟨.comma, start, stop⟩, back ++ rest⟩ >>= _ = _
    rw [hothers, ← textFrom_behind hargument.ne_nil last last (⟨.comma, start, stop⟩ :: back ++ rest)]
    rfl

/-- The lexemes that write a phrase are read as that phrase. -/
theorem reads_of_writes {phrase : Phrase} {lexemes : List PlacedLexeme} (h : Writes source phrase lexemes) :
    Reads source phrase lexemes := by
  induction h with
  | text | int | float =>
    rintro (_ | fuel) last rest hfuel hends
    · omega
    · rw [List.singleton_append, exprWith]
      rfl
  | keyword hkeyword =>
    rintro (_ | fuel) last rest hfuel hends
    · omega
    · simp only [List.singleton_append, exprWith_ident, continuesPath_eq_false hends, hkeyword]
      rfl
  | named hname hrest ih => exact reads_named hname hrest ih
  | indexed hkey hrest ihkey ihrest => exact reads_indexed ihkey ihrest
  | range hfirst hlast ihfirst ihlast => exact reads_range ihfirst ihlast
  | enclosed hprimary hfilters ihprimary ihfilters => exact reads_enclosed hprimary hfilters ihprimary ihfilters
  | noSegment =>
    rintro (_ | fuel) before last rest hfuel hends
    · omega
    · rw [List.nil_append, pathWith_of_not_continuesPath (continuesPath_eq_false hends), List.append_nil]
      rfl
  | member hrest ih => exact reads_member ih
  | place hrest ih => exact reads_place ih
  | index hkey hrest ihkey ihrest => exact reads_index ihkey ihrest
  | noFilter =>
    rintro (_ | fuel) last rest hfuel hends
    · omega
    · exact filtersWith_of_endsFilters hends
  | skipped hrest ih => exact reads_skipped hrest ih
  | bare hrest ih => exact reads_bare hrest ih
  | applied harguments hrest iharguments ihrest => exact reads_applied hrest iharguments ihrest
  | lastArgument hargument ih => exact reads_lastArgument hargument ih
  | argument hargument hrest ihargument ihrest => exact reads_argument hargument ihargument ihrest

/-- An expression is read from the lexemes that write it. -/
theorem expr_append {written : Expr} {front rest : List PlacedLexeme} (h : Writes source (.expr written) front)
    (last : Option PlacedLexeme) (hends : EndsExpr (first? rest)) :
    expr ⟨source, last, front ++ rest⟩ = .ok (written, behind source last front rest) := by
  apply reads_of_writes h
  · simp [fuel]
  · exact hends

/-- Filters are read from the lexemes that write them. -/
theorem filters_append {written : List FilterRequest} {front rest : List PlacedLexeme}
    (h : Writes source (.filters written) front) (last : Option PlacedLexeme) (hends : EndsFilters (first? rest)) :
    filters ⟨source, last, front ++ rest⟩ = .ok (written, behind source last front rest) := by
  apply reads_of_writes h
  · simp [fuel]
  · exact hends

end Cursor

end Liquid
