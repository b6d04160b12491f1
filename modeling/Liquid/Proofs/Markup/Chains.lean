import Liquid.Proofs.Markup.Acceptance

/-!
# Chains of terms

A condition is written as a chain: operands and comparisons with `and` or `or` between them. The parser reads the chain from
left to right and returns the tree in which each joiner has all that stands behind it on its right. It accepts exactly the
chains that are no longer than the limit, and gives up at a joiner behind as many terms as the limit allows.
-/

namespace Liquid

namespace Condition

/-- What joins two conditions. -/
inductive Joiner where
  | and
  | or
deriving Repr, DecidableEq

namespace Joiner

/-- The word that writes a joiner. -/
def word : Joiner → String
  | and => "and"
  | or => "or"

/-- Two conditions with a joiner between them. -/
def join : Joiner → Condition → Condition → Condition
  | and => Condition.and
  | or => Condition.or

end Joiner

/-- An operand that is tested, or a comparison of two operands. -/
inductive Term where
  | operand (tested : Expr)
  | comparison (left : Expr) (operator : String) (right : Expr)

/-- The condition that a term is. -/
def Term.condition : Term → Condition
  | operand tested => .truthy tested
  | comparison left operator right => .compare left operator right

/-- Terms with a joiner behind each of them, and a last term. -/
structure Chain where
  joined : List (Term × Joiner)
  last : Term

namespace Chain

/-- The number of terms. -/
def length (chain : Chain) : Nat := chain.joined.length + 1

/-- The condition that a chain stands for: a joiner has the first term on its left and the rest of the chain on its right. -/
def tree (chain : Chain) : Condition :=
  chain.joined.foldr (fun part rest ↦ part.2.join part.1.condition rest) chain.last.condition

end Chain

/-! ## The grammar of conditions -/

/-- The name of the operator that a lexeme writes: signs, or a name that joins no conditions. -/
def operator? : Lexeme → Option String
  | .sign marks => some marks
  | .ident name => if name == "and" || name == "or" then none else some name
  | _ => none

/-- The lexemes of a part of a source write a term. -/
inductive WritesTerm (source : String) : Term → List PlacedLexeme → Prop where
  | operand {tested : Expr} {lexemes : List PlacedLexeme} (htested : Markup.Writes source (.expr tested) lexemes) :
      WritesTerm source (.operand tested) lexemes
  | comparison {left right : Expr} {operator : String} {lexeme : Lexeme} {start stop : Nat} {front back : List PlacedLexeme}
      (hleft : Markup.Writes source (.expr left) front) (hoperator : operator? lexeme = some operator)
      (hright : Markup.Writes source (.expr right) back) :
      WritesTerm source (.comparison left operator right) (front ++ ⟨lexeme, start, stop⟩ :: back)

/-- The lexemes of a part of a source write terms with joiners behind them. -/
inductive WritesJoined (source : String) : List (Term × Joiner) → List PlacedLexeme → Prop where
  | nil : WritesJoined source [] []
  | cons {term : Term} {joiner : Joiner} {others : List (Term × Joiner)} {start stop : Nat}
      {front back : List PlacedLexeme} (hterm : WritesTerm source term front) (hothers : WritesJoined source others back) :
      WritesJoined source ((term, joiner) :: others) (front ++ ⟨.ident joiner.word, start, stop⟩ :: back)

/-- The lexemes of a source write a chain. -/
def WritesChain (source : String) (chain : Chain) (lexemes : List PlacedLexeme) : Prop :=
  ∃ front back, lexemes = front ++ back ∧ WritesJoined source chain.joined front ∧ WritesTerm source chain.last back

namespace WritesChain

variable {source : String} {term : Term} {front back lexemes : List PlacedLexeme}

theorem single (hterm : WritesTerm source term lexemes) : WritesChain source ⟨[], term⟩ lexemes :=
  ⟨[], lexemes, rfl, .nil, hterm⟩

theorem cons {chain : Chain} (hterm : WritesTerm source term front) (joiner : Joiner) (start stop : Nat)
    (hchain : WritesChain source chain back) :
    WritesChain source ⟨(term, joiner) :: chain.joined, chain.last⟩
      (front ++ ⟨.ident joiner.word, start, stop⟩ :: back) := by
  obtain ⟨inside, ending, rfl, hjoined, hlast⟩ := hchain
  exact ⟨front ++ ⟨.ident joiner.word, start, stop⟩ :: inside, ending, by simp, .cons hterm hjoined, hlast⟩

end WritesChain

end Condition

namespace Cursor

open Markup Condition

variable {source tag : String} {limit fuel before : Nat} {last : Option PlacedLexeme} {cursor after : Cursor}

/-! ## Terms -/

/-- A term ends in front of a joiner and at the end. -/
def EndsTerm (next : Option Lexeme) : Prop := next = none ∨ ∃ joiner : Joiner, next = some (.ident joiner.word)

theorem EndsTerm.endsExpr {next : Option Lexeme} (h : EndsTerm next) : EndsExpr next := by
  obtain rfl | ⟨joiner, rfl⟩ := h <;> trivial

theorem EndsTerm.operator?_eq_none {next : Option Lexeme} (h : EndsTerm next) : next.bind operator? = none := by
  obtain rfl | ⟨_ | _, rfl⟩ := h <;> rfl

theorem endsExpr_of_operator? {lexeme : Lexeme} {operator : String} (h : operator? lexeme = some operator) :
    EndsExpr (some lexeme) := by
  cases lexeme <;> trivial

/-- A term is a comparison if an operator follows its first operand. -/
theorem term_eq (cursor : Cursor) : cursor.term = (do
    let (left, cursor) ← cursor.expr
    match cursor.lexeme?.bind operator? with
    | some operator =>
      let (right, cursor) ← cursor.advance.expr
      return (.compare left operator right, cursor)
    | none => return (.truthy left, cursor)) := by
  rw [term]
  congr 1
  funext ⟨left, cursor⟩
  cases hnext : cursor.lexeme? with
  | none => simp only [hnext, Option.bind_none]
  | some lexeme =>
    simp only [hnext, Option.bind_some]
    cases lexeme <;> rfl

theorem term_of_operator?_eq_none {left : Expr} (hleft : cursor.expr = .ok (left, after))
    (hnext : after.lexeme?.bind operator? = none) : cursor.term = .ok (.truthy left, after) := by
  rw [term_eq, hleft]
  change (match after.lexeme?.bind operator? with | some operator => _ | none => _) = _
  rw [hnext]
  rfl

theorem term_of_operator?_eq_some {left : Expr} {operator : String} (hleft : cursor.expr = .ok (left, after))
    (hnext : after.lexeme?.bind operator? = some operator) :
    cursor.term = (do
      let (right, cursor) ← after.advance.expr
      return (.compare left operator right, cursor)) := by
  rw [term_eq, hleft]
  change (match after.lexeme?.bind operator? with | some operator => _ | none => _) = _
  rw [hnext]

/-- A term is read from the lexemes that write it. -/
theorem term_append {written : Term} {front rest : List PlacedLexeme} (h : WritesTerm source written front)
    (last : Option PlacedLexeme) (hends : EndsTerm (first? rest)) :
    term ⟨source, last, front ++ rest⟩ = .ok (written.condition, behind source last front rest) := by
  cases h with
  | operand htested => exact term_of_operator?_eq_none (expr_append htested last hends.endsExpr) hends.operator?_eq_none
  | @comparison left right operator lexeme start stop front back hleft hoperator hright =>
    have hfirst : expr ⟨source, last, front ++ ⟨lexeme, start, stop⟩ :: (back ++ rest)⟩ =
        .ok (left, behind source last front (⟨lexeme, start, stop⟩ :: (back ++ rest))) :=
      expr_append hleft last (endsExpr_of_operator? hoperator)
    have hsecond := expr_append hright (some ⟨lexeme, start, stop⟩) hends.endsExpr
    rw [behind_through source last front] at hsecond
    rw [List.append_assoc, List.cons_append, term_of_operator?_eq_some hfirst hoperator]
    change expr ⟨source, some ⟨lexeme, start, stop⟩, back ++ rest⟩ >>= _ = _
    rw [hsecond]
    rfl

/-- A term that is read is written by the lexemes that were passed. -/
theorem exists_writesTerm {condition : Condition} {lexemes : List PlacedLexeme}
    (h : term ⟨source, last, lexemes⟩ = .ok (condition, after)) :
    ∃ written front rest, Term.condition written = condition ∧ lexemes = front ++ rest ∧
      after = behind source last front rest ∧ WritesTerm source written front := by
  rw [term_eq] at h
  obtain ⟨⟨left, middle⟩, hleft, h⟩ := of_bind_eq_ok h
  obtain ⟨front, rest, rfl, rfl, hfront⟩ := (readsWritten source _).expr hleft
  dsimp only at h
  split at h
  · next operator hnext =>
    obtain ⟨lexeme, hlexeme, hoperator⟩ := Option.bind_eq_some_iff.1 hnext
    obtain ⟨start, stop, rest, rfl⟩ := of_first?_eq_some hlexeme
    obtain ⟨⟨right, final⟩, hright, h⟩ := of_bind_eq_ok h
    obtain ⟨back, rest, rfl, rfl, hback⟩ := (readsWritten source _).expr hright
    obtain ⟨rfl, rfl⟩ := Prod.mk.inj (Except.ok.inj h)
    exact ⟨.comparison left operator right, front ++ ⟨lexeme, start, stop⟩ :: back, rest, rfl, by simp,
      behind_through source last front _ back rest, .comparison hfront hoperator hback⟩
  · obtain ⟨rfl, rfl⟩ := Prod.mk.inj (Except.ok.inj h)
    exact ⟨.operand left, front, rest, rfl, rfl, rfl, .operand hfront⟩

/-! ## Chains -/

theorem atKeyword_word (source : String) (last : Option PlacedLexeme) (joiner : Joiner) (start stop : Nat)
    (rest : List PlacedLexeme) :
    atKeyword ⟨source, last, ⟨.ident joiner.word, start, stop⟩ :: rest⟩ "and" = (joiner == .and) ∧
      atKeyword ⟨source, last, ⟨.ident joiner.word, start, stop⟩ :: rest⟩ "or" = (joiner == .or) := by
  cases joiner <;> exact ⟨rfl, rfl⟩

/-- Behind a joiner the rest of a chain is read, unless there are too many terms in front of it. -/
theorem conditionWith_joiner {left : Condition} {joiner : Joiner} {start stop : Nat} {rest : List PlacedLexeme}
    (hterm : cursor.term = .ok (left, ⟨source, last, ⟨.ident joiner.word, start, stop⟩ :: rest⟩)) :
    conditionWith tag limit (fuel + 1) before cursor =
      if limit ≤ before + 1 then .error (.tooManyTerms tag limit)
      else do
        let ((right, count), cursor) ← conditionWith tag limit fuel (before + 1)
          ⟨source, some ⟨.ident joiner.word, start, stop⟩, rest⟩
        return ((joiner.join left right, count), cursor) := by
  rw [conditionWith, hterm]
  obtain ⟨hand, hor⟩ := atKeyword_word source last joiner start stop rest
  refine (pure_bind (left, Cursor.mk source last (⟨.ident joiner.word, start, stop⟩ :: rest)) _).trans ?_
  dsimp only
  rw [hand, hor]
  by_cases hlimit : limit ≤ before + 1
  · simp only [ge_iff_le, if_pos hlimit]
    cases joiner <;> rfl
  · simp only [ge_iff_le, if_neg hlimit]
    cases joiner <;> rfl

/-- Where no joiner follows, a term is the last one. -/
theorem conditionWith_last {left : Condition} (hterm : cursor.term = .ok (left, after))
    (hnext : ∀ joiner : Joiner, after.lexeme? ≠ some (.ident joiner.word)) :
    conditionWith tag limit (fuel + 1) before cursor = .ok ((left, before + 1), after) := by
  have hkeyword (joiner : Joiner) : after.atKeyword joiner.word = false := by
    rw [atKeyword]
    split
    · next name hname =>
      refine Bool.eq_false_iff.2 fun heq ↦ hnext joiner ?_
      rw [hname, eq_of_beq heq]
    · rfl
  have hand : after.atKeyword "and" = false := hkeyword .and
  have hor : after.atKeyword "or" = false := hkeyword .or
  rw [conditionWith, hterm]
  refine (pure_bind (left, after) _).trans ?_
  dsimp only
  rw [hand, hor]
  rfl

/-- A term is read in front of a joiner. -/
theorem term_append_joiner {written : Term} {front : List PlacedLexeme} (h : WritesTerm source written front)
    (last : Option PlacedLexeme) (joiner : Joiner) (start stop : Nat) (rest : List PlacedLexeme) :
    term ⟨source, last, front ++ ⟨.ident joiner.word, start, stop⟩ :: rest⟩ =
      .ok (written.condition, behind source last front (⟨.ident joiner.word, start, stop⟩ :: rest)) :=
  term_append h last (.inr ⟨joiner, rfl⟩)

/-- A chain within the limit is read from the lexemes that write it. -/
theorem conditionWith_append {joined : List (Term × Joiner)} {final : Term} {front back : List PlacedLexeme}
    (hjoined : WritesJoined source joined front) (hfinal : WritesTerm source final back)
    (last : Option PlacedLexeme) (hfuel : joined.length < fuel) (hlimit : before + joined.length < limit) :
    conditionWith tag limit fuel before ⟨source, last, front ++ back⟩ =
      .ok ((Chain.tree ⟨joined, final⟩, before + joined.length + 1), behind source last (front ++ back) []) := by
  obtain ⟨fuel, rfl⟩ := Nat.exists_eq_add_one.2 (Nat.zero_lt_of_lt hfuel)
  induction hjoined generalizing fuel before last with
  | nil =>
    have hterm : term ⟨source, last, back ++ []⟩ = .ok (final.condition, behind source last back []) :=
      term_append hfinal last (.inl rfl)
    rw [List.append_nil] at hterm
    exact conditionWith_last hterm nofun
  | @cons term joiner others start stop inside rest hterm hothers ih =>
    rw [List.length_cons] at hfuel hlimit ⊢
    obtain ⟨fuel, rfl⟩ := Nat.exists_eq_add_one.2 (Nat.zero_lt_of_lt (Nat.lt_of_succ_lt_succ hfuel))
    have hrest : conditionWith tag limit (fuel + 1) (before + 1)
        ⟨source, some ⟨.ident joiner.word, start, stop⟩, rest ++ back⟩ = _ :=
      ih (some ⟨.ident joiner.word, start, stop⟩) (by omega) fuel (by omega)
    rw [behind_through source last inside] at hrest
    rw [List.append_assoc, List.cons_append,
      conditionWith_joiner (term_append_joiner hterm last joiner start stop (rest ++ back)), if_neg (by omega), hrest,
      show before + (others.length + 1) + 1 = before + 1 + others.length + 1 by omega]
    rfl

/-- Terms with a joiner behind each of them are refused if they are as many as the limit allows. -/
theorem conditionWith_of_limit_le {joined : List (Term × Joiner)} {front : List PlacedLexeme}
    (hjoined : WritesJoined source joined front) (hne : joined ≠ []) (last : Option PlacedLexeme)
    (rest : List PlacedLexeme) (hfuel : joined.length ≤ fuel) (hlimit : limit ≤ before + joined.length) :
    conditionWith tag limit fuel before ⟨source, last, front ++ rest⟩ = .error (.tooManyTerms tag limit) := by
  induction hjoined generalizing fuel before last with
  | nil => exact absurd rfl hne
  | @cons term joiner others start stop inside back hterm hothers ih =>
    rw [List.length_cons] at hfuel hlimit
    obtain ⟨fuel, rfl⟩ := Nat.exists_eq_add_one.2 (Nat.zero_lt_of_lt hfuel)
    rw [List.append_assoc, List.cons_append,
      conditionWith_joiner (term_append_joiner hterm last joiner start stop (back ++ rest))]
    split
    · rfl
    · next hfirst =>
      have hothersNe : others ≠ [] := by
        rintro rfl
        exact hfirst hlimit
      rw [ih hothersNe _ (by omega) (by omega)]
      rfl

/-- A condition that is read is a chain within the limit. -/
theorem exists_writesChain {condition : Condition} {count : Nat} {lexemes : List PlacedLexeme} (hbefore : before < limit)
    (h : conditionWith tag limit fuel before ⟨source, last, lexemes⟩ = .ok ((condition, count), after)) :
    ∃ chain front rest, Chain.tree chain = condition ∧ before + chain.length = count ∧ count ≤ limit ∧
      lexemes = front ++ rest ∧ after = behind source last front rest ∧ WritesChain source chain front := by
  -- The limit is checked at each joiner, so that there are fewer terms in front of every term that is read.
  induction fuel generalizing before last lexemes condition count after with
  | zero => cases h
  | succ fuel ih =>
    have hread := h
    rw [conditionWith] at hread
    obtain ⟨⟨left, middle⟩, hterm, -⟩ := of_bind_eq_ok hread
    obtain ⟨term, front, rest, rfl, rfl, rfl, hfront⟩ := exists_writesTerm hterm
    by_cases hjoiner : ∃ joiner : Joiner, first? rest = some (.ident joiner.word)
    · obtain ⟨joiner, hfirst⟩ := hjoiner
      obtain ⟨start, stop, rest, rfl⟩ := of_first?_eq_some hfirst
      rw [conditionWith_joiner hterm] at h
      split at h
      · cases h
      · next hlimit =>
        obtain ⟨⟨⟨right, total⟩, final⟩, hright, h⟩ := of_bind_eq_ok h
        obtain ⟨chain, back, rest, rfl, rfl, hle, rfl, rfl, hchain⟩ := ih (by omega) hright
        obtain ⟨hresult, rfl⟩ := Prod.mk.inj (Except.ok.inj h)
        obtain ⟨rfl, rfl⟩ := Prod.mk.inj hresult
        refine ⟨⟨(term, joiner) :: chain.joined, chain.last⟩, front ++ ⟨.ident joiner.word, start, stop⟩ :: back, rest,
          rfl, ?_, hle, by simp, behind_through source last front _ back rest, .cons hfront joiner start stop hchain⟩
        simp only [Chain.length, List.length_cons]
        omega
    · rw [conditionWith_last hterm fun joiner hfirst ↦ hjoiner ⟨joiner, hfirst⟩] at h
      obtain ⟨hresult, rfl⟩ := Prod.mk.inj (Except.ok.inj h)
      obtain ⟨rfl, rfl⟩ := Prod.mk.inj hresult
      exact ⟨⟨[], term⟩, front, rest, rfl, rfl, hbefore, rfl, rfl, .single hfront⟩

end Cursor

namespace Condition

open Cursor

variable {source tag : String} {limit count : Nat} {condition : Condition} {lexemes : List PlacedLexeme}

theorem WritesTerm.ne_nil {term : Term} (h : WritesTerm source term lexemes) : lexemes ≠ [] := by
  cases h with
  | operand htested => exact htested.ne_nil
  | comparison => exact List.append_ne_nil_of_right_ne_nil _ (List.cons_ne_nil _ _)

theorem WritesChain.ne_nil {chain : Chain} (h : WritesChain source chain lexemes) : lexemes ≠ [] := by
  obtain ⟨front, back, rfl, -, hlast⟩ := h
  exact List.append_ne_nil_of_right_ne_nil front hlast.ne_nil

theorem ofLexemes_of_ne_nil (hne : lexemes ≠ []) : ofLexemes source tag limit lexemes = (do
    let (result, cursor) ← conditionWith tag limit (lexemes.length + 1) 0 ⟨source, none, lexemes⟩
    cursor.finish
    return result) := by
  rw [ofLexemes, if_neg (by simpa using hne)]

theorem WritesJoined.length_le {joined : List (Term × Joiner)} (h : WritesJoined source joined lexemes) :
    joined.length ≤ lexemes.length := by
  induction h with
  | nil => exact Nat.le_refl 0
  | cons _ _ ih =>
    simp only [List.length_append, List.length_cons]
    omega

/-- The parser accepts exactly the chains within the limit, and returns their trees and lengths. -/
theorem ofLexemes_eq_ok_iff (hlimit : 1 ≤ limit) : ofLexemes source tag limit lexemes = .ok (condition, count) ↔
    ∃ chain : Chain, WritesChain source chain lexemes ∧ chain.tree = condition ∧ chain.length = count ∧ count ≤ limit := by
  constructor
  · intro h
    have hne : lexemes ≠ [] := by
      rintro rfl
      cases h
    rw [ofLexemes_of_ne_nil hne] at h
    obtain ⟨⟨⟨read, total⟩, after⟩, hread, h⟩ := of_bind_eq_ok h
    obtain ⟨⟨⟩, hfinish, h⟩ := of_bind_eq_ok h
    obtain ⟨rfl, rfl⟩ := Prod.mk.inj (Except.ok.inj h)
    obtain ⟨chain, front, rest, htree, hcount, hle, rfl, rfl, hchain⟩ := exists_writesChain hlimit hread
    cases rest with
    | nil =>
      rw [List.append_nil]
      exact ⟨chain, hchain, htree, by rw [← hcount, Nat.zero_add], hle⟩
    | cons placed rest =>
      -- Something is left over behind the chain.
      cases hfinish
  · rintro ⟨⟨joined, last⟩, hchain, rfl, rfl, hle⟩
    have hne := hchain.ne_nil
    obtain ⟨front, back, rfl, hjoined, hlast⟩ := hchain
    have hlength : joined.length ≤ front.length := hjoined.length_le
    have hread : conditionWith tag limit ((front ++ back).length + 1) 0 ⟨source, none, front ++ back⟩ =
        .ok ((Chain.tree ⟨joined, last⟩, 0 + joined.length + 1), behind source none (front ++ back) []) := by
      apply conditionWith_append hjoined hlast
      · simp only [List.length_append]
        omega
      · rw [Nat.zero_add]
        exact hle
    rw [ofLexemes_of_ne_nil hne, hread, Nat.zero_add]
    rfl

/-- As many terms as the limit allows with a joiner behind the last of them are refused, whatever follows. -/
theorem ofLexemes_of_writesJoined {joined : List (Term × Joiner)} {front : List PlacedLexeme}
    (hjoined : WritesJoined source joined front) (hlimit : 1 ≤ limit) (hlength : joined.length = limit)
    (rest : List PlacedLexeme) : ofLexemes source tag limit (front ++ rest) = .error (.tooManyTerms tag limit) := by
  have hjoinedNe : joined ≠ [] := by
    rintro rfl
    rw [List.length_nil] at hlength
    omega
  have hle := hjoined.length_le
  have hne : front ++ rest ≠ [] := by
    apply List.append_ne_nil_of_left_ne_nil
    apply List.ne_nil_of_length_pos
    omega
  have hread : conditionWith tag limit ((front ++ rest).length + 1) 0 ⟨source, none, front ++ rest⟩ =
      .error (.tooManyTerms tag limit) := by
    apply conditionWith_of_limit_le hjoined hjoinedNe
    · simp only [List.length_append]
      omega
    · omega
  rw [ofLexemes_of_ne_nil hne, hread]
  rfl

end Condition

end Liquid
