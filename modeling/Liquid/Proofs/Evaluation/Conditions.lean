import Liquid.Environment
import Liquid.Proofs.Evaluation.Composition
import Liquid.Proofs.Markup.Chains
import Liquid.Proofs.Markup.Refusal
import Liquid.Proofs.Markup.Scanning

/-!
# Evaluating chains

The terms of a condition are evaluated from left to right until one of them decides: a false one in front of `and`, a true one
in front of `or`. The result is then that of this term, and the terms behind it are not evaluated. So the value is the right
fold of the values of the terms, whatever the terms that are cut off would have given.
-/

namespace Liquid

namespace Condition

namespace Joiner

/-- The value in front of a joiner that decides the condition. -/
def decisive : Joiner → Bool
  | and => false
  | or => true

/-- Two values with a joiner between them. -/
def combine : Joiner → Bool → Bool → Bool
  | and => Bool.and
  | or => Bool.or

@[simp] theorem combine_decisive (joiner : Joiner) (rest : Bool) :
    joiner.combine joiner.decisive rest = joiner.decisive := by
  cases joiner <;> rfl

@[simp] theorem combine_not_decisive (joiner : Joiner) (rest : Bool) : joiner.combine (!joiner.decisive) rest = rest := by
  cases joiner <;> rfl

theorem eq_decisive_or_eq_not (joiner : Joiner) (value : Bool) : value = joiner.decisive ∨ value = !joiner.decisive := by
  cases joiner <;> cases value <;> decide

end Joiner

/-- The right fold of values with joiners between them. -/
def foldValues (joiners : List Joiner) (values : List Bool) (last : Bool) : Bool :=
  (joiners.zip values).foldr (fun part rest ↦ part.1.combine part.2 rest) last

@[simp] theorem foldValues_cons (joiner : Joiner) (joiners : List Joiner) (value : Bool) (values : List Bool)
    (last : Bool) :
    foldValues (joiner :: joiners) (value :: values) last = joiner.combine value (foldValues joiners values last) := rfl

variable {tools : Toolbox} {drive : Drive} {context : Context} {shared middle after : Shared}

/-- Behind a joiner nothing is evaluated unless the value in front of it leaves the condition open. -/
theorem eval_join (joiner : Joiner) (left right : Condition) :
    (joiner.join left right).eval tools drive context shared =
      match left.eval tools drive context shared with
      | (.ok value, middle) =>
        if value = joiner.decisive then (.ok value, middle) else right.eval tools drive context middle
      | (.error failure, middle) => (.error failure, middle) := by
  cases joiner with
  | and =>
    rw [Joiner.join, Condition.eval, Eval.run_bind]
    rcases left.eval tools drive context shared with ⟨_ | _ | _, middle⟩ <;> rfl
  | or =>
    rw [Joiner.join, Condition.eval, Eval.run_bind]
    rcases left.eval tools drive context shared with ⟨_ | _ | _, middle⟩ <;> rfl

/-- Terms are evaluated one after the other, and none of them decides. -/
inductive Undecided (tools : Toolbox) (drive : Drive) (context : Context) :
    List (Term × Joiner) → Shared → Shared → Prop where
  | nil {shared : Shared} : Undecided tools drive context [] shared shared
  | cons {term : Term} {joiner : Joiner} {others : List (Term × Joiner)} {shared middle after : Shared}
      (hterm : term.condition.eval tools drive context shared = (.ok (!joiner.decisive), middle))
      (hothers : Undecided tools drive context others middle after) :
      Undecided tools drive context ((term, joiner) :: others) shared after

/-- Values for the terms of a chain: for those that are evaluated the values that they have, for others any values. -/
inductive HasValues (tools : Toolbox) (drive : Drive) (context : Context) :
    List (Term × Joiner) → Term → Shared → List Bool → Bool → Prop where
  | last {last : Term} {shared after : Shared} {value : Bool}
      (hlast : last.condition.eval tools drive context shared = (.ok value, after)) :
      HasValues tools drive context [] last shared [] value
  | decided {term last : Term} {joiner : Joiner} {others : List (Term × Joiner)} {shared middle : Shared}
      {values : List Bool} {value : Bool}
      (hterm : term.condition.eval tools drive context shared = (.ok joiner.decisive, middle))
      (hlength : values.length = others.length) :
      HasValues tools drive context ((term, joiner) :: others) last shared (joiner.decisive :: values) value
  | undecided {term last : Term} {joiner : Joiner} {others : List (Term × Joiner)} {shared middle : Shared}
      {values : List Bool} {value : Bool}
      (hterm : term.condition.eval tools drive context shared = (.ok (!joiner.decisive), middle))
      (hothers : HasValues tools drive context others last middle values value) :
      HasValues tools drive context ((term, joiner) :: others) last shared ((!joiner.decisive) :: values) value

namespace Chain

variable {joined others : List (Term × Joiner)} {term last : Term} {joiner : Joiner}

theorem tree_cons (term : Term) (joiner : Joiner) (others : List (Term × Joiner)) (last : Term) :
    tree ⟨(term, joiner) :: others, last⟩ = joiner.join term.condition (tree ⟨others, last⟩) := rfl

/-- A term that leaves the condition open is passed. -/
theorem eval_of_undecided_term
    (hterm : term.condition.eval tools drive context shared = (.ok (!joiner.decisive), middle)) :
    (tree ⟨(term, joiner) :: others, last⟩).eval tools drive context shared =
      (tree ⟨others, last⟩).eval tools drive context middle := by
  rw [tree_cons, eval_join, hterm]
  exact if_neg (by cases joiner <;> decide)

/-- A term that decides or fails is the last one that is evaluated. -/
theorem eval_of_decided_term (hterm : (term.condition.eval tools drive context shared).1 ≠ .ok (!joiner.decisive)) :
    (tree ⟨(term, joiner) :: others, last⟩).eval tools drive context shared =
      term.condition.eval tools drive context shared := by
  rw [tree_cons, eval_join]
  rcases heval : term.condition.eval tools drive context shared with ⟨failure | value, middle⟩
  · rfl
  · rw [heval] at hterm
    refine if_pos ?_
    cases value <;> cases joiner <;> first | rfl | exact absurd rfl hterm

theorem eval_of_decisive (hterm : term.condition.eval tools drive context shared = (.ok joiner.decisive, middle)) :
    (tree ⟨(term, joiner) :: others, last⟩).eval tools drive context shared = (.ok joiner.decisive, middle) := by
  have hdecided : (term.condition.eval tools drive context shared).1 ≠ .ok (!joiner.decisive) := by
    rw [hterm]
    cases joiner <;> exact nofun
  rw [eval_of_decided_term hdecided, hterm]

/-- Terms that leave the condition open are passed. -/
theorem eval_of_undecided (h : Undecided tools drive context joined shared after) :
    (tree ⟨joined ++ others, last⟩).eval tools drive context shared =
      (tree ⟨others, last⟩).eval tools drive context after := by
  induction h with
  | nil => rfl
  | cons hterm _ ih => rw [List.cons_append, eval_of_undecided_term hterm, ih]

/-- All terms in front of the last one leave the condition open, or there is a first one that does not. -/
theorem undecided_or_exists (tools : Toolbox) (drive : Drive) (context : Context) (joined : List (Term × Joiner))
    (shared : Shared) :
    (∃ after, Undecided tools drive context joined shared after) ∨
      ∃ before term joiner behind middle, joined = before ++ (term, joiner) :: behind ∧
        Undecided tools drive context before shared middle ∧
        (term.condition.eval tools drive context middle).1 ≠ .ok (!joiner.decisive) := by
  induction joined generalizing shared with
  | nil => exact .inl ⟨shared, .nil⟩
  | cons part others ih =>
    obtain ⟨term, joiner⟩ := part
    rcases heval : term.condition.eval tools drive context shared with ⟨result, middle⟩
    by_cases hopen : result = .ok (!joiner.decisive)
    · obtain rfl := hopen
      obtain ⟨after, hafter⟩ | ⟨before, next, other, behind, later, rfl, hbefore, hnext⟩ := ih middle
      · exact .inl ⟨after, .cons heval hafter⟩
      · exact .inr ⟨(term, joiner) :: before, next, other, behind, later, rfl, .cons heval hbefore, hnext⟩
    · refine .inr ⟨[], term, joiner, others, shared, rfl, .nil, ?_⟩
      rw [heval]
      exact hopen

/-- The value of a chain is the right fold of values for its terms. -/
theorem eval_of_hasValues {values : List Bool} {value : Bool}
    (h : HasValues tools drive context joined last shared values value) :
    ((tree ⟨joined, last⟩).eval tools drive context shared).1 = .ok (foldValues (joined.map Prod.snd) values value) := by
  induction h with
  | last hlast => exact congrArg Prod.fst hlast
  | decided hterm _ => rw [eval_of_decisive hterm, List.map_cons, foldValues_cons, Joiner.combine_decisive]
  | undecided hterm _ ih =>
    rw [eval_of_undecided_term hterm, ih, List.map_cons, foldValues_cons, Joiner.combine_not_decisive]

/-- Where a chain has a value, there are values for its terms. -/
theorem exists_hasValues {result : Bool}
    (h : ((tree ⟨joined, last⟩).eval tools drive context shared).1 = .ok result) :
    ∃ values value, HasValues tools drive context joined last shared values value := by
  induction joined generalizing shared with
  | nil => exact ⟨[], result, .last (Prod.ext h rfl)⟩
  | cons part others ih =>
    obtain ⟨term, joiner⟩ := part
    rcases heval : term.condition.eval tools drive context shared with ⟨failure | value, middle⟩
    · rw [eval_of_decided_term (by rw [heval]; exact nofun), heval] at h
      cases h
    · obtain rfl | rfl := joiner.eq_decisive_or_eq_not value
      · -- The terms behind it are not evaluated, and any values will do for them.
        exact ⟨joiner.decisive :: List.replicate others.length false, false, .decided heval List.length_replicate⟩
      · rw [eval_of_undecided_term heval] at h
        obtain ⟨values, value, hvalues⟩ := ih h
        exact ⟨(!joiner.decisive) :: values, value, .undecided heval hvalues⟩

theorem eval_eq_ok_iff {result : Bool} : ((tree ⟨joined, last⟩).eval tools drive context shared).1 = .ok result ↔
    ∃ values value, HasValues tools drive context joined last shared values value ∧
      foldValues (joined.map Prod.snd) values value = result := by
  constructor
  · intro h
    obtain ⟨values, value, hvalues⟩ := exists_hasValues h
    rw [eval_of_hasValues hvalues] at h
    exact ⟨values, value, hvalues, Except.ok.inj h⟩
  · rintro ⟨values, value, hvalues, rfl⟩
    exact eval_of_hasValues hvalues

end Chain

/-- A condition is a chain of terms: it is accepted exactly if its lexemes write a chain within the limit, as the tree that
associates to the right, and refused with an error of syntax else, whatever follows as many joined terms as are allowed. The
tree has the right fold of the values of its terms as its value, and evaluating it is evaluating the terms up to the last one
or to the first that decides or fails, in their order, and nothing else. -/
theorem parsed_and_evaluated_as_chain {limit : Nat} (hlimit : 1 ≤ limit) (source tag : String) :
    (∀ condition count, Condition.parse source tag limit = .ok (condition, count) ↔
      ∃ lexemes chain, Lexeme.scan source = .ok lexemes ∧ WritesChain source chain lexemes ∧ chain.tree = condition ∧
        chain.length = count ∧ count ≤ limit) ∧
      (∀ joined front rest, Lexeme.scan source = .ok (front ++ rest) → WritesJoined source joined front →
        joined.length = limit → Condition.parse source tag limit = .error (.tooManyTerms tag limit)) ∧
      (∀ fault, Condition.parse source tag limit = .error fault → fault.kind = .syntaxError) ∧
      ∀ (chain : Chain) (tools : Toolbox) (drive : Drive) (context : Context) (shared : Shared),
        (∀ result, (chain.tree.eval tools drive context shared).1 = .ok result ↔
          ∃ values value, HasValues tools drive context chain.joined chain.last shared values value ∧
            foldValues (chain.joined.map Prod.snd) values value = result) ∧
          ((∃ after, Undecided tools drive context chain.joined shared after ∧
              chain.tree.eval tools drive context shared = chain.last.condition.eval tools drive context after) ∨
            ∃ before term joiner behind middle, chain.joined = before ++ (term, joiner) :: behind ∧
              Undecided tools drive context before shared middle ∧
              (term.condition.eval tools drive context middle).1 ≠ .ok (!joiner.decisive) ∧
              chain.tree.eval tools drive context shared = term.condition.eval tools drive context middle) := by
  refine ⟨fun condition count ↦ ⟨fun h ↦ ?_, ?_⟩, fun joined front rest hscan hjoined hlength ↦ ?_,
    parse_failsSyntactically source tag limit, fun ⟨joined, last⟩ tools drive context shared ↦
    ⟨fun result ↦ Chain.eval_eq_ok_iff, ?_⟩⟩
  · obtain ⟨lexemes, hscan, h⟩ := of_bind_eq_ok h
    obtain ⟨chain, hchain⟩ := (ofLexemes_eq_ok_iff hlimit).1 h
    exact ⟨lexemes, chain, hscan, hchain⟩
  · rintro ⟨lexemes, chain, hscan, hchain⟩
    rw [parse, hscan]
    exact (ofLexemes_eq_ok_iff hlimit).2 ⟨chain, hchain⟩
  · rw [parse, hscan]
    exact ofLexemes_of_writesJoined hjoined hlimit hlength rest
  · obtain ⟨after, hafter⟩ | ⟨before, term, joiner, behind, middle, rfl, hbefore, hterm⟩ :=
      Chain.undecided_or_exists tools drive context joined shared
    · have heval : (Chain.tree ⟨joined ++ [], last⟩).eval tools drive context shared =
          last.condition.eval tools drive context after := Chain.eval_of_undecided hafter
      rw [List.append_nil] at heval
      exact .inl ⟨after, hafter, heval⟩
    · refine .inr ⟨before, term, joiner, behind, middle, rfl, hbefore, hterm, ?_⟩
      rw [Chain.eval_of_undecided hbefore, Chain.eval_of_decided_term hterm]

/-- A markup of three terms. -/
def alternatives : String := "a and b or c"

/-- The term that tests a variable. -/
def tested (name : String) : Term := .operand (.path [.member name])

/-- The condition that the markup writes. -/
def alternativesTree : Condition := .and (tested "a").condition (.or (tested "b").condition (tested "c").condition)

/-- Three terms are accepted if as many are allowed and refused if two are. Without variables the first one decides. -/
theorem parsed_and_evaluated_as_chain_alternatives :
    Condition.parse alternatives "if" 3 = .ok (alternativesTree, 3) ∧
      Condition.parse alternatives "if" 2 = .error (.tooManyTerms "if" 2) ∧
      (alternativesTree.eval ⟨.empty, .empty, .empty⟩ .blocking (Environment.standard.context .nil)
        ⟨⟨[], none⟩, 0, 0⟩).1 = .ok false := by
  have hscan : Lexeme.scan alternatives = .ok ([⟨.ident "a", 0, 1⟩, ⟨.ident "and", 2, 5⟩, ⟨.ident "b", 6, 7⟩,
      ⟨.ident "or", 8, 10⟩] ++ [⟨.ident "c", 11, 12⟩]) := by
    -- Each lexeme is given by the blanks in front of it, its first character and the others, and what is behind it.
    have hblank : ∀ d ∈ [' '], Text.isAsciiBlank d = true := List.forall_mem_singleton.2 rfl
    refine Lexeme.scanFrom_eq_ok_cons.2
      ⟨[], 'a', [], " and b or c".toList, rfl, List.forall_mem_nil _, rfl, rfl, rfl, rfl, ?_⟩
    refine Lexeme.scanFrom_eq_ok_cons.2 ⟨[' '], 'a', ['n', 'd'], " b or c".toList, rfl, hblank, rfl, rfl, rfl, rfl, ?_⟩
    refine Lexeme.scanFrom_eq_ok_cons.2 ⟨[' '], 'b', [], " or c".toList, rfl, hblank, rfl, rfl, rfl, rfl, ?_⟩
    refine Lexeme.scanFrom_eq_ok_cons.2 ⟨[' '], 'o', ['r'], " c".toList, rfl, hblank, rfl, rfl, rfl, rfl, ?_⟩
    refine Lexeme.scanFrom_eq_ok_cons.2 ⟨[' '], 'c', [], [], rfl, hblank, rfl, rfl, rfl, rfl, ?_⟩
    exact Lexeme.scanFrom_eq_ok_nil.2 (List.forall_mem_nil _)
  have hterm (name : String) (start stop : Nat) (hname : Cursor.keyword? name = none) :
      WritesTerm alternatives (tested name) [⟨.ident name, start, stop⟩] := .operand (.named (fun _ ↦ hname) .noSegment)
  have hjoined : WritesJoined alternatives [(tested "a", .and), (tested "b", .or)]
      [⟨.ident "a", 0, 1⟩, ⟨.ident "and", 2, 5⟩, ⟨.ident "b", 6, 7⟩, ⟨.ident "or", 8, 10⟩] :=
    .cons (hterm "a" 0 1 rfl) (.cons (hterm "b" 6 7 rfl) .nil)
  have hfalse : (tested "a").condition.eval ⟨.empty, .empty, .empty⟩ .blocking (Environment.standard.context .nil)
      ⟨⟨[], none⟩, 0, 0⟩ = (.ok Joiner.and.decisive, ⟨⟨[], none⟩, 0, 0⟩) := by
    simp only [tested, Term.condition, Condition.eval, Expr.eval, evalPath]
    rfl
  obtain ⟨haccepts, -, -, hevaluates⟩ := parsed_and_evaluated_as_chain (by decide : 1 ≤ 3) alternatives "if"
  obtain ⟨-, hrefuses, -⟩ := parsed_and_evaluated_as_chain (by decide : 1 ≤ 2) alternatives "if"
  refine ⟨(haccepts _ _).2 ⟨_, ⟨[(tested "a", .and), (tested "b", .or)], tested "c"⟩, hscan,
    ⟨_, _, rfl, hjoined, hterm "c" 11 12 rfl⟩, rfl, rfl, by decide⟩, hrefuses _ _ _ hscan hjoined rfl, ?_⟩
  exact ((hevaluates ⟨[(tested "a", .and), (tested "b", .or)], tested "c"⟩ _ _ _ _).1 false).2
    ⟨[false, false], false, .decided hfalse rfl, rfl⟩

end Condition

end Liquid
