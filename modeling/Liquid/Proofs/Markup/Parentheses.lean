import Liquid.Proofs.Markup.Quotation
import Liquid.Proofs.Markup.Splitting

/-!
# Parentheses of a markup

The parentheses of a markup that stand outside of its strings are matched from the left, each closing one with the last
opening one that has no partner yet. The scanner finds the same parentheses: a string is one lexeme, and no other
lexeme contains a quote or, but for the parentheses themselves, a parenthesis. A parenthesis belongs to no lexeme
beside it, and so it may stand in for a blank: the markup scans to the lexemes in front of it and those behind it.
-/

namespace Liquid

/-- A parenthesis outside of strings with its place. -/
structure Paren where
  opens : Bool
  place : Nat
deriving Repr, DecidableEq

namespace Paren

variable {paren : Paren} {parens opened front back : List Paren}

/-- The parentheses without a partner. Each closing one goes with the last of the opening ones in front of it that have
no partner yet; these come last first. -/
def unmatched (opened : List Paren) : List Paren → List Paren
  | [] => opened.reverse
  | paren :: rest =>
    if paren.opens then unmatched (paren :: opened) rest
    else
      match opened with
      | [] => paren :: unmatched [] rest
      | _ :: opened => unmatched opened rest

/-- How many parentheses are opened. -/
def opening (parens : List Paren) : Nat := parens.countP Paren.opens

/-- How many parentheses are closed. -/
def closing (parens : List Paren) : Nat := parens.countP (!·.opens)

theorem unmatched_opening (opened parens : List Paren) (h : paren.opens = true) :
    unmatched opened (paren :: parens) = unmatched (paren :: opened) parens := by
  cases opened <;> rw [unmatched, if_pos h]

theorem unmatched_lone_closing (parens : List Paren) (h : paren.opens = false) :
    unmatched [] (paren :: parens) = paren :: unmatched [] parens := by
  rw [unmatched, if_neg (by simp [h])]

theorem unmatched_closing (partner : Paren) (opened parens : List Paren) (h : paren.opens = false) :
    unmatched (partner :: opened) (paren :: parens) = unmatched opened parens := by
  rw [unmatched, if_neg (by simp [h])]

theorem opening_cons (paren : Paren) (parens : List Paren) :
    opening (paren :: parens) = opening parens + if paren.opens then 1 else 0 :=
  List.countP_cons

theorem closing_cons (paren : Paren) (parens : List Paren) :
    closing (paren :: parens) = closing parens + if paren.opens then 0 else 1 := by
  rw [closing, List.countP_cons]
  cases paren.opens <;> rfl

/-- If none is without a partner, nowhere has been closed more than there was open, -/
theorem closing_le_of_unmatched_eq_nil (h : unmatched opened (front ++ back) = []) :
    closing front ≤ opening front + opened.length := by
  induction front generalizing opened with
  | nil => exact Nat.zero_le _
  | cons paren front ih =>
    rw [List.cons_append] at h
    rw [opening_cons, closing_cons]
    cases hkind : paren.opens with
    | true =>
      rw [unmatched_opening _ _ hkind] at h
      have hrest := ih h
      simp only [List.length_cons, if_true] at hrest ⊢
      omega
    | false =>
      cases opened with
      | nil =>
        rw [unmatched_lone_closing _ hkind] at h
        cases h
      | cons partner opened =>
        rw [unmatched_closing _ _ _ hkind] at h
        have hrest := ih h
        simp only [List.length_cons, Bool.false_eq_true, if_false] at hrest ⊢
        omega

/-- and in the end all that was open has been closed. -/
theorem closing_eq_of_unmatched_eq_nil (h : unmatched opened parens = []) :
    closing parens = opening parens + opened.length := by
  fun_induction unmatched opened parens with
  | case1 opened =>
    rw [List.reverse_eq_nil_iff.1 h]
    rfl
  | case2 opened first parens hkind ih =>
    rw [opening_cons, closing_cons, ih h, if_pos hkind, if_pos hkind, List.length_cons]
    omega
  | case3 => cases h
  | case4 first parens hkind partner opened ih =>
    rw [opening_cons, closing_cons, ih h, if_neg hkind, if_neg hkind, List.length_cons]
    omega

/-- A single parenthesis without a partner is the first of those that were open, or all that was open has been closed in
front of it; behind it as many are closed as opened. -/
theorem split_of_unmatched_eq_singleton (h : unmatched opened parens = [paren]) :
    (∃ more, opened = more ++ [paren] ∧ closing parens = opening parens + more.length) ∨
      ∃ front back, parens = front ++ paren :: back ∧ closing front = opening front + opened.length ∧
        closing back = opening back := by
  fun_induction unmatched opened parens with
  | case1 opened => exact .inl ⟨[], by rw [← List.reverse_reverse opened, h]; rfl, rfl⟩
  | case2 opened first parens hkind ih =>
    obtain ⟨more, hmore, hclosed⟩ | ⟨front, back, rfl, hfront, hback⟩ := ih h
    · cases more with
      | nil =>
        obtain ⟨rfl, rfl⟩ := List.cons.inj hmore
        exact .inr ⟨[], parens, rfl, rfl, hclosed⟩
      | cons next more =>
        obtain ⟨rfl, rfl⟩ := List.cons.inj hmore
        refine .inl ⟨more, rfl, ?_⟩
        rw [opening_cons, closing_cons, hclosed, if_pos hkind, if_pos hkind, List.length_cons]
        omega
    · refine .inr ⟨first :: front, back, rfl, ?_, hback⟩
      rw [opening_cons, closing_cons, hfront, if_pos hkind, if_pos hkind, List.length_cons]
      omega
  | case3 first parens hkind ih =>
    obtain ⟨rfl, hrest⟩ := List.cons.inj h
    exact .inr ⟨[], parens, rfl, rfl, closing_eq_of_unmatched_eq_nil hrest⟩
  | case4 first parens hkind partner opened ih =>
    obtain ⟨more, rfl, hclosed⟩ | ⟨front, back, rfl, hfront, hback⟩ := ih h
    · refine .inl ⟨partner :: more, rfl, ?_⟩
      rw [opening_cons, closing_cons, hclosed, if_neg hkind, if_neg hkind, List.length_cons]
      omega
    · refine .inr ⟨first :: front, back, rfl, ?_, hback⟩
      rw [opening_cons, closing_cons, hfront, if_neg hkind, if_neg hkind, List.length_cons]
      omega

/-! ## In a text -/

/-- The parentheses of a text that stand outside of strings, given the quote that is open in front of it and its place. -/
def ofText : (quote : Option Char) → (place : Nat) → List Char → List Paren
  | _, _, [] => []
  | some quote, place, c :: rest => ofText (if c == quote then none else some quote) (place + 1) rest
  | none, place, c :: rest =>
    if c == '\'' || c == '"' then ofText (some c) (place + 1) rest
    else if c == '(' then ⟨true, place⟩ :: ofText none (place + 1) rest
    else if c == ')' then ⟨false, place⟩ :: ofText none (place + 1) rest
    else ofText none (place + 1) rest

/-- A parenthesis as it is written. -/
def mark (paren : Paren) : Char := if paren.opens then '(' else ')'

theorem mark_eq (paren : Paren) : paren.mark = '(' ∨ paren.mark = ')' := by
  obtain ⟨opens, place⟩ := paren
  cases opens
  · exact .inr rfl
  · exact .inl rfl

theorem mark_mem_marks (paren : Paren) : paren.mark ∈ Lexeme.marks := by
  obtain hmark | hmark := paren.mark_eq <;>
    · rw [hmark]
      decide

/-- A character is a parenthesis outside of strings, or none at all. -/
theorem ofText_singleton (quote? : Option Char) (place : Nat) (c : Char) : ofText quote? place [c] = [] ∨
    ∃ opens, ofText quote? place [c] = [⟨opens, place⟩] ∧ c = mark ⟨opens, place⟩ ∧ quote? = none ∧
      Lexeme.quoteAfter none [c] = none := by
  cases quote? with
  | some quote => exact .inl rfl
  | none =>
    rw [ofText]
    split
    · exact .inl rfl
    · split
      · next hopen =>
        obtain rfl := eq_of_beq hopen
        exact .inr ⟨true, rfl, rfl, rfl, rfl⟩
      · split
        · next hclose =>
          obtain rfl := eq_of_beq hclose
          exact .inr ⟨false, rfl, rfl, rfl, rfl⟩
        · exact .inl rfl

theorem ofText_cons (quote? : Option Char) (place : Nat) (c : Char) (rest : List Char) :
    ofText quote? place (c :: rest) =
      ofText quote? place [c] ++ ofText (Lexeme.quoteAfter quote? [c]) (place + 1) rest := by
  cases quote? with
  | some quote =>
    rw [ofText, ofText, Lexeme.quoteAfter]
    split <;> rfl
  | none =>
    rw [ofText, ofText, Lexeme.quoteAfter]
    split
    · rfl
    · split
      · rfl
      · split <;> rfl

theorem ofText_append (quote? : Option Char) (place : Nat) (before after : List Char) :
    ofText quote? place (before ++ after) =
      ofText quote? place before ++ ofText (Lexeme.quoteAfter quote? before) (place + before.length) after := by
  induction before generalizing quote? place with
  | nil => cases quote? <;> rfl
  | cons c before ih =>
    have hquote : Lexeme.quoteAfter quote? (c :: before) =
        Lexeme.quoteAfter (Lexeme.quoteAfter quote? [c]) before := Lexeme.quoteAfter_append quote? [c] before
    rw [List.cons_append, ofText_cons, ofText_cons _ _ _ before, ih, hquote, List.append_assoc, List.length_cons,
      Nat.add_right_comm, Nat.add_assoc]

/-- A parenthesis of a text stands outside of strings, between those of the text before it and those of the text behind
it. -/
theorem exists_text_of_ofText {quote? : Option Char} {place : Nat} {text : List Char}
    (h : ofText quote? place text = front ++ paren :: back) :
    ∃ before after, text = before ++ paren.mark :: after ∧ paren.place = place + before.length ∧
      Lexeme.quoteAfter quote? before = none ∧ ofText quote? place before = front ∧
      ofText none (paren.place + 1) after = back := by
  induction text generalizing quote? place front with
  | nil => cases front <;> cases h
  | cons c rest ih =>
    have hlater {front' : List Paren} (hfront : front = ofText quote? place [c] ++ front')
        (hrest : ofText (Lexeme.quoteAfter quote? [c]) (place + 1) rest = front' ++ paren :: back) :
        ∃ before after, c :: rest = before ++ paren.mark :: after ∧ paren.place = place + before.length ∧
          Lexeme.quoteAfter quote? before = none ∧ ofText quote? place before = front ∧
          ofText none (paren.place + 1) after = back := by
      obtain ⟨before, after, rfl, hplace, hquote, hbefore, hafter⟩ := ih hrest
      refine ⟨c :: before, after, rfl, ?_, ?_, ?_, hafter⟩
      · rw [hplace, List.length_cons]
        omega
      · rw [← List.singleton_append, Lexeme.quoteAfter_append, hquote]
      · rw [ofText_cons, hbefore, hfront]
    rw [ofText_cons] at h
    obtain hnone | ⟨opens, hone, rfl, rfl, hquote⟩ := ofText_singleton quote? place c
    · rw [hnone, List.nil_append] at h
      exact hlater (by rw [hnone]; rfl) h
    · rw [hone, List.singleton_append] at h
      cases front with
      | nil =>
        obtain ⟨rfl, hrest⟩ := List.cons.inj h
        rw [hquote] at hrest
        exact ⟨[], rest, rfl, rfl, rfl, rfl, hrest⟩
      | cons first front =>
        obtain ⟨rfl, hrest⟩ := List.cons.inj h
        exact hlater (by rw [hone]; rfl) hrest

/-- The parentheses of a text stand in it. -/
theorem place_of_mem_ofText {quote? : Option Char} {place : Nat} {text : List Char}
    (h : paren ∈ ofText quote? place text) : place ≤ paren.place ∧ paren.place < place + text.length := by
  obtain ⟨front, back, hparens⟩ := List.append_of_mem h
  obtain ⟨before, after, rfl, hplace, -⟩ := exists_text_of_ofText hparens
  rw [hplace, List.length_append, List.length_cons]
  omega

/-- The parentheses among lexemes. -/
def ofLexeme (placed : PlacedLexeme) : Option Paren :=
  match placed.lexeme with
  | .openParen => some ⟨true, placed.start⟩
  | .closeParen => some ⟨false, placed.start⟩
  | _ => none

/-- The parentheses among some lexemes. -/
def ofLexemes (lexemes : List PlacedLexeme) : List Paren := lexemes.filterMap ofLexeme

/-! ## Among lexemes -/

theorem ofText_plain {place : Nat} {text : List Char} (h : ∀ c ∈ text, c ∉ Lexeme.marks) : ofText none place text = [] := by
  induction text generalizing place with
  | nil => rfl
  | cons c rest ih =>
    obtain ⟨hc, hrest⟩ := List.forall_mem_cons.1 h
    rw [ofText_cons, Lexeme.quoteAfter_plain (List.forall_mem_singleton.2 hc), ih hrest, List.append_nil]
    obtain hnone | ⟨opens, -, rfl, -⟩ := ofText_singleton none place c
    · exact hnone
    · exact (hc (mark_mem_marks _)).elim

theorem ofText_string {quote : Char} {place : Nat} {content : List Char} (hcontent : quote ∉ content) :
    ofText (some quote) place (content ++ [quote]) = [] := by
  induction content generalizing place with
  | nil => rfl
  | cons c content ih =>
    rw [List.mem_cons, not_or] at hcontent
    rw [List.cons_append, ofText, if_neg fun hsame ↦ hcontent.1 (eq_of_beq hsame).symm]
    exact ih hcontent.2

/-- A lexeme is spelled with a parenthesis outside of strings only if it is one. -/
theorem ofText_spelling {lexeme : Lexeme} {spelling : List Char} (h : lexeme.IsSpelled spelling) (start stop : Nat) :
    ofText none start spelling = ofLexemes [⟨lexeme, start, stop⟩] := by
  cases h with
  | text hquote hcontent => obtain rfl | rfl := hquote <;> exact ofText_string hcontent
  | openParen => rfl
  | closeParen => rfl
  | plain hopen hclose hplain =>
    rw [ofText_plain hplain]
    cases lexeme <;> first | rfl | exact (hopen rfl).elim | exact (hclose rfl).elim

/-- The scanner finds the parentheses of a text that stand outside of strings. -/
theorem ofText_of_scanFrom {source : String} {place : Nat} {text : List Char} {lexemes : List PlacedLexeme}
    (h : Lexeme.scanFrom source place text = .ok lexemes) : ofText none place text = ofLexemes lexemes := by
  have hblank {blanks : List Char} (hblanks : ∀ c ∈ blanks, Text.isAsciiBlank c = true) : ∀ c ∈ blanks, c ∉ Lexeme.marks :=
    fun c hc ↦ Lexeme.not_mem_marks (by decide) (hblanks c hc)
  induction lexemes generalizing place text with
  | nil => exact ofText_plain (hblank (Lexeme.scanFrom_eq_ok_nil.1 h))
  | cons placed lexemes ih =>
    obtain ⟨blanks, opening, inside, later, rfl, hblanks, -, hone, hstart, hstop, hlater⟩ :=
      Lexeme.scanFrom_eq_ok_cons.1 h
    have hspelled := Lexeme.scanOne_spells opening source _ _ _ hone
    rw [List.take_left] at hspelled
    have hplain := hblank hblanks
    have hplace : place + blanks.length + (opening :: inside).length = placed.stop := by
      rw [hstop, hstart, List.length_cons]
      omega
    calc ofText none place (blanks ++ opening :: (inside ++ later))
      _ = ofText none (place + blanks.length) (opening :: inside ++ later) := by
          rw [ofText_append, ofText_plain hplain, Lexeme.quoteAfter_plain hplain]
          rfl
      _ = ofText none placed.start (opening :: inside) ++ ofText none placed.stop later := by
          rw [ofText_append, hspelled.quoteAfter_eq, hplace, hstart]
      _ = ofLexemes [placed] ++ ofLexemes lexemes := by rw [ofText_spelling hspelled, ih hlater]
      _ = ofLexemes (placed :: lexemes) := List.filterMap_append.symm

/-! ## Blanking -/

theorem endsLexeme_mark (paren : Paren) : Lexeme.EndsLexeme paren.mark := by
  obtain hmark | hmark := paren.mark_eq <;>
    · rw [hmark]
      exact ⟨rfl, rfl, by decide, by decide⟩

theorem endsLexeme_blank : Lexeme.EndsLexeme ' ' := ⟨rfl, rfl, by decide, by decide⟩

/-- A parenthesis as a lexeme. -/
def placed (paren : Paren) : PlacedLexeme :=
  ⟨if paren.opens then .openParen else .closeParen, paren.place, paren.place + 1⟩

theorem scanFrom_mark (source : String) (paren : Paren) (after : List Char) :
    Lexeme.scanFrom source paren.place (paren.mark :: after) = (do
      let others ← Lexeme.scanFrom source (paren.place + 1) after
      return paren.placed :: others) := by
  obtain ⟨opens, place⟩ := paren
  cases opens
  · exact Lexeme.scanFrom_lexeme (show ¬Text.isAsciiBlank ')' = true by decide) place after
  · exact Lexeme.scanFrom_lexeme (show ¬Text.isAsciiBlank '(' = true by decide) place after

end Paren

open Paren

namespace Markup

/-- The parentheses of a markup that stand outside of strings. -/
def parens (source : String) : List Paren := ofText none 0 source.toList

/-- A markup with a blank at a place. -/
def blanked (source : String) (place : Nat) : String := String.ofList (source.toList.set place ' ')

/-- A markup without the character at a place. -/
def deleted (source : String) (place : Nat) : String := String.ofList (source.toList.eraseIdx place)

variable {source : String} {paren : Paren} {front back : List Paren}

theorem blanked_ofList (text : List Char) (c : Char) (rest : List Char) :
    blanked (String.ofList (text ++ c :: rest)) text.length = String.ofList (text ++ ' ' :: rest) := by
  rw [blanked, String.toList_ofList, List.set_append_right _ _ (Nat.le_refl _), Nat.sub_self]
  rfl

theorem deleted_ofList (text : List Char) (c : Char) (rest : List Char) :
    deleted (String.ofList (text ++ c :: rest)) text.length = String.ofList (text ++ rest) := by
  rw [deleted, String.toList_ofList, List.eraseIdx_append_of_length_le (Nat.le_refl _), Nat.sub_self]
  rfl

/-- A parenthesis of a markup is written at its place. -/
theorem exists_text_of_parens (h : parens source = front ++ paren :: back) :
    ∃ text rest, source = String.ofList (text ++ paren.mark :: rest) ∧ paren.place = text.length := by
  obtain ⟨text, rest, hsource, hplace, -⟩ := exists_text_of_ofText h
  exact ⟨text, rest, by rw [← hsource, String.ofList_toList], by rw [hplace, Nat.zero_add]⟩

/-- Some lexemes are those in front of a parenthesis and those behind it, which have the given parentheses among them. -/
structure Surround (paren : Paren) (front back : List Paren) (before after : List PlacedLexeme) : Prop where
  front : Paren.ofLexemes before = front
  back : Paren.ofLexemes after = back
  before : ∃ start, AllWithin start paren.place before
  after : ∃ stop, AllWithin (paren.place + 1) stop after

/-- A markup scans like the one with a blank in place of a parenthesis, but for this parenthesis. -/
theorem scan_blanked (h : parens source = front ++ paren :: back) :
    Alike (fun lexemes others ↦ ∃ before after, Surround paren front back before after ∧
        lexemes = before ++ paren.placed :: after ∧ others = before ++ after)
      (Lexeme.scan source) (Lexeme.scan (blanked source paren.place)) := by
  obtain ⟨before, after, hsource, hplace, hquote, hfront, hback⟩ := exists_text_of_ofText h
  rw [Nat.zero_add] at hplace
  have hblanked : (blanked source paren.place).toList = before ++ ' ' :: after := by
    rw [blanked, String.toList_ofList, hsource, hplace, List.set_append_right _ _ (Nat.le_refl _), Nat.sub_self]
    rfl
  rw [Lexeme.scan, Lexeme.scan, hblanked, hsource, Lexeme.scanFrom_append (endsLexeme_mark paren) after 0 hquote,
    Lexeme.scanFrom_append endsLexeme_blank after 0 hquote, Nat.zero_add, ← hplace, scanFrom_mark,
    Lexeme.scanFrom_blank (by decide)]
  refine (Lexeme.scanFrom_alike source _ 0 before).bind fun lexemes _ hlexemes hsame ↦ ?_
  subst hsame
  rw [bind_assoc]
  refine (Lexeme.scanFrom_alike source _ (paren.place + 1) after).bind fun others _ hothers hsame ↦ ?_
  subst hsame
  have hwithin := Lexeme.scanFrom_bounds hlexemes
  rw [Nat.zero_add, ← hplace] at hwithin
  refine .ok ⟨lexemes, others, ⟨?_, ?_, ⟨0, hwithin⟩, ⟨_, Lexeme.scanFrom_bounds hothers⟩⟩, rfl, rfl⟩
  · rw [← ofText_of_scanFrom hlexemes, hfront]
  · rw [← ofText_of_scanFrom hothers, hback]

/-- The parentheses in front of one have lower places, and those behind it have higher ones. -/
theorem places_of_parens (h : parens source = front ++ paren :: back) :
    (∀ other ∈ front, other.place < paren.place) ∧ ∀ other ∈ back, paren.place < other.place := by
  obtain ⟨before, after, -, hplace, -, rfl, rfl⟩ := exists_text_of_ofText h
  refine ⟨fun other hother ↦ ?_, fun other hother ↦ (place_of_mem_ofText hother).1⟩
  rw [hplace]
  exact (place_of_mem_ofText hother).2

end Markup

end Liquid
