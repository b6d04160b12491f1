import Liquid.Proofs.Markup.Parentheses
import Liquid.Proofs.Markup.Relocation

/-!
# Parentheses without a partner

The leniency rule counts parentheses and removes the first opening or the last closing one. If a single parenthesis
has no partner and it is this one, then the markup is read as if it were not there. If another one is removed instead,
what is left closes a parenthesis that is not open, and no such markup can be read.
-/

namespace Liquid

open Paren

/-! ## Parentheses among lexemes -/

namespace Paren

theorem ofLexemes_append (front back : List PlacedLexeme) :
    ofLexemes (front ++ back) = ofLexemes front ++ ofLexemes back :=
  List.filterMap_append

theorem opens_eq (placed : PlacedLexeme) : placed.opens = ((ofLexeme placed).map Paren.opens).getD false := by
  obtain ⟨lexeme, start, stop⟩ := placed
  cases lexeme <;> rfl

theorem closes_eq (placed : PlacedLexeme) : placed.closes = ((ofLexeme placed).map (!·.opens)).getD false := by
  obtain ⟨lexeme, start, stop⟩ := placed
  cases lexeme <;> rfl

theorem opening_ofLexemes (lexemes : List PlacedLexeme) :
    opening (ofLexemes lexemes) = lexemes.countP PlacedLexeme.opens := by
  rw [opening, ofLexemes, List.countP_filterMap]
  exact List.countP_congr fun placed _ ↦ by rw [opens_eq]

theorem closing_ofLexemes (lexemes : List PlacedLexeme) :
    closing (ofLexemes lexemes) = lexemes.countP PlacedLexeme.closes := by
  rw [closing, ofLexemes, List.countP_filterMap]
  exact List.countP_congr fun placed _ ↦ by rw [closes_eq]

end Paren

namespace Markup

variable {source other : String} {lexemes before after : List PlacedLexeme} {paren : Paren} {front back : List Paren}

/-- What writes a phrase leaves the parentheses around it as they are. -/
theorem Writes.unmatched_append {phrase : Phrase} (h : Writes source phrase lexemes) (opened rest : List Paren) :
    unmatched opened (Paren.ofLexemes lexemes ++ rest) = unmatched opened rest := by
  induction h generalizing opened rest with
  | text | int | float | keyword | noSegment | noFilter => rfl
  | lastArgument hargument ih => exact ih opened rest
  | named hname hrest ih | member hrest ih | place hrest ih | skipped hrest ih | bare hrest ih => exact ih opened rest
  | indexed hkey hrest ihkey ihrest | index hkey hrest ihkey ihrest | applied hkey hrest ihkey ihrest
  | argument hkey hrest ihkey ihrest =>
    rw [ofLexemes_append, List.append_assoc]
    exact (ihkey opened _).trans (ihrest opened rest)
  | @range _ _ start _ _ _ start' _ front back hfirst hlast ihfirst ihlast
  | @enclosed _ _ start _ start' _ front back hfirst hlast ihfirst ihlast =>
    rw [ofLexemes_append, ofLexemes_append, List.append_assoc, List.append_assoc]
    change unmatched opened
      (⟨true, start⟩ :: (Paren.ofLexemes front ++ (Paren.ofLexemes back ++ ⟨false, start'⟩ :: rest))) = _
    rw [unmatched_opening _ _ rfl, ihfirst, ihlast, unmatched_closing _ _ _ rfl]

/-- In lexemes that write a markup every parenthesis has a partner. -/
theorem IsWritten.unmatched_eq_nil {markup : Markup} (h : IsWritten source markup lexemes) :
    unmatched [] (Paren.ofLexemes lexemes) = [] := by
  have hnone {pipes : List PlacedLexeme} (hpipes : ∀ placed ∈ pipes, placed.lexeme = .pipe) :
      Paren.ofLexemes pipes = [] :=
    List.filterMap_eq_nil_iff.2 fun placed hplaced ↦ by rw [ofLexeme, hpipes placed hplaced]
  cases h with
  | nothing hpipes => rw [hnone hpipes, unmatched, List.reverse_nil]
  | pipeline hpipes hprimary hfilters =>
    have hend := hfilters.unmatched_append [] []
    rw [List.append_nil] at hend
    rw [ofLexemes_append, ofLexemes_append, hnone hpipes, List.nil_append, hprimary.unmatched_append, hend, unmatched,
      List.reverse_nil]

/-! ## What the leniency rule removes -/

/-- A parenthesis is the first opening one or the last closing one. -/
def IsOutermost (paren : Paren) (parens : List Paren) : Prop :=
  (paren.opens = true ∧ ∀ other ∈ parens, other.opens = true → paren.place ≤ other.place) ∨
    paren.opens = false ∧ ∀ other ∈ parens, other.opens = false → other.place ≤ paren.place

instance (paren : Paren) (parens : List Paren) : Decidable (IsOutermost paren parens) :=
  inferInstanceAs (Decidable (_ ∨ _))

/-- No other opening one stands in front of an opening parenthesis, or no other closing one behind a closing one. -/
def AtEdge (front : List Paren) (paren : Paren) (back : List Paren) : Prop :=
  (paren.opens = true ∧ opening front = 0) ∨ paren.opens = false ∧ closing back = 0

theorem isOutermost_iff (h : parens source = front ++ paren :: back) :
    IsOutermost paren (parens source) ↔ AtEdge front paren back := by
  obtain ⟨hfront, hback⟩ := places_of_parens h
  rw [IsOutermost, AtEdge, h, opening, closing, List.countP_eq_zero, List.countP_eq_zero]
  refine or_congr (and_congr_right fun _ ↦ ⟨fun hfirst other hother hopens ↦ ?_, fun hnone other hother hopens ↦ ?_⟩)
    (and_congr_right fun _ ↦ ⟨fun hlast other hother hcloses ↦ ?_, fun hnone other hother hcloses ↦ ?_⟩)
  · exact Nat.not_le.2 (hfront other hother) (hfirst other (List.mem_append_left _ hother) hopens)
  · obtain hother | hother := List.mem_append.1 hother
    · exact (hnone other hother hopens).elim
    · obtain rfl | hother := List.mem_cons.1 hother
      · exact Nat.le_refl _
      · exact Nat.le_of_lt (hback other hother)
  · refine Nat.not_le.2 (hback other hother) (hlast other ?_ (by simpa using hcloses))
    exact List.mem_append_right _ (List.mem_cons_of_mem _ hother)
  · obtain hother | hother := List.mem_append.1 hother
    · exact Nat.le_of_lt (hfront other hother)
    · obtain rfl | hother := List.mem_cons.1 hother
      · exact Nat.le_refl _
      · exact (hnone other hother (by simpa using hcloses)).elim

/-- A parenthesis at the edge is lone among lexemes. -/
theorem isLone_of_surround (h : Surround paren front back before after) (hedge : AtEdge front paren back) :
    IsLone before paren.placed after := by
  obtain ⟨hkind, hnone⟩ | ⟨hkind, hnone⟩ := hedge
  · rw [← h.front, opening_ofLexemes, List.countP_eq_zero] at hnone
    refine .inl ⟨?_, fun placed hplaced ↦ Bool.eq_false_iff.2 (hnone placed hplaced)⟩
    rw [placed, hkind]
    rfl
  · rw [← h.back, closing_ofLexemes, List.countP_eq_zero] at hnone
    refine .inr ⟨?_, fun placed hplaced ↦ Bool.eq_false_iff.2 (hnone placed hplaced)⟩
    rw [placed, hkind]
    rfl

theorem isBalanced_of_surround (h : Surround paren front back before after) (hfront : closing front = opening front)
    (hback : closing back = opening back) : IsBalanced (before ++ after) := by
  rw [← h.front, closing_ofLexemes, opening_ofLexemes] at hfront
  rw [← h.back, closing_ofLexemes, opening_ofLexemes] at hback
  rw [IsBalanced, List.countP_append, List.countP_append, hfront, hback]

/-- With an opening parenthesis too many the first one is removed, -/
theorem dropLoneParen_of_opens_before {first lone : PlacedLexeme} (hfirst : first ∈ before) (hopens : first.opens = true)
    (hlone : lone.opens = true) (hbefore : IsBalanced before) (hafter : IsBalanced after) :
    dropLoneParen (before ++ lone :: after) = before.eraseP PlacedLexeme.opens ++ lone :: after := by
  rw [IsBalanced] at hbefore hafter
  have hcloses := closes_eq_false hlone
  rw [dropLoneParen, ← List.eraseP_append_left hopens _ hfirst]
  refine if_pos ?_
  simp [hlone, hcloses, hbefore, hafter]
  omega

/-- and with a closing one too many the last one. -/
theorem dropLoneParen_of_closes_behind {last lone : PlacedLexeme} (hlast : last ∈ after) (hcloses : last.closes = true)
    (hlone : lone.closes = true) (hbefore : IsBalanced before) (hafter : IsBalanced after) :
    dropLoneParen (before ++ lone :: after) = before ++ lone :: (after.reverse.eraseP PlacedLexeme.closes).reverse := by
  rw [IsBalanced] at hbefore hafter
  have hopens := opens_eq_false hlone
  rw [dropLoneParen, if_neg (by simp [hlone, hopens, hbefore, hafter]; omega),
    if_pos (by simp [hlone, hopens, hbefore, hafter]; omega), List.reverse_append, List.reverse_cons, List.append_assoc,
    List.eraseP_append_left hcloses _ (List.mem_reverse.2 hlast)]
  simp

/-- If the parenthesis without a partner is not at the edge, then one with a partner is removed, so that more is closed than
open. -/
theorem exists_closing_lt (h : Surround paren front back before after) (hfront : closing front = opening front)
    (hback : closing back = opening back) (hinner : ¬AtEdge front paren back) :
    ∃ left right, Paren.ofLexemes (dropLoneParen (before ++ paren.placed :: after)) = left ++ right ∧
      opening left < closing left := by
  rw [← h.front, closing_ofLexemes, opening_ofLexemes] at hfront
  rw [← h.back, closing_ofLexemes, opening_ofLexemes] at hback
  rw [AtEdge, ← h.front, ← h.back, opening_ofLexemes, closing_ofLexemes] at hinner
  obtain ⟨opens, place⟩ := paren
  cases opens with
  | true =>
    -- The first opening one stands in front of it, where the partner of that one is left.
    obtain ⟨first, hfirst, hopens⟩ := List.countP_pos_iff.1 (Nat.pos_of_ne_zero fun hnone ↦ hinner (.inl ⟨rfl, hnone⟩))
    rw [dropLoneParen_of_opens_before hfirst hopens rfl hfront.symm hback.symm]
    refine ⟨_, _, ofLexemes_append _ _, ?_⟩
    obtain ⟨first', others, others', -, hopens', rfl, heq⟩ := List.exists_of_eraseP hfirst hopens
    have hcloses' := closes_eq_false hopens'
    rw [heq, opening_ofLexemes, closing_ofLexemes]
    simp only [List.countP_append, List.countP_cons, hopens', hcloses', if_true, Bool.false_eq_true, if_false] at hfront ⊢
    omega
  | false =>
    -- The last closing one stands behind it, and it is left itself.
    obtain ⟨last, hlast, hcloses⟩ := List.countP_pos_iff.1 (Nat.pos_of_ne_zero fun hnone ↦ hinner (.inr ⟨rfl, hnone⟩))
    rw [dropLoneParen_of_closes_behind hlast hcloses rfl hfront.symm hback.symm, List.append_cons]
    refine ⟨_, _, ofLexemes_append _ _, ?_⟩
    rw [opening_ofLexemes, closing_ofLexemes, List.countP_append, List.countP_append, hfront]
    exact Nat.lt_succ_self _

/-! ## What is read -/

/-- Without the character at a place no lexemes are joined that it kept apart. They only move up. -/
def JoinsNone (source : String) (place : Nat) : Prop :=
  Alike (fun lexemes others ↦ others = lexemes.map (PlacedLexeme.relocated (closeUp place 0)))
    (Lexeme.scan (blanked source place)) (Lexeme.scan (deleted source place))

theorem joinsNone_of_first (h : parens source = front ++ paren :: back) (hfirst : paren.place = 0) :
    JoinsNone source paren.place := by
  obtain ⟨text, rest, rfl, hplace⟩ := exists_text_of_parens h
  obtain rfl : text = [] := List.length_eq_zero_iff.1 (hplace.symm.trans hfirst)
  have hmoved := Lexeme.scanFrom_relocated (String.ofList (' ' :: rest)) (String.ofList rest) rest
    fun n (hn : 0 < n) ↦ closeUp_succ hn 0
  rw [closeUp_of_lt Nat.zero_lt_one] at hmoved
  rw [JoinsNone, hplace, blanked_ofList, deleted_ofList, Lexeme.scan, Lexeme.scan, String.toList_ofList,
    String.toList_ofList, List.nil_append, Lexeme.scanFrom_blank (by decide)]
  exact hmoved

/-- A parenthesis keeps none apart if it is the first or the last character, or if no lexeme goes on with the next one. -/
theorem joinsNone_of_endsLexeme (h : parens source = front ++ paren :: back)
    (hbehind : paren.place = 0 ∨ ∀ d, source.toList[paren.place + 1]? = some d → Lexeme.EndsLexeme d) :
    JoinsNone source paren.place := by
  obtain hfirst | hbehind := hbehind
  · exact joinsNone_of_first h hfirst
  obtain ⟨text, rest, hsource, hplace, hquote, -⟩ := exists_text_of_ofText h
  rw [Nat.zero_add] at hplace
  obtain rfl : source = String.ofList (text ++ paren.mark :: rest) := by rw [← hsource, String.ofList_toList]
  have hrest : ∀ d, rest.head? = some d → Lexeme.EndsLexeme d := by
    rw [hsource, hplace, List.getElem?_append_right (Nat.le_add_right _ 1), Nat.add_sub_cancel_left,
      List.getElem?_cons_succ, ← List.head?_eq_getElem?] at hbehind
    exact hbehind
  rw [JoinsNone, hplace, blanked_ofList, deleted_ofList, Lexeme.scan, Lexeme.scan, String.toList_ofList,
    String.toList_ofList, Lexeme.scanFrom_append endsLexeme_blank rest 0 hquote, Lexeme.scanFrom_blank (by decide),
    Lexeme.scanFrom_append_of_head hrest 0 hquote, Nat.zero_add]
  refine (Lexeme.scanFrom_alike _ _ 0 text).bind fun lexemes _ hlexemes hsame ↦ ?_
  subst hsame
  have hbounds := Lexeme.scanFrom_bounds hlexemes
  rw [Nat.zero_add] at hbounds
  have hmoved := Lexeme.scanFrom_relocated (String.ofList (text ++ ' ' :: rest)) (String.ofList (text ++ rest)) rest
    fun n (hn : text.length < n) ↦ closeUp_succ hn 0
  rw [closeUp_of_lt (Nat.lt_succ_self _)] at hmoved
  refine hmoved.bind fun others _ _ hsame ↦ .ok ?_
  rw [List.map_append, map_closeUp_of_allWithin hbounds, hsame]

/-- A markup is read like one in which its outermost parenthesis made way for a gap, if as many parentheses are closed as
opened on either side of it and the gap joins no lexemes. -/
theorem parse_alike_of_isOutermost {text rest gap : List Char} (h : parens source = front ++ paren :: back)
    (hfront : closing front = opening front) (hback : closing back = opening back)
    (houter : IsOutermost paren (parens source)) (hsource : source = String.ofList (text ++ paren.mark :: rest))
    (hplace : paren.place = text.length)
    (hgap : Alike (fun lexemes others ↦ others = lexemes.map (PlacedLexeme.relocated (closeUp paren.place gap.length)))
      (Lexeme.scan (blanked source paren.place)) (Lexeme.scan (String.ofList (text ++ (gap ++ rest))))) :
    Alike SameReading (parse source) (parse (String.ofList (text ++ (gap ++ rest)))) := by
  refine ((scan_blanked h).trans hgap).bind ?_
  rintro _ _ - ⟨_, ⟨before, after, hsurround, rfl, rfl⟩, rfl⟩
  have hlone := isLone_of_surround hsurround ((isOutermost_iff h).1 houter)
  have hbalanced := isBalanced_of_surround hsurround hfront hback
  obtain ⟨start, hbefore⟩ := hsurround.before
  obtain ⟨stop, hafter⟩ := hsurround.after
  rw [dropLoneParen_of_isLone hlone hbalanced, dropLoneParen_map_relocated, dropLoneParen_of_isBalanced hbalanced]
  rw [hplace] at hbefore hafter ⊢
  rw [hsource]
  exact ofLexemes_alike_of_keepsGroups (keepsGroups_of_isLone hlone hbefore hafter paren.mark gap rest)

/-- A markup is refused if another parenthesis is outermost. -/
theorem exists_fault_of_not_isOutermost (h : parens source = front ++ paren :: back)
    (hfront : closing front = opening front) (hback : closing back = opening back)
    (hinner : ¬IsOutermost paren (parens source)) : ∃ fault, parse source = .error fault := by
  cases hparse : parse source with
  | error fault => exact ⟨fault, rfl⟩
  | ok markup =>
    obtain ⟨lexemes, hscan, hread⟩ := of_bind_eq_ok hparse
    have halike := scan_blanked h
    rw [hscan] at halike
    obtain ⟨_, -, before, after, hsurround, rfl, rfl⟩ := halike.exists_of_ok
    have hedge : ¬AtEdge front paren back := (isOutermost_iff h).not.1 hinner
    obtain ⟨left, right, heq, hlt⟩ := exists_closing_lt hsurround hfront hback hedge
    have hnone := (isWritten_of_ofLexemes hread).unmatched_eq_nil
    rw [heq] at hnone
    exact (Nat.not_le.2 hlt (closing_le_of_unmatched_eq_nil hnone)).elim

/-- A single parenthesis without a partner does not matter to what is read if it is the first opening or the last closing
one. Otherwise nothing is read, whatever could be read without it. -/
theorem unmatched_ignored_or_refused (h : unmatched [] (parens source) = [paren]) :
    (IsOutermost paren (parens source) →
      Alike SameReading (parse source) (parse (blanked source paren.place)) ∧
        (JoinsNone source paren.place → Alike SameReading (parse source) (parse (deleted source paren.place)))) ∧
      (¬IsOutermost paren (parens source) → ∃ fault, parse source = .error fault) := by
  obtain ⟨more, hmore, -⟩ | ⟨front, back, hparens, hfront, hback⟩ := split_of_unmatched_eq_singleton h
  · cases more <;> cases hmore
  refine ⟨fun houter ↦ ?_, fun hinner ↦ ?_⟩
  · obtain ⟨text, rest, hsource, hplace⟩ := exists_text_of_parens hparens
    have hblanked : blanked source paren.place = String.ofList (text ++ ([' '] ++ rest)) := by
      rw [hsource, hplace]
      exact blanked_ofList text paren.mark rest
    have hdeleted : deleted source paren.place = String.ofList (text ++ ([] ++ rest)) := by
      rw [hsource, hplace]
      exact deleted_ofList text paren.mark rest
    refine ⟨?_, fun hnone ↦ ?_⟩
    · rw [hblanked]
      refine parse_alike_of_isOutermost hparens hfront hback houter hsource hplace ?_
      rw [← hblanked]
      exact (Alike.refl _).mono fun lexemes _ hsame ↦ hsame.symm.trans (map_closeUp_one _ lexemes).symm
    · rw [JoinsNone, hdeleted] at hnone
      rw [hdeleted]
      exact parse_alike_of_isOutermost hparens hfront hback houter hsource hplace hnone
  · exact exists_fault_of_not_isOutermost hparens hfront hback hinner

/-- A markup whose last parenthesis closes nothing. -/
def loneClosing : String := "x | f: (1..3), 2)"

/-- A markup whose second opening parenthesis is not closed. -/
def innerOpening : String := "(1..3) | join: (','"

theorem unmatched_ignored_or_refused_lone_closing :
    (unmatched [] (parens loneClosing) = [⟨false, 16⟩] ∧ deleted loneClosing 16 = "x | f: (1..3), 2" ∧
        Alike SameReading (parse loneClosing) (parse (deleted loneClosing 16)) ∧
        (parse loneClosing).toOption.isSome = true) ∧
      unmatched [] (parens innerOpening) = [⟨true, 15⟩] ∧ ∃ fault, parse innerOpening = .error fault := by
  have hlone : unmatched [] (parens loneClosing) = [⟨false, 16⟩] := by decide +kernel
  have hinner : unmatched [] (parens innerOpening) = [⟨true, 15⟩] := by decide +kernel
  have hparens : parens loneClosing = [⟨true, 7⟩, ⟨false, 12⟩] ++ ⟨false, 16⟩ :: [] := by decide +kernel
  have hlast : loneClosing.toList[17]? = none := by decide +kernel
  have hjoins : JoinsNone loneClosing 16 :=
    joinsNone_of_endsLexeme hparens (.inr fun d hd ↦ by cases hlast.symm.trans hd)
  have hread := (unmatched_ignored_or_refused hlone).1 (by decide +kernel)
  exact ⟨⟨hlone, by decide +kernel, hread.2 hjoins, by decide +kernel⟩, hinner,
    (unmatched_ignored_or_refused hinner).2 (by decide +kernel)⟩

/-- The first opening parenthesis is dropped, although the second one is not closed. So the markup is refused, and without
the second one it is read. -/
theorem innerOpening_not_ignored : unmatched [] (parens innerOpening) = [⟨true, 15⟩] ∧
    deleted innerOpening 15 = "(1..3) | join: ','" ∧ (parse innerOpening).toOption.isSome = false ∧
    (parse (deleted innerOpening 15)).toOption.isSome = true ∧
    ¬Alike SameReading (parse innerOpening) (parse (deleted innerOpening 15)) := by
  have hrefused : (parse innerOpening).toOption.isSome = false := by decide +kernel
  have hread : (parse (deleted innerOpening 15)).toOption.isSome = true := by decide +kernel
  refine ⟨by decide +kernel, by decide +kernel, hrefused, hread, fun halike ↦ ?_⟩
  have hsame {first second : Except Fault Markup} (h : Alike SameReading first second) :
      first.toOption.isSome = second.toOption.isSome := by
    cases h <;> rfl
  rw [hsame halike, hread] at hrefused
  cases hrefused

end Markup

end Liquid
