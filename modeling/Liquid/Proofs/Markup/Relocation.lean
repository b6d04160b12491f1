import Liquid.Proofs.Markup.Quotation
import Liquid.Proofs.Markup.Resemblance

/-!
# Markups whose lexemes stand elsewhere

Where the lexemes of a markup stand shows only in the texts that are kept. The texts that belong to expressions are kept
within parentheses. So the same expressions, with the same filters applied, are read from another source if only what
stands in parentheses covers the same texts there.
-/

namespace Liquid

/-- A filter as it is applied: its name and its arguments without their texts. -/
def FilterRequest.call (request : FilterRequest) : String × List Expr := (request.name, request.arguments)

namespace Markup

variable {source other : String} {lexemes inside before after : List PlacedLexeme} {move : Nat → Nat}

/-- Two markups have the same primary expression and apply the same filters to it. The texts that they keep may differ. -/
def SameReading (markup other : Markup) : Prop :=
  markup.primary = other.primary ∧ markup.filters.map FilterRequest.call = other.filters.map FilterRequest.call

/-- Two phrases are the same but for the texts that belong to filters and arguments. -/
inductive Phrase.SameReading : Phrase → Phrase → Prop where
  | expr (expr : Expr) : SameReading (.expr expr) (.expr expr)
  | segments (segments : List Segment) : SameReading (.segments segments) (.segments segments)
  | filters {filters others : List FilterRequest} (h : filters.map FilterRequest.call = others.map FilterRequest.call) :
      SameReading (.filters filters) (.filters others)
  | arguments {arguments others : List (String × Expr)} (h : arguments.map Prod.snd = others.map Prod.snd) :
      SameReading (.arguments arguments) (.arguments others)

theorem Phrase.SameReading.of_filters {phrase : Phrase} {filters : List FilterRequest}
    (h : Phrase.SameReading (.filters filters) phrase) :
    ∃ others, phrase = .filters others ∧ filters.map FilterRequest.call = others.map FilterRequest.call := by
  cases h with
  | filters h => exact ⟨_, rfl, h⟩

theorem Phrase.SameReading.of_arguments {phrase : Phrase} {arguments : List (String × Expr)}
    (h : Phrase.SameReading (.arguments arguments) phrase) :
    ∃ others, phrase = .arguments others ∧ arguments.map Prod.snd = others.map Prod.snd := by
  cases h with
  | arguments h => exact ⟨_, rfl, h⟩

/-! ## Groups -/

/-- Some lexemes begin with an opening parenthesis and end with a closing one. -/
structure IsGroup (lexemes : List PlacedLexeme) : Prop where
  opens : ∃ first, lexemes.head? = some first ∧ first.opens = true
  closes : ∃ final, lexemes.getLast? = some final ∧ final.closes = true

theorem isGroup_of_ends {first final : PlacedLexeme} (hopens : first.opens = true) (hcloses : final.closes = true) :
    IsGroup (first :: inside ++ [final]) :=
  ⟨⟨first, rfl, hopens⟩, final, List.getLast?_concat, hcloses⟩

/-- A group does not reach over a lone parenthesis. -/
theorem IsGroup.infix_of_isLone {paren : PlacedLexeme} (h : IsGroup inside) (hlone : IsLone before paren after)
    (hinside : inside <:+: before ++ after) : inside <:+: before ∨ inside <:+: after := by
  obtain ⟨front, back, heq⟩ := hinside
  obtain ⟨later, rfl, rfl⟩ | ⟨ahead, hfront, rfl⟩ := List.append_eq_append_iff.1 heq
  · exact .inl ⟨front, later, rfl⟩
  · obtain ⟨left, rfl, rfl⟩ | ⟨later, rfl, rfl⟩ := List.append_eq_append_iff.1 hfront
    · obtain ⟨⟨first, hfirst, hopens⟩, final, hfinal, hcloses⟩ := h
      obtain _ | ⟨placed, left⟩ := left
      · exact .inr ⟨[], back, rfl⟩
      obtain rfl : placed = first := Option.some.inj hfirst
      by_cases hahead : ahead = []
      · exact .inl ⟨front, [], by rw [hahead]; simp⟩
      have hlast := List.getLast?_eq_some_getLast hahead
      rw [List.getLast?_append, hlast] at hfinal
      obtain ⟨-, hnone⟩ | ⟨-, hnone⟩ := hlone
      · rw [hnone placed (List.mem_append_right front List.mem_cons_self)] at hopens
        cases hopens
      · rw [hnone final (List.mem_append_left back (List.mem_of_getLast? (hlast.trans hfinal)))] at hcloses
        cases hcloses
    · exact .inr ⟨later, back, by simp⟩

/-- Every group of some lexemes covers the same texts of another source, where the lexemes stand elsewhere. -/
def KeepsGroups (source other : String) (move : Nat → Nat) (lexemes : List PlacedLexeme) : Prop :=
  ∀ group, IsGroup group → group <:+: lexemes → KeepsTexts source other move group

/-- Where its groups cover the same texts, a phrase is written that is the same but for the texts of its filters or
arguments. -/
theorem Writes.sameReading {phrase : Phrase} (hkeeps : KeepsGroups source other move lexemes)
    (h : Writes source phrase inside) (hinside : inside <:+: lexemes) :
    ∃ phrase', phrase.SameReading phrase' ∧ Writes other phrase' (inside.map (PlacedLexeme.relocated move)) := by
  induction h with
  | text => exact ⟨_, .expr _, .text⟩
  | int => exact ⟨_, .expr _, .int⟩
  | float => exact ⟨_, .expr _, .float⟩
  | keyword hkeyword => exact ⟨_, .expr _, .keyword hkeyword⟩
  | named hname hrest ih =>
    obtain ⟨_, ⟨_⟩, hrest⟩ := ih (infix_of_cons hinside)
    exact ⟨_, .expr _, .named hname hrest⟩
  | indexed hkey hrest ihkey ihrest =>
    obtain ⟨hfront, hback⟩ := infixes_of_append hinside
    obtain ⟨_, ⟨_⟩, hkey⟩ := ihkey (infix_of_cons hfront)
    obtain ⟨_, ⟨_⟩, hrest⟩ := ihrest (infix_of_cons hback)
    rw [List.map_append]
    exact ⟨_, .expr _, .indexed hkey hrest⟩
  | range hfirst hlast =>
    have hgroup := hkeeps _ (isGroup_of_ends rfl rfl) hinside
    exact ⟨_, .expr _, (Writes.range hfirst hlast).relocated hgroup⟩
  | enclosed hprimary hfilters =>
    have hgroup := hkeeps _ (isGroup_of_ends rfl rfl) hinside
    exact ⟨_, .expr _, (Writes.enclosed hprimary hfilters).relocated hgroup⟩
  | noSegment => exact ⟨_, .segments _, .noSegment⟩
  | member hrest ih =>
    obtain ⟨_, ⟨_⟩, hrest⟩ := ih (infix_of_cons (infix_of_cons hinside))
    exact ⟨_, .segments _, .member hrest⟩
  | place hrest ih =>
    obtain ⟨_, ⟨_⟩, hrest⟩ := ih (infix_of_cons (infix_of_cons hinside))
    exact ⟨_, .segments _, .place hrest⟩
  | index hkey hrest ihkey ihrest =>
    obtain ⟨hfront, hback⟩ := infixes_of_append hinside
    obtain ⟨_, ⟨_⟩, hkey⟩ := ihkey (infix_of_cons hfront)
    obtain ⟨_, ⟨_⟩, hrest⟩ := ihrest (infix_of_cons hback)
    rw [List.map_append]
    exact ⟨_, .segments _, .index hkey hrest⟩
  | noFilter => exact ⟨_, .filters rfl, .noFilter⟩
  | skipped hrest ih =>
    obtain ⟨_, hsame, hrest⟩ := ih (infix_of_cons hinside)
    obtain ⟨others, rfl, hothers⟩ := hsame.of_filters
    exact ⟨_, .filters hothers, .skipped hrest⟩
  | @bare name _ _ _ _ _ _ hrest ih =>
    obtain ⟨_, hsame, hrest⟩ := ih (infix_of_cons (infix_of_cons hinside))
    obtain ⟨others, rfl, hothers⟩ := hsame.of_filters
    refine ⟨_, ?_, .bare hrest⟩
    exact .filters (congrArg ((name, []) :: ·) hothers)
  | @applied name _ _ _ _ _ _ _ _ _ _ harguments hrest iharguments ihrest =>
    obtain ⟨hfront, hback⟩ := infixes_of_append hinside
    obtain ⟨_, hsame, harguments⟩ := iharguments (infix_of_cons (infix_of_cons (infix_of_cons hfront)))
    obtain ⟨given, rfl, hgiven⟩ := hsame.of_arguments
    obtain ⟨_, hsame, hrest⟩ := ihrest hback
    obtain ⟨others, rfl, hothers⟩ := hsame.of_filters
    rw [List.map_append]
    refine ⟨_, ?_, .applied harguments hrest⟩
    exact .filters (congrArg₂ (fun given others ↦ (name, given) :: others) hgiven hothers)
  | lastArgument hargument ih =>
    obtain ⟨_, ⟨_⟩, hargument⟩ := ih hinside
    refine ⟨_, ?_, .lastArgument hargument⟩
    exact .arguments rfl
  | @argument argument _ _ _ _ _ hargument hrest ihargument ihrest =>
    obtain ⟨hfront, hback⟩ := infixes_of_append hinside
    obtain ⟨_, ⟨_⟩, hargument⟩ := ihargument hfront
    obtain ⟨_, hsame, hrest⟩ := ihrest (infix_of_cons hback)
    obtain ⟨others, rfl, hothers⟩ := hsame.of_arguments
    rw [List.map_append]
    refine ⟨_, ?_, .argument hargument hrest⟩
    exact .arguments (congrArg (argument :: ·) hothers)

/-- So is a whole markup. -/
theorem IsWritten.sameReading {markup : Markup} (hkeeps : KeepsGroups source other move lexemes)
    (h : IsWritten source markup lexemes) :
    ∃ markup', markup.SameReading markup' ∧ IsWritten other markup' (lexemes.map (PlacedLexeme.relocated move)) := by
  have hpipe {pipes : List PlacedLexeme} (hpipes : ∀ placed ∈ pipes, placed.lexeme = .pipe) :
      ∀ placed ∈ pipes.map (PlacedLexeme.relocated move), placed.lexeme = .pipe :=
    List.forall_mem_map.2 hpipes
  cases h with
  | nothing hpipes => exact ⟨_, ⟨rfl, rfl⟩, .nothing (hpipe hpipes)⟩
  | @pipeline _ _ pipes front back hpipes hprimary hfilters =>
    obtain ⟨_, ⟨_⟩, hprimary⟩ := hprimary.sameReading hkeeps (List.infix_append pipes front back)
    obtain ⟨_, hsame, hfilters⟩ := hfilters.sameReading hkeeps (List.suffix_append _ back).isInfix
    obtain ⟨others, rfl, hothers⟩ := hsame.of_filters
    rw [List.map_append, List.map_append]
    refine ⟨_, ?_, .pipeline (hpipe hpipes) hprimary hfilters⟩
    exact ⟨rfl, hothers⟩

/-- The same is read, or refused for the same reason. -/
theorem ofLexemes_alike_of_keepsGroups (hkeeps : KeepsGroups source other move lexemes) :
    Alike SameReading (ofLexemes source lexemes) (ofLexemes other (lexemes.map (PlacedLexeme.relocated move))) := by
  cases hread : ofLexemes source lexemes with
  | ok markup =>
    obtain ⟨markup', hsame, hwritten⟩ := (isWritten_of_ofLexemes hread).sameReading hkeeps
    rw [ofLexemes_of_isWritten hwritten]
    exact .ok hsame
  | error fault =>
    have hlexemes : lexemes.map PlacedLexeme.lexeme =
        (lexemes.map (PlacedLexeme.relocated move)).map PlacedLexeme.lexeme := by
      rw [List.map_map]
      rfl
    have halike : Alike _ (ofLexemes source lexemes) (ofLexemes other _) := ofLexemes_alike hlexemes
    rw [hread] at halike
    exact halike.of_error SameReading

/-! ## A gap in a source -/

/-- The place of a character once the one at a given place has made way for a gap. -/
def closeUp (place gap n : Nat) : Nat := if n ≤ place then n else n - 1 + gap

variable {text : List Char} {place start stop n : Nat}

theorem closeUp_of_le (h : n ≤ place) (gap : Nat) : closeUp place gap n = n := if_pos h

theorem closeUp_of_lt (h : place < n) (gap : Nat) : closeUp place gap n = n - 1 + gap := if_neg (Nat.not_le.2 h)

theorem closeUp_succ (h : place < n) (gap : Nat) : closeUp place gap (n + 1) = closeUp place gap n + 1 := by
  rw [closeUp_of_lt h, closeUp_of_lt (Nat.lt_succ_of_lt h)]
  omega

/-- Nothing moves if the gap is as wide as the character. -/
theorem map_closeUp_one (place : Nat) (lexemes : List PlacedLexeme) :
    lexemes.map (PlacedLexeme.relocated (closeUp place 1)) = lexemes := by
  have hmove (n : Nat) : closeUp place 1 n = n := by
    rw [closeUp]
    split <;> omega
  refine (List.map_congr_left fun placed _ ↦ ?_).trans (List.map_id lexemes)
  rw [PlacedLexeme.relocated, hmove, hmove]
  rfl

/-- Lexemes in front of the place stay where they are. -/
theorem map_closeUp_of_allWithin (h : AllWithin start place lexemes) (gap : Nat) :
    lexemes.map (PlacedLexeme.relocated (closeUp place gap)) = lexemes := by
  refine (List.map_congr_left fun placed hplaced ↦ ?_).trans (List.map_id lexemes)
  obtain ⟨-, hstart, hstop⟩ := h placed hplaced
  rw [PlacedLexeme.relocated, closeUp_of_le (hstart.trans hstop), closeUp_of_le hstop]
  rfl

/-- Lexemes in front of a place cover the same texts, whatever stands behind it, -/
theorem keepsTexts_before (h : AllWithin start text.length lexemes) (rest others : List Char) (gap : Nat) :
    KeepsTexts (String.ofList (text ++ rest)) (String.ofList (text ++ others)) (closeUp text.length gap) lexemes := by
  intro inside hne hinside
  have hfirst := List.head?_eq_some_head hne
  have hfinal := List.getLast?_eq_some_getLast hne
  obtain ⟨-, hstart, hstop⟩ := h _ (hinside.subset (List.head_mem hne))
  obtain ⟨-, -, hstop'⟩ := h _ (hinside.subset (List.getLast_mem hne))
  rw [coveredText_eq hfirst hfinal, coveredText_relocated _ _ hfirst hfinal, closeUp_of_le (hstart.trans hstop),
    closeUp_of_le hstop', String.toList_ofList, String.toList_ofList, List.take_append_of_le_length hstop',
    List.take_append_of_le_length hstop']

/-- and those behind a character move with what stands there. -/
theorem keepsTexts_behind (h : AllWithin (text.length + 1) stop lexemes) (c : Char) (gap rest : List Char) :
    KeepsTexts (String.ofList (text ++ c :: rest)) (String.ofList (text ++ (gap ++ rest)))
      (closeUp text.length gap.length) lexemes := by
  intro inside hne hinside
  have hfirst := List.head?_eq_some_head hne
  have hfinal := List.getLast?_eq_some_getLast hne
  obtain ⟨hstart, -, -⟩ := h _ (hinside.subset (List.head_mem hne))
  obtain ⟨hstart', hstop', -⟩ := h _ (hinside.subset (List.getLast_mem hne))
  obtain ⟨n, hn⟩ := Nat.exists_eq_add_of_le hstart
  obtain ⟨k, hk⟩ := Nat.exists_eq_add_of_le (hstart'.trans hstop')
  have hpart (front : List Char) :
      ((front ++ rest).take (front.length + k)).drop (front.length + n) = (rest.drop n).take (k - n) := by
    rw [List.drop_take, Nat.add_sub_add_left, ← List.drop_drop, List.drop_left]
  have hsource := hpart (text ++ [c])
  have hother := hpart (text ++ gap)
  have hmove (m : Nat) : closeUp text.length gap.length (text.length + 1 + m) = text.length + gap.length + m := by
    rw [closeUp_of_lt (by omega)]
    omega
  rw [List.append_assoc, List.length_append, List.length_singleton, List.singleton_append] at hsource
  rw [List.append_assoc, List.length_append] at hother
  rw [coveredText_eq hfirst hfinal, coveredText_relocated _ _ hfirst hfinal, hn, hk, hmove, hmove, String.toList_ofList,
    String.toList_ofList, hsource, hother]

/-- So all groups cover the same texts if a lone parenthesis made way. -/
theorem keepsGroups_of_isLone {paren : PlacedLexeme} (hlone : IsLone before paren after)
    (hbefore : AllWithin start text.length before) (hafter : AllWithin (text.length + 1) stop after) (c : Char)
    (gap rest : List Char) :
    KeepsGroups (String.ofList (text ++ c :: rest)) (String.ofList (text ++ (gap ++ rest)))
      (closeUp text.length gap.length) (before ++ after) := by
  intro group hgroup hinside
  obtain hinside | hinside := hgroup.infix_of_isLone hlone hinside
  · exact (keepsTexts_before hbefore _ _ _).part hinside
  · exact (keepsTexts_behind hafter c gap rest).part hinside

end Markup

end Liquid
