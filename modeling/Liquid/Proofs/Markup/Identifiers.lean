import Liquid.Proofs.Markup.Acceptance
import Liquid.Proofs.Markup.Scanning
import Liquid.Template.Header

/-!
# Identifiers as markup

An identifier is one lexeme. By itself it names the variable that a capture fills, and unless it is a keyword it is also the
path to that variable.
-/

namespace Liquid

namespace Lexeme

/-- Characters that can begin an identifier, characters that can go on with it, and a question mark at most. -/
inductive IsIdent : List Char → Prop where
  | mk {c : Char} {rest mark : List Char} (hstarts : startsIdent c = true)
      (hcontinues : ∀ d ∈ rest, continuesIdent d = true) (hmark : mark = [] ∨ mark = ['?']) : IsIdent (c :: rest ++ mark)

theorem isDigit_of_startsIdent {c : Char} (h : startsIdent c = true) : c.isDigit = false := by
  have hstarts : startsIdent c = (decide ('A'.val ≤ c.val ∧ c.val ≤ 'Z'.val) ||
      decide ('a'.val ≤ c.val) && decide (c.val ≤ 'z'.val) || c == '_') := rfl
  have hdigits : c.isDigit = (decide ('0'.val ≤ c.val) && decide (c.val ≤ '9'.val)) := rfl
  rw [Bool.eq_false_iff]
  intro hdigit
  rw [hstarts] at h
  rw [hdigits] at hdigit
  simp only [Bool.or_eq_true, Bool.and_eq_true, decide_eq_true_eq, beq_iff_eq] at h hdigit
  obtain (⟨hfirst, -⟩ | ⟨hfirst, -⟩) | rfl := h
  · exact absurd (UInt32.le_trans hfirst hdigit.2) (by decide)
  · exact absurd (UInt32.le_trans hfirst hdigit.2) (by decide)
  · exact absurd hdigit.2 (by decide)

/-- The characters other than digits with which something else than an identifier begins. -/
def otherStarts : List Char :=
  ['\'', '"', '.', '[', ']', '(', ')', '|', ':', ',', '=', '!', '<', '>', '-', ' ', '\t', '\n', '\x0c', '\r']

theorem beq_of_startsIdent {c : Char} (h : startsIdent c = true) : ∀ d ∈ otherStarts, (c == d) = false := by
  have hothers : otherStarts.any startsIdent = false := by decide
  intro d hd
  rw [beq_eq_false_iff_ne]
  rintro rfl
  exact List.any_eq_false.1 hothers c hd h

theorem scanOne_of_startsIdent (source : String) {c : Char} (h : startsIdent c = true) (rest : List Char) :
    scanOne source c rest =
      .ok (.ident (String.ofList (takeIdent (c :: rest))), (takeIdent (c :: rest)).length - 1) := by
  have hothers := beq_of_startsIdent h
  simp only [otherStarts, List.forall_mem_cons] at hothers
  simp [scanOne, isSign, hothers, isDigit_of_startsIdent h, h]

namespace IsIdent

theorem takeIdent_eq_self {text : List Char} (h : IsIdent text) : takeIdent text = text := by
  obtain @⟨c, rest, mark, hstarts, hcontinues, hmark⟩ := h
  have hname : ∀ d ∈ c :: rest, continuesIdent d = true :=
    List.forall_mem_cons.2 ⟨continuesIdent_of_startsIdent hstarts, hcontinues⟩
  have hquestion : ¬continuesIdent '?' = true := by decide
  rw [takeIdent_eq, List.takeWhile_append_of_pos hname, List.dropWhile_append_of_pos hname]
  obtain rfl | rfl := hmark
  · rw [List.takeWhile_nil, List.dropWhile_nil, List.append_nil]
    exact List.append_nil _
  · rw [List.takeWhile_cons_of_neg hquestion, List.dropWhile_cons_of_neg hquestion, List.append_nil]
    rfl

/-- An identifier is one lexeme. -/
theorem scan_eq {name : String} (h : IsIdent name.toList) : scan name = .ok [⟨.ident name, 0, name.toList.length⟩] := by
  have hwhole := h.takeIdent_eq_self
  generalize htext : name.toList = text at h hwhole ⊢
  obtain @⟨c, rest, mark, hstarts, hcontinues, hmark⟩ := h
  have hblank : Text.isAsciiBlank c = false := by
    have hothers := beq_of_startsIdent hstarts
    simp only [otherStarts, List.forall_mem_cons] at hothers
    simp [Text.isAsciiBlank, hothers]
  have hone := scanOne_of_startsIdent name hstarts (rest ++ mark)
  rw [← List.cons_append, hwhole, ← htext, String.ofList_toList, htext] at hone
  rw [scan, htext]
  refine scanFrom_eq_ok_cons.2 ⟨[], c, rest ++ mark, [], ?_, List.forall_mem_nil _, hblank, ?_, rfl, ?_, ?_⟩
  · rw [List.append_nil]
    rfl
  · rw [List.append_nil]
    exact hone
  · rw [List.cons_append, List.length_cons, Nat.zero_add, Nat.add_comm]
  · rw [scanFrom]

end IsIdent

end Lexeme

/-- An identifier that is no keyword is the path to a variable. -/
theorem Markup.parse_ident {name : String} (h : Lexeme.IsIdent name.toList) (hkeyword : Cursor.keyword? name = none) :
    Markup.parse name = .ok ⟨name, .path [.member name], []⟩ := by
  have hwritten : IsWritten name ⟨coveredText name [⟨.ident name, 0, name.toList.length⟩], .path [.member name], []⟩
      ([] ++ [⟨.ident name, 0, name.toList.length⟩] ++ []) :=
    .pipeline nofun (.named (fun _ ↦ hkeyword) .noSegment) .noFilter
  have hcovered : coveredText name [⟨.ident name, 0, name.toList.length⟩] = name := by
    change String.ofList ((name.toList.take name.toList.length).drop 0) = name
    rw [List.take_length, List.drop_zero, String.ofList_toList]
  rw [hcovered] at hwritten
  rw [Markup.parse, h.scan_eq]
  exact ofLexemes_of_isWritten hwritten

theorem Header.captureTarget_ident {name : String} (h : Lexeme.IsIdent name.toList) : captureTarget name = .ok name := by
  rw [captureTarget, Cursor.start, h.scan_eq]
  rfl

end Liquid
