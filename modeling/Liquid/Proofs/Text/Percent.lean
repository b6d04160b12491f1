import Liquid.Proofs.Text.Bytes
import Liquid.Proofs.Text.Pieces
import Liquid.Text.Percent

/-!
# Percent encoding is undone by decoding

The escape of a space is searched for in the text of all escapes. A percent sign stands only where an escape begins, so that the
search finds escapes and never parts of two of them, and the escaped percent sign is not taken for the beginning of one. Plus
signs are escaped as well; so those that are turned into spaces before escapes are read are the ones that stood for spaces.
-/

namespace Liquid.Text.Percent

variable {byte : Nat}

/-! ## Bytes and their escapes -/

/-- The digits of escapes. -/
def hexDigits : List Char := "0123456789ABCDEF".toList

/-- What is written for a byte. -/
def writtenByte (byte : Nat) : List Char := if byte = 0x20 then ['+'] else escapeByte byte

/-- What is written for a byte, with a space for the plus sign. -/
def spacedByte (byte : Nat) : List Char := if byte = 0x20 then [' '] else escapeByte byte

/-- What escaping makes of a byte: a character of ASCII other than the space and the signs that mean something, or two digits
behind a percent sign. -/
inductive IsEscaped (byte : Nat) : List Char → Prop where
  | plain {c : Char} (hcode : c.toNat = byte) (hascii : c.toNat < 0x80) (hpercent : c ≠ '%') (hplus : c ≠ '+')
      (hclass : c.isAlphanum = true ∨ c ∈ ['*', '.', '-', '_']) : IsEscaped byte [c]
  | escape {high low : Char} (hhigh : high ∈ hexDigits) (hlow : low ∈ hexDigits)
      (hquotient : hexValue? high.toNat = some (byte / 16)) (hrest : hexValue? low.toNat = some (byte % 16)) :
      IsEscaped byte ['%', high, low]

theorem isEscaped_of_isPlain (h : isPlain byte = true) : IsEscaped byte [Char.ofNat byte] := by
  have hall : ∀ byte < 0x80, isPlain byte = true →
      (Char.ofNat byte).toNat = byte ∧ Char.ofNat byte ≠ '%' ∧ Char.ofNat byte ≠ '+' ∧
        ((Char.ofNat byte).isAlphanum = true ∨ Char.ofNat byte ∈ ['*', '.', '-', '_']) := by
    decide
  have hsmall : byte < 0x80 := by
    unfold isPlain at h
    simp only [Bool.and_eq_true, decide_eq_true_eq] at h
    exact h.1
  obtain ⟨hcode, hpercent, hplus, hclass⟩ := hall byte hsmall h
  exact .plain hcode (hcode.trans_lt hsmall) hpercent hplus hclass

theorem hexDigit_mem {n : Nat} (h : n < 16) : hexDigit n ∈ hexDigits ∧ hexValue? (hexDigit n).toNat = some n := by
  have hall : ∀ n < 16, hexDigit n ∈ hexDigits ∧ hexValue? (hexDigit n).toNat = some n := by decide
  exact hall n h

theorem isEscaped_escapeByte (hbyte : byte < 256) : IsEscaped byte (escapeByte byte) := by
  rw [escapeByte]
  split
  · next hplain => exact isEscaped_of_isPlain hplain
  · obtain ⟨hhigh, hquotient⟩ := hexDigit_mem (n := byte / 16) (by omega)
    obtain ⟨hlow, hrest⟩ := hexDigit_mem (n := byte % 16) (by omega)
    exact .escape hhigh hlow hquotient hrest

/-- Digits are characters of ASCII other than the signs that mean something. -/
theorem of_mem_hexDigits {c : Char} (h : c ∈ hexDigits) : c.toNat < 0x80 ∧ c ≠ '%' ∧ c ≠ '+' := by
  have hall : hexDigits.all (fun c ↦ c.toNat < 0x80 ∧ c ≠ '%' ∧ c ≠ '+') = true := by decide
  exact of_decide_eq_true (List.all_eq_true.1 hall c h)

/-- A search passes what its pattern does not begin with. -/
theorem replace_cons_of_ne {first c : Char} (h : c ≠ first) (pattern replacement rest : List Char) :
    replace (first :: pattern) replacement (c :: rest) = c :: replace (first :: pattern) replacement rest :=
  replace_cons (List.cons_ne_nil _ _) replacement fun hprefix ↦ h (List.cons_prefix_cons.1 hprefix).1.symm

/-! ## Writing -/

/-- The search for the escape of a space passes the escapes of other bytes as a whole. -/
theorem replace_escapeByte (hbyte : byte < 256) (rest : List Char) :
    replace ['%', '2', '0'] ['+'] (escapeByte byte ++ rest) =
      writtenByte byte ++ replace ['%', '2', '0'] ['+'] rest := by
  have hpattern : ['%', '2', '0'] ≠ [] := List.cons_ne_nil _ _
  rw [writtenByte]
  split
  · next hspace =>
    rw [hspace]
    exact replace_append hpattern ['+'] rest
  · next hspace =>
    have hescaped := isEscaped_escapeByte hbyte
    generalize escapeByte byte = form at hescaped ⊢
    cases hescaped with
    | plain _ _ hpercent => exact replace_cons_of_ne hpercent _ _ _
    | @escape high low hhigh hlow hquotient hrest =>
      have hother : ¬['%', '2', '0'] <+: '%' :: high :: low :: rest := by
        simp only [List.cons_prefix_cons, List.nil_prefix, true_and, and_true]
        rintro ⟨rfl, rfl⟩
        have htwo : 2 = byte / 16 := Option.some.inj hquotient
        have hzero : 0 = byte % 16 := Option.some.inj hrest
        omega
      change replace _ _ ('%' :: high :: low :: rest) = '%' :: high :: low :: replace _ _ rest
      rw [replace_cons hpattern _ hother, replace_cons_of_ne (of_mem_hexDigits hhigh).2.1,
        replace_cons_of_ne (of_mem_hexDigits hlow).2.1]

/-- A text is written byte by byte. -/
theorem encode_eq_flatMap (text : List Char) : encode text = (Utf8.encode text).flatMap writtenByte := by
  have hbytes : ∀ byte ∈ Utf8.encode text, byte < 256 := fun _ ↦ Utf8.lt_of_mem_encode
  rw [encode, escape]
  generalize Utf8.encode text = bytes at hbytes
  induction bytes with
  | nil => exact replace_nil (List.cons_ne_nil _ _) _
  | cons byte bytes ih =>
    obtain ⟨hbyte, hbytes⟩ := List.forall_mem_cons.1 hbytes
    rw [List.flatMap_cons, List.flatMap_cons, replace_escapeByte hbyte, ih hbytes]

/-- Letters and digits of ASCII, five marks, and percent signs with two hexadecimal digits behind them. -/
inductive IsWritten : List Char → Prop where
  | nil : IsWritten []
  | plain {c : Char} {rest : List Char} (hc : c.isAlphanum = true ∨ c ∈ ['*', '.', '-', '_', '+']) (hrest : IsWritten rest) :
      IsWritten (c :: rest)
  | escape {high low : Char} {rest : List Char} (hhigh : high ∈ hexDigits) (hlow : low ∈ hexDigits)
      (hrest : IsWritten rest) : IsWritten ('%' :: high :: low :: rest)

theorem IsWritten.writtenByte_append (hbyte : byte < 256) {rest : List Char} (h : IsWritten rest) :
    IsWritten (writtenByte byte ++ rest) := by
  rw [writtenByte]
  split
  · exact .plain (.inr (by decide)) h
  · have hescaped := isEscaped_escapeByte hbyte
    generalize escapeByte byte = form at hescaped ⊢
    cases hescaped with
    | plain _ _ _ _ hclass => exact .plain (hclass.imp_right fun hmark ↦ List.mem_append_left ['+'] hmark) h
    | escape hhigh hlow => exact .escape hhigh hlow h

theorem isWritten_encode (text : List Char) : IsWritten (encode text) := by
  have hbytes : ∀ byte ∈ Utf8.encode text, byte < 256 := fun _ ↦ Utf8.lt_of_mem_encode
  rw [encode_eq_flatMap]
  generalize Utf8.encode text = bytes at hbytes
  induction bytes with
  | nil => exact .nil
  | cons byte bytes ih =>
    obtain ⟨hbyte, hbytes⟩ := List.forall_mem_cons.1 hbytes
    exact (ih hbytes).writtenByte_append hbyte

/-! ## Reading -/

/-- Plus signs in what is written stand for spaces. -/
theorem replace_writtenByte (hbyte : byte < 256) (rest : List Char) :
    replace ['+'] [' '] (writtenByte byte ++ rest) = spacedByte byte ++ replace ['+'] [' '] rest := by
  rw [writtenByte, spacedByte]
  split
  · exact replace_append (List.cons_ne_nil _ _) [' '] rest
  · have hescaped := isEscaped_escapeByte hbyte
    generalize escapeByte byte = form at hescaped ⊢
    cases hescaped with
    | plain _ _ _ hplus => exact replace_cons_of_ne hplus _ _ _
    | @escape high low hhigh hlow =>
      change replace _ _ ('%' :: high :: low :: rest) = '%' :: high :: low :: replace _ _ rest
      rw [replace_cons_of_ne (by decide), replace_cons_of_ne (of_mem_hexDigits hhigh).2.2,
        replace_cons_of_ne (of_mem_hexDigits hlow).2.2]

theorem replace_flatMap_writtenByte {bytes : List Nat} (hbytes : ∀ byte ∈ bytes, byte < 256) :
    replace ['+'] [' '] (bytes.flatMap writtenByte) = bytes.flatMap spacedByte := by
  induction bytes with
  | nil => exact replace_nil (List.cons_ne_nil _ _) _
  | cons byte bytes ih =>
    obtain ⟨hbyte, hbytes⟩ := List.forall_mem_cons.1 hbytes
    rw [List.flatMap_cons, List.flatMap_cons, replace_writtenByte hbyte, ih hbytes]

theorem lt_of_mem_spacedByte (hbyte : byte < 256) : ∀ c ∈ spacedByte byte, c.toNat < 0x80 := by
  rw [spacedByte]
  split
  · exact List.forall_mem_singleton.2 (by decide)
  · have hescaped := isEscaped_escapeByte hbyte
    generalize escapeByte byte = form at hescaped ⊢
    cases hescaped with
    | plain _ hascii => exact List.forall_mem_singleton.2 hascii
    | escape hhigh hlow =>
      simp only [List.forall_mem_cons]
      exact ⟨by decide, (of_mem_hexDigits hhigh).1, (of_mem_hexDigits hlow).1, List.forall_mem_nil _⟩

theorem unescape_cons (h : byte ≠ 0x25) (rest : List Nat) : unescape (byte :: rest) = byte :: unescape rest := by
  rw [unescape.eq_def]
  split
  · next heq => exact absurd (List.cons.inj heq).1 h
  · next heq =>
    obtain ⟨rfl, rfl⟩ := List.cons.inj heq
    rfl
  · next heq => cases heq

/-- What is written for a byte stands for the byte, whatever follows. -/
theorem unescape_spacedByte (hbyte : byte < 256) (rest : List Nat) :
    unescape ((spacedByte byte).map Char.toNat ++ rest) = byte :: unescape rest := by
  rw [spacedByte]
  split
  · next hspace =>
    rw [hspace]
    exact unescape_cons (by decide) rest
  · have hescaped := isEscaped_escapeByte hbyte
    generalize escapeByte byte = form at hescaped ⊢
    cases hescaped with
    | @plain c hcode _ hpercent =>
      have hsign : c.toNat ≠ 0x25 := fun h ↦ hpercent (Char.toNat_inj.1 h)
      rw [List.map_singleton, List.singleton_append, unescape_cons hsign, hcode]
    | @escape high low _ _ hquotient hrest =>
      change unescape (0x25 :: high.toNat :: low.toNat :: rest) = _
      rw [unescape, hquotient, hrest]
      dsimp only
      rw [Nat.div_add_mod']

theorem unescape_flatMap_spacedByte {bytes : List Nat} (hbytes : ∀ byte ∈ bytes, byte < 256) :
    unescape ((bytes.flatMap spacedByte).map Char.toNat) = bytes := by
  induction bytes with
  | nil => rfl
  | cons byte bytes ih =>
    obtain ⟨hbyte, hbytes⟩ := List.forall_mem_cons.1 hbytes
    rw [List.flatMap_cons, List.map_append, unescape_spacedByte hbyte, ih hbytes]

/-- Decoding undoes encoding. -/
theorem decode_encode (text : List Char) : decode (encode text) = text := by
  have hbytes : ∀ byte ∈ Utf8.encode text, byte < 256 := fun _ ↦ Utf8.lt_of_mem_encode
  have hascii : ∀ c ∈ (Utf8.encode text).flatMap spacedByte, c.toNat < 0x80 := by
    intro c hc
    obtain ⟨byte, hmem, hc⟩ := List.mem_flatMap.1 hc
    exact lt_of_mem_spacedByte (hbytes byte hmem) c hc
  rw [decode, encode_eq_flatMap, replace_flatMap_writtenByte hbytes, Utf8.encode_of_ascii hascii,
    unescape_flatMap_spacedByte hbytes, Utf8.decode_encode]

end Liquid.Text.Percent
