import Liquid.Text.Utf8
import Mathlib.Tactic.Common

/-!
# Reading the bytes of a text

The bytes of a text are read as that text: each character is shown by its own bytes, whatever follows them, so that nothing is
replaced.
-/

namespace Liquid.Text.Utf8

/-! ## The bytes of a text -/

theorem toList_loop (bytes : ByteArray) (place : Nat) (passed : List UInt8) :
    ByteArray.toList.loop bytes place passed = passed.reverse ++ bytes.data.toList.drop place := by
  fun_induction ByteArray.toList.loop bytes place passed with
  | case1 place passed hplace ih =>
    have hinside : place < bytes.data.toList.length := hplace
    have hbyte : bytes.get! place = bytes.data.toList[place] := getElem!_pos bytes.data place hplace
    rw [ih, List.reverse_cons, List.append_assoc, List.drop_eq_getElem_cons hinside, hbyte, List.singleton_append]
  | case2 place passed hplace =>
    have houtside : bytes.data.toList.length ≤ place := Nat.le_of_not_lt hplace
    rw [List.drop_eq_nil_of_le houtside, List.append_nil]

/-- The bytes of a text are those of its characters. -/
theorem encode_eq_flatMap (text : List Char) :
    encode text = text.flatMap fun c ↦ (String.utf8EncodeChar c).map UInt8.toNat := by
  have hbytes : (String.ofList text).toUTF8.toList = text.flatMap String.utf8EncodeChar := by
    change ByteArray.toList.loop (text.flatMap String.utf8EncodeChar).toByteArray 0 [] = _
    rw [toList_loop, List.toList_data_toByteArray]
    rfl
  rw [encode, hbytes, List.map_flatMap]

theorem encode_append (text more : List Char) : encode (text ++ more) = encode text ++ encode more := by
  rw [encode_eq_flatMap, encode_eq_flatMap, encode_eq_flatMap, List.flatMap_append]

theorem lt_of_mem_encode {text : List Char} {byte : Nat} (h : byte ∈ encode text) : byte < 256 := by
  obtain ⟨word, -, rfl⟩ := List.mem_map.1 h
  exact word.toNat_lt

theorem toNat_ofNat_of_lt {n : Nat} (h : n < 256) : (UInt8.ofNat n).toNat = n := by
  rw [UInt8.toNat_ofNat']
  exact Nat.mod_eq_of_lt h

/-- The bytes of a character are the digits of its code to the base 64 behind marks of their number and their place. -/
theorem charBytes_eq (c : Char) :
    (String.utf8EncodeChar c).map UInt8.toNat =
      if c.toNat < 0x80 then [c.toNat]
      else if c.toNat < 0x800 then [192 + c.toNat / 64, 128 + c.toNat % 64]
      else if c.toNat < 0x10000 then [224 + c.toNat / 64 / 64, 128 + c.toNat / 64 % 64, 128 + c.toNat % 64]
      else [240 + c.toNat / 64 / 64 / 64, 128 + c.toNat / 64 / 64 % 64, 128 + c.toNat / 64 % 64, 128 + c.toNat % 64] := by
  have hcode : c.val.toNat = c.toNat := rfl
  have hbound : c.toNat < 0x110000 := by
    have hvalid : c.toNat < 0xD800 ∨ 0xDFFF < c.toNat ∧ c.toNat < 0x110000 := c.valid
    omega
  rw [String.utf8EncodeChar, hcode]
  generalize c.toNat = code at hbound
  by_cases hone : code < 0x80
  · rw [if_pos (by omega), if_pos hone, List.map_singleton, toNat_ofNat_of_lt (by omega)]
  by_cases htwo : code < 0x800
  · rw [if_neg (by omega), if_pos (by omega), if_neg hone, if_pos htwo]
    simp only [List.map_cons, List.map_nil, UInt8.toNat_ofNat', List.cons.injEq, and_true]
    omega
  by_cases hthree : code < 0x10000
  · rw [if_neg (by omega), if_neg (by omega), if_pos (by omega), if_neg hone, if_neg htwo, if_pos hthree]
    simp only [List.map_cons, List.map_nil, UInt8.toNat_ofNat', List.cons.injEq, and_true]
    omega
  · rw [if_neg (by omega), if_neg (by omega), if_neg (by omega), if_neg hone, if_neg htwo, if_neg hthree]
    simp only [List.map_cons, List.map_nil, UInt8.toNat_ofNat', List.cons.injEq, and_true]
    omega

/-- Characters of ASCII are their own bytes. -/
theorem encode_of_ascii {text : List Char} (h : ∀ c ∈ text, c.toNat < 0x80) : encode text = text.map Char.toNat := by
  rw [encode_eq_flatMap]
  induction text with
  | nil => rfl
  | cons c text ih =>
    obtain ⟨hc, htext⟩ := List.forall_mem_cons.1 h
    rw [List.flatMap_cons, ih htext, charBytes_eq, if_pos hc]
    rfl

/-! ## The character that bytes show -/

variable {lead high middle low : Nat}

/-- A first byte that all its followers follow shows the character of their digits. -/
theorem firstChar_of_followers {first least most count : Nat} {bytes more : List Nat} (hfirst : 0x80 ≤ first)
    (hfollowers : followers first = some (least, most, count)) (hmore : continuation least most count bytes = more)
    (hcount : more.length = count) :
    firstChar first bytes =
      (Char.ofNat (more.foldl (fun code byte ↦ code * 64 + byte % 64) (first % Nat.pow 2 (6 - count))), count) := by
  rw [firstChar, if_neg (Nat.not_lt.2 hfirst), hfollowers]
  dsimp only
  rw [hmore, if_pos (beq_iff_eq.2 hcount)]

theorem firstChar_of_two (hlead : 2 ≤ lead) (hlead' : lead < 32) (hlow : low < 64) (rest : List Nat) :
    firstChar (192 + lead) ((128 + low) :: rest) = (Char.ofNat (lead * 64 + low), 1) := by
  have hfollowers : followers (192 + lead) = some (0x80, 0xBF, 1) := by
    rw [followers, if_pos (by simp; omega)]
  have hmore : continuation 0x80 0xBF 1 ((128 + low) :: rest) = [128 + low] := by
    rw [continuation, if_pos (by simp; omega), continuation]
  have hdigits : (192 + lead) % Nat.pow 2 (6 - 1) = lead ∧ (128 + low) % 64 = low := by
    change (192 + lead) % 32 = lead ∧ _
    omega
  refine (firstChar_of_followers (by omega) hfollowers hmore rfl).trans ?_
  rw [List.foldl_cons, List.foldl_nil, hdigits.1, hdigits.2]

theorem firstChar_of_three (hlead : lead < 16) (hmiddle : middle < 64) (hlow : low < 64) (hlong : lead = 0 → 32 ≤ middle)
    (hchar : lead = 13 → middle < 32) (rest : List Nat) :
    firstChar (224 + lead) ((128 + middle) :: (128 + low) :: rest) = (Char.ofNat ((lead * 64 + middle) * 64 + low), 2) := by
  have hfollowers : followers (224 + lead) =
      some (if lead = 0 then 0xA0 else 0x80, if lead = 13 then 0x9F else 0xBF, 2) := by
    have hall : ∀ lead < 16, followers (224 + lead) =
        some (if lead = 0 then 0xA0 else 0x80, if lead = 13 then 0x9F else 0xBF, 2) := by decide
    exact hall lead hlead
  have hmore : continuation (if lead = 0 then 0xA0 else 0x80) (if lead = 13 then 0x9F else 0xBF) 2
      ((128 + middle) :: (128 + low) :: rest) = [128 + middle, 128 + low] := by
    rw [continuation, if_pos, continuation, if_pos (by simp; omega), continuation]
    simp only [Bool.and_eq_true, decide_eq_true_eq]
    constructor
    · split <;> omega
    · split <;> omega
  have hdigits : (224 + lead) % Nat.pow 2 (6 - 2) = lead ∧ (128 + middle) % 64 = middle ∧ (128 + low) % 64 = low := by
    change (224 + lead) % 16 = lead ∧ _
    omega
  refine (firstChar_of_followers (by omega) hfollowers hmore rfl).trans ?_
  rw [List.foldl_cons, List.foldl_cons, List.foldl_nil, hdigits.1, hdigits.2.1, hdigits.2.2]

theorem firstChar_of_four (hlead : lead < 5) (hhigh : high < 64) (hmiddle : middle < 64) (hlow : low < 64)
    (hlong : lead = 0 → 16 ≤ high) (hchar : lead = 4 → high < 16) (rest : List Nat) :
    firstChar (240 + lead) ((128 + high) :: (128 + middle) :: (128 + low) :: rest) =
      (Char.ofNat (((lead * 64 + high) * 64 + middle) * 64 + low), 3) := by
  have hfollowers : followers (240 + lead) =
      some (if lead = 0 then 0x90 else 0x80, if lead = 4 then 0x8F else 0xBF, 3) := by
    have hall : ∀ lead < 5, followers (240 + lead) =
        some (if lead = 0 then 0x90 else 0x80, if lead = 4 then 0x8F else 0xBF, 3) := by decide
    exact hall lead hlead
  have hmore : continuation (if lead = 0 then 0x90 else 0x80) (if lead = 4 then 0x8F else 0xBF) 3
      ((128 + high) :: (128 + middle) :: (128 + low) :: rest) = [128 + high, 128 + middle, 128 + low] := by
    rw [continuation, if_pos, continuation, if_pos (by simp; omega), continuation, if_pos (by simp; omega), continuation]
    simp only [Bool.and_eq_true, decide_eq_true_eq]
    constructor
    · split <;> omega
    · split <;> omega
  have hdigits : (240 + lead) % Nat.pow 2 (6 - 3) = lead ∧ (128 + high) % 64 = high ∧ (128 + middle) % 64 = middle ∧
      (128 + low) % 64 = low := by
    change (240 + lead) % 8 = lead ∧ _
    omega
  refine (firstChar_of_followers (by omega) hfollowers hmore rfl).trans ?_
  rw [List.foldl_cons, List.foldl_cons, List.foldl_cons, List.foldl_nil, hdigits.1, hdigits.2.1,
    hdigits.2.2.1, hdigits.2.2.2]

/-- The bytes of a character begin with its first byte and show the character, whatever follows. -/
theorem exists_bytes (c : Char) :
    ∃ first more, (String.utf8EncodeChar c).map UInt8.toNat = first :: more ∧
      ∀ rest, firstChar first (more ++ rest) = (c, more.length) := by
  have hvalid : c.toNat < 0xD800 ∨ 0xDFFF < c.toNat ∧ c.toNat < 0x110000 := c.valid
  have hself : Char.ofNat c.toNat = c := Char.ofNat_toNat c
  rw [charBytes_eq]
  by_cases hone : c.toNat < 0x80
  · refine ⟨c.toNat, [], if_pos hone, fun rest ↦ ?_⟩
    rw [firstChar, if_pos hone, hself]
    rfl
  by_cases htwo : c.toNat < 0x800
  · rw [if_neg hone, if_pos htwo]
    refine ⟨_, _, rfl, fun rest ↦ (firstChar_of_two ?_ ?_ ?_ rest).trans ?_⟩
    · omega
    · omega
    · omega
    · rw [Nat.div_add_mod', hself]
      rfl
  by_cases hthree : c.toNat < 0x10000
  · rw [if_neg hone, if_neg htwo, if_pos hthree]
    refine ⟨_, _, rfl, fun rest ↦ (firstChar_of_three ?_ ?_ ?_ ?_ ?_ rest).trans ?_⟩
    · omega
    · omega
    · omega
    · omega
    · omega
    · rw [Nat.div_add_mod', Nat.div_add_mod', hself]
      rfl
  · rw [if_neg hone, if_neg htwo, if_neg hthree]
    refine ⟨_, _, rfl, fun rest ↦ (firstChar_of_four ?_ ?_ ?_ ?_ ?_ ?_ rest).trans ?_⟩
    · omega
    · omega
    · omega
    · omega
    · omega
    · omega
    · rw [Nat.div_add_mod', Nat.div_add_mod', Nat.div_add_mod', hself]
      rfl

/-- Decoding the bytes of a text gives the text. -/
theorem decode_encode (text : List Char) : decode (encode text) = text := by
  rw [encode_eq_flatMap]
  induction text with
  | nil => rw [List.flatMap_nil, decode]
  | cons c text ih =>
    obtain ⟨first, more, hbytes, hshow⟩ := exists_bytes c
    rw [List.flatMap_cons, hbytes, List.cons_append, decode, hshow]
    dsimp only
    rw [List.drop_left, ih]

end Liquid.Text.Utf8
