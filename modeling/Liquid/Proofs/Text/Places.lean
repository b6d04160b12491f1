import Liquid.Proofs.Text.Entities
import Mathlib.Data.List.TakeWhile

/-!
# Places among the bytes of a text

Texts are cut at places among their bytes. A place inside of a character or behind the end is none at which a text can be
cut, and neither is there a part between two places in the wrong order. What a search finds among the characters, and what a
scan of the bytes counts as long as it only passes characters of ASCII, are places at which the text can be cut.
-/

namespace Liquid.Text

open Utf8 Html

/-- The number of bytes of a text. -/
def size (text : List Char) : Nat := (encode text).length

/-- The parts of a text in front of and behind a place among its bytes. -/
def splitAt? : (place : Nat) → List Char → Option (List Char × List Char)
  | 0, text => some ([], text)
  | _ + 1, [] => none
  | place + 1, c :: rest =>
    if size [c] ≤ place + 1 then
      (splitAt? (place + 1 - size [c]) rest).map fun (front, behind) ↦ (c :: front, behind)
    else none

/-- The part of a text behind a place. -/
def from? (place : Nat) (text : List Char) : Option (List Char) := (splitAt? place text).map Prod.snd

/-- The part of a text in front of a place. -/
def upTo? (place : Nat) (text : List Char) : Option (List Char) := (splitAt? place text).map Prod.fst

/-- The part of a text between two places. -/
def between? (start stop : Nat) (text : List Char) : Option (List Char) := do
  if start ≤ stop then from? start (← upTo? stop text) else none

/-- The place of the first occurrence of a pattern. -/
def find? (pattern text : List Char) : Option Nat := (breakOn pattern text).map fun (before, _) ↦ size before

variable {text front behind inside rest : List Char} {place : Nat} {c : Char} {class_ : Char → Bool}

@[simp] theorem size_nil : size [] = 0 := by
  rw [size, encode_nil, List.length_nil]

@[simp] theorem size_append (text more : List Char) : size (text ++ more) = size text + size more := by
  rw [size, encode_append, List.length_append, size, size]

theorem size_cons (c : Char) (rest : List Char) : size (c :: rest) = size [c] + size rest := size_append [c] rest

theorem size_singleton (c : Char) : size [c] = c.utf8Size := by
  rw [size, encode_singleton, List.length_map, String.length_utf8EncodeChar]

theorem size_singleton_pos (c : Char) : 0 < size [c] := by
  rw [size_singleton]
  exact c.utf8Size_pos

theorem forall_ascii_of_all (h : text.all (fun c ↦ c.toNat < 0x80) = true) : ∀ c ∈ text, c.toNat < 0x80 := fun c hc ↦
  of_decide_eq_true (List.all_eq_true.1 h c hc)

theorem size_of_ascii (text : List Char) (h : ∀ c ∈ text, c.toNat < 0x80) : size text = text.length := by
  rw [size, encode_of_ascii h, List.length_map]

theorem size_eq_length (text : List Char) (h : text.all (fun c ↦ c.toNat < 0x80) = true) : size text = text.length :=
  size_of_ascii text (forall_ascii_of_all h)

theorem length_le_size (text : List Char) : text.length ≤ size text := by
  induction text with
  | nil => exact Nat.zero_le _
  | cons c rest ih =>
    have hpos := size_singleton_pos c
    rw [size_cons, List.length_cons]
    omega

theorem size_toList (source : String) : size source.toList = source.utf8ByteSize := by
  rw [size, encode, String.ofList_toList, List.length_map]
  change (ByteArray.toList.loop source.toUTF8 0 []).length = _
  rw [toList_loop]
  rfl

/-! ## Cutting a text -/

theorem splitAt?_size (front behind : List Char) : splitAt? (size front) (front ++ behind) = some (front, behind) := by
  induction front with
  | nil =>
    rw [size_nil, List.nil_append]
    cases behind <;> rfl
  | cons c front ih =>
    have hpos := size_singleton_pos c
    obtain ⟨more, hmore⟩ := Nat.exists_eq_add_of_lt hpos
    rw [size_cons, List.cons_append]
    rw [show size [c] + size front = (more + size front) + 1 by omega, splitAt?, if_pos (by omega),
      show more + size front + 1 - size [c] = size front by omega, ih]
    rfl

/-- A text can be cut at the places behind its characters, and only there. -/
theorem splitAt?_eq_some_iff : splitAt? place text = some (front, behind) ↔ text = front ++ behind ∧ place = size front := by
  constructor
  · intro h
    induction text generalizing place front with
    | nil =>
      cases place with
      | zero =>
        obtain ⟨rfl, rfl⟩ := Prod.mk.inj (Option.some.inj h)
        exact ⟨rfl, size_nil.symm⟩
      | succ place => cases h
    | cons c rest ih =>
      cases place with
      | zero =>
        obtain ⟨rfl, rfl⟩ := Prod.mk.inj (Option.some.inj h)
        exact ⟨rfl, size_nil.symm⟩
      | succ place =>
        rw [splitAt?] at h
        split at h
        · next hfits =>
          obtain ⟨⟨first, later⟩, hlater, heq⟩ := Option.map_eq_some_iff.1 h
          obtain ⟨rfl, rfl⟩ := Prod.mk.inj heq
          obtain ⟨rfl, hplace⟩ := ih hlater
          refine ⟨rfl, ?_⟩
          rw [size_cons]
          omega
        · cases h
  · rintro ⟨rfl, rfl⟩
    exact splitAt?_size front behind

theorem from?_size (front behind : List Char) : from? (size front) (front ++ behind) = some behind := by
  rw [from?, splitAt?_size]
  rfl

theorem upTo?_size (front behind : List Char) : upTo? (size front) (front ++ behind) = some front := by
  rw [upTo?, splitAt?_size]
  rfl

theorem upTo?_of_isPrefix (h : front <+: text) : upTo? (size front) text = some front := by
  obtain ⟨behind, rfl⟩ := h
  exact upTo?_size front behind

theorem between?_size (front inside behind : List Char) :
    between? (size front) (size front + size inside) (front ++ inside ++ behind) = some inside := by
  rw [between?, if_pos (Nat.le_add_right _ _), ← size_append, upTo?_size]
  exact from?_size front inside

/-- The part between two places begins and ends behind characters, and it does not end in front of its start. -/
theorem between?_eq_some_iff {start stop : Nat} : between? start stop text = some inside ↔
    ∃ front behind, text = front ++ inside ++ behind ∧ start = size front ∧ stop = size front + size inside := by
  constructor
  · intro h
    rw [between?] at h
    split at h
    · obtain ⟨before, hbefore, hinside⟩ := Option.bind_eq_some_iff.1 h
      obtain ⟨⟨_, behind⟩, hstop, rfl⟩ := Option.map_eq_some_iff.1 hbefore
      obtain ⟨⟨front, _⟩, hstart, rfl⟩ := Option.map_eq_some_iff.1 hinside
      obtain ⟨rfl, rfl⟩ := splitAt?_eq_some_iff.1 hstart
      obtain ⟨rfl, rfl⟩ := splitAt?_eq_some_iff.1 hstop
      exact ⟨front, behind, rfl, rfl, size_append _ _⟩
    · cases h
  · rintro ⟨front, behind, rfl, rfl, rfl⟩
    exact between?_size front inside behind

/-! ## Characters of ASCII among the bytes -/

theorem toNat_lt_of_isAlpha {c : Char} (h : c.isAlpha = true) : c.toNat < 128 := by
  have hletters : c.isAlpha = (decide ('A'.val ≤ c.val ∧ c.val ≤ 'Z'.val) ||
      decide ('a'.val ≤ c.val) && decide (c.val ≤ 'z'.val)) := rfl
  rw [hletters] at h
  simp only [Bool.or_eq_true, Bool.and_eq_true, decide_eq_true_eq] at h
  obtain ⟨-, hlast⟩ | ⟨-, hlast⟩ := h
  · exact Nat.lt_of_le_of_lt (UInt32.le_iff_toNat_le.1 hlast) (by decide)
  · exact Nat.lt_of_le_of_lt (UInt32.le_iff_toNat_le.1 hlast) (by decide)

theorem toNat_lt_of_isDigit (h : c.isDigit = true) : c.toNat < 128 := by
  have hdigits : c.isDigit = (decide ('0'.val ≤ c.val) && decide (c.val ≤ '9'.val)) := rfl
  rw [hdigits, Bool.and_eq_true, decide_eq_true_eq, decide_eq_true_eq] at h
  exact Nat.lt_of_le_of_lt (UInt32.le_iff_toNat_le.1 h.2) (by decide)

theorem toNat_lt_of_isAlphanum (h : c.isAlphanum = true) : c.toNat < 128 := by
  rw [Char.isAlphanum, Bool.or_eq_true] at h
  obtain h | h := h
  · exact toNat_lt_of_isAlpha h
  · exact toNat_lt_of_isDigit h

/-- The bytes of the characters of ASCII in a class. -/
def asciiClass (class_ : Char → Bool) (byte : Nat) : Bool := byte < 0x80 && class_ (Char.ofNat byte)

theorem asciiClass_toNat (hc : c.toNat < 0x80) : asciiClass class_ c.toNat = class_ c := by
  rw [asciiClass, decide_eq_true hc, Bool.true_and, Char.ofNat_toNat]

theorem asciiClass_of_le {byte : Nat} (h : 0x80 ≤ byte) : asciiClass class_ byte = false := by
  rw [asciiClass, decide_eq_false (Nat.not_lt.2 h), Bool.false_and]

theorem encode_cons_of_ascii (h : c.toNat < 0x80) (rest : List Char) : encode (c :: rest) = c.toNat :: encode rest := by
  rw [encode_cons, encode_of_ascii (List.forall_mem_singleton.2 h)]
  rfl

/-- The bytes of other characters are none of ASCII. -/
theorem exists_encode_of_le (h : 0x80 ≤ c.toNat) :
    ∃ first more, encode [c] = first :: more ∧ ∀ byte ∈ first :: more, 0x80 ≤ byte := by
  obtain ⟨first, more, hbytes, -⟩ := exists_first c
  refine ⟨first, more, hbytes, fun byte hbyte ↦ ?_⟩
  rw [← hbytes] at hbyte
  obtain rfl | hle := le_of_mem_encode hbyte
  · exact h
  · exact hle

theorem toNat_beq (c d : Char) : (c.toNat == d.toNat) = (c == d) := by
  rw [Bool.eq_iff_iff, beq_iff_eq, beq_iff_eq, Char.toNat_inj]

/-- The first byte of a text is that of a character of ASCII if the text begins with it. -/
theorem head?_encode {d : Char} (hd : d.toNat < 0x80) (text : List Char) :
    ((encode text).head? == some d.toNat) = (text.head? == some d) := by
  cases text with
  | nil =>
    rw [encode_nil]
    rfl
  | cons c rest =>
    change _ = (some c == some d)
    by_cases hc : c.toNat < 0x80
    · rw [encode_cons_of_ascii hc, List.head?_cons, Option.some_beq_some, Option.some_beq_some, toNat_beq]
    · obtain ⟨first, more, hbytes, hlarge⟩ := exists_encode_of_le (Nat.not_lt.1 hc)
      have hle := hlarge first List.mem_cons_self
      have hbyte : (first == d.toNat) = false := beq_eq_false_iff_ne.2 (by omega)
      have hchar : (c == d) = false := beq_eq_false_iff_ne.2 fun hsame ↦ hc (hsame ▸ hd)
      rw [encode_cons, hbytes, List.cons_append, List.head?_cons, Option.some_beq_some, Option.some_beq_some, hbyte, hchar]

/-- A scan of the bytes stops where a scan of the characters does. -/
theorem takeWhile_encode (hclass : ∀ c, class_ c = true → c.toNat < 0x80) (text : List Char) :
    (encode text).takeWhile (asciiClass class_) = (text.takeWhile class_).map Char.toNat := by
  induction text with
  | nil => rw [encode_nil, List.takeWhile_nil, List.takeWhile_nil, List.map_nil]
  | cons c rest ih =>
    by_cases hc : c.toNat < 0x80
    · rw [encode_cons_of_ascii hc, List.takeWhile_cons, List.takeWhile_cons, asciiClass_toNat hc, ih]
      split <;> rfl
    · obtain ⟨first, more, hbytes, hlarge⟩ := exists_encode_of_le (Nat.not_lt.1 hc)
      have hfirst : asciiClass class_ first = false := asciiClass_of_le (hlarge first List.mem_cons_self)
      have hoff : class_ c = false := Bool.eq_false_iff.2 fun hon ↦ hc (hclass c hon)
      rw [encode_cons, hbytes, List.cons_append, List.takeWhile_cons, hfirst, List.takeWhile_cons, hoff]
      rfl

theorem size_takeWhile (hclass : ∀ c, class_ c = true → c.toNat < 0x80) (text : List Char) :
    size (text.takeWhile class_) = (text.takeWhile class_).length :=
  size_of_ascii _ fun c hc ↦ hclass c (List.mem_takeWhile_imp hc)

theorem length_takeWhile_encode (hclass : ∀ c, class_ c = true → c.toNat < 0x80) (text : List Char) :
    ((encode text).takeWhile (asciiClass class_)).length = size (text.takeWhile class_) := by
  rw [takeWhile_encode hclass, List.length_map, size_takeWhile hclass]

/-- Behind the bytes of a text stand those of the rest. -/
theorem drop_encode (front behind : List Char) : (encode (front ++ behind)).drop (size front) = encode behind := by
  rw [encode_append, size, List.drop_left]

end Liquid.Text
