import Liquid.Proofs.Text.Bytes
import Liquid.Text.Html
import Liquid.Text.Search
import Mathlib.Data.List.Basic

/-!
# Entities

Escaping writes the six characters that have a meaning in HTML as entities. Every entity begins with an ampersand and has no
other one, so that the ampersands of an escaped text are the beginnings of its entities, and reading the entities from left to
right gives the text back. A pass over the bytes of a text, which writes what lies between two special bytes as a whole, never
cuts a character and writes the bytes of the escaped text.
-/

namespace Liquid.Text.Html

open Utf8

/-- The characters that have a meaning in HTML, and what is written for them. -/
def entities : List (Char × List Char) :=
  [('<', "&lt;".toList), ('>', "&gt;".toList), ('&', "&amp;".toList), ('"', "&quot;".toList), ('\'', "&#x27;".toList),
    ('/', "&#x2f;".toList)]

/-- What is written for a character: an entity for a special one, any other one as it is. -/
inductive Image : Char → List Char → Prop where
  | entity {c : Char} {entity : List Char} (h : (c, entity) ∈ entities) : Image c entity
  | plain {c : Char} (h : c ∉ entities.map Prod.fst) : Image c [c]

variable {text before behind : List Char}

theorem image_escapeChar (c : Char) : Image c (escapeChar c) := by
  unfold escapeChar
  split
  iterate 6 exact .entity (by decide)
  refine .plain ?_
  simp_all [entities]

theorem escape_cons (c : Char) (rest : List Char) : escape (c :: rest) = escapeChar c ++ escape rest :=
  List.flatMap_cons

/-- An escaped text is the concatenation of the images of the characters. -/
theorem exists_images (text : List Char) : ∃ images, List.Forall₂ Image text images ∧ escape text = images.flatten := by
  induction text with
  | nil => exact ⟨[], .nil, rfl⟩
  | cons c rest ih =>
    obtain ⟨images, himages, hrest⟩ := ih
    exact ⟨escapeChar c :: images, .cons (image_escapeChar c) himages, by rw [escape_cons, hrest, List.flatten_cons]⟩

/-- An entity begins with an ampersand and has no other one. -/
theorem exists_of_mem_entities {c : Char} {entity : List Char} (h : (c, entity) ∈ entities) :
    ∃ name, entity = '&' :: name ∧ '&' ∉ name := by
  have hall : ∀ entry ∈ entities, entry.2.head? = some '&' ∧ '&' ∉ entry.2.tail := by decide
  obtain ⟨hhead, htail⟩ := hall _ h
  exact ⟨entity.tail, (List.cons_head?_tail hhead).symm, htail⟩

/-- None of the special characters is left, but for the ampersands. -/
theorem not_mem_escape {c : Char} (hspecial : c ∈ entities.map Prod.fst) (hampersand : c ≠ '&') : c ∉ escape text := by
  intro h
  obtain ⟨d, -, hd⟩ := List.mem_flatMap.1 h
  generalize escapeChar d = image, image_escapeChar d = himage at hd
  cases himage with
  | entity hentity =>
    obtain ⟨special, hmem, rfl⟩ := List.mem_map.1 hspecial
    have hall : ∀ special ∈ entities, special.1 ≠ '&' → ∀ entry ∈ entities, special.1 ∉ entry.2 := by decide
    exact hall special hmem hampersand _ hentity hd
  | plain hplain =>
    obtain rfl := List.mem_singleton.1 hd
    exact hplain hspecial

/-- An ampersand in the image of a character is the first character of an entity. -/
theorem Image.of_ampersand {c : Char} (h : Image c (before ++ '&' :: behind)) :
    before = [] ∧ (c, '&' :: behind) ∈ entities := by
  generalize hwhole : before ++ '&' :: behind = image at h
  cases h with
  | entity hentity =>
    obtain ⟨name, rfl, hname⟩ := exists_of_mem_entities hentity
    cases before with
    | nil => exact ⟨rfl, by rwa [← hwhole] at hentity⟩
    | cons d before =>
      obtain ⟨-, rfl⟩ := List.cons.inj hwhole
      exact absurd (List.mem_append_right before List.mem_cons_self) hname
  | plain hplain =>
    have hmem : '&' ∈ [c] := hwhole ▸ List.mem_append_right before List.mem_cons_self
    obtain rfl := List.mem_singleton.1 hmem
    exact absurd (by decide) hplain

/-- Every ampersand of an escaped text begins an entity. -/
theorem exists_entity_prefix (h : escape text = before ++ '&' :: behind) :
    ∃ c entity, (c, entity) ∈ entities ∧ entity <+: '&' :: behind := by
  induction text generalizing before with
  | nil => cases before <;> cases h
  | cons c rest ih =>
    rw [escape_cons, List.append_eq_append_iff] at h
    obtain ⟨others, -, hrest⟩ | ⟨others, himage, hbehind⟩ := h
    · exact ih hrest
    · cases others with
      | nil =>
        have hrest : escape rest = [] ++ '&' :: behind := hbehind.symm
        exact ih hrest
      | cons d others =>
        obtain ⟨rfl, rfl⟩ := List.cons.inj hbehind
        have hentity := (himage ▸ image_escapeChar c : Image c (before ++ '&' :: others)).of_ampersand.2
        exact ⟨c, _, hentity, List.prefix_append ('&' :: others) (escape rest)⟩

/-! ## Reading -/

/-- The character of the entity that a text begins with, and what stands behind the entity. -/
def readEntity? (text : List Char) : Option (Char × List Char) :=
  entities.findSome? fun (c, entity) ↦ (entity.isPrefixOf? text).map fun behind ↦ (c, behind)

theorem readEntity?_append {c : Char} {entity : List Char} (h : (c, entity) ∈ entities) (behind : List Char) :
    readEntity? (entity ++ behind) = some (c, behind) := by
  have hall : ∀ entry ∈ entities, readEntity? (entry.2 ++ behind) = some (entry.1, behind) := by
    simp only [entities, List.forall_mem_cons, List.not_mem_nil, false_implies, implies_true, and_true]
    exact ⟨rfl, rfl, rfl, rfl, rfl, rfl⟩
  exact hall _ h

theorem readEntity?_of_ne {c : Char} (h : c ≠ '&') (rest : List Char) : readEntity? (c :: rest) = none := by
  refine List.findSome?_eq_none_iff.2 fun (special, entity) hentity ↦ ?_
  obtain ⟨name, rfl, -⟩ := exists_of_mem_entities hentity
  have hne : ('&' == c) = false := beq_eq_false_iff_ne.2 h.symm
  simp [List.isPrefixOf?, hne]

theorem length_lt_of_readEntity? {c : Char} (h : readEntity? text = some (c, behind)) : behind.length < text.length := by
  obtain ⟨⟨special, entity⟩, hentity, hread⟩ := List.exists_of_findSome?_eq_some h
  obtain ⟨name, rfl, -⟩ := exists_of_mem_entities hentity
  obtain ⟨rest, hprefix, hpair⟩ := Option.map_eq_some_iff.1 hread
  obtain ⟨-, rfl⟩ := Prod.mk.inj hpair
  rw [eq_append_of_isPrefixOf? hprefix, List.length_append, List.length_cons]
  omega

/-- A text with the characters of its entities in their places, from left to right. -/
def unescape (text : List Char) : List Char :=
  match text with
  | [] => []
  | c :: rest =>
    match _found : readEntity? (c :: rest) with
    | some (special, behind) => special :: unescape behind
    | none => c :: unescape rest
termination_by text.length
decreasing_by
  · exact length_lt_of_readEntity? _found
  · exact Nat.lt_succ_self _

theorem unescape_append_of_mem {c : Char} {entity : List Char} (h : (c, entity) ∈ entities) (behind : List Char) :
    unescape (entity ++ behind) = c :: unescape behind := by
  have hread := readEntity?_append h behind
  obtain ⟨name, rfl, -⟩ := exists_of_mem_entities h
  rw [List.cons_append] at hread ⊢
  rw [unescape]
  split
  · next hfound =>
    obtain ⟨rfl, rfl⟩ := Prod.mk.inj (Option.some.inj (hfound.symm.trans hread))
    rfl
  · next hnone => cases hnone.symm.trans hread

theorem unescape_cons_of_ne {c : Char} (h : c ≠ '&') (rest : List Char) : unescape (c :: rest) = c :: unescape rest := by
  have hread := readEntity?_of_ne h rest
  rw [unescape]
  split
  · next hfound => cases hread.symm.trans hfound
  · rfl

/-- An escaped text is read as what it was. -/
theorem unescape_escape (text : List Char) : unescape (escape text) = text := by
  induction text with
  | nil => rw [escape_nil, unescape]
  | cons c rest ih =>
    rw [escape_cons]
    generalize escapeChar c = image, image_escapeChar c = himage
    cases himage with
    | entity hentity => rw [unescape_append_of_mem hentity, ih]
    | plain hplain =>
      have hne : c ≠ '&' := fun h ↦ hplain (h ▸ by decide)
      rw [List.singleton_append, unescape_cons_of_ne hne, ih]

/-! ## The pass over the bytes -/

/-- Whether a place among the bytes of a text is not inside a character: it is the beginning or the end, or what stands there
is no byte that continues a character. -/
def isBoundary (bytes : List Nat) (place : Nat) : Bool :=
  match bytes[place]? with
  | some byte => place == 0 || byte < 0x80 || 0xC0 ≤ byte
  | none => place == bytes.length

/-- The part of a text between two places among its bytes; there is none if the places are in the wrong order, behind the end
or inside a character. -/
def part? (bytes : List Nat) (start stop : Nat) : Option (List Nat) :=
  if start ≤ stop ∧ isBoundary bytes start ∧ isBoundary bytes stop then some ((bytes.take stop).drop start) else none

/-- What is written for a special byte. -/
def entityOf? (byte : Nat) : Option (List Nat) :=
  (entities.find? fun entry ↦ entry.1.toNat == byte).map fun entry ↦ encode entry.2

/-- What has been passed between two places, written as a whole. -/
def flush? (bytes : List Nat) (start place : Nat) : Option (List Nat) :=
  if start < place then part? bytes start place else some []

/-- Writes the bytes of a text from `start` on, where those between `start` and `place` have been passed and `rest` is what
stands at `place`. What has been passed is written in front of the next entity, or at the end. -/
def passBytes? (bytes : List Nat) (start place : Nat) : (rest : List Nat) → Option (List Nat)
  | [] => flush? bytes start bytes.length
  | byte :: rest =>
    match entityOf? byte with
    | some entity => do
      let passed ← flush? bytes start place
      let written ← passBytes? bytes (place + 1) (place + 1) rest
      return passed ++ entity ++ written
    | none => passBytes? bytes start (place + 1) rest

/-- The escaped bytes of a text, computed in one pass. -/
def escapeBytes? (bytes : List Nat) : Option (List Nat) := passBytes? bytes 0 0 bytes

variable {front passed : List Char}

theorem encode_nil : encode [] = [] := by
  rw [encode_eq_flatMap, List.flatMap_nil]

theorem encode_cons (c : Char) (rest : List Char) : encode (c :: rest) = encode [c] ++ encode rest :=
  encode_append [c] rest

theorem encode_singleton (c : Char) : encode [c] = (String.utf8EncodeChar c).map UInt8.toNat := by
  rw [encode_eq_flatMap, List.flatMap_singleton]

/-- A character begins with a byte that continues none. -/
theorem exists_first (c : Char) : ∃ first more, encode [c] = first :: more ∧ (first < 0x80 ∨ 0xC0 ≤ first) := by
  rw [encode_singleton, charBytes_eq]
  split
  · next hone => exact ⟨_, _, rfl, .inl hone⟩
  split
  · exact ⟨_, _, rfl, .inr (by omega)⟩
  split
  · exact ⟨_, _, rfl, .inr (by omega)⟩
  · exact ⟨_, _, rfl, .inr (by omega)⟩

/-- The bytes of characters that are not of ASCII are not bytes of ASCII. -/
theorem le_of_mem_encode {c : Char} {byte : Nat} (h : byte ∈ encode [c]) : byte = c.toNat ∨ 0x80 ≤ byte := by
  rw [encode_singleton, charBytes_eq] at h
  split at h
  · exact .inl (List.mem_singleton.1 h)
  split at h
  · refine .inr ?_
    simp at h
    omega
  split at h
  · refine .inr ?_
    simp at h
    omega
  · refine .inr ?_
    simp at h
    omega

/-- Between two characters no character is cut. -/
theorem isBoundary_length (front rest : List Char) : isBoundary (encode (front ++ rest)) (encode front).length = true := by
  unfold isBoundary
  cases rest with
  | nil => simp
  | cons c rest =>
    obtain ⟨first, more, hbytes, hfirst⟩ := exists_first c
    have hbyte : (encode (front ++ c :: rest))[(encode front).length]? = some first := by
      rw [encode_append, encode_cons, hbytes, List.getElem?_append_right (Nat.le_refl _), Nat.sub_self]
      rfl
    rw [hbyte]
    simp only [Bool.or_eq_true, decide_eq_true_eq]
    omega

theorem part?_eq (front passed rest : List Char) :
    part? (encode (front ++ passed ++ rest)) (encode front).length (encode (front ++ passed)).length =
      some (encode passed) := by
  have hstart := isBoundary_length front (passed ++ rest)
  have hstop := isBoundary_length (front ++ passed) rest
  rw [← List.append_assoc] at hstart
  have hle : (encode front).length ≤ (encode (front ++ passed)).length := by
    rw [encode_append, List.length_append]
    exact Nat.le_add_right _ _
  rw [part?, if_pos ⟨hle, hstart, hstop⟩, encode_append (front ++ passed) rest, List.take_left, encode_append front passed,
    List.drop_left]

/-- What has been passed is written as it is, also if it is nothing. -/
theorem flush?_eq (front passed rest : List Char) :
    flush? (encode (front ++ passed ++ rest)) (encode front).length (encode (front ++ passed)).length =
      some (encode passed) := by
  unfold flush?
  split
  · exact part?_eq front passed rest
  · next hnothing =>
    rw [encode_append, List.length_append] at hnothing
    rw [List.eq_nil_of_length_eq_zero (l := encode passed) (by omega)]

theorem entityOf?_of_mem {c : Char} {entity : List Char} (h : (c, entity) ∈ entities) :
    encode [c] = [c.toNat] ∧ entityOf? c.toNat = some (encode entity) := by
  have hall : ∀ entry ∈ entities, entry.1.toNat < 0x80 ∧
      (entities.find? fun other ↦ other.1.toNat == entry.1.toNat) = some entry := by decide
  obtain ⟨hascii, hfind⟩ := hall _ h
  refine ⟨encode_of_ascii (List.forall_mem_singleton.2 hascii), ?_⟩
  rw [entityOf?, hfind]
  rfl

theorem entityOf?_of_not_mem {c : Char} (h : c ∉ entities.map Prod.fst) {byte : Nat} (hbyte : byte ∈ encode [c]) :
    entityOf? byte = none := by
  rw [entityOf?, Option.map_eq_none_iff, List.find?_eq_none]
  intro entry hentry heq
  have hall : ∀ entry ∈ entities, entry.1.toNat < 0x80 := by decide
  have hsmall := hall entry hentry
  have hcode : entry.1.toNat = byte := beq_iff_eq.1 heq
  obtain rfl | hlarge := le_of_mem_encode hbyte
  · exact h (Char.toNat_inj.1 hcode ▸ List.mem_map_of_mem hentry)
  · omega

/-- In front of an entity is written what has been passed. -/
theorem passBytes?_of_entity {bytes entity passed rest written : List Nat} {start place byte : Nat}
    (hentity : entityOf? byte = some entity) (hflush : flush? bytes start place = some passed)
    (hrest : passBytes? bytes (place + 1) (place + 1) rest = some written) :
    passBytes? bytes start place (byte :: rest) = some (passed ++ entity ++ written) := by
  rw [passBytes?, hentity]
  dsimp only
  rw [hflush, hrest]
  rfl

/-- Bytes that are not special are passed. -/
theorem passBytes?_append {plain : List Nat} (h : ∀ byte ∈ plain, entityOf? byte = none) (bytes : List Nat)
    (start place : Nat) (rest : List Nat) :
    passBytes? bytes start place (plain ++ rest) = passBytes? bytes start (place + plain.length) rest := by
  induction plain generalizing place with
  | nil => rfl
  | cons byte plain ih =>
    obtain ⟨hbyte, hplain⟩ := List.forall_mem_cons.1 h
    rw [List.cons_append, passBytes?, hbyte]
    dsimp only
    rw [ih hplain, List.length_cons, Nat.add_right_comm, Nat.add_assoc]

/-- Behind characters that have been passed, the pass writes these as they are and the rest of the text escaped. -/
theorem passBytes?_eq (front passed rest : List Char) :
    passBytes? (encode (front ++ passed ++ rest)) (encode front).length (encode (front ++ passed)).length (encode rest) =
      some (encode (passed ++ escape rest)) := by
  induction rest generalizing front passed with
  | nil =>
    have hflush := flush?_eq front passed []
    rw [List.append_nil] at hflush ⊢
    rw [escape_nil, List.append_nil, encode_nil]
    exact hflush
  | cons c rest ih =>
    rw [escape_cons]
    generalize escapeChar c = image, image_escapeChar c = himage
    cases himage with
    | entity hentity =>
      obtain ⟨hbytes, hread⟩ := entityOf?_of_mem hentity
      have hflush := flush?_eq front passed (c :: rest)
      have hnext := ih (front ++ passed ++ [c]) []
      rw [List.append_nil, encode_append (front ++ passed) [c], hbytes, List.length_append, List.length_singleton,
        List.append_assoc (front ++ passed) [c] rest] at hnext
      rw [encode_cons, hbytes, List.singleton_append, passBytes?_of_entity hread hflush hnext, List.nil_append,
        ← encode_append, ← encode_append, List.append_assoc]
    | plain hplain =>
      have hnext := ih front (passed ++ [c])
      rw [← List.append_assoc, encode_append (front ++ passed) [c], List.length_append,
        List.append_assoc (front ++ passed) [c] rest] at hnext
      rw [encode_cons, passBytes?_append fun byte ↦ entityOf?_of_not_mem hplain, ← List.append_assoc passed]
      exact hnext

/-- The pass over the bytes of a text cuts no character and gives the bytes of the escaped text. -/
theorem escapeBytes?_encode (text : List Char) : escapeBytes? (encode text) = some (encode (escape text)) := by
  have hpass := passBytes?_eq [] [] text
  rwa [List.nil_append, List.nil_append, encode_nil] at hpass

end Liquid.Text.Html
