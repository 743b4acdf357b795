import Mathlib

/-!
# Strict UTF-8

A sequence of bytes spells a number: a lead byte, which tells how many bytes there are, and the
continuation bytes that it asks for (`Spells`). Strict UTF-8 has one sequence for each scalar value:
nothing is missing, no longer sequence than needed is taken, and neither surrogates nor numbers
above the last code point are spelled (`Encodes`). A text is such sequences one after the other
(`Strict`).

These are the bytes that the core library writes for a character (`encodes_iff`) and for a text
(`strict_iff`), so it reads bytes as a text exactly when they are strict UTF-8
(`fromUTF8?_eq_some_iff`).
-/

namespace BeamLint.Utf8

/-- A byte that goes on with a sequence. -/
def IsTail (b : UInt8) : Prop := 0x80 ≤ b.toNat ∧ b.toNat < 0xC0

/-- The number that a lead byte and the bytes after it spell; a lead byte brings what is left of it
without its mark, and every byte after it brings six bits. -/
inductive Spells : List UInt8 → Nat → Prop where
  | one {a : UInt8} (ha : a.toNat < 0x80) : Spells [a] a.toNat
  | two {a b : UInt8} (ha : 0xC0 ≤ a.toNat ∧ a.toNat < 0xE0) (hb : IsTail b) :
      Spells [a, b] ((a.toNat - 0xC0) * 0x40 + (b.toNat - 0x80))
  | three {a b c : UInt8} (ha : 0xE0 ≤ a.toNat ∧ a.toNat < 0xF0) (hb : IsTail b) (hc : IsTail c) :
      Spells [a, b, c] ((a.toNat - 0xE0) * 0x1000 + (b.toNat - 0x80) * 0x40 + (c.toNat - 0x80))
  | four {a b c d : UInt8} (ha : 0xF0 ≤ a.toNat ∧ a.toNat < 0xF8) (hb : IsTail b) (hc : IsTail c)
      (hd : IsTail d) :
      Spells [a, b, c, d] ((a.toNat - 0xF0) * 0x40000 + (b.toNat - 0x80) * 0x1000 +
        (c.toNat - 0x80) * 0x40 + (d.toNat - 0x80))

/-- The number of bytes that are needed to spell `n`. -/
def needed (n : Nat) : Nat :=
  if n < 0x80 then 1 else if n < 0x800 then 2 else if n < 0x10000 then 3 else 4

/-- The bytes spell `n` in the strict form. -/
structure Encodes (bytes : List UInt8) (n : Nat) : Prop where
  spells : Spells bytes n
  notOverlong : bytes.length = needed n
  notSurrogate : ¬ (0xD800 ≤ n ∧ n ≤ 0xDFFF)
  inRange : n ≤ 0x10FFFF

/-- The bytes spell the numbers one after the other, each in the strict form. -/
inductive Strict : List UInt8 → List Nat → Prop where
  | nil : Strict [] []
  | cons {bytes rest : List UInt8} {n : Nat} {ns : List Nat} (h : Encodes bytes n)
      (hr : Strict rest ns) : Strict (bytes ++ rest) (n :: ns)

/-! ### One character -/

/-- The bytes of a character spell its code point. -/
theorem encodes_utf8EncodeChar (c : Char) : Encodes (String.utf8EncodeChar c) c.toNat := by
  have hvalid : c.toNat < 0xD800 ∨ 0xDFFF < c.toNat ∧ c.toNat < 0x110000 := c.valid
  have hval : c.val.toNat = c.toNat := rfl
  generalize hn : c.toNat = n at *
  refine ⟨?_, ?_, by omega, by omega⟩
  · unfold String.utf8EncodeChar
    simp only [hval]
    split_ifs with h₁ h₂ h₃
    · have ha : (UInt8.ofNat n).toNat = n := by simp; omega
      have h := Spells.one (a := UInt8.ofNat n) (by omega)
      rwa [ha] at h
    · have h := Spells.two (a := UInt8.ofNat (n / 64 % 0x20 + 0xc0))
        (b := UInt8.ofNat (n % 0x40 + 0x80)) (by simp; omega) (by simp [IsTail]; omega)
      convert h using 1
      simp
      omega
    · have h := Spells.three (a := UInt8.ofNat (n / 4096 % 0x10 + 0xe0))
        (b := UInt8.ofNat (n / 64 % 0x40 + 0x80)) (c := UInt8.ofNat (n % 0x40 + 0x80))
        (by simp; omega) (by simp [IsTail]; omega) (by simp [IsTail]; omega)
      convert h using 1
      simp
      omega
    · have h := Spells.four (a := UInt8.ofNat (n / 262144 % 0x08 + 0xf0))
        (b := UInt8.ofNat (n / 4096 % 0x40 + 0x80)) (c := UInt8.ofNat (n / 64 % 0x40 + 0x80))
        (d := UInt8.ofNat (n % 0x40 + 0x80))
        (by simp; omega) (by simp [IsTail]; omega) (by simp [IsTail]; omega)
        (by simp [IsTail]; omega)
      convert h using 1
      simp
      omega
  · unfold String.utf8EncodeChar needed
    simp only [hval]
    split_ifs <;> simp <;> omega

/-- Sequences of the same length that spell the same number are the same. -/
theorem Spells.unique {bytes bytes' : List UInt8} {n n' : Nat} (h : Spells bytes n)
    (h' : Spells bytes' n') (hlength : bytes.length = bytes'.length) (hn : n = n') :
    bytes = bytes' := by
  cases h with
  | one ha =>
    cases h' with
    | one ha' => simpa using UInt8.toNat_inj.1 hn
    | two | three | four => simp at hlength
  | two ha hb =>
    cases h' with
    | two ha' hb' =>
      simp only [List.cons.injEq, and_true, ← UInt8.toNat_inj]
      simp only [IsTail] at *
      omega
    | one | three | four => simp at hlength
  | three ha hb hc =>
    cases h' with
    | three ha' hb' hc' =>
      simp only [List.cons.injEq, and_true, ← UInt8.toNat_inj]
      simp only [IsTail] at *
      omega
    | one | two | four => simp at hlength
  | four ha hb hc hd =>
    cases h' with
    | four ha' hb' hc' hd' =>
      simp only [List.cons.injEq, and_true, ← UInt8.toNat_inj]
      simp only [IsTail] at *
      omega
    | one | two | three => simp at hlength

/-- The strict form of a number is what is written for the character with this code point. -/
theorem encodes_iff {bytes : List UInt8} {n : Nat} :
    Encodes bytes n ↔ ∃ c : Char, c.toNat = n ∧ String.utf8EncodeChar c = bytes := by
  constructor
  · intro h
    have hvalid : n.isValidChar := by
      have := h.notSurrogate
      have := h.inRange
      unfold Nat.isValidChar
      omega
    have hw : Encodes (String.utf8EncodeChar (.ofNatAux n hvalid)) n :=
      encodes_utf8EncodeChar (.ofNatAux n hvalid)
    have hlength := hw.notOverlong.trans h.notOverlong.symm
    exact ⟨.ofNatAux n hvalid, rfl, hw.spells.unique h.spells hlength rfl⟩
  · rintro ⟨c, rfl, rfl⟩
    exact encodes_utf8EncodeChar c

/-! ### Texts -/

/-- The strict form of a list of numbers is what is written for the characters with these code
points. -/
theorem strict_iff {bytes : List UInt8} {ns : List Nat} :
    Strict bytes ns ↔
      ∃ text : List Char,
        text.map Char.toNat = ns ∧ text.flatMap String.utf8EncodeChar = bytes := by
  constructor
  · intro h
    induction h with
    | nil => exact ⟨[], rfl, rfl⟩
    | cons h _ ih =>
      obtain ⟨c, rfl, rfl⟩ := encodes_iff.1 h
      obtain ⟨text, rfl, rfl⟩ := ih
      exact ⟨c :: text, rfl, rfl⟩
  · rintro ⟨text, rfl, rfl⟩
    induction text with
    | nil => exact .nil
    | cons c text ih => exact .cons (encodes_utf8EncodeChar c) ih

/-- The bytes that are written for a text. -/
theorem toUTF8_eq_iff {s : String} {b : ByteArray} :
    s.toUTF8 = b ↔ s.toList.flatMap String.utf8EncodeChar = b.data.toList := by
  rw [String.toUTF8_eq_toByteArray, ← String.utf8Encode_toList, List.utf8Encode]
  constructor
  · rintro rfl
    exact List.toList_data_toByteArray.symm
  · intro h
    apply ByteArray.ext
    apply Array.toList_inj.1
    rw [List.toList_data_toByteArray, h]

/-- Bytes are read as a text exactly when they are what is written for it. -/
theorem fromUTF8?_eq_some_iff {b : ByteArray} {s : String} :
    String.fromUTF8? b = some s ↔ s.toUTF8 = b := by
  rw [String.toUTF8_eq_toByteArray]
  unfold String.fromUTF8?
  constructor
  · intro h
    split at h
    · rw [← Option.some.inj h]
      rfl
    · contradiction
  · rintro rfl
    rw [dif_pos s.isValidUTF8]
    rfl

/-- Bytes are written for a text exactly when they are the strict form of its code points. -/
theorem strict_toNat_iff {b : ByteArray} {s : String} :
    Strict b.data.toList (s.toList.map Char.toNat) ↔ s.toUTF8 = b := by
  rw [strict_iff, toUTF8_eq_iff]
  constructor
  · rintro ⟨text, htext, hbytes⟩
    have hinj : Function.Injective Char.toNat := fun _ _ h => Char.toNat_inj.1 h
    rwa [← List.map_injective_iff.2 hinj htext]
  · intro h
    exact ⟨s.toList, rfl, h⟩

end BeamLint.Utf8
