import BeamLint.Proofs.Text.Utf8
import BeamLint.Run
import Mathlib

/-!
# Texts and their bytes

A source may hold a text or its bytes. Bytes are taken for a text exactly when they are the strict
form of its code points, among which is neither the trace of a lossy decoding nor only blanks; the
bytes are then what is written for the text (`Content.decode_bytes_eq_some_iff`).

The facts of a source depend on its path and on the text that is decoded, and a run depends on the
facts of its sources. So no run can tell a text from its bytes (`SameText`), as long as the text
does not hold the character that bytes are refused for.
-/

namespace BeamLint

/-! ### What bytes are taken for -/

theorem decodeBytes_eq_some_iff {b : ByteArray} {t : String} :
    decodeBytes b = some t ↔ t.toUTF8 = b ∧ replacementChar ∉ t.toList := by
  rw [decodeBytes, Option.filter_eq_some_iff, Utf8.fromUTF8?_eq_some_iff]
  simp

theorem Content.decode_bytes_eq_some_iff {b : ByteArray} {t : String} :
    (Content.bytes b).decode = some t ↔
      Utf8.Strict b.data.toList (t.toList.map Char.toNat) ∧ replacementChar ∉ t.toList ∧
        ¬ Text.isAllBlank t.toList := by
  rw [Utf8.strict_toNat_iff, ← and_assoc, ← decodeBytes_eq_some_iff, decode,
    Option.filter_eq_some_iff]
  simp

/-- Some text is decoded exactly when the bytes spell numbers strictly, the replacement character is
not one of them, and one of them is not blank. -/
theorem Content.isSome_decode_bytes_iff {b : ByteArray} :
    (Content.bytes b).decode.isSome ↔
      ∃ ns, Utf8.Strict b.data.toList ns ∧ 0xFFFD ∉ ns ∧
        ∃ n ∈ ns, Text.isBlank (Char.ofNat n) = false := by
  have hcode (text : List Char) : 0xFFFD ∈ text.map Char.toNat ↔ replacementChar ∈ text := by
    have hr : replacementChar.toNat = 0xFFFD := rfl
    rw [← hr, List.mem_map_of_injective fun _ _ h => Char.toNat_inj.1 h]
  have hblank (text : List Char) :
      (∃ n ∈ text.map Char.toNat, Text.isBlank (Char.ofNat n) = false) ↔
        ¬ Text.isAllBlank text := by
    simp [Text.isAllBlank]
  rw [Option.isSome_iff_exists]
  constructor
  · rintro ⟨t, ht⟩
    obtain ⟨hs, hr, hb⟩ := decode_bytes_eq_some_iff.1 ht
    exact ⟨_, hs, mt (hcode _).1 hr, (hblank _).2 hb⟩
  · rintro ⟨ns, hs, hr, hb⟩
    obtain ⟨text, rfl, -⟩ := Utf8.strict_iff.1 hs
    refine ⟨String.ofList text, decode_bytes_eq_some_iff.2 ?_⟩
    rw [String.toList_ofList]
    exact ⟨hs, mt (hcode _).2 hr, (hblank _).1 hb⟩

-- A slash in two bytes, where one would do.
example : (Content.bytes ⟨#[0xC0, 0xAF]⟩).decode = none := by decide +kernel

/-- The bytes of a text are decoded to what the text itself is decoded to. -/
theorem Content.decode_toUTF8 {t : String} (h : replacementChar ∉ t.toList) :
    (Content.bytes t.toUTF8).decode = (Content.text t).decode := by
  have hb : decodeBytes t.toUTF8 = some t := decodeBytes_eq_some_iff.2 ⟨rfl, h⟩
  rw [decode, decode, hb]

/-! ### Sources that no run can tell apart -/

/-- The second source is the first one, or holds the bytes of the text that the first one holds. -/
inductive SameText : Source → Source → Prop where
  | same (s : Source) : SameText s s
  | encoded (path : String) {t : String} (h : replacementChar ∉ t.toList) :
      SameText ⟨path, .text t⟩ ⟨path, .bytes t.toUTF8⟩

/-- The facts of a source come from its path and the text that is decoded. -/
theorem Facts.check_congr (c : Config) {s s' : Source} (hp : s.path = s'.path)
    (hd : s.content.decode = s'.content.decode) : check c s = check c s' := by
  have hcollect : collect c s = collect c s' := by
    unfold collect
    rw [hp, hd]
  rw [check, check, hcollect]

theorem SameText.check_eq {s s' : Source} (h : SameText s s') (c : Config) :
    Facts.check c s = Facts.check c s' := by
  cases h with
  | same => rfl
  | encoded path h => exact Facts.check_congr c rfl (Content.decode_toUTF8 h).symm

namespace Run

variable {c : Config} {sources sources' : List Source}

/-- The first phase takes the same facts of sources with the same facts. -/
theorem takeFacts_eq
    (h : List.Forall₂ (fun s s' => Facts.check c s = Facts.check c s') sources sources')
    (cancelled : Cancellation) (polls : Nat) :
    takeFacts c cancelled polls sources = takeFacts c cancelled polls sources' := by
  induction h generalizing polls with
  | nil => rfl
  | cons hs _ ih => rw [takeFacts, takeFacts, hs, ih]

/-- A run depends on the facts of its sources. -/
theorem check_eq
    (h : List.Forall₂ (fun s s' => Facts.check c s = Facts.check c s') sources sources')
    (cancelled : Cancellation) : check c sources cancelled = check c sources' cancelled := by
  have hempty : sources.isEmpty = sources'.isEmpty := by cases h <;> rfl
  have hphase : phaseOne c cancelled sources = phaseOne c cancelled sources' := by
    rw [phaseOne, phaseOne, hempty, takeFacts_eq h]
  rw [check, check, hphase, h.length_eq]

end Run

/-- **Texts and their bytes are not told apart.** A text without the replacement character has the
same facts and findings as its bytes, and a run has the same outcome when any of its sources are
given as bytes. Bytes are taken for a text exactly when they are strict UTF-8 of code points that
hold neither the replacement character nor only blanks; the text that is taken has these code
points, and the bytes are what is written for it. -/
theorem checkSources_encoded :
    (∀ (c : Config) (path t : String), replacementChar ∉ t.toList →
      Facts.check c ⟨path, .bytes t.toUTF8⟩ = Facts.check c ⟨path, .text t⟩) ∧
    (∀ (c : Config) (sources sources' : List Source), List.Forall₂ SameText sources sources' →
      checkSources c sources' = checkSources c sources ∧
        ∀ cancelled, Run.check c sources' cancelled = Run.check c sources cancelled) ∧
    ∀ b : ByteArray,
      ((Content.bytes b).decode.isSome ↔
        ∃ ns, Utf8.Strict b.data.toList ns ∧ 0xFFFD ∉ ns ∧
          ∃ n ∈ ns, Text.isBlank (Char.ofNat n) = false) ∧
      ∀ t, (Content.bytes b).decode = some t →
        Utf8.Strict b.data.toList (t.toList.map Char.toNat) ∧ t.toUTF8 = b := by
  refine ⟨?_, ?_, ?_⟩
  · intro c path t h
    exact ((SameText.encoded path h).check_eq c).symm
  · intro c sources sources' h
    have hrun (c : Config) (cancelled : Cancellation) :
        Run.check c sources' cancelled = Run.check c sources cancelled :=
      (Run.check_eq (h.imp fun _ _ hs => hs.check_eq c) cancelled).symm
    refine ⟨?_, hrun c⟩
    unfold checkSources
    simp only [hrun]
  · intro b
    refine ⟨Content.isSome_decode_bytes_iff, fun t ht => ?_⟩
    have hs := (Content.decode_bytes_eq_some_iff.1 ht).1
    exact ⟨hs, Utf8.strict_toNat_iff.1 hs⟩

/-- A stylesheet that begins with a byte order mark and holds a letter beyond ASCII. -/
def markedStylesheet : String := "\uFEFF.card\x7b--grün:1\x7d"

theorem checkSources_encoded_markedStylesheet :
    let text : Source := ⟨"card.css", .text markedStylesheet⟩
    let bytes : Source := ⟨"card.css", .bytes markedStylesheet.toUTF8⟩
    replacementChar ∉ markedStylesheet.toList ∧
      Facts.check {} bytes = Facts.check {} text ∧
      List.Forall₂ SameText [text, text] [bytes, text] ∧
      checkSources {} [bytes, text] = checkSources {} [text, text] ∧
      bytes.content.decode = some markedStylesheet ∧
      Utf8.Strict markedStylesheet.toUTF8.data.toList (markedStylesheet.toList.map Char.toNat) := by
  intro text bytes
  have hr : replacementChar ∉ markedStylesheet.toList := by decide +kernel
  have hsame : List.Forall₂ SameText [text, text] [bytes, text] :=
    .cons (.encoded "card.css" hr) (.cons (.same text) .nil)
  have hd : bytes.content.decode = some markedStylesheet := by
    rw [Content.decode_toUTF8 hr]
    decide +kernel
  obtain ⟨hfacts, hruns, hbytes⟩ := checkSources_encoded
  exact ⟨hr, hfacts {} "card.css" markedStylesheet hr, hsame, (hruns {} _ _ hsame).1, hd,
    ((hbytes _).2 _ hd).1⟩

end BeamLint
