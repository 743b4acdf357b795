import BeamLint.Proofs.Text.Place
import Mathlib.Data.List.Basic

/-!
# What a search finds

Everything that `findAll` gives was read by the recogniser where it is said to start, and no two of
them overlap: each starts at or after the end of the one before.

Characters at which nothing is read may stand in front: a recogniser that does not ask for the
character before finds the same after them, so many places later, and blanks the same.
-/

namespace BeamLint.Text

/-- A pattern occurs where it is an infix. -/
theorem occurs_iff {pattern text : List Char} : occurs pattern text ↔ pattern <:+: text := by
  unfold occurs
  induction text with
  | nil => cases pattern <;> simp [find?]
  | cons c text ih =>
    rw [find?, List.infix_cons_iff, ← ih, ← List.isPrefixOf_iff_prefix]
    split
    · next h => simp [h]
    · next h => simp [h]

variable {α : Type} {r : Recognizer α}

/-- What is found was read there, after the characters that had been taken already. -/
theorem exists_of_mem_findAllFrom {text : List Char} {i skip : Nat} {before : Option Char}
    {f : Found α} (h : f ∈ findAllFrom r i skip before text) :
    ∃ front rest b, text = front ++ rest ∧ skip ≤ front.length ∧ f.start = i + front.length ∧
      rest ≠ [] ∧ r b rest = some (f.length, f.value) := by
  induction text generalizing i skip before with
  | nil => simp [findAllFrom] at h
  | cons c text ih =>
    -- One character further on, the characters in front are one more.
    have step : ∀ {n m : Nat}, m ≤ n + 1 → f ∈ findAllFrom r (i + 1) n (some c) text →
        ∃ front rest b, c :: text = front ++ rest ∧ m ≤ front.length ∧
          f.start = i + front.length ∧ rest ≠ [] ∧ r b rest = some (f.length, f.value) := by
      intro n m hm hf
      obtain ⟨front, rest, b, rfl, hl, hst, hne, hr⟩ := ih hf
      refine ⟨c :: front, rest, b, rfl, ?_, ?_, hne, hr⟩
      · simp only [List.length_cons]; omega
      · simp only [List.length_cons]; omega
    cases skip with
    | succ skip => exact step le_rfl (by simpa [findAllFrom] using h)
    | zero =>
      rw [findAllFrom] at h
      split at h
      · next n a hr =>
        rcases List.mem_cons.1 h with rfl | h
        · exact ⟨[], c :: text, before, rfl, le_rfl, rfl, by simp, hr⟩
        · exact step (Nat.zero_le _) h
      · exact step (Nat.zero_le _) h

theorem exists_of_mem_findAll {text : List Char} {f : Found α} (h : f ∈ findAll r text) :
    ∃ front rest b, text = front ++ rest ∧ f.start = front.length ∧ rest ≠ [] ∧
      r b rest = some (f.length, f.value) := by
  obtain ⟨front, rest, b, rfl, -, hs, hne, hr⟩ := exists_of_mem_findAllFrom h
  exact ⟨front, rest, b, rfl, by simpa using hs, hne, hr⟩

theorem pairwise_findAllFrom (text : List Char) (i skip : Nat) (before : Option Char) :
    (findAllFrom r i skip before text).Pairwise fun f g =>
      f.stop ≤ g.start ∧ f.start < g.start := by
  induction text generalizing i skip before with
  | nil => simp [findAllFrom]
  | cons c text ih =>
    cases skip with
    | succ skip => simpa [findAllFrom] using ih (i + 1) skip (some c)
    | zero =>
      rw [findAllFrom]
      split
      · next n a hr =>
        refine List.pairwise_cons.2 ⟨fun g hg => ?_, ih _ _ _⟩
        obtain ⟨front, rest, b, -, hl, hst, -⟩ := exists_of_mem_findAllFrom hg
        simp only [Found.stop]
        omega
      · exact ih _ _ _

/-- What is found does not overlap. -/
theorem pairwise_findAll (text : List Char) :
    (findAll r text).Pairwise fun f g => f.stop ≤ g.start ∧ f.start < g.start :=
  pairwise_findAllFrom text 0 0 none

/-! ### Characters in front -/

/-- The same, found `n` places later. -/
def Found.shift (n : Nat) (f : Found α) : Found α := { f with start := n + f.start }

theorem Found.covers_shift (n i : Nat) (f : Found α) :
    (f.shift n).span.covers (n + i) = f.span.covers i := by
  rw [Bool.eq_iff_iff, Span.covers_iff, Span.covers_iff]
  simp only [Found.span, Found.stop, Found.shift]
  omega

theorem findAllFrom_shift (n i skip : Nat) (before : Option Char) (text : List Char) :
    findAllFrom r (n + i) skip before text =
      (findAllFrom r i skip before text).map (Found.shift n) := by
  induction text generalizing i skip before with
  | nil => simp [findAllFrom]
  | cons c text ih =>
    cases skip with
    | succ skip => rw [findAllFrom, findAllFrom, Nat.add_assoc, ih]
    | zero =>
      rw [findAllFrom, findAllFrom, Nat.add_assoc]
      split
      · rw [ih, List.map_cons]
        rfl
      · exact ih _ _ _

/-- Spans that are moved behind a text leave the text alone. -/
theorem blankSpans_shift (front : List Char) (fs : List (Found α)) (rest : List Char) :
    blankSpans ((fs.map (Found.shift front.length)).map Found.span) (front ++ rest) =
      front ++ blankSpans (fs.map Found.span) rest := by
  rw [blankSpans, blankWhere_append]
  congr 1
  · apply blankWhere_eq_self
    intro j hj
    simp only [List.any_map, List.any_eq_false, Function.comp_apply]
    intro f _
    rw [Span.covers_iff]
    simp only [Found.span, Found.shift]
    omega
  · rw [Nat.add_comm, blankWhere_shift]
    simp only [blankSpans, List.any_map, Function.comp_def, Found.covers_shift]

section Front

variable {front : List Char} (hr : ∀ b b' text, r b text = r b' text)
  (hf : ∀ c ∈ front, ∀ b text, r b (c :: text) = none)
include hr

theorem findAllFrom_before (i skip : Nat) (b b' : Option Char) (text : List Char) :
    findAllFrom r i skip b text = findAllFrom r i skip b' text := by
  cases text with
  | nil => simp [findAllFrom]
  | cons c text =>
    cases skip with
    | succ skip => rfl
    | zero => rw [findAllFrom, findAllFrom, hr b b']

include hf

theorem findAllFrom_append (i : Nat) (before : Option Char) (rest : List Char) :
    findAllFrom r i 0 before (front ++ rest) =
      findAllFrom r (front.length + i) 0 before rest := by
  induction front generalizing i with
  | nil => simp
  | cons c front ih =>
    obtain ⟨hc, hf⟩ := List.forall_mem_cons.1 hf
    have hlen : (c :: front).length + i = front.length + (i + 1) := by
      rw [List.length_cons]
      omega
    rw [List.cons_append, findAllFrom, hc, hlen, ← ih hf]
    exact findAllFrom_before hr _ _ _ _ _

theorem findAll_append (rest : List Char) :
    findAll r (front ++ rest) = (findAll r rest).map (Found.shift front.length) := by
  rw [findAll, findAllFrom_append hr hf, findAllFrom_shift]
  rfl

theorem blankFound_append (rest : List Char) :
    blankFound r (front ++ rest) = front ++ blankFound r rest := by
  rw [blankFound, findAll_append hr hf, blankSpans_shift]
  rfl

end Front

/-! ### Nothing found -/

theorem blankFound_eq_self {text : List Char} (h : findAll r text = []) :
    blankFound r text = text := by
  rw [blankFound, h]
  exact blankWhere_eq_self fun _ _ => rfl

/-- A text without the opening mark has no comments. -/
theorem CommentStyle.blank_eq_self {s : CommentStyle} {text : List Char}
    (h : ¬ s.opening <:+: text) : s.blank text = text := by
  refine blankFound_eq_self (List.eq_nil_iff_forall_not_mem.2 fun f hf => h ?_)
  obtain ⟨front, rest, b, rfl, -, -, hr⟩ := exists_of_mem_findAll hf
  have hopen : s.opening <+: rest := by
    unfold recognizer at hr
    split at hr
    · contradiction
    · next body hb => exact ⟨body, List.isPrefixOf?_eq_some_iff_append_eq.1 hb⟩
  exact hopen.isInfix.trans (List.suffix_append front rest).isInfix

end BeamLint.Text
