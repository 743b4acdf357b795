import BeamLint.Proofs.Value.Nesting
import Mathlib

/-!
# Partners and what stands between them

Where two parentheses of a text are partners, the text splits at them, whatever stands in front: the
pairs of what stands between the two are pairs of the text, so many places further on
(`enclosesAt_of_mem_parenPairs`). A part of a text all of whose pairs are pairs of the text is
read as if it stood by itself (`PairedIn`).
-/

namespace BeamLint

open Text

/-- In a text at place `i`, partners stand at the places `o` and `c`, and the pairs of what stands
between them are among `pairs`. -/
def EnclosesAt (i : Nat) (text : List Char) (pairs : List (Nat × Nat)) (o c : Nat) : Prop :=
  ∃ front inner later, text = front ++ '(' :: (inner ++ ')' :: later) ∧ o = i + front.length ∧
    c = o + inner.length + 1 ∧ ∀ pair ∈ parenPairs inner, shiftPair (o + 1) pair ∈ pairs

section

variable {i : Nat} {quote : Option Char} {before : Char} {opened : List Nat} {o c : Nat}

theorem EnclosesAt.cons {text : List Char} {pairs more : List (Nat × Nat)} (d : Char)
    (h : EnclosesAt (i + 1) text pairs o c) (hsub : pairs ⊆ more) :
    EnclosesAt i (d :: text) more o c := by
  obtain ⟨front, inner, later, rfl, ho, hc, hall⟩ := h
  refine ⟨d :: front, inner, later, rfl, ?_, hc, fun pair hp => hsub (hall pair hp)⟩
  rw [ho, List.length_cons]
  omega

/-- The partners stand where the first of them opens. -/
theorem enclosesAt_open {text : List Char} (ho : o ∉ opened)
    (h : (o, c) ∈ parenPairsFrom (o + 1) none before (o :: opened) text) :
    EnclosesAt o ('(' :: text) (parenPairsFrom (o + 1) none before (o :: opened) text) o c := by
  have hnil : o ∉ ([] : List Nat) := List.not_mem_nil
  obtain ⟨inner, later, rfl, hc, e⟩ :=
    exists_parenPairsFrom_closing (Nat.lt_succ_self o) hnil ho h
  refine ⟨[], inner, later, rfl, rfl, by omega, fun pair hp => ?_⟩
  rw [List.nil_append, parenPairsFrom_eq_map_shiftPair] at e
  rw [e]
  exact List.mem_append_left _ (List.mem_map_of_mem hp)

-- The induction is on the text; what is open at place `i` was opened before it, so the pair in
-- question opens in what is still to be read.
theorem enclosesAt_of_mem_parenPairsFrom {text : List Char} (ho : ∀ p ∈ opened, p < i)
    (h : (o, c) ∈ parenPairsFrom i quote before opened text) (hi : i ≤ o) :
    EnclosesAt i text (parenPairsFrom i quote before opened text) o c := by
  induction text generalizing i quote before opened with
  | nil => simp [parenPairsFrom] at h
  | cons d text ih =>
    have ho' : ∀ p ∈ opened, p < i + 1 := fun p hp => (ho p hp).trans (Nat.lt_succ_self i)
    have hnot : o ∉ opened := fun hm => absurd (ho o hm) (by omega)
    -- The pair opens behind `d`.
    have skip {quote' : Option Char} {opened' : List Nat} (hopened : ∀ p ∈ opened', p < i + 1)
        (hm : (o, c) ∈ parenPairsFrom (i + 1) quote' d opened' text) (hne : o ∉ opened') :
        EnclosesAt (i + 1) text (parenPairsFrom (i + 1) quote' d opened' text) o c :=
      ih hopened hm ((mem_or_le_of_mem_parenPairsFrom hm).resolve_left hne)
    cases quote with
    | some q =>
      rw [parenPairsFrom_some] at h ⊢
      exact (skip ho' h hnot).cons d (List.Subset.refl _)
    | none =>
      rcases parenPairsFrom_step i none before d with hs | ⟨rfl, hs⟩ | ⟨rfl, -, hs⟩
      · rw [hs] at h ⊢
        exact (skip ho' h hnot).cons d (List.Subset.refl _)
      · have hquote : quoteAfter none before '(' = none := rfl
        rw [hs, hquote] at h ⊢
        by_cases hoi : o = i
        · subst hoi
          exact enclosesAt_open hnot h
        · have hopened : ∀ p ∈ i :: opened, p < i + 1 :=
            List.forall_mem_cons.2 ⟨Nat.lt_succ_self i, ho'⟩
          have hne := List.not_mem_cons_of_ne_of_not_mem hoi hnot
          exact (skip hopened h hne).cons '(' (List.Subset.refl _)
      · rw [hs] at h ⊢
        have hrest : (o, c) ∈ parenPairsFrom (i + 1) none ')' opened.tail text := by
          refine (List.mem_append.1 h).resolve_left fun hm => ?_
          obtain ⟨p, hp, e⟩ := List.mem_map.1 hm
          obtain ⟨rfl, -⟩ := Prod.mk.inj e
          exact hnot (List.mem_of_head? (by simpa using hp))
        have htail : o ∉ opened.tail := fun hm => hnot (List.mem_of_mem_tail hm)
        have hopened : ∀ p ∈ opened.tail, p < i + 1 := fun p hp => ho' p (List.mem_of_mem_tail hp)
        exact (skip hopened hrest htail).cons ')' (List.subset_append_right _ _)

end

/-- Partners take a text apart, and what stands between them has its pairs in the text. -/
theorem enclosesAt_of_mem_parenPairs {text : List Char} {o c : Nat}
    (h : (o, c) ∈ parenPairs text) : EnclosesAt 0 text (parenPairs text) o c :=
  enclosesAt_of_mem_parenPairsFrom (by simp) h (Nat.zero_le o)

/-- A part of a text, at place `i`, that has its pairs in the text. -/
structure PairedIn (text : List Char) (i : Nat) (part : List Char) : Prop where
  stands : StandsAt 0 text i part
  pairs : ∀ pair ∈ parenPairs part, shiftPair i pair ∈ parenPairs text

namespace PairedIn

variable {text part inner : List Char} {i j : Nat}

theorem trans (h : PairedIn text i part) (h' : PairedIn part j inner) :
    PairedIn text (i + j) inner where
  stands := h.stands.trans (h'.stands.shift i)
  pairs pair hp := by
    have hm := h.pairs _ (h'.pairs pair hp)
    rwa [shiftPair, shiftPair, Nat.add_assoc, Nat.add_assoc, Nat.add_comm j i] at hm

/-- What stands between partners. -/
theorem of_partners {front later : List Char}
    (h : (front.length, front.length + inner.length + 1) ∈
      parenPairs (front ++ '(' :: (inner ++ ')' :: later))) :
    PairedIn (front ++ '(' :: (inner ++ ')' :: later)) (front.length + 1) inner := by
  obtain ⟨front', inner', later', e, ho, hc, hall⟩ := enclosesAt_of_mem_parenPairs h
  obtain ⟨-, hrest⟩ := List.append_inj e (by omega)
  obtain ⟨hinner, -⟩ := List.append_inj (List.cons.inj hrest).2 (by omega)
  subst hinner
  exact ⟨⟨front ++ ['('], ')' :: later, by simp, by simp⟩, hall⟩

/-- What follows a text with neither parentheses nor quotes. -/
theorem of_plain_append {front : List Char}
    (h : ∀ d ∈ front, isQuote d = false ∧ d ≠ '(' ∧ d ≠ ')') (rest : List Char) :
    PairedIn (front ++ rest) front.length rest where
  stands := .append_right front (by simp)
  pairs pair hp := by
    rw [parenPairs_plain_append h]
    exact List.mem_map_of_mem hp

end PairedIn

end BeamLint
