import BeamLint.Value.Parens
import Mathlib

/-!
# Balanced texts

A text without quotes whose parentheses are balanced (`Tidy`) does not change which parentheses are
open. So wherever such a text stands in parentheses, these are partners, whatever follows and
whatever text without quotes stands before (`lookup_parenPairs`).
-/

namespace BeamLint

/-- Whether `c` is a quote. -/
def isQuote (c : Char) : Bool := c == '\'' || c == '"'

/-- Whether the text closes `depth` parentheses that are open before it and all those that it opens
itself, and no others. -/
def closes : (depth : Nat) → List Char → Bool
  | depth, [] => depth == 0
  | depth, c :: rest =>
    if c = '(' then closes (depth + 1) rest
    else if c = ')' then 0 < depth && closes (depth - 1) rest
    else closes depth rest

/-- The text holds no quotes, and its parentheses are balanced. -/
structure Tidy (text : List Char) : Prop where
  unquoted : ∀ c ∈ text, isQuote c = false
  balanced : closes 0 text

theorem closes_append {k d : Nat} {a b : List Char} (h : closes k a) :
    closes (k + d) (a ++ b) = closes d b := by
  induction a generalizing k with
  | nil =>
    obtain rfl : k = 0 := by simpa [closes] using h
    simp
  | cons c a ih =>
    rw [List.cons_append, closes]
    rw [closes] at h
    split_ifs at h ⊢ with h₁ h₂
    · rw [← ih h]
      congr 1
      omega
    · obtain ⟨hk, h⟩ := Bool.and_eq_true_iff.1 h
      have hk : 0 < k := of_decide_eq_true hk
      rw [← ih h, decide_eq_true (by omega : 0 < k + d), Bool.true_and]
      congr 1
      omega
    · exact ih h

namespace Tidy

variable {a b : List Char}

theorem append (ha : Tidy a) (hb : Tidy b) : Tidy (a ++ b) where
  unquoted := List.forall_mem_append.2 ⟨ha.unquoted, hb.unquoted⟩
  balanced := by
    have h := closes_append (d := 0) (b := b) ha.balanced
    rwa [Nat.add_zero, hb.balanced] at h

/-- A text in parentheses. -/
theorem parens (h : Tidy a) : Tidy ('(' :: (a ++ [')'])) where
  unquoted := by
    refine List.forall_mem_cons.2 ⟨by decide, List.forall_mem_append.2 ⟨h.unquoted, ?_⟩⟩
    simp [isQuote]
  balanced := by
    have hc := closes_append (d := 1) (b := [')']) h.balanced
    rw [Nat.zero_add] at hc
    simp [closes, hc]

/-- A text without quotes and without parentheses. -/
theorem of_forall (h : ∀ c ∈ a, isQuote c = false ∧ c ≠ '(' ∧ c ≠ ')') : Tidy a where
  unquoted c hc := (h c hc).1
  balanced := by
    induction a with
    | nil => rfl
    | cons c a ih =>
      obtain ⟨⟨-, h₁, h₂⟩, ha⟩ := List.forall_mem_cons.1 h
      simpa [closes, h₁, h₂] using ih ha

end Tidy

/-! ### Pairs of a text without quotes -/

variable {i : Nat} {before : Char} {opened : List Nat}

/-- Outside quotes, the character before does not matter. -/
theorem parenPairsFrom_before (i : Nat) (b b' : Char) (opened : List Nat) (text : List Char) :
    parenPairsFrom i none b opened text = parenPairsFrom i none b' opened text := by
  cases text <;> rfl

/-- What a character that is no quote does to the parentheses that are open. -/
theorem parenPairsFrom_cons {c : Char} (hc : isQuote c = false) (rest : List Char) :
    parenPairsFrom i none before opened (c :: rest) =
      if c = '(' then parenPairsFrom (i + 1) none before (i :: opened) rest
      else if c = ')' then
        match opened with
        | o :: opened => (o, i) :: parenPairsFrom (i + 1) none before opened rest
        | [] => parenPairsFrom (i + 1) none before [] rest
      else parenPairsFrom (i + 1) none before opened rest := by
  have hq : Text.quoteAfter none before c = none := by
    rw [Text.quoteAfter]
    exact if_neg (by simpa [isQuote] using hc)
  conv_lhs => unfold parenPairsFrom
  dsimp only
  rw [hq]
  cases opened <;>
    simp only [Option.isSome_none, Bool.false_eq_true, if_false,
      parenPairsFrom_before (i + 1) c before]

/-- A text that closes the parentheses `own` leaves those that were open before them. -/
theorem parenPairsFrom_append {text : List Char} (hq : ∀ c ∈ text, isQuote c = false)
    (own : List Nat) (hc : closes own.length text) (i : Nat) (before : Char) (opened : List Nat)
    (rest : List Char) :
    parenPairsFrom i none before (own ++ opened) (text ++ rest) =
      parenPairsFrom i none before own text ++
        parenPairsFrom (i + text.length) none before opened rest := by
  induction text generalizing i own with
  | nil =>
    obtain rfl : own = [] := by simpa [closes] using hc
    rfl
  | cons c text ih =>
    obtain ⟨hqc, hq⟩ := List.forall_mem_cons.1 hq
    have hi : i + (c :: text).length = i + 1 + text.length := by
      rw [List.length_cons]
      omega
    rw [List.cons_append, parenPairsFrom_cons hqc, parenPairsFrom_cons hqc, hi]
    rw [closes] at hc
    split_ifs at hc ⊢ with h₁ h₂
    · exact ih hq (i :: own) hc (i + 1)
    · cases own with
      | nil => simp at hc
      | cons o own =>
        simp only [List.cons_append]
        rw [ih hq own (Bool.and_eq_true_iff.1 hc).2]
    · exact ih hq own hc (i + 1)

/-- After a text without quotes, it only matters what the text left open. -/
theorem exists_parenPairsFrom_append {front : List Char} (hq : ∀ d ∈ front, isQuote d = false)
    (i : Nat) (before : Char) (opened : List Nat) :
    ∃ left, (∀ o ∈ left, o ∈ opened ∨ o < i + front.length) ∧
      ∀ rest, parenPairsFrom i none before opened (front ++ rest) =
        parenPairsFrom i none before opened front ++
          parenPairsFrom (i + front.length) none before left rest := by
  induction front generalizing i opened with
  | nil => exact ⟨opened, fun o ho => Or.inl ho, fun _ => rfl⟩
  | cons d front ih =>
    obtain ⟨hd, hq⟩ := List.forall_mem_cons.1 hq
    have hi : i + (d :: front).length = i + 1 + front.length := by
      rw [List.length_cons]
      omega
    simp only [List.cons_append, parenPairsFrom_cons hd, hi]
    split_ifs with h₁ h₂
    · obtain ⟨left, hl, h⟩ := ih hq (i + 1) (i :: opened)
      refine ⟨left, fun o ho => ?_, h⟩
      rcases hl o ho with hm | hlt
      · rcases List.mem_cons.1 hm with rfl | hm
        · exact Or.inr (by omega)
        · exact Or.inl hm
      · exact Or.inr hlt
    · cases opened with
      | nil => exact ih hq (i + 1) []
      | cons p opened =>
        obtain ⟨left, hl, h⟩ := ih hq (i + 1) opened
        refine ⟨left, fun o ho => (hl o ho).imp_left (List.mem_cons_of_mem p), fun rest => ?_⟩
        rw [List.cons_append, ← h rest]
    · exact ih hq (i + 1) opened

/-! ### Partners are told by where they open -/

/-- A pair opens at a parenthesis that was open before or stands in the text. -/
theorem mem_or_le_of_mem_parenPairsFrom {text : List Char} {quote : Option Char} {o c : Nat}
    (h : (o, c) ∈ parenPairsFrom i quote before opened text) : o ∈ opened ∨ i ≤ o := by
  induction text generalizing i quote before opened with
  | nil => simp [parenPairsFrom] at h
  | cons d text ih =>
    have step {quote : Option Char} {left : List Nat} (hl : left ⊆ i :: opened)
        (h : (o, c) ∈ parenPairsFrom (i + 1) quote d left text) : o ∈ opened ∨ i ≤ o := by
      rcases ih h with hm | hle
      · rcases List.mem_cons.1 (hl hm) with rfl | hm
        · exact Or.inr le_rfl
        · exact Or.inl hm
      · exact Or.inr (by omega)
    unfold parenPairsFrom at h
    dsimp only at h
    split_ifs at h
    · exact step (List.subset_cons_self _ _) h
    · exact step (List.Subset.refl _) h
    · split at h
      · next p left =>
        rcases List.mem_cons.1 h with e | h
        · exact Or.inl ((Prod.mk.inj e).1 ▸ List.mem_cons_self)
        · exact step (fun x hx => List.mem_cons_of_mem _ (List.mem_cons_of_mem _ hx)) h
      · exact step (by simp) h
    · exact step (List.subset_cons_self _ _) h

theorem nodup_fst_parenPairsFrom {text : List Char} {quote : Option Char} (hn : opened.Nodup)
    (ho : ∀ o ∈ opened, o < i) :
    ((parenPairsFrom i quote before opened text).map Prod.fst).Nodup := by
  induction text generalizing i quote before opened with
  | nil => simp [parenPairsFrom]
  | cons d text ih =>
    have ho' : ∀ o ∈ opened, o < i + 1 := fun o hm => (ho o hm).trans (Nat.lt_succ_self i)
    unfold parenPairsFrom
    dsimp only
    split_ifs
    · exact ih hn ho'
    · refine ih (List.nodup_cons.2 ⟨fun hm => (ho i hm).false, hn⟩) ?_
      exact List.forall_mem_cons.2 ⟨Nat.lt_succ_self i, ho'⟩
    · split
      · next o left =>
        obtain ⟨hno, hleft⟩ := List.nodup_cons.1 hn
        rw [List.map_cons, List.nodup_cons]
        refine ⟨fun hm => ?_, ih hleft fun p hp => ho' p (List.mem_cons_of_mem _ hp)⟩
        obtain ⟨⟨p, c⟩, hp, rfl⟩ := List.mem_map.1 hm
        have hlt := ho p List.mem_cons_self
        rcases mem_or_le_of_mem_parenPairsFrom hp with hm | hle
        · exact hno hm
        · omega
      · exact ih List.nodup_nil (by simp)
    · exact ih hn ho'

theorem lookup_parenPairs_of_mem {text : List Char} {o c : Nat} (h : (o, c) ∈ parenPairs text) :
    (parenPairs text).lookup o = some c := by
  obtain ⟨front, back, e⟩ := List.append_of_mem h
  have hn : ((parenPairs text).map Prod.fst).Nodup :=
    nodup_fst_parenPairsFrom List.nodup_nil (by simp)
  refine List.lookup_eq_some_iff.2 ⟨front, back, e, fun p hp => ?_⟩
  rw [e, List.map_append, List.map_cons] at hn
  have hne := (List.nodup_append.1 hn).2.2 p.1 (List.mem_map_of_mem hp) o List.mem_cons_self
  simpa using hne.symm

/-- Parentheses around a tidy text are partners. -/
theorem lookup_parenPairs {front inner : List Char} (hq : ∀ c ∈ front, isQuote c = false)
    (hi : Tidy inner) (back : List Char) :
    (parenPairs (front ++ '(' :: (inner ++ ')' :: back))).lookup front.length =
      some (front.length + inner.length + 1) := by
  obtain ⟨left, -, hall⟩ := exists_parenPairsFrom_append hq 0 ' ' []
  refine lookup_parenPairs_of_mem ?_
  rw [parenPairs, hall]
  refine List.mem_append_right _ ?_
  rw [parenPairsFrom_cons (by decide), if_pos rfl]
  have happ := parenPairsFrom_append hi.unquoted [] hi.balanced (0 + front.length + 1) ' '
    ((0 + front.length) :: left) (')' :: back)
  rw [List.nil_append] at happ
  rw [happ, parenPairsFrom_cons (by decide)]
  refine List.mem_append_right _ ?_
  simp only [Nat.zero_add, Char.reduceEq, if_false, if_true]
  refine List.mem_cons.2 (Or.inl ?_)
  congr 1
  omega

end BeamLint
