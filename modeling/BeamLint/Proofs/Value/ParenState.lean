import BeamLint.Proofs.Value.Nesting
import Mathlib

/-!
# What is open at a place

A text is read from left to right; what has been read leaves a quote open or none, and some
parentheses (`ParenState`). Only two things change which parentheses are open: one that opens
outside quotes is put on top of the others, and one that closes outside quotes takes the topmost
away (`openAt_cases`). So what is open at a place has been open ever since it opened
(`mem_openAt_of_le`), the later ones stand on top of the earlier ones (`pairwise_openAt`), and the
pairs of the text are told place by place: a parenthesis that closes outside quotes is the partner
of the topmost one that is open (`mem_parenPairs_iff`).
-/

namespace BeamLint

open Text

/-- What has been read of a text: the quote that is open, the last character, and the places of the
open parentheses, the innermost first. -/
structure ParenState where
  quote : Option Char := none
  before : Char := ' '
  opened : List Nat := []
  deriving Repr, DecidableEq

namespace ParenState

/-- Reads the character at place `i`. -/
def step (s : ParenState) (i : Nat) (c : Char) : ParenState where
  quote := quoteAfter s.quote s.before c
  before := c
  opened :=
    if s.quote.isSome then s.opened
    else if c = '(' then i :: s.opened
    else if c = ')' then s.opened.tail
    else s.opened

/-- Reads a text that starts at place `i`. -/
def after (s : ParenState) (i : Nat) : List Char → ParenState
  | [] => s
  | c :: rest => (s.step i c).after (i + 1) rest

theorem after_append (s : ParenState) (i : Nat) (a b : List Char) :
    s.after i (a ++ b) = (s.after i a).after (i + a.length) b := by
  induction a generalizing s i with
  | nil => rfl
  | cons c a ih =>
    have hi : i + (c :: a).length = i + 1 + a.length := by
      rw [List.length_cons]
      omega
    rw [List.cons_append, after, ih, after, hi]

/-- The first character makes a pair if it closes a parenthesis outside quotes; then comes what
follows it. -/
theorem mem_parenPairsFrom_cons (s : ParenState) (i : Nat) (c : Char) (rest : List Char)
    (pair : Nat × Nat) :
    pair ∈ parenPairsFrom i s.quote s.before s.opened (c :: rest) ↔
      (s.quote = none ∧ c = ')' ∧ s.opened.head? = some pair.1 ∧ pair.2 = i) ∨
        pair ∈ parenPairsFrom (i + 1) (s.step i c).quote (s.step i c).before (s.step i c).opened
          rest := by
  obtain ⟨o, k⟩ := pair
  obtain ⟨quote, before, opened⟩ := s
  conv_lhs => unfold parenPairsFrom
  cases quote with
  | some q => simp [step]
  | none =>
    by_cases hopen : c = '('
    · simp [step, hopen]
    · by_cases hclose : c = ')'
      · cases opened with
        | nil => simp [step, hclose]
        | cons p opened => simp [step, hclose, eq_comm (a := p)]
      · simp [step, hopen, hclose]

/-- A pair is told by the state in which its second parenthesis is read. -/
theorem mem_parenPairsFrom_iff (s : ParenState) (i : Nat) (text : List Char) (o c : Nat) :
    (o, c) ∈ parenPairsFrom i s.quote s.before s.opened text ↔
      ∃ k, c = i + k ∧ text[k]? = some ')' ∧ (s.after i (text.take k)).quote = none ∧
        (s.after i (text.take k)).opened.head? = some o := by
  induction text generalizing s i with
  | nil => simp [parenPairsFrom]
  | cons d rest ih =>
    rw [mem_parenPairsFrom_cons, ih]
    constructor
    · rintro (⟨hq, rfl, ho, rfl⟩ | ⟨k, rfl, hget, hq, ho⟩)
      · exact ⟨0, rfl, rfl, hq, ho⟩
      · exact ⟨k + 1, by omega, hget, hq, ho⟩
    · rintro ⟨k, rfl, hget, hq, ho⟩
      cases k with
      | zero => exact Or.inl ⟨hq, by simpa using hget, ho, rfl⟩
      | succ k => exact Or.inr ⟨k, by omega, hget, hq, ho⟩

end ParenState

/-! ### Place by place -/

/-- The state in which the character at place `k` is read. -/
def parenStateAt (text : List Char) (k : Nat) : ParenState :=
  ({} : ParenState).after 0 (text.take k)

/-- The parentheses that are open at place `k`, the innermost first. -/
def openAt (text : List Char) (k : Nat) : List Nat := (parenStateAt text k).opened

/-- No quote is open at place `k`. -/
def Unquoted (text : List Char) (k : Nat) : Prop := (parenStateAt text k).quote = none

instance (text : List Char) (k : Nat) : Decidable (Unquoted text k) :=
  inferInstanceAs (Decidable (_ = none))

variable {text : List Char} {k o c : Nat}

theorem mem_parenPairs_iff :
    (o, c) ∈ parenPairs text ↔
      text[c]? = some ')' ∧ Unquoted text c ∧ (openAt text c).head? = some o := by
  have h := ParenState.mem_parenPairsFrom_iff {} 0 text o c
  simp only [Nat.zero_add] at h
  rw [parenPairs, h]
  constructor
  · rintro ⟨k, rfl, hc⟩
    exact hc
  · intro hc
    exact ⟨c, rfl, hc⟩

theorem parenStateAt_succ {d : Char} (h : text[k]? = some d) :
    parenStateAt text (k + 1) = (parenStateAt text k).step k d := by
  have hlen : (text.take k).length = k :=
    List.length_take_of_le (List.getElem?_eq_some_iff.1 h).1.le
  rw [parenStateAt, List.take_add_one, h, ParenState.after_append, hlen, Nat.zero_add]
  rfl

theorem parenStateAt_succ_of_le (h : text.length ≤ k) :
    parenStateAt text (k + 1) = parenStateAt text k := by
  rw [parenStateAt, parenStateAt, List.take_of_length_le h, List.take_of_length_le (by omega)]

/-- In a text without quotes, no quote is ever open. -/
theorem unquoted_of_forall (h : ∀ d ∈ text, isQuote d = false) (k : Nat) : Unquoted text k := by
  induction k with
  | zero => rfl
  | succ k ih =>
    unfold Unquoted at ih ⊢
    cases hget : text[k]? with
    | none => rwa [parenStateAt_succ_of_le (List.getElem?_eq_none_iff.1 hget)]
    | some d =>
      have hd : isQuote d = false := h d (List.mem_of_getElem? hget)
      rw [parenStateAt_succ hget, ParenState.step, ih]
      exact if_neg (by simpa [isQuote] using hd)

@[simp] theorem openAt_zero (text : List Char) : openAt text 0 = [] := rfl

/-- Which parentheses are open changes only with one that opens or closes outside quotes. -/
theorem openAt_cases (text : List Char) (k : Nat) :
    (openAt text (k + 1) = openAt text k ∧
      ¬ (Unquoted text k ∧ (text[k]? = some '(' ∨ text[k]? = some ')'))) ∨
    (Unquoted text k ∧ text[k]? = some '(' ∧ openAt text (k + 1) = k :: openAt text k) ∨
    (Unquoted text k ∧ text[k]? = some ')' ∧ openAt text (k + 1) = (openAt text k).tail) := by
  cases h : text[k]? with
  | none =>
    have he := parenStateAt_succ_of_le (List.getElem?_eq_none_iff.1 h)
    exact Or.inl ⟨congrArg ParenState.opened he, by simp⟩
  | some d =>
    have he := congrArg ParenState.opened (parenStateAt_succ h)
    by_cases hq : Unquoted text k
    · have hnone : (parenStateAt text k).quote.isSome = false := by
        rw [show (parenStateAt text k).quote = none from hq]
        rfl
      simp only [ParenState.step, hnone, Bool.false_eq_true, if_false] at he
      by_cases hopen : d = '('
      · rw [if_pos hopen] at he
        exact Or.inr (Or.inl ⟨hq, congrArg some hopen, he⟩)
      · rw [if_neg hopen] at he
        by_cases hclose : d = ')'
        · rw [if_pos hclose] at he
          exact Or.inr (Or.inr ⟨hq, congrArg some hclose, he⟩)
        · rw [if_neg hclose] at he
          exact Or.inl ⟨he, by simp [hopen, hclose]⟩
    · have hsome : (parenStateAt text k).quote.isSome := Option.isSome_iff_ne_none.2 hq
      rw [ParenState.step, if_pos hsome] at he
      exact Or.inl ⟨he, fun h => hq h.1⟩

/-- What is open is a parenthesis in front, outside quotes. -/
theorem opens_of_mem_openAt (h : o ∈ openAt text k) :
    o < k ∧ text[o]? = some '(' ∧ Unquoted text o := by
  induction k with
  | zero => simp at h
  | succ k ih =>
    rcases openAt_cases text k with ⟨he, -⟩ | ⟨hq, hget, he⟩ | ⟨-, -, he⟩
    · obtain ⟨hlt, hrest⟩ := ih (he ▸ h)
      exact ⟨by omega, hrest⟩
    · rw [he] at h
      rcases List.mem_cons.1 h with rfl | h
      · exact ⟨Nat.lt_succ_self _, hget, hq⟩
      · obtain ⟨hlt, hrest⟩ := ih h
        exact ⟨by omega, hrest⟩
    · rw [he] at h
      obtain ⟨hlt, hrest⟩ := ih (List.mem_of_mem_tail h)
      exact ⟨by omega, hrest⟩

theorem pairwise_openAt (text : List Char) (k : Nat) : (openAt text k).Pairwise (· > ·) := by
  induction k with
  | zero => exact List.Pairwise.nil
  | succ k ih =>
    rcases openAt_cases text k with ⟨he, -⟩ | ⟨-, -, he⟩ | ⟨-, -, he⟩
    · rwa [he]
    · rw [he]
      exact List.pairwise_cons.2 ⟨fun o ho => (opens_of_mem_openAt ho).1, ih⟩
    · rw [he]
      exact ih.tail

/-- The topmost parenthesis is the last one that opened. -/
theorem le_of_head?_openAt {p : Nat} (h : (openAt text k).head? = some p) (ho : o ∈ openAt text k) :
    o ≤ p := by
  obtain ⟨rest, e⟩ := List.head?_eq_some_iff.1 h
  have hp := pairwise_openAt text k
  rw [e] at hp ho
  rcases List.mem_cons.1 ho with rfl | ho
  · exact le_rfl
  · exact (List.rel_of_pairwise_cons hp ho).le

/-- What is open has been open ever since it opened. -/
theorem mem_openAt_of_le {j : Nat} (h : o ∈ openAt text k) (hoj : o < j) (hjk : j ≤ k) :
    o ∈ openAt text j := by
  induction k, hjk using Nat.le_induction with
  | base => exact h
  | succ k hjk ih =>
    refine ih ?_
    rcases openAt_cases text k with ⟨he, -⟩ | ⟨-, -, he⟩ | ⟨-, -, he⟩
    · exact he ▸ h
    · rw [he] at h
      exact (List.mem_cons.1 h).resolve_left (by omega)
    · exact List.mem_of_mem_tail (he ▸ h)

/-- A parenthesis outside quotes is open from the next place on. -/
theorem mem_openAt_succ (hq : Unquoted text o) (ho : text[o]? = some '(') :
    o ∈ openAt text (o + 1) := by
  rcases openAt_cases text o with ⟨-, hno⟩ | ⟨-, -, he⟩ | ⟨-, hget, -⟩
  · exact absurd ⟨hq, Or.inl ho⟩ hno
  · exact he ▸ List.mem_cons_self
  · rw [ho] at hget
    contradiction

/-- What is no longer open at a place has found its partner before it. -/
theorem exists_partner {j : Nat} (h : o ∈ openAt text j) (hjk : j ≤ k) (hk : o ∉ openAt text k) :
    ∃ c, j ≤ c ∧ c < k ∧ (o, c) ∈ parenPairs text := by
  induction k, hjk using Nat.le_induction with
  | base => exact absurd h hk
  | succ k hjk ih =>
    by_cases ho : o ∈ openAt text k
    · refine ⟨k, hjk, Nat.lt_succ_self k, ?_⟩
      rcases openAt_cases text k with ⟨he, -⟩ | ⟨-, -, he⟩ | ⟨hq, hget, he⟩
      · exact absurd (he ▸ ho) hk
      · exact absurd (he ▸ List.mem_cons_of_mem k ho) hk
      · refine mem_parenPairs_iff.2 ⟨hget, hq, ?_⟩
        rw [he] at hk
        cases e : openAt text k with
        | nil => simp [e] at ho
        | cons p rest =>
          rw [e] at ho hk
          rcases List.mem_cons.1 ho with rfl | ho
          · rfl
          · exact absurd ho hk
    · obtain ⟨c, hjc, hck, hp⟩ := ih ho
      exact ⟨c, hjc, by omega, hp⟩

end BeamLint
