import BeamLint.Proofs.Value.ParenState
import Mathlib

/-!
# Pairs of parentheses are well nested

No place belongs to two pairs, and of two pairs one stands in the other or they stand apart. What
opens between partners is closed there, since it stands on top of the first of them, and what closes
there closes nothing else, since the first of them stays open (`wellNested_parenPairs`). Stray
parentheses and quotes of any kind do not matter.

Without quotes, as many parentheses of a stretch that starts at an open one are open as have not
been closed in it (`count_openAt`). So the partner is the first place at which both kinds are equal
in number (`mem_parenPairs_iff_firstBalanced`).
-/

namespace BeamLint

open Text

variable {text : List Char} {k o c o' c' : Nat}

/-! ### Pairs -/

/-- Between partners the first of them is open. -/
theorem mem_openAt_of_pair (h : (o, c) ∈ parenPairs text) (hok : o < k) (hkc : k ≤ c) :
    o ∈ openAt text k :=
  mem_openAt_of_le (List.mem_of_head? (mem_parenPairs_iff.1 h).2.2) hok hkc

/-- Behind them it is not. -/
theorem notMem_openAt_of_pair (h : (o, c) ∈ parenPairs text) (hck : c < k) :
    o ∉ openAt text k := by
  intro hk
  obtain ⟨hget, hq, hhead⟩ := mem_parenPairs_iff.1 h
  have hlt : o < c := (opens_of_mem_openAt (List.mem_of_head? hhead)).1
  have hnext : o ∈ openAt text (c + 1) := mem_openAt_of_le hk (by omega) hck
  rcases openAt_cases text c with ⟨-, hno⟩ | ⟨-, hopen, -⟩ | ⟨-, -, he⟩
  · exact hno ⟨hq, Or.inr hget⟩
  · rw [hget] at hopen
    contradiction
  · obtain ⟨rest, e⟩ := List.head?_eq_some_iff.1 hhead
    have hp := pairwise_openAt text c
    rw [he, e, List.tail_cons] at hnext
    rw [e] at hp
    exact lt_irrefl o (List.rel_of_pairwise_cons hp hnext)

theorem partners_of_mem_parenPairs (h : (o, c) ∈ parenPairs text) :
    o < c ∧ text[o]? = some '(' ∧ text[c]? = some ')' ∧ Unquoted text o ∧ Unquoted text c := by
  obtain ⟨hget, hq, hhead⟩ := mem_parenPairs_iff.1 h
  obtain ⟨hlt, hopen, ho⟩ := opens_of_mem_openAt (List.mem_of_head? hhead)
  exact ⟨hlt, hopen, hget, ho, hq⟩

theorem snd_eq_of_fst_eq (h : (o, c) ∈ parenPairs text) (h' : (o, c') ∈ parenPairs text) :
    c = c' := by
  have hlt := (partners_of_mem_parenPairs h).1
  have hlt' := (partners_of_mem_parenPairs h').1
  rcases Nat.lt_trichotomy c c' with hcc | rfl | hcc
  · exact absurd (mem_openAt_of_pair h' hlt' le_rfl) (notMem_openAt_of_pair h hcc)
  · rfl
  · exact absurd (mem_openAt_of_pair h hlt le_rfl) (notMem_openAt_of_pair h' hcc)

theorem fst_eq_of_snd_eq (h : (o, c) ∈ parenPairs text) (h' : (o', c) ∈ parenPairs text) :
    o = o' := by
  have hhead := (mem_parenPairs_iff.1 h).2.2
  rw [(mem_parenPairs_iff.1 h').2.2] at hhead
  exact (Option.some.inj hhead).symm

/-- No place opens one pair and closes another. -/
theorem fst_ne_snd (h : (o, c) ∈ parenPairs text) (h' : (o', c') ∈ parenPairs text) : o ≠ c' := by
  rintro rfl
  have hopen := (partners_of_mem_parenPairs h).2.1
  rw [(partners_of_mem_parenPairs h').2.2.1] at hopen
  contradiction

/-- A pair that closes earlier stands in front of the other or in it. -/
theorem nested_of_lt (h : (o, c) ∈ parenPairs text) (h' : (o', c') ∈ parenPairs text)
    (hcc : c < c') : c < o' ∨ o' < o := by
  by_contra hno
  have hne : o' ≠ c := fst_ne_snd h' h
  have hne' : o ≠ o' := by
    rintro rfl
    exact hcc.ne (snd_eq_of_fst_eq h h')
  have hopen : o' ∈ openAt text c := mem_openAt_of_pair h' (by omega) hcc.le
  have hle : o' ≤ o := le_of_head?_openAt (mem_parenPairs_iff.1 h).2.2 hopen
  omega

/-- What stands between partners outside quotes has its partner there. -/
theorem exists_pair_between (h : (o, c) ∈ parenPairs text) (hok : o < k) (hkc : k < c)
    (hq : Unquoted text k) (hk : text[k]? = some '(' ∨ text[k]? = some ')') :
    ∃ o' c', (o', c') ∈ parenPairs text ∧ (k = o' ∨ k = c') ∧ o < o' ∧ c' < c := by
  rcases hk with hopen | hclose
  · -- At the end the outer parenthesis is on top, so this one is no longer open.
    have hgone : k ∉ openAt text c := fun hm =>
      absurd (le_of_head?_openAt (mem_parenPairs_iff.1 h).2.2 hm) (by omega)
    obtain ⟨c', -, hlt, hp⟩ := exists_partner (mem_openAt_succ hq hopen) hkc hgone
    exact ⟨k, c', hp, Or.inl rfl, hok, hlt⟩
  · -- The outer parenthesis is open, so there is one on top to be closed, and it is another one.
    have ho : o ∈ openAt text k := mem_openAt_of_pair h hok hkc.le
    obtain ⟨o', hhead⟩ : ∃ o', (openAt text k).head? = some o' := by
      cases e : openAt text k with
      | nil => simp [e] at ho
      | cons o' rest => exact ⟨o', rfl⟩
    have hp : (o', k) ∈ parenPairs text := mem_parenPairs_iff.2 ⟨hclose, hq, hhead⟩
    have hne : o ≠ o' := by
      rintro rfl
      exact hkc.ne (snd_eq_of_fst_eq hp h)
    have hle : o ≤ o' := le_of_head?_openAt hhead ho
    exact ⟨o', k, hp, Or.inr rfl, by omega, hkc⟩

/-- Pairs of parentheses of the text, outside quotes, that are well nested and leave nothing without
a partner between two partners. -/
structure WellNested (text : List Char) (pairs : List (Nat × Nat)) : Prop where
  partners : ∀ o c, (o, c) ∈ pairs →
    o < c ∧ text[o]? = some '(' ∧ text[c]? = some ')' ∧ Unquoted text o ∧ Unquoted text c
  once : (pairs.flatMap fun pair => [pair.1, pair.2]).Nodup
  nested : ∀ o c o' c', (o, c) ∈ pairs → (o', c') ∈ pairs → (o, c) ≠ (o', c') →
    (c < o' ∨ c' < o) ∨ (o < o' ∧ c' < c) ∨ (o' < o ∧ c < c')
  filled : ∀ o c k, (o, c) ∈ pairs → o < k → k < c → Unquoted text k →
    text[k]? = some '(' ∨ text[k]? = some ')' →
      ∃ o' c', (o', c') ∈ pairs ∧ (k = o' ∨ k = c') ∧ o < o' ∧ c' < c

theorem wellNested_parenPairs (text : List Char) : WellNested text (parenPairs text) where
  partners _ _ h := partners_of_mem_parenPairs h
  once := by
    have hfst : ((parenPairs text).map Prod.fst).Nodup :=
      nodup_fst_parenPairsFrom List.nodup_nil (by simp)
    refine List.nodup_flatMap.2 ⟨?_, (List.Nodup.of_map _ hfst).pairwise_of_forall_ne ?_⟩
    · rintro ⟨o, c⟩ h
      simpa using (partners_of_mem_parenPairs h).1.ne
    · rintro ⟨o, c⟩ h ⟨o', c'⟩ h' hne
      have ho : o ≠ o' := by
        rintro rfl
        exact hne (Prod.ext rfl (snd_eq_of_fst_eq h h'))
      have hc : c ≠ c' := by
        rintro rfl
        exact hne (Prod.ext (fst_eq_of_snd_eq h h') rfl)
      simp [Function.onFun, ho.symm, hc.symm, fst_ne_snd h' h, (fst_ne_snd h h').symm]
  nested o c o' c' h h' hne := by
    have hlt := (partners_of_mem_parenPairs h).1
    have hlt' := (partners_of_mem_parenPairs h').1
    rcases Nat.lt_trichotomy c c' with hcc | hcc | hcc
    · have := nested_of_lt h h' hcc
      omega
    · exact absurd (Prod.ext (fst_eq_of_snd_eq h (hcc ▸ h')) hcc) hne
    · have := nested_of_lt h' h hcc
      omega
  filled _ _ _ h hok hkc hq hk := exists_pair_between h hok hkc hq hk

/-! ### Without quotes -/

/-- As many parentheses close as open in the stretch from place `o` to place `c`, both included. -/
def Balanced (text : List Char) (o c : Nat) : Prop :=
  ((⟨o, c + 1⟩ : Span).slice text).count ')' = ((⟨o, c + 1⟩ : Span).slice text).count '('

instance (text : List Char) (o c : Nat) : Decidable (Balanced text o c) :=
  inferInstanceAs (Decidable (_ = _))

theorem slice_succ (h : o ≤ k) :
    (⟨o, k + 1⟩ : Span).slice text = (⟨o, k⟩ : Span).slice text ++ text[k]?.toList := by
  have hk : k + 1 - o = k - o + 1 := by omega
  have hget : o + (k - o) = k := by omega
  simp only [Span.slice, hk, List.take_add_one, List.getElem?_drop, hget]

-- The parentheses from `o` on that are open at place `k` stand on top of `o`; each of them, and `o`
-- itself, opened in the stretch without being closed in it.
theorem count_openAt (hq : ∀ d ∈ text, isQuote d = false) (ho : o ∈ openAt text k) :
    (openAt text k).countP (o ≤ ·) + ((⟨o, k⟩ : Span).slice text).count ')' =
      ((⟨o, k⟩ : Span).slice text).count '(' := by
  induction k with
  | zero => simp at ho
  | succ k ih =>
    rw [slice_succ (Nat.le_of_lt_succ (opens_of_mem_openAt ho).1), List.count_append,
      List.count_append]
    have hunquoted := unquoted_of_forall hq k
    rcases openAt_cases text k with ⟨he, hno⟩ | ⟨-, hget, he⟩ | ⟨-, hget, he⟩
    · have hcount {d : Char} (hd : d = '(' ∨ d = ')') : text[k]?.toList.count d = 0 := by
        rw [List.count_eq_zero, Option.mem_toList]
        intro hget
        refine hno ⟨hunquoted, ?_⟩
        rcases hd with rfl | rfl
        · exact Or.inl hget
        · exact Or.inr hget
      rw [he] at ho ⊢
      rw [hcount (Or.inl rfl), hcount (Or.inr rfl), Nat.add_zero, Nat.add_zero, ih ho]
    · rw [he] at ho
      rw [he, hget]
      rcases List.mem_cons.1 ho with rfl | ho
      · -- The stretch begins here, and what was open before opened in front of it.
        have hbefore : (openAt text o).countP (o ≤ ·) = 0 :=
          List.countP_eq_zero.2 fun p hp => by simpa using (opens_of_mem_openAt hp).1
        simp [hbefore, Span.slice]
      · have hlt := (opens_of_mem_openAt ho).1
        have := ih ho
        simp [hlt.le]
        omega
    · rw [he] at ho
      rw [he, hget]
      cases e : openAt text k with
      | nil => simp [e] at ho
      | cons p rest =>
        rw [e] at ho ih
        have hle : o ≤ p := le_of_head?_openAt (by rw [e]; rfl) (e ▸ List.mem_of_mem_tail ho)
        have := ih (List.mem_of_mem_tail ho)
        rw [List.countP_cons_of_pos (by simpa using hle)] at this
        simp
        omega

theorem balanced_of_pair (hq : ∀ d ∈ text, isQuote d = false) (h : (o, c) ∈ parenPairs text) :
    Balanced text o c := by
  obtain ⟨hget, -, hhead⟩ := mem_parenPairs_iff.1 h
  obtain ⟨rest, e⟩ := List.head?_eq_some_iff.1 hhead
  have hrest : rest.countP (o ≤ ·) = 0 := by
    have hp := pairwise_openAt text c
    rw [e] at hp
    exact List.countP_eq_zero.2 fun p hm => by simpa using List.rel_of_pairwise_cons hp hm
  have hcount := count_openAt hq (List.mem_of_head? hhead)
  rw [e, List.countP_cons_of_pos (by simp), hrest] at hcount
  rw [Balanced, slice_succ (partners_of_mem_parenPairs h).1.le, hget, List.count_append,
    List.count_append]
  simp
  omega

theorem not_balanced_of_mem_openAt (hq : ∀ d ∈ text, isQuote d = false)
    (ho : o ∈ openAt text (c + 1)) : ¬ Balanced text o c := by
  have hcount := count_openAt hq ho
  have hpos : 0 < (openAt text (c + 1)).countP (o ≤ ·) :=
    List.countP_pos_iff.2 ⟨o, ho, by simp⟩
  unfold Balanced
  omega

/-- The partner is the first place behind at which as many parentheses have closed as opened. -/
theorem mem_parenPairs_iff_firstBalanced (hq : ∀ d ∈ text, isQuote d = false) :
    (o, c) ∈ parenPairs text ↔
      text[o]? = some '(' ∧ o < c ∧ c < text.length ∧ Balanced text o c ∧
        ∀ m, o < m → m < c → ¬ Balanced text o m := by
  constructor
  · intro h
    obtain ⟨hlt, hopen, hclose, -⟩ := partners_of_mem_parenPairs h
    refine ⟨hopen, hlt, (List.getElem?_eq_some_iff.1 hclose).1, balanced_of_pair hq h, ?_⟩
    intro m hom hmc
    exact not_balanced_of_mem_openAt hq (mem_openAt_of_pair h (by omega) hmc)
  · rintro ⟨hopen, hlt, -, hbalanced, hfirst⟩
    have hgone : o ∉ openAt text (c + 1) := fun ho => not_balanced_of_mem_openAt hq ho hbalanced
    obtain ⟨c', hoc', hc', hp⟩ :=
      exists_partner (mem_openAt_succ (unquoted_of_forall hq o) hopen) (by omega) hgone
    rcases Nat.lt_or_eq_of_le (Nat.le_of_lt_succ hc') with hcc | rfl
    · exact absurd (balanced_of_pair hq hp) (hfirst c' hoc' hcc)
    · exact hp

/-- The pairs of a text are well nested, whatever the text is; in a text without quotes an opening
parenthesis has its partner where, for the first time behind it, as many have closed as opened. -/
theorem parenPairs_wellNested (text : List Char) :
    WellNested text (parenPairs text) ∧
      ((∀ d ∈ text, isQuote d = false) → ∀ o c, text[o]? = some '(' →
        ((o, c) ∈ parenPairs text ↔ o < c ∧ c < text.length ∧ Balanced text o c ∧
          ∀ m, o < m → m < c → ¬ Balanced text o m)) := by
  refine ⟨wellNested_parenPairs text, fun hq o c hopen => ?_⟩
  rw [mem_parenPairs_iff_firstBalanced hq]
  exact and_iff_right hopen

/-- Parentheses in parentheses, with a closing one in a string; the first and the last one are
stray. -/
def parensInParens : List Char := ")(a(')'b)c)(".toList

/-- Parentheses of which the first and the last are never closed. -/
def openParens : List Char := "((b)(".toList

theorem parenPairs_wellNested_parensInParens :
    (1, 10) ∈ parenPairs parensInParens ∧ Unquoted parensInParens 3 ∧
      parensInParens[3]? = some '(' ∧
      (∃ o c, (o, c) ∈ parenPairs parensInParens ∧ (3 = o ∨ 3 = c) ∧ 1 < o ∧ c < 10) ∧
      (∀ d ∈ openParens, isQuote d = false) ∧ openParens[1]? = some '(' ∧
      (1, 3) ∈ parenPairs openParens ∧ Balanced openParens 1 3 ∧ ¬ Balanced openParens 1 2 := by
  have hpair : (1, 10) ∈ parenPairs parensInParens := by decide +kernel
  have hunquoted : Unquoted parensInParens 3 := by decide +kernel
  have hopen : parensInParens[3]? = some '(' := by decide
  have hplain : openParens.all (fun d => !isQuote d) := by decide
  have hquotes : ∀ d ∈ openParens, isQuote d = false := by simpa using hplain
  have hopen' : openParens[1]? = some '(' := by decide
  have hpair' : (1, 3) ∈ parenPairs openParens := by decide
  obtain ⟨hnested, -⟩ := parenPairs_wellNested parensInParens
  obtain ⟨-, hiff⟩ := parenPairs_wellNested openParens
  have hbetween := hnested.filled 1 10 3 hpair (by decide) (by decide) hunquoted (Or.inl hopen)
  obtain ⟨-, -, hbalanced, hfirst⟩ := (hiff hquotes 1 3 hopen').1 hpair'
  exact ⟨hpair, hunquoted, hopen, hbetween, hquotes, hopen', hpair', hbalanced,
    hfirst 2 (by decide) (by decide)⟩

end BeamLint
