import BeamLint.Proofs.Value.Stretch
import Mathlib

/-!
# Calls around a place

A place stands in the calls whose parentheses stand around it. Behind it are the places that are in
all these calls too (`Behind`); in the fallback of a call this means the same as in the whole text.

The search for calls goes from left to right. What it has passed at some place (`Passed`) are calls
that end before the first place that is free; so where it comes to a place, no call stands around
the place any more.
-/

namespace BeamLint

open Text

/-! ### Behind a place -/

/-- `x` stands behind `n`, and in every call around `n`. -/
def Behind (text : List Char) (n x : Nat) : Prop :=
  n < x ∧ ∀ start ∈ opensFrom 0 text, ∀ pair ∈ parenPairs text,
    pair.1 = start + 3 → start < n → n < pair.2 → x < pair.2

instance (text : List Char) (n x : Nat) : Decidable (Behind text n x) :=
  inferInstanceAs (Decidable (n < x ∧ ∀ start ∈ opensFrom 0 text, ∀ pair ∈ parenPairs text,
    pair.1 = start + 3 → start < n → n < pair.2 → x < pair.2))

/-- Between the parentheses of a call stand the pairs of its inside. -/
theorem exists_parenPairs_inside_call {front rest text : List Char} {close : Nat}
    (hf : ∀ d ∈ front, isQuote d = false) (e : text = front ++ (varOpen ++ rest))
    (h : (front.length + 3, close) ∈ parenPairs text) :
    ∃ (inner later : List Char) (others : List (Nat × Nat)), rest = inner ++ ')' :: later ∧
      close = front.length + inner.length + 4 ∧
      (∀ o c, (o, c) ∈ others →
        c < front.length + 3 ∨ (o < front.length + 3 ∨ close < o) ∧ close < c) ∧
      ∀ pair, pair ∈ parenPairs text ↔
        pair ∈ (parenPairs inner).map (shiftPair (front.length + 4)) ∨
          pair = (front.length + 3, close) ∨ pair ∈ others := by
  have hfront : ∀ d ∈ front ++ ['v', 'a', 'r'], isQuote d = false :=
    List.forall_mem_append.2 ⟨hf, by simp [isQuote]⟩
  have hlength : (front ++ ['v', 'a', 'r']).length = front.length + 3 := by simp
  have htext : text = (front ++ ['v', 'a', 'r']) ++ '(' :: rest := by simp [e, varOpen]
  rw [htext, ← hlength] at h
  obtain ⟨inner, later, others, hrest, hclose, hothers, hpairs⟩ := exists_parenPairs_inside hfront h
  rw [hlength] at hclose hothers hpairs
  rw [← htext] at hpairs
  exact ⟨inner, later, others, hrest, by omega, hothers, hpairs⟩

/-- In the fallback of a call, behind a place means the same as in the whole text. -/
theorem behind_fallback_iff {front lead body later text : List Char} {k n x : Nat}
    (hf : ∀ d ∈ front, isQuote d = false)
    (hl : ∀ d ∈ lead, isQuote d = false ∧ d ≠ '(' ∧ d ≠ ')')
    (e : text = front ++ (varOpen ++ (lead ++ ',' :: (body ++ ')' :: later))))
    (hk : k = front.length + lead.length + 5)
    (hpair : (front.length + 3, k + body.length) ∈ parenPairs text) (hx : x < body.length) :
    Behind text (k + n) (k + x) ↔ Behind body n x := by
  obtain ⟨inner, more, others, hinner, hclose, hothers, hpairs⟩ :=
    exists_parenPairs_inside_call hf e hpair
  obtain ⟨rfl, -⟩ : lead ++ ',' :: body = inner ∧ ')' :: later = ')' :: more := by
    refine List.append_inj (by simpa using hinner) ?_
    simp only [List.length_append, List.length_cons]
    omega
  have hbody : (parenPairs (lead ++ ',' :: body)).map (shiftPair (front.length + 4)) =
      (parenPairs body).map (shiftPair k) := by
    have hplain : ∀ d ∈ lead ++ [','], isQuote d = false ∧ d ≠ '(' ∧ d ≠ ')' :=
      List.forall_mem_append.2 ⟨hl, by simp [isQuote]⟩
    have h := parenPairs_plain_append hplain body
    rw [List.append_assoc, List.singleton_append] at h
    rw [h, List.map_map]
    refine List.map_congr_left fun pair _ => ?_
    simp only [Function.comp_apply, shiftPair, List.length_append, List.length_singleton,
      Prod.mk.injEq]
    omega
  rw [hbody] at hpairs
  have hopens : opensFrom 0 text = opensFrom 0 (front ++ (varOpen ++ lead)) ++
      ((opensFrom 0 body).map (· + k) ++ opensFrom (k + body.length + 1) later) := by
    have hsplit : text = (front ++ (varOpen ++ lead)) ++ ',' :: (body ++ ')' :: later) := by
      simp [e]
    have hk' : 0 + (front ++ (varOpen ++ lead)).length + 1 = 0 + k := by
      simp [varOpen]
      omega
    rw [hsplit, opensFrom_append_mark (by decide), opensFrom_append_mark (by decide), hk',
      opensFrom_shift, Nat.zero_add]
  unfold Behind
  constructor
  · rintro ⟨hlt, h⟩
    refine ⟨by omega, fun start hs pair hp hopen hbefore hbehind => ?_⟩
    have hshown := h (start + k) (by rw [hopens]; simp [hs]) (shiftPair k pair)
      ((hpairs _).2 (Or.inl (List.mem_map_of_mem hp)))
    simp only [shiftPair] at hshown
    omega
  · rintro ⟨hlt, h⟩
    refine ⟨by omega, fun start hs pair hp hopen hbefore hbehind => ?_⟩
    obtain ⟨o, c⟩ := pair
    dsimp only at hopen hbehind ⊢
    rcases (hpairs _).1 hp with hp | hp | hp
    · -- A pair of the fallback is opened by a call that begins in the fallback.
      obtain ⟨o', c', hp', rfl, rfl⟩ := mem_map_shiftPair.1 hp
      rw [hopens, List.mem_append, List.mem_append] at hs
      rcases hs with hs | hs | hs
      · obtain ⟨u, v, hu, rfl⟩ := mem_opensFrom_iff.1 hs
        have := congrArg List.length hu
        simp only [List.length_append, varOpen, List.length_cons, List.length_nil] at this
        omega
      · obtain ⟨start', hs', rfl⟩ := List.mem_map.1 hs
        have := h start' hs' (o', c') hp' (by dsimp only; omega) (by omega) (by dsimp only; omega)
        dsimp only at this
        omega
      · have := mem_opensFrom hs
        omega
    · obtain ⟨-, rfl⟩ := Prod.mk.inj hp
      omega
    · have := hothers o c hp
      omega

/-! ### How far the search has come -/

/-- The search for calls has passed the places before `m` and the calls before `free`: all calls
that begin before `m` end before `free`, and one of them ends right before it. -/
structure Passed (text : List Char) (m free : Nat) : Prop where
  closed : ∀ start ∈ opensFrom 0 text, start < m →
    ∀ close, (start + 3, close) ∈ parenPairs text → close < free
  last : free = 0 ∨ ∃ start ∈ opensFrom 0 text, start < m ∧ (start + 3, free - 1) ∈ parenPairs text

namespace Passed

variable {text : List Char} {m free : Nat}

theorem start (text : List Char) : Passed text 0 0 :=
  ⟨fun _ _ h => absurd h (Nat.not_lt_zero _), Or.inl rfl⟩

/-- One place further on, where all that begins at the place ends before `free`. -/
theorem step (h : Passed text m free)
    (hm : m ∈ opensFrom 0 text → ∀ close, (m + 3, close) ∈ parenPairs text → close < free) :
    Passed text (m + 1) free where
  closed start hs hlt close hp := by
    rcases Nat.lt_succ_iff_lt_or_eq.1 hlt with hlt | rfl
    · exact h.closed start hs hlt close hp
    · exact hm hs close hp
  last := by
    rcases h.last with h | ⟨start, hs, hlt, hp⟩
    · exact Or.inl h
    · exact Or.inr ⟨start, hs, by omega, hp⟩

/-- Behind a call that is taken. -/
theorem take (h : Passed text m free) (hle : free ≤ m) (hm : m ∈ opensFrom 0 text) {close : Nat}
    (hp : (m + 3, close) ∈ parenPairs text) : Passed text (m + 1) (close + 1) where
  closed start hs hlt c hc := by
    have hopen := lt_of_mem_parenPairs hp
    rcases Nat.lt_succ_iff_lt_or_eq.1 hlt with hlt | rfl
    · have := h.closed start hs hlt c hc
      omega
    · have hl := lookup_parenPairs_of_mem hc
      rw [lookup_parenPairs_of_mem hp] at hl
      obtain rfl := Option.some.inj hl
      omega
  last := Or.inr ⟨m, hm, Nat.lt_succ_self m, hp⟩

/-- A call that begins in a call that was taken ends in it. -/
theorem lt_of_covered {front back : List Char} (h : Passed text front.length free)
    (hlt : front.length < free) (e : text = front ++ (varOpen ++ back))
    (hf : ∀ d ∈ front, isQuote d = false) {close : Nat}
    (hp : (front.length + 3, close) ∈ parenPairs text) : close < free := by
  rcases h.last with h | ⟨start, hs, hstart, hlast⟩
  · omega
  obtain ⟨outer, rest, e', rfl⟩ := mem_opensFrom_iff.1 hs
  rw [Nat.zero_add] at hlast hstart
  have houter : ∀ d ∈ outer, isQuote d = false := by
    have hsub : outer <+: front :=
      List.prefix_of_prefix_length_le ⟨_, e'.symm⟩ ⟨_, e.symm⟩ (by omega)
    exact fun d hd => hf d (hsub.subset hd)
  obtain ⟨inner, later, others, -, hclose, hothers, hpairs⟩ :=
    exists_parenPairs_inside_call houter e' hlast
  -- The last call ends at a parenthesis, which is none of the first three characters of `var(`.
  have hbehind : front.length + 3 ≤ free - 1 := by
    by_contra hno
    have hend : text[free - 1]? = some ')' := by
      simpa using (getElem?_of_mem_parenPairsFrom hlast).2
    have hj : free - 1 = front.length ∨ free - 1 = front.length + 1 ∨
        free - 1 = front.length + 2 := by omega
    rw [e] at hend
    rcases hj with hj | hj | hj <;> simp [hj, varOpen] at hend
  rcases (hpairs _).1 hp with hp | hp | hp
  · obtain ⟨o', c', hp', ho, rfl⟩ := mem_map_shiftPair.1 hp
    have := lt_of_mem_parenPairs hp'
    omega
  · have := (Prod.mk.inj hp).1
    omega
  · have := hothers _ _ hp
    omega

end Passed

end BeamLint
