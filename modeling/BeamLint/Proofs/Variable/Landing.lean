import BeamLint.Variable.Landing
import Mathlib.Data.List.Basic

/-!
# Landings are nearest

From a name one passes on, step by step, along the fallbacks of declared names of unknown tier
(`Passes`). The search lands on a declared name of known tier that is reached in as few steps as
any other (`Nearest`), and nowhere only if none is reached at all (`lands_landing?`).

The queue of the search holds names of two layers: those still to be looked at that are `k` steps
away, and after them those that are `k + 1` steps away. It may hold names twice, names that have
been met and names that are not declared; all of them are passed over (`Layered`).
-/

namespace BeamLint.Graph

variable {g : Graph} {a : String}

/-- `v` is reached from `a` in `k` steps, each along a fallback of a declared name of unknown
tier. -/
inductive Passes (g : Graph) (a : String) : Nat → String → Prop where
  | here : Passes g a 0 a
  | step {k : Nat} {u v : String} (h : Passes g a k u) (hd : g.declares u)
      (ht : g.tierOf u = .unknown) (he : v ∈ g.edges u) : Passes g a (k + 1) v

/-- A declared name of known tier. -/
def Known (g : Graph) (name : String) : Prop := g.declares name ∧ g.tierOf name ≠ .unknown

/-- A name of known tier that is reached in as few steps as any. -/
def Nearest (g : Graph) (a v : String) : Prop :=
  g.Known v ∧ ∃ k, g.Passes a k v ∧ ∀ j < k, ∀ w, g.Passes a j w → ¬ g.Known w

/-- Where a search from `a` may end: at a nearest name, or nowhere when no name of known tier is
reached. -/
def Lands (g : Graph) (a : String) : Option String → Prop
  | some v => g.Nearest a v
  | none => ∀ k w, g.Passes a k w → ¬ g.Known w

/-! ### Layers of the search -/

/-- What holds between two steps of the search: `now` is left of layer `k`, `next` has been found of
the layer after it, and all declared names of earlier layers have been met. -/
structure Layered (g : Graph) (a : String) (met : List String) (k : Nat)
    (now next : List String) : Prop where
  passes_now : ∀ x ∈ now, g.Passes a k x
  passes_next : ∀ x ∈ next, g.Passes a (k + 1) x
  unknown : ∀ x ∈ met, g.tierOf x = .unknown
  earlier : ∀ j < k, ∀ x, g.Passes a j x → g.declares x → x ∈ met
  layer : ∀ x, g.Passes a k x → g.declares x → x ∈ met ∨ x ∈ now
  closed : ∀ x ∈ met, ∀ y ∈ g.edges x, g.declares y → y ∈ met ∨ y ∈ now ∨ y ∈ next

namespace Layered

variable {met now next : List String} {k : Nat} {x : String}

theorem start (g : Graph) (a : String) : g.Layered a [] 0 [a] [] where
  passes_now y hy := List.mem_singleton.1 hy ▸ .here
  passes_next := by simp
  unknown := by simp
  earlier j hj := absurd hj (Nat.not_lt_zero j)
  layer y hy _ := by
    cases hy
    exact Or.inr List.mem_cons_self
  closed := by simp

/-- A name that is not declared, or has been met, is passed over. -/
theorem skip (h : g.Layered a met k (x :: now) next) (hx : ¬ (g.declares x ∧ x ∉ met)) :
    g.Layered a met k now next where
  passes_now y hy := h.passes_now y (List.mem_cons_of_mem _ hy)
  passes_next := h.passes_next
  unknown := h.unknown
  earlier := h.earlier
  layer y hy hd := by
    rcases h.layer y hy hd with hm | hm
    · exact Or.inl hm
    · rcases List.mem_cons.1 hm with rfl | hm
      · exact Or.inl (by_contra fun hm => hx ⟨hd, hm⟩)
      · exact Or.inr hm
  closed z hz y hy hd := by
    rcases h.closed z hz y hy hd with hm | hm | hm
    · exact Or.inl hm
    · rcases List.mem_cons.1 hm with rfl | hm
      · exact Or.inl (by_contra fun hm => hx ⟨hd, hm⟩)
      · exact Or.inr (Or.inl hm)
    · exact Or.inr (Or.inr hm)

/-- A name of unknown tier is met, and its fallbacks are found for the next layer. -/
theorem enter (h : g.Layered a met k (x :: now) next) (hd : g.declares x)
    (ht : g.tierOf x = .unknown) : g.Layered a (x :: met) k now (next ++ g.edges x) where
  passes_now y hy := h.passes_now y (List.mem_cons_of_mem _ hy)
  passes_next := List.forall_mem_append.2
    ⟨h.passes_next, fun _ hy => .step (h.passes_now x List.mem_cons_self) hd ht hy⟩
  unknown := List.forall_mem_cons.2 ⟨ht, h.unknown⟩
  earlier j hj y hy hd := List.mem_cons_of_mem _ (h.earlier j hj y hy hd)
  layer y hy hd := by
    have := h.layer y hy hd
    simp only [List.mem_cons] at this ⊢
    tauto
  closed z hz y hy hd := by
    rcases List.mem_cons.1 hz with rfl | hz
    · exact Or.inr (Or.inr (List.mem_append_right _ hy))
    · have := h.closed z hz y hy hd
      simp only [List.mem_cons, List.mem_append] at this ⊢
      tauto

/-- When nothing is left of a layer, the next one is complete. -/
theorem advance (h : g.Layered a met k [] next) : g.Layered a met (k + 1) next [] where
  passes_now := h.passes_next
  passes_next := by simp
  unknown := h.unknown
  earlier j hj y hy hd := by
    rcases Nat.lt_succ_iff_lt_or_eq.1 hj with hj | rfl
    · exact h.earlier j hj y hy hd
    · exact (h.layer y hy hd).resolve_right List.not_mem_nil
  layer y hy hd := by
    cases hy with
    | step hu hdu ht he =>
      have hm := (h.layer _ hu hdu).resolve_right List.not_mem_nil
      simpa using h.closed _ hm y he hd
  closed z hz y hy hd := by simpa using h.closed z hz y hy hd

/-- The first name of the queue belongs to the layer that is looked at, or begins the next one. -/
theorem exists_cons {queue : List String} (h : g.Layered a met k now next)
    (hq : x :: queue = now ++ next) :
    ∃ k now next, g.Layered a met k (x :: now) next ∧ queue = now ++ next := by
  cases now with
  | nil =>
    obtain rfl : x :: queue = next := hq
    exact ⟨k + 1, queue, [], h.advance, by simp⟩
  | cons y now =>
    obtain ⟨rfl, rfl⟩ := List.cons.inj hq
    exact ⟨k, now, next, h, rfl⟩

/-- No name of known tier stands in an earlier layer. -/
theorem not_known (h : g.Layered a met k now next) {j : Nat} (hj : j < k) {w : String}
    (hw : g.Passes a j w) : ¬ g.Known w :=
  fun hk => hk.2 (h.unknown w (h.earlier j hj w hw hk.1))

theorem advance_add (h : g.Layered a met k [] []) (n : Nat) : g.Layered a met (k + n) [] [] := by
  induction n with
  | zero => exact h
  | succ n ih => exact ih.advance

/-- The search lands where it should, from whatever layer it goes on. -/
theorem lands {queue : List String} (h : g.Layered a met k now next) (hq : queue = now ++ next) :
    g.Lands a (g.landFrom met queue) := by
  fun_induction g.landFrom met queue generalizing k now next with
  | case1 met =>
    obtain ⟨rfl, rfl⟩ := List.append_eq_nil_iff.1 hq.symm
    intro j w hw
    exact (h.advance_add (j + 1)).not_known (by omega) hw
  | case2 met name queue hn ht =>
    obtain ⟨k, now, next, h, -⟩ := h.exists_cons hq
    exact ⟨⟨hn.1, ht⟩, k, h.passes_now name List.mem_cons_self, fun j hj w hw => h.not_known hj hw⟩
  | case3 met name queue hn ht ih =>
    obtain ⟨k, now, next, h, rfl⟩ := h.exists_cons hq
    exact ih (h.enter hn.1 (by simpa using ht)) (List.append_assoc _ _ _)
  | case4 met name queue hn ih =>
    obtain ⟨k, now, next, h, rfl⟩ := h.exists_cons hq
    exact ih (h.skip hn) rfl

end Layered

/-- The search lands on a nearest name, if there is one. -/
theorem lands_landing? (g : Graph) (a : String) : g.Lands a (g.landing? a) :=
  (Layered.start g a).lands rfl

theorem nearest_of_landing?_eq_some {v : String} (h : g.landing? a = some v) : g.Nearest a v := by
  have := g.lands_landing? a
  rwa [h] at this

theorem exists_landing?_of_nearest {v : String} (h : g.Nearest a v) :
    ∃ w, g.landing? a = some w ∧ g.Nearest a w := by
  cases hl : g.landing? a with
  | none =>
    have hno := g.lands_landing? a
    rw [hl] at hno
    obtain ⟨hk, k, hp, -⟩ := h
    exact absurd hk (hno k v hp)
  | some w => exact ⟨w, rfl, nearest_of_landing?_eq_some hl⟩

/-! ### What a landing depends on -/

/-- The search only reads the fallbacks of the names of unknown tier that are passed. -/
theorem landFrom_congr {g' : Graph} (hd : g.declares = g'.declares) (ht : g.tierOf = g'.tierOf)
    (he : ∀ k u, g.Passes a k u → g.declares u → g.tierOf u = .unknown → g.edges u = g'.edges u)
    {met queue : List String} (hq : ∀ x ∈ queue, ∃ k, g.Passes a k x) :
    g.landFrom met queue = g'.landFrom met queue := by
  fun_induction g.landFrom met queue with
  | case1 => rw [landFrom]
  | case2 met name queue hn hk => rw [landFrom, dif_pos (hd ▸ hn), if_pos (ht ▸ hk)]
  | case3 met name queue hn hk ih =>
    obtain ⟨⟨k, hp⟩, hq⟩ := List.forall_mem_cons.1 hq
    have hu : g.tierOf name = .unknown := by simpa using hk
    have hnext : ∀ x ∈ queue ++ g.edges name, ∃ k, g.Passes a k x :=
      List.forall_mem_append.2 ⟨hq, fun x hx => ⟨k + 1, .step hp hn.1 hu hx⟩⟩
    rw [landFrom, dif_pos (hd ▸ hn), if_neg (ht ▸ hk), ih hnext, he k name hp hn.1 hu]
  | case4 met name queue hn ih =>
    rw [landFrom, dif_neg (hd ▸ hn), ih (List.forall_mem_cons.1 hq).2]

theorem landing?_congr {g' : Graph} (hd : g.declares = g'.declares) (ht : g.tierOf = g'.tierOf)
    (he : ∀ k u, g.Passes a k u → g.declares u → g.tierOf u = .unknown →
      g.edges u = g'.edges u) : g.landing? a = g'.landing? a :=
  landFrom_congr hd ht he fun _ hx => ⟨0, List.mem_singleton.1 hx ▸ .here⟩

end BeamLint.Graph
