import BeamLint.Proofs.Variable.Landing
import Mathlib.Data.List.Basic

/-!
# Which of the nearest names a search lands on

Walking along the fallbacks of names of unknown tier, and writing down all names that are reached
in `k` steps in the order of the edges, one gets the `k`-th layer of a walk (`layer`); a name that
is reached on several ways stands there several times. A landing is the first name of known tier in
the first layer that has one (`IsLanding`).

The search meets every name once, so its queue is shorter than the layers. What it leaves out are
names that stand further ahead already: looking for a name that has not been met, one finds the same
first in the queue and in what is left of the layer (`Ordered`). Hence the search lands where it
should (`landing?_eq_some_iff`).
-/

namespace BeamLint.Graph

variable {g : Graph} {a v w : String}

instance (g : Graph) : DecidablePred g.Known := fun _ => inferInstanceAs (Decidable (_ ∧ _))

/-- The names that a declared name of unknown tier passes on to; other names pass on to none. -/
def passed (g : Graph) (name : String) : List String :=
  if g.declares name ∧ g.tierOf name = .unknown then g.edges name else []

/-- The names that are reached from `a` in `k` steps, in the order of the edges. -/
def layer (g : Graph) (a : String) : (k : Nat) → List String
  | 0 => [a]
  | k + 1 => (g.layer a k).flatMap g.passed

/-- `v` is the first name of known tier in the first layer that has one. -/
def IsLanding (g : Graph) (a v : String) : Prop :=
  ∃ k, (∀ j < k, ∀ w ∈ g.layer a j, ¬ g.Known w) ∧
    (g.layer a k).find? (fun w => g.Known w) = some v

theorem mem_passed {u : String} :
    v ∈ g.passed u ↔ g.declares u ∧ g.tierOf u = .unknown ∧ v ∈ g.edges u := by
  unfold passed
  split_ifs with h
  · simp [h]
  · simp only [List.not_mem_nil, false_iff]
    exact fun hu => h ⟨hu.1, hu.2.1⟩

theorem mem_layer_iff {k : Nat} : v ∈ g.layer a k ↔ g.Passes a k v := by
  induction k generalizing v with
  | zero =>
    rw [layer, List.mem_singleton]
    constructor
    · rintro rfl
      exact .here
    · rintro ⟨⟩
      rfl
  | succ k ih =>
    rw [layer, List.mem_flatMap]
    constructor
    · rintro ⟨u, hu, hv⟩
      obtain ⟨hd, ht, he⟩ := mem_passed.1 hv
      exact .step (ih.1 hu) hd ht he
    · intro h
      cases h with
      | step hu hd ht he => exact ⟨_, ih.2 hu, mem_passed.2 ⟨hd, ht, he⟩⟩

/-- There is at most one landing. -/
theorem IsLanding.unique (hv : g.IsLanding a v) (hw : g.IsLanding a w) : v = w := by
  obtain ⟨k, hk, hv⟩ := hv
  obtain ⟨l, hl, hw⟩ := hw
  have known {k : Nat} {v : String} (h : (g.layer a k).find? (fun w => g.Known w) = some v) :
      v ∈ g.layer a k ∧ g.Known v :=
    ⟨List.mem_of_find?_eq_some h, by simpa using List.find?_some h⟩
  rcases Nat.lt_trichotomy k l with hlt | rfl | hlt
  · exact absurd (known hv).2 (hl k hlt v (known hv).1)
  · exact Option.some.inj (hv.symm.trans hw)
  · exact absurd (known hw).2 (hk l hlt w (known hw).1)

/-! ### The queue and the layers -/

/-- What holds between two steps of the search, besides `Layered`: the layer is what has been walked
through and the `rest`. A name that is declared and has not been met is found first in the rest
exactly when it is found first in what the queue has left of the layer; one that the layer does not
have either is found first among the names that were passed on to exactly when it is found first in
what the queue has of the next layer. -/
structure Ordered (g : Graph) (a : String) (met : List String) (k : Nat)
    (now next walked rest : List String) : Prop extends Layered g a met k now next where
  split : g.layer a k = walked ++ rest
  walked_met : ∀ x ∈ walked, g.declares x → x ∈ met
  find_now : ∀ p : String → Bool, (∀ x, p x → g.declares x ∧ x ∉ met) → rest.find? p = now.find? p
  find_next : ∀ p : String → Bool, (∀ x, p x → g.declares x ∧ x ∉ met ∧ x ∉ now) →
    (walked.flatMap g.passed).find? p = next.find? p

namespace Ordered

variable {met now next walked rest : List String} {k : Nat} {x : String}

theorem start (g : Graph) (a : String) : g.Ordered a [] 0 [a] [] [] [a] where
  toLayered := Layered.start g a
  split := rfl
  walked_met := by simp
  find_now _ _ := rfl
  find_next _ _ := rfl

/-- Names that have been met already pass on to nothing that the queue does not have. -/
theorem find_next_append (h : g.Ordered a met k now next walked rest) {more : List String}
    (hm : ∀ x ∈ more, g.declares x → x ∈ met) {p : String → Bool}
    (hp : ∀ x, p x → g.declares x ∧ x ∉ met ∧ x ∉ now) :
    ((walked ++ more).flatMap g.passed).find? p = next.find? p := by
  rw [List.flatMap_append, List.find?_append, h.find_next p hp]
  cases hn : next.find? p with
  | some y => rfl
  | none =>
    rw [Option.none_or, List.find?_eq_none]
    intro y hy hpy
    obtain ⟨u, hu, hy⟩ := List.mem_flatMap.1 hy
    obtain ⟨hd, -, he⟩ := mem_passed.1 hy
    obtain ⟨hdy, hmet, hnow⟩ := hp y hpy
    rcases h.closed u (hm u hu hd) y he hdy with hy | hy | hy
    · exact hmet hy
    · exact hnow hy
    · exact List.find?_eq_none.1 hn y hy hpy

/-- A name that is not declared, or has been met, is passed over. -/
theorem skip (h : g.Ordered a met k (x :: now) next walked rest)
    (hx : ¬ (g.declares x ∧ x ∉ met)) : g.Ordered a met k now next walked rest where
  toLayered := h.toLayered.skip hx
  split := h.split
  walked_met := h.walked_met
  find_now p hp := by
    have hpx : ¬ p x := fun hpx => hx (hp x hpx)
    rw [h.find_now p hp, List.find?_cons_of_neg hpx]
  find_next p hp := by
    refine h.find_next p fun y hy => ?_
    obtain ⟨hd, hmet, hnow⟩ := hp y hy
    refine ⟨hd, hmet, fun hm => ?_⟩
    rcases List.mem_cons.1 hm with rfl | hm
    · exact hx ⟨hd, hmet⟩
    · exact hnow hm

/-- The first name that is neither undeclared nor met comes next in the layer, too. -/
theorem exists_rest (h : g.Ordered a met k (x :: now) next walked rest) (hd : g.declares x)
    (hm : x ∉ met) :
    ∃ front later, rest = front ++ x :: later ∧ ∀ y ∈ front, g.declares y → y ∈ met := by
  have hfind := h.find_now (fun y => g.declares y && decide (y ∉ met)) (by simp)
  rw [List.find?_cons_of_pos (by simp [hd, hm])] at hfind
  obtain ⟨-, front, later, e, hfront⟩ := List.find?_eq_some_iff_append.1 hfind
  exact ⟨front, later, e, fun y hy hdy => by simpa [hdy] using hfront y hy⟩

/-- A name of unknown tier is met, and its fallbacks are found for the next layer. -/
theorem enter (h : g.Ordered a met k (x :: now) next walked rest) (hd : g.declares x)
    (hm : x ∉ met) (ht : g.tierOf x = .unknown) :
    ∃ walked rest, g.Ordered a (x :: met) k now (next ++ g.edges x) walked rest := by
  obtain ⟨front, later, rfl, hfront⟩ := h.exists_rest hd hm
  refine ⟨walked ++ front ++ [x], later, ⟨h.toLayered.enter hd ht, ?_, ?_, ?_, ?_⟩⟩
  · simp [h.split]
  · intro y hy hdy
    rcases List.mem_append.1 hy with hy | hy
    · rcases List.mem_append.1 hy with hy | hy
      · exact List.mem_cons_of_mem _ (h.walked_met y hy hdy)
      · exact List.mem_cons_of_mem _ (hfront y hy hdy)
    · exact List.mem_singleton.1 hy ▸ List.mem_cons_self
  · intro p hp
    have hpx : ¬ p x := fun hpx => (hp x hpx).2 List.mem_cons_self
    have hp' : ∀ y, p y → g.declares y ∧ y ∉ met := fun y hy =>
      ⟨(hp y hy).1, fun hmet => (hp y hy).2 (List.mem_cons_of_mem _ hmet)⟩
    have hno : front.find? p = none :=
      List.find?_eq_none.2 fun y hy hpy => (hp' y hpy).2 (hfront y hy (hp' y hpy).1)
    have hfind := h.find_now p hp'
    rwa [List.find?_append, hno, Option.none_or, List.find?_cons_of_neg hpx,
      List.find?_cons_of_neg hpx] at hfind
  · intro p hp
    have hp' : ∀ y, p y → g.declares y ∧ y ∉ met ∧ y ∉ x :: now := by
      intro y hy
      obtain ⟨hdy, hmet, hnow⟩ := hp y hy
      rw [List.mem_cons, not_or] at hmet ⊢
      exact ⟨hdy, hmet.2, hmet.1, hnow⟩
    have hx : [x].flatMap g.passed = g.edges x := by simp [passed, hd, ht]
    rw [List.flatMap_append, hx, List.find?_append, h.find_next_append hfront hp',
      List.find?_append]

/-- When nothing is left of a layer, the next one is complete. -/
theorem advance (h : g.Ordered a met k [] next walked rest) :
    g.Ordered a met (k + 1) next [] [] (g.layer a (k + 1)) where
  toLayered := h.toLayered.advance
  split := rfl
  walked_met := by simp
  find_now p hp := by
    have hrest : ∀ x ∈ rest, g.declares x → x ∈ met := by
      intro x hx hd
      by_contra hm
      have hfind := h.find_now (fun y => g.declares y && decide (y ∉ met)) (by simp)
      exact List.find?_eq_none.1 hfind x hx (by simp [hd, hm])
    rw [layer, h.split]
    exact h.find_next_append hrest fun x hx => ⟨(hp x hx).1, (hp x hx).2, List.not_mem_nil⟩
  find_next _ _ := rfl

/-- The first name of the queue belongs to the layer that is looked at, or begins the next one. -/
theorem exists_cons {queue : List String} (h : g.Ordered a met k now next walked rest)
    (hq : x :: queue = now ++ next) :
    ∃ k now next walked rest, g.Ordered a met k (x :: now) next walked rest ∧
      queue = now ++ next := by
  cases now with
  | nil =>
    obtain rfl : x :: queue = next := hq
    exact ⟨k + 1, queue, [], [], _, h.advance, by simp⟩
  | cons y now =>
    obtain ⟨rfl, rfl⟩ := List.cons.inj hq
    exact ⟨k, now, next, walked, rest, h, rfl⟩

/-- A name of known tier at the head of the queue is the first one of its layer. -/
theorem isLanding_of_known (h : g.Ordered a met k (x :: now) next walked rest) (hx : g.Known x) :
    g.IsLanding a x := by
  have unmet : ∀ y, g.Known y → g.declares y ∧ y ∉ met := fun y hy =>
    ⟨hy.1, fun hm => hy.2 (h.unknown y hm)⟩
  refine ⟨k, fun j hj w hw => h.not_known hj (mem_layer_iff.1 hw), ?_⟩
  have hwalked : walked.find? (fun w => g.Known w) = none :=
    List.find?_eq_none.2 fun y hy hk =>
      (unmet y (by simpa using hk)).2 (h.walked_met y hy (unmet y (by simpa using hk)).1)
  rw [h.split, List.find?_append, hwalked, Option.none_or,
    h.find_now _ fun y hy => unmet y (by simpa using hy),
    List.find?_cons_of_pos (by simpa using hx)]

/-- The search lands on the first name of known tier, from whatever layer it goes on. -/
theorem isLanding {queue : List String} (h : g.Ordered a met k now next walked rest)
    (hq : queue = now ++ next) (hv : g.landFrom met queue = some v) : g.IsLanding a v := by
  fun_induction g.landFrom met queue generalizing k now next walked rest with
  | case1 met => contradiction
  | case2 met name queue hn ht =>
    obtain ⟨k, now, next, walked, rest, h, -⟩ := h.exists_cons hq
    exact Option.some.inj hv ▸ h.isLanding_of_known ⟨hn.1, ht⟩
  | case3 met name queue hn ht ih =>
    obtain ⟨k, now, next, walked, rest, h, rfl⟩ := h.exists_cons hq
    obtain ⟨walked, rest, h⟩ := h.enter hn.1 hn.2 (by simpa using ht)
    exact ih h (List.append_assoc _ _ _) hv
  | case4 met name queue hn ih =>
    obtain ⟨k, now, next, walked, rest, h, rfl⟩ := h.exists_cons hq
    exact ih (h.skip hn) rfl hv

end Ordered

/-- The search lands on the first name of known tier in the first layer that has one, and nowhere if
there is none. -/
theorem landing?_eq_some_iff : g.landing? a = some v ↔ g.IsLanding a v := by
  have sound {w : String} (h : g.landing? a = some w) : g.IsLanding a w :=
    (Ordered.start g a).isLanding rfl h
  constructor
  · exact sound
  · intro hv
    cases hl : g.landing? a with
    | some w => rw [(sound hl).unique hv]
    | none =>
      obtain ⟨k, -, hfind⟩ := hv
      have hno := g.lands_landing? a
      rw [hl] at hno
      have hp := mem_layer_iff.1 (List.mem_of_find?_eq_some hfind)
      exact absurd (by simpa using List.find?_some hfind) (hno k v hp)

end BeamLint.Graph
