/-!
# First occurrences and increasing order

What is found more than once is kept where it was found first, and names are listed in increasing
order of their code points.
-/

namespace BeamLint

/-- The elements of which no earlier element has the same key, in their order. -/
def firsts {α κ : Type} [DecidableEq κ] (key : α → κ) : List α → List α
  | [] => []
  | a :: rest => a :: (firsts key rest).filter fun b => key b ≠ key a

/-- No key is lost. -/
theorem mem_map_firsts {α κ : Type} [DecidableEq κ] (key : α → κ) (k : κ) (as : List α) :
    k ∈ (firsts key as).map key ↔ k ∈ as.map key := by
  induction as with
  | nil => rfl
  | cons a rest ih =>
    by_cases h : k = key a
    · simp [firsts, h]
    · have : k ∈ ((firsts key rest).filter fun b => key b ≠ key a).map key ↔
          k ∈ (firsts key rest).map key := by
        simp only [List.mem_map, List.mem_filter, decide_eq_true_eq]
        exact ⟨fun ⟨b, hb, e⟩ => ⟨b, hb.1, e⟩, fun ⟨b, hb, e⟩ => ⟨b, ⟨hb, e ▸ h⟩, e⟩⟩
      rw [firsts, List.map_cons, List.map_cons, List.mem_cons, List.mem_cons, this, ih]

/-- The elements themselves as keys: nothing is lost, and nothing comes in. -/
@[simp] theorem mem_firsts_id {α : Type} [DecidableEq α] (a : α) (as : List α) :
    a ∈ firsts id as ↔ a ∈ as := by
  simpa using mem_map_firsts id a as

/-- The texts in increasing order. -/
def increasing (texts : List String) : List String :=
  texts.mergeSort fun a b => decide (a ≤ b)

/-- The texts in increasing order, none of them twice. -/
def increasingSet (texts : List String) : List String := increasing (firsts id texts)

end BeamLint
