import BeamLint.Proofs.Order
import BeamLint.Variable.Cycle
import Mathlib.Data.List.Chain
import Mathlib.Data.List.Rotate

/-!
# Arcs of a cycle

A cycle is a list of names that is read round: its arcs are the pairs of neighbours, the last name
with the first included. Turning the list turns the arcs with it, so that a cycle and the same
cycle started at its least name (`startAtLeast`) have the same arcs. Of all turns of a list without
repetitions only one starts at the least name.

`closedCycle` cuts a cycle out of a trail; its arcs are those of the trail and the arc that closes
it.
-/

namespace BeamLint

/-- The pairs of neighbours of a list that is read round. -/
def arcs (cycle : List String) : List (String × String) := cycle.zip (cycle.rotate 1)

theorem arcs_rotate (cycle : List String) (n : ℕ) : arcs (cycle.rotate n) = (arcs cycle).rotate n := by
  show List.zipWith Prod.mk _ _ = (List.zipWith Prod.mk _ _).rotate n
  rw [List.zipWith_rotate_distrib _ _ _ _ (by simp), List.rotate_rotate, List.rotate_rotate,
    Nat.add_comm]

theorem arcs_cons (a : String) (rest : List String) :
    arcs (a :: rest) = (a :: rest).zip (rest ++ [a]) := by
  simp [arcs]

theorem mem_of_mem_arcs {cycle : List String} {u v : String} (h : (u, v) ∈ arcs cycle) :
    u ∈ cycle ∧ v ∈ cycle :=
  ⟨(List.of_mem_zip h).1, List.mem_rotate.1 (List.of_mem_zip h).2⟩

/-- Every name of a cycle is reached by an arc. -/
theorem exists_arc_to {cycle : List String} {v : String} (h : v ∈ cycle) :
    ∃ u, (u, v) ∈ arcs cycle := by
  have hm : v ∈ (arcs cycle).map Prod.snd := by
    rw [arcs, List.map_snd_zip (by simp)]
    exact List.mem_rotate.2 h
  obtain ⟨⟨u, w⟩, hp, rfl⟩ := List.mem_map.1 hm
  exact ⟨u, hp⟩

/-- The arcs of a list are the steps of the walk that returns to where it began. -/
theorem forall_arcs_iff_isChain {R : String → String → Prop} (a : String) (rest : List String) :
    (∀ u v, (u, v) ∈ arcs (a :: rest) → R u v) ↔ List.IsChain R (a :: rest ++ [a]) := by
  have key : ∀ (b : String) (l : List String),
      (∀ u v, (u, v) ∈ (b :: l).zip (l ++ [a]) → R u v) ↔ List.IsChain R (b :: l ++ [a]) := by
    intro b l
    induction l generalizing b with
    | nil => simp
    | cons c l ih =>
      have h := ih c
      simp only [List.cons_append, List.zip_cons_cons, List.mem_cons, Prod.mk.injEq,
        List.isChain_cons_cons] at h ⊢
      rw [← h]
      constructor
      · exact fun hs => ⟨hs b c (Or.inl ⟨rfl, rfl⟩), fun u v huv => hs u v (Or.inr huv)⟩
      · rintro ⟨hbc, hs⟩ u v (⟨rfl, rfl⟩ | huv)
        · exact hbc
        · exact hs u v huv
  rw [arcs_cons]
  exact key a rest

/-- The last name and the first are neighbours. -/
theorem mem_arcs_of_getLast? {a u : String} {rest : List String}
    (h : (a :: rest).getLast? = some u) : (u, a) ∈ arcs (a :: rest) := by
  have hc := (forall_arcs_iff_isChain (R := fun x y => (x, y) ∈ arcs (a :: rest)) a rest).1
    fun _ _ huv => huv
  exact (List.isChain_append.1 hc).2.2 u h a rfl

/-! ### The least name first -/

theorem exists_startAtLeast_eq_rotate {cycle : List String} (h : cycle ≠ []) :
    ∃ n, startAtLeast cycle = cycle.rotate n := by
  unfold startAtLeast
  split
  · next least _ =>
    refine ⟨(cycle.takeWhile (· ≠ least)).length, ?_⟩
    nth_rewrite 3 [← List.takeWhile_append_dropWhile (p := (· ≠ least)) (l := cycle)]
    rw [List.rotate_append_length_eq]
  · next hn =>
    rw [List.head?_eq_none_iff] at hn
    exact absurd (List.nil_perm.1 (hn ▸ perm_increasing cycle)) h

theorem exists_dropWhile_ne_eq_cons {cycle : List String} {a : String} (h : a ∈ cycle) :
    ∃ rest, cycle.dropWhile (· ≠ a) = a :: rest := by
  induction cycle with
  | nil => simp at h
  | cons b cycle ih =>
    by_cases hb : b = a
    · exact ⟨cycle, by simp [hb]⟩
    · obtain ⟨rest, hr⟩ := ih ((List.mem_cons.1 h).resolve_left (Ne.symm hb))
      exact ⟨rest, by rw [List.dropWhile_cons_of_pos (by simpa using hb), hr]⟩

/-- A turned cycle starts at a name of the cycle that no other name of it is less than. -/
theorem head?_startAtLeast {cycle : List String} (h : cycle ≠ []) :
    ∃ least ∈ cycle, (startAtLeast cycle).head? = some least ∧ ∀ a ∈ cycle, least ≤ a := by
  obtain ⟨least, hl⟩ : ∃ least, (increasing cycle).head? = some least := by
    refine Option.ne_none_iff_exists'.1 fun hn => h ?_
    rw [List.head?_eq_none_iff] at hn
    exact List.nil_perm.1 (hn ▸ perm_increasing cycle)
  have hm : least ∈ cycle := mem_increasing.1 (List.mem_of_mem_head? hl)
  refine ⟨least, hm, ?_, fun a ha => le_of_head?_increasing hl ha⟩
  obtain ⟨rest, hr⟩ := exists_dropWhile_ne_eq_cons hm
  simp only [startAtLeast, hl, hr, List.cons_append, List.head?_cons]

theorem mem_arcs_startAtLeast {cycle : List String} (h : cycle ≠ []) (p : String × String) :
    p ∈ arcs (startAtLeast cycle) ↔ p ∈ arcs cycle := by
  obtain ⟨n, hn⟩ := exists_startAtLeast_eq_rotate h
  rw [hn, arcs_rotate, List.mem_rotate]

theorem mem_startAtLeast {cycle : List String} (h : cycle ≠ []) (a : String) :
    a ∈ startAtLeast cycle ↔ a ∈ cycle := by
  obtain ⟨n, hn⟩ := exists_startAtLeast_eq_rotate h
  rw [hn, List.mem_rotate]

theorem nodup_startAtLeast {cycle : List String} (h : cycle ≠ []) (hn : cycle.Nodup) :
    (startAtLeast cycle).Nodup := by
  obtain ⟨n, e⟩ := exists_startAtLeast_eq_rotate h
  rw [e]
  exact List.nodup_rotate.2 hn

/-- Of the turns of a list without repetitions only one has a given first element. -/
theorem eq_of_isRotated_of_head? {c d : List String} (hc : c.Nodup) (hr : c ~r d)
    (hh : c.head? = d.head?) : c = d := by
  obtain ⟨n, hn, rfl⟩ := List.isRotated_iff_mod.1 hr
  rw [List.rotate_eq_drop_append_take hn] at hh ⊢
  have e := List.take_append_drop n c
  cases hd : c.drop n with
  | nil => rw [List.nil_append, List.take_of_length_le (List.drop_eq_nil_iff.1 hd)]
  | cons a rest =>
    cases ht : c.take n with
    | nil => rw [List.append_nil, ← hd]; simpa [ht] using e.symm
    | cons b front =>
      -- The first element would stand in both parts.
      rw [hd, ht] at e hh
      rw [← e] at hc hh
      simp only [List.cons_append, List.head?_cons, Option.some.injEq] at hh
      simp [hh] at hc

/-! ### The cycle that a name of the trail closes -/

theorem closedCycle_ne_nil (trail : List String) (next : String) :
    Graph.closedCycle trail next ≠ [] := by simp [Graph.closedCycle]

/-- The cut-out cycle ends where the trail does. -/
theorem getLast?_closedCycle (name next : String) (trail : List String) :
    (Graph.closedCycle (name :: trail) next).getLast? = some name := by
  rw [Graph.closedCycle, List.getLast?_reverse]
  by_cases h : name = next
  · simp [h]
  · simp [h]

/-- The cut-out cycle is the trail from `next` on, turned round to run forwards. -/
theorem closedCycle_append {later : List String} {next : String} (h : next ∉ later)
    (earlier : List String) :
    Graph.closedCycle (later ++ next :: earlier) next = next :: later.reverse := by
  have hl : ∀ a ∈ later, decide (a ≠ next) = true := fun a ha => by
    simpa using fun e : a = next => h (e ▸ ha)
  rw [Graph.closedCycle, List.takeWhile_append_of_pos hl]
  simp

theorem exists_closedCycle_eq {trail : List String} {next : String} (h : next ∈ trail) :
    ∃ later earlier, trail = later ++ next :: earlier ∧
      Graph.closedCycle trail next = next :: later.reverse := by
  obtain ⟨later, earlier, rfl, hl⟩ := List.eq_append_cons_of_mem h
  exact ⟨later, earlier, rfl, closedCycle_append hl earlier⟩

end BeamLint
