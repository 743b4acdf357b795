import BeamLint.Proofs.Variable.CycleSearch
import Mathlib.Logic.Relation

/-!
# Which cycles are reported

A closed walk is a list of names whose arcs are all edges. Every reported cycle is a closed walk
without repetitions that starts at its least name, and no two of them are turns of each other. In
the other direction, every closed walk shares an arc with a reported cycle: all first paths to its
names enter it at the same name `v`, so the edge by which the walk returns to `v` leads back to the
first path to its origin, and closes a cycle there.
-/

namespace BeamLint.Graph

/-- A list of names that is not empty and, read round, goes along edges. -/
def IsClosedWalk (g : Graph) (walk : List String) : Prop :=
  walk ≠ [] ∧ ∀ u v, (u, v) ∈ arcs walk → g.Edge u v

namespace IsClosedWalk

variable {g : Graph} {walk : List String}

theorem rotate (h : g.IsClosedWalk walk) (n : ℕ) : g.IsClosedWalk (walk.rotate n) := by
  refine ⟨by simpa using h.1, fun u v huv => h.2 u v ?_⟩
  rwa [arcs_rotate, List.mem_rotate] at huv

/-- A closed walk may be begun at any of its names. -/
theorem exists_isChain_from (h : g.IsClosedWalk walk) {a : String} (ha : a ∈ walk) :
    ∃ rest, (∀ b, b ∈ walk ↔ b ∈ a :: rest) ∧ (a :: rest ++ [a]).IsChain g.Edge := by
  obtain ⟨before, after, rfl⟩ := List.append_of_mem ha
  have hr := h.rotate before.length
  rw [List.rotate_append_length_eq, List.cons_append] at hr
  refine ⟨after ++ before, fun b => ?_, (forall_arcs_iff_isChain a _).1 hr.2⟩
  simp only [List.mem_append, List.mem_cons]
  tauto

/-- Off a trail that does not meet a closed walk, the names of the walk reach each other. -/
theorem reaches (h : g.IsClosedWalk walk) {trail : List String} (ht : ∀ c ∈ walk, c ∉ trail)
    {a b : String} (ha : a ∈ walk) (hb : b ∈ walk) : g.Reaches trail a b := by
  obtain ⟨rest, hm, hc⟩ := h.exists_isChain_from ha
  have along : ∀ (l : List String) (c : String), (c :: l).IsChain g.Edge → g.declares c →
      (∀ d ∈ c :: l, d ∉ trail) → ∀ d ∈ c :: l, g.Reaches trail c d := by
    intro l
    induction l with
    | nil =>
      intro c _ hd ht d hdc
      obtain rfl := List.mem_singleton.1 hdc
      exact .here hd (ht d hdc)
    | cons e l ih =>
      intro c hc hd ht d hdc
      obtain ⟨he, hc⟩ := List.isChain_cons_cons.1 hc
      rcases List.mem_cons.1 hdc with rfl | hdc
      · exact .here hd (ht d List.mem_cons_self)
      · exact .step (ht c List.mem_cons_self) he
          (ih e hc he.2.1 (fun d hd => ht d (List.mem_cons_of_mem _ hd)) d hdc)
  have hda : g.declares a := by
    obtain ⟨u, hu⟩ := exists_arc_to ha
    exact (h.2 u a hu).2.1
  refine along (rest ++ [a]) a hc hda (fun d hd => ht d ?_) b ?_
  · rw [hm]
    simpa [or_comm, or_assoc] using hd
  · rw [hm] at hb
    exact List.mem_append_left [a] hb

theorem transGen (h : g.IsClosedWalk walk) {a : String} (ha : a ∈ walk) :
    Relation.TransGen g.Edge a a := by
  obtain ⟨rest, -, hc⟩ := h.exists_isChain_from ha
  cases hr : rest ++ [a] with
  | nil => simp at hr
  | cons b l =>
    rw [List.cons_append, hr, List.isChain_cons_cons] at hc
    refine Relation.TransGen.head' hc.1 ?_
    refine List.relationReflTransGen_of_exists_isChain_cons l hc.2 ?_
    simp only [← hr, List.getLast_append_singleton]

end IsClosedWalk

/-- A name from which a walk along edges returns lies on a closed walk. -/
theorem exists_isClosedWalk_of_transGen {g : Graph} {a : String}
    (h : Relation.TransGen g.Edge a a) : ∃ walk, g.IsClosedWalk walk ∧ a ∈ walk := by
  obtain ⟨b, hab, hba⟩ := Relation.TransGen.head'_iff.1 h
  obtain ⟨l, hc, hl⟩ := List.exists_isChain_cons_of_relationReflTransGen hba
  have hd : (b :: l).dropLast ++ [a] = b :: l := by
    rw [← hl, List.dropLast_append_getLast]
  refine ⟨a :: (b :: l).dropLast, ⟨by simp, ?_⟩, List.mem_cons_self⟩
  rw [forall_arcs_iff_isChain, List.cons_append, hd]
  exact List.isChain_cons_cons.2 ⟨hab, hc⟩

/-! ### What closes at a first path -/

theorem nodup_closedCycle {trail : List String} {v : String} (hn : trail.Nodup) (hv : v ∈ trail) :
    (closedCycle trail v).Nodup := by
  obtain ⟨later, earlier, rfl, hc⟩ := exists_closedCycle_eq hv
  have hn' : (later ++ [v]).Nodup :=
    hn.sublist (List.Sublist.append_left (by simp) later)
  rw [hc, show v :: later.reverse = (later ++ [v]).reverse by simp]
  exact List.nodup_reverse.2 hn'

theorem isClosedWalk_closedCycle {g : Graph} {u v : String} {trail : List String}
    (hp : (u :: trail).IsChain fun a b => g.Edge b a) (he : g.Edge u v) (hv : v ∈ u :: trail) :
    g.IsClosedWalk (closedCycle (u :: trail) v) := by
  refine ⟨closedCycle_ne_nil _ _, ?_⟩
  obtain ⟨later, earlier, ht, hc⟩ := exists_closedCycle_eq hv
  rw [hc, forall_arcs_iff_isChain]
  have hback : (v :: later.reverse).IsChain g.Edge := by
    rw [show v :: later.reverse = (later ++ [v]).reverse by simp, List.isChain_reverse]
    rw [ht, List.isChain_split] at hp
    exact hp.1
  -- The walk back along the trail ends at `u`, and the edge to `v` closes it.
  refine List.isChain_append.2 ⟨hback, List.isChain_singleton _, fun a ha b hb => ?_⟩
  rw [← hc, getLast?_closedCycle] at ha
  obtain rfl : u = a := by simpa using ha
  obtain rfl : v = b := by simpa using hb
  exact he

theorem mem_arcs_closedCycle {u v : String} {trail : List String} (hv : v ∈ u :: trail) :
    (u, v) ∈ arcs (closedCycle (u :: trail) v) := by
  have hl := getLast?_closedCycle u v trail
  obtain ⟨later, earlier, -, hc⟩ := exists_closedCycle_eq hv
  rw [hc] at hl ⊢
  exact mem_arcs_of_getLast? hl

/-! ### Every reported cycle is one -/

/-- A cycle in the form in which it is reported. -/
structure IsCanonicalCycle (g : Graph) (cycle : List String) : Prop where
  closedWalk : g.IsClosedWalk cycle
  nodup : cycle.Nodup
  least_first : ∃ least, cycle.head? = some least ∧ ∀ a ∈ cycle, least ≤ a

theorem ClosesAt.isCanonicalCycle {g : Graph} {u : String} {c : List String}
    (h : g.ClosesAt u c) : g.IsCanonicalCycle c := by
  obtain ⟨trail, v, hp, he, hv, rfl⟩ := h
  have hne := closedCycle_ne_nil (u :: trail) v
  have hw := isClosedWalk_closedCycle hp.isChain he hv
  refine ⟨?_, nodup_startAtLeast hne (nodup_closedCycle hp.nodup hv), ?_⟩
  · obtain ⟨n, hn⟩ := exists_startAtLeast_eq_rotate hne
    rw [hn]
    exact hw.rotate n
  · obtain ⟨least, -, hh, hl⟩ := head?_startAtLeast hne
    exact ⟨least, hh, fun a ha => hl a ((mem_startAtLeast hne a).1 ha)⟩

theorem isCanonicalCycle_of_mem_cycles {g : Graph} {c : List String} (h : c ∈ g.cycles) :
    g.IsCanonicalCycle c := by
  obtain ⟨u, hu⟩ := (g.mem_cycles_iff c).1 h
  exact hu.isCanonicalCycle

/-- The names of a cycle are declared. -/
theorem declares_of_mem_cycles {g : Graph} {c : List String} (h : c ∈ g.cycles) {name : String}
    (hn : name ∈ c) : g.declares name := by
  obtain ⟨u, hu⟩ := exists_arc_to hn
  exact ((isCanonicalCycle_of_mem_cycles h).closedWalk.2 u name hu).2.1

/-- Two canonical cycles that are turns of each other are the same. -/
theorem IsCanonicalCycle.eq_of_isRotated {g : Graph} {c d : List String}
    (hc : g.IsCanonicalCycle c) (hd : g.IsCanonicalCycle d) (hr : c ~r d) : c = d := by
  refine eq_of_isRotated_of_head? hc.nodup hr ?_
  obtain ⟨a, ha, hla⟩ := hc.least_first
  obtain ⟨b, hb, hlb⟩ := hd.least_first
  have hab : a ≤ b := hla b (hr.mem_iff.2 (List.mem_of_mem_head? hb))
  have hba : b ≤ a := hlb a (hr.mem_iff.1 (List.mem_of_mem_head? ha))
  rw [ha, hb, le_antisymm hab hba]

/-! ### Every closed walk is hit -/

/-- In a list that meets a set of names, the part from the last member of the set on. -/
theorem exists_last_of_mem {names : List String} (trail : List String)
    (h : ∃ w ∈ trail, w ∈ names) :
    ∃ v ∈ names, ∃ earlier, v :: earlier <:+ trail ∧ ∀ c ∈ names, c ∉ earlier := by
  induction trail with
  | nil => simp at h
  | cons a trail ih =>
    by_cases ht : ∃ w ∈ trail, w ∈ names
    · obtain ⟨v, hv, earlier, hs, he⟩ := ih ht
      exact ⟨v, hv, earlier, hs.trans (List.suffix_cons _ _), he⟩
    · push Not at ht
      obtain ⟨w, hw, hwn⟩ := h
      rcases List.mem_cons.1 hw with rfl | hw
      · exact ⟨w, hwn, trail, List.suffix_refl _, fun c hc hct => ht c hct hc⟩
      · exact absurd hwn (ht w hw)

/-- A closed walk has an arc that leads from a name back to the first path to it. -/
theorem IsClosedWalk.exists_back_arc {g : Graph} {walk : List String} (h : g.IsClosedWalk walk) :
    ∃ u v trail, (u, v) ∈ arcs walk ∧ g.FirstPath u (u :: trail) ∧ v ∈ u :: trail := by
  obtain ⟨w, hw⟩ := List.exists_mem_of_ne_nil walk h.1
  obtain ⟨trail, hp⟩ := exists_firstPath (h.reaches (by simp) hw hw : g.Reaches [] w w).declares_left
  -- The first path to `w` enters the walk at `v`, and so do the first paths to all its names.
  obtain ⟨v, hv, earlier, hs, he⟩ := exists_last_of_mem (w :: trail) ⟨w, List.mem_cons_self, hw⟩
  obtain ⟨u, huv⟩ := exists_arc_to hv
  have hu : g.FirstPath u (v :: earlier) :=
    (hp.of_suffix hs).congr hw (mem_of_mem_arcs huv).1 he
      fun t ht c hc d hd => h.reaches ht hc hd
  obtain ⟨rest, hr, hsr⟩ := hu.exists_complete
  exact ⟨u, v, rest, huv, hr, hsr.subset List.mem_cons_self⟩

theorem IsClosedWalk.exists_shared_arc {g : Graph} {walk : List String} (h : g.IsClosedWalk walk) :
    ∃ c ∈ g.cycles, ∃ p ∈ arcs c, p ∈ arcs walk := by
  obtain ⟨u, v, trail, huv, hp, hv⟩ := h.exists_back_arc
  refine ⟨_, (g.mem_cycles_iff _).2 ⟨u, trail, v, hp, h.2 u v huv, hv, rfl⟩, (u, v), ?_, huv⟩
  rw [mem_arcs_startAtLeast (closedCycle_ne_nil _ _)]
  exact mem_arcs_closedCycle hv

/-- **The reported cycles are cycles, and hit every closed walk.** Each of them is a closed walk
without repetitions that starts at its least name, none is a turn of another, and every closed walk
shares an arc with one of them. So nothing is reported exactly when no name can be left along edges
and reached again. -/
theorem cycles_sound_and_hitting (g : Graph) :
    (∀ c ∈ g.cycles, c ≠ [] ∧ c.Nodup ∧ (∀ u v, (u, v) ∈ arcs c → g.Edge u v) ∧
      ∃ least, c.head? = some least ∧ ∀ a ∈ c, least ≤ a) ∧
    g.cycles.Pairwise (fun c d => ¬ c ~r d) ∧
    (∀ walk, g.IsClosedWalk walk → ∃ c ∈ g.cycles, ∃ p ∈ arcs c, p ∈ arcs walk) ∧
    (g.cycles = [] ↔ ∀ name, ¬ Relation.TransGen g.Edge name name) := by
  refine ⟨fun c hc => ?_, ?_, fun walk h => h.exists_shared_arc, ?_⟩
  · have h := isCanonicalCycle_of_mem_cycles hc
    exact ⟨h.closedWalk.1, h.nodup, h.closedWalk.2, h.least_first⟩
  · refine g.nodup_cycles.imp_of_mem fun hc hd hne hr => hne ?_
    exact (isCanonicalCycle_of_mem_cycles hc).eq_of_isRotated (isCanonicalCycle_of_mem_cycles hd) hr
  · constructor
    · intro hnil name hname
      obtain ⟨walk, hw, -⟩ := exists_isClosedWalk_of_transGen hname
      obtain ⟨c, hc, -⟩ := hw.exists_shared_arc
      simp [hnil] at hc
    · intro hno
      refine List.eq_nil_iff_forall_not_mem.2 fun c hc => ?_
      have h := (isCanonicalCycle_of_mem_cycles hc).closedWalk
      obtain ⟨a, ha⟩ := List.exists_mem_of_ne_nil c h.1
      exact hno a (h.transGen ha)

end BeamLint.Graph
