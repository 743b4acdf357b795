import BeamLint.Proofs.Variable.Arcs
import BeamLint.Proofs.Variable.FirstPath

/-!
# What the cycle search meets

The search leaves a name for good exactly when it has been at everything that can be reached from
it off the trail, and it searches every name once, with the first path to the name as its trail. So
the cycles of the graph are those that an edge from a name back to the first path to it closes
(`mem_cycles_iff`).

`Explored` says what a search from several names does to the state; one visit satisfies it
(`explored_visit`), and it composes (`Explored.append`).
-/

namespace BeamLint

theorem CycleSearch.mem_record {s : CycleSearch} {cycle c : List String} :
    c ∈ (s.record cycle).cycles ↔ c ∈ s.cycles ∨ c = startAtLeast cycle := by
  unfold record
  dsimp only
  split
  · next h => exact ⟨Or.inl, fun hc => hc.elim id fun e => e ▸ h⟩
  · simp

@[simp] theorem CycleSearch.done_record (s : CycleSearch) (cycle : List String) :
    (s.record cycle).done = s.done := by
  unfold record
  dsimp only
  split <;> rfl

theorem CycleSearch.nodup_record {s : CycleSearch} (h : s.cycles.Nodup) (cycle : List String) :
    (s.record cycle).cycles.Nodup := by
  unfold record
  dsimp only
  split
  · exact h
  · next hn => exact List.nodup_append.2 ⟨h, by simp, by rintro a ha b hb rfl; simp_all⟩

namespace Graph

/-- An edge from `u` back to the first path to `u` closes the cycle. -/
def ClosesAt (g : Graph) (u : String) (cycle : List String) : Prop :=
  ∃ trail v, g.FirstPath u (u :: trail) ∧ g.Edge u v ∧ v ∈ u :: trail ∧
    cycle = startAtLeast (closedCycle (u :: trail) v)

/-- Nothing leads out of the names but to the trail. -/
def Closed (g : Graph) (names trail : List String) : Prop :=
  ∀ a ∈ names, ∀ b, g.Edge a b → b ∈ names ∨ b ∈ trail

/-- The state `s'` is `s` after a search from the given names off the trail. -/
structure Explored (g : Graph) (trail names : List String) (s s' : CycleSearch) : Prop where
  /-- The names that are left for good are those that can be reached. -/
  done : ∀ u, u ∈ s'.done ↔ u ∈ s.done ∨ ∃ z ∈ names, g.Reaches trail z u
  /-- The cycles that are met are closed by one of the names on the trail, or further on. -/
  cycles : ∀ c, c ∈ s'.cycles ↔ c ∈ s.cycles ∨
    (∃ v ∈ names, v ∈ trail ∧ g.declares v ∧ c = startAtLeast (closedCycle trail v)) ∨
      ∃ u, u ∉ s.done ∧ (∃ z ∈ names, g.Reaches trail z u) ∧ g.ClosesAt u c
  nodup : s.cycles.Nodup → s'.cycles.Nodup

namespace Explored

variable {g : Graph} {trail as bs : List String} {s s₁ s₂ : CycleSearch}

/-- A search from names that reach nothing new and close nothing changes nothing. -/
theorem same (hr : ∀ z ∈ as, ∀ u, g.Reaches trail z u → u ∈ s.done)
    (hc : ∀ v ∈ as, v ∈ trail → ¬ g.declares v) : g.Explored trail as s s where
  done u := ⟨Or.inl, fun h => h.elim id fun ⟨z, hz, hu⟩ => hr z hz u hu⟩
  cycles c := by
    refine ⟨Or.inl, ?_⟩
    rintro (h | ⟨v, hv, ht, hd, -⟩ | ⟨u, hu, ⟨z, hz, hr'⟩, -⟩)
    · exact h
    · exact absurd hd (hc v hv ht)
    · exact absurd (hr z hz u hr') hu
  nodup h := h

theorem append (h₁ : g.Explored trail as s s₁) (h₂ : g.Explored trail bs s₁ s₂) :
    g.Explored trail (as ++ bs) s s₂ where
  done u := by
    rw [h₂.done, h₁.done]
    simp only [List.mem_append, or_and_right, exists_or, or_assoc]
  cycles c := by
    rw [h₂.cycles, h₁.cycles]
    constructor
    · rintro ((h | ⟨v, hv, h⟩ | ⟨u, hu, ⟨z, hz, hr⟩, h⟩) | ⟨v, hv, h⟩ | ⟨u, hu, ⟨z, hz, hr⟩, h⟩)
      · exact Or.inl h
      · exact Or.inr (Or.inl ⟨v, List.mem_append_left _ hv, h⟩)
      · exact Or.inr (Or.inr ⟨u, hu, ⟨z, List.mem_append_left _ hz, hr⟩, h⟩)
      · exact Or.inr (Or.inl ⟨v, List.mem_append_right _ hv, h⟩)
      · exact Or.inr (Or.inr ⟨u, fun hs => hu ((h₁.done u).2 (Or.inl hs)),
          ⟨z, List.mem_append_right _ hz, hr⟩, h⟩)
    · rintro (h | ⟨v, hv, h⟩ | ⟨u, hu, ⟨z, hz, hr⟩, h⟩)
      · exact Or.inl (Or.inl h)
      · rcases List.mem_append.1 hv with hv | hv
        · exact Or.inl (Or.inr (Or.inl ⟨v, hv, h⟩))
        · exact Or.inr (Or.inl ⟨v, hv, h⟩)
      · -- What the first search has been at is met there, whoever reaches it later.
        by_cases hu' : u ∈ s₁.done
        · exact Or.inl (Or.inr (Or.inr ⟨u, hu, ((h₁.done u).1 hu').resolve_left hu, h⟩))
        · refine Or.inr (Or.inr ⟨u, hu', ⟨z, ?_, hr⟩, h⟩)
          exact (List.mem_append.1 hz).resolve_left fun hz => hu' ((h₁.done u).2 (Or.inr ⟨z, hz, hr⟩))
  nodup h := h₂.nodup (h₁.nodup h)

theorem closed (h : g.Explored trail as s s₁) (hc : g.Closed s.done trail) :
    g.Closed s₁.done trail := by
  intro a ha b he
  rcases (h.done a).1 ha with ha | ⟨z, hz, hr⟩
  · exact (hc a ha b he).imp_left fun hb => (h.done b).2 (Or.inl hb)
  · by_cases hb : b ∈ trail
    · exact Or.inr hb
    · exact Or.inl ((h.done b).2 (Or.inr ⟨z, hz, hr.tail he hb⟩))

end Explored

/-- What the search does with one of the names at which it may go on. -/
def visit (g : Graph) (depth : Nat) (trail : List String) (s : CycleSearch) (next : String) :
    CycleSearch :=
  if !g.declares next then s
  else if next ∈ trail then s.record (closedCycle trail next)
  else if next ∈ s.done then s
  else g.searchFrom depth (next :: trail) s

theorem searchFrom_succ (g : Graph) (depth : Nat) (name : String) (trail : List String)
    (s : CycleSearch) :
    g.searchFrom (depth + 1) (name :: trail) s =
      { (g.edges name).foldl (g.visit depth (name :: trail)) s with
        done := name :: ((g.edges name).foldl (g.visit depth (name :: trail)) s).done } := by
  rw [searchFrom]
  rfl

/-! ### One visit, and all visits of a name -/

/-- What a search off a trail of one name less asks for: enough depth, a name that is new, and that
what is new beyond it is first met through it. -/
structure Entry (g : Graph) (depth : Nat) (name : String) (trail : List String) (s : CycleSearch) :
    Prop where
  depth_le : g.names.length ≤ depth + trail.length
  declared : g.declares name
  fresh : name ∉ s.done
  off : name ∉ trail
  closed : g.Closed s.done trail
  first : ∀ u, u ∉ s.done → g.Reaches trail name u → g.FirstPath u (name :: trail)

theorem Entry.firstPath {g : Graph} {depth : Nat} {name : String} {trail : List String}
    {s : CycleSearch} (h : g.Entry depth name trail s) : g.FirstPath name (name :: trail) :=
  h.first name h.fresh (.here h.declared h.off)

section Visits

variable {g : Graph} {depth : Nat} {trail all : List String} {s : CycleSearch}

/-- A visit explores what is reached from the visited name, if a search does. Names before it in the
list have been visited, so what is still new is first reached through it. -/
theorem explored_visit
    (hsearch : ∀ name s, g.Entry depth name trail s →
      g.Explored trail [name] s (g.searchFrom depth (name :: trail) s))
    (hdepth : g.names.length ≤ depth + trail.length) (hclosed : g.Closed s.done trail)
    (hfirst : ∀ u, u ∉ s.done → ∀ y, g.firstReaching trail u all = some y →
      g.FirstPath u (y :: trail))
    {before after : List String} {next : String} (hall : all = before ++ next :: after)
    {s₁ : CycleSearch} (h₁ : g.Explored trail before s s₁) :
    g.Explored trail [next] s₁ (g.visit depth trail s₁ next) := by
  unfold visit
  by_cases hd : g.declares next = true
  case neg =>
    rw [if_pos (by simpa using hd)]
    refine Explored.same ?_ ?_
    · rintro z hz u hr
      rw [List.mem_singleton.1 hz] at hr
      exact absurd hr.declares_left hd
    · rintro v hv - hdv
      exact hd (List.mem_singleton.1 hv ▸ hdv)
  rw [if_neg (by simp [hd])]
  by_cases ht : next ∈ trail
  · rw [if_pos ht]
    refine ⟨fun u => ?_, fun c => ?_, fun hn => CycleSearch.nodup_record hn _⟩
    · have hno : ∀ u, ¬ g.Reaches trail next u := fun u hr => hr.notMem_left ht
      simp [hno]
    · have hno : ∀ u, ¬ g.Reaches trail next u := fun u hr => hr.notMem_left ht
      simp [CycleSearch.mem_record, hno, ht, hd]
  rw [if_neg ht]
  by_cases hdone : next ∈ s₁.done
  · rw [if_pos hdone]
    refine Explored.same ?_ ?_
    · rintro z hz u hr
      rw [List.mem_singleton.1 hz] at hr
      exact hr.mem_of_closed hdone (h₁.closed hclosed)
    · rintro v hv hvt
      exact absurd (List.mem_singleton.1 hv ▸ hvt) ht
  rw [if_neg hdone]
  refine hsearch next s₁ ⟨hdepth, hd, hdone, ht, h₁.closed hclosed, fun u hu hr => ?_⟩
  refine hfirst u (fun hs => hu ((h₁.done u).2 (Or.inl hs))) next ?_
  exact firstReaching_eq_some_iff.2 ⟨hr, before, after, hall,
    fun z hz hz' => hu ((h₁.done u).2 (Or.inr ⟨z, hz, hz'⟩))⟩

theorem explored_foldl_visit
    (hsearch : ∀ name s, g.Entry depth name trail s →
      g.Explored trail [name] s (g.searchFrom depth (name :: trail) s))
    (hdepth : g.names.length ≤ depth + trail.length) (hclosed : g.Closed s.done trail)
    (hfirst : ∀ u, u ∉ s.done → ∀ y, g.firstReaching trail u all = some y →
      g.FirstPath u (y :: trail)) :
    g.Explored trail all s (all.foldl (g.visit depth trail) s) := by
  have run : ∀ (after before : List String) (s₁ : CycleSearch), all = before ++ after →
      g.Explored trail before s s₁ → g.Explored trail all s (after.foldl (g.visit depth trail) s₁) := by
    intro after
    induction after with
    | nil =>
      intro before s₁ hall h₁
      simpa [hall] using h₁
    | cons next after ih =>
      intro before s₁ hall h₁
      have hv := explored_visit hsearch hdepth hclosed hfirst hall h₁
      exact ih (before ++ [next]) _ (by simp [hall]) (h₁.append hv)
  exact run all [] s rfl (Explored.same (by simp) (by simp))

end Visits

/-- A search from a name explores what is reached from it. -/
theorem explored_searchFrom (g : Graph) (depth : Nat) (name : String) (trail : List String)
    (s : CycleSearch) (h : g.Entry depth name trail s) :
    g.Explored trail [name] s (g.searchFrom depth (name :: trail) s) := by
  induction depth generalizing name trail s with
  | zero =>
    -- The trail holds declared names without repetition, so it cannot be that long.
    have hl := h.firstPath.length_le
    have := h.depth_le
    simp at hl
    omega
  | succ depth ih =>
    rw [searchFrom_succ]
    have hdepth : g.names.length ≤ depth + (name :: trail).length := by
      have := h.depth_le
      simp
      omega
    have hreach : ∀ u, g.Reaches trail name u ↔
        u = name ∨ ∃ z ∈ g.edges name, g.Reaches (name :: trail) z u :=
      fun u => Reaches.iff_of_notMem h.declared h.off
    have hfold : g.Explored (name :: trail) (g.edges name) s _ := explored_foldl_visit
      (fun next s' => ih next (name :: trail) s') hdepth
      (fun a ha b he => (h.closed a ha b he).imp_right (List.mem_cons_of_mem _))
      (fun u hu y hy => by
        obtain ⟨hr, before, after, he, -⟩ := firstReaching_eq_some_iff.1 hy
        have hn := (hreach u).2 (Or.inr ⟨y, by simp [he], hr⟩)
        exact .step (h.first u hu hn) hy)
    refine ⟨fun u => ?_, fun c => ?_, fun hn => hfold.nodup hn⟩
    · simp only [List.mem_cons, List.not_mem_nil, or_false, exists_eq_left, hfold.done, hreach]
      tauto
    · rw [hfold.cycles]
      simp only [List.mem_cons, List.not_mem_nil, or_false, exists_eq_left]
      constructor
      · rintro (hc | ⟨v, hv, ht, hd, rfl⟩ | ⟨u, hu, hz, hc⟩)
        · exact Or.inl hc
        · refine Or.inr (Or.inr ⟨name, h.fresh, .here h.declared h.off, trail, v, h.firstPath, ?_⟩)
          exact ⟨⟨h.declared, hd, hv⟩, by simpa using ht, rfl⟩
        · exact Or.inr (Or.inr ⟨u, hu, (hreach u).2 (Or.inr hz), hc⟩)
      · rintro (hc | ⟨ht, -⟩ | ⟨u, hu, hr, hc⟩)
        · exact Or.inl hc
        · exact absurd ht h.off
        · rcases (hreach u).1 hr with rfl | hz
          · obtain ⟨trail', v, hp, he, hv, rfl⟩ := hc
            obtain rfl := h.firstPath.eq_of_head hp
            exact Or.inr (Or.inl ⟨v, he.2.2, by simpa using hv, he.2.1, rfl⟩)
          · exact Or.inr (Or.inr ⟨u, hu, hz, hc⟩)

/-! ### The cycles of a graph -/

theorem explored_cycles (g : Graph) :
    g.Explored [] g.names {} (g.names.foldl (g.visit g.names.length []) {}) :=
  explored_foldl_visit (fun name s h => g.explored_searchFrom _ name [] s h) (by simp)
    (by simp [Closed]) (fun _ _ _ hy => .root hy)

theorem cycles_eq_foldl_visit (g : Graph) :
    g.cycles = (g.names.foldl (g.visit g.names.length []) ({} : CycleSearch)).cycles := by
  show CycleSearch.cycles (g.names.foldl _ _) = _
  congr 1
  refine List.foldl_ext _ _ _ fun s root hr => ?_
  simp [visit, (g.mem_names_iff root).1 hr]

/-- The cycles of the graph are those that an edge back to a first path closes. -/
theorem mem_cycles_iff (g : Graph) (c : List String) : c ∈ g.cycles ↔ ∃ u, g.ClosesAt u c := by
  rw [cycles_eq_foldl_visit, g.explored_cycles.cycles]
  constructor
  · rintro (h | ⟨v, -, h, -⟩ | ⟨u, -, -, h⟩)
    · simp at h
    · simp at h
    · exact ⟨u, h⟩
  · rintro ⟨u, h⟩
    have hd : g.declares u := by
      obtain ⟨trail, v, hp, -⟩ := h
      exact hp.reaches.declares_left
    exact Or.inr (Or.inr ⟨u, by simp, ⟨u, (g.mem_names_iff u).2 hd, .here hd (by simp)⟩, h⟩)

theorem nodup_cycles (g : Graph) : g.cycles.Nodup := by
  rw [cycles_eq_foldl_visit]
  exact g.explored_cycles.nodup List.nodup_nil

end Graph

end BeamLint
