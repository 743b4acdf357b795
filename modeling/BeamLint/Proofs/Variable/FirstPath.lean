import BeamLint.Proofs.Order
import BeamLint.Variable.Graph
import Mathlib.Data.List.Chain
import Mathlib.Data.List.Perm.Subperm

/-!
# First paths of the variable graph

Among the paths without repetitions that lead to a name there is a first one: it begins at the
first of the names, in increasing order, from which the name can be reached at all, and goes on, at
each of its names, to the first fallback from which the name can still be reached without meeting
the path again.

* `Graph.Edge`: one declared name falls back to another;
* `Graph.Reaches`: a name can be reached from another one off a trail;
* `Graph.FirstPath`: the beginnings of the first path to a name, the last name first. The whole
  path is the one that ends in the name.

The first path to a name is unique. On a closed walk, the first paths to all of its names enter the
walk at the same name.
-/

namespace BeamLint.Graph

/-- One declared name falls back to another. -/
def Edge (g : Graph) (u v : String) : Prop := g.declares u ∧ g.declares v ∧ v ∈ g.edges u

theorem mem_names_iff (g : Graph) (name : String) : name ∈ g.names ↔ g.declares name := by
  rw [names, mem_increasing, mem_declared_iff]

theorem nodup_declared (g : Graph) : g.declared.Nodup := by
  simpa [declared] using nodup_map_firsts id (g.declarations.map (·.name))

theorem nodup_names (g : Graph) : g.names.Nodup := (perm_increasing _).nodup_iff.2 g.nodup_declared

/-! ### Reaching a name off a trail -/

/-- A name can be reached through declared names that are not on the trail. -/
inductive Reaches (g : Graph) (trail : List String) : String → String → Prop where
  | here {u : String} (hd : g.declares u) (ht : u ∉ trail) : Reaches g trail u u
  | step {v w u : String} (ht : v ∉ trail) (he : g.Edge v w) (hr : Reaches g trail w u) :
      Reaches g trail v u

namespace Reaches

variable {g : Graph} {trail : List String} {u v w x : String}

theorem declares_left (h : g.Reaches trail v u) : g.declares v := by
  cases h with
  | here hd _ => exact hd
  | step _ he _ => exact he.1

theorem notMem_left (h : g.Reaches trail v u) : v ∉ trail := by
  cases h with
  | here _ ht => exact ht
  | step ht _ _ => exact ht

theorem notMem_right (h : g.Reaches trail v u) : u ∉ trail := by
  induction h with
  | here _ ht => exact ht
  | step _ _ _ ih => exact ih

theorem trans (h : g.Reaches trail v w) (h' : g.Reaches trail w u) : g.Reaches trail v u := by
  induction h with
  | here _ _ => exact h'
  | step ht he _ ih => exact .step ht he (ih h')

theorem tail (h : g.Reaches trail v w) (he : g.Edge w u) (hu : u ∉ trail) :
    g.Reaches trail v u :=
  h.trans (.step h.notMem_right he (.here he.2.1 hu))

theorem of_cons (h : g.Reaches (x :: trail) v u) : g.Reaches trail v u := by
  induction h with
  | here hd ht => exact .here hd fun hm => ht (List.mem_cons_of_mem _ hm)
  | step ht he _ ih => exact .step (fun hm => ht (List.mem_cons_of_mem _ hm)) he ih

/-- A path to a name other than `x` either avoids `x`, or leaves it once and for all. -/
theorem avoid (h : g.Reaches trail v u) (hx : u ≠ x) :
    g.Reaches (x :: trail) v u ∨ ∃ z, g.Edge x z ∧ g.Reaches (x :: trail) z u := by
  induction h with
  | here hd ht => exact Or.inl (.here hd (by simp [hx, ht]))
  | @step v w u ht he _ ih =>
    rcases ih hx with hw | hz
    · by_cases hv : v = x
      · exact Or.inr ⟨w, hv ▸ he, hw⟩
      · exact Or.inl (.step (by simp [hv, ht]) he hw)
    · exact Or.inr hz

/-- From a name itself one gets to it, or on to what its fallbacks reach off the longer trail. -/
theorem iff_of_notMem (hd : g.declares x) (hx : x ∉ trail) :
    g.Reaches trail x u ↔ u = x ∨ ∃ z ∈ g.edges x, g.Reaches (x :: trail) z u := by
  constructor
  · intro h
    by_cases hu : u = x
    · exact Or.inl hu
    · rcases h.avoid hu with hxx | ⟨z, he, hz⟩
      · exact absurd List.mem_cons_self hxx.notMem_left
      · exact Or.inr ⟨z, he.2.2, hz⟩
  · rintro (rfl | ⟨z, hz, hr⟩)
    · exact .here hd hx
    · exact .step hx ⟨hd, hr.declares_left, hz⟩ hr.of_cons

/-- A set of names that is closed up to the trail holds all that is reached from it. -/
theorem mem_of_closed {done : List String} (h : g.Reaches trail v u) (hv : v ∈ done)
    (hc : ∀ a ∈ done, ∀ b, g.Edge a b → b ∈ done ∨ b ∈ trail) : u ∈ done := by
  induction h with
  | here _ _ => exact hv
  | step _ he hr ih => exact ih ((hc _ hv _ he).resolve_right hr.notMem_left)

end Reaches

/-! ### The first path to a name -/

open Classical in
/-- The first of the names from which `target` can be reached off the trail. -/
noncomputable def firstReaching (g : Graph) (trail : List String) (target : String)
    (names : List String) : Option String :=
  names.find? fun z => decide (g.Reaches trail z target)

theorem firstReaching_eq_some_iff {g : Graph} {trail names : List String} {target y : String} :
    g.firstReaching trail target names = some y ↔
      g.Reaches trail y target ∧
        ∃ before after, names = before ++ y :: after ∧ ∀ z ∈ before, ¬ g.Reaches trail z target := by
  simp [firstReaching, List.find?_eq_some_iff_append]

theorem firstReaching_congr {g : Graph} {trail names : List String} {a b : String}
    (h : ∀ z, g.Reaches trail z a ↔ g.Reaches trail z b) :
    g.firstReaching trail a names = g.firstReaching trail b names := by
  unfold firstReaching
  congr 1
  funext z
  exact decide_eq_decide.2 (h z)

theorem exists_firstReaching {g : Graph} {trail names : List String} {target z : String}
    (hz : z ∈ names) (h : g.Reaches trail z target) :
    ∃ y, g.firstReaching trail target names = some y := by
  unfold firstReaching
  rw [← Option.isSome_iff_exists, List.find?_isSome]
  exact ⟨z, hz, by simpa using h⟩

/-- The beginnings of the first path to `target`, the last name first. -/
inductive FirstPath (g : Graph) (target : String) : List String → Prop where
  | root {r : String} (h : g.firstReaching [] target g.names = some r) : FirstPath g target [r]
  | step {x y : String} {trail : List String} (hp : FirstPath g target (x :: trail))
      (h : g.firstReaching (x :: trail) target (g.edges x) = some y) :
      FirstPath g target (y :: x :: trail)

namespace FirstPath

variable {g : Graph} {target x y : String} {trail trail' : List String}

theorem reaches (h : g.FirstPath target (x :: trail)) : g.Reaches trail x target := by
  cases h with
  | root h => exact (firstReaching_eq_some_iff.1 h).1
  | step _ h => exact (firstReaching_eq_some_iff.1 h).1

theorem nodup (h : g.FirstPath target trail) : trail.Nodup := by
  induction h with
  | root _ => exact List.nodup_singleton _
  | step hp h ih => exact List.nodup_cons.2 ⟨(FirstPath.step hp h).reaches.notMem_left, ih⟩

theorem declares (h : g.FirstPath target trail) : ∀ a ∈ trail, g.declares a := by
  induction h with
  | root h => simpa using (FirstPath.root h).reaches.declares_left
  | step hp h ih =>
    intro a ha
    rcases List.mem_cons.1 ha with rfl | ha
    · exact (FirstPath.step hp h).reaches.declares_left
    · exact ih a ha

theorem length_le (h : g.FirstPath target trail) : trail.length ≤ g.names.length :=
  (List.subperm_of_subset h.nodup fun a ha => (g.mem_names_iff a).2 (h.declares a ha)).length_le

/-- Read from its end, a first path goes against the edges. -/
theorem isChain (h : g.FirstPath target trail) : trail.IsChain fun a b => g.Edge b a := by
  induction h with
  | root _ => exact List.isChain_singleton _
  | @step x y trail hp h ih =>
    obtain ⟨hr, before, after, he, -⟩ := firstReaching_eq_some_iff.1 h
    refine List.isChain_cons_cons.2 ⟨⟨hp.reaches.declares_left, hr.declares_left, ?_⟩, ih⟩
    rw [he]
    exact List.mem_append_right _ List.mem_cons_self

theorem of_suffix (h : g.FirstPath target trail) (hs : x :: trail' <:+ trail) :
    g.FirstPath target (x :: trail') := by
  induction h with
  | root h =>
    obtain ⟨rfl, rfl⟩ : x = _ ∧ trail' = [] := by
      simpa using (List.suffix_cons_iff.1 hs).resolve_right (by simp)
    exact .root h
  | step hp h ih =>
    rcases List.suffix_cons_iff.1 hs with e | hs
    · rw [e]; exact .step hp h
    · exact ih hs

/-- Of two beginnings of the first path to a name, one goes on where the other ends. -/
theorem suffix_or_suffix (h : g.FirstPath target trail) (h' : g.FirstPath target trail') :
    trail <:+ trail' ∨ trail' <:+ trail := by
  induction h with
  | @root r h =>
    -- Both begin at the same name.
    left
    induction h' with
    | root h' =>
      rw [h] at h'
      cases h'
      exact List.suffix_refl _
    | step _ _ ih => exact ih.trans (List.suffix_cons _ _)
  | @step x y trail hp h ih =>
    rcases ih with ⟨later, rfl⟩ | hs
    · -- The longer one leaves the shorter one by the same fallback, if it leaves it.
      rcases List.eq_nil_or_concat later with rfl | ⟨later, z, rfl⟩
      · exact Or.inr (List.suffix_cons _ _)
      · left
        have hz : g.FirstPath target (z :: x :: trail) := h'.of_suffix ⟨later, by simp⟩
        cases hz with
        | step _ hz =>
          rw [h] at hz
          cases hz
          exact ⟨later, by simp⟩
    · exact Or.inr (hs.trans (List.suffix_cons _ _))

/-- The first path to a name is unique. -/
theorem eq_of_head (h : g.FirstPath target (target :: trail))
    (h' : g.FirstPath target (target :: trail')) : trail = trail' := by
  have key : ∀ {t t' : List String}, g.FirstPath target (target :: t') →
      target :: t <:+ target :: t' → t = t' := by
    intro t t' hp hs
    rcases List.suffix_cons_iff.1 hs with e | hs
    · exact (List.cons.inj e).2
    · exact absurd (hs.subset List.mem_cons_self) (List.nodup_cons.1 hp.nodup).1
  rcases h.suffix_or_suffix h' with hs | hs
  · exact key h' hs
  · exact (key h hs).symm

/-- Every beginning goes on to the whole path. -/
theorem exists_complete (h : g.FirstPath target (x :: trail)) :
    ∃ rest, g.FirstPath target (target :: rest) ∧ x :: trail <:+ target :: rest := by
  -- A beginning that is no longer extended would run through more names than there are.
  induction hn : g.names.length - trail.length using Nat.strong_induction_on
    generalizing x trail with
  | _ n ih =>
    by_cases hx : target = x
    · subst hx
      exact ⟨trail, h, List.suffix_refl _⟩
    · rcases h.reaches.avoid hx with hr | ⟨z, he, hz⟩
      · exact absurd List.mem_cons_self hr.notMem_left
      · obtain ⟨y, hy⟩ := exists_firstReaching he.2.2 hz
        have hlt : g.names.length - (x :: trail).length < n := by
          have := h.length_le
          rw [← hn]
          simp only [List.length_cons] at this ⊢
          omega
        obtain ⟨rest, hp, hs⟩ := ih _ hlt (h.step hy) rfl
        exact ⟨rest, hp, (List.suffix_cons _ _).trans hs⟩

/-- Where the trail has not met a set of names that reach each other off it, it is a beginning of
the first paths to all of them, or of none. -/
theorem congr {names : List String} {a b : String} (h : g.FirstPath a trail) (ha : a ∈ names)
    (hb : b ∈ names) (ht : ∀ c ∈ names, c ∉ trail.tail)
    (hn : ∀ t : List String, (∀ c ∈ names, c ∉ t) → ∀ c ∈ names, ∀ d ∈ names, g.Reaches t c d) :
    g.FirstPath b trail := by
  have iff_of : ∀ t : List String, (∀ c ∈ names, c ∉ t) → ∀ z, g.Reaches t z a ↔ g.Reaches t z b :=
    fun t ht z => ⟨fun hz => hz.trans (hn t ht a ha b hb), fun hz => hz.trans (hn t ht b hb a ha)⟩
  induction h with
  | root h => exact .root (by rw [← h, firstReaching_congr (iff_of [] (by simp))])
  | @step x y trail _ h ih =>
    refine .step (ih fun c hc hm => ht c hc (List.mem_of_mem_tail hm)) ?_
    rw [← h, firstReaching_congr (iff_of (x :: trail) ht)]

end FirstPath

theorem exists_firstPath {g : Graph} {u : String} (h : g.declares u) :
    ∃ trail, g.FirstPath u (u :: trail) := by
  have hu : g.Reaches [] u u := .here h List.not_mem_nil
  obtain ⟨r, hr⟩ := exists_firstReaching ((g.mem_names_iff u).2 h) hu
  obtain ⟨trail, hp, -⟩ := (FirstPath.root hr).exists_complete
  exact ⟨trail, hp⟩

end BeamLint.Graph
