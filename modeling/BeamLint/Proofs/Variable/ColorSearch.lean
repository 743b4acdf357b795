import BeamLint.Proofs.Variable.CycleSearch
import Mathlib

/-!
# The cycle search with colors and a stack

The cycles of a graph can be searched without recursion. Every declared name has a color: it is
white before it is met, gray while it is on the path, and black when it is left for good. The path
is kept beside a stack that holds, for every name of the path, the edges that are still to be looked
at.

Several operations of this search have no result on some states: the index of a name that is not on
the path, the least of no names, the last name of an empty path, the color of a name that has none.
In `ColorSearch.step` they fail. No state of a search makes them fail, since the gray names are
always those of the path and of the stack (`Consistent`); and the search finds the cycles that the
recursive search finds (`run_start`).
-/

namespace BeamLint

/-- How far the search is with a name. -/
inductive Color where
  | white
  | gray
  | black
  deriving Repr, DecidableEq

/-- An operation of the search that has no result. -/
inductive SearchFault where
  | notOnPath (name : String)
  | leastOfNone
  | emptyPath
  | uncolored (name : String)
  deriving Repr, DecidableEq

/-- A state of the search. -/
structure ColorSearch where
  /-- The colors of the declared names. -/
  colors : List (String × Color)
  /-- The path, in the order in which it was walked. -/
  path : List String
  /-- The names of the path with the edges that are left, the last name first. -/
  stack : List (String × List String)
  cycles : List (List String)
  /-- The names at which the search has yet to begin. -/
  roots : List String

namespace ColorSearch

/-- Gives a name another color. -/
def recolor (colors : List (String × Color)) (name : String) (color : Color) :
    List (String × Color) :=
  colors.map fun entry => if entry.1 = name then (name, color) else entry

/-- The index of a name on a path. -/
def indexOf (path : List String) (name : String) : Except SearchFault Nat :=
  if name ∈ path then .ok (path.idxOf name) else .error (.notOnPath name)

/-- The least of the names. -/
def leastOf (names : List String) : Except SearchFault String :=
  match names.min? with
  | some least => .ok least
  | none => .error .leastOfNone

/-- The cycle that `next` closes, started at its least name. -/
def closeCycle (path : List String) (next : String) : Except SearchFault (List String) := do
  let cycle := path.drop (← indexOf path next)
  let pivot ← indexOf cycle (← leastOf cycle)
  return cycle.drop pivot ++ cycle.take pivot

/-- One step, if there is one: looks at an edge of the last name of the path, leaves a name whose
edges have all been looked at, or begins at the next root. -/
def step (g : Graph) (s : ColorSearch) : Except SearchFault (Option ColorSearch) :=
  match s.stack, s.roots with
  | [], [] => .ok none
  | [], root :: roots =>
    match s.colors.lookup root with
    | some .white =>
      .ok <| some
        { s with
          colors := recolor s.colors root .gray
          path := [root]
          stack := [(root, g.edges root)]
          roots }
    | some _ => .ok (some { s with roots })
    | none => .error (.uncolored root)
  | (name, []) :: stack, _ =>
    if s.path = [] then .error .emptyPath
    else
      .ok (some { s with colors := recolor s.colors name .black, path := s.path.dropLast, stack })
  | (name, next :: edges) :: stack, _ =>
    let s := { s with stack := (name, edges) :: stack }
    match s.colors.lookup next with
    | some .gray => do
      let cycle ← closeCycle s.path next
      return some
        { s with cycles := if s.cycles.contains cycle then s.cycles else s.cycles ++ [cycle] }
    | some .white =>
      .ok <| some
        { s with
          colors := recolor s.colors next .gray
          path := s.path ++ [next]
          stack := (next, g.edges next) :: s.stack }
    | some .black | none => .ok (some s)

/-- What a step can do. -/
inductive Move (g : Graph) : ColorSearch → ColorSearch → Prop where
  /-- Passes over a root that has been met. -/
  | skipRoot {colors path cycles root roots color} (h : colors.lookup root = some color)
      (hw : color ≠ .white) : Move g ⟨colors, path, [], cycles, root :: roots⟩
        ⟨colors, path, [], cycles, roots⟩
  /-- Begins at a root. -/
  | start {colors path cycles root roots} (h : colors.lookup root = some .white) :
      Move g ⟨colors, path, [], cycles, root :: roots⟩
        ⟨recolor colors root .gray, [root], [(root, g.edges root)], cycles, roots⟩
  /-- Leaves a name for good. -/
  | leave {colors path name stack cycles roots} (h : path ≠ []) :
      Move g ⟨colors, path, (name, []) :: stack, cycles, roots⟩
        ⟨recolor colors name .black, path.dropLast, stack, cycles, roots⟩
  /-- Meets a name of the path. -/
  | close {colors path name next edges stack cycles roots cycle}
      (h : colors.lookup next = some .gray) (hc : closeCycle path next = .ok cycle) :
      Move g ⟨colors, path, (name, next :: edges) :: stack, cycles, roots⟩
        ⟨colors, path, (name, edges) :: stack,
          if cycle ∈ cycles then cycles else cycles ++ [cycle], roots⟩
  /-- Goes on to a name that is new. -/
  | descend {colors path name next edges stack cycles roots}
      (h : colors.lookup next = some .white) :
      Move g ⟨colors, path, (name, next :: edges) :: stack, cycles, roots⟩
        ⟨recolor colors next .gray, path ++ [next], (next, g.edges next) :: (name, edges) :: stack,
          cycles, roots⟩
  /-- Passes over a name that is not declared or has been left. -/
  | skip {colors path name next edges stack cycles roots}
      (h : colors.lookup next = none ∨ colors.lookup next = some .black) :
      Move g ⟨colors, path, (name, next :: edges) :: stack, cycles, roots⟩
        ⟨colors, path, (name, edges) :: stack, cycles, roots⟩

theorem move_of_step {g : Graph} {s s' : ColorSearch} (h : step g s = .ok (some s')) :
    Move g s s' := by
  obtain ⟨colors, path, stack, cycles, roots⟩ := s
  match stack with
  | [] =>
    cases roots with
    | nil => simp [step] at h
    | cons root roots =>
      cases hr : colors.lookup root with
      | none => simp [step, hr] at h
      | some color =>
        cases color with
        | white =>
          obtain rfl : _ = s' := by simpa [step, hr] using h
          exact .start hr
        | gray =>
          obtain rfl : _ = s' := by simpa [step, hr] using h
          exact .skipRoot hr (by decide)
        | black =>
          obtain rfl : _ = s' := by simpa [step, hr] using h
          exact .skipRoot hr (by decide)
  | (name, []) :: stack =>
    by_cases hp : path = []
    · simp [step, hp] at h
    · obtain rfl : _ = s' := by simpa [step, hp] using h
      exact .leave hp
  | (name, next :: edges) :: stack =>
    cases hn : colors.lookup next with
    | none =>
      obtain rfl : _ = s' := by simpa [step, hn] using h
      exact .skip (.inl hn)
    | some color =>
      cases color with
      | white =>
        obtain rfl : _ = s' := by simpa [step, hn] using h
        exact .descend hn
      | black =>
        obtain rfl : _ = s' := by simpa [step, hn] using h
        exact .skip (.inr hn)
      | gray =>
        cases hc : closeCycle path next with
        | error e => simp [step, hn, hc, bind, Except.bind] at h
        | ok cycle =>
          obtain rfl : _ = s' := by
            simpa [step, hn, hc, bind, Except.bind, pure, Except.pure] using h
          exact .close hn hc

theorem step_of_move {g : Graph} {s s' : ColorSearch} (h : Move g s s') :
    step g s = .ok (some s') := by
  cases h with
  | @skipRoot colors path cycles root roots color h hw =>
    cases color with
    | white => exact absurd rfl hw
    | gray => simp [step, h]
    | black => simp [step, h]
  | start h => simp [step, h]
  | leave h => simp [step, h]
  | close h hc => simp [step, h, hc, bind, Except.bind, pure, Except.pure]
  | descend h => simp [step, h]
  | skip h => rcases h with h | h <;> simp [step, h]

/-! ### The search ends -/

theorem lookup_recolor (colors : List (String × Color)) (name other : String) (color : Color) :
    (recolor colors name color).lookup other =
      if other = name then (colors.lookup other).map fun _ => color else colors.lookup other := by
  induction colors with
  | nil => simp [recolor]
  | cons entry colors ih =>
    obtain ⟨m, c⟩ := entry
    rw [recolor, List.map_cons] at *
    by_cases hm : m = name
    · by_cases ho : other = m
      · subst hm ho
        simp
      · have hb : (other == m) = false := beq_eq_false_iff_ne.2 ho
        have hb' : (other == name) = false := hm ▸ hb
        simp [hm, List.lookup_cons, hb', ih]
    · by_cases ho : other = m
      · subst ho
        simp [hm]
      · have hb : (other == m) = false := beq_eq_false_iff_ne.2 ho
        simp [hm, List.lookup_cons, hb, ih]

/-- The number of white names. -/
def whites (colors : List (String × Color)) : Nat := colors.countP fun entry => entry.2 = .white

/-- The edges and names that are left on the stack, and the roots. -/
def pending (s : ColorSearch) : Nat :=
  (s.stack.map fun entry => entry.2.length + 1).sum + s.roots.length

theorem whites_recolor_le (colors : List (String × Color)) (name : String) {color : Color}
    (h : color ≠ .white) : whites (recolor colors name color) ≤ whites colors := by
  rw [whites, whites, recolor, List.countP_map]
  refine List.countP_mono_left fun entry _ hw => ?_
  by_cases hn : entry.1 = name
  · simp [hn, h] at hw
  · simpa [hn] using hw

theorem whites_recolor_lt {colors : List (String × Color)} {name : String} {color : Color}
    (h : color ≠ .white) (hw : colors.lookup name = some .white) :
    whites (recolor colors name color) < whites colors := by
  induction colors with
  | nil => simp at hw
  | cons entry colors ih =>
    obtain ⟨m, c⟩ := entry
    have hle := whites_recolor_le colors name h
    simp only [whites, recolor, List.map_cons, List.countP_cons] at hle ih ⊢
    by_cases hm : m = name
    · obtain rfl : c = .white := by simpa [hm, List.lookup_cons] using hw
      simp only [hm, if_true, h, decide_true, decide_false, Bool.false_eq_true, if_false]
      omega
    · have hb : (name == m) = false := beq_eq_false_iff_ne.2 (Ne.symm hm)
      have := ih (by simpa [List.lookup_cons, hb] using hw)
      simp only [hm, if_false]
      omega

/-- A step makes a white name gray, or leaves less to do. -/
theorem Move.decreases {g : Graph} {s s' : ColorSearch} (h : Move g s s') :
    Prod.Lex (· < ·) (· < ·) (whites s'.colors, s'.pending) (whites s.colors, s.pending) := by
  cases h with
  | skipRoot h hw => exact .right _ (by simp [pending])
  | start h => exact .left _ _ (whites_recolor_lt (by decide) h)
  | @leave colors path name stack cycles roots h =>
    have hle : whites (recolor colors name .black) ≤ whites colors :=
      whites_recolor_le colors name (by decide)
    rcases hle.lt_or_eq with hlt | heq
    · exact .left _ _ hlt
    · rw [heq]
      exact .right _ (by simp [pending])
  | close h hc => exact .right _ (by simp [pending])
  | descend h => exact .left _ _ (whites_recolor_lt (by decide) h)
  | skip h => exact .right _ (by simp [pending])

/-- Takes steps to the end, and gives the cycles that were met. -/
def run (g : Graph) (s : ColorSearch) : Except SearchFault (List (List String)) :=
  match _h : step g s with
  | .error e => .error e
  | .ok none => .ok s.cycles
  | .ok (some s') => run g s'
termination_by (whites s.colors, s.pending)
decreasing_by exact (move_of_step _h).decreases

theorem run_of_move {g : Graph} {s s' : ColorSearch} (h : Move g s s') : run g s = run g s' := by
  have hstep := step_of_move h
  rw [run]
  split
  · next e he => simp [hstep] at he
  · next he => simp [hstep] at he
  · next t he =>
    obtain rfl : s' = t := by simpa [hstep] using he
    rfl

/-- Every declared name is white, and every one is a root. -/
def start (g : Graph) : ColorSearch := ⟨g.names.map (·, .white), [], [], [], g.names⟩

/-! ### No step fails -/

/-- The path holds the names of the stack, each once, and these are the gray ones. -/
structure Consistent (s : ColorSearch) : Prop where
  path_eq : s.path = (s.stack.map Prod.fst).reverse
  gray_iff : ∀ name, s.colors.lookup name = some .gray ↔ name ∈ s.path
  nodup : s.path.Nodup
  colored : ∀ root ∈ s.roots, (s.colors.lookup root).isSome

theorem isSome_lookup_recolor {colors : List (String × Color)} {name other : String} {color : Color}
    (h : (colors.lookup other).isSome) : ((recolor colors name color).lookup other).isSome := by
  rw [lookup_recolor]
  split_ifs
  · simpa using h
  · exact h

theorem lookup_white (names : List String) (name : String) :
    (names.map (·, Color.white)).lookup name = if name ∈ names then some .white else none := by
  induction names with
  | nil => rfl
  | cons m names ih =>
    rw [List.map_cons, List.lookup_cons, ih]
    by_cases h : name = m
    · simp [h]
    · have hb : (name == m) = false := beq_eq_false_iff_ne.2 h
      simp [hb, h]

theorem Consistent.start (g : Graph) : (start g).Consistent where
  path_eq := rfl
  gray_iff name := by
    simp only [ColorSearch.start, lookup_white, List.not_mem_nil, iff_false]
    split_ifs <;> simp
  nodup := List.nodup_nil
  colored root hr := by
    simp only [ColorSearch.start] at hr
    simp [ColorSearch.start, lookup_white, hr]

theorem Consistent.move {g : Graph} {s s' : ColorSearch} (hs : s.Consistent) (h : Move g s s') :
    s'.Consistent := by
  cases h with
  | skipRoot h hw =>
    exact ⟨hs.path_eq, hs.gray_iff, hs.nodup, fun root hr => hs.colored root (.tail _ hr)⟩
  | @start colors path cycles root roots h =>
    obtain rfl : path = [] := by simpa using hs.path_eq
    refine ⟨rfl, fun name => ?_, List.nodup_singleton _, fun r hr =>
      isSome_lookup_recolor (hs.colored r (.tail _ hr))⟩
    have hgray : colors.lookup name ≠ some .gray := fun hg => by simpa using (hs.gray_iff name).1 hg
    rw [lookup_recolor]
    split_ifs with hn
    · subst hn
      simp [h]
    · simpa [hn] using hgray
  | @leave colors path name stack cycles roots h =>
    have hpath : path = (stack.map Prod.fst).reverse ++ [name] := by simpa using hs.path_eq
    have hdrop : path.dropLast = (stack.map Prod.fst).reverse := by rw [hpath, List.dropLast_concat]
    have hn : (stack.map Prod.fst).reverse.Nodup ∧ name ∉ (stack.map Prod.fst).reverse := by
      have := hs.nodup
      dsimp only at this
      rw [hpath, List.nodup_append] at this
      exact ⟨this.1, fun hm => this.2.2 name hm name (by simp) rfl⟩
    refine ⟨hdrop, fun other => ?_, hdrop ▸ hn.1, fun r hr =>
      isSome_lookup_recolor (hs.colored r hr)⟩
    dsimp only
    rw [hdrop, lookup_recolor]
    split_ifs with ho
    · subst ho
      have hne : ((colors.lookup other).map fun _ => Color.black) ≠ some .gray := by
        cases colors.lookup other <;> simp
      exact iff_of_false hne hn.2
    · rw [hs.gray_iff other, hpath]
      simp [ho]
  | close h hc => exact ⟨by simpa using hs.path_eq, hs.gray_iff, hs.nodup, hs.colored⟩
  | @descend colors path name next edges stack cycles roots h =>
    have hnew : next ∉ path := fun hm => by
      have := (hs.gray_iff next).2 hm
      simp [h] at this
    refine ⟨?_, fun other => ?_, ?_, fun r hr => isSome_lookup_recolor (hs.colored r hr)⟩
    · have := hs.path_eq
      simp_all
    · dsimp only
      rw [lookup_recolor]
      split_ifs with ho
      · subst ho
        simp [h]
      · rw [hs.gray_iff other]
        simp [ho]
    · exact List.nodup_append.2 ⟨hs.nodup, List.nodup_singleton _, by
        rintro a ha b hb rfl
        exact hnew (List.mem_singleton.1 hb ▸ ha)⟩
  | skip h => exact ⟨by simpa using hs.path_eq, hs.gray_iff, hs.nodup, hs.colored⟩

theorem min?_eq_head?_increasing (names : List String) : names.min? = (increasing names).head? := by
  cases hm : names.min? with
  | none =>
    obtain rfl := List.min?_eq_none_iff.1 hm
    simp [increasing]
  | some least =>
    obtain ⟨hmem, hle⟩ := List.min?_eq_some_iff.1 hm
    have hne : increasing names ≠ [] := List.ne_nil_of_mem (mem_increasing.2 hmem)
    obtain ⟨first, rest, hi⟩ := List.exists_cons_of_ne_nil hne
    have hhead : (increasing names).head? = some first := by rw [hi]; rfl
    have hfirst : first ∈ names := mem_increasing.1 (hi ▸ List.mem_cons_self)
    rw [hhead, le_antisymm (hle first hfirst) (le_of_head?_increasing hhead hmem)]

theorem drop_idxOf (names : List String) (name : String) :
    names.drop (names.idxOf name) = names.dropWhile (· ≠ name) := by
  induction names with
  | nil => rfl
  | cons m names ih =>
    by_cases h : m = name
    · simp [h]
    · simp [h, List.idxOf_cons_ne, ih]

theorem take_idxOf (names : List String) (name : String) :
    names.take (names.idxOf name) = names.takeWhile (· ≠ name) := by
  induction names with
  | nil => rfl
  | cons m names ih =>
    by_cases h : m = name
    · simp [h]
    · simp [h, List.idxOf_cons_ne, ih]

/-- A name of the path closes the part of the path from it on. -/
theorem closeCycle_eq {path : List String} {next : String} (h : next ∈ path) :
    closeCycle path next = .ok (startAtLeast (path.dropWhile (· ≠ next))) := by
  have hindex : indexOf path next = .ok (path.idxOf next) := if_pos h
  obtain ⟨rest, hrest⟩ := exists_dropWhile_ne_eq_cons h
  have hne : increasing (path.dropWhile (· ≠ next)) ≠ [] :=
    List.ne_nil_of_mem (mem_increasing.2 (hrest ▸ List.mem_cons_self))
  obtain ⟨least, others, hi⟩ := List.exists_cons_of_ne_nil hne
  have hleast : leastOf (path.dropWhile (· ≠ next)) = .ok least := by
    rw [leastOf, min?_eq_head?_increasing, hi]
    rfl
  have hmem : least ∈ path.dropWhile (· ≠ next) := mem_increasing.1 (hi ▸ List.mem_cons_self)
  have hpivot : indexOf (path.dropWhile (· ≠ next)) least =
      .ok ((path.dropWhile (· ≠ next)).idxOf least) := if_pos hmem
  simp only [closeCycle, hindex, bind, Except.bind, drop_idxOf, hleast, hpivot, take_idxOf,
    pure, Except.pure, startAtLeast, hi, List.head?_cons]

/-- In a consistent state every operation has a result. -/
theorem Consistent.exists_step {s : ColorSearch} (hs : s.Consistent) (g : Graph) :
    ∃ next, step g s = .ok next := by
  obtain ⟨colors, path, stack, cycles, roots⟩ := s
  match stack with
  | [] =>
    cases roots with
    | nil => exact ⟨_, rfl⟩
    | cons root roots =>
      obtain ⟨color, hc⟩ := Option.isSome_iff_exists.1 (hs.colored root List.mem_cons_self)
      dsimp only at hc
      cases color <;> simp [step, hc]
  | (name, []) :: stack =>
    have hp : path ≠ [] := by
      have := hs.path_eq
      rintro rfl
      simp at this
    simp [step, hp]
  | (name, next :: edges) :: stack =>
    cases hn : colors.lookup next with
    | none => simp [step, hn]
    | some color =>
      cases color with
      | white => simp [step, hn]
      | black => simp [step, hn]
      | gray =>
        have hc := closeCycle_eq ((hs.gray_iff next).1 hn)
        simp [step, hn, hc, bind, Except.bind, pure, Except.pure]

/-- The states of a search of the graph. -/
def Reachable (g : Graph) : ColorSearch → Prop :=
  Relation.ReflTransGen (fun s s' => step g s = .ok (some s')) (ColorSearch.start g)

theorem Reachable.consistent {g : Graph} {s : ColorSearch} (h : Reachable g s) : s.Consistent := by
  induction h with
  | refl => exact .start g
  | tail _ h ih => exact ih.move (move_of_step h)

/-! ### The same cycles as the recursive search -/

/-- The colors tell the trail and the names that are left: gray on the trail, black when left. -/
def Shows (g : Graph) (trail done : List String) (colors : List (String × Color)) : Prop :=
  ∀ name, colors.lookup name =
    if g.declares name then
      some (if name ∈ trail then .gray else if name ∈ done then .black else .white)
    else none

namespace Shows

variable {g : Graph} {trail done : List String} {colors : List (String × Color)} {name : String}

theorem descend (h : Shows g trail done colors) (hd : g.declares name) :
    Shows g (name :: trail) done (recolor colors name .gray) := by
  intro other
  rw [lookup_recolor, h other]
  by_cases ho : other = name
  · simp [ho, hd]
  · simp [ho]

theorem leave (h : Shows g (name :: trail) done colors) (hd : g.declares name) (hn : name ∉ trail) :
    Shows g trail (name :: done) (recolor colors name .black) := by
  intro other
  rw [lookup_recolor, h other]
  by_cases ho : other = name
  · simp [ho, hd, hn]
  · simp [ho]

end Shows

theorem closeCycle_reverse {trail : List String} (hn : trail.Nodup) {next : String}
    (h : next ∈ trail) :
    closeCycle trail.reverse next = .ok (startAtLeast (Graph.closedCycle trail next)) := by
  obtain ⟨later, earlier, rfl, hc⟩ := exists_closedCycle_eq h
  have hnot : ∀ a ∈ earlier.reverse, decide (a ≠ next) = true := by
    intro a ha
    have hearlier : next ∉ earlier := (List.nodup_cons.1 (List.nodup_append.1 hn).2.1).1
    simpa using fun e : a = next => hearlier (e ▸ List.mem_reverse.1 ha)
  rw [closeCycle_eq (by simp), hc, List.reverse_append, List.reverse_cons, List.append_assoc,
    List.dropWhile_append_of_pos hnot]
  simp

section Simulation

variable {g : Graph} {depth : Nat} {trail : List String} {s : CycleSearch}
  {colors : List (String × Color)}

/-- The search comes to a state whose path is the trail and whose colors and cycles are those of the
recursive search in its state `s`. -/
def Follows (g : Graph) (state : ColorSearch) (trail : List String) (s : CycleSearch)
    (stack : List (String × List String)) (roots : List String) : Prop :=
  ∃ colors, Shows g trail s.done colors ∧
    run g state = run g ⟨colors, trail.reverse, stack, s.cycles, roots⟩

/-- A name that is new is searched as the recursive search does, and left. -/
def FollowsSearch (g : Graph) (depth : Nat) (trail : List String) : Prop :=
  ∀ (next : String) (s : CycleSearch) (colors : List (String × Color))
    (stack : List (String × List String)) (roots : List String), g.declares next → next ∉ trail →
    Shows g trail s.done colors →
    Follows g ⟨recolor colors next .gray, (next :: trail).reverse, (next, g.edges next) :: stack,
      s.cycles, roots⟩ trail (g.searchFrom depth (next :: trail) s) stack roots

/-- Looking at an edge does what a visit does, if the search from a new name does what the recursive
search does. -/
theorem follows_visit (hn : trail.Nodup) (hsearch : FollowsSearch g depth trail)
    (hcolors : Shows g trail s.done colors) (name next : String) (edges : List String)
    (stack : List (String × List String)) (roots : List String) :
    Follows g ⟨colors, trail.reverse, (name, next :: edges) :: stack, s.cycles, roots⟩ trail
      (g.visit depth trail s next) ((name, edges) :: stack) roots := by
  have hnext := hcolors next
  unfold Graph.visit
  by_cases hd : g.declares next = true
  case neg =>
    rw [if_pos (by simpa using hd)]
    exact ⟨colors, hcolors, run_of_move (.skip (.inl (by simp [hnext, hd])))⟩
  rw [if_neg (by simp [hd])]
  rw [if_pos hd] at hnext
  by_cases ht : next ∈ trail
  · rw [if_pos ht] at hnext ⊢
    refine ⟨colors, by rwa [CycleSearch.done_record], ?_⟩
    rw [run_of_move (.close hnext (closeCycle_reverse hn ht))]
    congr 2
    unfold CycleSearch.record
    dsimp only
    split_ifs <;> rfl
  rw [if_neg ht] at hnext ⊢
  by_cases hdone : next ∈ s.done
  · rw [if_pos hdone] at hnext ⊢
    exact ⟨colors, hcolors, run_of_move (.skip (.inr hnext))⟩
  · rw [if_neg hdone] at hnext ⊢
    obtain ⟨colors', hshows, hrun⟩ :=
      hsearch next s colors ((name, edges) :: stack) roots hd ht hcolors
    refine ⟨colors', hshows, ?_⟩
    rw [run_of_move (.descend hnext), ← hrun, List.reverse_cons]

theorem follows_foldl_visit (hn : trail.Nodup) (hsearch : FollowsSearch g depth trail)
    (hcolors : Shows g trail s.done colors) (name : String) (edges : List String)
    (stack : List (String × List String)) (roots : List String) :
    Follows g ⟨colors, trail.reverse, (name, edges) :: stack, s.cycles, roots⟩ trail
      (edges.foldl (g.visit depth trail) s) ((name, []) :: stack) roots := by
  induction edges generalizing s colors with
  | nil => exact ⟨colors, hcolors, rfl⟩
  | cons next edges ih =>
    obtain ⟨colors₁, hshows₁, hrun₁⟩ := follows_visit hn hsearch hcolors name next edges stack roots
    obtain ⟨colors₂, hshows₂, hrun₂⟩ := ih hshows₁
    exact ⟨colors₂, hshows₂, hrun₁.trans hrun₂⟩

/-- On a trail of declared names without repetition, with enough depth, every new name is searched
as the recursive search does. -/
theorem followsSearch (depth : Nat) (trail : List String) (hn : trail.Nodup)
    (hd : ∀ a ∈ trail, g.declares a) (hdepth : g.names.length ≤ depth + trail.length) :
    FollowsSearch g depth trail := by
  intro name s colors stack roots hname hnew hcolors
  have hn' : (name :: trail).Nodup := List.nodup_cons.2 ⟨hnew, hn⟩
  have hd' : ∀ a ∈ name :: trail, g.declares a := List.forall_mem_cons.2 ⟨hname, hd⟩
  induction depth generalizing name trail s stack roots colors with
  | zero =>
    -- The path holds declared names without repetition, so it cannot be that long.
    have hl := (List.subperm_of_subset hn' fun a ha => (g.mem_names_iff a).2 (hd' a ha)).length_le
    simp only [List.length_cons] at hl
    omega
  | succ depth ih =>
    have hsearch : FollowsSearch g depth (name :: trail) := by
      intro next s colors stack roots hnext hnew' hcolors'
      refine ih (name :: trail) hn' hd' ?_ next s colors stack roots hnext hnew' hcolors'
        (List.nodup_cons.2 ⟨hnew', hn'⟩) (List.forall_mem_cons.2 ⟨hnext, hd'⟩)
      rw [List.length_cons]
      omega
    obtain ⟨colors₁, hshows₁, hrun₁⟩ := follows_foldl_visit (s := s) hn' hsearch
      (hcolors.descend hname) name (g.edges name) stack roots
    rw [Graph.searchFrom_succ]
    refine ⟨_, hshows₁.leave hname hnew, ?_⟩
    rw [hrun₁, run_of_move (.leave (by simp))]
    simp

/-- The search from the roots on finds what the recursive search finds. -/
theorem run_roots (roots : List String) (hr : ∀ root ∈ roots, g.declares root)
    (hcolors : Shows g [] s.done colors) :
    run g ⟨colors, [], [], s.cycles, roots⟩ =
      .ok (roots.foldl (g.visit g.names.length []) s).cycles := by
  induction roots generalizing s colors with
  | nil =>
    rw [run]
    rfl
  | cons root roots ih =>
    obtain ⟨hroot, hr⟩ := List.forall_mem_cons.1 hr
    have hcolor := hcolors root
    rw [if_pos hroot, if_neg List.not_mem_nil] at hcolor
    rw [List.foldl_cons]
    by_cases hdone : root ∈ s.done
    · have hvisit : g.visit g.names.length [] s root = s := by simp [Graph.visit, hroot, hdone]
      rw [if_pos hdone] at hcolor
      rw [run_of_move (.skipRoot hcolor (by decide)), hvisit, ih hr hcolors]
    · have hvisit : g.visit g.names.length [] s root = g.searchFrom g.names.length [root] s := by
        simp [Graph.visit, hroot, hdone]
      rw [if_neg hdone] at hcolor
      obtain ⟨colors', hshows, hrun⟩ := followsSearch g.names.length [] List.nodup_nil (by simp)
        (by simp) root s colors [] roots hroot List.not_mem_nil hcolors
      rw [run_of_move (.start hcolor), hvisit, ← ih hr hshows]
      exact hrun

end Simulation

/-- The search with colors and a stack ends without a failure, with the cycles of the graph. -/
theorem run_start (g : Graph) : run g (start g) = .ok g.cycles := by
  rw [Graph.cycles_eq_foldl_visit]
  refine run_roots (s := {}) g.names (fun root => (g.mem_names_iff root).1) fun name => ?_
  rw [lookup_white]
  simp [g.mem_names_iff]

end ColorSearch

end BeamLint
