import BeamLint.Proofs.Variable.FirstPath

/-!
# What a builder gives after any calls

A builder is used by calls, each of which merges contributions or freezes. A merge is refused from
the first freeze on and then changes nothing, so every freeze gives the graph of what was merged
before the first one (`GraphBuilder.run_eq`), one contribution after the other.

A graph keeps its declarations in one list. Filing them one by one under their names, in a table
whose entries stand in the order in which they were opened, gives the same declared names and for
each of them the same declarations (`Graph.table_eq`).
-/

namespace BeamLint

/-! ### Calls -/

/-- A call on a builder. -/
inductive BuilderCall where
  | merge (declarations : List Declaration) (usages : List Usage)
  | freeze
  deriving Repr, DecidableEq

/-- What a call answers. -/
inductive BuilderAnswer where
  | merged
  | refused (e : FrozenError)
  | graph (g : Graph)
  deriving Repr, DecidableEq

namespace BuilderCall

/-- Whether the call merges. -/
def isMerge : BuilderCall → Bool
  | merge _ _ => true
  | freeze => false

/-- The declarations that the call hands over. -/
def declarations : BuilderCall → List Declaration
  | merge ds _ => ds
  | freeze => []

/-- The uses that the call hands over. -/
def usages : BuilderCall → List Usage
  | merge _ us => us
  | freeze => []

/-- What the call answers once the builder is frozen, with the graph `g`. -/
def answerFrozen (g : Graph) : BuilderCall → BuilderAnswer
  | merge _ _ => .refused .phaseTwoStarted
  | freeze => .graph g

end BuilderCall

/-- Everything that the calls hand over, one call after the other. -/
def Graph.ofCalls (calls : List BuilderCall) : Graph :=
  ⟨calls.flatMap BuilderCall.declarations, calls.flatMap BuilderCall.usages⟩

namespace GraphBuilder

/-- One call: its answer, and the builder after it. A merge that is refused leaves the builder. -/
def call (b : GraphBuilder) : BuilderCall → BuilderAnswer × GraphBuilder
  | .merge ds us =>
    match b.merge ds us with
    | .ok b' => (.merged, b')
    | .error e => (.refused e, b)
  | .freeze => (.graph b.freeze.1, b.freeze.2)

/-- The answers to all calls, and the builder after them. -/
def run (b : GraphBuilder) : List BuilderCall → List BuilderAnswer × GraphBuilder
  | [] => ([], b)
  | c :: calls =>
    let (answer, b') := b.call c
    let (answers, b'') := b'.run calls
    (answer :: answers, b'')

theorem call_of_frozen (g : Graph) (c : BuilderCall) :
    call ⟨g, true⟩ c = (c.answerFrozen g, ⟨g, true⟩) := by
  cases c <;> rfl

theorem run_of_frozen (g : Graph) (calls : List BuilderCall) :
    run ⟨g, true⟩ calls = (calls.map (·.answerFrozen g), ⟨g, true⟩) := by
  induction calls with
  | nil => rfl
  | cons c calls ih =>
    rw [run, call_of_frozen]
    dsimp only
    rw [ih, List.map_cons]

/-- Merges are taken in up to the first freeze; after it they are refused, and every freeze gives
what was taken in. -/
theorem run_eq (g : Graph) (calls : List BuilderCall) :
    run ⟨g, false⟩ calls =
      let taken := calls.takeWhile BuilderCall.isMerge
      let rest := calls.dropWhile BuilderCall.isMerge
      let g' : Graph :=
        ⟨g.declarations ++ (Graph.ofCalls taken).declarations,
          g.usages ++ (Graph.ofCalls taken).usages⟩
      (taken.map (fun _ => .merged) ++ rest.map (·.answerFrozen g'), ⟨g', !rest.isEmpty⟩) := by
  induction calls generalizing g with
  | nil => simp [run, Graph.ofCalls]
  | cons c calls ih =>
    cases c with
    | freeze =>
      rw [run, show call ⟨g, false⟩ .freeze = (.graph g, ⟨g, true⟩) from rfl]
      simp [run_of_frozen, BuilderCall.isMerge, BuilderCall.answerFrozen, Graph.ofCalls]
    | merge ds us =>
      rw [run, show call ⟨g, false⟩ (.merge ds us) =
        (.merged, ⟨⟨g.declarations ++ ds, g.usages ++ us⟩, false⟩) from rfl]
      have htake : (BuilderCall.merge ds us :: calls).takeWhile BuilderCall.isMerge =
          .merge ds us :: calls.takeWhile BuilderCall.isMerge := List.takeWhile_cons_of_pos rfl
      have hdrop : (BuilderCall.merge ds us :: calls).dropWhile BuilderCall.isMerge =
          calls.dropWhile BuilderCall.isMerge := List.dropWhile_cons_of_pos rfl
      dsimp only
      rw [ih, htake, hdrop]
      simp [BuilderCall.declarations, BuilderCall.usages, Graph.ofCalls]

end GraphBuilder

/-! ### Filing declarations under their names -/

/-- Puts a declaration at the end of the entry of its name, which is opened at the end of the table
if there is none. -/
def fileDeclaration (d : Declaration) :
    List (String × List Declaration) → List (String × List Declaration)
  | [] => [(d.name, [d])]
  | (name, ds) :: entries =>
    if name = d.name then (name, ds ++ [d]) :: entries
    else (name, ds) :: fileDeclaration d entries

/-- Only the entry of its name is touched. -/
theorem fileDeclaration_map {names : List String} (hn : names.Nodup)
    (f : String → List Declaration) (d : Declaration) :
    fileDeclaration d (names.map fun name => (name, f name)) =
      (names.map fun name => (name, if name = d.name then f name ++ [d] else f name)) ++
        if d.name ∈ names then [] else [(d.name, [d])] := by
  induction names with
  | nil => rfl
  | cons name names ih =>
    obtain ⟨hnot, hn⟩ := List.nodup_cons.1 hn
    rw [List.map_cons, List.map_cons, fileDeclaration]
    by_cases h : name = d.name
    · -- The entry is here, and none of the others has the name.
      have hrest : ∀ m ∈ names, m ≠ d.name := fun m hm e => hnot (h ▸ e ▸ hm)
      have hmap : (names.map fun m => (m, if m = d.name then f m ++ [d] else f m)) =
          names.map fun m => (m, f m) :=
        List.map_congr_left fun m hm => by rw [if_neg (hrest m hm)]
      simp [h, hmap]
    · have hmem : d.name ∈ name :: names ↔ d.name ∈ names := by simp [Ne.symm h]
      rw [if_neg h, if_neg h, ih hn, List.cons_append]
      simp only [hmem]

namespace Graph

/-- The declarations of every declared name, the names in the order of their first declarations. -/
def table (g : Graph) : List (String × List Declaration) :=
  g.declared.map fun name => (name, g.declarationsOf name)

theorem declared_concat (ds : List Declaration) (us : List Usage) (d : Declaration) :
    (Graph.mk (ds ++ [d]) us).declared = (Graph.mk ds us).declared ++
      if d.name ∈ (Graph.mk ds us).declared then [] else [d.name] := by
  simp only [declared, List.map_append, List.map_cons, List.map_nil, firsts_concat, mem_firsts_id,
    List.map_id, id_eq]
  split_ifs <;> simp

theorem declarationsOf_concat (ds : List Declaration) (us : List Usage) (d : Declaration)
    (name : String) : (Graph.mk (ds ++ [d]) us).declarationsOf name =
      if name = d.name then (Graph.mk ds us).declarationsOf name ++ [d]
      else (Graph.mk ds us).declarationsOf name := by
  simp only [declarationsOf, List.filter_append]
  by_cases h : name = d.name
  · simp [h]
  · simp [h, Ne.symm h]

theorem declarationsOf_eq_nil_iff {g : Graph} {name : String} :
    g.declarationsOf name = [] ↔ name ∉ g.declared := by
  rw [mem_declared_iff, declarationsOf, List.filter_eq_nil_iff, declares]
  simp

/-- Filing the declarations one by one gives the table. -/
theorem foldl_fileDeclaration (g : Graph) :
    g.declarations.foldl (fun entries d => fileDeclaration d entries) [] = g.table := by
  obtain ⟨ds, us⟩ := g
  induction ds using List.reverseRecOn with
  | nil => rfl
  | append_singleton ds d ih =>
    dsimp only at ih ⊢
    rw [List.foldl_append, ih, List.foldl_cons, List.foldl_nil, table, table,
      fileDeclaration_map (nodup_declared _), declared_concat, List.map_append]
    simp only [declarationsOf_concat]
    congr 1
    split_ifs with h
    · rfl
    · simp [declarationsOf_eq_nil_iff.2 h]

/-! ### The graph of a builder -/

/-- The graph loses, repeats and moves nothing of the declarations and uses. -/
structure Keeps (g : Graph) (ds : List Declaration) (us : List Usage) : Prop where
  table : g.table = ds.foldl (fun entries d => fileDeclaration d entries) []
  usages : g.usages = us
  resolve_ok : ∀ name found, g.resolve name = .ok found ↔
    found ≠ [] ∧ found = ds.filter fun d => d.name = name
  resolve_error : ∀ name e, g.resolve name = .error e ↔
    e = ⟨name⟩ ∧ (ds.filter fun d => d.name = name) = []
  names_increasing : g.names.Pairwise (· < ·)
  mem_names : ∀ name, name ∈ g.names ↔ name ∈ ds.map (·.name)
  declared : FirstOccurrences (ds.map (·.name)) g.declared
  edges : ∀ name, FirstOccurrences
    ((ds.filter fun d => d.name = name).flatMap Declaration.fallbackNames) (g.edges name)

theorem pairwise_names (g : Graph) : g.names.Pairwise (· < ·) := by
  have hle : g.names.Pairwise (· ≤ ·) := pairwise_increasing _
  exact hle.imp₂ (fun _ _ hab hne => lt_of_le_of_ne hab hne) g.nodup_names

theorem resolve_eq_ok_iff {g : Graph} {name : String} {found : List Declaration} :
    g.resolve name = .ok found ↔ found ≠ [] ∧ found = g.declarationsOf name := by
  unfold resolve
  split
  · next h => simp [h]
  · next ds h =>
    constructor
    · intro e
      obtain rfl := Except.ok.inj e
      exact ⟨h, rfl⟩
    · rintro ⟨-, rfl⟩
      rfl

theorem resolve_eq_error_iff {g : Graph} {name : String} {e : Unresolved} :
    g.resolve name = .error e ↔ e = ⟨name⟩ ∧ g.declarationsOf name = [] := by
  unfold resolve
  split
  · next h => simp [h, eq_comm]
  · next h =>
    constructor
    · intro e
      contradiction
    · rintro ⟨-, e⟩
      exact absurd e h

theorem keeps (g : Graph) : g.Keeps g.declarations g.usages where
  table := g.foldl_fileDeclaration.symm
  usages := rfl
  resolve_ok _ _ := resolve_eq_ok_iff
  resolve_error _ _ := resolve_eq_error_iff
  names_increasing := g.pairwise_names
  mem_names name := by rw [names, mem_increasing, declared, mem_firsts_id]
  declared := firstOccurrences_firsts _
  edges _ := firstOccurrences_firsts _

end Graph

/-- Whatever the calls are, the merges before the first freeze are taken in and the others refused;
every freeze gives the same graph, which keeps what was taken in, and how that was split into merges
does not matter. -/
theorem GraphBuilder.run_keeps (calls : List BuilderCall) :
    let taken := calls.takeWhile BuilderCall.isMerge
    let rest := calls.dropWhile BuilderCall.isMerge
    let g := Graph.ofCalls taken
    run {} calls =
        (taken.map (fun _ => .merged) ++ rest.map (·.answerFrozen g), ⟨g, !rest.isEmpty⟩) ∧
      g.Keeps (taken.flatMap BuilderCall.declarations) (taken.flatMap BuilderCall.usages) ∧
      ∀ calls' : List BuilderCall,
        (calls'.takeWhile BuilderCall.isMerge).flatMap BuilderCall.declarations =
          taken.flatMap BuilderCall.declarations →
        (calls'.takeWhile BuilderCall.isMerge).flatMap BuilderCall.usages =
          taken.flatMap BuilderCall.usages →
        (run {} calls').2.freeze.1 = (run {} calls).2.freeze.1 := by
  have hrun (calls : List BuilderCall) := run_eq {} calls
  simp only [List.nil_append] at hrun
  refine ⟨hrun calls, Graph.keeps _, fun calls' hd hu => ?_⟩
  rw [hrun calls', hrun calls]
  show Graph.ofCalls _ = Graph.ofCalls _
  rw [Graph.ofCalls, Graph.ofCalls, hd, hu]

/-- Two declarations of a name with one of another name between, merged at once; a merge that comes
too late. -/
def lateMerge : List BuilderCall :=
  [.merge [first, other, second] [], .freeze, .merge [other] [], .freeze]
where
  first : Declaration :=
    ⟨"--b", .component, [⟨"--a", ⟨"x.css", 1, 9⟩, false⟩], none, ⟨"x.css", 1, 1⟩⟩
  other : Declaration := ⟨"--a", .semantic, [], some "red", ⟨"theme.css", 1, 7⟩⟩
  second : Declaration := ⟨"--b", .component, [], some "1px", ⟨"x.css", 2, 1⟩⟩

theorem GraphBuilder.run_lateMerge :
    let first := lateMerge.first
    let other := lateMerge.other
    let second := lateMerge.second
    let g : Graph := ⟨[first, other, second], []⟩
    let apart : List BuilderCall := [.merge [first] [], .merge [other, second] []]
    run {} lateMerge =
        ([.merged, .graph g, .refused .phaseTwoStarted, .graph g], ⟨g, true⟩) ∧
      g.table = [("--b", [first, second]), ("--a", [other])] ∧
      (run {} apart).2.freeze.1 = (run {} lateMerge).2.freeze.1 := by
  obtain ⟨hrun, hkeeps, hsplit⟩ := run_keeps lateMerge
  exact ⟨hrun, hkeeps.table, hsplit _ rfl rfl⟩

end BeamLint
