import BeamLint.Command.FileTree
import Mathlib

/-!
# Paths that overlap

Where a path leads is told by its root and its parts (`locate`), however it is written, and what is
found there depends on nothing else (`node?_eq_some`). So a path that goes on from another one, down
to a directory or to a file of known kind, leads to nothing but what the other one leads to as well,
and its sources are reported under the same paths (`Covers.mem_sources`).
-/

namespace BeamLint.Command

namespace FileTree

variable {t : FileTree} {here place : List String} {path later : String} {node node' : Node}

/-- Where parts lead from a place. -/
def walk (here : List String) : List String → List String
  | [] => here
  | part :: parts => walk (if part = ".." then here.dropLast else here ++ [part]) parts

/-- Where a path leads. -/
def locate (t : FileTree) (p : Path) : List String := walk (t.start p.root) p.parts

theorem walk_append (here parts rest : List String) :
    walk here (parts ++ rest) = walk (walk here parts) rest := by
  induction parts generalizing here with
  | nil => rfl
  | cons part parts ih => rw [List.cons_append, walk, ih, walk]

/-- Without two dots a walk only goes down. -/
theorem walk_of_notMem {rest : List String} (h : ".." ∉ rest) : walk here rest = here ++ rest := by
  induction rest generalizing here with
  | nil => rw [walk, List.append_nil]
  | cons part rest ih =>
    obtain ⟨hpart, hrest⟩ := not_or.1 (mt List.mem_cons.2 h)
    rw [walk, if_neg (Ne.symm hpart), ih hrest, List.append_assoc, List.singleton_append]

theorem locate_below (p : Path) {rest : List String} (h : ".." ∉ rest) :
    t.locate (p.below rest) = t.locate p ++ rest := by
  rw [locate, locate, Path.below, walk_append, walk_of_notMem h]

/-! ### What is found -/

theorem follow_eq_some {pieces : List String} (h : t.follow here pieces = some place) :
    walk here (pieces.filter fun piece => piece ≠ "" ∧ piece ≠ ".") = place := by
  fun_induction follow t here pieces with
  | case1 here => simpa [walk] using h
  | case2 => contradiction
  | case3 here piece pieces _ hpiece ih =>
    rw [List.filter_cons_of_neg (by simpa [or_iff_not_imp_left] using hpiece)]
    exact ih h
  | case4 here pieces _ hpiece ih =>
    rw [List.filter_cons_of_pos (by decide), walk, if_pos rfl]
    exact ih h
  | case5 here piece pieces _ hpiece hup next hnext ih =>
    rw [List.filter_cons_of_pos (by simpa using hpiece), walk, if_neg hup]
    exact ih h
  | case6 => contradiction

theorem partsOf_eq (path : String) :
    partsOf path =
      (Text.splitString '/' path).filter fun piece => piece ≠ "" ∧ piece ≠ "." := by
  have hpart : (fun part : List Char => !part.isEmpty && part ≠ ['.']) =
      fun part => decide (String.ofList part ≠ "" ∧ String.ofList part ≠ ".") := by
    funext part
    cases part <;> simp [← String.toList_inj]
  rw [partsOf, pathParts, Text.splitString, List.filter_map, hpart]
  rfl

/-- What is found at a path is the directory or the file at the place that it leads to. -/
theorem node?_eq_some (h : t.node? path = some node) :
    (t.isDirectory (t.locate (.ofString path)) ∧
        node = .directory (t.filesBelow (t.locate (.ofString path)))) ∨
      t.isDirectory (t.locate (.ofString path)) = false ∧
        ∃ f, t.file? (t.locate (.ofString path)) = some f ∧ node = .file f.content := by
  unfold node? at h
  split at h
  · contradiction
  · split at h
    · contradiction
    · next place hfollow =>
      obtain rfl : t.locate (.ofString path) = place := by
        rw [← follow_eq_some hfollow, ← partsOf_eq]
        rfl
      split at h
      · next hdir => exact Or.inl ⟨hdir, (Option.some.inj h).symm⟩
      · next hdir =>
        obtain ⟨f, hf, rfl⟩ := Option.map_eq_some_iff.1 h
        exact Or.inr ⟨by simpa using hdir, f, hf, rfl⟩

theorem isDirectory_iff :
    t.isDirectory place ↔ place <+: t.place ∨ (∃ d ∈ t.directories, place <+: t.place ++ d) ∨
      ∃ f ∈ t.files, place <+: t.place ++ f.parts ∧ place.length < (t.place ++ f.parts).length := by
  simp [isDirectory, or_assoc]

/-- What is above a directory is a directory. -/
theorem isDirectory_of_isPrefix {above : List String} (ha : above <+: place)
    (h : t.isDirectory place) : t.isDirectory above := by
  rw [isDirectory_iff] at h ⊢
  refine h.imp ha.trans (Or.imp ?_ ?_)
  · exact fun ⟨d, hd, hp⟩ => ⟨d, hd, ha.trans hp⟩
  · exact fun ⟨f, hf, hp, hlt⟩ => ⟨f, hf, ha.trans hp, ha.length_le.trans_lt hlt⟩

theorem mem_of_file? {f : TreeFile} (h : t.file? place = some f) :
    f ∈ t.files ∧ t.place ++ f.parts = place :=
  ⟨List.mem_of_find?_eq_some h, by simpa using List.find?_some h⟩

/-- What is above a file is a directory. -/
theorem isDirectory_of_file? {rest : List String} {f : TreeFile}
    (h : t.file? (place ++ rest) = some f) (hrest : rest ≠ []) : t.isDirectory place := by
  obtain ⟨hf, hplace⟩ := mem_of_file? h
  refine isDirectory_iff.2 (Or.inr (Or.inr ⟨f, hf, ?_⟩))
  have hpos := List.length_pos_iff.2 hrest
  rw [hplace, List.length_append]
  exact ⟨List.prefix_append place rest, by omega⟩

theorem mem_filesBelow {f : TreeFile} :
    f ∈ t.filesBelow place ↔
      ∃ g ∈ t.files, t.place ++ g.parts = place ++ f.parts ∧ g.content = f.content := by
  rw [filesBelow, List.mem_filterMap]
  refine exists_congr fun g => and_congr_right fun _ => ?_
  obtain ⟨parts, content⟩ := f
  simp [eq_comm (a := t.place ++ g.parts)]

/-! ### Sources -/

theorem hasKnownKind_append {parts : List String} (rest : List String)
    (h : hasKnownKind parts) : hasKnownKind (rest ++ parts) := by
  have hne : parts ≠ [] := by
    rintro rfl
    exact absurd h (by decide)
  rwa [hasKnownKind, List.getLast?_append_of_ne_nil rest hne]

theorem mem_sources_directory {files : List TreeFile} {s : Source} :
    s ∈ (Node.directory files).sources path ↔
      ∃ f ∈ files, hasKnownKind f.parts ∧
        s = ⟨((Path.ofString path).below f.parts).render, .bytes f.content⟩ := by
  simp [Node.sources, and_assoc, eq_comm (a := s)]

/-- A path goes on from another one, without two dots. Unless both are the same, it leads to a
directory or to a file of known kind. -/
def Covers (t : FileTree) (path later : String) : Prop :=
  ∃ rest, Path.ofString later = (Path.ofString path).below rest ∧ ".." ∉ rest ∧
    (rest = [] ∨ hasKnownKind rest ∨ t.isDirectory (t.locate (.ofString later)))

theorem Covers.mem_sources (h : t.Covers path later) (hn : t.node? path = some node)
    (hl : t.node? later = some node') {s : Source} (hs : s ∈ node'.sources later) :
    s ∈ node.sources path := by
  obtain ⟨rest, hpath, hrest, hkind⟩ := h
  have hplace : t.locate (.ofString later) = t.locate (.ofString path) ++ rest := by
    rw [hpath, locate_below _ hrest]
  have hbelow (parts : List String) : (Path.ofString later).below parts =
      (Path.ofString path).below (rest ++ parts) := by
    rw [hpath, Path.below, Path.below, Path.below, List.append_assoc]
  rcases node?_eq_some hl with ⟨hdir', rfl⟩ | ⟨hfile', f, hf, rfl⟩
  · -- The later path leads to a directory, so the other one leads to a directory above it.
    have hdir : t.isDirectory (t.locate (.ofString path)) :=
      isDirectory_of_isPrefix (hplace ▸ List.prefix_append _ rest) hdir'
    rcases node?_eq_some hn with ⟨-, rfl⟩ | ⟨hfile, -⟩
    · obtain ⟨f, hf, hknown, rfl⟩ := mem_sources_directory.1 hs
      obtain ⟨g, hg, hparts, hcontent⟩ := mem_filesBelow.1 hf
      refine mem_sources_directory.2
        ⟨⟨rest ++ f.parts, f.content⟩, mem_filesBelow.2 ⟨g, hg, ?_, hcontent⟩,
          hasKnownKind_append rest hknown, by rw [hbelow]⟩
      rw [hparts, hplace, List.append_assoc]
    · rw [hfile] at hdir
      contradiction
  · obtain rfl : s = ⟨(Path.ofString later).render, .bytes f.content⟩ := by
      simpa [Node.sources] using hs
    rw [hplace] at hf hfile'
    rcases node?_eq_some hn with ⟨hdir, rfl⟩ | ⟨hfile, g, hg, rfl⟩
    · -- The file lies below the directory, and it is of known kind.
      have hknown : hasKnownKind rest := by
        rcases hkind with rfl | hknown | hdir'
        · rw [List.append_nil, hdir] at hfile'
          contradiction
        · exact hknown
        · rw [hplace, hfile'] at hdir'
          contradiction
      obtain ⟨hmem, hparts⟩ := mem_of_file? hf
      exact mem_sources_directory.2 ⟨⟨rest, f.content⟩, mem_filesBelow.2 ⟨f, hmem, hparts, rfl⟩,
        hknown, by rw [hpath]⟩
    · -- Both lead to a file, so it is the same one.
      obtain rfl : rest = [] := by
        by_contra hne
        rw [isDirectory_of_file? hf hne] at hfile
        contradiction
      rw [List.append_nil, hg] at hf
      obtain rfl := Option.some.inj hf
      simp [Node.sources, hpath, Path.below]

theorem nodes?_cons (path : String) (paths : List String) :
    t.nodes? (path :: paths) =
      (t.node? path).bind fun node => (t.nodes? paths).map ((path, node) :: ·) := by
  rw [nodes?, List.mapM_cons, nodes?]
  cases t.node? path <;> simp [Option.map_eq_bind]

theorem nodes?_eq_some_iff {paths : List String} {nodes : List (String × Node)} :
    t.nodes? paths = some nodes ↔
      nodes.map Prod.fst = paths ∧ ∀ entry ∈ nodes, t.node? entry.1 = some entry.2 := by
  induction paths generalizing nodes with
  | nil =>
    rw [nodes?, List.mapM_nil]
    cases nodes <;> simp
  | cons path paths ih =>
    simp only [nodes?_cons, Option.bind_eq_some_iff, Option.map_eq_some_iff]
    constructor
    · rintro ⟨node, hnode, rest, hrest, rfl⟩
      obtain ⟨hpaths, hfound⟩ := ih.1 hrest
      exact ⟨congrArg (path :: ·) hpaths, List.forall_mem_cons.2 ⟨hnode, hfound⟩⟩
    · rintro ⟨hpaths, hfound⟩
      cases nodes with
      | nil => contradiction
      | cons entry rest =>
        obtain ⟨rfl, hrest⟩ := List.cons.inj hpaths
        obtain ⟨hnode, hfound⟩ := List.forall_mem_cons.1 hfound
        exact ⟨entry.2, hnode, rest, ih.2 ⟨hrest, hfound⟩, rfl⟩

/-- Where the later paths are covered by earlier ones, they lead to no other sources. -/
theorem mem_nodeSources_of_covers {paths more : List String} {nodes : List (String × Node)}
    (h : t.nodes? (paths ++ more) = some nodes)
    (hcovers : ∀ later ∈ more, ∃ path ∈ paths, t.Covers path later) :
    ∃ first rest, t.nodes? paths = some first ∧ nodes = first ++ rest ∧
      ∀ s ∈ nodeSources rest, s ∈ nodeSources first := by
  obtain ⟨hpaths, hfound⟩ := nodes?_eq_some_iff.1 h
  obtain ⟨first, rest, rfl, hfirst, hrest⟩ := List.map_eq_append_iff.1 hpaths
  obtain ⟨hfoundFirst, hfoundRest⟩ := List.forall_mem_append.1 hfound
  refine ⟨first, rest, nodes?_eq_some_iff.2 ⟨hfirst, hfoundFirst⟩, rfl, fun s hs => ?_⟩
  obtain ⟨⟨later, node'⟩, hentry, hs⟩ := List.mem_flatMap.1 hs
  obtain ⟨path, hpath, hcover⟩ := hcovers later (hrest ▸ List.mem_map_of_mem hentry)
  obtain ⟨⟨path, node⟩, hnode, rfl⟩ := List.mem_map.1 (hfirst ▸ hpath)
  exact List.mem_flatMap.2 ⟨(path, node), hnode,
    hcover.mem_sources (hfoundFirst _ hnode) (hfoundRest _ hentry) hs⟩

end FileTree

end BeamLint.Command
