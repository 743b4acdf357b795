import BeamLint.Proofs.Command.Overlap
import BeamLint.Proofs.Report.SourceOrder
import Mathlib

/-!
# Sources that are checked twice

A source that comes again after its first occurrence changes nothing in the report. What repeats is
followed through a run by what is found first (`SameFirsts`): the declarations of the graph repeat,
but its names, tiers and edges are the same, in the same order (`Graph.SameFirsts.sameEdges`), and
so are its cycles and landings. The findings then repeat as well, and a report keeps the first of
each key.

Where the paths of a command overlap, it gets the same sources again, and the report is the one that
it would have without the later paths.
-/

namespace BeamLint

/-! ### Graphs with repeated declarations -/

namespace Graph

variable {g g' : Graph} {c : Config}

/-- The declarations and uses are the same up to repetitions. -/
structure SameFirsts (g g' : Graph) : Prop where
  declarations : BeamLint.SameFirsts g.declarations g'.declarations
  usages : BeamLint.SameFirsts g.usages g'.usages

namespace SameFirsts

theorem declarationsOf (h : g.SameFirsts g') (name : String) :
    BeamLint.SameFirsts (g.declarationsOf name) (g'.declarationsOf name) :=
  h.declarations.filter _

theorem sameEdges (h : g.SameFirsts g') : g.SameEdges g' where
  declares_eq := by
    funext name
    rw [Bool.eq_iff_iff, declares_iff, declares_iff]
    simp only [h.declarations.mem_iff]
  tierOf_eq := by
    funext name
    refine Tier.rank_inj.1 (le_antisymm (rank_tierOf_le_iff.2 ?_) (rank_tierOf_le_iff.2 ?_))
    · intro d hd
      exact rank_tierOf_le_iff.1 le_rfl d ((h.declarationsOf name).mem_iff.1 hd)
    · intro d hd
      exact rank_tierOf_le_iff.1 le_rfl d ((h.declarationsOf name).mem_iff.2 hd)
  edges_eq := by
    funext name
    exact ((h.declarationsOf name).flatMap _).firsts_eq id

/-- Every rule finds the same, up to repetitions. -/
theorem check (h : g.SameFirsts g') : BeamLint.SameFirsts (g.check c) (g'.check c) := by
  have hs := h.sameEdges
  have hcycle : g.cycleFinding = g'.cycleFinding := by
    funext cycle
    rw [cycleFinding, cycleFinding]
    simp only [(h.declarationsOf _).head?_eq]
  rw [Graph.check, Graph.check, hs.cycles_eq, hcycle, hs.names_eq, hs.declarationFindings_eq,
    referenceFindings_congr hs.declares_eq hs.tierOf_eq]
  refine ((BeamLint.SameFirsts.refl _).append (.flatMap_congr fun name _ => ?_)).append ?_
  · exact (h.declarationsOf name).flatMap _
  · exact h.usages.flatMap _

end SameFirsts

end Graph

/-! ### The report -/

theorem Report.aggregate_eq_of_sameFirsts {ds ds' : List Diagnostic} (h : SameFirsts ds ds') :
    aggregate ds = aggregate ds' := by
  rw [aggregate, aggregate, h.firsts_eq]

variable {c : Config} {sources sources' : List Source}

theorem sourceGraph_sameFirsts (h : SameFirsts sources sources') :
    (sourceGraph c sources).SameFirsts (sourceGraph c sources') where
  declarations := ((h.map _).filter _).flatMap _
  usages := ((h.map _).filter _).flatMap _

/-- Sources that are the same up to repetitions have the same report. -/
theorem sourceReport_congr (h : SameFirsts sources sources') :
    sourceReport c sources = sourceReport c sources' :=
  Report.aggregate_eq_of_sameFirsts ((h.flatMap _).append (sourceGraph_sameFirsts h).check)

/-- **Checking a source twice changes nothing.** Another copy of a source, anywhere after the first
one, leaves the report as it is, and so do copies of all sources. In particular, later paths of a
command that overlap with earlier ones change nothing. -/
theorem checkSources_repeated (hc : c.validate = .ok c) :
    (∀ (before : List Source) (s : Source) (between after : List Source), ∃ r,
        checkSources c (before ++ s :: (between ++ after)) = .ok r ∧
          checkSources c (before ++ s :: (between ++ s :: after)) = .ok r) ∧
      (∀ sources : List Source, ∃ r,
        checkSources c sources = .ok r ∧ checkSources c (sources ++ sources) = .ok r) ∧
      ∀ (t : Command.FileTree) (paths more : List String) (nodes : List (String × Command.Node)),
        t.nodes? (paths ++ more) = some nodes →
        (∀ later ∈ more, ∃ path ∈ paths, t.Covers path later) →
        ∃ first r, t.nodes? paths = some first ∧
          checkSources c (Command.nodeSources first) = .ok r ∧
          checkSources c (Command.nodeSources nodes) = .ok r := by
  have same {sources sources' : List Source} (h : SameFirsts sources' sources) :
      ∃ r, checkSources c sources = .ok r ∧ checkSources c sources' = .ok r :=
    ⟨_, checkSources_eq_sourceReport hc _, by
      rw [checkSources_eq_sourceReport hc, sourceReport_congr h]⟩
  refine ⟨fun before s between after => same ?_, fun sources => same ?_, ?_⟩
  · have hcopy : SameFirsts (before ++ s :: between ++ [s]) (before ++ s :: between) :=
      .append_of_subset (by simp)
    simpa using hcopy.append (.refl after)
  · exact .append_of_subset (List.Subset.refl _)
  · intro t paths more nodes hnodes hcovers
    obtain ⟨first, rest, hfirst, rfl, hsub⟩ :=
      Command.FileTree.mem_nodeSources_of_covers hnodes hcovers
    obtain ⟨r, hr, hr'⟩ := same (SameFirsts.append_of_subset hsub)
    refine ⟨first, r, hfirst, hr, ?_⟩
    rwa [Command.nodeSources, List.flatMap_append]

/-- A stylesheet in a directory of its own, beside a file of unknown kind. -/
def overlapTree : Command.FileTree where
  files := [⟨["src", "b", "c.css"], ".B\x7b\x7d".toUTF8⟩, ⟨["src", "a.txt"], "".toUTF8⟩]
  directories := []
  place := ["x"]

theorem checkSources_repeated_overlap :
    Config.validate {} = .ok {} ∧
      (∃ r, checkSources {} themeAndCard = .ok r ∧
        checkSources {} (themeAndCard ++ themeAndCard) = .ok r) ∧
      (∀ later ∈ ["src/b", "/x//src/./b/c.css"],
        ∃ path ∈ ["src", "/x/src"], overlapTree.Covers path later) ∧
      ∃ first nodes r, overlapTree.nodes? ["src", "/x/src"] = some first ∧
        overlapTree.nodes? ["src", "/x/src", "src/b", "/x//src/./b/c.css"] = some nodes ∧
        (Command.nodeSources nodes).map Source.path =
          ["src/b/c.css", "/x/src/b/c.css", "src/b/c.css", "/x/src/b/c.css"] ∧
        checkSources {} (Command.nodeSources first) = .ok r ∧
        checkSources {} (Command.nodeSources nodes) = .ok r := by
  have hc : Config.validate {} = .ok {} := by decide
  have hfound : (overlapTree.nodes? ["src", "/x/src", "src/b", "/x//src/./b/c.css"]).map
      (fun nodes => (Command.nodeSources nodes).map Source.path) =
        some ["src/b/c.css", "/x/src/b/c.css", "src/b/c.css", "/x/src/b/c.css"] := by
    decide +kernel
  have hcovers : ∀ later ∈ ["src/b", "/x//src/./b/c.css"],
      ∃ path ∈ ["src", "/x/src"], overlapTree.Covers path later := by
    refine List.forall_mem_cons.2 ⟨⟨"src", by simp, ["b"], ?_⟩,
      List.forall_mem_cons.2 ⟨⟨"/x/src", by simp, ["b", "c.css"], ?_⟩, by simp⟩⟩
    · exact ⟨by decide +kernel, by decide, Or.inr (Or.inr (by decide +kernel))⟩
    · exact ⟨by decide +kernel, by decide, Or.inr (Or.inl (by decide +kernel))⟩
  obtain ⟨nodes, hnodes, hpaths⟩ := Option.map_eq_some_iff.1 hfound
  obtain ⟨-, htwice, hoverlap⟩ := checkSources_repeated hc
  obtain ⟨first, r, hfirst, hr, hr'⟩ :=
    hoverlap overlapTree ["src", "/x/src"] ["src/b", "/x//src/./b/c.css"] nodes hnodes hcovers
  exact ⟨hc, htwice themeAndCard, hcovers, first, nodes, r, hfirst, hnodes, hpaths, hr, hr'⟩

end BeamLint
