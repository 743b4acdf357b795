import BeamLint.Proofs.Source.References
import BeamLint.Proofs.Variable.References
import BeamLint.Run

/-!
# References in a report

A report that puts together the findings of many sources drops those that repeat an earlier one.
No finding on a reference is dropped: the references of a source have different locations, and
those of different sources are in different files. So each rule on references is reported exactly
once at each reference that breaks it (`Report.CoversReferences`).
-/

namespace BeamLint

/-! ### Putting findings together -/

/-- Of a rule that is found at different places only, all findings are reported. -/
theorem Report.filter_aggregate_perm {rule : Rule} {ds : List Diagnostic}
    (h : (rule.primaries ds).Nodup) :
    ((aggregate ds).diagnostics.filter fun d => d.ruleId = rule.id).Perm
      (ds.filter fun d => d.ruleId = rule.id) := by
  -- The key of a finding holds its place, so different places mean different keys.
  have hkeys : ((ds.filter fun d => d.ruleId = rule.id).map Diagnostic.key).Nodup := by
    refine List.Nodup.of_map (fun key => key.2.1) ?_
    rw [List.map_map]
    exact h
  have hfirsts : (firsts Diagnostic.key ds).filter (fun d => d.ruleId = rule.id) =
      ds.filter fun d => d.ruleId = rule.id := by
    rw [← firsts_eq_self Diagnostic.key hkeys]
    exact filter_firsts Diagnostic.key (fun key => decide (key.1 = rule.id)) ds
  rw [← hfirsts]
  exact (List.mergeSort_perm _ _).filter _

theorem Report.primaries_aggregate_perm {rule : Rule} {ds : List Diagnostic}
    (h : (rule.primaries ds).Nodup) :
    (rule.primaries (aggregate ds).diagnostics).Perm (rule.primaries ds) :=
  (filter_aggregate_perm h).map _

/-! ### Runs that are not cancelled -/

namespace Run

variable (c : Config) (sources : List Source)

theorem takeFacts_never (polls : Nat) :
    (takeFacts c .never polls sources).facts = sources.map (Facts.check c) ∧
      (takeFacts c .never polls sources).stopped = false := by
  induction sources generalizing polls with
  | nil => exact ⟨rfl, rfl⟩
  | cons s sources ih =>
    obtain ⟨hf, hs⟩ := ih (polls + 1)
    rw [takeFacts]
    exact ⟨congrArg (Facts.check c s :: ·) hf, hs⟩

theorem phaseOne_never :
    (phaseOne c .never sources).facts = sources.map (Facts.check c) ∧
      (phaseOne c .never sources).stopped = false := by
  cases sources with
  | nil => exact ⟨rfl, rfl⟩
  | cons s sources => exact takeFacts_never c (s :: sources) 1

theorem report_check_never :
    (check c sources .never).report = reportOf c (sources.map (Facts.check c)) := by
  obtain ⟨hf, hs⟩ := phaseOne_never c sources
  unfold check
  dsimp only
  rw [hs, hf]
  rfl

end Run

/-! ### The references of all sources -/

section Facts

variable (c : Config) (facts : List Facts)

/-- The facts of the sources that can be read. -/
def readable : List Facts := facts.filter fun f => !f.excluded

/-- All references of the sources that can be read, each with the file it stands in. -/
def ownedReferences : List (String × Reference) :=
  (readable facts).flatMap fun f => f.found.references.map (f.path, ·)

/-- Whether a source that can be read declares the name. -/
def isDeclared (name : String) : Bool :=
  (readable facts).any fun f => f.found.declarations.any fun d => d.name = name

/-- Whether a source that can be read declares the name as a primitive token. -/
def hasPrimitive (name : String) : Bool :=
  (readable facts).any fun f =>
    f.found.declarations.any fun d => d.name = name ∧ d.tier = .primitive

/-- No two references have the same location. A name that is never declared is reported once at each
reference to it, and a primitive name once at each reference to it outside the theme. -/
structure Report.CoversReferences (r : Report) : Prop where
  distinct : ((ownedReferences facts).map (·.2.location)).Nodup
  unresolved : (Rule.variableUnresolved.primaries r.diagnostics).Perm
    (((ownedReferences facts).filter fun (_, ref) => !isDeclared facts ref.name).map
      (·.2.location))
  leaks : (Rule.primitiveLeak.primaries r.diagnostics).Perm
    (((ownedReferences facts).filter fun (file, ref) =>
      isDeclared facts ref.name && !c.isTheme file && hasPrimitive facts ref.name).map
      (·.2.location))

variable {facts}

/-- Sources with different paths have no location in common. -/
theorem nodup_locations_ownedReferences (hf : ∀ f ∈ facts, f.Placed)
    (h : (facts.map (·.path)).Nodup) : ((ownedReferences facts).map (·.2.location)).Nodup := by
  have hpaths : (readable facts).Pairwise fun f g => f.path ≠ g.path :=
    (List.pairwise_map.1 h).filter _
  have hplaced : ∀ f ∈ readable facts, f.Placed := fun f hm => hf f (List.mem_filter.1 hm).1
  rw [ownedReferences, List.map_flatMap, List.Nodup, List.pairwise_flatMap]
  simp only [List.map_map, Function.comp_def]
  refine ⟨fun f hm => (hplaced f hm).distinct, ?_⟩
  -- A location tells its file, so references in different files never share one.
  refine hpaths.imp_of_mem fun {f g} hf hg hfg l hl m hm e => hfg ?_
  obtain ⟨a, ha, rfl⟩ := List.mem_map.1 hl
  obtain ⟨b, hb, rfl⟩ := List.mem_map.1 hm
  rw [← (hplaced f hf).inFile.references a ha, ← (hplaced g hg).inFile.references b hb, e]

/-! ### The graph of all sources -/

theorem declares_graphOf (name : String) :
    (Run.graphOf facts).declares name = isDeclared facts name := by
  simp [Run.graphOf, readable, Graph.declares, isDeclared, List.any_flatMap]

theorem tierOf_graphOf (name : String) :
    ((Run.graphOf facts).tierOf name == .primitive) = hasPrimitive facts name := by
  rw [Bool.eq_iff_iff, beq_iff_eq, Graph.tierOf_eq_primitive_iff]
  simp only [Run.graphOf, hasPrimitive, readable, List.mem_flatMap, List.any_eq_true,
    decide_eq_true_eq]
  constructor
  · rintro ⟨d, ⟨f, hf, hd⟩, h⟩
    exact ⟨f, hf, d, hd, h⟩
  · rintro ⟨f, hf, d, hd, h⟩
    exact ⟨d, ⟨f, hf, hd⟩, h⟩

/-- In the file of a source, a rule on references finds the references that break it. -/
theorem flatMap_breaks_eq {breaks : Bool → Reference → Bool} {f : Facts} (hf : f.Placed) :
    (f.found.declarations.flatMap fun d =>
        (d.references.filter (breaks (c.isTheme d.file))).map (·.location)) ++
      (f.found.usages.flatMap fun u =>
        (u.references.filter (breaks (c.isTheme u.file))).map (·.location)) =
      (f.found.references.filter (breaks (c.isTheme f.path))).map (·.location) := by
  rw [Findings.references, List.filter_append, List.map_append, List.filter_flatMap,
    List.filter_flatMap, List.map_flatMap, List.map_flatMap]
  congr 1
  · exact List.flatMap_congr fun d hd => by rw [hf.inFile.declarations d hd]
  · exact List.flatMap_congr fun u hu => by rw [hf.inFile.usages u hu]

/-- The rules on references are found at the references of all sources that break them. -/
theorem primaries_check_graphOf_perm (hf : ∀ f ∈ facts, f.Placed) {rule : Rule}
    (h : rule ∈ Rule.onReferences) :
    (rule.primaries ((Run.graphOf facts).check c)).Perm
      (((ownedReferences facts).filter fun o =>
        (Run.graphOf facts).breaks rule (c.isTheme o.1) o.2).map (·.2.location)) := by
  refine (Graph.primaries_check_perm _ c h).trans ?_
  -- The graph lists all declarations before all uses; here they come source by source.
  generalize (Run.graphOf facts).breaks rule = breaks
  simp only [Run.graphOf]
  rw [List.flatMap_assoc, List.flatMap_assoc, ownedReferences, List.filter_flatMap,
    List.map_flatMap]
  refine (List.flatMap_append_perm _ _ _).trans (List.Perm.of_eq ?_)
  refine List.flatMap_congr fun f hm => ?_
  rw [flatMap_breaks_eq c (hf f (List.mem_filter.1 hm).1), List.filter_map, List.map_map]
  rfl

end Facts

/-! ### The report -/

theorem checkSources_eq {c : Config} (hc : c.validate = .ok c) (sources : List Source) :
    checkSources c sources = .ok (Run.reportOf c (sources.map (Facts.check c))) := by
  rw [checkSources, hc, ← Run.report_check_never]
  rfl

theorem graphOf_check (c : Config) (sources : List Source) :
    Run.graphOf (sources.map (Facts.check c)) = Run.graphOf (sources.map (Facts.collect c)) := by
  simp only [Run.graphOf, List.filter_map, List.flatMap_map, Function.comp_def,
    Facts.excluded_check, Facts.declarations_check, Facts.usages_check]

/-- What the sources say by themselves is not on references, so only the graph counts. -/
theorem primaries_reportOf_perm (c : Config) (sources : List Source) {rule : Rule}
    (h : rule ∈ Rule.onReferences)
    (hn : (rule.primaries ((Run.graphOf (sources.map (Facts.collect c))).check c)).Nodup) :
    (rule.primaries (Run.reportOf c (sources.map (Facts.check c))).diagnostics).Perm
      (rule.primaries ((Run.graphOf (sources.map (Facts.collect c))).check c)) := by
  have hsources : rule.primaries
      ((sources.map (Facts.check c)).flatMap (·.found.diagnostics)) = [] := by
    refine Rule.primaries_eq_nil fun d hd => ?_
    rw [List.flatMap_map] at hd
    obtain ⟨s, -, hd⟩ := List.mem_flatMap.1 hd
    obtain ⟨other, ho, e⟩ := Facts.ofSource_of_mem_check c s hd
    rw [e]
    refine Rule.id_ne_of_mem_onReferences h fun hr => ?_
    exact absurd ho (by revert hr; cases other <;> decide)
  have hall : rule.primaries ((sources.map (Facts.check c)).flatMap (·.found.diagnostics) ++
      (Run.graphOf (sources.map (Facts.check c))).check c) =
      rule.primaries ((Run.graphOf (sources.map (Facts.collect c))).check c) := by
    rw [Rule.primaries_append, hsources, List.nil_append, graphOf_check]
  rw [← hall] at hn ⊢
  exact Report.primaries_aggregate_perm hn

/-- Under settings that can be used, sources with different paths get a report that misses no
reference and counts none twice. -/
theorem checkSources_coversReferences (c : Config) (sources : List Source)
    (hc : c.validate = .ok c) (hs : (sources.map (·.path)).Nodup) :
    ∃ report, checkSources c sources = .ok report ∧
      report.CoversReferences c (sources.map (Facts.collect c)) := by
  have hplaced : ∀ f ∈ sources.map (Facts.collect c), f.Placed := by
    intro f hf
    obtain ⟨s, -, rfl⟩ := List.mem_map.1 hf
    exact Facts.placed_collect c s
  have hpaths : ((sources.map (Facts.collect c)).map (·.path)).Nodup := by
    simpa only [List.map_map, Function.comp_def, Facts.path_collect] using hs
  have hdistinct := nodup_locations_ownedReferences hplaced hpaths
  have reported {rule : Rule} (h : rule ∈ Rule.onReferences) :
      (rule.primaries (Run.reportOf c (sources.map (Facts.check c))).diagnostics).Perm
        (((ownedReferences (sources.map (Facts.collect c))).filter fun o =>
          (Run.graphOf (sources.map (Facts.collect c))).breaks rule (c.isTheme o.1) o.2).map
            (·.2.location)) := by
    have hp := primaries_check_graphOf_perm c hplaced h
    refine (primaries_reportOf_perm c sources h (hp.nodup_iff.2 ?_)).trans hp
    exact hdistinct.sublist (List.filter_sublist.map _)
  refine ⟨_, checkSources_eq hc sources, hdistinct, ?_, ?_⟩
  · simpa only [Graph.breaks, declares_graphOf] using
      reported (show Rule.variableUnresolved ∈ Rule.onReferences by decide)
  · simpa only [Graph.breaks, declares_graphOf, tierOf_graphOf] using
      reported (show Rule.primitiveLeak ∈ Rule.onReferences by decide)

/-- A theme with a primitive token, and a component that refers to it and, twice in one value, to a
name that is never declared. -/
def themeAndCard : List Source :=
  [⟨"theme.css", .text ":root\x7b--primitive-red:#f00\x7d"⟩,
   ⟨"card.css", .text ".card\x7bcolor:var(--primitive-red);top:var(--gap,var(--gap))\x7d"⟩]

theorem coversReferences_themeAndCard :
    Config.validate {} = .ok {} ∧ (themeAndCard.map (·.path)).Nodup ∧
      ∃ report, checkSources {} themeAndCard = .ok report ∧
        report.CoversReferences {} (themeAndCard.map (Facts.collect {})) :=
  ⟨by decide, by decide, checkSources_coversReferences {} themeAndCard (by decide) (by decide)⟩

end BeamLint
