import BeamLint.Proofs.Report.Aggregate
import Mathlib.Data.Prod.Lex

/-!
# The normal form of a list of findings

The findings of a report are a normal form of the findings it is made of: in strictly increasing
order, with the same keys, and of each key the first finding (`IsNormalForm`). A list of findings
has one normal form, so reports can be made piece by piece and in any order, as far as the first
findings stay the same.

The order of a report and the identity of a finding look at the same five parts, which is why two
findings of a report are never equal in its order.
-/

namespace BeamLint

namespace Diagnostic

/-- What decides the place of a finding in a report: file, line, column, rule and message. -/
def sortKey (d : Diagnostic) : String ×ₗ ℤ ×ₗ ℤ ×ₗ String ×ₗ String :=
  toLex (d.primary.file,
    toLex (d.primary.line, toLex (d.primary.column, toLex (d.ruleId, d.message))))

theorem order_eq_lt_iff {a b : Diagnostic} : a.order b = .lt ↔ a.sortKey < b.sortKey := by
  simp only [order, compareLex, compareOn, Ordering.then_eq_lt, compare_lt_iff_lt,
    compare_eq_iff_eq, sortKey, Prod.Lex.toLex_lt_toLex]

end Diagnostic

open Diagnostic

/-- The findings in strictly increasing order, with the keys of `ds`, and each of them the first of
`ds` with its key. -/
structure IsNormalForm (ds findings : List Diagnostic) : Prop where
  increasing : findings.Pairwise fun a b => a.sortKey < b.sortKey
  keys : ∀ k, k ∈ findings.map key ↔ k ∈ ds.map key
  first : ∀ d ∈ findings, firstOf ds d.key = some d

theorem IsNormalForm.mem_iff {ds findings : List Diagnostic} (h : IsNormalForm ds findings)
    {d : Diagnostic} : d ∈ findings ↔ firstOf ds d.key = some d := by
  refine ⟨h.first d, fun hd => ?_⟩
  obtain ⟨e, he, hk⟩ := List.mem_map.1 ((h.keys d.key).2
    (List.mem_map_of_mem (List.mem_of_find?_eq_some hd)))
  have hfirst := h.first e he
  rw [hk, hd] at hfirst
  exact Option.some.inj hfirst ▸ he

namespace Report

variable {ds : List Diagnostic}

theorem isNormalForm_aggregate (ds : List Diagnostic) :
    IsNormalForm ds (aggregate ds).diagnostics where
  increasing := (pairwise_aggregate ds).imp order_eq_lt_iff.1
  keys k := by
    rw [← mem_map_firsts key k ds]
    exact ((List.mergeSort_perm _ _).map key).mem_iff
  first d hd := mem_aggregate_iff.1 hd

/-- There is one normal form, and the report shows it. -/
theorem isNormalForm_iff {findings : List Diagnostic} :
    IsNormalForm ds findings ↔ findings = (aggregate ds).diagnostics := by
  constructor
  · intro h
    refine eq_of_mem_iff (h.increasing.imp order_eq_lt_iff.2) (pairwise_aggregate ds) fun d => ?_
    rw [h.mem_iff, mem_aggregate_iff]
  · rintro rfl
    exact isNormalForm_aggregate ds

/-- A report has the first findings that the list it is made of has. -/
theorem firstOf_aggregate (ds : List Diagnostic) (k : String × Location × String) :
    firstOf (aggregate ds).diagnostics k = firstOf ds k := by
  cases hf : firstOf ds k with
  | none =>
    refine List.find?_eq_none.2 fun d hd => ?_
    exact List.find?_eq_none.1 hf d (mem_of_mem_aggregate hd)
  | some d =>
    have hk : d.key = k := by simpa using List.find?_some hf
    have hd : d ∈ (aggregate ds).diagnostics := mem_aggregate_iff.2 (hk ▸ hf)
    -- Something is found, and what is found is the first finding of its key.
    have hsome : (firstOf (aggregate ds).diagnostics k).isSome :=
      List.find?_isSome.2 ⟨d, hd, by simpa using hk⟩
    obtain ⟨e, he⟩ := Option.isSome_iff_exists.1 hsome
    have hke : e.key = k := by simpa using List.find?_some he
    have hfirst := mem_aggregate_iff.1 (List.mem_of_find?_eq_some he)
    rw [hke, hf] at hfirst
    rw [he, hfirst]

theorem aggregate_aggregate_append (ds more : List Diagnostic) :
    aggregate ((aggregate ds).diagnostics ++ more) = aggregate (ds ++ more) := by
  refine aggregate_congr fun k => ?_
  rw [firstOf_append, firstOf_append, firstOf_aggregate]

/-- Where findings with the same key are the same, their order does not matter. -/
theorem aggregate_perm {ds' : List Diagnostic} (hp : ds.Perm ds')
    (hkey : ∀ d ∈ ds, ∀ e ∈ ds, d.key = e.key → d = e) : aggregate ds' = aggregate ds := by
  refine (aggregate_congr fun k => ?_).symm
  refine find?_eq_of_mem_iff (fun d _ => hp.mem_iff) fun d hd e he hdk hek => hkey d hd e he ?_
  rw [decide_eq_true_iff.1 hdk, decide_eq_true_iff.1 hek]

/-! ### The status -/

theorem statusOf_eq_clean_iff : statusOf ds = .clean ↔ ds = [] := by
  rw [statusOf]
  split_ifs with he ha
  · simpa using he
  · simpa using he
  · simpa using he

theorem statusOf_eq_failed_iff : statusOf ds = .failed ↔ ∃ d ∈ ds, d.severity = .error := by
  constructor
  · intro h
    rw [statusOf] at h
    split_ifs at h with he ha
    simpa using ha
  · rintro ⟨d, hd, hs⟩
    exact statusOf_eq_failed hd hs

theorem statusOf_eq_warnings_iff :
    statusOf ds = .warnings ↔ ds ≠ [] ∧ ¬ ∃ d ∈ ds, d.severity = .error := by
  have hne : statusOf ds ≠ .cancelled := by
    rw [statusOf]
    split_ifs <;> simp
  rw [Ne, ← statusOf_eq_clean_iff, ← statusOf_eq_failed_iff]
  cases h : statusOf ds with
  | cancelled => exact absurd h hne
  | clean => simp
  | failed => simp
  | warnings => simp

theorem aggregate_eq_nil_iff : (aggregate ds).diagnostics = [] ↔ ds = [] := by
  have h := (isNormalForm_aggregate ds).keys
  constructor
  · intro he
    rw [he] at h
    simpa using List.eq_nil_iff_forall_not_mem.2 fun k hk => List.not_mem_nil ((h k).2 hk)
  · rintro rfl
    exact List.eq_nil_iff_forall_not_mem.2 fun d hd => List.not_mem_nil (mem_of_mem_aggregate hd)

/-- Where the rule decides the severity, an error is never hidden by a warning with its key. -/
theorem exists_error_aggregate_iff
    (hrule : ∀ d ∈ ds, ∀ e ∈ ds, d.ruleId = e.ruleId → d.severity = e.severity) :
    (∃ d ∈ (aggregate ds).diagnostics, d.severity = .error) ↔ ∃ d ∈ ds, d.severity = .error := by
  constructor
  · rintro ⟨d, hd, hs⟩
    exact ⟨d, mem_of_mem_aggregate hd, hs⟩
  · rintro ⟨d, hd, hs⟩
    obtain ⟨e, he, hk⟩ := List.mem_map.1
      (((isNormalForm_aggregate ds).keys d.key).2 (List.mem_map_of_mem hd))
    have hid : e.ruleId = d.ruleId := congrArg Prod.fst hk
    exact ⟨e, he, (hrule e (mem_of_mem_aggregate he) d hd hid).trans hs⟩

/-- Putting findings together gives their normal form, piece by piece or at once; the order of the
findings matters only where different ones have the same key, and the status is that of all findings
where the rule decides the severity. -/
theorem aggregate_normalForm (ds : List Diagnostic) :
    (∀ findings, IsNormalForm ds findings ↔ findings = (aggregate ds).diagnostics) ∧
    (∀ more, aggregate ((aggregate ds).diagnostics ++ more) = aggregate (ds ++ more)) ∧
    aggregate (aggregate ds).diagnostics = aggregate ds ∧
    ((∀ d ∈ ds, ∀ e ∈ ds, d.key = e.key → d = e) →
      ∀ ds', ds.Perm ds' → aggregate ds' = aggregate ds) ∧
    ((∀ d ∈ ds, ∀ e ∈ ds, d.ruleId = e.ruleId → d.severity = e.severity) →
      ((aggregate ds).status = .failed ↔ ∃ d ∈ ds, d.severity = .error) ∧
      ((aggregate ds).status = .warnings ↔ ds ≠ [] ∧ ¬ ∃ d ∈ ds, d.severity = .error) ∧
      ((aggregate ds).status = .clean ↔ ds = [])) := by
  have hstatus : (aggregate ds).status = statusOf (aggregate ds).diagnostics := rfl
  refine ⟨fun _ => isNormalForm_iff, aggregate_aggregate_append ds, ?_, ?_, ?_⟩
  · simpa using aggregate_aggregate_append ds []
  · intro hkey ds' hp
    exact aggregate_perm hp hkey
  · intro hrule
    have herror := exists_error_aggregate_iff hrule
    refine ⟨?_, ?_, ?_⟩
    · rw [hstatus, statusOf_eq_failed_iff, herror]
    · rw [hstatus, statusOf_eq_warnings_iff, Ne, aggregate_eq_nil_iff, herror]
    · rw [hstatus, statusOf_eq_clean_iff, aggregate_eq_nil_iff]

/-- A warning on a reference of `card.css`. -/
def cardLeak : Diagnostic :=
  Rule.primitiveLeak.finding "'top' references primitive token '--primitive-gap' directly"
    ⟨"card.css", 2, 5⟩ [] "Reference a semantic token that wraps '--primitive-gap' instead"

/-- An error in a file that comes before `card.css`. -/
def baseUnreadable : Diagnostic :=
  Rule.inputError.finding "Cannot read 'base.css': content is empty or not valid UTF-8"
    (.wholeFile "base.css") [] "Check the file encoding and contents"

theorem aggregate_repeatedWarning :
    let ds := [cardLeak, baseUnreadable, cardLeak]
    (∀ d ∈ ds, ∀ e ∈ ds, d.key = e.key → d = e) ∧
      (∀ d ∈ ds, ∀ e ∈ ds, d.ruleId = e.ruleId → d.severity = e.severity) ∧
      IsNormalForm ds (aggregate ds).diagnostics ∧
      aggregate [baseUnreadable, cardLeak, cardLeak] = aggregate ds ∧
      (aggregate ds).status = .failed := by
  intro ds
  have hkey : ∀ d ∈ ds, ∀ e ∈ ds, d.key = e.key → d = e := by decide
  have hrule : ∀ d ∈ ds, ∀ e ∈ ds, d.ruleId = e.ruleId → d.severity = e.severity := by decide
  obtain ⟨hform, -, -, hperm, hstatus⟩ := aggregate_normalForm ds
  refine ⟨hkey, hrule, (hform _).2 rfl, hperm hkey _ (by decide), (hstatus hrule).1.2 ?_⟩
  exact ⟨baseUnreadable, by decide, rfl⟩

end Report

end BeamLint
