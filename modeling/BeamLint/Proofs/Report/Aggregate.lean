import BeamLint.Proofs.Order
import BeamLint.Report.Basic
import Mathlib

/-!
# What a report shows

A report shows the first finding of every key, and no two of them are equal in the order of a
report. So a report, or the part of it that a choice by key leaves, is known as soon as the first
finding of every key is known (`Report.filter_aggregate_congr`).
-/

namespace BeamLint

namespace Diagnostic

instance : Std.TransCmp Diagnostic.order := by
  unfold Diagnostic.order
  infer_instance

theorem order_swap (a b : Diagnostic) : (a.order b).swap = b.order a :=
  Std.OrientedCmp.eq_swap.symm

/-- Findings that are equal in the order of a report have the same key. -/
theorem key_eq_of_order_eq {a b : Diagnostic} (h : a.order b = .eq) : a.key = b.key := by
  simp only [order, compareLex_eq_eq, compareOn, Std.compare_eq_iff_eq] at h
  obtain ⟨hf, hl, hc, hr, hm⟩ := h
  have hp : a.primary = b.primary := by
    cases ha : a.primary
    cases hb : b.primary
    simp_all
  rw [key, key, hr, hp, hm]

/-- Findings in strictly increasing order are told by which ones they are. -/
theorem eq_of_mem_iff {ds ds' : List Diagnostic} (h : ds.Pairwise fun a b => a.order b = .lt)
    (h' : ds'.Pairwise fun a b => a.order b = .lt) (hmem : ∀ d, d ∈ ds ↔ d ∈ ds') : ds = ds' := by
  have hnodup {ds : List Diagnostic} (h : ds.Pairwise fun a b => a.order b = .lt) : ds.Nodup := by
    refine h.imp fun {a b} hlt hab => ?_
    have heq : b.order b = .eq := Std.ReflCmp.compare_self
    rw [hab, heq] at hlt
    contradiction
  refine List.Perm.eq_of_pairwise (fun a b _ _ hab hba => ?_) h h'
    ((List.perm_ext_iff_of_nodup (hnodup h) (hnodup h')).2 hmem)
  rw [← order_swap, hab] at hba
  contradiction

/-- The first finding with the key. -/
def firstOf (ds : List Diagnostic) (key : String × Location × String) : Option Diagnostic :=
  ds.find? fun d => d.key = key

theorem firstOf_append (ds ds' : List Diagnostic) (key : String × Location × String) :
    firstOf (ds ++ ds') key = (firstOf ds key).or (firstOf ds' key) :=
  List.find?_append

/-- A choice by key keeps the first finding of every key that is chosen. -/
theorem firstOf_filter {p : String × Location × String → Bool} {k : String × Location × String}
    (hk : p k) (ds : List Diagnostic) : firstOf (ds.filter fun d => p d.key) k = firstOf ds k := by
  rw [firstOf, firstOf, List.find?_filter]
  congr 1
  funext d
  by_cases h : d.key = k
  · simp [h, hk]
  · simp [h]

end Diagnostic

open Diagnostic

namespace Report

theorem mem_aggregate_iff {ds : List Diagnostic} {d : Diagnostic} :
    d ∈ (aggregate ds).diagnostics ↔ firstOf ds d.key = some d := by
  rw [aggregate, List.mem_mergeSort, mem_firsts_iff]
  rfl

theorem mem_of_mem_aggregate {ds : List Diagnostic} {d : Diagnostic}
    (h : d ∈ (aggregate ds).diagnostics) : d ∈ ds :=
  List.mem_of_find?_eq_some (mem_aggregate_iff.1 h)

/-- Of every key that is found, something is shown. -/
theorem exists_mem_aggregate_iff {p : String × Location × String → Bool} {ds : List Diagnostic} :
    (∃ d ∈ (aggregate ds).diagnostics, p d.key) ↔ ∃ d ∈ ds, p d.key := by
  constructor
  · rintro ⟨d, hd, hp⟩
    exact ⟨d, mem_of_mem_aggregate hd, hp⟩
  · rintro ⟨d, hd, hp⟩
    have hsome : (firstOf ds d.key).isSome := List.find?_isSome.2 ⟨d, hd, by simp⟩
    obtain ⟨e, he⟩ := Option.isSome_iff_exists.1 hsome
    have hk : e.key = d.key := by simpa using List.find?_some he
    exact ⟨e, mem_aggregate_iff.2 (by rwa [hk]), hk ▸ hp⟩

/-- The findings of a report are in increasing order, and no two of them have the same key. -/
theorem pairwise_aggregate (ds : List Diagnostic) :
    (aggregate ds).diagnostics.Pairwise fun a b => a.order b = .lt := by
  have hsorted : (aggregate ds).diagnostics.Pairwise fun a b => (a.order b).isLE := by
    refine List.pairwise_mergeSort (fun a b c => Std.TransCmp.isLE_trans) (fun a b => ?_) _
    rw [← order_swap a b]
    cases a.order b <;> rfl
  have hkeys : (aggregate ds).diagnostics.Pairwise fun a b => a.key ≠ b.key := by
    rw [← List.pairwise_map, ← List.Nodup, aggregate,
      ((List.mergeSort_perm _ _).map key).nodup_iff]
    exact nodup_map_firsts key ds
  refine hsorted.imp₂ (fun a b hle hne => ?_) hkeys
  cases ho : a.order b with
  | lt => rfl
  | eq => exact absurd (key_eq_of_order_eq ho) hne
  | gt => simp [ho] at hle

/-- What a choice by key leaves of a report depends on the first findings of these keys only. -/
theorem filter_aggregate_congr {p : String × Location × String → Bool} {ds ds' : List Diagnostic}
    (h : ∀ k, p k → firstOf ds k = firstOf ds' k) :
    ((aggregate ds).diagnostics.filter fun d => p d.key) =
      (aggregate ds').diagnostics.filter fun d => p d.key := by
  refine eq_of_mem_iff ((pairwise_aggregate ds).filter _) ((pairwise_aggregate ds').filter _) ?_
  intro d
  simp only [List.mem_filter, mem_aggregate_iff]
  exact and_congr_left fun hp => by rw [h d.key hp]

theorem aggregate_congr {ds ds' : List Diagnostic} (h : ∀ k, firstOf ds k = firstOf ds' k) :
    aggregate ds = aggregate ds' := by
  have hd : (aggregate ds).diagnostics = (aggregate ds').diagnostics := by
    simpa using filter_aggregate_congr (p := fun _ => true) fun k _ => h k
  have hs (ds : List Diagnostic) : aggregate ds =
      ⟨statusOf (aggregate ds).diagnostics, (aggregate ds).diagnostics⟩ := rfl
  rw [hs ds, hs ds', hd]

theorem statusOf_eq_failed {ds : List Diagnostic} {d : Diagnostic} (hd : d ∈ ds)
    (hs : d.severity = .error) : statusOf ds = .failed := by
  have hne : ds ≠ [] := List.ne_nil_of_mem hd
  have hany : ds.any fun d => d.severity = .error := List.any_eq_true.2 ⟨d, hd, by simp [hs]⟩
  simp [statusOf, hne, hany]

/-- Where the findings outside a choice are errors, the status depends on the choice and on whether
there are such findings. -/
theorem statusOf_congr {p : Diagnostic → Bool} {ds ds' : List Diagnostic}
    (h : ds.filter p = ds'.filter p)
    (he : ∀ d ∈ ds ++ ds', p d = false → d.severity = .error)
    (hiff : (∃ d ∈ ds, p d = false) ↔ ∃ d ∈ ds', p d = false) : statusOf ds = statusOf ds' := by
  by_cases hex : ∃ d ∈ ds, p d = false
  · obtain ⟨d, hd, hpd⟩ := hex
    obtain ⟨d', hd', hpd'⟩ := hiff.1 ⟨d, hd, hpd⟩
    rw [statusOf_eq_failed hd (he d (List.mem_append_left _ hd) hpd),
      statusOf_eq_failed hd' (he d' (List.mem_append_right _ hd') hpd')]
  · have all {ds : List Diagnostic} (hno : ¬ ∃ d ∈ ds, p d = false) : ds.filter p = ds :=
      List.filter_eq_self.2 fun d hd => by
        by_contra hpd
        exact hno ⟨d, hd, by simpa using hpd⟩
    rw [← all hex, ← all (mt hiff.2 hex), h]

end Report

end BeamLint
