import BeamLint.Proofs.Json.Roundtrip
import BeamLint.Report.Json

/-!
# The JSON view of a report loses nothing

The JSON text of a report is ASCII and is read back as the JSON value of the report, and the value
tells everything about the report: locations, findings and the status have different values when
they differ.
-/

namespace BeamLint

theorem Severity.name_injective : Function.Injective Severity.name := by
  intro a b h
  cases a <;> cases b <;> simp_all [Severity.name]

theorem RunStatus.name_injective : Function.Injective RunStatus.name := by
  intro a b h
  cases a <;> cases b <;> simp_all [RunStatus.name]

theorem Json.strOrNull_injective : Function.Injective Json.strOrNull := by
  intro a b h
  cases a with
  | none => cases b <;> simp_all [Json.strOrNull]
  | some s => cases b <;> simp_all [Json.strOrNull]

theorem Location.toJson_injective : Function.Injective Location.toJson := by
  rintro ⟨file, line, column⟩ ⟨file', line', column'⟩ h
  simp only [Location.toJson, Json.int, Json.obj.injEq, List.cons.injEq, Prod.mk.injEq, true_and,
    Json.num.injEq, Json.str.injEq, and_true] at h
  obtain ⟨rfl, rfl, rfl⟩ := h
  rfl

theorem Diagnostic.toJson_injective : Function.Injective Diagnostic.toJson := by
  rintro ⟨ruleId, severity, message, primary, related, suggestion⟩
    ⟨ruleId', severity', message', primary', related', suggestion'⟩ h
  simp only [Diagnostic.toJson, Json.obj.injEq, List.cons.injEq, Prod.mk.injEq, true_and, and_true,
    Json.arr.injEq, Json.str.injEq] at h
  obtain ⟨hlocations, rfl, rfl, hseverity, hsuggestion⟩ := h
  have hl := List.map_injective_iff.2 Location.toJson_injective hlocations
  simp only [Diagnostic.locations, List.cons.injEq] at hl
  obtain ⟨rfl, rfl⟩ := hl
  rw [Severity.name_injective hseverity, Json.strOrNull_injective hsuggestion]

theorem Report.toJson_injective : Function.Injective Report.toJson := by
  rintro ⟨status, diagnostics⟩ ⟨status', diagnostics'⟩ h
  simp only [Report.toJson, Json.obj.injEq, List.cons.injEq, Prod.mk.injEq, true_and, and_true,
    Json.arr.injEq, Json.str.injEq] at h
  obtain ⟨hdiagnostics, hstatus⟩ := h
  rw [RunStatus.name_injective hstatus,
    List.map_injective_iff.2 Diagnostic.toJson_injective hdiagnostics]

/-- The JSON text of a report is ASCII, is read back as the value of the report, and is shared only
by reports with the same status and the same findings. -/
theorem Report.renderJson_lossless (r : Report) :
    Json.IsAscii r.renderJson.toList ∧
      Json.read r.renderJson.toList = some r.toJson ∧
      ∀ r' : Report, r'.renderJson = r.renderJson ↔
        r'.status = r.status ∧ r'.diagnostics = r.diagnostics := by
  have hread (r : Report) : Json.read r.renderJson.toList = some r.toJson := by
    rw [Report.renderJson, String.toList_ofList, Json.read_print]
  refine ⟨?_, hread r, fun r' => ?_⟩
  · rw [Report.renderJson, String.toList_ofList]
    exact Json.isAscii_printAt 0 r.toJson
  · constructor
    · intro h
      have hvalue : some r'.toJson = some r.toJson := by rw [← hread r', ← hread r, h]
      rw [Report.toJson_injective (Option.some.inj hvalue)]
      exact ⟨rfl, rfl⟩
    · rintro ⟨hs, hd⟩
      obtain ⟨status, diagnostics⟩ := r
      obtain ⟨status', diagnostics'⟩ := r'
      obtain rfl : status' = status := hs
      obtain rfl : diagnostics' = diagnostics := hd
      rfl

end BeamLint
