import BeamLint.Proofs.Report.References
import Mathlib

/-!
# Cancelled runs

A run asks again and again whether it is cancelled. The first yes ends it, and then its report shows
nothing; a run that hears no yes asks a number of times that only depends on the number of its
sources, and reports the same as a run that nobody can cancel. There is nothing in between
(`Run.report_all_or_nothing`).

Answers that come after the first yes do not matter: a run looks at exactly as many answers as it
counts (`Run.check_congr`).
-/

namespace BeamLint

/-- The answer yes is given for the first time after `k` answers no. -/
structure Cancellation.FirstYes (cancelled : Cancellation) (k : Nat) : Prop where
  yes : cancelled k = true
  no : ∀ j < k, cancelled j = false

theorem Cancellation.exists_firstYes {cancelled : Cancellation} {n : Nat}
    (h : ∃ k < n, cancelled k = true) : ∃ k < n, cancelled.FirstYes k := by
  obtain ⟨k, hk, hyes⟩ := h
  have hex : ∃ k, cancelled k = true := ⟨k, hyes⟩
  refine ⟨Nat.find hex, (Nat.find_min' hex hyes).trans_lt hk, Nat.find_spec hex, fun j hj => ?_⟩
  simpa using Nat.find_min hex hj

namespace Run

variable (c : Config) {cancelled other : Cancellation} {sources : List Source} {k polls : Nat}

/-! ### The first phase -/

/-- Taking the facts ends with the first yes, if it comes before all questions are asked. -/
theorem takeFacts_of_firstYes (h : cancelled.FirstYes k) (hp : polls ≤ k)
    (hk : k ≤ polls + sources.length) :
    (takeFacts c cancelled polls sources).polls = k + 1 ∧
      (takeFacts c cancelled polls sources).stopped = true := by
  induction sources generalizing polls with
  | nil =>
    obtain rfl : polls = k := le_antisymm hp hk
    exact ⟨rfl, h.yes⟩
  | cons s sources ih =>
    rw [takeFacts]
    rcases hp.eq_or_lt with rfl | hlt
    · rw [if_pos h.yes]
      exact ⟨rfl, rfl⟩
    · rw [if_neg (by simp [h.no polls hlt])]
      refine ih hlt ?_
      rw [List.length_cons] at hk
      omega

/-- Without a yes, all facts are taken, with a question before each and one after the last. -/
theorem takeFacts_of_no (h : ∀ j ≤ polls + sources.length, cancelled j = false) :
    takeFacts c cancelled polls sources =
      ⟨sources.map (Facts.check c), polls + sources.length + 1, false⟩ := by
  induction sources generalizing polls with
  | nil => rw [takeFacts, h polls le_rfl]; rfl
  | cons s sources ih =>
    have hlen : polls + (s :: sources).length = polls + 1 + sources.length := by
      rw [List.length_cons]
      omega
    rw [hlen] at h ⊢
    rw [takeFacts, if_neg (by simp [h polls (by omega)]), ih h]
    rfl

/-- How often the first phase asks that hears no yes. -/
def firstPolls (sources : List Source) : Nat :=
  if sources.isEmpty then 1 else sources.length + 2

theorem phaseOne_of_firstYes (h : cancelled.FirstYes k) (hk : k < firstPolls sources) :
    (phaseOne c cancelled sources).polls = k + 1 ∧
      (phaseOne c cancelled sources).stopped = true := by
  unfold phaseOne
  rcases Nat.eq_zero_or_pos k with rfl | hpos
  · rw [if_pos h.yes]
    exact ⟨rfl, rfl⟩
  · rw [if_neg (by simp [h.no 0 hpos])]
    cases sources with
    | nil =>
      simp only [firstPolls, List.isEmpty_nil, if_true] at hk
      omega
    | cons s sources =>
      rw [if_neg (by simp)]
      refine takeFacts_of_firstYes c h hpos ?_
      simp only [firstPolls, List.isEmpty_cons, Bool.false_eq_true, if_false] at hk
      omega

theorem phaseOne_of_no (h : ∀ j < firstPolls sources, cancelled j = false) :
    phaseOne c cancelled sources =
      ⟨sources.map (Facts.check c), firstPolls sources, false⟩ := by
  have h0 : cancelled 0 = false := h 0 (by unfold firstPolls; split <;> omega)
  rw [phaseOne, if_neg (by simp [h0])]
  cases sources with
  | nil => rfl
  | cons s sources =>
    rw [if_neg (by simp), takeFacts_of_no]
    · simp only [firstPolls, List.isEmpty_cons, Bool.false_eq_true, if_false]
      congr 1
      omega
    · intro j hj
      refine h j ?_
      simp only [firstPolls, List.isEmpty_cons, Bool.false_eq_true, if_false]
      omega

/-! ### The whole run -/

/-- A yes in either phase ends the run, and nothing is reported. -/
theorem check_of_firstYes (h : cancelled.FirstYes k) (hk : k < firstPolls sources + 2) :
    (check c sources cancelled).report = .cancelled ∧
      (check c sources cancelled).polls = k + 1 := by
  unfold check
  dsimp only
  by_cases hfirst : k < firstPolls sources
  · obtain ⟨hp, hs⟩ := phaseOne_of_firstYes c h hfirst
    rw [if_pos hs]
    exact ⟨rfl, hp⟩
  · have hno : ∀ j < firstPolls sources, cancelled j = false := fun j hj => h.no j (by omega)
    rw [phaseOne_of_no c hno, if_neg (by simp)]
    obtain rfl | rfl : k = firstPolls sources ∨ k = firstPolls sources + 1 := by omega
    · rw [if_pos h.yes]
      exact ⟨rfl, rfl⟩
    · rw [if_neg (by simp [h.no _ (Nat.lt_succ_self _)]), if_pos h.yes]
      exact ⟨rfl, rfl⟩

/-- Without a yes, the report is the one on the facts of all sources. -/
theorem check_of_no (h : ∀ j < firstPolls sources + 2, cancelled j = false) :
    (check c sources cancelled).report = reportOf c (sources.map (Facts.check c)) ∧
      (check c sources cancelled).polls = firstPolls sources + 2 := by
  unfold check
  dsimp only
  rw [phaseOne_of_no c fun j hj => h j (by omega), if_neg (by simp),
    if_neg (by simp [h (firstPolls sources) (by omega)]),
    if_neg (by simp [h (firstPolls sources + 1) (by omega)])]
  exact ⟨rfl, rfl⟩

/-! ### Which answers matter -/

theorem lt_polls_takeFacts (polls : Nat) (sources : List Source) :
    polls < (takeFacts c cancelled polls sources).polls := by
  induction sources generalizing polls with
  | nil => exact Nat.lt_succ_self polls
  | cons s sources ih =>
    rw [takeFacts]
    split
    · exact Nat.lt_succ_self polls
    · exact (Nat.lt_succ_self polls).trans (ih (polls + 1))

theorem takeFacts_congr
    (h : ∀ j < (takeFacts c cancelled polls sources).polls, other j = cancelled j) :
    takeFacts c other polls sources = takeFacts c cancelled polls sources := by
  have hhere : other polls = cancelled polls := h polls (lt_polls_takeFacts c polls sources)
  induction sources generalizing polls with
  | nil => rw [takeFacts, takeFacts, hhere]
  | cons s sources ih =>
    rw [takeFacts] at h
    rw [takeFacts, takeFacts, hhere]
    split
    · rfl
    · next hno =>
      rw [if_neg hno] at h
      rw [ih h (h _ (lt_polls_takeFacts c (polls + 1) sources))]

theorem phaseOne_congr (h : ∀ j < (phaseOne c cancelled sources).polls, other j = cancelled j) :
    phaseOne c other sources = phaseOne c cancelled sources := by
  have hpos : 0 < (phaseOne c cancelled sources).polls := by
    unfold phaseOne
    split_ifs
    · exact Nat.one_pos
    · exact Nat.one_pos
    · exact Nat.one_pos.trans (lt_polls_takeFacts c 1 sources)
  unfold phaseOne at h hpos ⊢
  rw [h 0 hpos]
  split_ifs at h ⊢
  · rfl
  · rfl
  · exact takeFacts_congr c h

/-- A run looks at no answer that it does not count. -/
theorem check_congr (h : ∀ j < (check c sources cancelled).polls, other j = cancelled j) :
    check c sources other = check c sources cancelled := by
  have hle : (phaseOne c cancelled sources).polls ≤ (check c sources cancelled).polls := by
    unfold check
    dsimp only
    split_ifs <;> simp
  have hfirst := phaseOne_congr c fun j hj => h j (hj.trans_le hle)
  unfold check at h ⊢
  dsimp only at h ⊢
  rw [hfirst]
  by_cases hstop : (phaseOne c cancelled sources).stopped = true
  · rw [if_pos hstop, if_pos hstop]
  · rw [if_neg hstop] at h
    rw [if_neg hstop, if_neg hstop]
    -- The question before the second phase is asked, and the one after it unless that one ends it.
    have hbefore : other (phaseOne c cancelled sources).polls =
        cancelled (phaseOne c cancelled sources).polls := by
      refine h _ ?_
      split_ifs <;> simp
    rw [hbefore]
    by_cases hyes : cancelled (phaseOne c cancelled sources).polls = true
    · rw [if_pos hyes, if_pos hyes]
    · rw [if_neg hyes] at h
      rw [if_neg hyes, if_neg hyes, h _ (by split_ifs <;> simp)]

/-! ### All or nothing -/

/-- **A run reports everything or nothing**, whatever the answers to its questions are. It has three
questions without sources, and otherwise one for each source and four more. With a yes among the
answers it ends at the first one and reports nothing; without one it asks them all and reports what
a run reports that nobody can cancel. Other answers than those it counts do not matter. -/
theorem report_all_or_nothing (hc : c.validate = .ok c) (sources : List Source)
    (cancelled : Cancellation) :
    let asked := if sources.length = 0 then 3 else sources.length + 4
    let run := check c sources cancelled
    ((∃ k < asked, cancelled k = true) →
        run.report = ⟨.cancelled, []⟩ ∧ ∃ k < asked, cancelled.FirstYes k ∧ run.polls = k + 1) ∧
      ((∀ k < asked, cancelled k = false) →
        run.polls = asked ∧ checkSources c sources = .ok run.report) ∧
      (run.report = ⟨.cancelled, []⟩ ∨ checkSources c sources = .ok run.report) ∧
      ∀ other : Cancellation, (∀ j < run.polls, other j = cancelled j) →
        check c sources other = run := by
  intro asked run
  have hasked : asked = firstPolls sources + 2 := by
    unfold asked firstPolls
    cases sources with
    | nil => rfl
    | cons s sources => simp
  have hyes (h : ∃ k < asked, cancelled k = true) : run.report = ⟨.cancelled, []⟩ ∧
      ∃ k < asked, cancelled.FirstYes k ∧ run.polls = k + 1 := by
    obtain ⟨k, hk, hf⟩ := Cancellation.exists_firstYes h
    obtain ⟨hr, hp⟩ := check_of_firstYes c hf (hasked ▸ hk)
    exact ⟨hr, k, hk, hf, hp⟩
  have hno (h : ∀ k < asked, cancelled k = false) :
      run.polls = asked ∧ checkSources c sources = .ok run.report := by
    obtain ⟨hr, hp⟩ := check_of_no c (hasked ▸ h)
    exact ⟨hp.trans hasked.symm, by rw [checkSources_eq hc, hr]⟩
  refine ⟨hyes, hno, ?_, fun other h => check_congr c h⟩
  by_cases h : ∃ k < asked, cancelled k = true
  · exact Or.inl (hyes h).1
  · refine Or.inr (hno fun k hk => ?_).2
    simpa using fun hk' => h ⟨k, hk, hk'⟩

/-- A yes that is taken back at the next question still ends the run. -/
theorem report_single_yes :
    Config.validate {} = .ok {} ∧
      (check {} themeAndCard (· == 2)).report = ⟨.cancelled, []⟩ ∧
      (check {} themeAndCard (· == 2)).polls = 3 ∧
      checkSources {} themeAndCard = .ok (check {} themeAndCard (· == 6)).report := by
  have hlen : (if themeAndCard.length = 0 then 3 else themeAndCard.length + 4) = 6 := rfl
  obtain ⟨hyes, -⟩ := report_all_or_nothing {} (by decide) themeAndCard (· == 2)
  obtain ⟨-, hno, -⟩ := report_all_or_nothing {} (by decide) themeAndCard (· == 6)
  rw [hlen] at hyes hno
  obtain ⟨hr, k, hk, hf, hp⟩ := hyes ⟨2, by decide, by decide⟩
  obtain rfl : k = 2 := by simpa using hf.yes
  exact ⟨by decide, hr, hp, (hno (by decide)).2⟩

end Run

end BeamLint
