import BeamLint.Proofs.Text.Place
import BeamLint.Stylesheet.Segment

/-!
# Where segments stand

Reading one character either adds it to the current segment or ends the segment with it
(`ScanState.step_cases`). So every segment stands in the stylesheet at its offset, and the segments
follow each other without overlap.
-/

namespace BeamLint

namespace ScanState

/-- A character either belongs to the current segment or ends it, which may give the segment. -/
theorem step_cases (s : ScanState) (c : Char) :
    ((s.step c).1 = [] ∧ (s.step c).2.start = s.start ∧ (s.step c).2.seen = c :: s.seen) ∨
      (((s.step c).1 = [] ∨ ∃ kind, (s.step c).1 = [s.segment kind]) ∧
        (s.step c).2.start = s.start + s.seen.length + 1 ∧ (s.step c).2.seen = []) := by
  have hd : s.declaration = [] ∨ ∃ kind, s.declaration = [s.segment kind] := by
    unfold declaration
    split
    · exact Or.inr ⟨_, rfl⟩
    · exact Or.inl rfl
  unfold step
  split_ifs
  · exact Or.inl ⟨rfl, rfl, rfl⟩
  · exact Or.inl ⟨rfl, rfl, rfl⟩
  · exact Or.inl ⟨rfl, rfl, rfl⟩
  · exact Or.inl ⟨rfl, rfl, rfl⟩
  · exact Or.inr ⟨Or.inr ⟨_, rfl⟩, rfl, rfl⟩
  · exact Or.inr ⟨hd, rfl, rfl⟩
  · exact Or.inr ⟨hd, rfl, rfl⟩
  · exact Or.inl ⟨rfl, rfl, rfl⟩

theorem eq_of_mem_finish {s : ScanState} {g : Segment} (h : g ∈ s.finish) :
    ∃ kind, g = s.segment kind := by
  unfold finish declaration at h
  split_ifs at h
  · simp at h
  · exact ⟨_, List.mem_singleton.1 h⟩
  · simp at h

/-- The segments stand in what has been seen of the current segment and what follows. -/
theorem standsAt_of_mem_segments {s : ScanState} {text : List Char} {g : Segment}
    (h : g ∈ s.segments text) :
    Text.StandsAt s.start (s.seen.reverse ++ text) g.offset g.text := by
  induction text generalizing s with
  | nil =>
    obtain ⟨kind, rfl⟩ := eq_of_mem_finish h
    exact ⟨[], [], by simp [segment], by simp [segment]⟩
  | cons c rest ih =>
    rw [segments, List.mem_append] at h
    rcases s.step_cases c with ⟨h1, h2, h3⟩ | ⟨h1, h2, h3⟩
    · have := ih (h.resolve_left (by simp [h1]))
      rw [h2, h3] at this
      simpa using this
    · rcases h with h | h
      · obtain ⟨kind, hk⟩ : ∃ kind, (s.step c).1 = [s.segment kind] :=
          h1.resolve_left fun hn => by simp [hn] at h
        rw [hk, List.mem_singleton] at h
        subst h
        exact .of_isPrefix ⟨c :: rest, rfl⟩
      · have hr := ih h
        rw [h2, h3] at hr
        have ha : Text.StandsAt s.start (s.seen.reverse ++ c :: rest)
            (s.start + s.seen.length + 1) rest :=
          ⟨s.seen.reverse ++ [c], [], by simp, by simp; omega⟩
        exact ha.trans (by simpa using hr)

/-- Each segment ends before the next one begins. -/
theorem pairwise_segments (s : ScanState) (text : List Char) :
    (s.segments text).Pairwise fun a b => a.offset + a.text.length < b.offset := by
  induction text generalizing s with
  | nil =>
    unfold segments finish declaration
    split_ifs <;> simp
  | cons c rest ih =>
    rw [segments]
    rcases s.step_cases c with ⟨h1, -, -⟩ | ⟨h1, h2, -⟩
    · simpa [h1] using ih _
    · rcases h1 with h1 | ⟨kind, h1⟩
      · simpa [h1] using ih _
      · rw [h1, List.singleton_append, List.pairwise_cons]
        refine ⟨fun g hg => ?_, ih _⟩
        have := (standsAt_of_mem_segments hg).le
        simp only [segment, List.length_reverse]
        omega

end ScanState

theorem standsAt_of_mem_segments {base : Nat} {inline : Bool} {text : List Char} {g : Segment}
    (h : g ∈ segments base inline text) : Text.StandsAt base text g.offset g.text := by
  simpa using ScanState.standsAt_of_mem_segments h

theorem pairwise_segments (base : Nat) (inline : Bool) (text : List Char) :
    (segments base inline text).Pairwise fun a b => a.offset + a.text.length < b.offset :=
  ScanState.pairwise_segments _ text

end BeamLint
