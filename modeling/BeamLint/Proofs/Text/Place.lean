import BeamLint.Text.Blank
import BeamLint.Text.Comment
import Mathlib.Data.List.TakeWhile

/-!
# What stands where

`StandsAt base text i part` says that `part` stands at place `i` of a text that itself starts at
place `base`. It composes: what stands in a part of a text stands in the text, at the same place.

Blanking puts blanks for the characters it hides. So a part that has no blanks and stands in a
blanked text stands in the text itself, and nothing of it is hidden.
-/

namespace BeamLint.Text

/-- `part` stands at place `i` of a text that starts at place `base`. -/
def StandsAt (base : Nat) (text : List Char) (i : Nat) (part : List Char) : Prop :=
  ∃ before after, text = before ++ part ++ after ∧ i = base + before.length

namespace StandsAt

variable {base i j : Nat} {text part inner : List Char}

theorem trans (h : StandsAt base text i part) (h' : StandsAt i part j inner) :
    StandsAt base text j inner := by
  obtain ⟨before, after, rfl, rfl⟩ := h
  obtain ⟨before', after', rfl, rfl⟩ := h'
  exact ⟨before ++ before', after' ++ after, by simp, by simp [Nat.add_assoc]⟩

theorem append_right (before : List Char) (h : i = base + before.length) :
    StandsAt base (before ++ part) i part :=
  ⟨before, [], by simp, h⟩

theorem of_isPrefix (h : part <+: text) : StandsAt base text base part := by
  obtain ⟨after, rfl⟩ := h
  exact ⟨[], after, by simp, by simp⟩

theorem of_suffix (h : part <:+ text) :
    StandsAt base text (base + (text.length - part.length)) part := by
  obtain ⟨before, rfl⟩ := h
  exact append_right before (by simp)

theorem le (h : StandsAt base text i part) : base ≤ i := by
  obtain ⟨before, after, -, rfl⟩ := h
  omega

theorem add_length_le (h : StandsAt base text i part) :
    i + part.length ≤ base + text.length := by
  obtain ⟨before, after, rfl, rfl⟩ := h
  simp only [List.length_append]
  omega

/-- Text and place may be moved together. -/
theorem shift (h : StandsAt base text i part) (n : Nat) :
    StandsAt (n + base) text (n + i) part := by
  obtain ⟨before, after, rfl, rfl⟩ := h
  exact ⟨before, after, rfl, by omega⟩

theorem prefix_drop (h : StandsAt 0 text i part) : part <+: text.drop i := by
  obtain ⟨before, after, rfl, rfl⟩ := h
  exact ⟨after, by simp⟩

end StandsAt

/-- Not empty, and without blanks. -/
def Solid (part : List Char) : Prop := part ≠ [] ∧ ∀ c ∈ part, isBlank c = false

instance (part : List Char) : Decidable (Solid part) :=
  decidable_of_iff ((!part.isEmpty && part.all fun c => !isBlank c) = true) (by simp [Solid])

theorem StandsAt.lt {base i : Nat} {text part : List Char} (h : StandsAt base text i part)
    (hs : Solid part) : i < base + text.length := by
  have hl := h.add_length_le
  have := List.length_pos_iff.2 hs.1
  omega

theorem isBlank_blankChar (c : Char) : isBlank (blankChar c) = true := by
  unfold blankChar
  split <;> decide

/-! ### Blanking -/

theorem blankWhere_append (hidden : Nat → Bool) (i : Nat) (a b : List Char) :
    blankWhere hidden i (a ++ b) = blankWhere hidden i a ++ blankWhere hidden (i + a.length) b := by
  induction a generalizing i with
  | nil => simp [blankWhere]
  | cons c a ih => simp [blankWhere, ih, Nat.add_assoc, Nat.add_comm 1]

/-- Where nothing is hidden, nothing changes. -/
theorem blankWhere_eq_self {hidden : Nat → Bool} {i : Nat} {text : List Char}
    (h : ∀ j < text.length, hidden (i + j) = false) : blankWhere hidden i text = text := by
  induction text generalizing i with
  | nil => rfl
  | cons c text ih =>
    have hi : hidden i = false := h 0 (Nat.zero_lt_succ _)
    have hrest : blankWhere hidden (i + 1) text = text := ih fun j hj => by
      rw [Nat.add_assoc, Nat.add_comm 1]
      exact h (j + 1) (Nat.succ_lt_succ hj)
    rw [blankWhere, hrest, hi]
    rfl

theorem blankWhere_shift (hidden : Nat → Bool) (n i : Nat) (text : List Char) :
    blankWhere hidden (n + i) text = blankWhere (fun j => hidden (n + j)) i text := by
  induction text generalizing i with
  | nil => rfl
  | cons c text ih => rw [blankWhere, blankWhere, Nat.add_assoc, ih]

theorem exists_of_blankWhere_eq_append {hidden : Nat → Bool} {i : Nat} {text a b : List Char}
    (h : blankWhere hidden i text = a ++ b) :
    ∃ a' b', text = a' ++ b' ∧ blankWhere hidden i a' = a ∧
      blankWhere hidden (i + a.length) b' = b := by
  have hle : a.length ≤ text.length := by
    have := congrArg List.length h
    simp at this
    omega
  have hlen : (text.take a.length).length = a.length := List.length_take_of_le hle
  have e := blankWhere_append hidden i (text.take a.length) (text.drop a.length)
  rw [List.take_append_drop, h, hlen] at e
  obtain ⟨ha, hb⟩ := List.append_inj e (by simp [hle])
  exact ⟨_, _, (List.take_append_drop a.length text).symm, ha.symm, hb.symm⟩

/-- A blanked text without blanks is the text, and nothing of it is hidden. -/
theorem eq_of_blankWhere_eq {hidden : Nat → Bool} {i : Nat} {text part : List Char}
    (h : blankWhere hidden i text = part) (hs : ∀ c ∈ part, isBlank c = false) :
    text = part ∧ ∀ j < part.length, hidden (i + j) = false := by
  induction text generalizing i part with
  | nil =>
    subst h
    simp [blankWhere]
  | cons c rest ih =>
    subst h
    rw [blankWhere] at hs ⊢
    have hc : hidden i = false := by
      have hc := hs (if hidden i then blankChar c else c) List.mem_cons_self
      by_contra hh
      rw [if_pos (by simpa using hh), isBlank_blankChar] at hc
      contradiction
    obtain ⟨hrest, hj⟩ := ih rfl fun d hd => hs d (List.mem_cons_of_mem _ hd)
    refine ⟨by simp [hc, ← hrest], fun j hj' => ?_⟩
    cases j with
    | zero => simpa using hc
    | succ j =>
      have := hj j (by simpa using hj')
      rwa [Nat.add_assoc, Nat.add_comm 1] at this

/-- What stands in a blanked text and has no blanks stands in the text, outside what is hidden. -/
theorem StandsAt.of_blankWhere {hidden : Nat → Bool} {base i : Nat} {text part : List Char}
    (h : StandsAt base (blankWhere hidden 0 text) i part) (hs : Solid part) :
    StandsAt base text i part ∧ hidden (i - base) = false := by
  obtain ⟨before, after, e, rfl⟩ := h
  rw [List.append_assoc] at e
  obtain ⟨before', rest, rfl, hb, hr⟩ := exists_of_blankWhere_eq_append e
  obtain ⟨part', after', rfl, hp, ha⟩ := exists_of_blankWhere_eq_append hr
  obtain ⟨rfl, hj⟩ := eq_of_blankWhere_eq hp hs.2
  have hlen : before.length = before'.length := by rw [← hb, length_blankWhere]
  refine ⟨⟨before', after', by simp, by rw [hlen]⟩, ?_⟩
  have := hj 0 (List.length_pos_iff.2 hs.1)
  simpa using this

theorem Span.covers_iff {s : Span} {i : Nat} : s.covers i ↔ s.start ≤ i ∧ i < s.stop := by
  simp [Span.covers]

/-- Outside what a recogniser finds in the text. -/
def OutsideFound {α : Type} (r : Recognizer α) (text : List Char) (i : Nat) : Prop :=
  ∀ f ∈ findAll r text, f.span.covers i = false

theorem StandsAt.of_blankFound {α : Type} {r : Recognizer α} {base i : Nat} {text part : List Char}
    (h : StandsAt base (blankFound r text) i part) (hs : Solid part) :
    StandsAt base text i part ∧ OutsideFound r text (i - base) := by
  obtain ⟨hp, hh⟩ := StandsAt.of_blankWhere h hs
  refine ⟨hp, fun f hf => ?_⟩
  simp only [List.any_map, List.any_eq_false] at hh
  simpa using hh f hf

theorem StandsAt.of_keepSpans {spans : List Span} {i : Nat} {text part : List Char}
    (h : StandsAt 0 (keepSpans spans text) i part) (hs : Solid part) :
    StandsAt 0 text i part ∧ ∃ s ∈ spans, s.covers i := by
  obtain ⟨hp, hh⟩ := StandsAt.of_blankWhere h hs
  exact ⟨hp, by simpa using hh⟩

end BeamLint.Text
