import BeamLint.Text.Blank
import Mathlib.Data.List.TakeWhile

/-!
# Trimmed texts

Blanks around a text do not change what is left of it when it is trimmed. Of a text that is trimmed
already and not empty, all of it is left, and the blanks before it are all that is dropped there.
Runs of other characters end in the same way where something follows that does not go on with them.
-/

namespace BeamLint.Text

variable {blanks lead trail text : List Char}

theorem ne_of_isBlank {c d : Char} (hc : isBlank c) (hd : isBlank d = false) : c ≠ d := by
  rintro rfl
  simp [hd] at hc

/-- What follows a text and does not go on with a run leaves the run as it is. -/
theorem takeWhile_append_of_head? {p : Char → Bool} {after : List Char}
    (h : ∀ c ∈ after.head?, p c = false) (text : List Char) :
    (text ++ after).takeWhile p = text.takeWhile p ∧
      (text ++ after).dropWhile p = text.dropWhile p ++ after := by
  induction text with
  | nil =>
    cases after with
    | nil => simp
    | cons c after =>
      have hc : p c = false := h c rfl
      simp [hc]
  | cons c text ih => by_cases hc : p c <;> simp [hc, ih]

theorem isAllBlank_reverse (h : isAllBlank blanks) : isAllBlank blanks.reverse := by
  rwa [isAllBlank, List.all_reverse]

theorem isAllBlank_takeWhile (text : List Char) : isAllBlank (text.takeWhile isBlank) :=
  List.all_eq_true.2 fun _ hc => List.mem_takeWhile_imp hc

theorem trimLeft_of_isAllBlank (h : isAllBlank blanks) : trimLeft blanks = [] :=
  List.dropWhile_eq_nil_iff.2 (List.all_eq_true.1 h)

theorem trimLeft_append (h : isAllBlank blanks) (text : List Char) :
    trimLeft (blanks ++ text) = trimLeft text :=
  List.dropWhile_append_of_pos (List.all_eq_true.1 h)

/-- Blanks before a text that does not begin with a blank are all that is dropped there. -/
theorem blanks_before (hl : isAllBlank lead) (h : ∀ c ∈ text.head?, isBlank c = false) :
    (lead ++ text).takeWhile isBlank = lead ∧ trimLeft (lead ++ text) = text := by
  obtain ⟨htake, hdrop⟩ := takeWhile_append_of_head? h lead
  have hall := List.all_eq_true.1 hl
  rw [List.takeWhile_eq_self_iff.2 hall] at htake
  rw [List.dropWhile_eq_nil_iff.2 hall, List.nil_append] at hdrop
  exact ⟨htake, hdrop⟩

theorem trimRight_append (h : isAllBlank blanks) (text : List Char) :
    trimRight (text ++ blanks) = trimRight text := by
  rw [trimRight, trimRight, List.reverse_append, ← trimLeft, trimLeft_append (isAllBlank_reverse h),
    trimLeft]

/-- Blanks around a text are dropped. -/
theorem trim_between (hl : isAllBlank lead) (ht : isAllBlank trail) (text : List Char) :
    trim (lead ++ (text ++ trail)) = trim text := by
  rw [trim, trim, trimLeft_append hl]
  by_cases hb : isAllBlank text
  · rw [trimLeft_append hb, trimLeft_of_isAllBlank hb, trimLeft_of_isAllBlank ht]
  · have hne : trimLeft text ≠ [] := fun h =>
      hb (List.all_eq_true.2 (List.dropWhile_eq_nil_iff.1 h))
    have happ : trimLeft (text ++ trail) = trimLeft text ++ trail := by
      rw [trimLeft, List.dropWhile_append, if_neg (by simpa [trimLeft] using hne)]
      rfl
    rw [happ, trimRight_append ht]

/-- A trimmed text does not begin with a blank. -/
theorem takeWhile_eq_nil_of_trim_eq (h : trim text = text) (rest : List Char) (hne : text ≠ []) :
    (text ++ rest).takeWhile isBlank = [] := by
  cases text with
  | nil => exact absurd rfl hne
  | cons c text =>
    have hc : isBlank c = false := by
      by_contra hc
      have hle : (trim (c :: text)).length ≤ text.length := by
        rw [trim, trimLeft, List.dropWhile_cons_of_pos (by simpa using hc), trimRight,
          List.length_reverse]
        refine (List.dropWhile_sublist _).length_le.trans ?_
        rw [List.length_reverse]
        exact (List.dropWhile_sublist _).length_le
      rw [h, List.length_cons] at hle
      omega
    rw [List.cons_append, List.takeWhile_cons_of_neg (by simp [hc])]

/-- The blanks before a trimmed text. -/
theorem takeWhile_between (hl : isAllBlank lead) (h : trim text = text) (hne : text ≠ [])
    (trail : List Char) : (lead ++ (text ++ trail)).takeWhile isBlank = lead := by
  rw [List.takeWhile_append_of_pos (List.all_eq_true.1 hl), takeWhile_eq_nil_of_trim_eq h _ hne,
    List.append_nil]

/-- A text with no blank at either end. -/
theorem trim_cons_concat {a z : Char} (ha : isBlank a = false) (hz : isBlank z = false)
    (text : List Char) : trim (a :: (text ++ [z])) = a :: (text ++ [z]) := by
  rw [trim, trimLeft, List.dropWhile_cons_of_neg (by simp [ha]), trimRight, List.reverse_cons,
    List.reverse_append, List.reverse_singleton, List.singleton_append, List.cons_append,
    List.dropWhile_cons_of_neg (by simp [hz])]
  simp

/-- A text that neither begins nor ends with a blank is trimmed. -/
theorem trim_eq_self (hh : ∀ c ∈ text.head?, isBlank c = false)
    (hl : ∀ c ∈ text.getLast?, isBlank c = false) : trim text = text := by
  have drops {text : List Char} (h : ∀ c ∈ text.head?, isBlank c = false) :
      text.dropWhile isBlank = text := by
    cases text with
    | nil => rfl
    | cons c text => rw [List.dropWhile_cons_of_neg (by simp [h c rfl])]
  rw [trim, trimLeft, drops hh, trimRight, drops (by simpa using hl), List.reverse_reverse]

theorem exists_eq_trimRight_append (text : List Char) :
    ∃ blanks, isAllBlank blanks ∧ text = trimRight text ++ blanks := by
  refine ⟨_, isAllBlank_reverse (isAllBlank_takeWhile text.reverse), ?_⟩
  rw [trimRight, ← List.reverse_append, List.takeWhile_append_dropWhile, List.reverse_reverse]

/-- A text is what is left of it between blanks. -/
theorem exists_trim_between (text : List Char) :
    ∃ trail, isAllBlank trail ∧ text = text.takeWhile isBlank ++ (trim text ++ trail) := by
  obtain ⟨trail, ht, e⟩ := exists_eq_trimRight_append (trimLeft text)
  exact ⟨trail, ht, by rw [trim, ← e, trimLeft, List.takeWhile_append_dropWhile]⟩

theorem trim_trim (text : List Char) : trim (trim text) = trim text := by
  obtain ⟨trail, ht, e⟩ := exists_trim_between text
  calc trim (trim text) = trim (text.takeWhile isBlank ++ (trim text ++ trail)) :=
        (trim_between (isAllBlank_takeWhile text) ht _).symm
    _ = trim text := by rw [← e]

theorem trim_isInfix (text : List Char) : trim text <:+: text := by
  obtain ⟨blanks, -, e⟩ := exists_eq_trimRight_append (trimLeft text)
  have hp : trim text <+: trimLeft text := ⟨blanks, e.symm⟩
  exact hp.isInfix.trans (List.dropWhile_suffix isBlank).isInfix

end BeamLint.Text
