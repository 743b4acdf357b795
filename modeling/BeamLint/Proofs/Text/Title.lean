import BeamLint.Proofs.Selector.SnakeCase
import BeamLint.Proofs.Text.Trim
import Mathlib

/-!
# Titles of words

Words of ASCII letters with a mark between any two of them. In title case every word has a capital
and is small otherwise, and what stands between the words is left as it is (`title_words`).
-/

namespace BeamLint.Text

/-- A word with a capital, the other letters small. -/
def capitalized : List Char → List Char
  | [] => []
  | c :: w => c.toUpper :: w.map Char.toLower

/-- Words of ASCII letters, none of them empty. -/
def AreWords (words : List (List Char)) : Prop := ∀ w ∈ words, w ≠ [] ∧ ∀ c ∈ w, c.isAlpha

/-! ### Letters of ASCII -/

theorem toNat_lt_of_isAlpha {c : Char} (h : c.isAlpha) : c.toNat < 128 :=
  toNat_lt_of_isTokenChar (by simp [Selector.isTokenChar, Char.isAlphanum, h])

/-- What the tables of characters say of the letters of ASCII, tried one by one. -/
theorem tables_of_isAlpha {c : Char} (h : c.isAlpha) :
    isBlank c = false ∧ isCased c.toLower ∧ titleChar c.toLower = [c.toUpper] ∧
      c.toLower ≠ 'Σ' ∧ lowerChar c.toLower = [c.toLower] := by
  obtain ⟨n, hn, rfl⟩ : ∃ n < 128, Char.ofNat n = c := ⟨c.toNat, toNat_lt_of_isAlpha h, by simp⟩
  revert n
  decide +kernel

theorem isBlank_of_isAlpha {c : Char} (h : c.isAlpha) : isBlank c = false :=
  (tables_of_isAlpha h).1

theorem isCased_toLower {c : Char} (h : c.isAlpha) : isCased c.toLower :=
  (tables_of_isAlpha h).2.1

theorem titleChar_toLower {c : Char} (h : c.isAlpha) : titleChar c.toLower = [c.toUpper] :=
  (tables_of_isAlpha h).2.2.1

/-- The neighbours of a small letter do not matter. -/
theorem lowerIn_toLower {c : Char} (h : c.isAlpha) (before after : List Char) :
    lowerIn before c.toLower after = [c.toLower] := by
  obtain ⟨-, -, -, hsigma, hlower⟩ := tables_of_isAlpha h
  rw [lowerIn, if_neg (by simpa using hsigma), hlower]

/-! ### Words with capitals -/

/-- Inside a word small letters stay. -/
theorem titleFrom_letters {w : List Char} (h : ∀ c ∈ w, c.isAlpha) (before rest : List Char) :
    titleFrom before true (w.map Char.toLower ++ rest) =
      w.map Char.toLower ++ titleFrom ((w.map Char.toLower).reverse ++ before) true rest := by
  induction w generalizing before with
  | nil => rfl
  | cons c w ih =>
    obtain ⟨hc, hw⟩ := List.forall_mem_cons.1 h
    rw [List.map_cons, List.cons_append, titleFrom, if_pos rfl, lowerIn_toLower hc,
      isCased_toLower hc, ih hw]
    simp

theorem titleFrom_word {w : List Char} (h : ∀ c ∈ w, c.isAlpha) (hne : w ≠ [])
    (before rest : List Char) : titleFrom before false (w.map Char.toLower ++ rest) =
      capitalized w ++ titleFrom ((w.map Char.toLower).reverse ++ before) true rest := by
  cases w with
  | nil => exact absurd rfl hne
  | cons c w =>
    obtain ⟨hc, hw⟩ := List.forall_mem_cons.1 h
    rw [List.map_cons, List.cons_append, titleFrom, if_neg (by simp), titleChar_toLower hc,
      isCased_toLower hc, titleFrom_letters hw]
    simp [capitalized]

theorem titleFrom_words {words : List (List Char)} (h : AreWords words) (before : List Char) :
    titleFrom before false ([' '].intercalate (words.map (·.map Char.toLower))) =
      [' '].intercalate (words.map capitalized) := by
  induction words generalizing before with
  | nil => rfl
  | cons w words ih =>
    obtain ⟨⟨hne, hw⟩, hwords⟩ := List.forall_mem_cons.1 h
    cases words with
    | nil => simpa [titleFrom] using titleFrom_word hw hne before []
    | cons next words =>
      have hblank (before rest : List Char) : lowerIn before ' ' rest = [' '] := rfl
      have hcased : isCased ' ' = false := by decide
      simp only [List.map_cons, List.intercalate_cons_cons, List.append_assoc] at ih ⊢
      rw [titleFrom_word hw hne, List.singleton_append, titleFrom, if_pos rfl, hblank, hcased,
        ih hwords]

/-! ### Words between marks -/

theorem map_intercalate {α β : Type} (f : α → β) (mark : List α) (words : List (List α)) :
    (mark.intercalate words).map f = (mark.map f).intercalate (words.map (·.map f)) := by
  induction words with
  | nil => rfl
  | cons w words ih =>
    cases words with
    | nil => simp
    | cons next words =>
      rw [List.intercalate_cons_cons, List.map_append, List.map_append, ih]
      exact List.intercalate_cons_cons.symm

theorem isAlpha_of_mem_intercalate {words : List (List Char)} (h : AreWords words) {mark c : Char}
    (hc : c ∈ [mark].intercalate words) : c.isAlpha ∨ c = mark := by
  induction words with
  | nil => simp at hc
  | cons w words ih =>
    obtain ⟨⟨-, hw⟩, hwords⟩ := List.forall_mem_cons.1 h
    cases words with
    | nil => exact Or.inl (hw c (by simpa using hc))
    | cons next words =>
      simp only [List.intercalate_cons_cons, List.mem_append, List.mem_singleton] at hc
      obtain (hc | hc) | hc := hc
      · exact Or.inl (hw c hc)
      · exact Or.inr hc
      · exact ih hwords hc

/-- Words with marks between them begin and end with a letter. -/
theorem isAlpha_ends {words : List (List Char)} (h : AreWords words) (mark : Char) :
    (∀ c ∈ ([mark].intercalate words).head?, c.isAlpha) ∧
      ∀ c ∈ ([mark].intercalate words).getLast?, c.isAlpha := by
  induction words with
  | nil => simp
  | cons w words ih =>
    obtain ⟨⟨hne, hw⟩, hwords⟩ := List.forall_mem_cons.1 h
    cases words with
    | nil =>
      rw [List.intercalate_singleton]
      exact ⟨fun c hc => hw c (List.mem_of_mem_head? hc),
        fun c hc => hw c (List.mem_of_mem_getLast? hc)⟩
    | cons next words =>
      have hnext := (hwords next List.mem_cons_self).1
      have hrest : [mark].intercalate (next :: words) ≠ [] := by
        cases words <;> simp [List.intercalate_cons_cons, hnext]
      rw [List.intercalate_cons_cons]
      refine ⟨fun c hc => ?_, fun c hc => ?_⟩
      · rw [List.append_assoc, List.head?_append_of_ne_nil _ hne] at hc
        exact hw c (List.mem_of_mem_head? hc)
      · rw [List.getLast?_append_of_ne_nil _ hrest] at hc
        exact (ih hwords).2 c hc

theorem replaceChar_intercalate {words : List (List Char)} (h : AreWords words)
    {old mark new : Char} (hold : old.isAlpha = false) :
    replaceChar old new ([mark].intercalate words) =
      [if mark = old then new else mark].intercalate words := by
  have hkept : ∀ w ∈ words, (w.map fun c => if c = old then new else c) = w := by
    intro w hw
    refine (List.map_congr_left fun c hc => if_neg ?_).trans (List.map_id w)
    rintro rfl
    simp [(h w hw).2 c hc] at hold
  rw [replaceChar, map_intercalate, List.map_congr_left hkept]
  simp

/-- Words with blanks between them are trimmed. -/
theorem trim_words {words : List (List Char)} (h : AreWords words) :
    trim ([' '].intercalate words) = [' '].intercalate words := by
  obtain ⟨hhead, hlast⟩ := isAlpha_ends h ' '
  exact trim_eq_self (fun c hc => isBlank_of_isAlpha (hhead c hc)) fun c hc =>
    isBlank_of_isAlpha (hlast c hc)

/-- In title case every word has a capital. -/
theorem title_words {words : List (List Char)} (h : AreWords words) :
    title (lower ([' '].intercalate words)) = [' '].intercalate (words.map capitalized) := by
  have hascii : ∀ c ∈ [' '].intercalate words, c.toNat < 128 := fun c hc => by
    obtain hc | rfl := isAlpha_of_mem_intercalate h hc
    · exact toNat_lt_of_isAlpha hc
    · decide
  rw [lower_of_ascii hascii, map_intercalate]
  exact titleFrom_words h []

end BeamLint.Text
