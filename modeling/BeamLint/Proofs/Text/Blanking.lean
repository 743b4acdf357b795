import BeamLint.Proofs.Text.Search

/-!
# Blanking from left to right

A recogniser that does not ask for the character before finds the same in a text wherever the text
stands. So a search takes a text apart from the left: either nothing is read at the first character,
and the search goes on behind it (`findAll_cons`), or a part is read, and the search goes on behind
that part (`findAll_append_part`). Blanking follows the search.

Nothing that could be read is missed: where the recogniser reads anything, the place lies in what
was found (`exists_covers_of_reads`).
-/

namespace BeamLint.Text

/-! ### Character by character -/

theorem getElem?_blankWhere (hidden : Nat → Bool) (i : Nat) (text : List Char) (j : Nat) :
    (blankWhere hidden i text)[j]? =
      text[j]?.map fun c => if hidden (i + j) then blankChar c else c := by
  induction text generalizing i j with
  | nil => simp [blankWhere]
  | cons c text ih =>
    cases j with
    | zero => simp [blankWhere]
    | succ j => simp [blankWhere, ih, Nat.add_assoc, Nat.add_comm 1]

/-- Where everything is hidden, every character is blanked. -/
theorem blankWhere_eq_map {hidden : Nat → Bool} {i : Nat} {text : List Char}
    (h : ∀ j < text.length, hidden (i + j) = true) :
    blankWhere hidden i text = text.map blankChar := by
  apply List.ext_getElem?
  intro j
  rw [getElem?_blankWhere, List.getElem?_map]
  by_cases hj : j < text.length
  · simp [h j hj]
  · simp [List.getElem?_eq_none (Nat.le_of_not_lt hj)]

variable {α : Type} {r : Recognizer α}

/-- Outside what is found, blanking changes nothing. -/
theorem getElem?_blankFound_of_outside {text : List Char} {i : Nat} (h : OutsideFound r text i) :
    (blankFound r text)[i]? = text[i]? := by
  have hidden : ((findAll r text).map Found.span).any (·.covers i) = false := by
    rw [List.any_eq_false]
    intro s hs
    obtain ⟨f, hf, rfl⟩ := List.mem_map.1 hs
    simp [h f hf]
  rw [blankFound, blankSpans, getElem?_blankWhere, Nat.zero_add, hidden]
  simp

/-- In what is found, the character is blanked. -/
theorem getElem?_blankFound_of_covers {text : List Char} {f : Found α} {i : Nat}
    (hf : f ∈ findAll r text) (h : f.span.covers i) :
    (blankFound r text)[i]? = text[i]?.map blankChar := by
  have hidden : ((findAll r text).map Found.span).any (·.covers i) = true :=
    List.any_eq_true.2 ⟨f.span, List.mem_map_of_mem hf, h⟩
  rw [blankFound, blankSpans, getElem?_blankWhere, Nat.zero_add, hidden]
  simp

/-- Blanking keeps the line ends where they are. -/
theorem getElem?_blankFound_newline (r : Recognizer α) (text : List Char) (i : Nat) :
    (blankFound r text)[i]? = some '\n' ↔ text[i]? = some '\n' := by
  by_cases h : OutsideFound r text i
  · rw [getElem?_blankFound_of_outside h]
  · simp only [OutsideFound, not_forall] at h
    obtain ⟨f, hf, hi⟩ := h
    rw [getElem?_blankFound_of_covers hf (by simpa using hi), Option.map_eq_some_iff]
    simp [blankChar_eq_newline_iff]

/-! ### Taking a text apart -/

/-- What has been taken is passed over. -/
theorem findAllFrom_skip (hr : ∀ b b' text, r b text = r b' text) (i : Nat) (before : Option Char)
    (part rest : List Char) :
    findAllFrom r i part.length before (part ++ rest) =
      findAllFrom r (part.length + i) 0 before rest := by
  induction part generalizing i before with
  | nil => simp
  | cons c part ih =>
    have hlen : (c :: part).length + i = part.length + (i + 1) := by
      rw [List.length_cons]
      omega
    rw [List.cons_append, List.length_cons, findAllFrom, ih, ← List.length_cons, hlen]
    exact findAllFrom_before hr _ _ _ _ _

section Apart

variable (hr : ∀ b b' text, r b text = r b' text)
include hr

theorem findAllFrom_eq_map_shift (n : Nat) (before : Option Char) (text : List Char) :
    findAllFrom r n 0 before text = (findAll r text).map (Found.shift n) := by
  rw [findAllFrom_before hr n 0 before none, findAll, ← findAllFrom_shift, Nat.add_zero]

theorem findAll_cons {c : Char} {rest : List Char} (h : r none (c :: rest) = none) :
    findAll r (c :: rest) = (findAll r rest).map (Found.shift 1) := by
  rw [findAll, findAllFrom, h, ← findAllFrom_eq_map_shift hr 1 (some c)]

theorem findAll_append_part {part rest : List Char} {a : α} (hne : part ≠ [])
    (h : r none (part ++ rest) = some (part.length, a)) :
    findAll r (part ++ rest) =
      ⟨0, part.length, a⟩ :: (findAll r rest).map (Found.shift part.length) := by
  cases part with
  | nil => exact absurd rfl hne
  | cons c part =>
    rw [List.cons_append] at h
    rw [findAll, List.cons_append, findAllFrom, h]
    simp only [List.length_cons, Nat.add_sub_cancel]
    rw [findAllFrom_skip hr, findAllFrom_eq_map_shift hr]

theorem blankFound_cons {c : Char} {rest : List Char} (h : r none (c :: rest) = none) :
    blankFound r (c :: rest) = c :: blankFound r rest := by
  rw [blankFound, findAll_cons hr h]
  exact blankSpans_shift [c] (findAll r rest) rest

theorem blankFound_append_part {part rest : List Char} {a : α} (hne : part ≠ [])
    (h : r none (part ++ rest) = some (part.length, a)) :
    blankFound r (part ++ rest) = part.map blankChar ++ blankFound r rest := by
  have hpart : (⟨0, part.length, a⟩ : Found α).span = ⟨0, part.length⟩ := by
    simp [Found.span, Found.stop]
  rw [blankFound, findAll_append_part hr hne h, List.map_cons, hpart, blankSpans, blankWhere_append]
  congr 1
  · apply blankWhere_eq_map
    intro j hj
    simp [Span.covers, hj]
  · have hbefore (j : Nat) : (⟨0, part.length⟩ : Span).covers (part.length + j) = false := by
      simp [Span.covers]
    rw [Nat.add_comm, blankWhere_shift]
    simp [blankFound, blankSpans, Function.comp_def, Found.covers_shift, hbefore]

/-- A text that is read as a whole. -/
theorem findAll_whole {text : List Char} {a : α} (hne : text ≠ [])
    (h : r none text = some (text.length, a)) : findAll r text = [⟨0, text.length, a⟩] := by
  rw [← List.append_nil text] at h ⊢
  rw [findAll_append_part hr hne (by simpa using h), List.append_nil]
  rfl

theorem blankFound_whole {text : List Char} {a : α} (hne : text ≠ [])
    (h : r none text = some (text.length, a)) : blankFound r text = text.map blankChar := by
  rw [← List.append_nil text] at h ⊢
  rw [blankFound_append_part hr hne (by simpa using h), List.append_nil]
  exact List.append_nil _

/-- Whatever could be read lies in what is found. -/
theorem exists_covers_of_readsFrom {front rest : List Char} {n : Nat} {a : α} (hne : rest ≠ [])
    (hn : 0 < n) (h : r none rest = some (n, a)) {i skip : Nat} (hs : skip ≤ front.length)
    (before : Option Char) :
    ∃ f ∈ findAllFrom r i skip before (front ++ rest), f.span.covers (i + front.length) := by
  induction front generalizing i skip before with
  | nil =>
    obtain rfl : skip = 0 := by simpa using hs
    obtain ⟨c, rest, rfl⟩ := List.exists_cons_of_ne_nil hne
    rw [List.nil_append, findAllFrom, hr before none, h]
    refine ⟨_, List.mem_cons_self, ?_⟩
    rw [Span.covers_iff]
    simp only [Found.span, Found.stop, List.length_nil]
    omega
  | cons c front ih =>
    have hplace : i + (c :: front).length = i + 1 + front.length := by
      rw [List.length_cons]
      omega
    rw [hplace, List.cons_append]
    cases skip with
    | succ skip =>
      rw [findAllFrom]
      exact ih (Nat.le_of_succ_le_succ hs) (some c)
    | zero =>
      rw [findAllFrom]
      split
      · next m b _ =>
        by_cases hm : m - 1 ≤ front.length
        · obtain ⟨f, hf, hc⟩ := ih (i := i + 1) hm (some c)
          exact ⟨f, List.mem_cons_of_mem _ hf, hc⟩
        · refine ⟨_, List.mem_cons_self, ?_⟩
          rw [Span.covers_iff]
          simp only [Found.span, Found.stop]
          omega
      · exact ih (Nat.zero_le _) (some c)

theorem exists_covers_of_reads (front : List Char) {rest : List Char} {n : Nat} {a : α}
    (hne : rest ≠ []) (hn : 0 < n) (h : r none rest = some (n, a)) :
    ∃ f ∈ findAll r (front ++ rest), f.span.covers front.length := by
  obtain ⟨f, hf, hc⟩ :=
    exists_covers_of_readsFrom hr hne hn h (i := 0) (Nat.zero_le front.length) none
  exact ⟨f, hf, by simpa using hc⟩

/-- A search goes on afresh behind a text that nothing reaches beyond. -/
theorem filter_findAllFrom {front back : List Char} {i skip : Nat} (before : Option Char)
    (hs : skip ≤ front.length)
    (h : ∀ f ∈ findAllFrom r i skip before (front ++ back),
      f.start < i + front.length → f.stop ≤ i + front.length) :
    (findAllFrom r i skip before (front ++ back)).filter (fun f => i + front.length ≤ f.start) =
      findAllFrom r (i + front.length) 0 none back := by
  induction front generalizing i skip before with
  | nil =>
    obtain rfl : skip = 0 := by simpa using hs
    rw [List.nil_append, List.length_nil, Nat.add_zero, findAllFrom_before hr i 0 before none,
      List.filter_eq_self]
    intro f hf
    obtain ⟨front, rest, b, -, -, hstart, -⟩ := exists_of_mem_findAllFrom hf
    simp [hstart]
  | cons c front ih =>
    have hplace : i + (c :: front).length = i + 1 + front.length := by
      rw [List.length_cons]
      omega
    rw [hplace] at h ⊢
    rw [List.cons_append] at h ⊢
    cases skip with
    | succ skip =>
      rw [findAllFrom] at h ⊢
      exact ih _ (Nat.le_of_succ_le_succ hs) h
    | zero =>
      rw [findAllFrom] at h ⊢
      split
      · next n a hread =>
        rw [hread] at h
        obtain ⟨hfirst, hrest⟩ := List.forall_mem_cons.1 h
        have hstop : i + n ≤ i + 1 + front.length := hfirst (by dsimp only; omega)
        rw [List.filter_cons_of_neg (by simp only [decide_eq_true_eq]; omega)]
        exact ih _ (by omega) hrest
      · next hread =>
        rw [hread] at h
        exact ih _ (Nat.zero_le _) h

theorem filter_findAll {front back : List Char}
    (h : ∀ f ∈ findAll r (front ++ back), f.start < front.length → f.stop ≤ front.length) :
    (findAll r (front ++ back)).filter (fun f => front.length ≤ f.start) =
      (findAll r back).map (Found.shift front.length) := by
  have hfilter := filter_findAllFrom hr (i := 0) none (Nat.zero_le front.length)
    (by simpa [findAll] using h)
  rw [Nat.zero_add, findAllFrom_eq_map_shift hr front.length] at hfilter
  exact hfilter

end Apart

/-- What stands in a blanked text stands in the text or is blank. -/
theorem mem_blankFound {text : List Char} {c : Char} (h : c ∈ blankFound r text) :
    c ∈ text ∨ isBlank c := by
  obtain ⟨i, hi⟩ := List.mem_iff_getElem?.1 h
  rw [blankFound, blankSpans, getElem?_blankWhere] at hi
  obtain ⟨d, hd, hc⟩ := Option.map_eq_some_iff.1 hi
  split at hc
  · exact Or.inr (hc ▸ isBlank_blankChar d)
  · exact Or.inl (hc ▸ List.mem_of_getElem? hd)

/-- Blanking leaves the end of a text alone if nothing that is found reaches into it. -/
theorem exists_blankFound_append (front back : List Char)
    (h : ∀ f ∈ findAll r (front ++ back), f.stop ≤ front.length) :
    ∃ front', front'.length = front.length ∧ blankFound r (front ++ back) = front' ++ back := by
  rw [blankFound, blankSpans, blankWhere_append]
  refine ⟨_, length_blankWhere _ 0 front, congrArg _ ?_⟩
  apply blankWhere_eq_self
  intro j _
  simp only [List.any_map, List.any_eq_false, Function.comp_apply]
  intro f hf
  rw [Span.covers_iff]
  have hstop := h f hf
  simp only [Found.span]
  omega

end BeamLint.Text
