import BeamLint.Proofs.Selector.Grammar
import Mathlib

/-!
# Names in snake case

Of a name over letters, digits and underscores, snake case is the words of its lower-case form with
single underscores between them (`squeeze`): nothing where there is no letter or digit, and else
words joined by underscores (`joinedWords_snakeCase`). Such words are left as they are
(`snakeCase_of_joinedWords`).

A hyphen between two names that do not meet it with an underscore stays where it is
(`snakeCase_append_hyphen`), so a path comes out as words joined by underscores and hyphens
(`joinedWords_snakeCase_path`).
-/

namespace BeamLint

open Text

/-! ### Words between underscores -/

/-- The words between the underscores. -/
def underscoreWords (text : List Char) : List (List Char) :=
  (splitOn '_' text).filter fun w => !w.isEmpty

/-- The words between the underscores, with single underscores between them. -/
def squeeze (text : List Char) : List Char := ['_'].intercalate (underscoreWords text)

theorem snakeCase_eq (name : List Char) : snakeCase name = squeeze (lower (breakWords name)) := rfl

@[simp] theorem underscoreWords_nil : underscoreWords [] = [] := rfl

theorem underscoreWords_append_mark (a b : List Char) :
    underscoreWords (a ++ '_' :: b) = underscoreWords a ++ underscoreWords b := by
  simp only [underscoreWords, splitOn_eq, List.splitOn_append_cons_self, List.filter_append]

theorem underscoreWords_of_notMem {w : List Char} (hm : '_' ∉ w) (hne : w ≠ []) :
    underscoreWords w = [w] := by
  simp [underscoreWords, splitOn_of_notMem hm, hne]

theorem underscoreWords_eq_nil_iff {text : List Char} :
    underscoreWords text = [] ↔ ∀ c ∈ text, c = '_' := by
  have plain {w : List Char} (hm : '_' ∉ w) : underscoreWords w = [] ↔ ∀ c ∈ w, c = '_' := by
    cases w with
    | nil => simp
    | cons c w =>
      rw [List.mem_cons, not_or] at hm
      rw [underscoreWords_of_notMem (by simp [hm]) (by simp)]
      simp [Ne.symm hm.1]
  induction hn : text.length using Nat.strong_induction_on generalizing text with
  | _ n ih =>
    rcases splitOn_cases '_' text with ⟨hm, -⟩ | ⟨front, rest, rfl, hf, -⟩
    · exact plain hm
    · have hlt : rest.length < n := by
        rw [← hn, List.length_append, List.length_cons]
        omega
      have hrest : underscoreWords rest = [] ↔ ∀ c ∈ rest, c = '_' := ih rest.length hlt rfl
      rw [underscoreWords_append_mark, List.append_eq_nil_iff, plain hf, hrest,
        List.forall_mem_append, List.forall_mem_cons]
      simp

theorem joinedWords_intercalate {words : List (List Char)} (hne : words ≠ [])
    (h : ∀ w ∈ words, isNameWord w) : JoinedWords ['_'] (['_'].intercalate words) := by
  induction words with
  | nil => exact absurd rfl hne
  | cons w words ih =>
    obtain ⟨hw, hws⟩ := List.forall_mem_cons.1 h
    by_cases hnil : words = []
    · rw [hnil, List.intercalate_singleton]
      exact .word hw
    · rw [List.intercalate_cons_of_ne_nil hnil, List.append_assoc, List.singleton_append]
      exact .join hw List.mem_cons_self (ih hnil hws)

/-- Words joined by underscores are left as they are. -/
theorem squeeze_of_joinedWords {text : List Char} (h : JoinedWords ['_'] text) :
    squeeze text = text := by
  have hall : (splitOn '_' text).filter (fun w => !w.isEmpty) = splitOn '_' text := by
    refine List.filter_eq_self.2 fun w hw => ?_
    have hname := List.all_eq_true.1 (isSnakeCase_iff.2 h) w hw
    exact (Bool.and_eq_true_iff.1 hname).1
  rw [squeeze, underscoreWords, hall, intercalate_splitOn]

/-- Of names and underscores the names are left, with single underscores between them. -/
theorem squeeze_cases {text : List Char} (h : ∀ c ∈ text, isNameChar c ∨ c = '_') :
    (squeeze text = [] ∧ ∀ c ∈ text, c = '_') ∨ JoinedWords ['_'] (squeeze text) := by
  by_cases hnil : underscoreWords text = []
  · exact Or.inl ⟨by rw [squeeze, hnil]; rfl, underscoreWords_eq_nil_iff.1 hnil⟩
  · refine Or.inr (joinedWords_intercalate hnil fun w hw => ?_)
    obtain ⟨hw, hne⟩ := List.mem_filter.1 hw
    obtain ⟨hi, hm⟩ := isInfix_of_mem_splitOn hw
    refine isNameWord_iff.2 ⟨by simpa using hne, fun c hc => ?_⟩
    exact (h c (hi.subset hc)).resolve_right fun e => hm (e ▸ hc)

/-! ### Hyphens -/

/-- What follows the last underscore of a text goes on in what follows the text. -/
theorem exists_underscoreWords_append {a : List Char} (hne : a ≠ []) (h : a.getLast? ≠ some '_') :
    ∃ words w, w ≠ [] ∧ '_' ∉ w ∧
      ∀ rest, underscoreWords (a ++ rest) = words ++ underscoreWords (w ++ rest) := by
  by_cases hm : '_' ∈ a.reverse
  · obtain ⟨w, front, e, hw⟩ := List.eq_append_cons_of_mem hm
    obtain rfl : a = front.reverse ++ '_' :: w.reverse := by
      rw [← List.reverse_reverse a, e]
      simp
    refine ⟨underscoreWords front.reverse, w.reverse, ?_, by simpa using hw, fun rest => ?_⟩
    · rintro hnil
      simp [hnil] at h
    · rw [List.append_assoc, List.cons_append, underscoreWords_append_mark]
  · exact ⟨[], a, hne, by simpa using hm, fun rest => rfl⟩

/-- What stands before the first underscore of a text goes on with what stands before the text. -/
theorem exists_underscoreWords_prepend {b : List Char} (hne : b ≠ []) (h : b.head? ≠ some '_') :
    ∃ f words, f ≠ [] ∧ '_' ∉ f ∧
      ∀ front, underscoreWords (front ++ b) = underscoreWords (front ++ f) ++ words := by
  rcases splitOn_cases '_' b with ⟨hm, -⟩ | ⟨f, rest, rfl, hf, -⟩
  · exact ⟨b, [], hne, hm, fun front => (List.append_nil _).symm⟩
  · refine ⟨f, underscoreWords rest, ?_, hf, fun front => ?_⟩
    · rintro rfl
      simp at h
    · rw [← List.append_assoc, underscoreWords_append_mark]

theorem intercalate_append_hyphen (words later : List (List Char)) (w f : List Char) :
    ['_'].intercalate (words ++ (w ++ '-' :: f) :: later) =
      ['_'].intercalate (words ++ [w]) ++ '-' :: ['_'].intercalate (f :: later) := by
  induction words with
  | nil =>
    cases later with
    | nil => simp [List.intercalate_singleton]
    | cons v later =>
      rw [List.nil_append, List.intercalate_cons_cons, List.nil_append,
        List.intercalate_singleton, List.intercalate_cons_cons]
      simp
  | cons v words ih =>
    rw [List.cons_append, List.cons_append, List.intercalate_cons_of_ne_nil (by simp),
      List.intercalate_cons_of_ne_nil (by simp), ih]
    simp

/-- A hyphen between texts that do not meet it with an underscore stays where it is. -/
theorem squeeze_append_hyphen {a b : List Char} (ha : a ≠ []) (hla : a.getLast? ≠ some '_')
    (hb : b ≠ []) (hhb : b.head? ≠ some '_') :
    squeeze (a ++ '-' :: b) = squeeze a ++ '-' :: squeeze b := by
  obtain ⟨words, w, hw, hmw, hwords⟩ := exists_underscoreWords_append ha hla
  obtain ⟨f, later, hf, hmf, hlater⟩ := exists_underscoreWords_prepend hb hhb
  have hall : underscoreWords (a ++ '-' :: b) = words ++ (w ++ '-' :: f) :: later := by
    have hmid := hlater (w ++ ['-'])
    rw [List.append_assoc, List.singleton_append, List.append_assoc, List.singleton_append,
      underscoreWords_of_notMem (w := w ++ '-' :: f) (by simp [hmw, hmf]) (by simp)] at hmid
    rw [hwords, hmid]
    rfl
  have hleft : underscoreWords a = words ++ [w] := by
    simpa [underscoreWords_of_notMem hmw hw] using hwords []
  have hright : underscoreWords b = f :: later := by
    simpa [underscoreWords_of_notMem hmf hf] using hlater []
  rw [squeeze, squeeze, squeeze, hall, hleft, hright, intercalate_append_hyphen]

/-! ### Broken words in lower case -/

/-- Nothing but underscores is put in. -/
theorem mem_breakWords {text : List Char} {c : Char} (h : c ∈ breakWords text) :
    c ∈ text ∨ c = '_' := by
  fun_induction breakWords text with
  | case1 a b rest _ ih =>
    rw [List.mem_cons, List.mem_cons] at h
    rcases h with rfl | rfl | h
    · exact Or.inl List.mem_cons_self
    · exact Or.inr rfl
    · exact (ih h).imp_left (List.mem_cons_of_mem a)
  | case2 a b rest _ ih =>
    rcases List.mem_cons.1 h with rfl | h
    · exact Or.inl List.mem_cons_self
    · exact (ih h).imp_left (List.mem_cons_of_mem a)
  | case3 text _ => exact Or.inl h

theorem subset_breakWords (text : List Char) : text ⊆ breakWords text := by
  fun_induction breakWords text with
  | case1 a b rest _ ih =>
    exact List.cons_subset_cons a (List.Subset.trans ih (List.subset_cons_self _ _))
  | case2 a b rest _ ih => exact List.cons_subset_cons a ih
  | case3 text _ => exact List.Subset.refl text

theorem breakWords_of_forall {text : List Char} (h : ∀ c ∈ text, c.isUpper = false) :
    breakWords text = text := by
  fun_induction breakWords text with
  | case1 a b rest hb ih => simp [h b (by simp)] at hb
  | case2 a b rest _ ih => rw [ih (List.forall_mem_cons.1 h).2]
  | case3 text _ => rfl

theorem head?_breakWords (text : List Char) : (breakWords text).head? = text.head? := by
  fun_induction breakWords text <;> simp

theorem getLast?_breakWords (text : List Char) : (breakWords text).getLast? = text.getLast? := by
  fun_induction breakWords text with
  | case1 a b rest _ ih => simp only [List.getLast?_cons, ih, Option.getD_some]
  | case2 a b rest _ ih => simp only [List.getLast?_cons, ih, Option.getD_some]
  | case3 text _ => rfl

/-- A hyphen is no place to break a word. -/
theorem breakWords_append_hyphen (a b : List Char) :
    breakWords (a ++ '-' :: b) = breakWords a ++ '-' :: breakWords b := by
  have hname : isNameChar '-' = false := by simp [isNameChar]
  have hupper : '-'.isUpper = false := by simp [Char.isUpper]
  have hyphen (b : List Char) : breakWords ('-' :: b) = '-' :: breakWords b := by
    cases b <;> simp [breakWords, hname]
  fun_induction breakWords a with
  | case1 c d rest h ih =>
    rw [List.cons_append, List.cons_append, breakWords, if_pos h, ← List.cons_append, ih]
    rfl
  | case2 c d rest h ih =>
    rw [List.cons_append, List.cons_append, breakWords, if_neg h, ← List.cons_append, ih]
    rfl
  | case3 text h =>
    cases text with
    | nil => exact hyphen b
    | cons c text =>
      cases text with
      | nil => simp [breakWords, hupper, hyphen]
      | cons d rest => exact absurd rfl (h c d rest)

/-- What holds of all characters of ASCII, tried one by one. -/
theorem forall_ascii {p : Char → Prop} (h : ∀ n < 128, p (Char.ofNat n)) {c : Char}
    (hc : c.toNat < 128) : p c := by
  simpa using h c.toNat hc

theorem toNat_lt_of_isTokenChar {c : Char} (h : Selector.isTokenChar c) : c.toNat < 128 := by
  simp only [Selector.isTokenChar, Char.isAlphanum, Char.isAlpha, Char.isUpper, Char.isLower,
    Char.isDigit, ge_iff_le, UInt32.le_iff_toNat_le, Bool.or_eq_true, Bool.and_eq_true,
    decide_eq_true_eq, beq_iff_eq] at h
  have hz : 'z'.val.toNat = 122 := rfl
  have hZ : 'Z'.val.toNat = 90 := rfl
  have h9 : '9'.val.toNat = 57 := rfl
  have hc : c.toNat = c.val.toNat := rfl
  rcases h with ((((h | h) | h) | rfl) | rfl)
  · omega
  · omega
  · omega
  · decide
  · decide

/-- In ASCII, the neighbours of a letter do not matter. -/
theorem lower_of_ascii {text : List Char} (h : ∀ c ∈ text, c.toNat < 128) :
    lower text = text.map Char.toLower := by
  have from_ (before : List Char) : lowerFrom before text = text.map Char.toLower := by
    induction text generalizing before with
    | nil => rfl
    | cons c text ih =>
      obtain ⟨hc, htext⟩ := List.forall_mem_cons.1 h
      have hsigma : c ≠ 'Σ' := by
        rintro rfl
        exact absurd hc (by decide)
      rw [lowerFrom, ih htext, lowerIn, if_neg (by simpa using hsigma), lowerChar, if_pos hc]
      rfl
  exact from_ []

theorem isAlphanum_or_of_isTokenChar {c : Char} (h : Selector.isTokenChar c) :
    c.isAlphanum ∨ c = '_' ∨ c = '-' := by
  simpa [Selector.isTokenChar, or_assoc] using h

theorem isNameChar_toLower {c : Char} (h : c.isAlphanum) : isNameChar c.toLower := by
  have hc := toNat_lt_of_isTokenChar (c := c) (by simp [Selector.isTokenChar, h])
  exact forall_ascii (p := fun c => c.isAlphanum → isNameChar c.toLower) (by decide +kernel) hc h

/-- What is in a name is in lower case. -/
theorem toLower_of_isNameChar {c : Char} (h : isNameChar c) :
    c.isUpper = false ∧ c.toLower = c := by
  have hc := toNat_lt_of_isTokenChar (Selector.isTokenChar_of (Or.inl h))
  exact forall_ascii (p := fun c => isNameChar c → c.isUpper = false ∧ c.toLower = c)
    (by decide +kernel) hc h

theorem eq_underscore_of_toLower {c : Char} (h : Selector.isTokenChar c) (e : c.toLower = '_') :
    c = '_' := by
  rcases isAlphanum_or_of_isTokenChar h with h | rfl | rfl
  · have := isNameChar_toLower h
    simp [e, isNameChar] at this
  · rfl
  · contradiction

/-! ### Snake case -/

/-- Snake case of a token: the words are broken, put in lower case and squeezed. -/
theorem snakeCase_of_isTokenChar {name : List Char} (h : ∀ c ∈ name, Selector.isTokenChar c) :
    snakeCase name = squeeze ((breakWords name).map Char.toLower) := by
  rw [snakeCase_eq, lower_of_ascii]
  intro c hc
  rcases mem_breakWords hc with hc | rfl
  · exact toNat_lt_of_isTokenChar (h c hc)
  · decide

/-- Over letters, digits and underscores, snake case is empty where there are underscores only, and
else words joined by underscores. -/
theorem snakeCase_cases {name : List Char} (h : ∀ c ∈ name, c.isAlphanum ∨ c = '_') :
    (snakeCase name = [] ∧ ∀ c ∈ name, c = '_') ∨ JoinedWords ['_'] (snakeCase name) := by
  have htoken : ∀ c ∈ name, Selector.isTokenChar c := fun c hc => by
    simpa [Selector.isTokenChar] using Or.inl (h c hc)
  rw [snakeCase_of_isTokenChar htoken]
  have hlow : ∀ c ∈ (breakWords name).map Char.toLower, isNameChar c ∨ c = '_' := by
    rintro _ hm
    obtain ⟨c, hc, rfl⟩ := List.mem_map.1 hm
    rcases (mem_breakWords hc).imp_left (h c) with (hc | rfl) | rfl
    · exact Or.inl (isNameChar_toLower hc)
    · exact Or.inr rfl
    · exact Or.inr rfl
  refine (squeeze_cases hlow).imp_left fun ⟨hnil, hall⟩ => ⟨hnil, fun c hc => ?_⟩
  have hm := List.mem_map_of_mem (f := Char.toLower) (subset_breakWords name hc)
  exact eq_underscore_of_toLower (htoken c hc) (hall _ hm)

theorem joinedWords_snakeCase {name : List Char} (h : ∀ c ∈ name, c.isAlphanum ∨ c = '_')
    (hl : ∃ c ∈ name, c.isAlphanum) : JoinedWords ['_'] (snakeCase name) := by
  refine (snakeCase_cases h).resolve_left fun hnone => ?_
  obtain ⟨c, hc, ha⟩ := hl
  simp [hnone.2 c hc, Char.isAlphanum, Char.isAlpha] at ha

/-- A name in snake case is left as it is. -/
theorem snakeCase_of_joinedWords {name : List Char} (h : JoinedWords ['_'] name) :
    snakeCase name = name := by
  have hlow : ∀ c ∈ name, c.isUpper = false ∧ c.toLower = c := by
    intro c hc
    rcases h.mem c hc with hn | hm
    · exact toLower_of_isNameChar hn
    · rw [List.mem_singleton.1 hm]
      decide +kernel
  have htoken : ∀ c ∈ name, Selector.isTokenChar c := fun c hc =>
    Selector.isTokenChar_of ((h.mem c hc).imp_right fun hm => Or.inl (List.mem_singleton.1 hm))
  have hmap : name.map Char.toLower = name := by
    rw [List.map_congr_left (fun c hc => (hlow c hc).2), List.map_id']
  rw [snakeCase_of_isTokenChar htoken, breakWords_of_forall (fun c hc => (hlow c hc).1),
    hmap]
  exact squeeze_of_joinedWords h

/-- A hyphen stays where it is when neither neighbour is an underscore. -/
theorem snakeCase_append_hyphen {a b : List Char} (h : ∀ c ∈ a ++ '-' :: b, Selector.isTokenChar c)
    (ha : a ≠ []) (hla : a.getLast? ≠ some '_') (hb : b ≠ []) (hhb : b.head? ≠ some '_') :
    snakeCase (a ++ '-' :: b) = snakeCase a ++ '-' :: snakeCase b := by
  obtain ⟨hca, hcb⟩ := List.forall_mem_append.1 h
  have hcb := (List.forall_mem_cons.1 hcb).2
  have keeps {o : Option Char} (ho : ∀ c ∈ o, Selector.isTokenChar c) (hne : o ≠ some '_') :
      o.map Char.toLower ≠ some '_' := by
    intro e
    obtain ⟨c, rfl, hc⟩ := Option.map_eq_some_iff.1 e
    exact hne (congrArg some (eq_underscore_of_toLower (ho c rfl) hc))
  have broken {t : List Char} (ht : t ≠ []) : (breakWords t).map Char.toLower ≠ [] := by
    intro e
    have hh := head?_breakWords t
    rw [List.map_eq_nil_iff.1 e] at hh
    exact ht (List.head?_eq_none_iff.1 hh.symm)
  rw [snakeCase_of_isTokenChar h, snakeCase_of_isTokenChar hca, snakeCase_of_isTokenChar hcb,
    breakWords_append_hyphen, List.map_append, List.map_cons]
  refine squeeze_append_hyphen (broken ha) ?_ (broken hb) ?_
  · rw [List.getLast?_map, getLast?_breakWords]
    exact keeps (fun c hc => hca c (List.mem_of_getLast? hc)) hla
  · rw [List.head?_map, head?_breakWords]
    exact keeps (fun c hc => hcb c (List.mem_of_head? hc)) hhb

end BeamLint
