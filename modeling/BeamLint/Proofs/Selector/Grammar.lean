import BeamLint.Naming
import BeamLint.Selector.Parse
import BeamLint.Proofs.Text.Search
import BeamLint.Proofs.Text.Split
import Mathlib

/-!
# The grammar of class tokens

A name is one or more words of lower-case letters and digits with single characters between them
(`JoinedWords`). A class token is free of errors exactly when it is the layout prefix and words
joined by underscores and hyphens, or else a block, perhaps followed by a hyphen and an element,
both words joined by underscores.

The reader looks at a token in another way: it refuses some neighbours, splits at the hyphens and
judges the segments one by one. `fault?_eq_none_iff` says what it refuses, and
`isSnakeCase_iff` and `isSnakePath_iff` what it accepts of a segment.
-/

namespace BeamLint

/-- Words of lower-case letters and digits, with one of the joints between two words. -/
inductive JoinedWords (joints : List Char) : List Char → Prop where
  | word {w : List Char} (hw : isNameWord w) : JoinedWords joints w
  | join {w rest : List Char} {j : Char} (hw : isNameWord w) (hj : j ∈ joints)
      (hr : JoinedWords joints rest) : JoinedWords joints (w ++ j :: rest)

open Text

/-! ### Joined words -/

theorem isNameWord_iff {w : List Char} :
    isNameWord w ↔ w ≠ [] ∧ ∀ c ∈ w, isNameChar c := by
  simp [isNameWord]

theorem notMem_of_isNameWord {w : List Char} {mark : Char} (hw : isNameWord w)
    (hm : isNameChar mark = false) : mark ∉ w := fun h => by
  simp [(isNameWord_iff.1 hw).2 mark h] at hm

namespace JoinedWords

variable {joints : List Char} {text : List Char}

theorem mono {more : List Char} (hs : ∀ j ∈ joints, j ∈ more) (h : JoinedWords joints text) :
    JoinedWords more text := by
  induction h with
  | word hw => exact .word hw
  | join hw hj _ ih => exact .join hw (hs _ hj) ih

theorem append {rest : List Char} {j : Char} (h : JoinedWords joints text) (hj : j ∈ joints)
    (hr : JoinedWords joints rest) : JoinedWords joints (text ++ j :: rest) := by
  induction h with
  | word hw => exact .join hw hj hr
  | join hw hi _ ih => simpa using JoinedWords.join hw hi ih

theorem mem (h : JoinedWords joints text) : ∀ c ∈ text, isNameChar c ∨ c ∈ joints := by
  induction h with
  | word hw => exact fun c hc => Or.inl ((isNameWord_iff.1 hw).2 c hc)
  | join hw hj _ ih =>
    intro c hc
    rcases List.mem_append.1 hc with hc | hc
    · exact Or.inl ((isNameWord_iff.1 hw).2 c hc)
    · rcases List.mem_cons.1 hc with rfl | hc
      · exact Or.inr hj
      · exact ih c hc

theorem head? (h : JoinedWords joints text) : ∃ c, text.head? = some c ∧ isNameChar c := by
  have first {w rest : List Char} (hw : isNameWord w) :
      ∃ c, (w ++ rest).head? = some c ∧ isNameChar c := by
    obtain ⟨hne, hc⟩ := isNameWord_iff.1 hw
    obtain ⟨c, w, rfl⟩ := List.exists_cons_of_ne_nil hne
    exact ⟨c, rfl, hc c List.mem_cons_self⟩
  cases h with
  | word hw => simpa using @first _ [] hw
  | join hw _ _ => exact first hw

theorem getLast? (h : JoinedWords joints text) : ∃ c, text.getLast? = some c ∧ isNameChar c := by
  induction h with
  | @word w hw =>
    obtain ⟨hne, hc⟩ := isNameWord_iff.1 hw
    exact ⟨w.getLast hne, List.getLast?_eq_some_getLast hne, hc _ (List.getLast_mem hne)⟩
  | join _ _ _ ih =>
    obtain ⟨c, hc, hn⟩ := ih
    exact ⟨c, by simp [List.getLast?_append, List.getLast?_cons, hc], hn⟩

end JoinedWords

/-- A text in lower snake case is made of words joined by underscores. -/
theorem isSnakeCase_iff {text : List Char} : isSnakeCase text ↔ JoinedWords ['_'] text := by
  constructor
  · intro h
    induction hn : text.length using Nat.strong_induction_on generalizing text with
    | _ n ih =>
      unfold isSnakeCase at h
      rcases splitOn_cases '_' text with ⟨-, e⟩ | ⟨w, rest, rfl, -, e⟩
      · exact .word (by simpa [e] using h)
      · rw [e, List.all_cons, Bool.and_eq_true] at h
        refine .join h.1 List.mem_cons_self (ih rest.length ?_ h.2 rfl)
        simp only [List.length_append, List.length_cons] at hn
        omega
  · intro h
    unfold isSnakeCase
    induction h with
    | word hw =>
      rw [splitOn_of_notMem (notMem_of_isNameWord hw (by decide))]
      simpa using hw
    | join hw hj _ ih =>
      rw [List.mem_singleton.1 hj, splitOn_append_mark (notMem_of_isNameWord hw (by decide)),
        List.all_cons, ih, hw, Bool.and_self]

/-- A path is made of words joined by underscores and hyphens. -/
theorem isSnakePath_iff {text : List Char} : isSnakePath text ↔ JoinedWords ['_', '-'] text := by
  have widen {w : List Char} (h : isSnakeCase w) : JoinedWords ['_', '-'] w :=
    (isSnakeCase_iff.1 h).mono (by simp)
  constructor
  · intro h
    induction hn : text.length using Nat.strong_induction_on generalizing text with
    | _ n ih =>
      unfold isSnakePath at h
      rcases splitOn_cases '-' text with ⟨-, e⟩ | ⟨w, rest, rfl, -, e⟩
      · exact widen (by simpa [e] using h)
      · rw [e, List.all_cons, Bool.and_eq_true] at h
        refine (widen h.1).append (by simp) (ih rest.length ?_ h.2 rfl)
        simp only [List.length_append, List.length_cons] at hn
        omega
  · intro h
    unfold isSnakePath
    induction h with
    | @word w hw =>
      rw [splitOn_of_notMem (notMem_of_isNameWord hw (by decide))]
      simpa using isSnakeCase_iff.2 (.word hw)
    | @join w rest j hw hj _ ih =>
      have hyphen : '-' ∉ w := notMem_of_isNameWord hw (by decide)
      rcases List.mem_pair.1 hj with rfl | rfl
      · -- The word becomes a part of the first segment of what follows.
        obtain ⟨piece, pieces, e⟩ := exists_splitOn_eq_cons '-' rest
        rw [e, List.all_cons, Bool.and_eq_true] at ih
        rw [List.append_cons, splitOn_append (by simp [hyphen]) e, List.all_cons, ih.2,
          Bool.and_true, isSnakeCase_iff]
        simpa using JoinedWords.join hw List.mem_cons_self (isSnakeCase_iff.1 ih.1)
      · rw [splitOn_append_mark hyphen, List.all_cons, ih, Bool.and_true]
        exact isSnakeCase_iff.2 (.word hw)

/-! ### What is refused -/

/-- Neither of the two is a hyphen beside a hyphen or an underscore. -/
def Apart (a b : Char) : Prop := (a = '-' → b ≠ '-' ∧ b ≠ '_') ∧ (b = '-' → a ≠ '_')

theorem apart_of_isNameChar {a b : Char} (h : isNameChar a ∨ isNameChar b) : Apart a b := by
  unfold Apart
  rcases h with h | h
  · refine ⟨?_, fun _ => ?_⟩ <;> rintro rfl <;> simp [isNameChar] at h
  · refine ⟨fun _ => ⟨?_, ?_⟩, ?_⟩ <;> rintro rfl <;> simp [isNameChar] at h

theorem isChain_apart_of_notMem {text : List Char} (h : '-' ∉ text) : text.IsChain Apart :=
  List.Pairwise.isChain <| List.pairwise_of_forall_mem_list fun _ ha _ hb =>
    ⟨fun e => absurd (e ▸ ha) h, fun e => absurd (e ▸ hb) h⟩

theorem not_infix_of_isChain_apart {text : List Char} {a b : Char} (h : text.IsChain Apart)
    (hab : ¬ Apart a b) : ¬ [a, b] <:+: text := by
  rintro ⟨front, rest, e⟩
  exact hab (List.isChain_iff_forall_rel_of_append_cons_cons.1 h
    (show text = front ++ a :: b :: rest by simp [← e]))

theorem JoinedWords.isChain_apart {text : List Char} (h : JoinedWords ['_', '-'] text) :
    text.IsChain Apart := by
  induction h with
  | word hw => exact isChain_apart_of_notMem (notMem_of_isNameWord hw (by decide))
  | @join w rest j hw _ hr ih =>
    have hc := (isNameWord_iff.1 hw).2
    obtain ⟨first, hf, hn⟩ := hr.head?
    refine List.isChain_append.2
      ⟨isChain_apart_of_notMem (notMem_of_isNameWord hw (by decide)), ?_, fun a ha b _ => ?_⟩
    · refine List.isChain_cons.2 ⟨fun b hb => ?_, ih⟩
      obtain rfl : first = b := by simpa [hf] using hb
      exact apart_of_isNameChar (Or.inr hn)
    · exact apart_of_isNameChar (Or.inl (hc a (List.mem_of_getLast? ha)))

namespace Selector

theorem mixedJoint?_eq_none_iff {body : List Char} :
    mixedJoint? body = none ↔ ¬ ['_', '-'] <:+: body ∧ ¬ ['-', '_'] <:+: body := by
  fun_induction mixedJoint? body with
  | case1 => simp [List.infix_cons_iff]
  | case2 => simp [List.infix_cons_iff]
  | case3 c rest h₁ h₂ ih =>
    have h₁' : ¬ ['_', '-'] <+: c :: rest := by
      rintro ⟨tail, e⟩
      obtain ⟨rfl, rfl⟩ := List.cons.inj e
      exact h₁ tail rfl rfl
    have h₂' : ¬ ['-', '_'] <+: c :: rest := by
      rintro ⟨tail, e⟩
      obtain ⟨rfl, rfl⟩ := List.cons.inj e
      exact h₂ tail rfl rfl
    rw [ih, List.infix_cons_iff, List.infix_cons_iff, or_iff_right h₁', or_iff_right h₂']
  | case4 => simp

/-- A token body is taken when it is not empty, has no foreign character, neither begins nor ends
with a hyphen, and has no hyphen beside a hyphen or an underscore. -/
theorem fault?_eq_none_iff {body : List Char} :
    fault? body = none ↔ body ≠ [] ∧ (∀ c ∈ body, isTokenChar c) ∧
      body.head? ≠ some '-' ∧ body.getLast? ≠ some '-' ∧
      ¬ ['-', '-'] <:+: body ∧ ¬ ['_', '-'] <:+: body ∧ ¬ ['-', '_'] <:+: body := by
  unfold fault?
  by_cases hne : body = []
  · simp [hne]
  cases hf : body.find? fun c => !isTokenChar c with
  | some c =>
    have hc := List.find?_some hf
    have hm := List.mem_of_find?_eq_some hf
    have : ¬ ∀ c ∈ body, isTokenChar c := fun h => by simp [h c hm] at hc
    simp [hne, this]
  | none =>
    have hchars : ∀ c ∈ body, isTokenChar c := by simpa using hf
    rw [if_neg (by simpa using hne)]
    dsimp only
    split_ifs with hedge hdouble
    · simp only [false_iff]
      rintro ⟨-, -, hh, hl, -⟩
      simp [hh, hl] at hedge
    · simp [occurs_iff.1 hdouble]
    · rw [Option.map_eq_none_iff, mixedJoint?_eq_none_iff]
      rw [occurs_iff] at hdouble
      simp only [Bool.or_eq_true, decide_eq_true_eq, not_or] at hedge
      simp only [ne_eq, hne, not_false_eq_true, hedge, hdouble, true_and]
      tauto

theorem isTokenChar_of {c : Char} (h : isNameChar c ∨ c = '_' ∨ c = '-') : isTokenChar c := by
  unfold isTokenChar
  rcases h with h | rfl | rfl
  · simp only [isNameChar, Bool.or_eq_true] at h
    rcases h with h | h <;> simp [Char.isAlphanum, Char.isAlpha, h]
  · decide
  · decide

/-- Letters, digits and underscores, followed by words joined by underscores and hyphens, are
taken. -/
theorem fault?_append_eq_none (front : List Char) {w : List Char}
    (hf : ∀ c ∈ front, isNameChar c ∨ c = '_') (hw : JoinedWords ['_', '-'] w) :
    fault? (front ++ w) = none := by
  obtain ⟨first, hfirst, hn⟩ := hw.head?
  obtain ⟨last, hlast, hln⟩ := hw.getLast?
  have hyphen : '-' ∉ front := fun h => by simpa [isNameChar] using hf '-' h
  have ne_hyphen {c : Char} (h : isNameChar c) : c ≠ '-' := by
    rintro rfl
    simp [isNameChar] at h
  have hchain : (front ++ w).IsChain Apart := by
    refine List.isChain_append.2 ⟨isChain_apart_of_notMem hyphen, hw.isChain_apart, ?_⟩
    intro a _ b hb
    obtain rfl : first = b := by simpa [hfirst] using hb
    exact apart_of_isNameChar (Or.inr hn)
  refine fault?_eq_none_iff.2 ⟨?_, ?_, ?_, ?_, ?_, ?_, ?_⟩
  · rintro e
    simp [(List.append_eq_nil_iff.1 e).2] at hfirst
  · intro c hc
    rcases List.mem_append.1 hc with hc | hc
    · exact isTokenChar_of ((hf c hc).imp_right Or.inl)
    · exact isTokenChar_of (by simpa using hw.mem c hc)
  · cases front with
    | nil => simpa [hfirst] using ne_hyphen hn
    | cons c front => simpa using fun e : c = '-' => hyphen (by simp [e])
  · simpa [List.getLast?_append, hlast] using ne_hyphen hln
  · exact not_infix_of_isChain_apart hchain (by simp [Apart])
  · exact not_infix_of_isChain_apart hchain (by simp [Apart])
  · exact not_infix_of_isChain_apart hchain (by simp [Apart])

/-! ### What is read -/

/-- A token that is taken is read as a layout primitive when the prefix and something more is
there, and as a component when the prefix is not. -/
theorem parse_eq_ok_iff {layoutPrefix raw : String} {s : Selector} :
    parse layoutPrefix raw = .ok s ↔ fault? (tokenBody raw.toList) = none ∧
      ((∃ w, w ≠ [] ∧ tokenBody raw.toList = layoutPrefix.toList ++ w ∧
          s = ⟨raw, .layout (String.ofList w) (String.ofList (layoutPrefix.toList ++ w))⟩) ∨
        ¬ layoutPrefix.toList <+: tokenBody raw.toList ∧
          s = ⟨raw, componentOf (tokenBody raw.toList)⟩) := by
  unfold parse
  generalize tokenBody raw.toList = body
  dsimp only
  cases fault? body with
  | some fault => simp
  | none =>
    cases hp : layoutPrefix.toList.isPrefixOf? body with
    | none =>
      have hno : ¬ layoutPrefix.toList <+: body := by
        rintro ⟨w, hw⟩
        rw [List.isPrefixOf?_eq_some_iff_append_eq.2 hw] at hp
        contradiction
      have hno' : ∀ w, body ≠ layoutPrefix.toList ++ w := fun w e => hno ⟨w, e.symm⟩
      simp [hno, hno', eq_comm]
    | some w =>
      obtain rfl := List.isPrefixOf?_eq_some_iff_append_eq.1 hp
      cases w with
      | nil => simp
      | cons c w => simp [eq_comm]

theorem defects_layout_eq_nil_iff (raw whole : String) {w : List Char} :
    (⟨raw, .layout (String.ofList w) whole⟩ : Selector).defects = [] ↔
      JoinedWords ['_', '-'] w := by
  simp [defects, ← isSnakePath_iff]

theorem componentOf_of_notMem {body : List Char} (h : '-' ∉ body) :
    componentOf body = .component (String.ofList body) [] := by
  simp [componentOf, splitOn_of_notMem h]

theorem componentOf_append {block element : List Char} (hb : '-' ∉ block) (he : '-' ∉ element) :
    componentOf (block ++ '-' :: element) =
      .component (String.ofList block) [String.ofList element] := by
  simp [componentOf, splitOn_append_mark hb, splitOn_of_notMem he]

theorem notMem_of_joinedWords {body : List Char} (h : JoinedWords ['_'] body) : '-' ∉ body :=
  fun hm => by simpa [isNameChar] using h.mem '-' hm

/-- A component has no defect when it is a block, or a block and one element. -/
theorem defects_componentOf_eq_nil_iff (raw : String) {body : List Char} :
    (⟨raw, componentOf body⟩ : Selector).defects = [] ↔ JoinedWords ['_'] body ∨
      ∃ block element, body = block ++ '-' :: element ∧ JoinedWords ['_'] block ∧
        JoinedWords ['_'] element := by
  constructor
  · intro h
    rcases splitOn_cases '-' body with ⟨hm, -⟩ | ⟨block, rest, rfl, hb, e⟩
    · rw [componentOf_of_notMem hm] at h
      exact Or.inl (isSnakeCase_iff.1 (by simpa [defects] using h))
    · rcases splitOn_cases '-' rest with ⟨hr, -⟩ | ⟨first, more, rfl, -, e'⟩
      · rw [componentOf_append hb hr] at h
        have hs : isSnakeCase block ∧ isSnakeCase rest := by simpa [defects] using h
        exact Or.inr ⟨block, rest, rfl, isSnakeCase_iff.1 hs.1, isSnakeCase_iff.1 hs.2⟩
      · -- A second hyphen makes the path too long.
        obtain ⟨second, others, e''⟩ := exists_splitOn_eq_cons '-' more
        simp [defects, componentOf, e, e', e''] at h
  · rintro (h | ⟨block, element, rfl, hb, he⟩)
    · rw [componentOf_of_notMem (notMem_of_joinedWords h)]
      simpa [defects] using isSnakeCase_iff.2 h
    · rw [componentOf_append (notMem_of_joinedWords hb) (notMem_of_joinedWords he)]
      simpa [defects] using ⟨isSnakeCase_iff.2 hb, isSnakeCase_iff.2 he⟩

end Selector

/-- Only defects are found to be errors: of state words one is warned. -/
theorem Naming.forall_severity_ne_error_iff {c : Config} {o : Occurrence} :
    (∀ d ∈ Naming.check c o, d.severity ≠ .error) ↔ o.selector.defects = [] := by
  constructor
  · intro h
    refine List.eq_nil_iff_forall_not_mem.2 fun defect hd => ?_
    simp only [check, List.forall_mem_append] at h
    cases defect with
    | blockCase => simpa [blockCase, hd, Rule.finding, Rule.severity] using h.1.1.1
    | elementCase => simpa [elementCase, hd, Rule.finding, Rule.severity] using h.1.1.2
    | excessDepth => simpa [flatNesting, hd, Rule.finding, Rule.severity] using h.1.2
  · intro h d hd
    simp only [check, blockCase, elementCase, flatNesting, h, List.not_mem_nil, if_false,
      List.nil_append, stateInClass] at hd
    split at hd
    · rw [List.mem_singleton.1 hd]
      simp [Rule.finding, Rule.severity]
    · simp at hd

namespace Selector

variable {layoutPrefix raw : String}

theorem parse_layout (hp : ∀ c ∈ layoutPrefix.toList, isNameChar c ∨ c = '_') {w : List Char}
    (h : tokenBody raw.toList = layoutPrefix.toList ++ w) (hw : JoinedWords ['_', '-'] w) :
    parse layoutPrefix raw =
      .ok ⟨raw, .layout (String.ofList w) (String.ofList (layoutPrefix.toList ++ w))⟩ := by
  refine parse_eq_ok_iff.2 ⟨h ▸ fault?_append_eq_none _ hp hw, Or.inl ⟨w, ?_, h, rfl⟩⟩
  rintro rfl
  obtain ⟨c, hc, -⟩ := hw.head?
  simp at hc

theorem parse_component (h : ¬ layoutPrefix.toList <+: tokenBody raw.toList)
    (hw : JoinedWords ['_', '-'] (tokenBody raw.toList)) :
    parse layoutPrefix raw = .ok ⟨raw, componentOf (tokenBody raw.toList)⟩ :=
  parse_eq_ok_iff.2 ⟨fault?_append_eq_none [] (by simp) hw, Or.inr ⟨h, rfl⟩⟩

/-- **Which class tokens are free of errors.** A token is taken and no error is found in its name
exactly when it is the layout prefix and words joined by underscores and hyphens, or, without the
prefix, a block or a block and an element. It is read as what it is. -/
theorem error_free_iff (layoutPrefix raw : String) (c : Config) (l : Location)
    (hp : ∀ ch ∈ layoutPrefix.toList, isNameChar ch ∨ ch = '_') :
    ((∃ s, parse layoutPrefix raw = .ok s ∧ ∀ d ∈ Naming.check c ⟨s, l⟩, d.severity ≠ .error) ↔
      (∃ w, tokenBody raw.toList = layoutPrefix.toList ++ w ∧ JoinedWords ['_', '-'] w) ∨
        ¬ layoutPrefix.toList <+: tokenBody raw.toList ∧
          (JoinedWords ['_'] (tokenBody raw.toList) ∨
            ∃ b e, tokenBody raw.toList = b ++ '-' :: e ∧ JoinedWords ['_'] b ∧
              JoinedWords ['_'] e)) ∧
    (∀ w, tokenBody raw.toList = layoutPrefix.toList ++ w → JoinedWords ['_', '-'] w →
      ∃ s, parse layoutPrefix raw = .ok s ∧ s.kind = .layoutPrimitive ∧
        s.identifier? = some (String.ofList w)) ∧
    (¬ layoutPrefix.toList <+: tokenBody raw.toList →
      (∀ b, tokenBody raw.toList = b → JoinedWords ['_'] b →
        ∃ s, parse layoutPrefix raw = .ok s ∧ s.kind = .block ∧
          s.block? = some (String.ofList b) ∧ s.element? = none ∧ s.depth = 0) ∧
      ∀ b e, tokenBody raw.toList = b ++ '-' :: e → JoinedWords ['_'] b → JoinedWords ['_'] e →
        ∃ s, parse layoutPrefix raw = .ok s ∧ s.kind = .element ∧
          s.block? = some (String.ofList b) ∧ s.element? = some (String.ofList e) ∧
          s.depth = 1) := by
  have block {b : List Char} (h : JoinedWords ['_'] b) : JoinedWords ['_', '-'] b :=
    h.mono (by simp)
  have element {b e : List Char} (hb : JoinedWords ['_'] b) (he : JoinedWords ['_'] e) :
      JoinedWords ['_', '-'] (b ++ '-' :: e) := (block hb).append (by simp) (block he)
  refine ⟨⟨?_, ?_⟩, fun w h hw => ?_, fun hno => ⟨fun b h hb => ?_, fun b e h hb he => ?_⟩⟩
  · rintro ⟨s, hs, hd⟩
    rw [Naming.forall_severity_ne_error_iff] at hd
    obtain ⟨-, ⟨w, -, hw, rfl⟩ | ⟨hno, rfl⟩⟩ := parse_eq_ok_iff.1 hs
    · exact Or.inl ⟨w, hw, (defects_layout_eq_nil_iff _ _).1 hd⟩
    · exact Or.inr ⟨hno, (defects_componentOf_eq_nil_iff raw).1 hd⟩
  · rintro (⟨w, h, hw⟩ | ⟨hno, h⟩)
    · exact ⟨_, parse_layout hp h hw,
        Naming.forall_severity_ne_error_iff.2 ((defects_layout_eq_nil_iff _ _).2 hw)⟩
    · refine ⟨_, parse_component hno ?_,
        Naming.forall_severity_ne_error_iff.2 ((defects_componentOf_eq_nil_iff raw).2 h)⟩
      rcases h with h | ⟨b, e, h, hb, he⟩
      · exact block h
      · exact h ▸ element hb he
  · have hd := (defects_layout_eq_nil_iff raw (String.ofList (layoutPrefix.toList ++ w))).2 hw
    exact ⟨_, parse_layout hp h hw, by rw [kind, hd]; rfl, rfl⟩
  · have hd := (defects_componentOf_eq_nil_iff raw).2 (Or.inl (h ▸ hb))
    refine ⟨_, parse_component hno (h ▸ block hb), ?_⟩
    rw [h, componentOf_of_notMem (notMem_of_joinedWords hb)] at hd ⊢
    exact ⟨by rw [kind, hd]; rfl, rfl, rfl, rfl⟩
  · have hd := (defects_componentOf_eq_nil_iff raw).2 (Or.inr ⟨b, e, h, hb, he⟩)
    refine ⟨_, parse_component hno (h ▸ element hb he), ?_⟩
    rw [h, componentOf_append (notMem_of_joinedWords hb) (notMem_of_joinedWords he)] at hd ⊢
    exact ⟨by rw [kind, hd]; rfl, rfl, rfl, rfl⟩

/-- A block and an element between blanks, after a dot. -/
theorem error_free_pageLink :
    (∀ ch ∈ defaultLayoutPrefix.toList, isNameChar ch ∨ ch = '_') ∧
      (∃ s, parse defaultLayoutPrefix " .nav_bar-page_link\t" = .ok s ∧
        ∀ d ∈ Naming.check {} ⟨s, .wholeFile "a.css"⟩, d.severity ≠ .error) ∧
      ∃ s, parse defaultLayoutPrefix " .nav_bar-page_link\t" = .ok s ∧ s.kind = .element ∧
        s.block? = some "nav_bar" ∧ s.element? = some "page_link" ∧ s.depth = 1 := by
  have hp : ∀ ch ∈ defaultLayoutPrefix.toList, isNameChar ch ∨ ch = '_' := by
    simp [defaultLayoutPrefix, isNameChar]
  have hno : ¬ defaultLayoutPrefix.toList <+: tokenBody " .nav_bar-page_link\t".toList := by decide
  have h := error_free_iff defaultLayoutPrefix " .nav_bar-page_link\t" {} (.wholeFile "a.css") hp
  have hb : JoinedWords ['_'] "nav_bar".toList := isSnakeCase_iff.1 (by decide)
  have he : JoinedWords ['_'] "page_link".toList := isSnakeCase_iff.1 (by decide)
  have hbody : tokenBody " .nav_bar-page_link\t".toList =
      "nav_bar".toList ++ '-' :: "page_link".toList := by decide +kernel
  exact ⟨hp, h.1.2 (Or.inr ⟨hno, Or.inr ⟨_, _, hbody, hb, he⟩⟩),
    by simpa using (h.2.2 hno).2 _ _ hbody hb he⟩

end Selector

end BeamLint
