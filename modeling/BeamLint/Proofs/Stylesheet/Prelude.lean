import BeamLint.Proofs.Text.Blanking
import BeamLint.Proofs.Text.Trim
import BeamLint.Proofs.Value.Nesting
import BeamLint.Stylesheet.Scan

/-!
# What hides class names

In a prelude, attribute tests, strings and interpolations hide class names. Each of them runs from
an opening mark to the first closing mark behind it (`exists_of_preludeNoise`), whatever stands
between. So a text without quotes has a say in what is hidden behind it only through the closing
marks that it waits for (`WaitsFor`): the first of them that comes at all ends what is hidden, even
in a string that follows.

Behind two blanks, class names are found as if the text began there (`filter_classNames`).
-/

namespace BeamLint

open Text

/-! ### Opening and closing marks -/

section Enclosed

variable {opening text inner body : List Char} {close : Char} {n : Nat}

theorem enclosedLength?_eq_some (h : enclosedLength? opening close text = some n) :
    ∃ inner rest, text = opening ++ (inner ++ close :: rest) ∧ close ∉ inner ∧
      n = opening.length + inner.length + 1 := by
  unfold enclosedLength? at h
  split at h
  · contradiction
  · next body hbody =>
    dsimp only at h
    split at h
    · next hlt =>
      obtain rfl := Option.some.inj h
      have hsplit := List.takeWhile_append_dropWhile (p := (· ≠ close)) (l := body)
      have hne : body.dropWhile (· ≠ close) ≠ [] := by
        intro hnil
        rw [hnil, List.append_nil] at hsplit
        rw [hsplit] at hlt
        omega
      obtain ⟨d, rest, hrest⟩ := List.exists_cons_of_ne_nil hne
      obtain rfl : d = close := by
        have hd := List.head?_dropWhile_not (fun c => decide (c ≠ close)) body
        rw [hrest] at hd
        simpa using hd
      refine ⟨_, rest, ?_, ?_, rfl⟩
      · rw [← hrest, hsplit]
        exact (List.isPrefixOf?_eq_some_iff_append_eq.1 hbody).symm
      · intro hm
        simpa using List.mem_takeWhile_imp hm
    · contradiction

theorem enclosedLength?_append (h : close ∉ inner) (rest : List Char) :
    enclosedLength? opening close (opening ++ (inner ++ close :: rest)) =
      some (opening.length + inner.length + 1) := by
  have hstarts := List.isPrefixOf?_eq_some_iff_append_eq.2
    (rfl : opening ++ (inner ++ close :: rest) = opening ++ (inner ++ close :: rest))
  have htake : (inner ++ close :: rest).takeWhile (· ≠ close) = inner := by
    rw [List.takeWhile_append_of_pos]
    · simp
    · intro c hc
      simpa using fun e : c = close => h (e ▸ hc)
  unfold enclosedLength?
  rw [hstarts]
  dsimp only
  rw [htake, if_pos (by simp)]

theorem enclosedLength?_eq_none_of_not_mem (h : close ∉ body) :
    enclosedLength? opening close (opening ++ body) = none := by
  cases hread : enclosedLength? opening close (opening ++ body) with
  | none => rfl
  | some n =>
    obtain ⟨inner, rest, htext, -, -⟩ := enclosedLength?_eq_some hread
    rw [List.append_right_inj] at htext
    simp [htext] at h

theorem enclosedLength?_eq_none_of_not_isPrefix (h : ¬ opening <+: text) :
    enclosedLength? opening close text = none := by
  cases hread : enclosedLength? opening close text with
  | none => rfl
  | some n =>
    obtain ⟨inner, rest, htext, -, -⟩ := enclosedLength?_eq_some hread
    exact absurd ⟨_, htext.symm⟩ h

end Enclosed

/-- The opening marks of what hides class names, each with its closing mark. -/
def noiseMarks : List (List Char × Char) :=
  [(['['], ']'), (['"'], '"'), (['\''], '\''), (['#', '{'], '}')]

section Noise

variable {b : Option Char} {text opening : List Char} {close : Char} {n : Nat}

theorem preludeNoise_opening (h : (opening, close) ∈ noiseMarks) (body : List Char) :
    preludeNoise b (opening ++ body) =
      (enclosedLength? opening close (opening ++ body)).map (·, ()) := by
  have hother (other : List Char) {mark : Char} (hno : ¬ other <+: opening ++ body) :
      enclosedLength? other mark (opening ++ body) = none :=
    enclosedLength?_eq_none_of_not_isPrefix hno
  simp only [noiseMarks, List.mem_cons, List.not_mem_nil, or_false, Prod.mk.injEq] at h
  unfold preludeNoise
  rcases h with ⟨rfl, rfl⟩ | ⟨rfl, rfl⟩ | ⟨rfl, rfl⟩ | ⟨rfl, rfl⟩
  · rw [hother ['"'] (by simp), hother ['\''] (by simp), hother ['#', '{'] (by simp)]
    simp
  · rw [hother ['['] (by simp), hother ['\''] (by simp), hother ['#', '{'] (by simp)]
    simp
  · rw [hother ['['] (by simp), hother ['"'] (by simp), hother ['#', '{'] (by simp)]
    simp
  · rw [hother ['['] (by simp), hother ['"'] (by simp), hother ['\''] (by simp)]
    simp

theorem preludeNoise_eq_none (h : ∀ m ∈ noiseMarks, ¬ m.1 <+: text) :
    preludeNoise b text = none := by
  simp only [noiseMarks, List.forall_mem_cons, List.not_mem_nil, false_implies, implies_true,
    and_true] at h
  obtain ⟨h₁, h₂, h₃, h₄⟩ := h
  unfold preludeNoise
  rw [enclosedLength?_eq_none_of_not_isPrefix h₁, enclosedLength?_eq_none_of_not_isPrefix h₂,
    enclosedLength?_eq_none_of_not_isPrefix h₃, enclosedLength?_eq_none_of_not_isPrefix h₄]
  rfl

theorem preludeNoise_cons {c : Char} (hq : isQuote c = false) (hc : c ≠ '[' ∧ c ≠ '#')
    (rest : List Char) : preludeNoise b (c :: rest) = none := by
  simp only [isQuote, Bool.or_eq_false_iff, beq_eq_false_iff_ne] at hq
  apply preludeNoise_eq_none
  intro m hm hstarts
  simp only [noiseMarks, List.mem_cons, List.not_mem_nil, or_false] at hm
  rcases hm with rfl | rfl | rfl | rfl
  · exact hc.1 (List.cons_prefix_cons.1 hstarts).1.symm
  · exact hq.2 (List.cons_prefix_cons.1 hstarts).1.symm
  · exact hq.1 (List.cons_prefix_cons.1 hstarts).1.symm
  · exact hc.2 (List.cons_prefix_cons.1 hstarts).1.symm

/-- What hides class names runs from an opening mark to the first closing mark. -/
theorem exists_of_preludeNoise {u : Unit} (h : preludeNoise b text = some (n, u)) :
    ∃ opening close inner rest, (opening, close) ∈ noiseMarks ∧
      text = opening ++ (inner ++ close :: rest) ∧ close ∉ inner ∧
        n = opening.length + inner.length + 1 := by
  by_cases hopen : ∃ m ∈ noiseMarks, m.1 <+: text
  · obtain ⟨⟨opening, close⟩, hm, body, rfl⟩ := hopen
    rw [preludeNoise_opening hm] at h
    obtain ⟨m, hread, hmn⟩ := Option.map_eq_some_iff.1 h
    obtain rfl : m = n := congrArg Prod.fst hmn
    obtain ⟨inner, rest, htext, hinner, rfl⟩ := enclosedLength?_eq_some hread
    exact ⟨opening, close, inner, rest, hm, htext, hinner, rfl⟩
  · rw [preludeNoise_eq_none (by simpa using hopen)] at h
    contradiction

theorem preludeNoise_singleton (c : Char) : preludeNoise b [c] = none := by
  cases h : preludeNoise b [c] with
  | none => rfl
  | some read =>
    obtain ⟨opening, close, inner, rest, hm, htext, -, -⟩ := exists_of_preludeNoise h
    have hpos : opening ≠ [] := by
      rintro rfl
      simp [noiseMarks] at hm
    have hlength := congrArg List.length htext
    have hone := List.length_pos_iff.2 hpos
    simp only [List.length_append, List.length_cons, List.length_nil] at hlength
    omega

/-- What hides class names does not reach into a text without closing marks. -/
theorem stop_le_of_mem_noise {front back : List Char}
    (hback : ∀ m ∈ noiseMarks, m.2 ∉ back) {f : Found Unit}
    (hf : f ∈ findAll preludeNoise (front ++ back)) : f.stop ≤ front.length := by
  obtain ⟨before, after, b, htext, hstart, -, hread⟩ := exists_of_mem_findAll hf
  obtain ⟨opening, close, inner, rest, hm, rfl, -, hlength⟩ := exists_of_preludeNoise hread
  by_contra hgt
  rw [Found.stop, hstart, hlength] at hgt
  -- The closing mark stands at a place behind `front`.
  have hsplit : front ++ back = (before ++ opening ++ inner) ++ close :: rest := by simp [htext]
  have hplace : (front ++ back)[(before ++ opening ++ inner).length]? = some close := by
    rw [hsplit, List.getElem?_append_right le_rfl, Nat.sub_self]
    rfl
  rw [List.getElem?_append_right (by simp only [List.length_append]; omega)] at hplace
  exact hback _ hm (List.mem_of_getElem? hplace)

/-- A string hides class names, up to its end. -/
theorem preludeNoise_quoted {q : Char} (hq : isQuote q) {content : List Char}
    (hc : IsContent content) (rest : List Char) :
    preludeNoise b (q :: (content ++ q :: rest)) = some ((q :: (content ++ [q])).length, ()) := by
  have hmark : ([q], q) ∈ noiseMarks := by
    rcases isQuote_iff.1 hq with rfl | rfl <;> simp [noiseMarks]
  have hmem : q ∉ content := fun hm => by simp [(hc q hm).1] at hq
  have hread := preludeNoise_opening (b := b) hmark (content ++ q :: rest)
  rw [enclosedLength?_append hmem] at hread
  rw [← List.singleton_append, hread]
  simp
  omega

theorem blankFound_quoted {q : Char} (hq : isQuote q) {content : List Char} (hc : IsContent content)
    (rest : List Char) :
    blankFound preludeNoise (q :: (content ++ q :: rest)) =
      (q :: (content ++ [q])).map blankChar ++ blankFound preludeNoise rest := by
  have hsplit : q :: (content ++ q :: rest) = q :: (content ++ [q]) ++ rest := by simp
  have hread := preludeNoise_quoted (b := none) hq hc rest
  rw [hsplit] at hread ⊢
  exact blankFound_append_part (fun _ _ _ => rfl) (by simp) hread

end Noise

/-! ### Texts that wait for a closing mark -/

/-- In what follows the text, the first of the marks to occur at all ends what is hidden; the marks
stand in the order of their opening marks. -/
structure WaitsFor (front marks : List Char) : Prop where
  isMark : ∀ c ∈ marks, c = ']' ∨ c = '}'
  /-- Without the marks, what follows stands for itself. -/
  unmet : ∀ rest : List Char, rest.head? ≠ some '{' → (∀ c ∈ marks, c ∉ rest) →
    ∃ front', front'.length = front.length ∧
      blankFound preludeNoise (front ++ rest) = front' ++ blankFound preludeNoise rest
  /-- Up to the mark, all is hidden. -/
  met : ∀ (inner rest : List Char) (close : Char), (inner ++ close :: rest).head? ≠ some '{' →
    marks.find? (· ∈ inner ++ close :: rest) = some close → close ∉ inner →
    ∃ front', front'.length = front.length ∧
      blankFound preludeNoise (front ++ (inner ++ close :: rest)) =
        front' ++ ((inner ++ [close]).map blankChar ++ blankFound preludeNoise rest)

/-- The opening marks of a text without quotes are those of attribute tests and interpolations. -/
theorem close_of_opening_isPrefix {front opening : List Char} {close : Char}
    (hq : ∀ c ∈ front, isQuote c = false) (hm : (opening, close) ∈ noiseMarks)
    (h : opening <+: front) : close = ']' ∨ close = '}' := by
  simp only [noiseMarks, List.mem_cons, List.not_mem_nil, or_false, Prod.mk.injEq] at hm
  rcases hm with ⟨-, rfl⟩ | ⟨rfl, -⟩ | ⟨rfl, -⟩ | ⟨-, rfl⟩
  · exact Or.inl rfl
  · exact absurd (hq '"' (h.mem (by simp))) (by decide)
  · exact absurd (hq '\'' (h.mem (by simp))) (by decide)
  · exact Or.inr rfl

/-- An opening mark does not end behind the text that it begins in, unless a brace stands there. -/
theorem opening_isPrefix_of_append {front rest : List Char} {m : List Char × Char}
    (hne : front ≠ []) (hrest : rest.head? ≠ some '{') (hm : m ∈ noiseMarks)
    (h : m.1 <+: front ++ rest) :
    m.1 <+: front := by
  obtain ⟨c, later, rfl⟩ := List.exists_cons_of_ne_nil hne
  simp only [noiseMarks, List.mem_cons, List.not_mem_nil, or_false] at hm
  rcases hm with rfl | rfl | rfl | rfl
  · simpa using h
  · simpa using h
  · simpa using h
  · cases later with
    | nil =>
      obtain ⟨-, hbrace⟩ : '#' = c ∧ ['{'] <+: rest := by simpa using h
      obtain ⟨after, rfl⟩ := hbrace
      exact absurd rfl hrest
    | cons d later => simpa using h

/-- At the beginning of a text without quotes nothing is hidden, whatever follows it, or a part of
the text is hidden, or a mark is waited for. -/
theorem preludeNoise_cases {front : List Char} (hne : front ≠ [])
    (hq : ∀ c ∈ front, isQuote c = false) :
    (∀ rest : List Char, rest.head? ≠ some '{' → preludeNoise none (front ++ rest) = none) ∨
      (∃ part later, part ≠ [] ∧ front = part ++ later ∧
        ∀ rest, preludeNoise none (front ++ rest) = some (part.length, ())) ∨
      ∃ close, (close = ']' ∨ close = '}') ∧ ∀ inner, close ∉ inner →
        preludeNoise none (front ++ inner) = none ∧ ∀ rest,
          preludeNoise none (front ++ (inner ++ close :: rest)) =
            some (front.length + inner.length + 1, ()) := by
  by_cases hopen : ∃ m ∈ noiseMarks, m.1 <+: front
  · right
    obtain ⟨⟨opening, close⟩, hm, body, rfl⟩ := hopen
    by_cases hclose : close ∈ body
    · left
      obtain ⟨inner, later, rfl, hinner⟩ := List.eq_append_cons_of_mem hclose
      refine ⟨opening ++ (inner ++ [close]), later, by simp, by simp, fun rest => ?_⟩
      rw [List.append_assoc, List.append_assoc, preludeNoise_opening hm, List.cons_append,
        enclosedLength?_append hinner]
      simp [Nat.add_assoc]
    · right
      refine ⟨close, close_of_opening_isPrefix hq hm (List.prefix_append _ _),
        fun inner hinner => ⟨?_, fun rest => ?_⟩⟩
      · rw [List.append_assoc, preludeNoise_opening hm, enclosedLength?_eq_none_of_not_mem]
        · rfl
        · simp [hclose, hinner]
      · have hboth : close ∉ body ++ inner := by simp [hclose, hinner]
        rw [List.append_assoc, ← List.append_assoc body, preludeNoise_opening hm,
          enclosedLength?_append hboth]
        simp only [List.length_append, Option.map_some]
        congr 2
        omega
  · left
    intro rest hrest
    apply preludeNoise_eq_none
    intro m hm hstarts
    exact hopen ⟨m, hm, opening_isPrefix_of_append hne hrest hm hstarts⟩

namespace WaitsFor

variable {later marks : List Char}

/-- A part that is left alone or hidden, whatever follows, waits for nothing. -/
theorem append {part part' : List Char} (h : WaitsFor later marks)
    (hlength : part'.length = part.length)
    (hpart : ∀ rest : List Char, rest.head? ≠ some '{' →
      blankFound preludeNoise (part ++ (later ++ rest)) =
        part' ++ blankFound preludeNoise (later ++ rest)) :
    WaitsFor (part ++ later) marks where
  isMark := h.isMark
  unmet rest hrest hm := by
    obtain ⟨front', hfront, hblank⟩ := h.unmet rest hrest hm
    refine ⟨part' ++ front', by simp [hlength, hfront], ?_⟩
    rw [List.append_assoc, hpart rest hrest, hblank, List.append_assoc]
  met inner rest close hrest hfind hi := by
    obtain ⟨front', hfront, hblank⟩ := h.met inner rest close hrest hfind hi
    refine ⟨part' ++ front', by simp [hlength, hfront], ?_⟩
    rw [List.append_assoc, hpart _ hrest, hblank, List.append_assoc]

/-- A mark is waited for; where it does not come, the first character is left alone. -/
theorem wait {c close : Char} (h : WaitsFor later marks) (hclose : close = ']' ∨ close = '}')
    (hwait : ∀ inner, close ∉ inner → preludeNoise none (c :: (later ++ inner)) = none ∧
      ∀ rest, preludeNoise none (c :: (later ++ (inner ++ close :: rest))) =
        some ((c :: later).length + inner.length + 1, ())) :
    WaitsFor (c :: later) (close :: marks) where
  isMark := List.forall_mem_cons.2 ⟨hclose, h.isMark⟩
  unmet rest hrest hm := by
    obtain ⟨hno, hm⟩ := List.forall_mem_cons.1 hm
    obtain ⟨front', hfront, hblank⟩ := h.unmet rest hrest hm
    refine ⟨c :: front', by simp [hfront], ?_⟩
    rw [List.cons_append, blankFound_cons (fun _ _ _ => rfl) (hwait rest hno).1, hblank,
      List.cons_append]
  met inner rest mark hrest hfind hi := by
    by_cases hmem : close ∈ inner ++ mark :: rest
    · rw [List.find?_cons_of_pos (by simpa using hmem)] at hfind
      obtain rfl := Option.some.inj hfind
      have hsplit : c :: (later ++ (inner ++ close :: rest)) =
          (c :: later ++ (inner ++ [close])) ++ rest := by simp
      have hlength : (c :: later ++ (inner ++ [close])).length =
          (c :: later).length + inner.length + 1 := by
        rw [List.length_append, List.length_append, List.length_singleton, Nat.add_assoc]
      have hread := (hwait inner hi).2 rest
      rw [hsplit, ← hlength] at hread
      refine ⟨(c :: later).map blankChar, by simp, ?_⟩
      rw [List.cons_append, hsplit, blankFound_append_part (fun _ _ _ => rfl) (by simp) hread,
        List.map_append, List.append_assoc]
    · rw [List.find?_cons_of_neg (by simpa using hmem)] at hfind
      obtain ⟨front', hfront, hblank⟩ := h.met inner rest mark hrest hfind hi
      refine ⟨c :: front', by simp [hfront], ?_⟩
      rw [List.cons_append, blankFound_cons (fun _ _ _ => rfl) (hwait _ hmem).1, hblank,
        List.cons_append]

end WaitsFor

theorem exists_waitsFor {front : List Char} (hq : ∀ c ∈ front, isQuote c = false) :
    ∃ marks, WaitsFor front marks := by
  induction hlength : front.length using Nat.strong_induction_on generalizing front with
  | h n ih =>
    subst hlength
    by_cases hne : front = []
    · subst hne
      refine ⟨[], ⟨by simp, fun rest _ _ => ⟨[], rfl, rfl⟩, fun inner rest close _ hfind _ => ?_⟩⟩
      simp at hfind
    · obtain ⟨c, later, rfl⟩ := List.exists_cons_of_ne_nil hne
      rcases preludeNoise_cases hne hq with hnone | ⟨part, later', hpart, hsplit, hread⟩ |
        ⟨close, hclose, hwait⟩
      · obtain ⟨marks, h⟩ := ih later.length (by simp) (List.forall_mem_cons.1 hq).2 rfl
        have hpart (rest : List Char) (hrest : rest.head? ≠ some '{') :
            blankFound preludeNoise ([c] ++ (later ++ rest)) =
              [c] ++ blankFound preludeNoise (later ++ rest) :=
          blankFound_cons (fun _ _ _ => rfl) (hnone rest hrest)
        exact ⟨marks, h.append rfl hpart⟩
      · have hshorter : later'.length < (c :: later).length := by
          have hpos := List.length_pos_iff.2 hpart
          rw [hsplit, List.length_append]
          omega
        rw [hsplit] at hq hread ⊢
        obtain ⟨marks, h⟩ := ih later'.length hshorter (fun d hd => hq d (by simp [hd])) rfl
        have hhidden (rest : List Char) (_ : rest.head? ≠ some '{') :
            blankFound preludeNoise (part ++ (later' ++ rest)) =
              part.map blankChar ++ blankFound preludeNoise (later' ++ rest) := by
          have hfirst := hread rest
          rw [List.append_assoc] at hfirst
          exact blankFound_append_part (fun _ _ _ => rfl) hpart hfirst
        exact ⟨marks, h.append (by simp) hhidden⟩
      · obtain ⟨marks, h⟩ := ih later.length (by simp) (List.forall_mem_cons.1 hq).2 rfl
        exact ⟨close :: marks, h.wait hclose hwait⟩

/-! ### Strings behind a text -/

/-- Behind the text, the character is hidden: it ends an attribute test or an interpolation. -/
def Hides (front : List Char) (c : Char) : Prop :=
  (blankFound preludeNoise (front ++ [c])).getLast? ≠ some c

instance (front : List Char) (c : Char) : Decidable (Hides front c) :=
  inferInstanceAs (Decidable (_ ≠ _))

theorem WaitsFor.hides_iff {front marks : List Char} (h : WaitsFor front marks) {c : Char} :
    Hides front c ↔ c ∈ marks := by
  by_cases hbrace : c = '{'
  · subst hbrace
    obtain ⟨front', -, hblank⟩ := exists_blankFound_append (r := preludeNoise) front ['{']
      fun f hf => stop_le_of_mem_noise (by simp [noiseMarks]) hf
    have hno : '{' ∉ marks := fun hm => by simpa using h.isMark _ hm
    simp [Hides, hblank, hno]
  · have hhead : ([] ++ c :: ([] : List Char)).head? ≠ some '{' := by simpa using hbrace
    by_cases hm : c ∈ marks
    · have hfind : marks.find? (· ∈ [] ++ c :: ([] : List Char)) = some c := by
        obtain ⟨d, hd⟩ := Option.isSome_iff_exists.1
          (List.find?_isSome.2 ⟨c, hm, by simp⟩ :
            (marks.find? (· ∈ [] ++ c :: ([] : List Char))).isSome)
        obtain rfl : d = c := by simpa using List.find?_some hd
        exact hd
      obtain ⟨front', -, hblank⟩ := h.met [] [] c hhead hfind (by simp)
      have hchar : blankChar c ≠ c := by
        rcases h.isMark c hm with rfl | rfl <;> decide
      have hnil : blankFound preludeNoise ([] : List Char) = [] := rfl
      rw [List.nil_append, hnil] at hblank
      simp [Hides, hblank, hm, hchar]
    · obtain ⟨front', -, hblank⟩ := h.unmet [c] hhead fun d hd hdc => by
        obtain rfl : d = c := by simpa using hdc
        exact hm hd
      have hsingle : blankFound preludeNoise [c] = [c] :=
        blankFound_cons (fun _ _ _ => rfl) (preludeNoise_singleton c)
      rw [hsingle] at hblank
      simp [Hides, hblank, hm]

/-- Only the marks of attribute tests and interpolations hide anything behind a text without
quotes. -/
theorem mark_of_hides {front : List Char} (hq : ∀ c ∈ front, isQuote c = false) {c : Char}
    (h : Hides front c) : c = ']' ∨ c = '}' := by
  obtain ⟨marks, hmarks⟩ := exists_waitsFor hq
  exact hmarks.isMark c (hmarks.hides_iff.1 h)

section String

variable {front marks content back : List Char} {q : Char}

theorem head?_quoted_ne (hq : isQuote q) (rest : List Char) : (q :: rest).head? ≠ some '{' :=
  fun e => ne_of_isQuote hq (by decide) (Option.some.inj e)

/-- A string that is blanked ends with two blanks. -/
theorem exists_map_blankChar_quoted (q : Char) (front content back : List Char) :
    ∃ part a b, part.length = front.length + content.length ∧
      front ++ ((q :: (content ++ [q])).map blankChar ++ back) =
        part ++ blankChar a :: blankChar b :: back := by
  have hsplit := (q :: content).dropLast_append_getLast (List.cons_ne_nil _ _)
  refine ⟨front ++ (q :: content).dropLast.map blankChar,
    (q :: content).getLast (List.cons_ne_nil _ _), q, by simp, ?_⟩
  rw [← List.cons_append]
  nth_rewrite 1 [← hsplit]
  simp

namespace WaitsFor

variable (h : WaitsFor front marks) (hq : isQuote q)

include h hq

/-- A quote is no mark that is waited for. -/
theorem ne_quote {c : Char} (hm : c ∈ marks) : c ≠ q := by
  rcases h.isMark c hm with rfl | rfl
  · exact (ne_of_isQuote hq (by decide)).symm
  · exact (ne_of_isQuote hq (by decide)).symm

theorem mem_quoted_iff {c : Char} (hm : c ∈ marks) (hc : c ∉ content) :
    c ∈ q :: (content ++ q :: back) ↔ c ∈ back := by
  simp [h.ne_quote hq hm, hc]

variable (hno : ∀ c ∈ marks, c ∉ content)

include hno

/-- A string stands for itself where nothing that is waited for comes in it or behind it. -/
theorem quoted_unmet (hc : IsContent content) (hback : ∀ c ∈ marks, c ∉ back) :
    ∃ front', front'.length = front.length ∧
      blankFound preludeNoise (front ++ q :: (content ++ q :: back)) =
        front' ++ ((q :: (content ++ [q])).map blankChar ++ blankFound preludeNoise back) := by
  have hunmet : ∀ c ∈ marks, c ∉ q :: (content ++ q :: back) :=
    fun c hm => mt (h.mem_quoted_iff hq hm (hno c hm)).1 (hback c hm)
  obtain ⟨front', hlength, hblank⟩ := h.unmet _ (head?_quoted_ne hq _) hunmet
  exact ⟨front', hlength, by rw [hblank, blankFound_quoted hq hc]⟩

/-- A string belongs to what is hidden where the mark that is waited for comes behind it. -/
theorem quoted_met {inner rest : List Char} {close : Char}
    (hfind : marks.find? (· ∈ inner ++ close :: rest) = some close) (hinner : close ∉ inner) :
    ∃ front', front'.length = front.length ∧
      blankFound preludeNoise (front ++ q :: (content ++ q :: (inner ++ close :: rest))) =
        front' ++ ((q :: (content ++ [q])).map blankChar ++
          ((inner ++ [close]).map blankChar ++ blankFound preludeNoise rest)) := by
  have hmark : close ∈ marks := List.mem_of_find?_eq_some hfind
  have hsplit : q :: (content ++ q :: (inner ++ close :: rest)) =
      q :: (content ++ q :: inner) ++ close :: rest := by simp
  have hfind' : marks.find? (· ∈ q :: (content ++ q :: inner) ++ close :: rest) = some close := by
    rw [← hfind, ← hsplit]
    apply List.find?_congr
    intro c hm
    rw [decide_eq_decide]
    exact h.mem_quoted_iff hq hm (hno c hm)
  have hnot : close ∉ q :: (content ++ q :: inner) :=
    mt (h.mem_quoted_iff hq hmark (hno close hmark)).1 hinner
  rw [hsplit]
  obtain ⟨front', hlength, hblank⟩ := h.met _ rest close (head?_quoted_ne hq _) hfind' hnot
  exact ⟨front', hlength, by rw [hblank]; simp⟩

end WaitsFor

variable (hfront : ∀ c ∈ front, isQuote c = false) (hq : isQuote q)

include hfront hq

/-- A string that hides nothing of `front` is hidden as a whole, and what is hidden behind it does
not depend on its content. -/
theorem exists_blankFound_string (back : List Char) :
    ∃ back', ((']' ∉ back ∧ '}' ∉ back) → back' = blankFound preludeNoise back) ∧
      ∀ content, IsContent content → (∀ c ∈ content, ¬ Hides front c) →
        ∃ part a b, part.length = front.length + content.length ∧
          blankFound preludeNoise (front ++ q :: (content ++ q :: back)) =
            part ++ blankChar a :: blankChar b :: back' := by
  obtain ⟨marks, h⟩ := exists_waitsFor hfront
  have hunhidden {content : List Char} (hno : ∀ c ∈ content, ¬ Hides front c) :
      ∀ c ∈ marks, c ∉ content := fun c hm hmem => hno c hmem (h.hides_iff.2 hm)
  cases hfind : marks.find? (· ∈ back) with
  | none =>
    refine ⟨blankFound preludeNoise back, fun _ => rfl, fun content hc hno => ?_⟩
    have hback : ∀ c ∈ marks, c ∉ back := by simpa using hfind
    obtain ⟨front', hlength, hblank⟩ := h.quoted_unmet hq (hunhidden hno) hc hback
    rw [hblank, ← hlength]
    exact exists_map_blankChar_quoted q front' content _
  | some close =>
    have hclose : close ∈ back := by simpa using List.find?_some hfind
    obtain ⟨inner, rest, rfl, hinner⟩ := List.eq_append_cons_of_mem hclose
    refine ⟨(inner ++ [close]).map blankChar ++ blankFound preludeNoise rest, ?_,
      fun content hc hno => ?_⟩
    · intro hback
      rcases h.isMark close (List.mem_of_find?_eq_some hfind) with rfl | rfl
      · exact absurd hclose hback.1
      · exact absurd hclose hback.2
    · obtain ⟨front', hlength, hblank⟩ := h.quoted_met hq (hunhidden hno) hfind hinner
      rw [hblank, ← hlength]
      exact exists_map_blankChar_quoted q front' content _

/-- A string in which something ends that is waited for: its closing quote opens a string. -/
theorem exists_blankFound_hides (hc : IsContent content) {c : Char} (hmem : c ∈ content)
    (hhides : Hides front c) {name : List Char} (hname : IsContent name)
    (hback : ∀ d ∈ name ++ q :: back, d ≠ ']' ∧ d ≠ '}') :
    ∃ part, part.length = front.length + content.length + 1 ∧
      blankFound preludeNoise (front ++ q :: (content ++ q :: (name ++ q :: back))) =
        part ++ ((q :: (name ++ [q])).map blankChar ++ blankFound preludeNoise back) := by
  have hbehind {front marks : List Char} (h : WaitsFor front marks) :
      ∀ d ∈ marks, d ∉ name ++ q :: back := by
    intro d hm hd
    obtain ⟨hbracket, hbrace⟩ := hback d hd
    exact (h.isMark d hm).elim hbracket hbrace
  obtain ⟨marks, h⟩ := exists_waitsFor hfront
  obtain ⟨close, hfind⟩ := Option.isSome_iff_exists.1
    (List.find?_isSome.2 ⟨c, h.hides_iff.1 hhides, by simp [hmem]⟩ :
      (marks.find? (· ∈ q :: (content ++ q :: (name ++ q :: back)))).isSome)
  have hmark : close ∈ marks := List.mem_of_find?_eq_some hfind
  have hclose : close ∈ content := by
    by_contra hno
    have hin : close ∈ q :: (content ++ q :: (name ++ q :: back)) := by
      simpa using List.find?_some hfind
    exact hbehind h close hmark ((h.mem_quoted_iff hq hmark hno).1 hin)
  obtain ⟨inner, rest, rfl, hinner⟩ := List.eq_append_cons_of_mem hclose
  have hsplit : q :: (inner ++ close :: rest ++ q :: (name ++ q :: back)) =
      q :: inner ++ close :: (rest ++ q :: (name ++ q :: back)) := by simp
  have hnot : close ∉ q :: inner := by simp [h.ne_quote hq hmark, hinner]
  rw [hsplit] at hfind ⊢
  obtain ⟨front', hlength, hblank⟩ := h.met _ _ _ (head?_quoted_ne hq _) hfind hnot
  -- Behind the mark, nothing in the rest of the string reaches beyond the closing quote.
  have hplain : ∀ d ∈ rest, isQuote d = false := fun d hd => (hc d (by simp [hd])).1
  obtain ⟨marks', h'⟩ := exists_waitsFor hplain
  have hunmet : ∀ d ∈ marks', d ∉ q :: (name ++ q :: back) := by
    intro d hd
    rw [List.mem_cons, not_or]
    exact ⟨h'.ne_quote hq hd, hbehind h' d hd⟩
  obtain ⟨rest', hlength', hblank'⟩ := h'.unmet _ (head?_quoted_ne hq _) hunmet
  refine ⟨front' ++ ((q :: inner ++ [close]).map blankChar ++ rest'), ?_, ?_⟩
  · simp only [List.length_append, List.length_map, List.length_cons, List.length_nil, hlength,
      hlength']
    omega
  · rw [hblank, hblank', blankFound_quoted hq hname]
    simp

end String

/-! ### Class names behind blanks -/

theorem classNameRun_isPrefix (text : List Char) : classNameRun text <+: text := by
  fun_induction classNameRun text with
  | case1 rest => exact List.nil_prefix
  | case2 c rest hc ih =>
    rw [List.cons_prefix_cons, List.cons_prefix_cons]
    exact ⟨rfl, rfl, ih⟩
  | case3 c rest hc h ih =>
    rw [List.cons_prefix_cons]
    exact ⟨rfl, ih⟩
  | case4 c rest hc h => exact List.nil_prefix
  | case5 => exact List.nil_prefix

theorem blankChar_ne {c : Char} (a : Char) (hc : isBlank c = false) : blankChar a ≠ c :=
  ne_of_isBlank (isBlank_blankChar a) hc

theorem isWord_blankChar (a : Char) : (isWord (blankChar a) || blankChar a == '-') = false := by
  unfold blankChar
  split <;> decide

/-- A class name does not begin with a blank, unless the blank is escaped. -/
theorem head?_classNameRun_ne (a : Char) (text : List Char) :
    (classNameRun text).head? ≠ some (blankChar a) := by
  fun_induction classNameRun text with
  | case1 rest => simp
  | case2 c rest hc ih => simpa using (blankChar_ne a (by decide)).symm
  | case3 c rest hc h ih =>
    rintro ⟨rfl⟩
    rw [isWord_blankChar] at h
    contradiction
  | case4 c rest hc h => simp
  | case5 => simp

/-- A class name does not go on over two blanks. -/
theorem not_infix_classNameRun (a b : Char) (text : List Char) :
    ¬ [blankChar a, blankChar b] <:+: classNameRun text := by
  fun_induction classNameRun text with
  | case1 rest => simp
  | case2 c rest hc ih =>
    rw [List.infix_cons_iff, List.infix_cons_iff, not_or, not_or]
    refine ⟨?_, ?_, ih⟩
    · rw [List.cons_prefix_cons]
      exact fun h => blankChar_ne a (by decide) h.1
    · rw [List.cons_prefix_cons]
      rintro ⟨-, later, hlater⟩
      apply head?_classNameRun_ne b rest
      rw [← hlater]
      rfl
  | case3 c rest hc h ih =>
    rw [List.infix_cons_iff, not_or]
    refine ⟨?_, ih⟩
    rw [List.cons_prefix_cons]
    rintro ⟨rfl, -⟩
    rw [isWord_blankChar] at h
    contradiction
  | case4 c rest hc h => simp
  | case5 => simp

theorem classNameRecognizer_eq_some {before : Option Char} {text name : List Char} {n : Nat}
    (h : classNameRecognizer before text = some (n, name)) :
    ∃ rest, text = '.' :: rest ∧ name = classNameRun rest ∧ n = name.length + 1 := by
  unfold classNameRecognizer at h
  split at h
  · next rest =>
    dsimp only at h
    split at h
    · simp only [Option.some.injEq, Prod.mk.injEq] at h
      obtain ⟨rfl, rfl⟩ := h
      exact ⟨rest, rfl, rfl, rfl⟩
    · contradiction
  · contradiction

/-- Where there is no dot, no class name begins. -/
theorem start_lt_of_mem_classNames {front back : List Char} (h : '.' ∉ back)
    {f : Found (List Char)} (hf : f ∈ findAll classNameRecognizer (front ++ back)) :
    f.start < front.length := by
  obtain ⟨before, after, b, htext, hstart, -, hread⟩ := exists_of_mem_findAll hf
  obtain ⟨rest, rfl, -, -⟩ := classNameRecognizer_eq_some hread
  by_contra hge
  have hplace : (front ++ back)[before.length]? = some '.' := by
    rw [htext, List.getElem?_append_right le_rfl, Nat.sub_self]
    rfl
  rw [List.getElem?_append_right (by omega)] at hplace
  exact h (List.mem_of_getElem? hplace)

/-- Behind two blanks, class names are found as if the text began there. -/
theorem filter_classNames (front : List Char) (a b : Char) (back : List Char) :
    (findAll classNameRecognizer (front ++ blankChar a :: blankChar b :: back)).filter
        (fun f => front.length + 2 ≤ f.start) =
      (findAll classNameRecognizer back).map (Found.shift (front.length + 2)) := by
  have hsplit : front ++ blankChar a :: blankChar b :: back =
      (front ++ [blankChar a, blankChar b]) ++ back := by simp
  have hlength : (front ++ [blankChar a, blankChar b]).length = front.length + 2 := by simp
  rw [hsplit, ← hlength]
  apply filter_findAll (fun _ _ _ => rfl)
  intro f hf hstart
  rw [← hsplit] at hf
  rw [hlength] at hstart ⊢
  obtain ⟨before, after, b', htext, hplace, -, hread⟩ := exists_of_mem_findAll hf
  obtain ⟨rest, rfl, hname, hn⟩ := classNameRecognizer_eq_some hread
  rw [Found.stop, hplace, hn]
  by_contra hgt
  rcases List.append_eq_append_iff.1 htext with ⟨part, hbefore, hrest⟩ | ⟨part, hfront, hrest⟩
  · -- The dot would stand in the place of a blank.
    rw [hplace, hbefore, List.length_append] at hstart
    rcases part with _ | ⟨c, _ | ⟨d, part⟩⟩
    · exact blankChar_ne a (by decide) (List.cons.inj hrest).1
    · exact blankChar_ne b (by decide) (List.cons.inj (List.cons.inj hrest).2).1
    · simp only [List.length_cons] at hstart
      omega
  · cases part with
    | nil => exact blankChar_ne a (by decide) (List.cons.inj hrest).1.symm
    | cons c part =>
      -- The blanks would stand in the name.
      obtain ⟨-, hrest⟩ := List.cons.inj hrest
      have hblanks : part ++ [blankChar a, blankChar b] <+: f.value := by
        rw [hname] at hn hgt ⊢
        refine List.prefix_of_prefix_length_le ⟨back, ?_⟩ (classNameRun_isPrefix rest) ?_
        · rw [hrest]
          simp
        · rw [hfront] at hgt
          simp only [List.length_append, List.length_cons, List.length_nil] at hgt ⊢
          omega
      rw [hname] at hblanks
      exact not_infix_classNameRun a b rest ((List.suffix_append _ _).isInfix.trans hblanks.isInfix)

end BeamLint
