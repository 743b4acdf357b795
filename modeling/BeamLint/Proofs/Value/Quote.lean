import BeamLint.Proofs.Value.Important
import BeamLint.Proofs.Value.Stretch
import Mathlib

/-!
# Quotes in calls and in values

Neither a name, nor the blanks and the comma before a fallback, nor a mark at the end goes on over a
quote. So of a call with a string in it, either what it refers to stands before the string, or the
string stands in its fallback (`references_ofCall_quote`); and the mark at the end of a value stands
behind its last string.
-/

namespace BeamLint.Value

open Text

variable {q : Char}

/-! ### References -/

/-- What calls refer to, one after the other. -/
def referencesOf (calls : List Call) : List ValueReference :=
  calls.flatMap fun c => (ofCall c).references

/-- What the calls of a stretch refer to. -/
def referencesAt (i : Nat) (text : List Char) : List ValueReference :=
  referencesOf (callsAt i text (parenPairs text) 0 (opensFrom 0 text))

theorem references_ofText (i : Nat) (text : List Char) :
    (ofShape (ValueShape.ofText i text)).references = referencesAt i text := by
  rw [references_ofShape, calls_ofText]
  rfl

theorem place_of_mem_referencesAt {i : Nat} {text : List Char} {r : ValueReference}
    (h : r ∈ referencesAt i text) : i ≤ r.offset ∧ r.offset < i + text.length := by
  rw [← references_ofText] at h
  have hr := referencesIn_ofShape i text
  exact ⟨(hr.stands r h).le, (hr.stands r h).lt (hr.solid r h)⟩

/-- The references of a call stand in it. -/
theorem place_of_mem_references {c : Call} {r : ValueReference} (h : r ∈ (ofCall c).references) :
    c.offset ≤ r.offset ∧ r.offset < c.offset + c.inner.length := by
  have hr := referencesIn_ofCall c
  exact ⟨(hr.stands r h).le, (hr.stands r h).lt (hr.solid r h)⟩

/-! ### What ends at a quote -/

theorem propertyName?_append_quote (hq : isQuote q) (text rest : List Char) :
    propertyName? (text ++ q :: rest) =
      (propertyName? text).map fun p => (p.1, p.2 ++ q :: rest) := by
  have hp : isPropertyChar q = false := by
    rcases isQuote_iff.1 hq with rfl | rfl <;> decide
  have hhead : ∀ d ∈ (q :: rest).head?, isPropertyChar d = false := by simpa using hp
  obtain ⟨htake, hdrop⟩ := takeWhile_append_of_head? hhead text
  unfold propertyName?
  dsimp only
  rw [htake, hdrop]
  split <;> rfl

theorem trimLeft_append_quote (hq : isQuote q) (text rest : List Char) :
    (text ++ q :: rest).takeWhile isBlank = text.takeWhile isBlank ∧
      trimLeft (text ++ q :: rest) = trimLeft text ++ q :: rest :=
  takeWhile_append_of_head? (by simpa using isBlank_of_isQuote hq) text

theorem fallback?_append_quote (hq : isQuote q) (text rest : List Char) :
    fallback? (text ++ q :: rest) = (fallback? text).map (· ++ q :: rest) := by
  have hne : q ≠ ',' := by
    rintro rfl
    simp [isQuote] at hq
  unfold fallback?
  rw [(trimLeft_append_quote hq text rest).2]
  cases trimLeft text with
  | nil =>
    rw [List.nil_append]
    split
    · next e => exact absurd (List.cons.inj e).1 hne
    · rfl
  | cons d text =>
    rw [List.cons_append]
    split
    · next e =>
      obtain ⟨rfl, rfl⟩ := List.cons.inj e
      rfl
    · next hno =>
      split
      · next e => exact absurd (congrArg (· ++ q :: rest) e) (hno _)
      · rfl

theorem isPropertyChar_of_mem_name {text name after : List Char}
    (h : propertyName? text = some (name, after)) : ∀ d ∈ name, isPropertyChar d := by
  unfold propertyName? at h
  dsimp only at h
  split at h
  · obtain ⟨rfl, -⟩ := Prod.mk.inj (Option.some.inj h)
    exact fun d hd => List.mem_takeWhile_imp hd
  · contradiction

/-- The fallback stands behind blanks and a comma. -/
theorem fallback?_eq_some {text fallback : List Char} (h : fallback? text = some fallback) :
    ∃ blanks, isAllBlank blanks ∧ text = blanks ++ ',' :: fallback := by
  refine ⟨text.takeWhile isBlank, isAllBlank_takeWhile text, ?_⟩
  unfold fallback? at h
  split at h
  · next rest e =>
    obtain rfl := Option.some.inj h
    rw [← e, trimLeft, List.takeWhile_append_dropWhile]
  · contradiction

/-- A blank or a character of a name is neither a quote nor a parenthesis. -/
theorem plain_of_isBlank_or_isPropertyChar {d : Char} (h : isBlank d ∨ isPropertyChar d) :
    isQuote d = false ∧ d ≠ '(' ∧ d ≠ ')' := by
  have hne {e : Char} (hb : isBlank e = false) (hp : isPropertyChar e = false) : d ≠ e := by
    rintro rfl
    simp [hb, hp] at h
  refine ⟨?_, hne (by decide) (by decide), hne (by decide) (by decide)⟩
  simp [isQuote, hne (e := '\'') (by decide) (by decide), hne (e := '"') (by decide) (by decide)]

/-- Before a fallback stand blanks, a name, blanks and a comma. -/
theorem exists_before_fallback {inner name after fallback : List Char}
    (hn : propertyName? (trimLeft inner) = some (name, after))
    (hf : fallback? after = some fallback) :
    ∃ lead, (∀ d ∈ lead, isQuote d = false ∧ d ≠ '(' ∧ d ≠ ')') ∧
      inner = lead ++ ',' :: fallback ∧
      (inner.takeWhile isBlank).length + name.length ≤ lead.length := by
  obtain ⟨blanks, hb, rfl⟩ := fallback?_eq_some hf
  refine ⟨inner.takeWhile isBlank ++ (name ++ blanks), ?_, ?_, ?_⟩
  · simp only [List.forall_mem_append]
    refine ⟨fun d hd => ?_, fun d hd => ?_, fun d hd => ?_⟩
    · exact plain_of_isBlank_or_isPropertyChar (Or.inl (List.mem_takeWhile_imp hd))
    · exact plain_of_isBlank_or_isPropertyChar (Or.inr (isPropertyChar_of_mem_name hn d hd))
    · exact plain_of_isBlank_or_isPropertyChar (Or.inl (List.all_eq_true.1 hb d hd))
  · have e : inner = inner.takeWhile isBlank ++ trimLeft inner := by
      rw [trimLeft, List.takeWhile_append_dropWhile]
    rw [(propertyName?_eq_some hn).1] at e
    simpa using e
  · simp only [List.length_append]
    omega

/-- A call with a string in it: either what it refers to stands before the string and the rest has
no say, or the string stands in its fallback. -/
theorem references_ofCall_quote (hq : isQuote q) (i : Nat) (front : List Char) :
    (∃ refs : List ValueReference, (∀ r ∈ refs, r.offset < i + front.length) ∧
      ∀ back content, (ofCall ⟨i, inQuotes q front back content⟩).references = refs) ∨
    ∃ (r : ValueReference) (lead fallback : List Char),
      front = lead ++ ',' :: fallback ∧
      (∀ d ∈ lead, isQuote d = false ∧ d ≠ '(' ∧ d ≠ ')') ∧ r.offset < i + front.length ∧
      ∀ back content, (ofCall ⟨i, inQuotes q front back content⟩).references =
        r :: referencesAt (i + lead.length + 1) (inQuotes q fallback back content) := by
  have hcall (rest : List Char) := references_ofCall ⟨i, front ++ q :: rest⟩
  simp only [trimLeft_append_quote hq, propertyName?_append_quote hq] at hcall
  cases hn : propertyName? (trimLeft front) with
  | none =>
    refine Or.inl ⟨[], by simp, fun back content => ?_⟩
    simpa [hn, inQuotes] using hcall (content ++ q :: back)
  | some p =>
    obtain ⟨name, after⟩ := p
    obtain ⟨hname, hsolid⟩ := propertyName?_eq_some hn
    have hfront : front = front.takeWhile isBlank ++ (name ++ after) := by
      rw [← hname, trimLeft, List.takeWhile_append_dropWhile]
    have hplace : i + (front.takeWhile isBlank).length < i + front.length := by
      have hlength := congrArg List.length hfront
      have hpos := List.length_pos_iff.2 hsolid.1
      simp only [List.length_append] at hlength
      omega
    simp only [hn, Option.map_some, fallback?_append_quote hq] at hcall
    cases hf : fallback? after with
    | none =>
      refine Or.inl ⟨[⟨String.ofList name, i + (front.takeWhile isBlank).length, false⟩],
        by simpa using hplace, fun back content => ?_⟩
      simpa [hf, inQuotes] using hcall (content ++ q :: back)
    | some fallback =>
      obtain ⟨lead, hplain, hl, -⟩ := exists_before_fallback hn hf
      refine Or.inr ⟨⟨String.ofList name, i + (front.takeWhile isBlank).length, true⟩, lead,
        fallback, hl, hplain, hplace, fun back content => ?_⟩
      have hstart (rest : List Char) :
          i + ((front ++ q :: rest).length - (fallback ++ q :: rest).length) =
            i + lead.length + 1 := by
        have hlength := congrArg List.length hl
        simp only [List.length_append, List.length_cons] at hlength ⊢
        omega
      have h := hcall (content ++ q :: back)
      simp only [hf, Option.map_some, hstart, calls_ofText] at h
      exact h

/-! ### Marks -/

/-- A character of a word is one of its letters, in whatever case. -/
theorem exists_isLetter_of_mem {letters word : List Char} {d : Char}
    (h : List.Forall₂ (fun letter c => isLetter letter c) letters word) (hd : d ∈ word) :
    ∃ letter ∈ letters, isLetter letter d := by
  induction h with
  | nil => simp at hd
  | @cons letter c letters word hc _ ih =>
    rcases List.mem_cons.1 hd with rfl | hd
    · exact ⟨letter, List.mem_cons_self, hc⟩
    · obtain ⟨letter', hmem, hl⟩ := ih hd
      exact ⟨letter', List.mem_cons_of_mem _ hmem, hl⟩

/-- Neither a quote nor a parenthesis stands in a mark. -/
theorem plain_of_mem_mark (m : ImportantMark) :
    ∀ d ∈ m.text, isQuote d = false ∧ d ≠ '(' ∧ d ≠ ')' := by
  have hblanks (b : Blanks) : ∀ d ∈ b.text, isQuote d = false ∧ d ≠ '(' ∧ d ≠ ')' := fun d hd =>
    plain_of_isBlank_or_isPropertyChar (Or.inl (List.all_eq_true.1 b.blank d hd))
  have hword : ∀ d ∈ m.word, isQuote d = false ∧ d ≠ '(' ∧ d ≠ ')' := by
    intro d hd
    obtain ⟨letter, hmem, hl⟩ := exists_isLetter_of_mem m.spelled hd
    have hne {e : Char}
        (he : ∀ l ∈ ['i', 'm', 'p', 'o', 'r', 't', 'a', 'n', 't'], isLetter l e = false) :
        d ≠ e := by
      rintro rfl
      simp [he letter hmem] at hl
    refine ⟨?_, hne (by simp [isLetter]), hne (by simp [isLetter])⟩
    simp [isQuote, hne (e := '\'') (by simp [isLetter]), hne (e := '"') (by simp [isLetter])]
  have hmark : ∀ d ∈ '!' :: (m.gap.text ++ (m.word ++ m.trail.text)),
      isQuote d = false ∧ d ≠ '(' ∧ d ≠ ')' :=
    List.forall_mem_cons.2 ⟨by decide, List.forall_mem_append.2 ⟨hblanks m.gap,
      List.forall_mem_append.2 ⟨hword, hblanks m.trail⟩⟩⟩
  exact List.forall_mem_append.2 ⟨hblanks m.lead, hmark⟩

theorem trimRight_append_quote (hq : isQuote q) (front back : List Char) :
    trimRight (front ++ q :: back) = front ++ q :: trimRight back := by
  have hreverse : (front ++ q :: back).reverse = back.reverse ++ q :: front.reverse := by simp
  have hdrop := (trimLeft_append_quote hq back.reverse front.reverse).2
  rw [trimLeft, trimLeft] at hdrop
  rw [trimRight, hreverse, hdrop, trimRight]
  simp

/-- What a mark leaves of a text with a quote in it does not depend on what stands before the
quote. -/
theorem exists_dropImportant_quote (hq : isQuote q) (back : List Char) :
    ∃ kept, ∀ front, dropImportant (front ++ q :: back) = front ++ q :: kept := by
  by_cases hmark : ∃ (rest : List Char) (m : ImportantMark), back = rest ++ m.text
  · obtain ⟨rest, m, rfl⟩ := hmark
    refine ⟨trimRight rest, fun front => ?_⟩
    have e : front ++ q :: (rest ++ m.text) = (front ++ q :: rest) ++ m.text := by simp
    rw [e, dropImportant_append_mark, trimRight_append_quote hq]
  · refine ⟨back, fun front => dropImportant_eq_self_iff.2 fun front' m e => ?_⟩
    -- A mark holds no quote, so it would stand behind the quote.
    have hno : q ∉ m.text := fun hm => by simp [(plain_of_mem_mark m q hm).1] at hq
    rcases List.append_eq_append_iff.1 e with ⟨more, -, h⟩ | ⟨more, -, h⟩
    · cases more with
      | nil =>
        rw [List.nil_append] at h
        exact hno (h ▸ List.mem_cons_self)
      | cons d more => exact hmark ⟨more, m, (List.cons.inj h).2⟩
    · exact hno (by simp [h])

end BeamLint.Value
