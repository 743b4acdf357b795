import BeamLint.Proofs.Text.Search
import BeamLint.Proofs.Value.Grammar
import Mathlib

/-!
# Written values, seen from outside

What is written as a literal, a call or a compound is taken for one. For a compound, the search
meets the beginnings of all calls from left to right: those of the calls among the pieces, which it
takes, and after each of them those in its fallback, which it skips. So it finds the calls among the
pieces (`Pieces.calls`), whatever groups they stand in.
-/

namespace BeamLint

open Text

/-! ### Where calls begin -/

/-- The places at which a call seems to begin, in a text at place `i`. -/
def opensFrom : (i : Nat) → List Char → List Nat
  | _, [] => []
  | i, c :: rest =>
    if varOpen.isPrefixOf (c :: rest) then i :: opensFrom (i + 1) rest else opensFrom (i + 1) rest

theorem opensFrom_cons {c : Char} {rest : List Char} (h : ¬ varOpen <+: c :: rest) (i : Nat) :
    opensFrom i (c :: rest) = opensFrom (i + 1) rest := by
  rw [opensFrom, if_neg (by rwa [List.isPrefixOf_iff_prefix])]

theorem opensFrom_varOpen (i : Nat) (rest : List Char) :
    opensFrom i (varOpen ++ rest) = i :: opensFrom (i + 4) rest := by
  simp [varOpen, opensFrom]

-- No call begins inside `var(`, so nothing is lost where the search skips what it took.
theorem map_start_findAllFrom (i : Nat) (before : Option Char) (text : List Char) :
    (findAllFrom varOpenRecognizer i 0 before text).map (·.start) = opensFrom i text := by
  match text with
  | [] => rfl
  | c :: rest =>
    by_cases h : varOpen <+: c :: rest
    · obtain ⟨later, e⟩ := h
      have ih := map_start_findAllFrom (i + 4) (some '(') later
      rw [← e, opensFrom_varOpen, ← ih]
      rfl
    · have hr : varOpenRecognizer before (c :: rest) = none :=
        if_neg (by rwa [List.isPrefixOf_iff_prefix])
      rw [findAllFrom, hr, opensFrom_cons h]
      exact map_start_findAllFrom (i + 1) (some c) rest
termination_by text.length
decreasing_by
  · have := congrArg List.length e
    simp only [varOpen, List.length_append, List.length_cons] at this ⊢
    omega
  · simp

theorem mem_opensFrom {i s : Nat} {text : List Char} (h : s ∈ opensFrom i text) :
    i ≤ s ∧ s < i + text.length := by
  induction text generalizing i with
  | nil => simp [opensFrom] at h
  | cons c text ih =>
    have step (h : s ∈ opensFrom (i + 1) text) : i ≤ s ∧ s < i + (c :: text).length := by
      have := ih h
      rw [List.length_cons]
      omega
    rw [opensFrom] at h
    split at h
    · rcases List.mem_cons.1 h with rfl | h
      · simp
      · exact step h
    · exact step h

/-- The beginning of a call does not reach over a character that is none of its own. -/
theorem varOpen_prefix_append_iff (text : List Char) {rest : List Char}
    (hr : ∀ mark ∈ rest.head?, mark ∉ varOpen) :
    varOpen <+: text ++ rest ↔ varOpen <+: text := by
  refine ⟨fun h => ?_, fun h => h.trans (List.prefix_append _ _)⟩
  cases rest with
  | nil => rwa [List.append_nil] at h
  | cons mark t =>
    by_cases hl : varOpen.length ≤ text.length
    · exact List.prefix_of_prefix_length_le h (List.prefix_append _ _) hl
    · -- Otherwise the mark would be one of the characters of `var(`.
      have hc : text ++ [mark] <+: varOpen := by
        have hp : text ++ [mark] <+: text ++ mark :: t := ⟨t, by simp⟩
        refine List.prefix_of_prefix_length_le hp h ?_
        simp only [List.length_append, List.length_singleton]
        omega
      exact absurd (hc.subset (by simp)) (hr mark rfl)

theorem opensFrom_append_mark {mark : Char} (hm : mark ∉ varOpen) (i : Nat)
    (text rest : List Char) :
    opensFrom i (text ++ mark :: rest) =
      opensFrom i text ++ opensFrom (i + text.length + 1) rest := by
  induction text generalizing i with
  | nil =>
    have hno : ¬ varOpen <+: mark :: rest := fun h => by
      obtain ⟨t, e⟩ := h
      exact hm ((List.cons.inj e).1 ▸ List.mem_cons_self)
    rw [List.nil_append, opensFrom_cons hno]
    rfl
  | cons c text ih =>
    have hi : i + (c :: text).length + 1 = i + 1 + text.length + 1 := by
      rw [List.length_cons]
      omega
    have hiff : varOpen <+: c :: (text ++ mark :: rest) ↔ varOpen <+: c :: text :=
      varOpen_prefix_append_iff (c :: text) (by simpa using hm)
    rw [List.cons_append, opensFrom, opensFrom, ih, hi]
    simp only [List.isPrefixOf_iff_prefix, hiff]
    split <;> rfl

/-! ### The calls that are taken -/

section CallsAt

variable {offset free : Nat} {body : List Char} {pairs : List (Nat × Nat)} {starts : List Nat}

/-- Calls that begin in a call that was taken are skipped. -/
theorem callsAt_append_of_lt (h : ∀ s ∈ starts, s < free) (later : List Nat) :
    callsAt offset body pairs free (starts ++ later) = callsAt offset body pairs free later := by
  induction starts with
  | nil => rfl
  | cons s starts ih =>
    obtain ⟨hs, h⟩ := List.forall_mem_cons.1 h
    rw [List.cons_append, callsAt, if_pos hs, ih h]

theorem callsAt_of_le (h : ∀ s ∈ starts, free ≤ s) :
    callsAt offset body pairs free starts = callsAt offset body pairs 0 starts := by
  cases starts with
  | nil => rfl
  | cons s starts =>
    have hs := h s List.mem_cons_self
    rw [callsAt, callsAt, if_neg (by omega), if_neg (by omega)]

end CallsAt

/-- The calls among the pieces of a compound at place `i`. -/
def Pieces.calls (i : Nat) : Pieces → List Call
  | .nil => []
  | .plain _ rest => rest.calls (i + 1)
  | .group content rest => content.calls (i + 1) ++ rest.calls (i + content.text.length + 2)
  | .call c rest => ⟨i + 4, c.inner⟩ :: rest.calls (i + c.inner.length + 5)

/-- The parentheses of a call are partners. -/
theorem lookup_callText {front inner : List Char} (hq : ∀ c ∈ front, isQuote c = false)
    (hi : Tidy inner) (back : List Char) :
    (parenPairs (front ++ (callText inner ++ back))).lookup (front.length + 3) =
      some (front.length + inner.length + 4) := by
  have hvar : ∀ c ∈ front ++ ['v', 'a', 'r'], isQuote c = false :=
    List.forall_mem_append.2 ⟨hq, by simp [isQuote]⟩
  have h := lookup_parenPairs hvar hi back
  have e : front ++ ['v', 'a', 'r'] ++ '(' :: (inner ++ ')' :: back) =
      front ++ (callText inner ++ back) := by
    simp [callText, varOpen]
  simp only [e, List.length_append, List.length_cons, List.length_nil] at h
  rw [h]
  congr 1
  omega

/-- A call that stands in a body is taken, and the search goes on after it. -/
theorem callsAt_callText {front inner back : List Char} (hq : ∀ c ∈ front, isQuote c = false)
    (hi : Tidy inner) (offset : Nat) {body : List Char}
    (hb : body = front ++ (callText inner ++ back)) :
    callsAt offset body (parenPairs body) 0 (opensFrom front.length (callText inner ++ back)) =
      ⟨offset + front.length + 4, inner⟩ ::
        callsAt offset body (parenPairs body) 0
          (opensFrom (front.length + inner.length + 5) back) := by
  have hlookup := hb ▸ lookup_callText hq hi back
  have hslice : (⟨front.length + 4, front.length + inner.length + 4⟩ : Span).slice body =
      inner := by
    have e : body = (front ++ varOpen) ++ (inner ++ ')' :: back) := by simp [hb, callText]
    have hl : front.length + 4 = (front ++ varOpen).length := by simp [varOpen]
    have hn : front.length + inner.length + 4 - (front.length + 4) = inner.length := by omega
    rw [Span.slice, hn, e, hl, List.drop_left, List.take_left]
  have hopens : opensFrom front.length (callText inner ++ back) =
      front.length :: (opensFrom (front.length + 4) inner ++
        opensFrom (front.length + inner.length + 5) back) := by
    have e : callText inner ++ back = varOpen ++ (inner ++ ')' :: back) := by simp [callText]
    rw [e, opensFrom_varOpen, opensFrom_append_mark (by decide)]
    congr 3
    omega
  rw [hopens, callsAt, if_neg (Nat.not_lt_zero _), hlookup]
  dsimp only
  rw [hslice, callsAt_append_of_lt, callsAt_of_le]
  · intro s hs
    have := mem_opensFrom hs
    omega
  · intro s hs
    have := mem_opensFrom hs
    omega

/-- Wherever pieces stand in a body, the search takes their calls, and goes on after them. -/
theorem Pieces.callsAt_text (p : Pieces) (h : p.WellFormed) (front back body : List Char) {n : Nat}
    (hn : front.length = n) (hq : ∀ c ∈ front, isQuote c = false)
    (hb : ∀ mark ∈ back.head?, mark ∉ varOpen) (e : body = front ++ (p.text ++ back))
    (offset : Nat) :
    callsAt offset body (parenPairs body) 0 (opensFrom n (p.text ++ back)) =
      p.calls (offset + n) ++
        callsAt offset body (parenPairs body) 0 (opensFrom (n + p.text.length) back) := by
  match p, h with
  | .nil, _ => rfl
  | .plain c rest, ⟨hc, hno, h⟩ =>
    have hqc : isQuote c = false := by
      simp only [isPlain, Bool.and_eq_true, Bool.not_eq_true'] at hc
      exact hc.1.1
    have hq' : ∀ d ∈ front ++ [c], isQuote d = false :=
      List.forall_mem_append.2 ⟨hq, by simpa using hqc⟩
    have ih := rest.callsAt_text h (front ++ [c]) back body (n := n + 1) (by simp [hn]) hq' hb
      (by simp [e, Pieces.text]) offset
    have hno' : ¬ varOpen <+: c :: (rest.text ++ back) :=
      (varOpen_prefix_append_iff (c :: rest.text) hb).not.2 hno
    have hl : n + (c :: rest.text).length = n + 1 + rest.text.length := by
      rw [List.length_cons]
      omega
    rw [Pieces.text, Pieces.calls, List.cons_append, opensFrom_cons hno', hl]
    exact ih
  | .group content rest, ⟨hc, h⟩ =>
    have hno : ¬ varOpen <+: '(' :: (content.text ++ ')' :: (rest.text ++ back)) := by
      simp [varOpen, List.cons_prefix_cons]
    have hno' : ¬ varOpen <+: ')' :: (rest.text ++ back) := by
      simp [varOpen, List.cons_prefix_cons]
    have hq₁ : ∀ d ∈ front ++ ['('], isQuote d = false :=
      List.forall_mem_append.2 ⟨hq, by simp [isQuote]⟩
    have hq₂ : ∀ d ∈ front ++ '(' :: (content.text ++ [')']), isQuote d = false :=
      List.forall_mem_append.2 ⟨hq, (content.tidy_text hc).parens.unquoted⟩
    have ih₁ := content.callsAt_text hc (front ++ ['(']) (')' :: (rest.text ++ back)) body
      (n := n + 1) (by simp [hn]) hq₁ (by simp [varOpen]) (by simp [e, Pieces.text]) offset
    have ih₂ := rest.callsAt_text h (front ++ '(' :: (content.text ++ [')'])) back body
      (n := n + content.text.length + 2) (by simp [hn]; omega) hq₂ hb (by simp [e, Pieces.text])
      offset
    have hclose : n + 1 + content.text.length + 1 = n + content.text.length + 2 := by omega
    have hstart :
        offset + (n + content.text.length + 2) = offset + n + content.text.length + 2 := by
      omega
    have hstop : n + ('(' :: (content.text ++ ')' :: rest.text)).length =
        n + content.text.length + 2 + rest.text.length := by
      simp only [List.length_cons, List.length_append]
      omega
    rw [opensFrom_cons hno', hclose, ih₂, hstart] at ih₁
    rw [Pieces.text, Pieces.calls, hstop, List.cons_append, List.append_assoc, List.cons_append,
      opensFrom_cons hno, List.append_assoc]
    exact ih₁
  | .call c rest, ⟨hc, h⟩ =>
    have ht := c.tidy_inner hc
    have hq' : ∀ d ∈ front ++ callText c.inner, isQuote d = false :=
      List.forall_mem_append.2 ⟨hq, ht.callText.unquoted⟩
    have ih := rest.callsAt_text h (front ++ callText c.inner) back body
      (n := n + c.inner.length + 5) (by simp [hn, length_callText]; omega) hq' hb
      (by simp [e, Pieces.text]) offset
    have hstart : offset + (n + c.inner.length + 5) = offset + n + c.inner.length + 5 := by omega
    have hstop : n + (callText c.inner ++ rest.text).length =
        n + c.inner.length + 5 + rest.text.length := by
      rw [List.length_append, length_callText]
      omega
    rw [hstart] at ih
    subst hn
    rw [Pieces.text, Pieces.calls, hstop, List.append_assoc,
      callsAt_callText hq ht offset (by rw [e, Pieces.text, List.append_assoc]), ih,
      List.cons_append]

/-! ### Shapes -/

/-- Blanks around a trimmed text only move it. -/
theorem ofText_between {lead text trail : List Char} (hl : isAllBlank lead) (ht : isAllBlank trail)
    (h : trim text = text) (hne : text ≠ []) (i : Nat) :
    ValueShape.ofText i (lead ++ (text ++ trail)) = ValueShape.ofText (i + lead.length) text := by
  have hstart : text.takeWhile isBlank = [] := by
    simpa using takeWhile_eq_nil_of_trim_eq h [] hne
  rw [ValueShape.ofText, ValueShape.ofText, trim_between hl ht, takeWhile_between hl h hne, hstart]
  rfl

/-- What a trimmed text that is not empty is. -/
theorem ofText_of_trim_eq {text : List Char} (h : trim text = text) (hne : text ≠ []) (i : Nat) :
    ValueShape.ofText i text =
      if varOpen <+: text ∧ (parenPairs text).lookup 3 = some (text.length - 1) then
        .call ⟨i + 4, (text.drop 4).dropLast⟩
      else if varOpen <:+: text then
        .compound (callsAt i text (parenPairs text) 0 (opensFrom 0 text))
      else .literal text := by
  have hstart : text.takeWhile isBlank = [] := by
    simpa using takeWhile_eq_nil_of_trim_eq h [] hne
  have hopens : (findAll varOpenRecognizer text).map (·.start) = opensFrom 0 text :=
    map_start_findAllFrom 0 none text
  rw [ValueShape.ofText, h, hstart, hopens, if_neg (by simpa using hne)]
  simp only [List.length_nil, Nat.add_zero, Bool.and_eq_true, List.isPrefixOf_iff_prefix,
    beq_iff_eq, occurs_iff]

theorem LiteralText.ofText_text (l : LiteralText) (i : Nat) :
    ValueShape.ofText i l.text = .literal l.text := by
  rw [ofText_of_trim_eq l.trimmed l.ne_nil, if_neg (fun h => l.noCall h.1.isInfix), if_neg l.noCall]

theorem trim_callText (inner : List Char) : trim (callText inner) = callText inner :=
  trim_cons_concat (by decide) (by decide) ('a' :: 'r' :: '(' :: inner)

theorem ofText_callText {inner : List Char} (h : Tidy inner) (i : Nat) :
    ValueShape.ofText i (callText inner) = .call ⟨i + 4, inner⟩ := by
  have hl : (parenPairs (callText inner)).lookup 3 = some ((callText inner).length - 1) := by
    have hl := lookup_callText (by simp : ∀ c ∈ [], isQuote c = false) h []
    simpa [length_callText] using hl
  have hi : ((callText inner).drop 4).dropLast = inner := by simp [callText, varOpen]
  rw [ofText_of_trim_eq (trim_callText inner) (callText_ne_nil inner),
    if_pos ⟨⟨_, rfl⟩, hl⟩, hi]

theorem Pieces.varOpen_infix_text (p : Pieces) (h : p.hasCall) : varOpen <:+: p.text := by
  match p, h with
  | .plain c rest, h => exact (rest.varOpen_infix_text h).trans (List.suffix_cons c _).isInfix
  | .group content rest, h =>
    rcases Bool.or_eq_true_iff.1 h with h | h
    · exact (content.varOpen_infix_text h).trans ⟨['('], ')' :: rest.text, by simp [Pieces.text]⟩
    · refine (rest.varOpen_infix_text h).trans ⟨'(' :: (content.text ++ [')']), [], ?_⟩
      simp [Pieces.text]
  | .call c rest, _ => exact ⟨[], c.inner ++ ')' :: rest.text, by simp [Pieces.text, callText]⟩

theorem Pieces.text_ne_nil (p : Pieces) (h : p.hasCall) : p.text ≠ [] := by
  intro hnil
  have hinfix := p.varOpen_infix_text h
  rw [hnil] at hinfix
  exact absurd (List.infix_nil.1 hinfix) (by decide)

/-- Pieces that are not just one call are not taken for one. -/
theorem Pieces.not_isCall_text (p : Pieces) (h : p.WellFormed) (hp : ¬ p.isCall) :
    ¬ (varOpen <+: p.text ∧ (parenPairs p.text).lookup 3 = some (p.text.length - 1)) := by
  rintro ⟨hopen, hlookup⟩
  match p, h with
  | .nil, _ => exact absurd (List.prefix_nil.1 hopen) (by decide)
  | .plain c rest, ⟨_, hno, _⟩ => exact hno hopen
  | .group content rest, _ => simp [Pieces.text, varOpen, List.cons_prefix_cons] at hopen
  | .call c rest, ⟨hc, _⟩ =>
    -- The call ends before the pieces end.
    have hl := lookup_callText (by simp : ∀ c ∈ [], isQuote c = false) (c.tidy_inner hc) rest.text
    have hnil : rest.text = [] := by
      simp only [List.nil_append, List.length_nil, Nat.zero_add] at hl
      rw [Pieces.text, hl, List.length_append, length_callText, Option.some.injEq] at hlookup
      exact List.length_eq_zero_iff.1 (by omega)
    cases rest with
    | nil => exact hp rfl
    | plain d rest => simp [Pieces.text] at hnil
    | group content rest => simp [Pieces.text] at hnil
    | call d rest => simp [Pieces.text, callText, varOpen] at hnil

theorem Pieces.ofText_text (p : Pieces) (ht : trim p.text = p.text) (hc : p.hasCall)
    (hp : ¬ p.isCall) (h : p.WellFormed) (i : Nat) :
    ValueShape.ofText i p.text = .compound (p.calls i) := by
  have hcalls := p.callsAt_text h [] [] p.text (n := 0) rfl (by simp) (by simp) (by simp) i
  rw [List.append_nil, Nat.add_zero] at hcalls
  rw [ofText_of_trim_eq ht (p.text_ne_nil hc), if_neg (p.not_isCall_text h hp),
    if_pos (p.varOpen_infix_text hc), hcalls]
  simp [opensFrom, callsAt]

end BeamLint
