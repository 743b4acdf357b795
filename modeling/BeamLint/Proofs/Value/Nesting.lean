import BeamLint.Proofs.Value.Parens
import BeamLint.Proofs.Value.References
import Mathlib

/-!
# Pairs of parentheses in pairs

Where an opening parenthesis has a partner, the pairs between the two are those of the text between
them, moved to its place (`exists_parenPairs_inside`). So pairs never cross. A string has no say in
which parentheses are partners but for its length (`parenPairs_quoted`), and nothing has one that
holds neither parentheses nor quotes.
-/

namespace BeamLint

open Text

theorem lookup_parenPairs_eq_some_iff {text : List Char} {o c : Nat} :
    (parenPairs text).lookup o = some c ↔ (o, c) ∈ parenPairs text := by
  constructor
  · intro h
    obtain ⟨front, back, e, -⟩ := List.lookup_eq_some_iff.1 h
    simp [e]
  · exact lookup_parenPairs_of_mem

/-- A pair opens before it closes, and closes in the text. -/
theorem lt_of_mem_parenPairs {text : List Char} {o c : Nat} (h : (o, c) ∈ parenPairs text) :
    o < c ∧ c < text.length :=
  lt_of_lookup_parenPairs (lookup_parenPairs_of_mem h)

/-- What a character can do: nothing, open a parenthesis, or close the innermost one that is open.
Inside a string it does nothing. -/
theorem parenPairsFrom_step (i : Nat) (quote : Option Char) (before d : Char) :
    (∀ opened rest, parenPairsFrom i quote before opened (d :: rest) =
      parenPairsFrom (i + 1) (quoteAfter quote before d) d opened rest) ∨
    (d = '(' ∧ ∀ opened rest, parenPairsFrom i quote before opened (d :: rest) =
      parenPairsFrom (i + 1) (quoteAfter quote before d) d (i :: opened) rest) ∨
    (d = ')' ∧ quoteAfter quote before d = none ∧
      ∀ opened rest, parenPairsFrom i quote before opened (d :: rest) =
        (opened.head?.toList.map fun o => (o, i)) ++
          parenPairsFrom (i + 1) none d opened.tail rest) := by
  by_cases hquote : quote.isSome
  · refine Or.inl fun opened rest => ?_
    simp [parenPairsFrom, hquote]
  · obtain rfl : quote = none := by simpa using hquote
    by_cases hopen : d = '('
    · refine Or.inr (Or.inl ⟨hopen, fun opened rest => ?_⟩)
      simp [parenPairsFrom, hopen]
    · by_cases hclose : d = ')'
      · have hnext : quoteAfter none before d = none := by simp [quoteAfter, hclose]
        refine Or.inr (Or.inr ⟨hclose, hnext, fun opened rest => ?_⟩)
        subst hclose
        cases opened <;> simp [parenPairsFrom, hnext]
      · refine Or.inl fun opened rest => ?_
        simp [parenPairsFrom, hopen, hclose]

/-- A pair at a place that is `k` further on. -/
def shiftPair (k : Nat) (pair : Nat × Nat) : Nat × Nat := (pair.1 + k, pair.2 + k)

theorem mem_map_shiftPair {k o c : Nat} {pairs : List (Nat × Nat)} :
    (o, c) ∈ pairs.map (shiftPair k) ↔ ∃ o' c', (o', c') ∈ pairs ∧ o = o' + k ∧ c = c' + k := by
  constructor
  · intro h
    obtain ⟨⟨o', c'⟩, hm, e⟩ := List.mem_map.1 h
    obtain ⟨rfl, rfl⟩ := Prod.mk.inj e
    exact ⟨o', c', hm, rfl, rfl⟩
  · rintro ⟨o', c', hm, rfl, rfl⟩
    exact List.mem_map.2 ⟨(o', c'), hm, rfl⟩

/-- A text may be read at another place. -/
theorem parenPairsFrom_shift (k i : Nat) (quote : Option Char) (before : Char) (opened : List Nat)
    (text : List Char) :
    parenPairsFrom (i + k) quote before (opened.map (· + k)) text =
      (parenPairsFrom i quote before opened text).map (shiftPair k) := by
  induction text generalizing i quote before opened with
  | nil => rfl
  | cons c text ih =>
    have hi : i + k + 1 = i + 1 + k := by omega
    unfold parenPairsFrom
    dsimp only
    rw [hi]
    split_ifs
    · exact ih (i + 1) _ c opened
    · exact ih (i + 1) _ c (i :: opened)
    · cases opened with
      | nil => exact ih (i + 1) _ c []
      | cons o opened => exact congrArg (shiftPair k (o, i) :: ·) (ih (i + 1) _ c opened)
    · exact ih (i + 1) _ c opened

theorem parenPairsFrom_eq_map_shiftPair (i : Nat) (before : Char) (text : List Char) :
    parenPairsFrom i none before [] text = (parenPairs text).map (shiftPair i) := by
  have h := parenPairsFrom_shift i 0 none ' ' [] text
  rw [Nat.zero_add] at h
  rw [parenPairsFrom_before i before ' ']
  exact h

section

variable {i : Nat} {quote : Option Char} {before : Char} {opened : List Nat} {o c : Nat}

/-- A pair closes at a parenthesis of the text. -/
theorem getElem?_of_mem_parenPairsFrom {text : List Char}
    (h : (o, c) ∈ parenPairsFrom i quote before opened text) :
    i ≤ c ∧ text[c - i]? = some ')' := by
  induction text generalizing i quote before opened with
  | nil => simp [parenPairsFrom] at h
  | cons d text ih =>
    have step {quote : Option Char} {before : Char} {opened : List Nat}
        (h : (o, c) ∈ parenPairsFrom (i + 1) quote before opened text) :
        i ≤ c ∧ (d :: text)[c - i]? = some ')' := by
      obtain ⟨hle, hc⟩ := ih h
      have hsub : c - i = c - (i + 1) + 1 := by omega
      exact ⟨by omega, by rw [hsub, List.getElem?_cons_succ, hc]⟩
    rcases parenPairsFrom_step i quote before d with hs | ⟨-, hs⟩ | ⟨hd, -, hs⟩
    · rw [hs] at h
      exact step h
    · rw [hs] at h
      exact step h
    · rw [hs] at h
      rcases List.mem_append.1 h with h | h
      · obtain ⟨p, -, e⟩ := List.mem_map.1 h
        obtain ⟨-, rfl⟩ := Prod.mk.inj e
        simp [hd]
      · exact step h

/-! ### What has no say -/

/-- A text without parentheses makes no pairs, whatever is open before it. -/
theorem parenPairsFrom_eq_nil {text : List Char} (h : ∀ d ∈ text, d ≠ '(' ∧ d ≠ ')') :
    parenPairsFrom i quote before opened text = [] := by
  induction text generalizing i quote before opened with
  | nil => rfl
  | cons d text ih =>
    obtain ⟨⟨h₁, h₂⟩, h⟩ := List.forall_mem_cons.1 h
    rcases parenPairsFrom_step i quote before d with hs | ⟨hd, -⟩ | ⟨hd, -⟩
    · rw [hs, ih h]
    · exact absurd hd h₁
    · exact absurd hd h₂

theorem parenPairsFrom_append_plain {tail : List Char} (h : ∀ d ∈ tail, d ≠ '(' ∧ d ≠ ')')
    (i : Nat) (quote : Option Char) (before : Char) (opened : List Nat) (text : List Char) :
    parenPairsFrom i quote before opened (text ++ tail) =
      parenPairsFrom i quote before opened text := by
  induction text generalizing i quote before opened with
  | nil => exact parenPairsFrom_eq_nil h
  | cons d text ih =>
    rcases parenPairsFrom_step i quote before d with hs | ⟨-, hs⟩ | ⟨-, -, hs⟩ <;>
      rw [List.cons_append, hs, hs, ih]

/-- A text with neither parentheses nor quotes in front only moves the pairs. -/
theorem parenPairs_plain_append {front : List Char}
    (h : ∀ d ∈ front, isQuote d = false ∧ d ≠ '(' ∧ d ≠ ')') (rest : List Char) :
    parenPairs (front ++ rest) = (parenPairs rest).map (shiftPair front.length) := by
  have htidy := Tidy.of_forall h
  have happ := parenPairsFrom_append htidy.unquoted [] htidy.balanced 0 ' ' [] rest
  rw [List.append_nil, parenPairsFrom_eq_nil fun d hd => (h d hd).2, List.nil_append,
    Nat.zero_add] at happ
  rw [parenPairs, happ, parenPairsFrom_eq_map_shiftPair]

/-! ### Strings -/

/-- What may stand in a string without ending it. -/
def IsContent (content : List Char) : Prop := ∀ d ∈ content, isQuote d = false ∧ d ≠ '\\'

instance (content : List Char) : Decidable (IsContent content) :=
  inferInstanceAs (Decidable (∀ d ∈ content, isQuote d = false ∧ d ≠ '\\'))

/-- A string with the content between two texts. -/
def inQuotes (q : Char) (front back content : List Char) : List Char :=
  front ++ q :: (content ++ q :: back)

theorem isQuote_iff {d : Char} : isQuote d = true ↔ d = '\'' ∨ d = '"' := by
  simp [isQuote]

theorem isBlank_of_isQuote {q : Char} (hq : isQuote q) : isBlank q = false := by
  rcases isQuote_iff.1 hq with rfl | rfl <;> decide

theorem ne_of_isQuote {q d : Char} (hq : isQuote q) (hd : isQuote d = false) : q ≠ d := by
  rintro rfl
  simp [hd] at hq

theorem parenPairsFrom_some (i : Nat) (q before : Char) (opened : List Nat) (d : Char)
    (rest : List Char) :
    parenPairsFrom i (some q) before opened (d :: rest) =
      parenPairsFrom (i + 1) (quoteAfter (some q) before d) d opened rest := by
  simp [parenPairsFrom]

/-- The end of a string is found, and nothing in it makes a pair. -/
theorem parenPairsFrom_content {q : Char} (hq : isQuote q) {content : List Char}
    (hc : IsContent content) (i : Nat) {before : Char} (hb : before ≠ '\\') (opened : List Nat)
    (rest : List Char) :
    parenPairsFrom i (some q) before opened (content ++ q :: rest) =
      parenPairsFrom (i + content.length + 1) none q opened rest := by
  induction content generalizing i before with
  | nil =>
    rw [List.nil_append, parenPairsFrom_some]
    simp [quoteAfter, hb]
  | cons d content ih =>
    obtain ⟨⟨hd, hslash⟩, hc⟩ := List.forall_mem_cons.1 hc
    have hne : d ≠ q := by
      rintro rfl
      simp [hq] at hd
    have hi : i + (d :: content).length + 1 = i + 1 + content.length + 1 := by
      rw [List.length_cons]
      omega
    rw [hi, ← ih hc (i + 1) hslash, List.cons_append, parenPairsFrom_some]
    simp [quoteAfter, hne]

theorem parenPairsFrom_quoted {q : Char} (hq : isQuote q) {content : List Char}
    (hc : IsContent content) (i : Nat) (before : Char) (opened : List Nat) (rest : List Char) :
    parenPairsFrom i none before opened (q :: (content ++ q :: rest)) =
      parenPairsFrom (i + content.length + 2) none q opened rest := by
  have hslash : q ≠ '\\' := by
    rintro rfl
    simp [isQuote] at hq
  have hi : i + content.length + 2 = i + 1 + content.length + 1 := by omega
  rw [hi, ← parenPairsFrom_content hq hc (i + 1) hslash opened rest]
  rcases isQuote_iff.1 hq with rfl | rfl <;> simp [parenPairsFrom, quoteAfter]

/-- The pairs of a text with a string in it: no pair begins or ends in the string, and of the string
only the length matters. -/
theorem exists_parenPairs_quoted {q : Char} (hq : isQuote q) {front : List Char}
    (hf : ∀ d ∈ front, isQuote d = false) (back : List Char) (n : Nat) :
    ∃ pairs : List (Nat × Nat),
      (∀ o c, (o, c) ∈ pairs → (o < front.length ∨ front.length + n + 2 ≤ o) ∧
        (c < front.length ∨ front.length + n + 2 ≤ c)) ∧
      ∀ content, IsContent content → content.length = n →
        parenPairs (inQuotes q front back content) = pairs := by
  obtain ⟨left, hl, h⟩ := exists_parenPairsFrom_append hf 0 ' ' []
  refine ⟨parenPairs front ++ parenPairsFrom (front.length + n + 2) none q left back, ?_, ?_⟩
  · intro o c hm
    rcases List.mem_append.1 hm with hm | hm
    · have hlt := lt_of_mem_parenPairs hm
      exact ⟨Or.inl (by omega), Or.inl hlt.2⟩
    · refine ⟨?_, Or.inr (getElem?_of_mem_parenPairsFrom hm).1⟩
      rcases mem_or_le_of_mem_parenPairsFrom hm with ho | ho
      · exact Or.inl (by simpa using hl o ho)
      · exact Or.inr ho
  · rintro content hc rfl
    rw [parenPairs, inQuotes, h, parenPairsFrom_quoted hq hc, Nat.zero_add]
    rfl

/-- Strings of the same length have the same pairs around them. -/
theorem parenPairs_quoted_congr {q : Char} (hq : isQuote q) {front content content' : List Char}
    (hf : ∀ d ∈ front, isQuote d = false) (hc : IsContent content) (hc' : IsContent content')
    (hlen : content.length = content'.length) (back : List Char) :
    parenPairs (inQuotes q front back content) =
      parenPairs (inQuotes q front back content') := by
  obtain ⟨pairs, -, h⟩ := exists_parenPairs_quoted hq hf back content'.length
  rw [h content hc hlen, h content' hc' rfl]

theorem outside_of_mem_parenPairs {q : Char} (hq : isQuote q) {front content back : List Char}
    (hf : ∀ d ∈ front, isQuote d = false) (hc : IsContent content)
    (hm : (o, c) ∈ parenPairs (inQuotes q front back content)) :
    (o < front.length ∨ front.length + content.length + 2 ≤ o) ∧
      (c < front.length ∨ front.length + content.length + 2 ≤ c) := by
  obtain ⟨pairs, hout, h⟩ := exists_parenPairs_quoted hq hf back content.length
  exact hout o c (h content hc rfl ▸ hm)

/-! ### The pairs in a pair -/

/-- A parenthesis that is open is closed once those are that were opened after it. -/
theorem exists_parenPairsFrom_closing {text : List Char} {own base : List Nat}
    (ho : o < i) (hown : o ∉ own) (hbase : o ∉ base)
    (h : (o, c) ∈ parenPairsFrom i quote before (own ++ o :: base) text) :
    ∃ inner later, text = inner ++ ')' :: later ∧ c = i + inner.length ∧
      parenPairsFrom i quote before (own ++ o :: base) text =
        parenPairsFrom i quote before own inner ++
          (o, c) :: parenPairsFrom (c + 1) none ')' base later := by
  induction text generalizing i quote before own with
  | nil => simp [parenPairsFrom] at h
  | cons d text ih =>
    -- The character is the first one of the inside, unless it closes `o` itself.
    rcases parenPairsFrom_step i quote before d with hs | ⟨-, hs⟩ | ⟨rfl, -, hs⟩
    · rw [hs] at h
      obtain ⟨inner, later, rfl, hc, e⟩ := ih (by omega) hown h
      refine ⟨d :: inner, later, rfl, ?_, by rw [hs, hs, e]⟩
      rw [hc, List.length_cons]
      omega
    · rw [hs] at h
      have hown' : o ∉ i :: own := by
        rw [List.mem_cons]
        rintro (rfl | hm)
        · exact lt_irrefl _ ho
        · exact hown hm
      obtain ⟨inner, later, rfl, hc, e⟩ := ih (by omega) hown' (List.cons_append ▸ h)
      refine ⟨d :: inner, later, rfl, ?_, by rw [hs, hs, ← e, List.cons_append]⟩
      rw [hc, List.length_cons]
      omega
    · rw [hs] at h
      cases own with
      | nil =>
        have hc : c = i := by
          rcases List.mem_cons.1 h with e | hm
          · exact (Prod.mk.inj e).2
          · rcases mem_or_le_of_mem_parenPairsFrom hm with hm | hle
            · exact absurd hm hbase
            · omega
        exact ⟨[], text, rfl, hc, by rw [hs, hc]; rfl⟩
      | cons p own =>
        have hp : o ≠ p := fun e => hown (e ▸ List.mem_cons_self)
        have hown' : o ∉ own := fun hm => hown (List.mem_cons_of_mem p hm)
        have hlater : (o, c) ∈ parenPairsFrom (i + 1) none ')' (own ++ o :: base) text := by
          simpa [hp] using h
        obtain ⟨inner, later, rfl, hc, e⟩ := ih (by omega) hown' hlater
        refine ⟨')' :: inner, later, rfl, ?_, ?_⟩
        · rw [hc, List.length_cons]
          omega
        · rw [hs, hs]
          exact congrArg ((p, i) :: ·) e

end

/-- Between partners stand the pairs of the text between them; all other pairs close before the two
or end behind them. -/
theorem exists_parenPairs_inside {front rest : List Char} {close : Nat}
    (hf : ∀ d ∈ front, isQuote d = false)
    (h : (front.length, close) ∈ parenPairs (front ++ '(' :: rest)) :
    ∃ (inner later : List Char) (others : List (Nat × Nat)), rest = inner ++ ')' :: later ∧
      close = front.length + inner.length + 1 ∧
      (∀ o c, (o, c) ∈ others → c < front.length ∨ (o < front.length ∨ close < o) ∧ close < c) ∧
      ∀ pair, pair ∈ parenPairs (front ++ '(' :: rest) ↔
        pair ∈ (parenPairs inner).map (shiftPair (front.length + 1)) ∨
          pair = (front.length, close) ∨ pair ∈ others := by
  obtain ⟨left, hl, hall⟩ := exists_parenPairsFrom_append hf 0 ' ' []
  have hleft : ∀ o ∈ left, o < front.length := by
    intro o ho
    simpa using hl o ho
  have hpairs : parenPairs (front ++ '(' :: rest) = parenPairs front ++
      parenPairsFrom (front.length + 1) none ' ' ([] ++ front.length :: left) rest := by
    rw [parenPairs, hall, Nat.zero_add, parenPairsFrom_cons (by decide), if_pos rfl]
    rfl
  have hfront : ∀ o c, (o, c) ∈ parenPairs front → c < front.length := fun o c hm =>
    (lt_of_mem_parenPairs hm).2
  rw [hpairs] at h ⊢
  rcases List.mem_append.1 h with hm | hm
  · -- A pair of the text in front closes in it, so it opens in it too.
    have hlt := lt_of_mem_parenPairs hm
    omega
  · obtain ⟨inner, later, rfl, rfl, e⟩ := exists_parenPairsFrom_closing (Nat.lt_succ_self _)
      List.not_mem_nil (fun hm => lt_irrefl _ (hleft _ hm)) hm
    refine ⟨inner, later, parenPairs front ++
      parenPairsFrom (front.length + 1 + inner.length + 1) none ')' left later, rfl, by omega, ?_,
      fun pair => ?_⟩
    · intro o c hm
      rcases List.mem_append.1 hm with hm | hm
      · exact Or.inl (hfront o c hm)
      · have hc := (getElem?_of_mem_parenPairsFrom hm).1
        rcases mem_or_le_of_mem_parenPairsFrom hm with ho | ho
        · exact Or.inr ⟨Or.inl (hleft o ho), by omega⟩
        · exact Or.inr ⟨Or.inr (by omega), by omega⟩
    · rw [e, parenPairsFrom_eq_map_shiftPair]
      simp only [List.mem_append, List.mem_cons]
      tauto

end BeamLint
