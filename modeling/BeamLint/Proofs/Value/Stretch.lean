import BeamLint.Proofs.Value.Nesting
import BeamLint.Proofs.Value.Shape
import Mathlib

/-!
# The calls of a stretch

A stretch of a value may be empty, a literal, one call or a compound, with blanks around it or
without. Whatever it is taken for, its calls are those that begin outside of each other, up to one
that is never closed (`calls_ofText`).
-/

namespace BeamLint

open Text

/-! ### Where calls begin -/

theorem opensFrom_shift (k i : Nat) (text : List Char) :
    opensFrom (i + k) text = (opensFrom i text).map (· + k) := by
  induction text generalizing i with
  | nil => rfl
  | cons c text ih =>
    have hi : i + k + 1 = i + 1 + k := by omega
    rw [opensFrom, opensFrom, hi, ih]
    split <;> rfl

theorem opensFrom_eq_nil_iff {i : Nat} {text : List Char} :
    opensFrom i text = [] ↔ ¬ varOpen <:+: text := by
  induction text generalizing i with
  | nil => simp [opensFrom, varOpen]
  | cons c text ih =>
    rw [opensFrom, List.infix_cons_iff, ← List.isPrefixOf_iff_prefix]
    split
    · next h => simp [h]
    · next h => simp [h, ih]

/-- What stands where a call seems to begin. -/
theorem mem_opensFrom_iff {i s : Nat} {text : List Char} :
    s ∈ opensFrom i text ↔
      ∃ front back, text = front ++ (varOpen ++ back) ∧ s = i + front.length := by
  induction text generalizing i with
  | nil => simp [opensFrom, varOpen]
  | cons c text ih =>
    have hcons : s ∈ opensFrom i (c :: text) ↔
        (varOpen <+: c :: text ∧ s = i) ∨ s ∈ opensFrom (i + 1) text := by
      rw [opensFrom, ← List.isPrefixOf_iff_prefix]
      split
      · next h => simp [h]
      · next h => simp [h]
    rw [hcons, ih]
    constructor
    · rintro (⟨⟨back, e⟩, rfl⟩ | ⟨front, back, rfl, rfl⟩)
      · exact ⟨[], back, e.symm, rfl⟩
      · exact ⟨c :: front, back, rfl, by rw [List.length_cons]; omega⟩
    · rintro ⟨front, back, e, rfl⟩
      cases front with
      | nil => exact Or.inl ⟨⟨back, e.symm⟩, rfl⟩
      | cons d front =>
        obtain ⟨rfl, rfl⟩ := List.cons.inj e
        exact Or.inr ⟨front, back, rfl, by rw [List.length_cons]; omega⟩

theorem length_mem_opensFrom_iff {front rest : List Char} :
    front.length ∈ opensFrom 0 (front ++ rest) ↔ varOpen <+: rest := by
  rw [mem_opensFrom_iff]
  constructor
  · rintro ⟨front', back, e, hl⟩
    obtain ⟨rfl, rfl⟩ := List.append_inj e (by omega)
    exact List.prefix_append _ _
  · rintro ⟨back, rfl⟩
    exact ⟨front, back, rfl, by omega⟩

theorem opensFrom_of_isAllBlank {blanks : List Char} (h : isAllBlank blanks) (i : Nat) :
    opensFrom i blanks = [] := by
  refine opensFrom_eq_nil_iff.2 fun hv => ?_
  have hm : 'v' ∈ blanks := hv.subset (by decide)
  exact absurd (List.all_eq_true.1 h 'v' hm) (by decide)

theorem not_mem_varOpen_of_isBlank {c : Char} (h : isBlank c) : c ∉ varOpen := by
  intro hm
  simp only [varOpen, List.mem_cons, List.not_mem_nil, or_false] at hm
  rcases hm with rfl | rfl | rfl | rfl <;> exact absurd h (by decide)

/-- Blanks around a text only move the places. -/
theorem opensFrom_between {lead trail : List Char} (hl : isAllBlank lead) (ht : isAllBlank trail)
    (i : Nat) (text : List Char) :
    opensFrom i (lead ++ (text ++ trail)) = opensFrom (i + lead.length) text := by
  induction lead generalizing i with
  | nil =>
    cases trail with
    | nil => simp
    | cons c trail =>
      obtain ⟨hc, ht⟩ : isBlank c = true ∧ isAllBlank trail = true := by
        simpa [isAllBlank] using ht
      rw [List.nil_append, opensFrom_append_mark (not_mem_varOpen_of_isBlank hc),
        opensFrom_of_isAllBlank ht, List.append_nil]
      rfl
  | cons c lead ih =>
    obtain ⟨hc, hl⟩ : isBlank c = true ∧ isAllBlank lead = true := by simpa [isAllBlank] using hl
    have hi : i + (c :: lead).length = i + 1 + lead.length := by
      rw [List.length_cons]
      omega
    rw [hi, ← ih hl (i + 1)]
    exact opensFrom_append_mark (not_mem_varOpen_of_isBlank hc) i [] (lead ++ (text ++ trail))

theorem parenPairs_between {lead trail : List Char} (hl : isAllBlank lead) (ht : isAllBlank trail)
    (text : List Char) :
    parenPairs (lead ++ (text ++ trail)) = (parenPairs text).map (shiftPair lead.length) := by
  have hplain {blanks : List Char} (hb : isAllBlank blanks) {d e : Char} (hd : d ∈ blanks)
      (he : isBlank e = false) : d ≠ e :=
    ne_of_isBlank (List.all_eq_true.1 hb d hd) he
  have htrail : parenPairs (text ++ trail) = parenPairs text :=
    parenPairsFrom_append_plain
      (fun d hd => ⟨hplain ht hd (by decide), hplain ht hd (by decide)⟩) 0 none ' ' [] text
  rw [parenPairs_plain_append, htrail]
  intro d hd
  refine ⟨?_, hplain hl hd (by decide), hplain hl hd (by decide)⟩
  simp [isQuote, hplain hl hd (e := '\'') (by decide), hplain hl hd (e := '"') (by decide)]

/-! ### The calls of a stretch -/

theorem lookup_map_shiftPair (k o : Nat) (pairs : List (Nat × Nat)) :
    (pairs.map (shiftPair k)).lookup (o + k) = (pairs.lookup o).map (· + k) := by
  induction pairs with
  | nil => rfl
  | cons pair pairs ih =>
    obtain ⟨p, c⟩ := pair
    rw [List.map_cons, shiftPair, List.lookup_cons, List.lookup_cons, ih]
    by_cases h : o = p
    · simp [h]
    · have hk : ¬ o + k = p + k := by omega
      simp [beq_false_of_ne h, beq_false_of_ne hk]

/-- Around a body that is moved, the same calls are taken. -/
theorem callsAt_between (lead body trail : List Char) (i free : Nat) (starts : List Nat) :
    callsAt i (lead ++ (body ++ trail)) ((parenPairs body).map (shiftPair lead.length))
        (free + lead.length) (starts.map (· + lead.length)) =
      callsAt (i + lead.length) body (parenPairs body) free starts := by
  induction starts generalizing free with
  | nil => rfl
  | cons start starts ih =>
    have hplace : start + lead.length + 3 = start + 3 + lead.length := by omega
    rw [List.map_cons, callsAt, callsAt, hplace, lookup_map_shiftPair]
    simp only [Nat.add_lt_add_iff_right]
    split
    · exact ih free
    · cases hl : (parenPairs body).lookup (start + 3) with
      | none => rfl
      | some close =>
        obtain ⟨hopen, hclose⟩ := lt_of_lookup_parenPairs hl
        have hslice : (⟨start + lead.length + 4, close + lead.length⟩ : Span).slice
            (lead ++ (body ++ trail)) = (⟨start + 4, close⟩ : Span).slice body := by
          have hstart : start + lead.length + 4 = lead.length + (start + 4) := by omega
          have hsize : close + lead.length - (lead.length + (start + 4)) = close - (start + 4) := by
            omega
          have hfits : close - (start + 4) ≤ (body.drop (start + 4)).length := by
            rw [List.length_drop]
            omega
          simp only [Span.slice, hstart, hsize, List.drop_length_add_append]
          rw [List.drop_append_of_le_length (by omega), List.take_append_of_le_length hfits]
        have hfree : close + lead.length + 1 = close + 1 + lead.length := by omega
        have hoffset : i + (start + lead.length) + 4 = i + lead.length + start + 4 := by omega
        simp only [Option.map_some, hslice, hfree, hoffset, ih]

/-- The calls of a trimmed stretch. -/
theorem calls_ofText_of_trim_eq {text : List Char} (h : trim text = text) (hne : text ≠ [])
    (i : Nat) :
    (ValueShape.ofText i text).calls = callsAt i text (parenPairs text) 0 (opensFrom 0 text) := by
  rw [ofText_of_trim_eq h hne]
  split
  · -- The one call covers the stretch, so all further beginnings are skipped.
    next hcall =>
    obtain ⟨⟨rest, e⟩, hl⟩ := hcall
    have hopens : opensFrom 0 text = 0 :: opensFrom 4 rest := by
      rw [← e, opensFrom_varOpen]
    have hlen : text.length = rest.length + 4 := by
      rw [← e, List.length_append]
      simp [varOpen]
      omega
    have hskip : ∀ s ∈ opensFrom 4 rest, s < text.length - 1 + 1 := by
      intro s hs
      have := mem_opensFrom hs
      omega
    have hnone :
        callsAt i text (parenPairs text) (text.length - 1 + 1) (opensFrom 4 rest) = [] := by
      rw [← List.append_nil (opensFrom 4 rest), callsAt_append_of_lt hskip]
      rfl
    rw [hopens, callsAt, if_neg (Nat.not_lt_zero 0), hl]
    dsimp only
    rw [hnone, ValueShape.calls, Span.slice, List.dropLast_eq_take, List.length_drop]
    rfl
  · split
    · rfl
    · next hno => rw [opensFrom_eq_nil_iff.2 hno]; rfl

/-- Whatever a stretch is taken for, its calls are those that begin outside of each other, up to
one that is never closed. -/
theorem calls_ofText (i : Nat) (text : List Char) :
    (ValueShape.ofText i text).calls = callsAt i text (parenPairs text) 0 (opensFrom 0 text) := by
  by_cases hb : isAllBlank text
  · have htrim : trim text = [] := by
      rw [trim, trimLeft_of_isAllBlank hb]
      rfl
    rw [opensFrom_of_isAllBlank hb, ValueShape.ofText, htrim]
    rfl
  · obtain ⟨trail, ht, htext⟩ := exists_trim_between text
    have hl := isAllBlank_takeWhile text
    have hidem := trim_trim text
    have hne : trim text ≠ [] := by
      intro hnil
      rw [hnil, List.nil_append] at htext
      refine hb ?_
      rw [htext, isAllBlank, List.all_append, Bool.and_eq_true]
      exact ⟨hl, ht⟩
    generalize text.takeWhile isBlank = lead at hl htext
    generalize trim text = body at hidem hne htext
    subst htext
    have hopens : opensFrom 0 (lead ++ (body ++ trail)) =
        (opensFrom 0 body).map (· + lead.length) := by
      rw [opensFrom_between hl ht, opensFrom_shift]
    rw [ofText_between hl ht hidem hne, calls_ofText_of_trim_eq hidem hne, ← callsAt_between,
      parenPairs_between hl ht, hopens, callsAt_of_le]
    intro s hs
    obtain ⟨s', -, rfl⟩ := List.mem_map.1 hs
    omega

end BeamLint
