import BeamLint.Proofs.Value.Around
import BeamLint.Proofs.Value.Quote
import Mathlib

/-!
# Values with strings in them

Nothing in a string is a call, but the search for calls ends at the text `var(` in a string as it
ends at a call that is never closed. So of what stands in a string only two things matter: how long
it is, and whether it holds that text. If it does, the references behind the string are lost, up to
the end of the innermost call around it, and no others (`references_quoted`).
-/

namespace BeamLint.Value

open Text

variable {q : Char}

/-! ### The search over a string -/

theorem not_mem_varOpen_of_isQuote (hq : isQuote q) : q ∉ varOpen := by
  rcases isQuote_iff.1 hq with rfl | rfl <;> decide

theorem opensFrom_inQuotes (hq : isQuote q) (m : Nat) (front back content : List Char) :
    opensFrom m (inQuotes q front back content) =
      opensFrom m front ++ (opensFrom (m + front.length + 1) content ++
        opensFrom (m + front.length + content.length + 2) back) := by
  have hplace : m + front.length + 1 + content.length + 1 =
      m + front.length + content.length + 2 := by omega
  rw [inQuotes, opensFrom_append_mark (not_mem_varOpen_of_isQuote hq),
    opensFrom_append_mark (not_mem_varOpen_of_isQuote hq), hplace]

/-- Bodies that are the same from `m` on have the same calls from there on. -/
theorem callsAt_congr {m : Nat} {body body' : List Char} (h : body.drop m = body'.drop m) (i : Nat)
    (pairs : List (Nat × Nat)) (free : Nat) {starts : List Nat} (hs : ∀ s ∈ starts, m ≤ s) :
    callsAt i body pairs free starts = callsAt i body' pairs free starts := by
  induction starts generalizing free with
  | nil => rfl
  | cons start starts ih =>
    obtain ⟨hm, hs⟩ := List.forall_mem_cons.1 hs
    have hslice (stop : Nat) : (⟨start + 4, stop⟩ : Span).slice body =
        (⟨start + 4, stop⟩ : Span).slice body' := by
      have hplace : start + 4 = m + (start + 4 - m) := by omega
      simp only [Span.slice]
      rw [hplace, ← List.drop_drop, ← List.drop_drop, h]
    simp only [callsAt, hslice, ih _ hs]

/-- `plain` may stand in a string for `content`: it is as long, and holds no beginning of a call. -/
structure Replaces (plain content : List Char) : Prop where
  isContent : IsContent content
  isContent_plain : IsContent plain
  length_eq : content.length = plain.length
  noCall : ¬ varOpen <:+: plain

/-- Whether a reference at `x` is found although a string with the content stands at `n`. -/
def survives (content text : List Char) (n x : Nat) : Bool :=
  !(decide (varOpen <:+: content) && decide (Behind text n x))

/-- In a stretch with a string, what is found is what survives of the stretch with `plain`. -/
def FindsSurvivors (q : Char) (plain content front : List Char) : Prop :=
  ∀ (back : List Char) (i : Nat), referencesAt i (inQuotes q front back content) =
    (referencesAt i (inQuotes q front back plain)).filter fun r =>
      survives content (inQuotes q front back plain) front.length (r.offset - i)

theorem survives_of_not_behind {content text : List Char} {n x : Nat} (h : ¬ Behind text n x) :
    survives content text n x = true := by
  simp [survives, h]

section Search

variable {front plain content : List Char} (back : List Char) (i : Nat)

/-- Behind the string, the same calls are taken. -/
theorem callsAt_behind (h : Replaces plain content) (pairs : List (Nat × Nat)) (free : Nat) :
    callsAt i (inQuotes q front back content) pairs free
        (opensFrom (front.length + content.length + 2) back) =
      callsAt i (inQuotes q front back plain) pairs free
        (opensFrom (front.length + plain.length + 2) back) := by
  have hdrop (c : List Char) :
      (inQuotes q front back c).drop (front.length + c.length + 2) = back := by
    have e : inQuotes q front back c = (front ++ q :: (c ++ [q])) ++ back := by simp [inQuotes]
    have hl : front.length + c.length + 2 = (front ++ q :: (c ++ [q])).length := by
      simp
      omega
    rw [e, hl, List.drop_left]
  rw [h.length_eq]
  refine callsAt_congr (m := front.length + plain.length + 2) ?_ i pairs free fun s hs =>
    (mem_opensFrom hs).1
  rw [hdrop plain, ← h.length_eq, hdrop content]

/-- In the string no beginning of a call has a partner. -/
theorem lookup_in_string (hq : isQuote q) (hf : ∀ d ∈ front, isQuote d = false)
    (h : Replaces plain content) {start : Nat} (hs : start ∈ opensFrom (front.length + 1) content) :
    (parenPairs (inQuotes q front back plain)).lookup (start + 3) = none := by
  obtain ⟨u, v, hu, rfl⟩ := mem_opensFrom_iff.1 hs
  have hlength := congrArg List.length hu
  simp only [List.length_append, varOpen, List.length_cons, List.length_nil] at hlength
  cases hl : (parenPairs (inQuotes q front back plain)).lookup
      (front.length + 1 + u.length + 3) with
  | none => rfl
  | some close =>
    have hout := outside_of_mem_parenPairs hq hf h.isContent_plain
      (lookup_parenPairs_eq_some_iff.1 hl)
    have := h.length_eq
    omega

/-- Where the string is reached, a beginning of a call in it ends the search. -/
theorem callsAt_string (hq : isQuote q) (hf : ∀ d ∈ front, isQuote d = false)
    (h : Replaces plain content) {free : Nat}
    (hp : Passed (inQuotes q front back plain) front.length free) (hfree : free ≤ front.length) :
    referencesOf (callsAt i (inQuotes q front back content)
        (parenPairs (inQuotes q front back plain)) free
        (opensFrom front.length (inQuotes q [] back content))) =
      (referencesOf (callsAt i (inQuotes q front back plain)
        (parenPairs (inQuotes q front back plain)) free
        (opensFrom front.length (inQuotes q [] back plain)))).filter fun r =>
          survives content (inQuotes q front back plain) front.length (r.offset - i) := by
  rw [opensFrom_inQuotes hq, opensFrom_inQuotes hq, opensFrom_eq_nil_iff.2 h.noCall]
  simp only [opensFrom, List.nil_append, List.length_nil, Nat.add_zero]
  by_cases hv : varOpen <:+: content
  · have hstop : callsAt i (inQuotes q front back content)
        (parenPairs (inQuotes q front back plain)) free
        (opensFrom (front.length + 1) content ++
          opensFrom (front.length + content.length + 2) back) = [] := by
      cases hs : opensFrom (front.length + 1) content with
      | nil => exact absurd hv (opensFrom_eq_nil_iff.1 hs)
      | cons start starts =>
        have hm : start ∈ opensFrom (front.length + 1) content := hs ▸ List.mem_cons_self
        have hle := (mem_opensFrom hm).1
        rw [List.cons_append, callsAt, if_neg (by omega), lookup_in_string back hq hf h hm]
    rw [hstop]
    refine (List.filter_eq_nil_iff.2 fun r hr => ?_).symm
    obtain ⟨c, hc, hr⟩ := List.mem_flatMap.1 hr
    -- All that is left begins behind the string, so the search may as well begin there.
    have hlate {m : Nat} (hm : m ≤ front.length + plain.length + 2) :
        ∀ s ∈ opensFrom (front.length + plain.length + 2) back, m ≤ s :=
      fun s hs => hm.trans (mem_opensFrom hs).1
    rw [callsAt_of_le (hlate (by omega)), ← callsAt_of_le (hlate le_rfl)] at hc
    have hplace := le_offset_of_mem_callsAt (fun o c hl => (lt_of_lookup_parenPairs hl).1) hc
    have hbelow := (place_of_mem_references hr).1
    have hbehind : Behind (inQuotes q front back plain) front.length (r.offset - i) := by
      refine ⟨by omega, fun start hs pair hm hopen hbefore hafter => ?_⟩
      have := hp.closed start hs hbefore pair.2 (hopen ▸ hm)
      omega
    simp [survives, hv, hbehind]
  · rw [opensFrom_eq_nil_iff.2 hv, List.nil_append, callsAt_behind back i h]
    exact (List.filter_eq_self.2 fun r _ => by simp [survives, hv]).symm

/-- Behind a call around the string, the same calls are taken, and what they refer to survives. -/
theorem callsAt_rest (hq : isQuote q) (hf : ∀ d ∈ front, isQuote d = false)
    (h : Replaces plain content) {outer inner rest : List Char}
    (e : front = outer ++ (varOpen ++ inner)) {m close : Nat}
    (hm : m + rest.length = front.length)
    (hpair : (outer.length + 3, close) ∈ parenPairs (inQuotes q front back plain))
    (hclose : front.length ≤ close) :
    referencesOf (callsAt i (inQuotes q front back content)
        (parenPairs (inQuotes q front back plain)) (close + 1)
        (opensFrom m (inQuotes q rest back content))) =
      (referencesOf (callsAt i (inQuotes q front back plain)
        (parenPairs (inQuotes q front back plain)) (close + 1)
        (opensFrom m (inQuotes q rest back plain)))).filter fun r =>
          survives content (inQuotes q front back plain) front.length (r.offset - i) := by
  have hout := (outside_of_mem_parenPairs hq hf h.isContent_plain hpair).2
  have hskip {c : List Char} (hc : c.length = plain.length) (body : List Char) :
      callsAt i body (parenPairs (inQuotes q front back plain)) (close + 1)
          (opensFrom m (inQuotes q rest back c)) =
        callsAt i body (parenPairs (inQuotes q front back plain)) (close + 1)
          (opensFrom (front.length + c.length + 2) back) := by
    rw [opensFrom_inQuotes hq, hm, callsAt_append_of_lt, callsAt_append_of_lt]
    · intro s hs
      have := mem_opensFrom hs
      omega
    · intro s hs
      have := mem_opensFrom hs
      omega
  rw [hskip h.length_eq, hskip rfl, callsAt_behind back i h]
  refine (List.filter_eq_self.2 fun r hr => survives_of_not_behind fun hbehind => ?_).symm
  obtain ⟨c, hc, hr⟩ := List.mem_flatMap.1 hr
  have hplace := le_offset_of_mem_callsAt (fun o c hl => (lt_of_lookup_parenPairs hl).1) hc
  have hbelow := (place_of_mem_references hr).1
  have hopens : outer.length ∈ opensFrom 0 (inQuotes q front back plain) :=
    mem_opensFrom_iff.2 ⟨outer, inner ++ q :: (plain ++ q :: back), by simp [inQuotes, e], by simp⟩
  have hlength := congrArg List.length e
  simp only [List.length_append] at hlength
  have := hbehind.2 outer.length hopens _ hpair rfl (by simp [varOpen] at hlength; omega)
    (by dsimp only; omega)
  dsimp only at this
  omega

/-- A call around the string closes behind it. -/
theorem exists_inside_around (hq : isQuote q) (hf : ∀ d ∈ front, isQuote d = false)
    (hc : IsContent plain) {outer inner : List Char} (e : front = outer ++ (varOpen ++ inner))
    {close : Nat}
    (hpair : (outer.length + 3, close) ∈ parenPairs (inQuotes q front back plain))
    (hclose : front.length ≤ close) :
    ∃ back' later, back = back' ++ ')' :: later ∧
      close = outer.length + 4 + (inQuotes q inner back' plain).length := by
  have hout := (outside_of_mem_parenPairs hq hf hc hpair).2
  have hlength : front.length = outer.length + 4 + inner.length := by
    simp [e, varOpen]
    omega
  have hplain : inQuotes q front back plain =
      outer ++ (varOpen ++ inQuotes q inner back plain) := by simp [inQuotes, e]
  have houter : ∀ d ∈ outer, isQuote d = false := fun d hd => hf d (by simp [e, hd])
  obtain ⟨body, later, -, hbody, hend, -⟩ := exists_parenPairs_inside_call houter hplain hpair
  have hsplit : (inner ++ q :: (plain ++ [q])) ++ back = body ++ ')' :: later := by
    rw [← hbody]
    simp [inQuotes]
  rcases List.append_eq_append_iff.1 hsplit with ⟨back', rfl, hback⟩ | ⟨back', hb, hback⟩
  · refine ⟨back', later, hback, ?_⟩
    simp [inQuotes] at hend ⊢
    omega
  · -- The inside reaches over the string, so nothing of the string is left.
    have hl := congrArg List.length hb
    simp only [List.length_append, List.length_cons, List.length_nil] at hl
    obtain rfl : back' = [] := List.length_eq_zero_iff.1 (by omega)
    refine ⟨[], later, by simpa using hback.symm, ?_⟩
    simp [inQuotes] at hl ⊢
    omega

/-- The inside of a call around the string. -/
theorem slice_around {outer inner back' later : List Char}
    (e : front = outer ++ (varOpen ++ inner)) (content : List Char) :
    (⟨outer.length + 4, outer.length + 4 + (inQuotes q inner back' content).length⟩ : Span).slice
        (inQuotes q front (back' ++ ')' :: later) content) = inQuotes q inner back' content := by
  have htext : inQuotes q front (back' ++ ')' :: later) content =
      (outer ++ varOpen) ++ (inQuotes q inner back' content ++ ')' :: later) := by
    simp [inQuotes, e]
  have hl : outer.length + 4 = (outer ++ varOpen).length := by simp [varOpen]
  rw [Span.slice, htext, Nat.add_sub_cancel_left, hl, List.drop_left, List.take_left]

/-- What the call around the string refers to. -/
theorem references_around (hq : isQuote q) (hf : ∀ d ∈ front, isQuote d = false)
    (h : Replaces plain content)
    (ih : ∀ front' : List Char, front'.length < front.length →
      (∀ d ∈ front', isQuote d = false) → FindsSurvivors q plain content front')
    {outer inner : List Char} (e : front = outer ++ (varOpen ++ inner)) {close : Nat}
    (hpair : (outer.length + 3, close) ∈ parenPairs (inQuotes q front back plain))
    (hclose : front.length ≤ close) :
    (ofCall ⟨i + outer.length + 4,
        (⟨outer.length + 4, close⟩ : Span).slice (inQuotes q front back content)⟩).references =
      (ofCall ⟨i + outer.length + 4,
        (⟨outer.length + 4, close⟩ : Span).slice (inQuotes q front back plain)⟩).references.filter
          fun r => survives content (inQuotes q front back plain) front.length (r.offset - i) := by
  obtain ⟨back', later, rfl, rfl⟩ :=
    exists_inside_around back hq hf h.isContent_plain e hpair hclose
  have hsame : (inQuotes q inner back' plain).length = (inQuotes q inner back' content).length := by
    simp [inQuotes, h.length_eq]
  have hlength : front.length = outer.length + 4 + inner.length := by
    simp [e, varOpen]
    omega
  -- What stands before the string survives.
  have hbefore {r : ValueReference} (hr : r.offset < i + outer.length + 4 + inner.length) :
      survives content (inQuotes q front (back' ++ ')' :: later) plain) front.length
        (r.offset - i) = true :=
    survives_of_not_behind fun hb => by
      have := hb.1
      omega
  rw [slice_around e plain, hsame, slice_around e content]
  rcases references_ofCall_quote hq (i + outer.length + 4) inner with
    ⟨refs, hplace, hrefs⟩ | ⟨r, lead, fallback, hinner, hlead, hplace, hrefs⟩
  · rw [hrefs, hrefs]
    exact (List.filter_eq_self.2 fun r hr => hbefore (hplace r hr)).symm
  · have hfallback : ∀ d ∈ fallback, isQuote d = false := fun d hd =>
      hf d (by simp [e, hinner, hd])
    have hshort : fallback.length < front.length := by
      rw [hlength, hinner, List.length_append, List.length_cons]
      omega
    rw [hrefs, hrefs, List.filter_cons_of_pos (by simpa using hbefore hplace)]
    refine congrArg (r :: ·) ((ih fallback hshort hfallback back' _).trans ?_)
    refine List.filter_congr fun r hr => ?_
    obtain ⟨hge, hlt⟩ := place_of_mem_referencesAt hr
    have htext : inQuotes q front (back' ++ ')' :: later) plain = outer ++ (varOpen ++
        (lead ++ ',' :: (inQuotes q fallback back' plain ++ ')' :: later))) := by
      simp [inQuotes, e, hinner]
    have hend : outer.length + 4 + (inQuotes q inner back' plain).length =
        outer.length + lead.length + 5 + (inQuotes q fallback back' plain).length := by
      simp [inQuotes, hinner]
      omega
    have hiff := behind_fallback_iff (n := fallback.length)
      (x := r.offset - (i + outer.length + 4 + lead.length + 1))
      (fun d hd => hf d (by simp [e, hd])) hlead htext rfl (hend ▸ hpair) (by omega)
    have hn : outer.length + lead.length + 5 + fallback.length = front.length := by
      rw [hlength, hinner, List.length_append, List.length_cons]
      omega
    have hx : outer.length + lead.length + 5 +
        (r.offset - (i + outer.length + 4 + lead.length + 1)) = r.offset - i := by omega
    rw [hn, hx] at hiff
    simp only [survives, hiff]

/-- What a call before the string refers to. -/
theorem references_before {start close : Nat} (hle : start + 4 ≤ close)
    (hclose : close ≤ front.length) :
    (ofCall ⟨i + start + 4,
        (⟨start + 4, close⟩ : Span).slice (inQuotes q front back content)⟩).references =
      (ofCall ⟨i + start + 4,
        (⟨start + 4, close⟩ : Span).slice (inQuotes q front back plain)⟩).references.filter
          fun r => survives content (inQuotes q front back plain) front.length (r.offset - i) := by
  have hslice (c : List Char) : (⟨start + 4, close⟩ : Span).slice (inQuotes q front back c) =
      (⟨start + 4, close⟩ : Span).slice front := by
    simp only [Span.slice, ← List.drop_take]
    rw [inQuotes, List.take_append_of_le_length hclose]
  rw [hslice, hslice]
  refine (List.filter_eq_self.2 fun r hr => survives_of_not_behind fun hb => ?_).symm
  have hplace := (place_of_mem_references hr).2
  have hbehind := hb.1
  simp only [Span.slice, List.length_take, List.length_drop] at hplace
  omega

/-- From any place before the string on, the search finds what survives the string. -/
theorem callsAt_inQuotes (hq : isQuote q) (hf : ∀ d ∈ front, isQuote d = false)
    (h : Replaces plain content)
    (ih : ∀ front' : List Char, front'.length < front.length →
      (∀ d ∈ front', isQuote d = false) → FindsSurvivors q plain content front')
    {outer rest : List Char} (e : front = outer ++ rest) {free : Nat}
    (hp : Passed (inQuotes q front back plain) outer.length free) (hfree : free ≤ front.length) :
    referencesOf (callsAt i (inQuotes q front back content)
        (parenPairs (inQuotes q front back plain)) free
        (opensFrom outer.length (inQuotes q rest back content))) =
      (referencesOf (callsAt i (inQuotes q front back plain)
        (parenPairs (inQuotes q front back plain)) free
        (opensFrom outer.length (inQuotes q rest back plain)))).filter fun r =>
          survives content (inQuotes q front back plain) front.length (r.offset - i) := by
  induction rest generalizing outer free with
  | nil =>
    obtain rfl : front = outer := by simpa using e
    exact callsAt_string back i hq hf h hp hfree
  | cons d rest ihrest =>
    have e' : front = (outer ++ [d]) ++ rest := by simp [e]
    have hlength : (outer ++ [d]).length = outer.length + 1 := by simp
    have hopens (c : List Char) : varOpen <+: d :: inQuotes q rest back c ↔ varOpen <+: d :: rest :=
      varOpen_prefix_append_iff (d :: rest) (by simpa using not_mem_varOpen_of_isQuote hq)
    have hcons (c : List Char) : inQuotes q (d :: rest) back c = d :: inQuotes q rest back c := rfl
    rw [hcons, hcons]
    by_cases hopen : varOpen <+: d :: rest
    · obtain ⟨inner, hinner⟩ := hopen
      have hfront : front = outer ++ (varOpen ++ inner) := by rw [e, hinner]
      have houter : ∀ d ∈ outer, isQuote d = false := fun d hd => hf d (by simp [e, hd])
      have htext : inQuotes q front back plain =
          outer ++ (varOpen ++ inQuotes q inner back plain) := by simp [inQuotes, hfront]
      have hmem : outer.length ∈ opensFrom 0 (inQuotes q front back plain) := by
        rw [htext, length_mem_opensFrom_iff]
        exact List.prefix_append _ _
      have hstart (c : List Char) : opensFrom outer.length (d :: inQuotes q rest back c) =
          outer.length :: opensFrom (outer.length + 1) (inQuotes q rest back c) := by
        rw [opensFrom, if_pos (List.isPrefixOf_iff_prefix.2 ((hopens c).2 ⟨inner, hinner⟩))]
      rw [hstart, hstart, callsAt, callsAt]
      by_cases hlt : outer.length < free
      · -- The call begins in one that was taken.
        have hstep := hp.step fun _ close hpair => hp.lt_of_covered hlt htext houter hpair
        rw [if_pos hlt, if_pos hlt, ← hlength]
        exact ihrest e' (hlength ▸ hstep) hfree
      · rw [if_neg hlt, if_neg hlt]
        cases hl : (parenPairs (inQuotes q front back plain)).lookup (outer.length + 3) with
        | none => rfl
        | some close =>
          have hpair := lookup_parenPairs_eq_some_iff.1 hl
          simp only [referencesOf, List.flatMap_cons, List.filter_append]
          by_cases hclose : close < front.length
          · have hle := (lt_of_lookup_parenPairs hl).1
            rw [references_before back i (by omega) hclose.le, ← hlength]
            exact congrArg _ (ihrest e' (hlength ▸ hp.take (by omega) hmem hpair) hclose)
          · have hm : outer.length + 1 + rest.length = front.length := by
              simp [e]
              omega
            rw [references_around back i hq hf h ih hfront hpair (by omega)]
            exact congrArg _ (callsAt_rest back i hq hf h hfront hm hpair (by omega))
    · rw [opensFrom_cons ((hopens content).not.2 hopen),
        opensFrom_cons ((hopens plain).not.2 hopen), ← hlength]
      refine ihrest e' (hlength ▸ hp.step fun hm => absurd ?_ hopen) hfree
      have htext : inQuotes q front back plain = outer ++ d :: inQuotes q rest back plain := by
        simp [inQuotes, e]
      exact (hopens plain).1 (length_mem_opensFrom_iff.1 (htext ▸ hm))

/-- Of the references of a stretch, those survive a string in it that do not stand behind it in all
calls around it. -/
theorem findsSurvivors (hq : isQuote q) (hf : ∀ d ∈ front, isQuote d = false)
    (h : Replaces plain content) : FindsSurvivors q plain content front := by
  induction hn : front.length using Nat.strong_induction_on generalizing front with
  | _ n ih =>
    subst hn
    intro back i
    rw [referencesAt, referencesAt,
      parenPairs_quoted_congr hq hf h.isContent h.isContent_plain h.length_eq]
    have hfront : front = [] ++ front := rfl
    exact callsAt_inQuotes back i hq hf h (fun front' hlt hf' => ih _ hlt hf' rfl) hfront
      (Passed.start _) (Nat.zero_le _)

end Search

/-! ### Whole values -/

theorem isContent_replicate (n : Nat) : IsContent (List.replicate n ' ') := by
  intro d hd
  rw [List.eq_of_mem_replicate hd]
  decide

theorem not_infix_replicate (n : Nat) : ¬ varOpen <:+: List.replicate n ' ' := by
  intro h
  have hm : 'v' ∈ List.replicate n ' ' := h.subset (by decide)
  exact absurd (List.eq_of_mem_replicate hm) (by decide)

/-- **What a string hides.** Of what stands in a string only two things matter: how long it is, and
whether it holds the text `var(`. Strings that are alike in this are found with the same references
around them. A string that holds this text hides the references behind it, up to the end of the
innermost call around it, and no others. -/
theorem references_quoted {q : Char} (hq : isQuote q) {p c₁ c₂ : List Char}
    (hp : ∀ d ∈ p, isQuote d = false) (h₁ : IsContent c₁) (h₂ : IsContent c₂)
    (hlen : c₁.length = c₂.length) (s : List Char) :
    ((varOpen <:+: c₁ ↔ varOpen <:+: c₂) →
      (parse (p ++ q :: (c₁ ++ q :: s))).references =
        (parse (p ++ q :: (c₂ ++ q :: s))).references) ∧
    (varOpen <:+: c₁ → ¬ varOpen <:+: c₂ →
      (parse (p ++ q :: (c₁ ++ q :: s))).references =
        (parse (p ++ q :: (c₂ ++ q :: s))).references.filter fun r =>
          ¬ Behind (dropImportant (p ++ q :: (c₂ ++ q :: s))) p.length r.offset) := by
  obtain ⟨kept, hkept⟩ := exists_dropImportant_quote hq s
  have hdrop (c : List Char) :
      dropImportant (p ++ q :: (c ++ q :: s)) = inQuotes q p kept c := by
    have h := hkept (p ++ q :: c)
    simpa [inQuotes] using h
  have hparse (c : List Char) : (parse (p ++ q :: (c ++ q :: s))).references =
      referencesAt 0 (inQuotes q p kept c) := by
    rw [parse_eq, references_ofText, hdrop]
  simp only [hparse, hdrop]
  constructor
  · intro hiff
    have hblanks {c : List Char} (hc : IsContent c) (hl : c.length = c₂.length) :
        Replaces (List.replicate c₂.length ' ') c :=
      ⟨hc, isContent_replicate _, by simpa using hl, not_infix_replicate _⟩
    rw [findsSurvivors hq hp (hblanks h₁ hlen), findsSurvivors hq hp (hblanks h₂ rfl)]
    simp only [survives, hiff]
  · intro hv hno
    rw [findsSurvivors hq hp ⟨h₁, h₂, hlen, hno⟩]
    refine List.filter_congr fun r _ => ?_
    simp [survives, hv]

/-- A call with a string in its fallback, a reference behind the string, and one behind the call. -/
def stringInFallback (content : String) : List Char :=
  "var(--a, ".toList ++ '"' :: (content.toList ++ '"' :: " var(--b)) var(--c)".toList)

theorem references_stringInFallback :
    (parse (stringInFallback "(var(")).references = (parse (stringInFallback "var((")).references ∧
      (parse (stringInFallback "var(")).references = [⟨"--a", 4, true⟩, ⟨"--c", 30, false⟩] := by
  have hq : isQuote '"' := by decide
  have hp : ∀ d ∈ "var(--a, ".toList, isQuote d = false := by simp [isQuote]
  have hc : IsContent "var(".toList := by simp [IsContent, isQuote]
  have hc₁ : IsContent "(var(".toList := by simp [IsContent, isQuote]
  have hc₂ : IsContent "var((".toList := by simp [IsContent, isQuote]
  have hx : IsContent "xxxx".toList := by simp [IsContent, isQuote]
  obtain ⟨halike, -⟩ := references_quoted hq hp hc₁ hc₂ (by simp) " var(--b)) var(--c)".toList
  obtain ⟨-, hhides⟩ := references_quoted hq hp hc hx (by simp) " var(--b)) var(--c)".toList
  refine ⟨halike (by decide +kernel), ?_⟩
  refine (hhides (by decide +kernel) (by decide +kernel)).trans ?_
  decide +kernel

/-- Text in a string that looks like a call hides the reference behind the string. -/
theorem quoted_call_hides :
    IsContent "var(".toList ∧ IsContent "aaaa".toList ∧
      "var(".toList.length = "aaaa".toList.length ∧
      (parse ('"' :: ("var(".toList ++ '"' :: " var(--x)".toList))).references = [] ∧
      (parse ('"' :: ("aaaa".toList ++ '"' :: " var(--x)".toList))).references =
        [⟨"--x", 11, false⟩] :=
  ⟨by simp [IsContent, isQuote], by simp [IsContent, isQuote], rfl, by cbv, by cbv⟩

end BeamLint.Value
