import BeamLint.Proofs.Text.Place
import BeamLint.Value.Basic
import Mathlib

/-!
# Where the references of a value stand

The calls that a value shows stand in it, one after the other (`CallsIn`). So the names that a
value refers to stand in it at the offsets of the references, and these offsets increase
(`ReferencesIn`): the name of a call stands before its fallback, and calls side by side do not
overlap.
-/

namespace BeamLint

open Text

/-! ### Pieces of a text -/

theorem isBlank_of_isPropertyChar {c : Char} (h : isPropertyChar c = true) : isBlank c = false := by
  have hc : 45 ≤ c.toNat ∧ c.toNat ≤ 122 := by
    simp only [isPropertyChar, Char.isAlphanum, Char.isAlpha, Char.isUpper, Char.isLower,
      Char.isDigit, ge_iff_le, UInt32.le_iff_toNat_le, Bool.or_eq_true, Bool.and_eq_true,
      decide_eq_true_eq, beq_iff_eq] at h
    rcases h with ((((h | h) | h) | rfl) | rfl)
    · exact ⟨le_trans (by decide) h.1, le_trans h.2 (by decide)⟩
    · exact ⟨le_trans (by decide) h.1, le_trans h.2 (by decide)⟩
    · exact ⟨le_trans (by decide) h.1, le_trans h.2 (by decide)⟩
    · decide
    · decide
  simp only [isBlank, Bool.or_eq_false_iff, Bool.and_eq_false_iff, decide_eq_false_iff_not,
    beq_eq_false_iff_ne]
  omega

theorem standsAt_trimLeft (base : Nat) (text : List Char) :
    StandsAt base text (base + (text.takeWhile isBlank).length) (trimLeft text) :=
  ⟨text.takeWhile isBlank, [], by simp [trimLeft], rfl⟩

theorem trimRight_isPrefix (text : List Char) : trimRight text <+: text :=
  List.rdropWhile_prefix isBlank text

theorem standsAt_trim (base : Nat) (text : List Char) :
    StandsAt base text (base + (text.takeWhile isBlank).length) (trim text) :=
  (standsAt_trimLeft base text).trans (.of_isPrefix (trimRight_isPrefix _))

theorem dropWord?_suffix {word text rest : List Char} (h : dropWord? word text = some rest) :
    rest <:+ text := by
  induction word generalizing text with
  | nil => exact (Option.some.inj h) ▸ List.suffix_rfl
  | cons letter word ih =>
    cases text with
    | nil => simp [dropWord?] at h
    | cons c text =>
      rw [dropWord?] at h
      split at h
      · exact (ih h).trans (List.suffix_cons c text)
      · contradiction

/-- What is left of a name and what follows it. -/
theorem propertyName?_eq_some {text name after : List Char}
    (h : propertyName? text = some (name, after)) : text = name ++ after ∧ Solid name := by
  unfold propertyName? at h
  dsimp only at h
  split at h
  · next hc =>
    simp only [Option.some.injEq, Prod.mk.injEq] at h
    obtain ⟨rfl, rfl⟩ := h
    refine ⟨by simp, ?_, fun c hc => isBlank_of_isPropertyChar (List.mem_takeWhile_imp hc)⟩
    simp only [Bool.and_eq_true, decide_eq_true_eq] at hc
    exact List.length_pos_iff.1 (by omega)
  · contradiction

/-! ### Matching parentheses -/

/-- Whatever is open was opened before, so a pair opens before it closes. -/
theorem lt_of_mem_parenPairsFrom {text : List Char} {i : Nat} {quote : Option Char} {before : Char}
    {opened : List Nat} (ho : ∀ o ∈ opened, o < i) {o c : Nat}
    (h : (o, c) ∈ parenPairsFrom i quote before opened text) : o < c ∧ c < i + text.length := by
  induction text generalizing i quote before opened with
  | nil => simp [parenPairsFrom] at h
  | cons d text ih =>
    -- One character further on, a place moves up by one and the length goes down by one.
    have step : ∀ {quote before opened}, (∀ o ∈ opened, o < i + 1) →
        (o, c) ∈ parenPairsFrom (i + 1) quote before opened text →
        o < c ∧ c < i + (d :: text).length := by
      intro quote before opened ho h
      have := ih ho h
      simp only [List.length_cons]
      omega
    have ho' : ∀ o ∈ opened, o < i + 1 := fun o hm => (ho o hm).trans (Nat.lt_succ_self i)
    unfold parenPairsFrom at h
    dsimp only at h
    split_ifs at h
    · exact step ho' h
    · refine step (fun o hm => ?_) h
      rcases List.mem_cons.1 hm with rfl | hm
      · exact Nat.lt_succ_self o
      · exact ho' o hm
    · split at h
      · next p rest =>
        rcases List.mem_cons.1 h with e | h
        · obtain ⟨rfl, rfl⟩ := Prod.mk.inj e
          exact ⟨ho o List.mem_cons_self, by simp⟩
        · exact step (fun o hm => ho' o (List.mem_cons_of_mem _ hm)) h
      · exact step (by simp) h
    · exact step ho' h

theorem lt_of_lookup_parenPairs {text : List Char} {o c : Nat}
    (h : (parenPairs text).lookup o = some c) : o < c ∧ c < text.length := by
  obtain ⟨front, rest, e, -⟩ := List.lookup_eq_some_iff.1 h
  have hm : (o, c) ∈ parenPairs text := by simp [e]
  simpa using lt_of_mem_parenPairsFrom (by simp) hm

/-! ### Calls -/

/-- The calls stand in the text, one after the other. -/
structure CallsIn (base : Nat) (text : List Char) (calls : List Call) : Prop where
  stands : ∀ c ∈ calls, StandsAt base text c.offset c.inner
  apart : calls.Pairwise fun a b => a.offset + a.inner.length < b.offset

theorem CallsIn.trans {base i : Nat} {text part : List Char} {calls : List Call}
    (h : StandsAt base text i part) (hc : CallsIn i part calls) : CallsIn base text calls :=
  ⟨fun c hm => h.trans (hc.stands c hm), hc.apart⟩

theorem standsAt_slice {base start stop : Nat} {text : List Char} (h₁ : start ≤ stop)
    (h₂ : stop ≤ text.length) :
    StandsAt base text (base + start) ((⟨start, stop⟩ : Span).slice text) := by
  refine ⟨text.take start, text.drop stop, ?_, ?_⟩
  · have e : text.drop stop = (text.drop start).drop (stop - start) := by
      rw [List.drop_drop, Nat.add_sub_cancel' h₁]
    rw [Span.slice, e, List.append_assoc, List.take_append_drop, List.take_append_drop]
  · rw [List.length_take_of_le (h₁.trans h₂)]

/-- No call begins before the place that is free. -/
theorem le_offset_of_mem_callsAt {offset : Nat} {body : List Char} {pairs : List (Nat × Nat)}
    {starts : List Nat} {free : Nat} (hp : ∀ o c, pairs.lookup o = some c → o < c) {c : Call}
    (h : c ∈ callsAt offset body pairs free starts) : offset + free + 4 ≤ c.offset := by
  induction starts generalizing free with
  | nil => simp [callsAt] at h
  | cons start starts ih =>
    rw [callsAt] at h
    split at h
    · exact ih h
    · split at h
      · simp at h
      · next close hl =>
        have := hp _ _ hl
        rcases List.mem_cons.1 h with rfl | h
        · simp only
          omega
        · have := ih h
          omega

theorem callsIn_callsAt (offset : Nat) (body : List Char) (free : Nat) (starts : List Nat) :
    CallsIn offset body (callsAt offset body (parenPairs body) free starts) := by
  induction starts generalizing free with
  | nil => exact ⟨by simp [callsAt], by simp [callsAt]⟩
  | cons start starts ih =>
    rw [callsAt]
    split
    · exact ih free
    · split
      · exact ⟨by simp, by simp⟩
      · next close hl =>
        obtain ⟨h₁, h₂⟩ := lt_of_lookup_parenPairs hl
        refine ⟨fun c hc => ?_, List.pairwise_cons.2 ⟨fun c hc => ?_, (ih _).apart⟩⟩
        · rcases List.mem_cons.1 hc with rfl | hc
          · exact standsAt_slice (by omega) h₂.le
          · exact (ih _).stands c hc
        · have := le_offset_of_mem_callsAt (fun o c h => (lt_of_lookup_parenPairs h).1) hc
          simp only [Span.slice, List.length_take, List.length_drop]
          omega

/-- What a stretch shows of calls stands in it. -/
theorem callsIn_ofText (offset : Nat) (text : List Char) :
    CallsIn offset text (ValueShape.ofText offset text).calls := by
  have ht := standsAt_trim offset text
  unfold ValueShape.ofText
  dsimp only
  split_ifs with h₁ h₂
  · exact ⟨by simp [ValueShape.calls], by simp [ValueShape.calls]⟩
  · -- The whole stretch is one call: its inside is what is left without the marks around it.
    refine ⟨?_, by simp [ValueShape.calls]⟩
    simp only [ValueShape.calls, List.mem_singleton, forall_eq]
    simp only [Bool.and_eq_true, List.isPrefixOf_iff_prefix] at h₂
    obtain ⟨rest, hr⟩ := h₂.1
    refine ht.trans ?_
    have hd : (trim text).drop 4 = rest := by rw [← hr]; rfl
    rw [hd, ← hr]
    exact (StandsAt.append_right varOpen rfl).trans (.of_isPrefix (List.dropLast_prefix rest))
  · exact (callsIn_callsAt _ _ _ _).trans ht
  · exact ⟨by simp [ValueShape.calls], by simp [ValueShape.calls]⟩

/-! ### References -/

/-- The names of the references stand in the text, one after the other. -/
structure ReferencesIn (base : Nat) (text : List Char) (rs : List ValueReference) : Prop where
  solid : ∀ r ∈ rs, Solid r.name.toList
  stands : ∀ r ∈ rs, StandsAt base text r.offset r.name.toList
  increasing : rs.Pairwise fun a b => a.offset < b.offset

namespace ReferencesIn

variable {base i : Nat} {text part : List Char} {rs : List ValueReference}

theorem nil (base : Nat) (text : List Char) : ReferencesIn base text [] :=
  ⟨by simp, by simp, by simp⟩

theorem trans (h : StandsAt base text i part) (hr : ReferencesIn i part rs) :
    ReferencesIn base text rs :=
  ⟨hr.solid, fun r hm => h.trans (hr.stands r hm), hr.increasing⟩

theorem cons {r : ValueReference} (hs : Solid r.name.toList)
    (hr : StandsAt base text r.offset r.name.toList) (h : StandsAt base text i part)
    (hlt : r.offset < i) (hrs : ReferencesIn i part rs) : ReferencesIn base text (r :: rs) where
  solid := List.forall_mem_cons.2 ⟨hs, hrs.solid⟩
  stands := List.forall_mem_cons.2 ⟨hr, (hrs.trans h).stands⟩
  increasing := List.pairwise_cons.2
    ⟨fun s hm => hlt.trans_le (hrs.stands s hm).le, hrs.increasing⟩

/-- The references of calls side by side. -/
theorem flatMap {calls : List Call} {refs : Call → List ValueReference}
    (hc : CallsIn base text calls) (h : ∀ c ∈ calls, ReferencesIn c.offset c.inner (refs c)) :
    ReferencesIn base text (calls.flatMap refs) where
  solid r hr := by
    obtain ⟨c, hm, hr⟩ := List.mem_flatMap.1 hr
    exact (h c hm).solid r hr
  stands r hr := by
    obtain ⟨c, hm, hr⟩ := List.mem_flatMap.1 hr
    exact (hc.stands c hm).trans ((h c hm).stands r hr)
  increasing := by
    refine List.pairwise_flatMap.2 ⟨fun c hm => (h c hm).increasing, ?_⟩
    refine hc.apart.imp_of_mem fun {a b} ha hb hab r hr s hs => ?_
    have hl := ((h a ha).stands r hr).lt ((h a ha).solid r hr)
    have hg := ((h b hb).stands s hs).le
    omega

end ReferencesIn

namespace Value

theorem fallback?_suffix {text rest : List Char} (h : fallback? text = some rest) :
    rest <:+ text := by
  unfold fallback? at h
  split at h
  · next fallback heq =>
    obtain rfl : fallback = rest := by simpa using h
    have hd : trimLeft text <:+ text := List.dropWhile_suffix isBlank
    exact (heq ▸ List.suffix_cons _ _ : fallback <:+ trimLeft text).trans hd
  · contradiction

/-- What a stretch of the given shape refers to, and the literal in which it ends. -/
def ofShape : ValueShape → Value
  | .empty => ⟨[], none⟩
  | .literal text => ⟨[], some (String.ofList text)⟩
  | .call c => ofCall c
  | .compound calls => ⟨calls.flatMap fun c => (ofCall c).references, none⟩

theorem references_ofShape (s : ValueShape) :
    (ofShape s).references = s.calls.flatMap fun c => (ofCall c).references := by
  cases s <;> simp [ofShape, ValueShape.calls]

theorem parse_eq (text : List Char) :
    parse text = ofShape (ValueShape.ofText 0 (dropImportant text)) := by
  unfold parse ofShape
  rfl

/-- A call refers to its name, and then to what its fallback refers to; it ends as the fallback
ends. -/
theorem ofCall_of_propertyName? {c : Call} {name after : List Char}
    (hn : propertyName? (trimLeft c.inner) = some (name, after)) :
    ofCall c =
      let place := c.offset + (c.inner.takeWhile isBlank).length
      match fallback? after with
      | none => ⟨[⟨String.ofList name, place, false⟩], none⟩
      | some fallback =>
        let start := c.offset + (c.inner.length - fallback.length)
        let rest := ofShape (ValueShape.ofText start fallback)
        ⟨⟨String.ofList name, place, true⟩ :: rest.references, rest.literal⟩ := by
  rw [ofCall]
  split
  · next h => simp [hn] at h
  · next h =>
    obtain ⟨rfl, rfl⟩ : _ ∧ _ := by simpa [hn] using h
    split
    · next hf => simp only [hf]
    · next fallback hf =>
      simp only [hf]
      split
      · next hs => simp [hs, ofShape]
      · next hs => simp [hs, ofShape]
      · next hs => simp [hs, ofShape]
      · next hs => simp [hs, ofShape, List.flatMap_subtype]

/-- A call refers to its name, and then to what the calls in its fallback refer to. -/
theorem references_ofCall (c : Call) :
    (ofCall c).references =
      match propertyName? (trimLeft c.inner) with
      | none => []
      | some (name, after) =>
        let place := c.offset + (c.inner.takeWhile isBlank).length
        match fallback? after with
        | none => [⟨String.ofList name, place, false⟩]
        | some fallback =>
          let start := c.offset + (c.inner.length - fallback.length)
          ⟨String.ofList name, place, true⟩ ::
            (ValueShape.ofText start fallback).calls.flatMap fun c => (ofCall c).references := by
  cases hn : propertyName? (trimLeft c.inner) with
  | none =>
    rw [ofCall]
    split
    · rfl
    · next h => simp [hn] at h
  | some p =>
    rw [ofCall_of_propertyName? hn]
    dsimp only
    cases fallback? p.2 with
    | none => rfl
    | some fallback => simp only [references_ofShape]

-- The calls in the fallback of a call are shorter than the call, so the induction is on the length.
theorem referencesIn_ofCall (c : Call) : ReferencesIn c.offset c.inner (ofCall c).references := by
  induction hn : c.inner.length using Nat.strong_induction_on generalizing c with
  | _ n ih =>
    rw [references_ofCall]
    split
    · exact .nil _ _
    · next name after hname =>
      obtain ⟨he, hs⟩ := propertyName?_eq_some hname
      have hl := standsAt_trimLeft c.offset c.inner
      have hname : StandsAt c.offset c.inner (c.offset + (c.inner.takeWhile isBlank).length) name :=
        hl.trans (.of_isPrefix (he ▸ List.prefix_append name after))
      have hpos := List.length_pos_iff.2 hs.1
      have hlen : (trimLeft c.inner).length = name.length + after.length := by simp [he]
      have hadd := hl.add_length_le
      dsimp only
      split
      · refine ⟨?_, ?_, by simp⟩
        · simpa using hs
        · simpa using hname
      · next fallback hf =>
        have hlt := length_of_fallback? hf
        have hsuf : fallback <:+ c.inner :=
          (((fallback?_suffix hf).trans (List.suffix_append name after)).trans
            (he ▸ List.suffix_rfl)).trans (List.dropWhile_suffix isBlank)
        refine .cons (by simpa using hs) (by simpa using hname) (.of_suffix hsuf) ?_
          (.flatMap (callsIn_ofText _ _) fun d hd => ?_)
        · simp only
          omega
        · have := length_inner_lt_of_mem_calls hd
          exact ih d.inner.length (by omega) d rfl

/-- The names that a stretch refers to stand in it. -/
theorem referencesIn_ofShape (i : Nat) (text : List Char) :
    ReferencesIn i text (ofShape (ValueShape.ofText i text)).references := by
  rw [references_ofShape]
  exact .flatMap (callsIn_ofText i text) fun c _ => referencesIn_ofCall c

theorem dropImportant_isPrefix (text : List Char) : dropImportant text <+: text := by
  unfold dropImportant
  dsimp only
  split
  · exact List.prefix_rfl
  · next rest hw =>
    split
    · next last heq =>
      have h₁ : rest <:+ text.reverse :=
        (dropWord?_suffix hw).trans (List.dropWhile_suffix isBlank)
      have h₂ : last <:+ rest :=
        (heq ▸ List.suffix_cons _ _ : last <:+ rest.dropWhile isBlank).trans
          (List.dropWhile_suffix isBlank)
      have h₃ := ((List.dropWhile_suffix (l := last) isBlank).trans h₂).trans h₁
      simpa using List.reverse_prefix.2 h₃
    · exact List.prefix_rfl

/-- The names that a value refers to stand in its text, at increasing places. -/
theorem referencesIn_parse (text : List Char) : ReferencesIn 0 text (parse text).references := by
  rw [parse_eq]
  exact (referencesIn_ofShape 0 _).trans (.of_isPrefix (dropImportant_isPrefix text))

end Value

end BeamLint
