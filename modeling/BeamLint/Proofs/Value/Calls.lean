import BeamLint.Proofs.Value.Matching
import BeamLint.Proofs.Value.Quote
import BeamLint.Proofs.Value.Roundtrip
import Mathlib

/-!
# The calls that a value refers to

Whatever a text looks like, its parentheses unbalanced and its quotes open, what it is read for are
calls that stand in it between partners (`Call.ClosedIn`): the calls of a stretch are such calls if
the stretch has its pairs in the text, and what stands in such a call is such a stretch, up to its
fallback. So each reference is the name in a call of the text (`NamedCall.StandsIn`), and by the
order of the offsets no call is met twice. A text that ends in a literal is nothing but a chain of
calls around it (`LiteralIn`).
-/

namespace BeamLint

open Text

/-! ### Calls between partners -/

/-- The inside of a call of the text whose parentheses are partners. -/
def Call.ClosedIn (text : List Char) (c : Call) : Prop :=
  ∃ front later, text = front ++ (callText c.inner ++ later) ∧ c.offset = front.length + 4 ∧
    (front.length + 3, front.length + 4 + c.inner.length) ∈ parenPairs text

section

variable {text part : List Char} {i : Nat} {c : Call}

/-- A call that is taken begins where a call seems to begin, and ends at the partner. -/
theorem exists_of_mem_callsAt {offset free : Nat} {body : List Char} {pairs : List (Nat × Nat)}
    {starts : List Nat} (h : c ∈ callsAt offset body pairs free starts) :
    ∃ start ∈ starts, ∃ close, pairs.lookup (start + 3) = some close ∧
      c = ⟨offset + start + 4, (⟨start + 4, close⟩ : Span).slice body⟩ := by
  induction starts generalizing free with
  | nil => simp [callsAt] at h
  | cons start starts ih =>
    have later {free : Nat} (h : c ∈ callsAt offset body pairs free starts) :
        ∃ s ∈ start :: starts, ∃ close, pairs.lookup (s + 3) = some close ∧
          c = ⟨offset + s + 4, (⟨s + 4, close⟩ : Span).slice body⟩ := by
      obtain ⟨s, hs, found⟩ := ih h
      exact ⟨s, List.mem_cons_of_mem start hs, found⟩
    rw [callsAt] at h
    split at h
    · exact later h
    · split at h
      · simp at h
      · next close hl =>
        rcases List.mem_cons.1 h with rfl | h
        · exact ⟨start, List.mem_cons_self, close, hl, rfl⟩
        · exact later h

theorem slice_after_varOpen (front inner rest : List Char) :
    (⟨front.length + 4, front.length + 4 + inner.length⟩ : Span).slice
      (front ++ (varOpen ++ (inner ++ rest))) = inner := by
  have hl : front.length + 4 = (front ++ varOpen).length := by simp [varOpen]
  rw [Span.slice, Nat.add_sub_cancel_left, ← List.append_assoc, hl, List.drop_left, List.take_left]

/-- Where `var(` stands at an opening parenthesis that has a partner, a call stands. -/
theorem exists_callText_of_mem_parenPairs {front back : List Char} {close : Nat}
    (h : (front.length + 3, close) ∈ parenPairs (front ++ (varOpen ++ back))) :
    ∃ inner later, back = inner ++ ')' :: later ∧ close = front.length + 4 + inner.length := by
  obtain ⟨front', inner, later, e, ho, hc, -⟩ := enclosesAt_of_mem_parenPairs h
  have hsplit : (front ++ ['v', 'a', 'r']) ++ '(' :: back =
      front' ++ '(' :: (inner ++ ')' :: later) := by
    rw [← e]
    simp [varOpen]
  have hrest := (List.append_inj hsplit (by simp; omega)).2
  exact ⟨inner, later, (List.cons.inj hrest).2, by omega⟩

/-- The calls of a stretch that has its pairs in the text. -/
theorem closedIn_of_mem_calls (h : PairedIn text i part)
    (hc : c ∈ (ValueShape.ofText i part).calls) : c.ClosedIn text := by
  rw [calls_ofText] at hc
  obtain ⟨start, hs, close, hl, rfl⟩ := exists_of_mem_callsAt hc
  obtain ⟨front, back, rfl, rfl⟩ := mem_opensFrom_iff.1 hs
  rw [Nat.zero_add] at hl ⊢
  have hm := lookup_parenPairs_eq_some_iff.1 hl
  obtain ⟨inner, later, rfl, rfl⟩ := exists_callText_of_mem_parenPairs hm
  rw [slice_after_varOpen]
  obtain ⟨before, after, e, hi⟩ := h.stands
  refine ⟨before ++ front, later ++ after, ?_, ?_, ?_⟩
  · rw [e]
    simp [callText]
  · simp only [List.length_append]
    omega
  · have hp := h.pairs _ hm
    rw [shiftPair] at hp
    convert hp using 2 <;> simp only [List.length_append] <;> omega

/-- What stands in such a call has its pairs in the text. -/
theorem Call.ClosedIn.pairedIn (h : c.ClosedIn text) : PairedIn text c.offset c.inner := by
  obtain ⟨front, later, rfl, ho, hm⟩ := h
  have e : front ++ (callText c.inner ++ later) =
      (front ++ ['v', 'a', 'r']) ++ '(' :: (c.inner ++ ')' :: later) := by
    simp [callText, varOpen]
  have hoffset : c.offset = (front ++ ['v', 'a', 'r']).length + 1 := by
    rw [ho, List.length_append]
    rfl
  rw [hoffset, e]
  refine .of_partners ?_
  rw [e] at hm
  convert hm using 2
  simp only [List.length_append, List.length_cons, List.length_nil]
  omega

end

/-! ### Names and fallbacks -/

theorem propertyName?_eq_some_iff {text name after : List Char} :
    propertyName? text = some (name, after) ↔ ∃ n : PropertyName, n.text = name ∧
      text = n.text ++ after ∧ ∀ d ∈ after.head?, isPropertyChar d = false := by
  constructor
  · intro h
    have hchars := Value.isPropertyChar_of_mem_name h
    unfold propertyName? at h
    dsimp only at h
    split at h
    · next hc =>
      obtain ⟨rfl, rfl⟩ := Prod.mk.inj (Option.some.inj h)
      simp only [Bool.and_eq_true, List.isPrefixOf_iff_prefix, decide_eq_true_eq] at hc
      refine ⟨⟨_, hc.1, hc.2, hchars⟩, rfl, by simp, fun d hd => ?_⟩
      have hhead := List.head?_dropWhile_not isPropertyChar text
      simpa [Option.mem_def.1 hd] using hhead
    · contradiction
  · rintro ⟨n, rfl, rfl, h⟩
    exact n.propertyName?_append h

namespace Value

theorem isSome_fallback? (after : List Char) :
    (fallback? after).isSome = ((trimLeft after).head? == some ',') := by
  unfold fallback?
  cases trimLeft after with
  | nil => rfl
  | cons d rest => split <;> simp_all

theorem length_lt_of_fallback? {inner name after fallback : List Char}
    (hn : propertyName? (trimLeft inner) = some (name, after))
    (hf : fallback? after = some fallback) : fallback.length < inner.length := by
  obtain ⟨lead, -, rfl, -⟩ := exists_before_fallback hn hf
  simp only [List.length_append, List.length_cons]
  omega

theorem pairedIn_fallback {inner name after fallback : List Char}
    (hn : propertyName? (trimLeft inner) = some (name, after))
    (hf : fallback? after = some fallback) :
    PairedIn inner (inner.length - fallback.length) fallback := by
  obtain ⟨lead, hplain, rfl, -⟩ := exists_before_fallback hn hf
  have hcomma : ∀ d ∈ lead ++ [','], isQuote d = false ∧ d ≠ '(' ∧ d ≠ ')' :=
    List.forall_mem_append.2 ⟨hplain, by simp [isQuote]⟩
  have hp := PairedIn.of_plain_append hcomma fallback
  rw [List.append_assoc, List.singleton_append] at hp
  convert hp using 1
  simp only [List.length_append, List.length_cons, List.length_nil]
  omega

end Value

/-! ### Calls with a name -/

/-- A call with a name, where it stands in a text: the blanks before the name, and what follows the
name in the call. -/
structure NamedCall where
  front : List Char
  lead : Blanks
  name : PropertyName
  after : List Char
  later : List Char

namespace NamedCall

/-- What stands between the parentheses. -/
def inner (c : NamedCall) : List Char := c.lead.text ++ (c.name.text ++ c.after)

/-- The place of the name. -/
def place (c : NamedCall) : Nat := c.front.length + 4 + c.lead.text.length

/-- Whether a comma is the first character after the name that is no blank. -/
def hasFallback (c : NamedCall) : Bool := (trimLeft c.after).head? == some ','

/-- What the call refers to first. -/
def reference (c : NamedCall) : ValueReference :=
  ⟨String.ofList c.name.text, c.place, c.hasFallback⟩

/-- The call stands in the text, its parentheses are partners there, and the name cannot be read any
further. -/
structure StandsIn (text : List Char) (c : NamedCall) : Prop where
  text_eq : text = c.front ++ (callText c.inner ++ c.later)
  partners : (c.front.length + 3, c.front.length + 4 + c.inner.length) ∈ parenPairs text
  maximal : ∀ d ∈ c.after.head?, isPropertyChar d = false

variable {text : List Char} {a b : NamedCall}

theorem StandsIn.getElem?_place (h : a.StandsIn text) : text[a.place]? = some '-' := by
  obtain ⟨rest, hname⟩ := a.name.hyphens
  have e : text = (a.front ++ varOpen ++ a.lead.text) ++
      '-' :: '-' :: (rest ++ (a.after ++ ')' :: a.later)) := by
    rw [h.text_eq, callText, inner, ← hname]
    simp
  have hl : a.place = (a.front ++ varOpen ++ a.lead.text).length := by
    simp only [place, List.length_append, varOpen, List.length_cons, List.length_nil]
  rw [e, hl, List.getElem?_append_right le_rfl, Nat.sub_self]
  rfl

/-- Only blanks stand between the parenthesis and the name. -/
theorem StandsIn.isBlank_of_getElem? (h : b.StandsIn text) {k : Nat} {d : Char}
    (hk : b.front.length + 4 ≤ k) (hlt : k < b.place) (hd : text[k]? = some d) : isBlank d := by
  have e : text = (b.front ++ varOpen) ++
      (b.lead.text ++ (b.name.text ++ b.after ++ ')' :: b.later)) := by
    rw [h.text_eq, callText, inner]
    simp
  have hl : (b.front ++ varOpen).length = b.front.length + 4 := by
    rw [List.length_append]
    rfl
  have hplace : k - (b.front ++ varOpen).length < b.lead.text.length := by
    rw [place] at hlt
    omega
  rw [e, List.getElem?_append_right (hl ▸ hk), List.getElem?_append_left hplace] at hd
  exact List.all_eq_true.1 b.lead.blank d (List.mem_of_getElem? hd)

/-- Calls begin in the order of their names, so no two names are those of one call. -/
theorem StandsIn.front_lt (ha : a.StandsIn text) (hb : b.StandsIn text) (h : a.place < b.place) :
    a.front.length < b.front.length := by
  by_contra hle
  -- Otherwise the name of `a` would begin among the blanks before the name of `b`.
  have hfrom : b.front.length + 4 ≤ a.place := by
    rw [place]
    omega
  have hblank := hb.isBlank_of_getElem? hfrom h ha.getElem?_place
  exact absurd hblank (by decide)

end NamedCall

namespace Value

-- The calls in the fallback of a call are shorter than the call, so the induction is on the length;
-- every one of them is closed in the text because the fallback has its pairs there.
theorem exists_namedCall_of_mem_references {text : List Char} {c : Call} (hc : c.ClosedIn text)
    {r : ValueReference} (hr : r ∈ (ofCall c).references) :
    ∃ n : NamedCall, n.StandsIn text ∧ n.reference = r := by
  induction hlen : c.inner.length using Nat.strong_induction_on generalizing c with
  | _ length ih =>
    rw [references_ofCall] at hr
    cases hname : propertyName? (trimLeft c.inner) with
    | none => simp [hname] at hr
    | some p =>
      obtain ⟨name, after⟩ := p
      obtain ⟨name, rfl, htrim, hmax⟩ := propertyName?_eq_some_iff.1 hname
      obtain ⟨front, later, e, ho, hm⟩ := id hc
      have hinner : c.inner = c.inner.takeWhile isBlank ++ (name.text ++ after) := by
        rw [← htrim, trimLeft, List.takeWhile_append_dropWhile]
      let here : NamedCall :=
        ⟨front, ⟨c.inner.takeWhile isBlank, isAllBlank_takeWhile c.inner⟩, name, after, later⟩
      have hhere : here.StandsIn text := by
        have hsame : here.inner = c.inner := hinner.symm
        exact ⟨by rw [hsame]; exact e, by rw [hsame]; exact hm, hmax⟩
      have hreference : here.reference = ⟨String.ofList name.text,
          c.offset + (c.inner.takeWhile isBlank).length, (fallback? after).isSome⟩ := by
        rw [isSome_fallback?, ho]
        rfl
      simp only [hname] at hr
      cases hf : fallback? after with
      | none =>
        simp only [hf, List.mem_singleton] at hr
        exact ⟨here, hhere, by rw [hreference, hf, hr]; rfl⟩
      | some fallback =>
        simp only [hf] at hr
        rcases List.mem_cons.1 hr with rfl | hr
        · exact ⟨here, hhere, by rw [hreference, hf]; rfl⟩
        · obtain ⟨d, hd, hr⟩ := List.mem_flatMap.1 hr
          have hshort := length_inner_lt_of_mem_calls hd
          have hle := length_lt_of_fallback? hname hf
          have hpaired := hc.pairedIn.trans (pairedIn_fallback hname hf)
          exact ih d.inner.length (by omega) (closedIn_of_mem_calls hpaired hd) hr rfl

theorem parenPairs_dropImportant (text : List Char) :
    parenPairs (dropImportant text) = parenPairs text := by
  by_cases hmark : ∃ (front : List Char) (m : ImportantMark), text = front ++ m.text
  · obtain ⟨front, m, rfl⟩ := hmark
    obtain ⟨blanks, hb, e⟩ := exists_eq_trimRight_append front
    have hplain : ∀ d ∈ blanks ++ m.text, d ≠ '(' ∧ d ≠ ')' := by
      refine List.forall_mem_append.2 ⟨fun d hd => ?_, fun d hd => (plain_of_mem_mark m d hd).2⟩
      exact (plain_of_isBlank_or_isPropertyChar (Or.inl (List.all_eq_true.1 hb d hd))).2
    have htext : front ++ m.text = trimRight front ++ (blanks ++ m.text) := by
      rw [← List.append_assoc, ← e]
    rw [dropImportant_append_mark, htext]
    exact (parenPairsFrom_append_plain hplain 0 none ' ' [] _).symm
  · rw [dropImportant_eq_self_iff.2 fun front m e => hmark ⟨front, m, e⟩]

theorem pairedIn_dropImportant (text : List Char) : PairedIn text 0 (dropImportant text) where
  stands := .of_isPrefix (dropImportant_isPrefix text)
  pairs pair hp := by rwa [parenPairs_dropImportant] at hp

/-- What a text refers to are the names in calls of the text, one call after the other. -/
theorem exists_namedCalls (text : List Char) :
    ∃ calls : List NamedCall, (parse text).references = calls.map NamedCall.reference ∧
      (∀ c ∈ calls, c.StandsIn text) ∧
      calls.Pairwise fun a b => a.front.length < b.front.length := by
  have hrange : (parse text).references ∈
      Set.range (List.map fun n : {n : NamedCall // n.StandsIn text} => n.val.reference) := by
    rw [Set.range_list_map]
    intro r hr
    rw [parse_eq, references_ofShape] at hr
    obtain ⟨c, hc, hr⟩ := List.mem_flatMap.1 hr
    have hclosed := closedIn_of_mem_calls (pairedIn_dropImportant text) hc
    obtain ⟨n, hn, rfl⟩ := exists_namedCall_of_mem_references hclosed hr
    exact ⟨⟨n, hn⟩, rfl⟩
  obtain ⟨calls, hcalls⟩ := hrange
  refine ⟨calls.map Subtype.val, by rw [← hcalls, List.map_map]; rfl, ?_, ?_⟩
  · simp only [List.mem_map]
    rintro c ⟨n, -, rfl⟩
    exact n.property
  · have hincreasing := (referencesIn_parse text).increasing
    rw [← hcalls, List.pairwise_map] at hincreasing
    exact List.pairwise_map.2 (hincreasing.imp fun {a b} h => a.property.front_lt b.property h)

/-! ### The first call -/

/-- What begins a call does not begin another one before it ends. -/
theorem opensFrom_append_varOpen {front : List Char} (h : ¬ varOpen <:+: front) (i : Nat)
    (rest : List Char) :
    opensFrom i (front ++ (varOpen ++ rest)) =
      (i + front.length) :: opensFrom (i + front.length + 4) rest := by
  induction front generalizing i with
  | nil => exact opensFrom_varOpen i rest
  | cons c front ih =>
    obtain ⟨hbegin, hinfix⟩ := not_or.1 (List.infix_cons_iff.not.1 h)
    have hno : ¬ varOpen <+: c :: (front ++ (varOpen ++ rest)) := by
      rintro ⟨t, e⟩
      -- No end of `var(` begins as `var(` does.
      match front, hbegin, e with
      | [], _, e => simp [varOpen] at e
      | [_], _, e => simp [varOpen] at e
      | [_, _], _, e => simp [varOpen] at e
      | d :: d' :: d'' :: front, hbegin, e =>
        refine hbegin ?_
        simp only [varOpen, List.cons_append, List.nil_append, List.cons.injEq] at e
        obtain ⟨rfl, rfl, rfl, rfl, -⟩ := e
        exact ⟨front, rfl⟩
    have hplace : i + 1 + front.length = i + (c :: front).length := by
      rw [List.length_cons]
      omega
    rw [List.cons_append, opensFrom_cons hno, ih hinfix, hplace]

theorem head?_references_ofCall (c : NamedCall)
    (hmax : ∀ d ∈ c.after.head?, isPropertyChar d = false) :
    (ofCall ⟨c.front.length + 4, c.inner⟩).references.head? = some c.reference := by
  obtain ⟨htake, hdrop⟩ := c.name.blanks_before c.lead c.after
  have hname := c.name.propertyName?_append hmax
  have hfallback := isSome_fallback? c.after
  rw [references_ofCall, NamedCall.inner, htake, hdrop, hname, NamedCall.reference,
    NamedCall.place, NamedCall.hasFallback, ← hfallback]
  dsimp only
  cases fallback? c.after <;> rfl

/-- A call before which none begins is what the text refers to first. -/
theorem head?_references_parse {text : List Char} {c : NamedCall} (h : c.StandsIn text)
    (hfirst : ¬ varOpen <:+: c.front) : (parse text).references.head? = some c.reference := by
  have hm := h.partners
  rw [← parenPairs_dropImportant] at hm
  -- The partners stand in what is left without the mark, and so does the call.
  obtain ⟨front, inner, later, e, ho, hc, -⟩ := enclosesAt_of_mem_parenPairs hm
  obtain ⟨mark, hmark⟩ := dropImportant_isPrefix text
  have hbody : dropImportant text = c.front ++ (varOpen ++ (c.inner ++ ')' :: later)) := by
    have hsplit : (front ++ '(' :: (inner ++ [')'])) ++ (later ++ mark) =
        (c.front ++ callText c.inner) ++ c.later := by
      rw [List.append_assoc c.front, ← h.text_eq, ← hmark, e]
      simp
    have hlength : (front ++ '(' :: (inner ++ [')'])).length =
        (c.front ++ callText c.inner).length := by
      simp only [List.length_append, List.length_cons, List.length_nil, length_callText]
      omega
    have hsame := (List.append_inj hsplit hlength).1
    rw [e]
    have hback : front ++ '(' :: (inner ++ ')' :: later) =
        (front ++ '(' :: (inner ++ [')'])) ++ later := by simp
    rw [hback, hsame]
    simp [callText]
  have hslice : (⟨c.front.length + 4, c.front.length + 4 + c.inner.length⟩ : Span).slice
      (dropImportant text) = c.inner := by
    rw [hbody]
    exact slice_after_varOpen c.front c.inner (')' :: later)
  have hopens : opensFrom 0 (dropImportant text) =
      c.front.length :: opensFrom (c.front.length + 4) (c.inner ++ ')' :: later) := by
    rw [hbody, opensFrom_append_varOpen hfirst, Nat.zero_add]
  rw [parse_eq, references_ofShape, calls_ofText, hopens, callsAt, if_neg (Nat.not_lt_zero _),
    lookup_parenPairs_of_mem hm]
  dsimp only
  rw [hslice, Nat.zero_add, List.flatMap_cons, List.head?_append,
    head?_references_ofCall c h.maximal]
  rfl

/-! ### The text in which a value ends -/

/-- The literal stands, trimmed, in a text behind everything that is referred to, and all of that
has a fallback. -/
structure EndsIn (base : Nat) (text : List Char) (refs : List ValueReference)
    (literal : List Char) : Prop where
  ne_nil : literal ≠ []
  trimmed : trim literal = literal
  stands : ∃ i, StandsAt base text i literal ∧
    ∀ r ∈ refs, r.offset + r.name.toList.length ≤ i
  fallbacks : ∀ r ∈ refs, r.hasFallback

namespace EndsIn

variable {base i : Nat} {text part literal : List Char} {refs : List ValueReference}

theorem trans (h : StandsAt base text i part) (he : EndsIn i part refs literal) :
    EndsIn base text refs literal where
  ne_nil := he.ne_nil
  trimmed := he.trimmed
  stands := by
    obtain ⟨k, hk, hafter⟩ := he.stands
    exact ⟨k, h.trans hk, hafter⟩
  fallbacks := he.fallbacks

/-- One more name in front. -/
theorem cons {r : ValueReference} (hr : r.hasFallback) (h : StandsAt base text i part)
    (hle : r.offset + r.name.toList.length ≤ i) (he : EndsIn i part refs literal) :
    EndsIn base text (r :: refs) literal where
  ne_nil := he.ne_nil
  trimmed := he.trimmed
  stands := by
    obtain ⟨k, hk, hafter⟩ := he.stands
    exact ⟨k, h.trans hk, List.forall_mem_cons.2 ⟨hle.trans hk.le, hafter⟩⟩
  fallbacks := List.forall_mem_cons.2 ⟨hr, he.fallbacks⟩

end EndsIn

/-- A stretch that is taken for a literal. -/
theorem ofText_eq_literal {i : Nat} {text literal : List Char}
    (h : ValueShape.ofText i text = .literal literal) : literal = trim text ∧ trim text ≠ [] := by
  unfold ValueShape.ofText at h
  dsimp only at h
  split_ifs at h with hempty hcall hopen
  cases h
  exact ⟨rfl, by simpa using hempty⟩

/-- A stretch that is taken for a call is nothing but the call, with blanks around it. -/
theorem ofText_eq_call {i : Nat} {text : List Char} {c : Call}
    (h : ValueShape.ofText i text = .call c) :
    trim text = callText c.inner ∧ c.offset = i + (text.takeWhile isBlank).length + 4 := by
  unfold ValueShape.ofText at h
  dsimp only at h
  split_ifs at h with hempty hcall
  cases h
  simp only [Bool.and_eq_true, List.isPrefixOf_iff_prefix, beq_iff_eq] at hcall
  obtain ⟨⟨back, e⟩, hl⟩ := hcall
  rw [← e] at hl ⊢
  have hm := lookup_parenPairs_eq_some_iff.1 hl
  rw [← List.nil_append (varOpen ++ back)] at hm
  obtain ⟨inner, later, rfl, hclose⟩ := exists_callText_of_mem_parenPairs hm
  -- The partner is the last character.
  have hlater : later = [] := by
    simp only [varOpen, List.length_append, List.length_cons, List.length_nil] at hclose
    exact List.length_eq_zero_iff.1 (by omega)
  subst hlater
  exact ⟨by simp [callText, varOpen], rfl⟩

theorem ofCall_of_propertyName?_eq_none {c : Call} (hn : propertyName? (trimLeft c.inner) = none) :
    ofCall c = ⟨[], some (String.ofList (callText c.inner))⟩ := by
  rw [ofCall]
  split
  · simp [callText]
  · next h => simp [hn] at h

/-- A call ends as its fallback ends, with one more name in front. -/
theorem endsIn_ofCall_fallback {c : Call} {name after fallback literal : List Char}
    {refs : List ValueReference} (hn : propertyName? (trimLeft c.inner) = some (name, after))
    (hf : fallback? after = some fallback)
    (he : EndsIn (c.offset + (c.inner.length - fallback.length)) fallback refs literal) :
    EndsIn c.offset c.inner
      (⟨String.ofList name, c.offset + (c.inner.takeWhile isBlank).length, true⟩ :: refs)
      literal := by
  have hstands := (pairedIn_fallback hn hf).stands.shift c.offset
  obtain ⟨lead, -, hl, hle⟩ := exists_before_fallback hn hf
  have hlength := congrArg List.length hl
  simp only [List.length_append, List.length_cons] at hlength
  refine .cons rfl hstands ?_ he
  simp only [String.toList_ofList]
  omega

-- A fallback is shorter than the stretch it stands in, so the induction is on the length.
theorem endsIn_ofText {i : Nat} {text : List Char} {literal : String}
    (h : (ofShape (ValueShape.ofText i text)).literal = some literal) :
    EndsIn i text (ofShape (ValueShape.ofText i text)).references literal.toList := by
  induction hlen : text.length using Nat.strong_induction_on generalizing i text with
  | _ length ih =>
    cases hs : ValueShape.ofText i text with
    | empty => simp [hs, ofShape] at h
    | compound calls => simp [hs, ofShape] at h
    | literal body =>
      obtain ⟨rfl, hne⟩ := ofText_eq_literal hs
      obtain rfl : String.ofList (trim text) = literal := by simpa [hs, ofShape] using h
      rw [String.toList_ofList]
      exact ⟨hne, trim_trim text, ⟨_, standsAt_trim i text, by simp [ofShape]⟩, by simp [ofShape]⟩
    | call c =>
      obtain ⟨htrim, ho⟩ := ofText_eq_call hs
      have hbody := standsAt_trim i text
      rw [htrim] at hbody
      have hinner : StandsAt i text c.offset c.inner :=
        hbody.trans ⟨varOpen, [')'], by simp [callText], ho⟩
      rw [hs] at h
      simp only [ofShape] at h ⊢
      cases hname : propertyName? (trimLeft c.inner) with
      | none =>
        rw [ofCall_of_propertyName?_eq_none hname] at h ⊢
        obtain rfl := Option.some.inj h
        rw [String.toList_ofList]
        exact ⟨callText_ne_nil c.inner, trim_callText c.inner, ⟨_, hbody, by simp⟩, by simp⟩
      | some p =>
        obtain ⟨name, after⟩ := p
        rw [ofCall_of_propertyName? hname] at h ⊢
        dsimp only at h ⊢
        cases hf : fallback? after with
        | none => simp [hf] at h
        | some fallback =>
          simp only [hf] at h ⊢
          have hshort := length_lt_of_fallback? hname hf
          have hle := hinner.add_length_le
          have hge := hinner.le
          exact (endsIn_ofCall_fallback hname hf (ih fallback.length (by omega) h rfl)).trans hinner

/-- Whatever a text looks like, it is read for names at increasing places. Each is the name in a
call of the text, no two in one call: it stands behind `var(` and blanks, its characters go no
further, the parenthesis has a partner, and it has a fallback exactly where a comma follows. The
first is the name of the first call, if this is one. If the text ends in a literal, this stands
behind all of the names, and all of them have fallbacks. -/
theorem references_exact (text : List Char) :
    (∃ calls : List NamedCall, (parse text).references = calls.map NamedCall.reference ∧
        (∀ c ∈ calls, c.StandsIn text) ∧
        calls.Pairwise fun a b => a.front.length < b.front.length) ∧
      ((parse text).references.Pairwise fun a b => a.offset < b.offset) ∧
      (∀ r ∈ (parse text).references, StandsAt 0 text r.offset r.name.toList) ∧
      (∀ c : NamedCall, c.StandsIn text → ¬ varOpen <:+: c.front →
        (parse text).references.head? = some c.reference) ∧
      ∀ literal, (parse text).literal = some literal →
        EndsIn 0 text (parse text).references literal.toList := by
  have hrefs := referencesIn_parse text
  refine ⟨exists_namedCalls text, hrefs.increasing, hrefs.stands,
    fun c => head?_references_parse, fun literal h => ?_⟩
  rw [parse_eq] at h ⊢
  exact (endsIn_ofText h).trans (.of_isPrefix (dropImportant_isPrefix text))

/-- A call with a call in it, which ends in a literal with a parenthesis in quotes, and a mark. -/
def chainWithMark : List Char := "var( --a , var(--b,'#)')) !IMPORTANT".toList

/-- The first call of the chain. -/
def outerCall : NamedCall where
  front := []
  lead := ⟨[' '], by decide⟩
  name := ⟨['-', '-', 'a'], by decide, by decide, by simp [isPropertyChar, Char.isAlphanum]⟩
  after := " , var(--b,'#)')".toList
  later := " !IMPORTANT".toList

theorem references_exact_chain :
    outerCall.StandsIn chainWithMark ∧ (parse chainWithMark).literal = some "'#)'" ∧
      (parse chainWithMark).references.head? = some ⟨"--a", 5, true⟩ ∧
      EndsIn 0 chainWithMark (parse chainWithMark).references "'#)'".toList := by
  have hmax : ∀ d ∈ outerCall.after.head?, isPropertyChar d = false := by
    intro d hd
    obtain rfl : ' ' = d := Option.some.inj hd
    decide
  have hc : outerCall.StandsIn chainWithMark := ⟨by decide +kernel, by decide +kernel, hmax⟩
  have hl : (parse chainWithMark).literal = some "'#)'" := by decide +kernel
  obtain ⟨-, -, -, hfirst, hends⟩ := references_exact chainWithMark
  have hreference : outerCall.reference = ⟨"--a", 5, true⟩ := by decide +kernel
  have hhead := hfirst outerCall hc (by decide)
  rw [hreference] at hhead
  exact ⟨hc, hl, hhead, hends _ hl⟩

-- A parenthesis too many, and a quote that stays open: the call behind it is none.
example : (parse "x) (var( --a , var(--b)) \" var(--c))".toList).references =
    [⟨"--a", 9, true⟩, ⟨"--b", 19, false⟩] := by
  decide +kernel

end Value

end BeamLint
