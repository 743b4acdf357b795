import BeamLint.Proofs.Selector.Parts
import Mathlib

/-!
# Suggested names

What is suggested for a badly written class token is not found fault with again: the flattened form
of a token that is only too deep is an element of the same block, and the snake case of an element
or a block is in its grammar (`suggestions_conform`). What is refused of a token keeps its hyphens
apart from each other and from underscores, so the words around a hyphen are never empty.
-/

namespace BeamLint

open Text

namespace Selector

variable {body : List Char}

/-! ### Neighbours of a hyphen -/

/-- In a token that is taken no hyphen stands beside a hyphen or an underscore. -/
theorem isChain_apart_of_fault? (h : fault? body = none) : body.IsChain Apart := by
  obtain ⟨-, -, -, -, hdouble, hbefore, hafter⟩ := fault?_eq_none_iff.1 h
  refine List.isChain_iff_forall_rel_of_append_cons_cons.2 fun {a b front rest} e => ?_
  have hab : [a, b] <:+: body := ⟨front, rest, by simp [e]⟩
  refine ⟨?_, ?_⟩
  · rintro rfl
    exact ⟨fun hb => hdouble (hb ▸ hab), fun hb => hafter (hb ▸ hab)⟩
  · rintro rfl ha
    exact hbefore (ha ▸ hab)

/-- What stands on both sides of a hyphen in a token that is taken. -/
theorem apart_of_append {a b : List Char} (h : (a ++ '-' :: b).IsChain Apart) :
    a.IsChain Apart ∧ b.IsChain Apart ∧ a.getLast? ≠ some '-' ∧ a.getLast? ≠ some '_' ∧
      b.head? ≠ some '-' ∧ b.head? ≠ some '_' := by
  obtain ⟨ha, hb, hjoint⟩ := List.isChain_append.1 h
  obtain ⟨hhead, hb⟩ := List.isChain_cons.1 hb
  have before {c : Char} (hc : a.getLast? = some c) : Apart c '-' := hjoint c hc '-' rfl
  have after {c : Char} (hc : b.head? = some c) : Apart '-' c := hhead c hc
  refine ⟨ha, hb, fun e => ?_, fun e => ?_, fun e => ?_, fun e => ?_⟩
  · exact ((before e).1 rfl).1 rfl
  · exact (before e).2 rfl rfl
  · exact ((after e).1 rfl).1 rfl
  · exact ((after e).1 rfl).2 rfl

/-- Snake case makes a path of a text whose hyphens stand apart. -/
theorem joinedWords_snakeCase_path {text : List Char} (hc : ∀ c ∈ text, isTokenChar c)
    (hchain : text.IsChain Apart) (hne : text ≠ []) (hhyphen : text.head? ≠ some '-')
    (hunderscore : text.head? ≠ some '_') (hlast : text.getLast? ≠ some '-') :
    JoinedWords ['_', '-'] (snakeCase text) := by
  -- A segment that does not begin with an underscore has a letter or a digit in it.
  have segment {w : List Char} (hw : ∀ c ∈ w, isTokenChar c) (hm : '-' ∉ w) (hne : w ≠ [])
      (hu : w.head? ≠ some '_') : JoinedWords ['_', '-'] (snakeCase w) := by
    have hplain : ∀ c ∈ w, c.isAlphanum ∨ c = '_' := fun c hcw =>
      (isAlphanum_or_of_isTokenChar (hw c hcw)).imp_right fun h =>
        h.resolve_right fun e => hm (e ▸ hcw)
    obtain ⟨c, w, rfl⟩ := List.exists_cons_of_ne_nil hne
    have hletter : c.isAlphanum :=
      (hplain c List.mem_cons_self).resolve_right fun e => hu (by simp [e])
    exact (joinedWords_snakeCase hplain ⟨c, List.mem_cons_self, hletter⟩).mono (by simp)
  induction hn : text.length using Nat.strong_induction_on generalizing text with
  | _ n ih =>
    rcases splitOn_cases '-' text with ⟨hm, -⟩ | ⟨w, rest, rfl, hm, -⟩
    · exact segment hc hm hne hunderscore
    · have hw : w ≠ [] := by
        rintro rfl
        exact hhyphen rfl
      have hrest : rest ≠ [] := by
        rintro rfl
        simp at hlast
      obtain ⟨-, hchain', hlw, hlu, hh, hu⟩ := apart_of_append hchain
      obtain ⟨hcw, hcr⟩ := List.forall_mem_append.1 hc
      have hlen : rest.length < n := by
        rw [← hn, List.length_append, List.length_cons]
        omega
      have hl : rest.getLast? ≠ some '-' := by
        obtain ⟨c, rest, rfl⟩ := List.exists_cons_of_ne_nil hrest
        simpa [List.getLast?_append] using hlast
      have hu' : w.head? ≠ some '_' := by
        obtain ⟨c, w, rfl⟩ := List.exists_cons_of_ne_nil hw
        simpa using hunderscore
      have ih' := ih rest.length hlen (List.forall_mem_cons.1 hcr).2 hchain' hrest hh hu hl rfl
      rw [snakeCase_append_hyphen hc hw hlu hrest hu]
      exact (segment hcw hm hw hu').append (by simp) ih'

/-! ### Suggestions -/

variable {layoutPrefix raw : String}

theorem isBlank_of_isNameChar {c : Char} (h : isNameChar c) : isBlank c = false := by
  have hc := toNat_lt_of_isTokenChar (isTokenChar_of (Or.inl h))
  exact forall_ascii (p := fun c => isNameChar c → isBlank c = false) (by decide +kernel) hc h

/-- Words joined by underscores and hyphens stand by themselves. -/
theorem tokenBody_of_joinedWords {w : List Char} (h : JoinedWords ['_', '-'] w) :
    tokenBody w = w := by
  obtain ⟨first, hf, hfn⟩ := h.head?
  obtain ⟨last, hl, hln⟩ := h.getLast?
  have htrim : trim w = w := by
    refine trim_eq_self ?_ ?_
    · simpa [hf] using isBlank_of_isNameChar hfn
    · simpa [hl] using isBlank_of_isNameChar hln
  unfold tokenBody
  rw [htrim]
  split
  · obtain rfl : first = '.' := by simpa using hf.symm
    simp [isNameChar] at hfn
  · rfl

/-- A prefix without hyphens is met in front of the first hyphen or not at all. -/
theorem isPrefix_of_append_hyphen {front a b : List Char} (hf : '-' ∉ front)
    (h : front <+: a ++ '-' :: b) : front <+: a := by
  have hcut : a ++ ['-'] <+: a ++ '-' :: b := ⟨b, by simp⟩
  rcases List.prefix_or_prefix_of_prefix h hcut with h | h
  · rcases List.prefix_concat_iff.1 h with rfl | h
    · simp at hf
    · exact h
  · exact absurd (h.subset (by simp)) hf

/-- Where depth is all that is wrong, the segments are names. -/
theorem segments_of_defects {block : String} {path : List String}
    (hd : (⟨raw, .component block path⟩ : Selector).defects = [.excessDepth]) :
    JoinedWords ['_'] block.toList ∧ (∀ p ∈ path, JoinedWords ['_'] p.toList) ∧ path ≠ [] := by
  simp only [← isSnakeCase_iff]
  unfold defects at hd
  dsimp only at hd
  split_ifs at hd with hblock hpath hdeep
  · refine ⟨hblock, fun p hp => List.all_eq_true.1 hpath p hp, ?_⟩
    rintro rfl
    simp at hdeep
  all_goals simp at hd

/-- The flattened form of a component that is only too deep is an element of the same block. -/
theorem parse_flattened (hp : '-' ∉ layoutPrefix.toList) {s : Selector}
    (h : parse layoutPrefix raw = .ok s) (hd : s.defects = [.excessDepth]) :
    ∃ flat, parse layoutPrefix s.flattened = .ok flat ∧ flat.kind = .element ∧
      flat.defects = [] ∧ flat.block? = s.block? := by
  obtain ⟨-, ⟨w, -, -, rfl⟩ | ⟨hno, rfl⟩⟩ := parse_eq_ok_iff.1 h
  · -- A layout primitive is never too deep.
    have hdeep : .excessDepth ∈ Selector.defects _ := hd ▸ List.mem_singleton_self _
    simp [excessDepth_mem_defects_iff, depth, path] at hdeep
  · obtain ⟨block, path, hform, hyphen, hpath, -, hbody⟩ := componentOf_parts (tokenBody raw.toList)
    rw [hform] at hd ⊢
    obtain ⟨hblock, hsegments, hne⟩ := segments_of_defects hd
    rw [String.toList_ofList] at hblock
    obtain ⟨front, last, rfl⟩ :=
      (List.eq_nil_or_concat' path).resolve_left (by simpa using hne)
    have hlast : JoinedWords ['_'] last := by simpa using hsegments (String.ofList last) (by simp)
    have hflat : Selector.flattened ⟨raw, .component (String.ofList block)
        ((front ++ [last]).map String.ofList)⟩ = String.ofList (block ++ '-' :: last) := by
      have hblock? : (⟨raw, .component (String.ofList block)
        ((front ++ [last]).map String.ofList)⟩ : Selector).blockSegment = String.ofList block := rfl
      rw [flattened, Selector.path, hblock?, List.map_append, List.map_singleton,
        List.getLast?_append, List.getLast?_singleton, Option.some_or, ← String.toList_inj]
      simp
    have hwords : JoinedWords ['_', '-'] (block ++ '-' :: last) :=
      (hblock.mono (by simp)).append (by simp) (hlast.mono (by simp))
    have hbody' : tokenBody (String.ofList (block ++ '-' :: last)).toList =
        block ++ '-' :: last := by
      rw [String.toList_ofList, tokenBody_of_joinedWords hwords]
    have hno' : ¬ layoutPrefix.toList <+: block ++ '-' :: last := by
      -- A prefix of the flattened form would end in the block, which the token begins with as well.
      intro h
      refine hno ((isPrefix_of_append_hyphen hp h).trans ?_)
      rw [hbody, if_neg (by simp)]
      exact List.prefix_append _ _
    have hread : parse layoutPrefix (String.ofList (block ++ '-' :: last)) = .ok _ :=
      parse_component (by rwa [hbody']) (by rwa [hbody'])
    have hnone := (defects_componentOf_eq_nil_iff (String.ofList (block ++ '-' :: last))).2
      (Or.inr ⟨block, last, rfl, hblock, hlast⟩)
    rw [hbody'] at hread
    rw [componentOf_append hyphen (notMem_of_joinedWords hlast)] at hread hnone
    rw [hflat]
    exact ⟨_, hread, by rw [kind, hnone]; rfl, hnone, rfl⟩

section Accepted

variable {s : Selector} (h : parse layoutPrefix raw = .ok s)
include h

/-- The element of a token that is taken gives a path, whatever its case. -/
theorem exists_joinedWords_element (hcase : .elementCase ∈ s.defects) :
    ∃ element, s.element? = some element ∧
      JoinedWords ['_', '-'] (snakeCaseString element).toList := by
  obtain ⟨hfault, ⟨w, -, -, rfl⟩ | ⟨hno, rfl⟩⟩ := parse_eq_ok_iff.1 h
  · simp only [defects] at hcase
    split at hcase <;> simp at hcase
  · obtain ⟨block, path, hform, hyphen, hpath, -, hbody⟩ := componentOf_parts (tokenBody raw.toList)
    rw [hform] at hcase ⊢
    have hne := ((elementCase_mem_defects_component_iff hpath).1 hcase).1
    rw [if_neg hne] at hbody
    obtain ⟨-, htoken, -, hlast, -⟩ := fault?_eq_none_iff.1 hfault
    have hchain := isChain_apart_of_fault? hfault
    rw [hbody] at htoken hlast hchain
    obtain ⟨-, hchain, -, -, hh, hu⟩ := apart_of_append hchain
    have htoken := (List.forall_mem_cons.1 (List.forall_mem_append.1 htoken).2).2
    refine ⟨_, by rw [element?_component, if_neg hne], ?_⟩
    rw [snakeCaseString, String.toList_ofList, String.toList_ofList]
    generalize ['-'].intercalate path = element at *
    have hne' : element ≠ [] := by
      rintro rfl
      simp at hlast
    refine joinedWords_snakeCase_path htoken hchain hne' hh hu ?_
    obtain ⟨c, element, rfl⟩ := List.exists_cons_of_ne_nil hne'
    simpa [List.getLast?_append] using hlast

/-- The block of a component that is taken gives a name, if there is a letter or a digit in it. -/
theorem exists_joinedWords_block (hno : ¬ layoutPrefix.toList <+: tokenBody raw.toList) :
    ∃ block, s.block? = some block ∧ ((∃ c ∈ block.toList, c.isAlphanum) →
      JoinedWords ['_'] (snakeCaseString block).toList) := by
  obtain ⟨hfault, ⟨w, -, hw, rfl⟩ | ⟨-, rfl⟩⟩ := parse_eq_ok_iff.1 h
  · exact absurd ⟨w, hw.symm⟩ hno
  · obtain ⟨block, path, hform, hyphen, -, -, hbody⟩ := componentOf_parts (tokenBody raw.toList)
    obtain ⟨-, htoken, -⟩ := fault?_eq_none_iff.1 hfault
    have hsub : block ⊆ tokenBody raw.toList := by
      rw [hbody]
      split
      · exact List.Subset.refl block
      · exact List.subset_append_left _ _
    have hplain : ∀ c ∈ block, c.isAlphanum ∨ c = '_' := fun c hc =>
      (isAlphanum_or_of_isTokenChar (htoken c (hsub hc))).imp_right fun h =>
        h.resolve_right fun e => hyphen (e ▸ hc)
    rw [hform]
    refine ⟨String.ofList block, rfl, fun hl => ?_⟩
    rw [snakeCaseString, String.toList_ofList, String.toList_ofList]
    exact joinedWords_snakeCase hplain (by simpa using hl)

end Accepted

/-- What snake case leaves as it is, over letters, digits and underscores: what it has made, which
is the empty text and the names. -/
theorem snakeCaseString_fixed {name : String} (h : ∀ c ∈ name.toList, c.isAlphanum ∨ c = '_') :
    snakeCaseString (snakeCaseString name) = snakeCaseString name ∧
      (snakeCaseString name = name ↔ name = "" ∨ JoinedWords ['_'] name.toList) := by
  have hcases : snakeCase name.toList = [] ∨ JoinedWords ['_'] (snakeCase name.toList) :=
    (snakeCase_cases h).imp_left And.left
  have hnil : snakeCase [] = [] := rfl
  simp only [snakeCaseString, ← String.toList_inj, String.toList_ofList, String.toList_empty]
  refine ⟨?_, fun e => e ▸ hcases, ?_⟩
  · rcases hcases with e | hw
    · rw [e, hnil]
    · exact snakeCase_of_joinedWords hw
  · rintro (e | hw)
    · rw [e, hnil]
    · exact snakeCase_of_joinedWords hw

/-- **Suggested names conform.** Under a layout prefix without hyphens, a token that is only too
deep flattens to an element of its block that is free of defects, the snake case of a badly cased
element is a path, and that of a badly cased block that has a letter or a digit is a name. Over
letters, digits and underscores, snake case leaves what it has made as it is, and it leaves nothing
else as it is but the empty text and names. -/
theorem suggestions_conform (layoutPrefix : String) (hp : '-' ∉ layoutPrefix.toList) :
    (∀ raw s, parse layoutPrefix raw = .ok s →
      (s.defects = [.excessDepth] → ∃ flat, parse layoutPrefix s.flattened = .ok flat ∧
        flat.kind = .element ∧ flat.defects = [] ∧ flat.block? = s.block?) ∧
      (.elementCase ∈ s.defects → ∃ element, s.element? = some element ∧
        JoinedWords ['_', '-'] (snakeCaseString element).toList) ∧
      (¬ layoutPrefix.toList <+: tokenBody raw.toList → .blockCase ∈ s.defects →
        ∃ block, s.block? = some block ∧ ((∃ c ∈ block.toList, c.isAlphanum) →
          JoinedWords ['_'] (snakeCaseString block).toList))) ∧
    ∀ name : String, (∀ c ∈ name.toList, c.isAlphanum ∨ c = '_') →
      snakeCaseString (snakeCaseString name) = snakeCaseString name ∧
        (snakeCaseString name = name ↔ name = "" ∨ JoinedWords ['_'] name.toList) := by
  refine ⟨fun raw s h => ⟨parse_flattened hp h, fun hcase => ?_, fun hno _ => ?_⟩, ?_⟩
  · exact exists_joinedWords_element h hcase
  · exact exists_joinedWords_block h hno
  · exact fun name hname => snakeCaseString_fixed hname

/-- A token that is only too deep, one with capitals and doubled underscores in all its segments,
and a name that is in snake case already. -/
theorem suggestions_conform_deepAndCapitals :
    '-' ∉ defaultLayoutPrefix.toList ∧
    (∃ s, parse defaultLayoutPrefix "nav-item-link" = .ok s ∧ s.defects = [.excessDepth] ∧
      ∃ flat, parse defaultLayoutPrefix s.flattened = .ok flat ∧ flat.kind = .element ∧
        flat.defects = [] ∧ flat.block? = s.block?) ∧
    (∃ s, parse defaultLayoutPrefix "_NavBar-itemA__b-Link_" = .ok s ∧ .elementCase ∈ s.defects ∧
      .blockCase ∈ s.defects ∧
      (∃ element, s.element? = some element ∧
        JoinedWords ['_', '-'] (snakeCaseString element).toList) ∧
      ∃ block, s.block? = some block ∧ JoinedWords ['_'] (snakeCaseString block).toList) ∧
    (∀ c ∈ "nav_bar".toList, c.isAlphanum ∨ c = '_') ∧ snakeCaseString "nav_bar" = "nav_bar" := by
  have hp : '-' ∉ defaultLayoutPrefix.toList := by decide
  obtain ⟨htokens, hnames⟩ := suggestions_conform defaultLayoutPrefix hp
  refine ⟨hp, ?_, ?_, ?_⟩
  · have hs : parse defaultLayoutPrefix "nav-item-link" =
        .ok ⟨"nav-item-link", .component "nav" ["item", "link"]⟩ := by decide +kernel
    have hd : Selector.defects ⟨"nav-item-link", .component "nav" ["item", "link"]⟩ =
        [.excessDepth] := by decide +kernel
    exact ⟨_, hs, hd, (htokens _ _ hs).1 hd⟩
  · let s : Selector :=
      ⟨"_NavBar-itemA__b-Link_", .component "_NavBar" ["itemA__b", "Link_"]⟩
    have hs : parse defaultLayoutPrefix s.raw = .ok s := by decide +kernel
    have hd : s.defects = [.blockCase, .elementCase, .excessDepth] := by decide +kernel
    have he : .elementCase ∈ s.defects := by simp [hd]
    have hb : .blockCase ∈ s.defects := by simp [hd]
    have hno : ¬ defaultLayoutPrefix.toList <+: tokenBody s.raw.toList := by decide
    obtain ⟨block, hblock, hname⟩ := (htokens _ _ hs).2.2 hno hb
    refine ⟨s, hs, he, hb, (htokens _ _ hs).2.1 he, block, hblock, hname ?_⟩
    obtain rfl : "_NavBar" = block := Option.some.inj hblock
    exact ⟨'N', by decide, by decide⟩
  · have hc : ∀ c ∈ "nav_bar".toList, c.isAlphanum ∨ c = '_' := by
      simp [Char.isAlphanum, Char.isAlpha, Char.isLower]
    exact ⟨hc, ((hnames "nav_bar" hc).2).2 (Or.inr (isSnakeCase_iff.1 (by decide)))⟩

end Selector

end BeamLint
