import BeamLint.Proofs.Selector.SnakeCase
import BeamLint.Proofs.Text.Trim
import Mathlib

/-!
# The parts of a class token

A token that is refused has one of a few faults, and what is shown of the fault stands in the token
(`culprit_isInfix`). Of a token that is taken nothing is lost: the layout prefix and the identifier
are the token again, or else the block and the path are, with hyphens between them
(`componentOf_parts`). The defects of a component are told segment by segment, so a capital in a
segment is a defect of its own.
-/

namespace BeamLint

open Text

namespace Selector

/-! ### Refused tokens -/

theorem tokenBody_isInfix (raw : List Char) : tokenBody raw <:+: raw := by
  refine List.IsInfix.trans ?_ (trim_isInfix raw)
  unfold tokenBody
  split
  · next rest h => exact h ▸ (List.suffix_cons '.' rest).isInfix
  · exact List.infix_rfl

theorem mixedJoint?_isInfix {body joint : List Char} (h : mixedJoint? body = some joint) :
    joint <:+: body := by
  fun_induction mixedJoint? body with
  | case1 rest => exact Option.some.inj h ▸ ⟨[], rest, rfl⟩
  | case2 rest => exact Option.some.inj h ▸ ⟨[], rest, rfl⟩
  | case3 c rest _ _ ih => exact (ih h).trans (List.suffix_cons c rest).isInfix
  | case4 => contradiction

/-- What is shown of a fault stands in the body; of an empty body the whole token is shown. -/
theorem culprit_isInfix_of_fault? (raw : String) {body : List Char} {fault : SelectorFault}
    (h : fault? body = some fault) :
    fault = .empty ∨ (SelectorError.culprit ⟨raw, fault⟩).toList <:+: body := by
  unfold fault? at h
  split at h
  · exact Or.inl (Option.some.inj h).symm
  refine Or.inr ?_
  split at h
  · next c hc =>
    rw [← Option.some.inj h]
    simpa [SelectorError.culprit, List.singleton_infix_iff] using List.mem_of_find?_eq_some hc
  · split_ifs at h with hedge hdouble
    · rw [← Option.some.inj h]
      simp only [Bool.or_eq_true, decide_eq_true_eq] at hedge
      have hm : '-' ∈ body := hedge.elim List.mem_of_head? List.mem_of_getLast?
      simpa [SelectorError.culprit, List.singleton_infix_iff] using hm
    · rw [← Option.some.inj h]
      simpa [SelectorError.culprit] using occurs_iff.1 hdouble
    · obtain ⟨joint, hj, rfl⟩ := Option.map_eq_some_iff.1 h
      simpa [SelectorError.culprit] using mixedJoint?_isInfix hj

variable {layoutPrefix raw : String} {s : Selector} {e : SelectorError}

/-- A token is refused for a fault of its body, or because it is nothing but the layout prefix. -/
theorem parse_eq_error_iff :
    parse layoutPrefix raw = .error e ↔
      (∃ fault, fault? (tokenBody raw.toList) = some fault ∧ e = ⟨raw, fault⟩) ∨
        fault? (tokenBody raw.toList) = none ∧ tokenBody raw.toList = layoutPrefix.toList ∧
          e = ⟨raw, .bareLayoutPrefix⟩ := by
  unfold parse
  generalize tokenBody raw.toList = body
  dsimp only
  cases fault? body with
  | some fault => simp [eq_comm]
  | none =>
    rcases hp : layoutPrefix.toList.isPrefixOf? body with _ | ⟨_ | ⟨c, w⟩⟩
    · have hne : body ≠ layoutPrefix.toList := by
        rintro rfl
        rw [List.isPrefixOf?_eq_some_iff_append_eq.2 (List.append_nil _)] at hp
        contradiction
      simp [hne]
    · have hb : body = layoutPrefix.toList := by
        simpa using (List.isPrefixOf?_eq_some_iff_append_eq.1 hp).symm
      simp [hb, eq_comm]
    · have hb := List.isPrefixOf?_eq_some_iff_append_eq.1 hp
      have hne : body ≠ layoutPrefix.toList := by
        rintro rfl
        simp at hb
      simp [hne]

theorem culprit_isInfix (h : parse layoutPrefix raw = .error e) :
    e.culprit.toList <:+: raw.toList := by
  rcases parse_eq_error_iff.1 h with ⟨fault, hf, rfl⟩ | ⟨-, -, rfl⟩
  · rcases culprit_isInfix_of_fault? raw hf with rfl | hc
    · exact List.infix_rfl
    · exact hc.trans (tokenBody_isInfix _)
  · exact List.infix_rfl

/-- The token body is empty, holds a foreign character, begins or ends with a hyphen, has a hyphen
beside a hyphen or an underscore, or is nothing but the layout prefix. -/
def Refused (layoutPrefix : String) (body : List Char) : Prop :=
  body = [] ∨ (∃ c ∈ body, ¬ isTokenChar c) ∨ body.head? = some '-' ∨ body.getLast? = some '-' ∨
    ['-', '-'] <:+: body ∨ ['_', '-'] <:+: body ∨ ['-', '_'] <:+: body ∨
    body = layoutPrefix.toList

theorem exists_parse_eq_error_iff (layoutPrefix raw : String) :
    (∃ e, parse layoutPrefix raw = .error e) ↔ Refused layoutPrefix (tokenBody raw.toList) := by
  have herror : (∃ e, parse layoutPrefix raw = .error e) ↔
      fault? (tokenBody raw.toList) ≠ none ∨ tokenBody raw.toList = layoutPrefix.toList := by
    simp only [parse_eq_error_iff]
    cases fault? (tokenBody raw.toList) <;> simp
  rw [herror, Ne, fault?_eq_none_iff, Refused]
  simp only [not_and_or, not_forall, not_not, exists_prop, or_assoc]

/-! ### The segments of a component -/

/-- The block is the first segment; it and the path are the token again. -/
theorem componentOf_parts (body : List Char) :
    ∃ block path, componentOf body = .component (String.ofList block) (path.map String.ofList) ∧
      '-' ∉ block ∧ (∀ p ∈ path, '-' ∉ p) ∧ path.length = body.count '-' ∧
      body = if path = [] then block else block ++ '-' :: ['-'].intercalate path := by
  obtain ⟨block, path, h⟩ := exists_splitOn_eq_cons '-' body
  have hlength := length_splitOn '-' body
  have hjoin := intercalate_splitOn '-' body
  rw [h] at hlength hjoin
  have hno : ∀ p ∈ block :: path, '-' ∉ p := fun p hp => (isInfix_of_mem_splitOn (h ▸ hp)).2
  obtain ⟨hblock, hpath⟩ := List.forall_mem_cons.1 hno
  refine ⟨block, path, by rw [componentOf, h], hblock, hpath, by simpa using hlength, ?_⟩
  split_ifs with hp
  · rw [← hjoin, hp, List.intercalate_singleton]
  · rw [← hjoin, List.intercalate_cons_of_ne_nil hp]
    simp

theorem element?_component (raw : String) (block : String) (path : List (List Char)) :
    (⟨raw, .component block (path.map String.ofList)⟩ : Selector).element? =
      if path = [] then none else some (String.ofList (['-'].intercalate path)) := by
  unfold element? Selector.path
  dsimp only
  by_cases hp : path = []
  · simp [hp]
  · rw [if_neg (by simpa using hp), if_neg hp, Option.some.injEq, ← String.toList_inj,
      String.toList_intercalate]
    simp [Function.comp_def]

theorem nodup_defects (s : Selector) : s.defects.Nodup := by
  rcases s with ⟨raw, ⟨identifier, whole⟩ | ⟨block, path⟩⟩ <;> unfold defects <;> dsimp only <;>
    split_ifs <;> decide

theorem excessDepth_mem_defects_iff (s : Selector) : .excessDepth ∈ s.defects ↔ 2 ≤ s.depth := by
  rcases s with ⟨raw, ⟨identifier, whole⟩ | ⟨block, path⟩⟩
  · have : ¬ 2 ≤ (⟨raw, .layout identifier whole⟩ : Selector).depth := by simp [depth, path]
    simp only [this, iff_false, defects]
    split <;> simp
  · have hdepth : (⟨raw, .component block path⟩ : Selector).depth = path.length := rfl
    rw [hdepth]
    simp only [defects, List.mem_append]
    split_ifs <;> simp <;> omega

theorem blockCase_mem_defects_component_iff {block : String} {path : List String} :
    .blockCase ∈ (⟨raw, .component block path⟩ : Selector).defects ↔
      ¬ JoinedWords ['_'] block.toList := by
  simp only [defects, List.mem_append, ← isSnakeCase_iff]
  split_ifs <;> simp_all

/-- The case of an element is judged segment by segment, which is to judge it as a whole. -/
theorem elementCase_mem_defects_component_iff {block : String} {path : List (List Char)}
    (hp : ∀ p ∈ path, '-' ∉ p) :
    .elementCase ∈ (⟨raw, .component block (path.map String.ofList)⟩ : Selector).defects ↔
      path ≠ [] ∧ ¬ JoinedWords ['_', '-'] (['-'].intercalate path) := by
  have hmem : .elementCase ∈
      (⟨raw, .component block (path.map String.ofList)⟩ : Selector).defects ↔
        ¬ path.all isSnakeCase := by
    simp only [defects, List.mem_append, List.all_map, Function.comp_def, String.toList_ofList]
    split_ifs <;> simp_all
  by_cases hne : path = []
  · rw [hmem]
    simp [hne]
  · rw [hmem, ← isSnakePath_iff, isSnakePath, splitOn_intercalate hp hne]
    simp [hne]

/-- A capital is in no name. -/
theorem not_joinedWords_of_isUpper {joints text : List Char} (hj : ∀ j ∈ joints, j.isUpper = false)
    {c : Char} (hc : c ∈ text) (hu : c.isUpper) : ¬ JoinedWords joints text := by
  intro h
  rcases h.mem c hc with hn | hm
  · simp [(toLower_of_isNameChar hn).1] at hu
  · simp [hj c hm] at hu

/-- What is read of the body of a component: all of it, with the number of its hyphens as the depth,
and capitals as defects of their segments. -/
structure IsComponentOf (s : Selector) (body : List Char) (block : String) : Prop where
  block?_eq : s.block? = some block
  noHyphen : '-' ∉ block.toList
  body_eq : body = block.toList ++
    match s.element? with
    | none => []
    | some element => '-' :: element.toList
  depth_eq : s.depth = body.count '-'
  length_path : s.path.length = s.depth
  join_path : "-".intercalate s.path = s.element?.getD ""
  blockCase_of_capital : (∃ c ∈ block.toList, c.isUpper) → .blockCase ∈ s.defects
  elementCase_of_capital : ∀ element, s.element? = some element →
    (∃ c ∈ element.toList, c.isUpper) → .elementCase ∈ s.defects

theorem exists_isComponentOf (raw : String) (body : List Char) :
    ∃ block, (⟨raw, componentOf body⟩ : Selector).IsComponentOf body block := by
  obtain ⟨block, path, hform, hno, hpath, hdepth, hbody⟩ := componentOf_parts body
  rw [hform]
  refine ⟨String.ofList block, rfl, by simpa using hno, ?_, ?_, rfl, ?_, ?_, ?_⟩
  · rw [element?_component]
    split_ifs at hbody ⊢ with hp <;> simpa using hbody
  · simpa [depth, Selector.path] using hdepth
  · unfold element?
    split_ifs with hp
    · rw [List.isEmpty_iff.1 hp]
      rfl
    · rfl
  · rintro ⟨c, hc, hu⟩
    refine blockCase_mem_defects_component_iff.2 ?_
    exact not_joinedWords_of_isUpper (by simp [Char.isUpper]) hc hu
  · rintro element he ⟨c, hc, hu⟩
    rw [element?_component] at he
    split_ifs at he with hp
    obtain rfl := Option.some.inj he
    refine (elementCase_mem_defects_component_iff hpath).2 ⟨hp, ?_⟩
    exact not_joinedWords_of_isUpper (by simp [Char.isUpper]) (by simpa using hc) hu

/-- A class token is refused for its body only, and the part that is shown stands in it. Else it is
read without losing a character: as a layout primitive when the prefix is there, and as a component
when it is not. It is malformed exactly when it has defects, each of them once, and it is too deep
exactly when it is a component with two hyphens or more. -/
theorem parse_exact (layoutPrefix raw : String) :
    ((∃ e, parse layoutPrefix raw = .error e) ↔ Refused layoutPrefix (tokenBody raw.toList)) ∧
    (∀ e, parse layoutPrefix raw = .error e → e.culprit.toList <:+: raw.toList) ∧
    ∀ s, parse layoutPrefix raw = .ok s →
      (layoutPrefix.toList <+: tokenBody raw.toList →
        ∃ identifier, s.identifier? = some identifier ∧
          layoutPrefix.toList ++ identifier.toList = tokenBody raw.toList) ∧
      (¬ layoutPrefix.toList <+: tokenBody raw.toList →
        ∃ block, s.IsComponentOf (tokenBody raw.toList) block) ∧
      (s.kind = .malformed ↔ s.defects ≠ []) ∧ s.defects.Nodup ∧
      (.excessDepth ∈ s.defects ↔
        ¬ layoutPrefix.toList <+: tokenBody raw.toList ∧
          2 ≤ (tokenBody raw.toList).count '-') := by
  refine ⟨exists_parse_eq_error_iff layoutPrefix raw, fun e h => culprit_isInfix h, fun s h => ?_⟩
  have hcommon := And.intro s.kind_eq_malformed_iff s.nodup_defects
  rw [excessDepth_mem_defects_iff]
  obtain ⟨-, ⟨w, -, hbody, rfl⟩ | ⟨hno, rfl⟩⟩ := parse_eq_ok_iff.1 h
  · have hp : layoutPrefix.toList <+: tokenBody raw.toList := ⟨w, hbody.symm⟩
    exact ⟨fun _ => ⟨String.ofList w, rfl, by simp [hbody]⟩, fun hno => absurd hp hno,
      hcommon.1, hcommon.2, by simp [hp, depth, path]⟩
  · obtain ⟨block, hparts⟩ := exists_isComponentOf raw (tokenBody raw.toList)
    exact ⟨fun hp => absurd hp hno, fun _ => ⟨block, hparts⟩, hcommon.1, hcommon.2,
      by simp [hno, hparts.depth_eq]⟩

/-- Between blanks and after a dot, a block with a capital in it and two levels below it; a layout
primitive; and a token with an underscore before a hyphen. -/
theorem parse_exact_threeTokens :
    (∃ s block, parse defaultLayoutPrefix " .navBar-item-link\n" = .ok s ∧
      s.IsComponentOf "navBar-item-link".toList block ∧ s.kind = .malformed ∧ s.defects.Nodup ∧
      .excessDepth ∈ s.defects) ∧
    (∃ s identifier, parse defaultLayoutPrefix ".l_grid" = .ok s ∧
      s.identifier? = some identifier ∧
      defaultLayoutPrefix.toList ++ identifier.toList = "l_grid".toList) ∧
    ∃ e, parse defaultLayoutPrefix "nav_-bar" = .error e ∧
      e.culprit.toList <:+: "nav_-bar".toList := by
  refine ⟨?_, ?_, ?_⟩
  · obtain ⟨-, -, h⟩ := parse_exact defaultLayoutPrefix " .navBar-item-link\n"
    have hbody : tokenBody " .navBar-item-link\n".toList = "navBar-item-link".toList := by
      decide +kernel
    have hno : ¬ defaultLayoutPrefix.toList <+: "navBar-item-link".toList := by decide
    rw [hbody] at h
    obtain ⟨-, hcomponent, hkind, hnodup, hdeep⟩ := h _ (by rfl)
    obtain ⟨block, hparts⟩ := hcomponent hno
    have hexcess := hdeep.2 ⟨hno, by decide⟩
    exact ⟨_, block, rfl, hparts, hkind.2 (List.ne_nil_of_mem hexcess), hnodup, hexcess⟩
  · obtain ⟨-, -, h⟩ := parse_exact defaultLayoutPrefix ".l_grid"
    have hbody : tokenBody ".l_grid".toList = "l_grid".toList := by decide
    rw [hbody] at h
    obtain ⟨identifier, hid, hjoin⟩ := (h _ (by rfl)).1 (by decide)
    exact ⟨_, identifier, rfl, hid, hjoin⟩
  · obtain ⟨hrefused, hshown, -⟩ := parse_exact defaultLayoutPrefix "nav_-bar"
    have hjoint : ['_', '-'] <:+: tokenBody "nav_-bar".toList := by decide
    obtain ⟨e, he⟩ := hrefused.2 (by simp only [Refused, hjoint, true_or, or_true])
    exact ⟨e, he, hshown e he⟩

end Selector

end BeamLint
