import BeamLint.Order
import Mathlib.Data.List.Nodup
import Mathlib.Data.String.Basic

/-!
# First occurrences and increasing order: their laws

* `increasing` permutes the texts and puts them in increasing order;
* `firsts` keeps a sublist in which every key stands once, and changes nothing where no key is
  repeated. It commutes with every choice that only looks at the key, and keeps elements in the
  order of where they stand first (`FirstOccurrences`);
* lists in which every search finds the same first (`SameFirsts`) have the same first occurrences by
  whatever key, and so have the lists that are made of them element by element.

Elements that are taken key by key are only put into another order.
-/

namespace BeamLint

/-! ### Increasing order -/

theorem perm_increasing (texts : List String) : (increasing texts).Perm texts :=
  List.mergeSort_perm _ _

@[simp] theorem mem_increasing {a : String} {texts : List String} :
    a ∈ increasing texts ↔ a ∈ texts := (perm_increasing texts).mem_iff

theorem pairwise_increasing (texts : List String) : (increasing texts).Pairwise (· ≤ ·) := by
  have h := @List.pairwise_mergeSort String (fun a b => decide (a ≤ b))
    (fun a b c hab hbc => by simp only [decide_eq_true_eq] at *; exact hab.trans hbc)
    (fun a b => by simpa using le_total a b) texts
  simpa [increasing] using h

/-- What stands first in increasing order is the least. -/
theorem le_of_head?_increasing {texts : List String} {least a : String}
    (h : (increasing texts).head? = some least) (ha : a ∈ texts) : least ≤ a := by
  obtain ⟨rest, hr⟩ := List.head?_eq_some_iff.1 h
  have hp := pairwise_increasing texts
  have hm : a ∈ increasing texts := mem_increasing.2 ha
  rw [hr] at hp hm
  rcases List.mem_cons.1 hm with rfl | hm
  · exact le_rfl
  · exact List.rel_of_pairwise_cons hp hm

/-! ### First occurrences -/

section Firsts

variable {α κ : Type} [DecidableEq κ] (key : α → κ)

theorem firsts_sublist (as : List α) : (firsts key as).Sublist as := by
  induction as with
  | nil => exact List.Sublist.slnil
  | cons a rest ih => exact ((List.filter_sublist).trans ih).cons_cons a

/-- No key is kept twice. -/
theorem nodup_map_firsts (as : List α) : ((firsts key as).map key).Nodup := by
  induction as with
  | nil => exact List.nodup_nil
  | cons a rest ih =>
    rw [firsts, List.map_cons, List.nodup_cons]
    refine ⟨?_, ih.sublist (List.filter_sublist.map key)⟩
    simp

/-- What is kept is what is found first with its key. -/
theorem mem_firsts_iff {a : α} {as : List α} :
    a ∈ firsts key as ↔ as.find? (fun b => key b = key a) = some a := by
  induction as with
  | nil => simp [firsts]
  | cons b rest ih =>
    rw [firsts, List.mem_cons, List.mem_filter, ih]
    by_cases h : key b = key a
    · simp [h, eq_comm]
    · have hne : a ≠ b := fun e => h (e ▸ rfl)
      simp [h, hne, Ne.symm h]

theorem firsts_eq_self {as : List α} (h : (as.map key).Nodup) : firsts key as = as := by
  induction as with
  | nil => rfl
  | cons a rest ih =>
    rw [List.map_cons, List.nodup_cons] at h
    rw [firsts, ih h.2, List.filter_eq_self.2]
    intro b hb
    simpa using fun e : key b = key a => h.1 (e ▸ List.mem_map_of_mem hb)

/-- A choice by key may be made before or after the first occurrences are taken. -/
theorem filter_firsts (p : κ → Bool) (as : List α) :
    (firsts key as).filter (fun a => p (key a)) = firsts key (as.filter fun a => p (key a)) := by
  induction as with
  | nil => rfl
  | cons a rest ih =>
    by_cases hp : p (key a) = true
    · rw [firsts, List.filter_cons_of_pos (by simpa using hp),
        List.filter_cons_of_pos (by simpa using hp), firsts, ← ih, List.filter_filter,
        List.filter_filter]
      simp only [Bool.and_comm]
    · -- What the choice leaves out has a key of its own, so `a` hides nothing that stays.
      rw [firsts, List.filter_cons_of_neg (by simpa using hp),
        List.filter_cons_of_neg (by simpa using hp), ← ih, List.filter_filter]
      refine List.filter_congr fun b _ => ?_
      by_cases hb : key b = key a
      · simp [hb, hp]
      · simp [hb]

/-- What is found first by its key is found first among the first occurrences. -/
theorem find?_firsts (p : κ → Bool) (as : List α) :
    (firsts key as).find? (fun a => p (key a)) = as.find? fun a => p (key a) := by
  have hhead (as : List α) : (firsts key as).head? = as.head? := by cases as <;> rfl
  rw [← List.head?_filter, filter_firsts, hhead, List.head?_filter]

/-- Elements taken key by key, over different keys that miss none, are all the elements. -/
theorem flatMap_filter_perm {keys : List κ} (hk : keys.Nodup) {as : List α}
    (h : ∀ a ∈ as, key a ∈ keys) :
    (keys.flatMap fun k => as.filter fun a => key a = k).Perm as := by
  induction keys generalizing as with
  | nil =>
    obtain rfl : as = [] := List.eq_nil_iff_forall_not_mem.2 fun a ha => by simpa using h a ha
    exact List.Perm.refl _
  | cons k keys ih =>
    obtain ⟨hn, hk⟩ := List.nodup_cons.1 hk
    -- The later keys find the same elements when those with the key `k` are left out.
    have hrest : (keys.flatMap fun l => as.filter fun a => key a = l) =
        keys.flatMap fun l =>
          (as.filter fun a => !decide (key a = k)).filter fun a => key a = l := by
      refine List.flatMap_congr fun l hl => ?_
      rw [List.filter_filter]
      refine List.filter_congr fun a _ => ?_
      by_cases e : key a = l
      · have : key a ≠ k := fun e' => hn (e' ▸ e ▸ hl)
        simp [e, e ▸ this]
      · simp [e]
    rw [List.flatMap_cons, hrest]
    refine ((ih hk fun a ha => ?_).append_left _).trans (List.filter_append_perm _ as)
    obtain ⟨ha, hne⟩ := List.mem_filter.1 ha
    exact (List.mem_cons.1 (h a ha)).resolve_left (by simpa using hne)

end Firsts

/-! ### First occurrences, by where they stand -/

/-- `firstOnes` has the elements of `as`, each once, in the order of where they stand first. -/
structure FirstOccurrences {α : Type} [DecidableEq α] (as firstOnes : List α) : Prop where
  mem_iff : ∀ a, a ∈ firstOnes ↔ a ∈ as
  increasing : firstOnes.Pairwise fun a b => as.idxOf a < as.idxOf b

theorem firstOccurrences_firsts {α : Type} [DecidableEq α] (as : List α) :
    FirstOccurrences as (firsts id as) where
  mem_iff a := mem_firsts_id a as
  increasing := by
    induction as with
    | nil => exact List.Pairwise.nil
    | cons a as ih =>
      rw [firsts]
      -- What comes later differs from `a`, so `a` in front only shifts its place.
      have hlater : ∀ b ∈ (firsts id as).filter (fun b => id b ≠ id a),
          (a :: as).idxOf b = as.idxOf b + 1 := by
        intro b hb
        have hne : b ≠ a := by simpa using (List.mem_filter.1 hb).2
        exact List.idxOf_cons_ne as hne.symm
      refine List.pairwise_cons.2 ⟨fun b hb => ?_, ?_⟩
      · rw [List.idxOf_cons_self, hlater b hb]
        omega
      · refine (ih.filter _).imp_of_mem fun {b c} hb hc hlt => ?_
        rw [hlater b hb, hlater c hc]
        omega

theorem firsts_concat {α κ : Type} [DecidableEq κ] (key : α → κ) (as : List α) (a : α) :
    firsts key (as ++ [a]) =
      if key a ∈ as.map key then firsts key as else firsts key as ++ [a] := by
  induction as with
  | nil => rfl
  | cons b as ih =>
    rw [List.cons_append, firsts, ih, firsts]
    by_cases hb : key a = key b
    · have hmem : key a ∈ (b :: as).map key := by simp [hb]
      rw [if_pos hmem]
      split_ifs
      · rfl
      · simp [hb]
    · have hmem : key a ∈ (b :: as).map key ↔ key a ∈ as.map key := by simp [hb]
      by_cases ha : key a ∈ as.map key
      · rw [if_pos ha, if_pos (hmem.2 ha)]
      · rw [if_neg ha, if_neg (mt hmem.1 ha)]
        simp [hb]

/-! ### The same first occurrences -/

/-- Whatever is looked for, the same is found first in both lists. They differ only in elements that
repeat one before them. -/
def SameFirsts {α : Type} (as bs : List α) : Prop := ∀ p : α → Bool, as.find? p = bs.find? p

namespace SameFirsts

variable {α β κ : Type} {as bs cs ds : List α}

theorem refl (as : List α) : SameFirsts as as := fun _ => rfl

theorem append (h : SameFirsts as bs) (h' : SameFirsts cs ds) :
    SameFirsts (as ++ cs) (bs ++ ds) := by
  intro p
  rw [List.find?_append, List.find?_append, h p, h' p]

/-- Elements that came before may come again. -/
theorem append_of_subset (h : bs ⊆ as) : SameFirsts (as ++ bs) as := by
  intro p
  rw [List.find?_append]
  cases hf : as.find? p with
  | some a => rfl
  | none => exact List.find?_eq_none.2 fun b hb => List.find?_eq_none.1 hf b (h hb)

theorem mem_iff (h : SameFirsts as bs) {a : α} : a ∈ as ↔ a ∈ bs := by
  classical
  have hmem (as : List α) : a ∈ as ↔ (as.find? fun b => b = a).isSome := by
    simp [List.find?_isSome]
  rw [hmem, hmem, h]

theorem head?_eq (h : SameFirsts as bs) : as.head? = bs.head? := by
  have hhead (as : List α) : as.head? = as.find? fun _ => true := by cases as <;> rfl
  rw [hhead, hhead, h]

theorem filter (h : SameFirsts as bs) (p : α → Bool) : SameFirsts (as.filter p) (bs.filter p) := by
  intro q
  rw [List.find?_filter, List.find?_filter, h]

theorem map (h : SameFirsts as bs) (f : α → β) : SameFirsts (as.map f) (bs.map f) := by
  intro p
  rw [List.find?_map, List.find?_map, h]

theorem flatMap (h : SameFirsts as bs) (f : α → List β) :
    SameFirsts (as.flatMap f) (bs.flatMap f) := by
  intro p
  have hfind (as : List α) : (as.flatMap f).find? p =
      (as.find? fun a => ((f a).find? p).isSome).bind fun a => (f a).find? p := by
    induction as with
    | nil => rfl
    | cons a as ih =>
      rw [List.flatMap_cons, List.find?_append, ih, List.find?_cons]
      cases hf : (f a).find? p <;> simp [hf]
  rw [hfind, hfind, h]

theorem flatMap_congr {as : List β} {f g : β → List α} (h : ∀ a ∈ as, SameFirsts (f a) (g a)) :
    SameFirsts (as.flatMap f) (as.flatMap g) := by
  induction as with
  | nil => exact .refl _
  | cons a as ih =>
    obtain ⟨ha, has⟩ := List.forall_mem_cons.1 h
    exact ha.append (ih has)

/-- By whatever key the first occurrences are taken, they are the same, in the same order. -/
theorem firsts_eq [DecidableEq κ] (h : SameFirsts as bs) (key : α → κ) :
    firsts key as = firsts key bs := by
  induction hn : as.length using Nat.strong_induction_on generalizing as bs with
  | h n ih =>
  have hhead := h.head?_eq
  cases as with
  | nil =>
    obtain rfl : bs = [] := List.head?_eq_none_iff.1 hhead.symm
    rfl
  | cons a as =>
    obtain ⟨bs, rfl⟩ := List.head?_eq_some_iff.1 hhead.symm
    -- Without the elements of the first key, the rests agree as well.
    have hrest :
        SameFirsts (as.filter fun b => key b ≠ key a) (bs.filter fun b => key b ≠ key a) := by
      intro p
      have := h fun b => decide (key b ≠ key a) && p b
      rw [List.find?_filter, List.find?_filter]
      simpa using this
    have hlen : (as.filter fun b => key b ≠ key a).length < n := by
      rw [← hn, List.length_cons]
      exact Nat.lt_succ_of_le (List.length_filter_le _ _)
    have hkey := ih _ hlen hrest rfl
    have hcut (as : List α) : (firsts key as).filter (fun b => key b ≠ key a) =
        firsts key (as.filter fun b => key b ≠ key a) :=
      filter_firsts key (fun k => decide (k ≠ key a)) as
    rw [firsts, firsts, hcut, hcut, hkey]

end SameFirsts

/-! ### Elements that stand alone -/

/-- Where at most one element gives anything, the order of the elements does not matter. -/
theorem flatMap_eq_of_perm {α β : Type} {f : α → List β} {as bs : List α} (h : as.Perm bs)
    (hf : as.Pairwise fun a b => f a = [] ∨ f b = []) : as.flatMap f = bs.flatMap f := by
  induction h with
  | nil => rfl
  | cons a _ ih => rw [List.flatMap_cons, List.flatMap_cons, ih (List.pairwise_cons.1 hf).2]
  | swap a b as =>
    have hab : f b = [] ∨ f a = [] := (List.pairwise_cons.1 hf).1 a List.mem_cons_self
    rcases hab with e | e <;> simp [e]
  | trans h₁ _ ih₁ ih₂ => exact (ih₁ hf).trans (ih₂ ((h₁.pairwise_iff Or.symm).1 hf))

/-- Where nothing but one element can satisfy the condition, two lists with the same elements find
the same one. -/
theorem find?_eq_of_mem_iff {α : Type} {p : α → Bool} {as bs : List α}
    (h : ∀ a, p a → (a ∈ as ↔ a ∈ bs))
    (hp : ∀ a ∈ as, ∀ b ∈ as, p a → p b → a = b) : as.find? p = bs.find? p := by
  cases ha : as.find? p with
  | none =>
    refine (List.find?_eq_none.2 fun b hb hpb => ?_).symm
    exact List.find?_eq_none.1 ha b ((h b hpb).2 hb) hpb
  | some a =>
    have hpa := List.find?_some ha
    have hmem := List.mem_of_find?_eq_some ha
    cases hb : bs.find? p with
    | none => exact absurd hpa (List.find?_eq_none.1 hb a ((h a hpa).1 hmem))
    | some b =>
      have hpb := List.find?_some hb
      rw [hp a hmem b ((h b hpb).2 (List.mem_of_find?_eq_some hb)) hpa hpb]

end BeamLint
