import BeamLint.Text.Blank
import BeamLint.Text.Letter
import BeamLint.Text.Span
import BeamLint.Value.Parens

/-!
# Values of custom properties

A value is followed along its fallback chain: `var(--a, var(--b, #fff))` refers to `--a` and `--b`
and ends in the literal `#fff`. A value that merely contains `var()` calls, a compound, refers to
all names in those calls and ends in no literal.

* `ValueShape`: what a stretch of a value is, seen from outside;
* `Value.ofCall`: the inside of a `var()` call, followed to its end;
* `Value.parse`: a whole value, without its `!important` mark.
-/

namespace BeamLint

/-- A name in a value: where it starts, and whether a fallback follows it. -/
structure ValueReference where
  name : String
  offset : Nat
  hasFallback : Bool
  deriving Repr, DecidableEq

/-- What a value refers to, in the order of the text, and the literal in which it ends. -/
structure Value where
  references : List ValueReference
  literal : Option String
  deriving Repr, DecidableEq

/-- How a call begins. -/
def varOpen : List Char := ['v', 'a', 'r', '(']

/-- Finds the beginnings of calls. -/
def varOpenRecognizer : Text.Recognizer Unit := fun _ text =>
  if varOpen.isPrefixOf text then some (4, ()) else none

/-- The inside of a call and where it starts. -/
structure Call where
  offset : Nat
  inner : List Char
  deriving Repr, DecidableEq

/-- A stretch of a value, seen from outside. -/
inductive ValueShape where
  | empty
  | call (c : Call)
  | compound (calls : List Call)
  | literal (text : List Char)
  deriving Repr, DecidableEq

/-- The calls of `body` that begin at the given places and do not overlap; `free` is the first place
that no call covers. The search ends at a call that is never closed. -/
def callsAt (offset : Nat) (body : List Char) (pairs : List (Nat × Nat)) :
    (free : Nat) → List Nat → List Call
  | _, [] => []
  | free, start :: starts =>
    if start < free then callsAt offset body pairs free starts
    else
      match pairs.lookup (start + 3) with
      | none => []
      | some close =>
        ⟨offset + start + 4, (⟨start + 4, close⟩ : Text.Span).slice body⟩ ::
          callsAt offset body pairs (close + 1) starts

/-- What the stretch `text` at place `offset` is. -/
def ValueShape.ofText (offset : Nat) (text : List Char) : ValueShape :=
  let body := Text.trim text
  let start := offset + (text.takeWhile Text.isBlank).length
  let pairs := parenPairs body
  if body.isEmpty then .empty
  else if varOpen.isPrefixOf body && pairs.lookup 3 == some (body.length - 1) then
    .call ⟨start + 4, (body.drop 4).dropLast⟩
  else if Text.occurs varOpen body then
    .compound (callsAt start body pairs 0 ((Text.findAll varOpenRecognizer body).map (·.start)))
  else .literal body

/-- Whether `c` may stand in the name of a custom property. -/
def isPropertyChar (c : Char) : Bool := c.isAlphanum || c == '_' || c == '-'

/-- The name of a custom property at the beginning of the text, and what follows it: two hyphens
and at least one more character. -/
def propertyName? (text : List Char) : Option (List Char × List Char) :=
  let name := text.takeWhile isPropertyChar
  if ['-', '-'].isPrefixOf name && name.length > 2 then some (name, text.dropWhile isPropertyChar)
  else none

/-! ### The inside of a call is shorter than the call -/

theorem length_trim_le (text : List Char) : (Text.trim text).length ≤ text.length := by
  have h (l : List Char) : (l.dropWhile Text.isBlank).length ≤ l.length :=
    (List.dropWhile_sublist Text.isBlank).length_le
  have h₁ := h text
  have h₂ := h (text.dropWhile Text.isBlank).reverse
  simp only [Text.trim, Text.trimRight, Text.trimLeft, List.length_reverse] at *
  omega

theorem length_inner_lt_of_mem_callsAt {offset : Nat} {body : List Char} {pairs : List (Nat × Nat)}
    {free : Nat} {starts : List Nat} {c : Call} (hb : body ≠ [])
    (h : c ∈ callsAt offset body pairs free starts) : c.inner.length < body.length := by
  induction starts generalizing free with
  | nil => simp [callsAt] at h
  | cons start starts ih =>
    rw [callsAt] at h
    split at h
    · exact ih h
    · split at h
      · simp at h
      · rcases List.mem_cons.1 h with rfl | h
        · have : 0 < body.length := List.length_pos_iff.2 hb
          simp only [Text.Span.slice, List.length_take, List.length_drop]
          omega
        · exact ih h

/-- The calls that a shape shows, one by one. -/
def ValueShape.calls : ValueShape → List Call
  | .call c => [c]
  | .compound cs => cs
  | _ => []

theorem length_inner_lt_of_mem_calls {offset : Nat} {text : List Char} {c : Call}
    (h : c ∈ (ValueShape.ofText offset text).calls) : c.inner.length < text.length := by
  have hle := length_trim_le text
  unfold ValueShape.ofText at h
  by_cases hb : (Text.trim text).isEmpty
  · simp [hb, ValueShape.calls] at h
  · have hpos : 0 < (Text.trim text).length := by
      rw [List.length_pos_iff]; simpa using hb
    simp only [hb] at h
    split at h
    · contradiction
    · split at h
      · simp only [ValueShape.calls, List.mem_singleton] at h
        subst h
        simp only [List.length_dropLast, List.length_drop]
        omega
      · split at h
        · exact Nat.lt_of_lt_of_le
            (length_inner_lt_of_mem_callsAt (by simpa using hb) h) hle
        · simp [ValueShape.calls] at h

theorem length_of_propertyName? {text name rest : List Char}
    (h : propertyName? text = some (name, rest)) : rest.length ≤ text.length := by
  unfold propertyName? at h
  dsimp only at h
  split at h
  · simp only [Option.some.injEq, Prod.mk.injEq] at h
    rw [← h.2]
    exact (List.dropWhile_sublist isPropertyChar).length_le
  · contradiction

/-! ### Following a chain -/

namespace Value

/-- The fallback after the name in the inside of a call: what follows the comma. -/
def fallback? (afterName : List Char) : Option (List Char) :=
  match Text.trimLeft afterName with
  | ',' :: fallback => some fallback
  | _ => none

theorem length_of_fallback? {text rest : List Char} (h : fallback? text = some rest) :
    rest.length < text.length := by
  have hle : (Text.trimLeft text).length ≤ text.length :=
    (List.dropWhile_sublist Text.isBlank).length_le
  unfold fallback? at h
  split at h
  · next heq =>
    simp only [Option.some.injEq] at h
    subst h
    rw [heq] at hle
    simp at hle
    omega
  · contradiction

set_option linter.unusedVariables false in
/-- The value of the inside of a call. A call without a name is a literal; a call with a fallback
goes on with it. -/
def ofCall (c : Call) : Value :=
  match hn : propertyName? (Text.trimLeft c.inner) with
  | none => ⟨[], some (String.ofList (varOpen ++ c.inner ++ [')']))⟩
  | some (name, afterName) =>
    let place := c.offset + (c.inner.takeWhile Text.isBlank).length
    match hf : fallback? afterName with
    | none => ⟨[⟨String.ofList name, place, false⟩], none⟩
    | some fallback =>
      let here : ValueReference := ⟨String.ofList name, place, true⟩
      match hs : ValueShape.ofText (c.offset + (c.inner.length - fallback.length)) fallback with
      | .empty => ⟨[here], none⟩
      | .literal text => ⟨[here], some (String.ofList text)⟩
      | .call inner =>
        let rest := ofCall inner
        ⟨here :: rest.references, rest.literal⟩
      | .compound calls =>
        ⟨here :: calls.attach.flatMap fun ⟨inner, _⟩ => (ofCall inner).references, none⟩
termination_by c.inner.length
decreasing_by
  all_goals
    have h₁ : (Text.trimLeft c.inner).length ≤ c.inner.length :=
      (List.dropWhile_sublist Text.isBlank).length_le
    have h₂ := length_of_propertyName? hn
    have h₃ := length_of_fallback? hf
    have h₄ : inner.inner.length < fallback.length :=
      length_inner_lt_of_mem_calls (by rw [hs]; simp_all [ValueShape.calls])
    omega

/-- The text without the `!important` mark at its end and the blanks before the mark. -/
def dropImportant (text : List Char) : List Char :=
  let reversed := text.reverse.dropWhile Text.isBlank
  match Text.dropWord? ['t', 'n', 'a', 't', 'r', 'o', 'p', 'm', 'i'] reversed with
  | none => text
  | some rest =>
    match rest.dropWhile Text.isBlank with
    | '!' :: rest => (rest.dropWhile Text.isBlank).reverse
    | _ => text

/-- The value of the text of a declaration. -/
def parse (text : List Char) : Value :=
  match ValueShape.ofText 0 (dropImportant text) with
  | .empty => ⟨[], none⟩
  | .literal text => ⟨[], some (String.ofList text)⟩
  | .call c => ofCall c
  | .compound calls => ⟨calls.flatMap fun c => (ofCall c).references, none⟩

end Value

end BeamLint
