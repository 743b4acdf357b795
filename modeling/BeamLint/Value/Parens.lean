import BeamLint.Text.Quote

/-!
# Matching parentheses

Each opening parenthesis outside quotes is matched with the closing one that undoes it. A closing
parenthesis with nothing to close is ignored, and an opening one may stay without a partner.
-/

namespace BeamLint

/-- The matched pairs of a text at place `i`, given the open quote, the character before and the
places of the parentheses that are still open, the innermost first. -/
def parenPairsFrom (i : Nat) (quote : Option Char) (before : Char) (opened : List Nat) :
    List Char → List (Nat × Nat)
  | [] => []
  | c :: rest =>
    let next := Text.quoteAfter quote before c
    if quote.isSome then parenPairsFrom (i + 1) next c opened rest
    else if c = '(' then parenPairsFrom (i + 1) next c (i :: opened) rest
    else if c = ')' then
      match opened with
      | o :: opened => (o, i) :: parenPairsFrom (i + 1) next c opened rest
      | [] => parenPairsFrom (i + 1) next c [] rest
    else parenPairsFrom (i + 1) next c opened rest

/-- The places of the matched parentheses of a text, in the order of the closing ones. -/
def parenPairs (text : List Char) : List (Nat × Nat) := parenPairsFrom 0 none ' ' [] text

end BeamLint
