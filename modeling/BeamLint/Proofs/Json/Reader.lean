import BeamLint.Json.Basic
import Mathlib.Algebra.Ring.Int.Defs

/-!
# Reading JSON

A text is read token by token, with the arrays and objects that are open on a stack. Blanks may
stand between tokens. In a string, a backslash begins an escape, and a character beyond the basic
plane may be written as the two units of its UTF-16 form; a unit of such a pair never stands alone.

* `readString`, `readWord`: what follows a quote, and words, which are numbers or constants;
* `ReadState.step`: what a token does to the reader;
* `read`: the value that a text holds.
-/

namespace BeamLint.Json

/-! ### Strings -/

/-- The value of a hexadecimal digit, in lower or upper case. -/
def hexValue? (c : Char) : Option Nat :=
  if c.isDigit then some (c.toNat - '0'.toNat)
  else if 'a' ≤ c && c ≤ 'f' then some (c.toNat - 'a'.toNat + 10)
  else if 'A' ≤ c && c ≤ 'F' then some (c.toNat - 'A'.toNat + 10)
  else none

/-- A UTF-16 unit of four hexadecimal digits, and what follows it. -/
def readUnit : List Char → Option (Nat × List Char)
  | a :: b :: c :: d :: rest => do
    let a ← hexValue? a
    let b ← hexValue? b
    let c ← hexValue? c
    let d ← hexValue? d
    some (((a * 16 + b) * 16 + c) * 16 + d, rest)
  | _ => none

/-- Whether a unit is the first of a pair. -/
def isHighUnit (n : Nat) : Bool := 0xD800 ≤ n && n < 0xDC00

/-- Whether a unit is the second of a pair. -/
def isLowUnit (n : Nat) : Bool := 0xDC00 ≤ n && n < 0xE000

/-- The character that a single letter after a backslash stands for. -/
def shortEscape? (c : Char) : Option Char :=
  [('"', '"'), ('\\', '\\'), ('/', '/'), ('b', Char.ofNat 8), ('f', Char.ofNat 12), ('n', '\n'),
    ('r', '\r'), ('t', '\t')].lookup c

/-- The second unit of a pair, with its own backslash, and what follows it. -/
def readLowUnit : List Char → Option (Nat × List Char)
  | '\\' :: 'u' :: rest => (readUnit rest).filter fun (n, _) => isLowUnit n
  | _ => none

/-- The character of an escape, from the letter after the backslash on, and what follows it. -/
def readEscape : List Char → Option (Char × List Char)
  | [] => none
  | c :: rest =>
    if c = 'u' then
      (readUnit rest).bind fun (n, rest) =>
        if isHighUnit n then
          (readLowUnit rest).map fun (m, rest) =>
            (Char.ofNat (0x10000 + (n - 0xD800) * 0x400 + (m - 0xDC00)), rest)
        else if isLowUnit n then none
        else some (Char.ofNat n, rest)
    else (shortEscape? c).map (·, rest)

theorem length_of_readUnit {text rest : List Char} {n : Nat} (h : readUnit text = some (n, rest)) :
    rest.length < text.length := by
  unfold readUnit at h
  split at h
  · simp only [Option.bind_eq_bind, Option.bind_eq_some_iff, Option.some.injEq, Prod.mk.injEq] at h
    obtain ⟨_, -, _, -, _, -, _, -, -, rfl⟩ := h
    simp only [List.length_cons]
    omega
  · contradiction

theorem length_of_readLowUnit {text rest : List Char} {n : Nat}
    (h : readLowUnit text = some (n, rest)) : rest.length < text.length := by
  unfold readLowUnit at h
  split at h
  · have := length_of_readUnit (Option.filter_eq_some_iff.1 h).1
    simp only [List.length_cons]
    omega
  · contradiction

theorem length_of_readEscape {text rest : List Char} {c : Char}
    (h : readEscape text = some (c, rest)) : rest.length < text.length := by
  cases text with
  | nil => contradiction
  | cons d text =>
    rw [readEscape] at h
    split at h
    · obtain ⟨⟨n, after⟩, hn, h⟩ := Option.bind_eq_some_iff.1 h
      have hlt := length_of_readUnit hn
      dsimp only at h
      split at h
      · obtain ⟨⟨m, after'⟩, hm, e⟩ := Option.map_eq_some_iff.1 h
        have hlt' := length_of_readLowUnit hm
        obtain rfl : after' = rest := (Prod.mk.inj e).2
        rw [List.length_cons]
        omega
      · split at h
        · contradiction
        · rw [← (Prod.mk.inj (Option.some.inj h)).2, List.length_cons]
          omega
    · obtain ⟨e, -, h⟩ := Option.map_eq_some_iff.1 h
      rw [← (Prod.mk.inj h).2, List.length_cons]
      omega

/-- The characters of a string, from behind its first quote to its last, and what follows it. -/
def readString (text : List Char) : Option (List Char × List Char) :=
  match text with
  | [] => none
  | c :: rest =>
    if c = '"' then some ([], rest)
    else if c = '\\' then
      match _h : readEscape rest with
      | some (d, rest') => (readString rest').map fun (s, after) => (d :: s, after)
      | none => none
    else if c.toNat < 32 then none
    else (readString rest).map fun (s, after) => (c :: s, after)
termination_by text.length
decreasing_by
  · have := length_of_readEscape _h
    simp only [List.length_cons]
    omega
  · simp

theorem length_of_readString {text s rest : List Char} (h : readString text = some (s, rest)) :
    rest.length < text.length := by
  fun_induction readString text generalizing s with
  | case1 => contradiction
  | case2 after =>
    rw [← (Prod.mk.inj (Option.some.inj h)).2]
    simp
  | case3 after d after' he _ ih =>
    obtain ⟨⟨s', r⟩, hs, e⟩ := Option.map_eq_some_iff.1 h
    obtain ⟨-, rfl⟩ := Prod.mk.inj e
    have := ih hs
    have := length_of_readEscape he
    simp only [List.length_cons]
    omega
  | case4 => contradiction
  | case5 => contradiction
  | case6 c after _ _ _ ih =>
    obtain ⟨⟨s', r⟩, hs, e⟩ := Option.map_eq_some_iff.1 h
    obtain ⟨-, rfl⟩ := Prod.mk.inj e
    have := ih hs
    simp only [List.length_cons]
    omega

/-! ### Words -/

/-- Whether `c` may stand in a word. -/
def isWordChar (c : Char) : Bool := c.isAlphanum || c == '+' || c == '-' || c == '.'

/-- A number written as digits only, of which there has to be one. -/
def readDigits (digits : List Char) : Option Nat :=
  if !digits.isEmpty && digits.all Char.isDigit then some (Nat.ofDigitChars 10 digits 0) else none

/-- The power of ten at the end of a number. -/
def readPower : List Char → Option Int
  | [] => some 0
  | c :: rest =>
    if c = 'e' || c = 'E' then
      match rest with
      | '-' :: digits => (readDigits digits).map fun n => -(n : Int)
      | '+' :: digits => (readDigits digits).map Int.ofNat
      | digits => (readDigits digits).map Int.ofNat
    else none

/-- The number `sign * digits / 10 ^ places`, times the power of ten that follows. -/
def scaled (sign : Int) (digits : List Char) (places : Nat) (rest : List Char) : Option Json :=
  (readPower rest).map fun power : Int =>
    let mantissa := sign * Nat.ofDigitChars 10 digits 0
    if (places : Int) ≤ power then .num (mantissa * 10 ^ (power - places).toNat) 0
    else .num mantissa (places - power).toNat

/-- A number without its sign: digits, which do not begin with a needless zero, and perhaps a point
with more digits. -/
def readUnsigned (sign : Int) (word : List Char) : Option Json :=
  let whole := word.takeWhile Char.isDigit
  if whole.isEmpty || (whole.head? == some '0' && whole.length != 1) then none
  else
    match word.dropWhile Char.isDigit with
    | '.' :: rest =>
      let fraction := rest.takeWhile Char.isDigit
      if fraction.isEmpty then none
      else scaled sign (whole ++ fraction) fraction.length (rest.dropWhile Char.isDigit)
    | rest => scaled sign whole 0 rest

/-- A number. -/
def readNumber : List Char → Option Json
  | '-' :: word => readUnsigned (-1) word
  | word => readUnsigned 1 word

/-- A word: a constant or a number. -/
def readWord (word : List Char) : Option Json :=
  if word = ['n', 'u', 'l', 'l'] then some .null
  else if word = ['t', 'r', 'u', 'e'] then some (.bool true)
  else if word = ['f', 'a', 'l', 's', 'e'] then some (.bool false)
  else readNumber word

/-! ### Tokens -/

/-- A token of a JSON text. -/
inductive Token where
  | openArr
  | closeArr
  | openObj
  | closeObj
  | comma
  | colon
  /-- A string, a number or a constant. -/
  | scalar (j : Json)

/-- Whether `c` may stand between tokens. -/
def isSpace (c : Char) : Bool := c == ' ' || c == '\n' || c == '\r' || c == '\t'

/-- The token of a mark. -/
def mark? (c : Char) : Option Token :=
  [('[', Token.openArr), (']', .closeArr), ('{', .openObj), ('}', .closeObj), (',', .comma),
    (':', .colon)].lookup c

/-- The token that begins with `c`, and what follows it. -/
def readToken (c : Char) (rest : List Char) : Option (Token × List Char) :=
  match mark? c with
  | some t => some (t, rest)
  | none =>
    if c = '"' then (readString rest).map fun (s, rest) => (.scalar (.str (String.ofList s)), rest)
    else if isWordChar c then
      (readWord (c :: rest.takeWhile isWordChar)).map fun j =>
        (.scalar j, rest.dropWhile isWordChar)
    else none

theorem length_of_readToken {c : Char} {text rest : List Char} {t : Token}
    (h : readToken c text = some (t, rest)) : rest.length ≤ text.length := by
  unfold readToken at h
  split at h
  · obtain rfl : text = rest := (Prod.mk.inj (Option.some.inj h)).2
    exact Nat.le_refl _
  · split at h
    · obtain ⟨⟨s, r⟩, hs, e⟩ := Option.map_eq_some_iff.1 h
      have := length_of_readString hs
      rw [← (Prod.mk.inj e).2]
      omega
    · split at h
      · obtain ⟨j, -, e⟩ := Option.map_eq_some_iff.1 h
        rw [← (Prod.mk.inj e).2]
        exact (List.dropWhile_suffix _).length_le
      · contradiction

/-! ### Values -/

/-- An array or object that is open, with what has been read of it, the last first. -/
inductive Frame where
  | arr (items : List Json)
  /-- An object with a field whose value is being read. -/
  | obj (fields : List (String × Json)) (name : String)

/-- Where the reader stands. -/
inductive ReadState where
  /-- A value comes next. -/
  | value (stack : List Frame)
  /-- The name of a field comes next. -/
  | key (fields : List (String × Json)) (stack : List Frame)
  /-- The name of a field has been read. -/
  | named (fields : List (String × Json)) (name : String) (stack : List Frame)
  /-- A value has been read. -/
  | after (j : Json) (stack : List Frame)

/-- What a token does. Only an array or object of which nothing has been read may be closed where a
value or a name comes next, so no comma stands before a closing mark. -/
def ReadState.step : ReadState → Token → Option ReadState
  | .value stack, .scalar j => some (.after j stack)
  | .value stack, .openArr => some (.value (.arr [] :: stack))
  | .value stack, .openObj => some (.key [] stack)
  | .value (.arr [] :: stack), .closeArr => some (.after (.arr []) stack)
  | .key fields stack, .scalar (.str name) => some (.named fields name stack)
  | .key [] stack, .closeObj => some (.after (.obj []) stack)
  | .named fields name stack, .colon => some (.value (.obj fields name :: stack))
  | .after j (.arr items :: stack), .comma => some (.value (.arr (j :: items) :: stack))
  | .after j (.arr items :: stack), .closeArr => some (.after (.arr (j :: items).reverse) stack)
  | .after j (.obj fields name :: stack), .comma => some (.key ((name, j) :: fields) stack)
  | .after j (.obj fields name :: stack), .closeObj =>
    some (.after (.obj ((name, j) :: fields).reverse) stack)
  | _, _ => none

/-- Reads on to the end of the text. -/
def readFrom (state : ReadState) (text : List Char) : Option ReadState :=
  match text with
  | [] => some state
  | c :: rest =>
    if isSpace c then readFrom state rest
    else
      match _h : readToken c rest with
      | some (t, rest') => (state.step t).bind fun state' => readFrom state' rest'
      | none => none
termination_by text.length
decreasing_by
  · simp
  · have := length_of_readToken _h
    simp only [List.length_cons]
    omega

/-- The value of a text that holds exactly one. -/
def read (text : List Char) : Option Json :=
  match readFrom (.value []) text with
  | some (.after j []) => some j
  | _ => none

end BeamLint.Json
