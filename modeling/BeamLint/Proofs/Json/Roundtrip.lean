import BeamLint.Json.Printer
import BeamLint.Proofs.Json.Reader
import Mathlib

/-!
# Reading what was printed

The text of a JSON value is read back as the value, whatever the value is: strings escape by escape
(`readString_escapeChar`), numbers digit by digit (`readWord_printNum`), and arrays and objects with
any stack below them and any text behind them (`readFrom_printAt`). The text is ASCII.
-/

namespace BeamLint.Json

/-! ### Strings -/

theorem hexValue?_digitChar {n : Nat} (h : n < 16) : hexValue? (Nat.digitChar n) = some n := by
  interval_cases n <;> rfl

theorem readUnit_hexDigits {n : Nat} (h : n < 0x10000) (rest : List Char) :
    readUnit (Text.hexDigits 4 n ++ rest) = some (n, rest) := by
  have hdigit (k : Nat) : hexValue? (Nat.digitChar (k % 16)) = some (k % 16) :=
    hexValue?_digitChar (Nat.mod_lt k (by decide))
  have hsum :
      ((n / 16 / 16 / 16 % 16 * 16 + n / 16 / 16 % 16) * 16 + n / 16 % 16) * 16 + n % 16 = n := by
    omega
  simp only [Text.hexDigits, List.nil_append, List.cons_append, readUnit, hdigit,
    Option.bind_eq_bind, Option.bind_some, hsum]

theorem readEscape_unit {n : Nat} (h : n < 0x10000) (hhigh : isHighUnit n = false)
    (hlow : isLowUnit n = false) (rest : List Char) :
    readEscape ('u' :: (Text.hexDigits 4 n ++ rest)) = some (Char.ofNat n, rest) := by
  simp [readEscape, readUnit_hexDigits h, hhigh, hlow]

theorem readEscape_pair {high low : Nat} (hhigh : isHighUnit high = true)
    (hlow : isLowUnit low = true) (rest : List Char) :
    readEscape ('u' :: (Text.hexDigits 4 high ++ (escapeUnit low ++ rest))) =
      some (Char.ofNat (0x10000 + (high - 0xD800) * 0x400 + (low - 0xDC00)), rest) := by
  have hh : high < 0x10000 := by
    simp only [isHighUnit, Bool.and_eq_true, decide_eq_true_eq] at hhigh
    omega
  have hl : low < 0x10000 := by
    simp only [isLowUnit, Bool.and_eq_true, decide_eq_true_eq] at hlow
    omega
  simp [readEscape, readUnit_hexDigits hh, hhigh, readLowUnit, escapeUnit, readUnit_hexDigits hl,
    hlow]

theorem readString_backslash {text rest : List Char} {c : Char}
    (h : readEscape text = some (c, rest)) :
    readString ('\\' :: text) = (readString rest).map fun (s, after) => (c :: s, after) := by
  rw [readString]
  simp only [Char.reduceEq, if_false, if_true]
  split
  · next d rest' h' =>
    obtain ⟨rfl, rfl⟩ := Prod.mk.inj (Option.some.inj (h'.symm.trans h))
    rfl
  · next h' => simp [h] at h'

/-- A character is no unit of a pair. -/
theorem not_isUnit (c : Char) : isHighUnit c.toNat = false ∧ isLowUnit c.toNat = false := by
  have hvalid : c.toNat < 0xD800 ∨ 0xDFFF < c.toNat ∧ c.toNat < 0x110000 := c.valid
  simp only [isHighUnit, isLowUnit, Bool.and_eq_false_iff, decide_eq_false_iff_not]
  omega

/-- However a character is written, it is read back. -/
theorem readString_escapeChar (c : Char) (rest : List Char) :
    readString (escapeChar c ++ rest) =
      (readString rest).map fun (s, after) => (c :: s, after) := by
  unfold escapeChar
  dsimp only
  split_ifs with hquote hplain hn hr ht hb hf hunit
  · -- A quote or a backslash follows a backslash.
    refine readString_backslash ?_
    rcases (by simpa using hquote : c = '"' ∨ c = '\\') with rfl | rfl
    · rfl
    · rfl
  · have hne : ¬ (c = '"' ∨ c = '\\') := by simpa using hquote
    obtain ⟨hq, hb⟩ := not_or.1 hne
    have hge : ¬ c.toNat < 32 := by
      simp only [Bool.and_eq_true, decide_eq_true_eq] at hplain
      omega
    rw [List.cons_append, List.nil_append, readString, if_neg hq, if_neg hb, if_neg hge]
  · obtain rfl : c = '\n' := by simpa using hn
    exact readString_backslash rfl
  · obtain rfl : c = '\r' := by simpa using hr
    exact readString_backslash rfl
  · obtain rfl : c = '\t' := by simpa using ht
    exact readString_backslash rfl
  · obtain rfl : c = Char.ofNat 8 := by
      rw [← Char.ofNat_toNat c, beq_iff_eq.1 hb]
    exact readString_backslash rfl
  · obtain rfl : c = Char.ofNat 12 := by
      rw [← Char.ofNat_toNat c, beq_iff_eq.1 hf]
    exact readString_backslash rfl
  · have hescape := readEscape_unit hunit (not_isUnit c).1 (not_isUnit c).2 rest
    rw [Char.ofNat_toNat] at hescape
    exact readString_backslash hescape
  · -- Beyond the basic plane: the two units give the character back.
    have hvalid : c.toNat < 0xD800 ∨ 0xDFFF < c.toNat ∧ c.toNat < 0x110000 := c.valid
    have hhigh : isHighUnit (0xD800 + (c.toNat - 0x10000) / 0x400) = true := by
      simp only [isHighUnit, Bool.and_eq_true, decide_eq_true_eq]
      omega
    have hlow : isLowUnit (0xDC00 + (c.toNat - 0x10000) % 0x400) = true := by
      simp only [isLowUnit, Bool.and_eq_true, decide_eq_true_eq]
      omega
    have hsum : 0x10000 + (0xD800 + (c.toNat - 0x10000) / 0x400 - 0xD800) * 0x400 +
        (0xDC00 + (c.toNat - 0x10000) % 0x400 - 0xDC00) = c.toNat := by
      omega
    have hpair := readEscape_pair hhigh hlow rest
    rw [hsum, Char.ofNat_toNat] at hpair
    rw [List.append_assoc]
    exact readString_backslash hpair

theorem readString_flatMap (s rest : List Char) :
    readString (s.flatMap escapeChar ++ '"' :: rest) = some (s, rest) := by
  induction s with
  | nil =>
    rw [List.flatMap_nil, List.nil_append, readString]
    rfl
  | cons c s ih =>
    rw [List.flatMap_cons, List.append_assoc, readString_escapeChar, ih]
    rfl

/-! ### Numbers -/

theorem head?_toDigits {n : Nat} (h : n ≠ 0) : (Nat.toDigits 10 n).head? ≠ some '0' := by
  induction n using Nat.strong_induction_on with
  | _ n ih =>
    rw [Nat.toDigits_eq_if (by decide)]
    split_ifs with hlt
    · interval_cases n <;> simp_all [Nat.digitChar]
    · rw [List.head?_append_of_ne_nil _ Nat.toDigits_ne_nil]
      exact ih (n / 10) (by omega) (by omega)

theorem isDigit_of_mem_printNat {n : Nat} {c : Char} (h : c ∈ printNat n) : c.isDigit :=
  Nat.isDigit_of_mem_toDigits (by decide) (by decide) h

/-- Digits, not none, that do not begin with a needless zero. -/
structure PlainDigits (digits : List Char) : Prop where
  isDigit : ∀ c ∈ digits, c.isDigit
  ne_nil : digits ≠ []
  head? : digits.length = 1 ∨ digits.head? ≠ some '0'

theorem plainDigits_printNat (n : Nat) : PlainDigits (printNat n) where
  isDigit _ h := isDigit_of_mem_printNat h
  ne_nil := Nat.toDigits_ne_nil
  head? := by
    by_cases h : n = 0
    · rw [h]
      exact Or.inl rfl
    · exact Or.inr (head?_toDigits h)

namespace PlainDigits

variable {whole : List Char}

theorem not_needless (h : PlainDigits whole) :
    (whole.isEmpty || (whole.head? == some '0' && whole.length != 1)) = false := by
  have hne := h.ne_nil
  rcases h.head? with h | h
  · simp [hne, h]
  · simp [hne, h]

theorem readUnsigned (h : PlainDigits whole) (sign : Int) :
    readUnsigned sign whole = some (.num (sign * Nat.ofDigitChars 10 whole 0) 0) := by
  have htake : whole.takeWhile Char.isDigit = whole := List.takeWhile_eq_self_iff.2 h.isDigit
  have hdrop : whole.dropWhile Char.isDigit = [] := List.dropWhile_eq_nil_iff.2 h.isDigit
  rw [Json.readUnsigned, htake, hdrop]
  simp [h.not_needless, scaled, readPower]

theorem readUnsigned_point (h : PlainDigits whole) (sign : Int) {fraction : List Char}
    (hf : ∀ c ∈ fraction, c.isDigit) (hne : fraction ≠ []) :
    Json.readUnsigned sign (whole ++ '.' :: fraction) =
      some (.num (sign * Nat.ofDigitChars 10 (whole ++ fraction) 0) fraction.length) := by
  have htake : (whole ++ '.' :: fraction).takeWhile Char.isDigit = whole := by
    rw [List.takeWhile_append_of_pos h.isDigit]
    simp
  have hdrop : (whole ++ '.' :: fraction).dropWhile Char.isDigit = '.' :: fraction := by
    rw [List.dropWhile_append_of_pos h.isDigit]
    simp
  have htake' : fraction.takeWhile Char.isDigit = fraction := List.takeWhile_eq_self_iff.2 hf
  have hdrop' : fraction.dropWhile Char.isDigit = [] := List.dropWhile_eq_nil_iff.2 hf
  rw [Json.readUnsigned, htake, hdrop]
  simp [h.not_needless, htake', hdrop', hne, scaled, readPower]

end PlainDigits

theorem ofDigitChars_printNat (n : Nat) : Nat.ofDigitChars 10 (printNat n) 0 = n :=
  Nat.ofDigitChars_ten_toDigits

/-- A number that does not begin with a minus sign is read without one. -/
theorem readNumber_of_digits {word : List Char} (h : ∀ c ∈ word.head?, c.isDigit) :
    readNumber word = readUnsigned 1 word := by
  unfold readNumber
  split
  · next rest =>
    have := h '-' (by simp)
    contradiction
  · rfl

theorem readNumber_printInt (n : Int) : readNumber (printInt n) = some (.num n 0) := by
  have hplain := plainDigits_printNat
  cases n with
  | ofNat n =>
    have hhead : ∀ c ∈ (printNat n).head?, c.isDigit :=
      fun c hc => isDigit_of_mem_printNat (List.mem_of_mem_head? hc)
    rw [printInt, readNumber_of_digits hhead, (hplain n).readUnsigned, ofDigitChars_printNat]
    simp
  | negSucc n =>
    rw [printInt, readNumber, (hplain (n + 1)).readUnsigned, ofDigitChars_printNat]
    simp [Int.negSucc_eq]

/-- The digits of a number with at least `width` of them, zeros in front where there are fewer. -/
def paddedDigits (width n : Nat) : List Char :=
  List.replicate (width - (printNat n).length) '0' ++ printNat n

theorem printNum_succ (mantissa : Int) (exponent : Nat) :
    printNum mantissa (exponent + 1) =
      let digits := paddedDigits (exponent + 2) mantissa.natAbs
      let whole := digits.length - (exponent + 1)
      (if mantissa < 0 then ['-'] else []) ++ (digits.take whole ++ '.' :: digits.drop whole) := by
  simp only [printNum, paddedDigits, List.append_assoc]

theorem isDigit_of_mem_paddedDigits {width n : Nat} {c : Char} (h : c ∈ paddedDigits width n) :
    c.isDigit := by
  rcases List.mem_append.1 h with h | h
  · rw [List.eq_of_mem_replicate h]
    rfl
  · exact isDigit_of_mem_printNat h

theorem ofDigitChars_paddedDigits (width n : Nat) :
    Nat.ofDigitChars 10 (paddedDigits width n) 0 = n := by
  rw [paddedDigits, Nat.ofDigitChars_append, Nat.ofDigitChars_replicate_zero, Nat.mul_zero,
    ofDigitChars_printNat]

theorem length_paddedDigits (width n : Nat) :
    (paddedDigits width n).length = max width (printNat n).length := by
  rw [paddedDigits, List.length_append, List.length_replicate]
  omega

/-- What stands before the point has no needless zero: zeros are put in front only up to one digit
before the point. -/
theorem plainDigits_take (exponent n : Nat) :
    PlainDigits ((paddedDigits (exponent + 2) n).take
      ((paddedDigits (exponent + 2) n).length - (exponent + 1))) where
  isDigit c h := isDigit_of_mem_paddedDigits (List.mem_of_mem_take h)
  ne_nil h := by
    have hlen := congrArg List.length h
    rw [List.length_take, length_paddedDigits, List.length_nil] at hlen
    omega
  head? := by
    by_cases hlong : exponent + 2 ≤ (printNat n).length
    · right
      have hpad : paddedDigits (exponent + 2) n = printNat n := by
        rw [paddedDigits, Nat.sub_eq_zero_of_le hlong]
        rfl
      have hn : n ≠ 0 := by
        rintro rfl
        have : (printNat 0).length = 1 := rfl
        omega
      rw [hpad, List.head?_take, if_neg (by omega)]
      exact head?_toDigits hn
    · left
      rw [List.length_take, length_paddedDigits]
      omega

/-- A number is read back, point and all. -/
theorem readNumber_printNum (mantissa : Int) (exponent : Nat) :
    readNumber (printNum mantissa exponent) = some (.num mantissa exponent) := by
  cases exponent with
  | zero => exact readNumber_printInt mantissa
  | succ exponent =>
    rw [printNum_succ]
    dsimp only
    generalize hd : paddedDigits (exponent + 2) mantissa.natAbs = digits
    have hplain := plainDigits_take exponent mantissa.natAbs
    have hlen := length_paddedDigits (exponent + 2) mantissa.natAbs
    have hvalue := ofDigitChars_paddedDigits (exponent + 2) mantissa.natAbs
    have hdigit : ∀ c ∈ digits, c.isDigit := fun c hc => isDigit_of_mem_paddedDigits (hd ▸ hc)
    rw [hd] at hplain hlen hvalue
    have hfraction : ∀ c ∈ digits.drop (digits.length - (exponent + 1)), c.isDigit :=
      fun c hc => hdigit c (List.mem_of_mem_drop hc)
    have hcount : (digits.drop (digits.length - (exponent + 1))).length = exponent + 1 := by
      rw [List.length_drop]
      omega
    have hne : digits.drop (digits.length - (exponent + 1)) ≠ [] := by
      intro e
      rw [e] at hcount
      simp at hcount
    have hread (sign : Int) := hplain.readUnsigned_point sign hfraction hne
    rw [List.take_append_drop, hvalue, hcount] at hread
    split_ifs with hneg
    · rw [List.cons_append, List.nil_append, readNumber, hread]
      congr 2
      omega
    · rw [List.nil_append, readNumber_of_digits, hread]
      · congr 2
        omega
      · intro c hc
        rw [List.head?_append_of_ne_nil _ hplain.ne_nil] at hc
        exact hplain.isDigit c (List.mem_of_mem_head? hc)

theorem isWordChar_of_isDigit {c : Char} (h : c.isDigit) : isWordChar c := by
  simp [isWordChar, Char.isAlphanum, h]

theorem isWordChar_of_mem_printNum {mantissa : Int} {exponent : Nat} {c : Char}
    (h : c ∈ printNum mantissa exponent) : isWordChar c := by
  cases exponent with
  | zero =>
    cases mantissa with
    | ofNat n => exact isWordChar_of_isDigit (isDigit_of_mem_printNat h)
    | negSucc n =>
      rcases List.mem_cons.1 h with rfl | h
      · rfl
      · exact isWordChar_of_isDigit (isDigit_of_mem_printNat h)
  | succ exponent =>
    rw [printNum_succ, List.mem_append, List.mem_append, List.mem_cons] at h
    rcases h with h | h | rfl | h
    · split_ifs at h
      · obtain rfl := List.mem_singleton.1 h
        rfl
      · simp at h
    · exact isWordChar_of_isDigit (isDigit_of_mem_paddedDigits (List.mem_of_mem_take h))
    · rfl
    · exact isWordChar_of_isDigit (isDigit_of_mem_paddedDigits (List.mem_of_mem_drop h))

theorem readWord_printNum (mantissa : Int) (exponent : Nat) :
    readWord (printNum mantissa exponent) = some (.num mantissa exponent) := by
  have h := readNumber_printNum mantissa exponent
  -- A constant is no number.
  unfold readWord
  split_ifs with hn ht hf
  · rw [hn] at h
    contradiction
  · rw [ht] at h
    contradiction
  · rw [hf] at h
    contradiction
  · exact h

/-! ### Tokens -/

section Tokens

variable (state : ReadState) (rest : List Char)

/-- The text begins with no character of a word. -/
def EndsWord (text : List Char) : Prop := ∀ c ∈ text.head?, isWordChar c = false

theorem readFrom_space {c : Char} (h : isSpace c) :
    readFrom state (c :: rest) = readFrom state rest := by
  rw [readFrom, if_pos h]

@[simp] theorem readFrom_newLine (level : Nat) :
    readFrom state (newLine level ++ rest) = readFrom state rest := by
  have hblanks (n : Nat) : readFrom state (List.replicate n ' ' ++ rest) = readFrom state rest := by
    induction n with
    | zero => rfl
    | succ n ih => rw [List.replicate_succ, List.cons_append, readFrom_space _ _ rfl, ih]
  rw [newLine, List.cons_append, readFrom_space _ _ rfl, hblanks]

theorem readFrom_of_readToken {c : Char} {text : List Char} {t : Token} (hs : isSpace c = false)
    (h : readToken c text = some (t, rest)) :
    readFrom state (c :: text) = (state.step t).bind fun state => readFrom state rest := by
  rw [readFrom, if_neg (by simp [hs])]
  split
  · next t' rest' h' =>
    obtain ⟨rfl, rfl⟩ := Prod.mk.inj (Option.some.inj (h'.symm.trans h))
    rfl
  · next h' => simp [h] at h'

variable {state} in
theorem readFrom_mark {state' : ReadState} {c : Char} {t : Token} (h : mark? c = some t)
    (hs : isSpace c = false) (hstep : state.step t = some state') :
    readFrom state (c :: rest) = readFrom state' rest := by
  have htoken : readToken c rest = some (t, rest) := by rw [readToken, h]
  rw [readFrom_of_readToken state rest hs htoken, hstep]
  rfl

theorem readFrom_printString (s : String) :
    readFrom state (printString s ++ rest) =
      (state.step (.scalar (.str s))).bind fun state => readFrom state rest := by
  rw [printString, List.cons_append, List.cons_append, List.append_assoc]
  refine readFrom_of_readToken state rest rfl ?_
  have hmark : mark? '"' = none := rfl
  have h := readString_flatMap s.toList rest
  rw [readToken, hmark]
  simp [h]

theorem mark?_of_isWordChar {c : Char} (h : isWordChar c) : mark? c = none := by
  rw [mark?, List.lookup_eq_none_iff]
  intro p hp
  have hne : c ≠ p.1 := by
    rintro rfl
    revert h
    fin_cases hp <;> decide
  simpa using hne

theorem isSpace_of_isWordChar {c : Char} (h : isWordChar c) : isSpace c = false := by
  by_contra hs
  simp only [isSpace, Bool.not_eq_false, Bool.or_eq_true, beq_iff_eq] at hs
  rcases hs with ((rfl | rfl) | rfl) | rfl <;> revert h <;> decide

theorem readFrom_word {word : List Char} {j : Json} (hne : word ≠ [])
    (hword : ∀ c ∈ word, isWordChar c) (hj : readWord word = some j) (hrest : EndsWord rest) :
    readFrom state (word ++ rest) =
      (state.step (.scalar j)).bind fun state => readFrom state rest := by
  obtain ⟨c, word, rfl⟩ := List.exists_cons_of_ne_nil hne
  obtain ⟨hc, hword⟩ := List.forall_mem_cons.1 hword
  have htake : (word ++ rest).takeWhile isWordChar = word := by
    rw [List.takeWhile_append_of_pos hword]
    cases rest with
    | nil => simp
    | cons d rest => simp [hrest d rfl]
  have hdrop : (word ++ rest).dropWhile isWordChar = rest := by
    rw [List.dropWhile_append_of_pos hword]
    cases rest with
    | nil => rfl
    | cons d rest => simp [hrest d rfl]
  have hquote : c ≠ '"' := by
    rintro rfl
    contradiction
  rw [List.cons_append]
  refine readFrom_of_readToken state rest (isSpace_of_isWordChar hc) ?_
  rw [readToken, mark?_of_isWordChar hc]
  simp only [if_neg hquote, if_pos hc, htake, hdrop, hj, Option.map_some]

end Tokens

/-! ### Values -/

theorem endsWord_newLine (level : Nat) (rest : List Char) : EndsWord (newLine level ++ rest) := by
  rintro c hc
  obtain rfl : '\n' = c := by simpa [newLine] using hc
  rfl

theorem endsWord_printItems (level : Nat) (items : List Json) {rest : List Char}
    (h : EndsWord rest) : EndsWord (printItems level items ++ rest) := by
  cases items with
  | nil => simpa [printItems] using h
  | cons item items =>
    rintro c hc
    obtain rfl : ',' = c := by simpa [printItems] using hc
    rfl

theorem endsWord_printFields (level : Nat) (fields : List (String × Json)) {rest : List Char}
    (h : EndsWord rest) : EndsWord (printFields level fields ++ rest) := by
  cases fields with
  | nil => simpa [printFields] using h
  | cons field fields =>
    rintro c hc
    obtain rfl : ',' = c := by simpa [printFields] using hc
    rfl

mutual

/-- Where a value comes next, a printed value is read, with any stack and any text behind it that
does not go on with its last word. -/
theorem readFrom_printAt (level : Nat) (j : Json) (stack : List Frame) {rest : List Char}
    (hrest : EndsWord rest) :
    readFrom (.value stack) (printAt level j ++ rest) = readFrom (.after j stack) rest := by
  match j with
  | .null =>
    rw [printAt]
    exact readFrom_word _ rest (by simp) (List.all_eq_true.1 rfl) rfl hrest
  | .bool true =>
    rw [printAt]
    exact readFrom_word _ rest (by simp) (List.all_eq_true.1 rfl) rfl hrest
  | .bool false =>
    rw [printAt]
    exact readFrom_word _ rest (by simp) (List.all_eq_true.1 rfl) rfl hrest
  | .num mantissa exponent =>
    have hread := readWord_printNum mantissa exponent
    have hne : printNum mantissa exponent ≠ [] := by
      intro e
      rw [e] at hread
      contradiction
    rw [printAt]
    exact readFrom_word _ rest hne (fun _ => isWordChar_of_mem_printNum) hread hrest
  | .str s =>
    rw [printAt, readFrom_printString]
    rfl
  | .arr [] =>
    rw [printAt]
    refine (readFrom_mark _ (t := .openArr) rfl rfl rfl).trans ?_
    exact readFrom_mark _ (t := .closeArr) rfl rfl rfl
  | .arr (item :: items) =>
    have hclose := endsWord_newLine level (']' :: rest)
    simp only [printAt, List.cons_append, List.append_assoc, List.nil_append]
    refine (readFrom_mark _ (t := .openArr) rfl rfl rfl).trans ?_
    rw [readFrom_newLine,
      readFrom_printAt (level + 1) item _ (endsWord_printItems (level + 1) items hclose)]
    exact readFrom_printItems level items item [] stack
  | .obj [] =>
    rw [printAt]
    refine (readFrom_mark _ (t := .openObj) rfl rfl rfl).trans ?_
    exact readFrom_mark _ (t := .closeObj) rfl rfl rfl
  | .obj ((name, value) :: fields) =>
    have hclose := endsWord_newLine level ('}' :: rest)
    simp only [printAt, List.cons_append, List.append_assoc, List.nil_append]
    refine (readFrom_mark _ (t := .openObj) rfl rfl rfl).trans ?_
    rw [readFrom_newLine, readFrom_printString]
    refine (readFrom_mark _ (t := .colon) rfl rfl rfl).trans ?_
    rw [readFrom_space _ _ rfl,
      readFrom_printAt (level + 1) value _ (endsWord_printFields (level + 1) fields hclose)]
    exact readFrom_printFields level fields name value [] stack

/-- Behind an item, the further items of an array are read, and the array is closed. -/
theorem readFrom_printItems (level : Nat) (items : List Json) (item : Json) (before : List Json)
    (stack : List Frame) {rest : List Char} :
    readFrom (.after item (.arr before :: stack))
        (printItems (level + 1) items ++ (newLine level ++ ']' :: rest)) =
      readFrom (.after (.arr (before.reverse ++ item :: items)) stack) rest := by
  match items with
  | [] =>
    rw [printItems, List.nil_append, readFrom_newLine]
    refine (readFrom_mark _ (t := .closeArr) rfl rfl rfl).trans ?_
    rw [List.reverse_cons]
  | next :: items =>
    have hclose := endsWord_newLine level (']' :: rest)
    simp only [printItems, List.cons_append, List.append_assoc]
    refine (readFrom_mark _ (t := .comma) rfl rfl rfl).trans ?_
    rw [readFrom_newLine,
      readFrom_printAt (level + 1) next _ (endsWord_printItems (level + 1) items hclose),
      readFrom_printItems level items next (item :: before) stack, List.reverse_cons,
      List.append_assoc, List.cons_append, List.nil_append]

/-- Behind the value of a field, the further fields of an object are read, and the object is
closed. -/
theorem readFrom_printFields (level : Nat) (fields : List (String × Json)) (name : String)
    (value : Json) (before : List (String × Json)) (stack : List Frame) {rest : List Char} :
    readFrom (.after value (.obj before name :: stack))
        (printFields (level + 1) fields ++ (newLine level ++ '}' :: rest)) =
      readFrom (.after (.obj (before.reverse ++ (name, value) :: fields)) stack) rest := by
  match fields with
  | [] =>
    rw [printFields, List.nil_append, readFrom_newLine]
    refine (readFrom_mark _ (t := .closeObj) rfl rfl rfl).trans ?_
    rw [List.reverse_cons]
  | (next, nextValue) :: fields =>
    have hclose := endsWord_newLine level ('}' :: rest)
    simp only [printFields, List.cons_append, List.append_assoc, List.nil_append]
    refine (readFrom_mark _ (t := .comma) rfl rfl rfl).trans ?_
    rw [readFrom_newLine, readFrom_printString]
    refine (readFrom_mark _ (t := .colon) rfl rfl rfl).trans ?_
    rw [readFrom_space _ _ rfl,
      readFrom_printAt (level + 1) nextValue _ (endsWord_printFields (level + 1) fields hclose),
      readFrom_printFields level fields next nextValue ((name, value) :: before) stack,
      List.reverse_cons, List.append_assoc, List.cons_append, List.nil_append]

end

/-- Every value is read back from its text. -/
theorem read_print (j : Json) : read j.print = some j := by
  have hend : EndsWord [] := by simp [EndsWord]
  have h := readFrom_printAt 0 j [] hend
  rw [List.append_nil] at h
  rw [read, print, h, readFrom]

/-! ### ASCII -/

/-- All characters are ASCII. -/
def IsAscii (text : List Char) : Prop := ∀ c ∈ text, c.toNat < 128

@[simp] theorem isAscii_append {a b : List Char} : IsAscii (a ++ b) ↔ IsAscii a ∧ IsAscii b :=
  List.forall_mem_append

@[simp] theorem isAscii_cons {c : Char} {text : List Char} :
    IsAscii (c :: text) ↔ c.toNat < 128 ∧ IsAscii text :=
  List.forall_mem_cons

@[simp] theorem isAscii_nil : IsAscii [] := List.forall_mem_nil _

@[simp] theorem isAscii_hexDigits (width n : Nat) : IsAscii (Text.hexDigits width n) := by
  have hdigit : ∀ k < 16, (Nat.digitChar k).toNat < 128 := by decide
  induction width generalizing n with
  | zero => exact isAscii_nil
  | succ width ih => simp [Text.hexDigits, ih, hdigit _ (Nat.mod_lt n (by decide))]

@[simp] theorem isAscii_escapeUnit (n : Nat) : IsAscii (escapeUnit n) := by simp [escapeUnit]

theorem isAscii_escapeChar (c : Char) : IsAscii (escapeChar c) := by
  unfold escapeChar
  dsimp only
  split_ifs with hquote hplain hn hr ht hb hf hunit
  · rcases (by simpa using hquote : c = '"' ∨ c = '\\') with rfl | rfl
    · simp
    · simp
  · simp only [Bool.and_eq_true, decide_eq_true_eq] at hplain
    exact isAscii_cons.2 ⟨by omega, isAscii_nil⟩
  all_goals simp

@[simp] theorem isAscii_printString (s : String) : IsAscii (printString s) := by
  have hchars : IsAscii (s.toList.flatMap escapeChar) := by
    intro c hc
    obtain ⟨d, -, hc⟩ := List.mem_flatMap.1 hc
    exact isAscii_escapeChar d c hc
  simp [printString, hchars]

theorem isAscii_printNum (mantissa : Int) (exponent : Nat) :
    IsAscii (printNum mantissa exponent) := by
  intro c hc
  have hword := isWordChar_of_mem_printNum hc
  simp only [isWordChar, Char.isAlphanum, Char.isAlpha, Char.isUpper, Char.isLower, Char.isDigit,
    Bool.or_eq_true, Bool.and_eq_true, decide_eq_true_eq, beq_iff_eq, ge_iff_le,
    UInt32.le_iff_toNat_le, Char.toNat_val] at hword
  rcases hword with ((((h | h) | h) | rfl) | rfl) | rfl
  · exact h.2.trans_lt (by decide)
  · exact h.2.trans_lt (by decide)
  · exact h.2.trans_lt (by decide)
  · decide
  · decide
  · decide

@[simp] theorem isAscii_newLine (level : Nat) : IsAscii (newLine level) := by
  refine isAscii_cons.2 ⟨by decide, fun c hc => ?_⟩
  rw [List.eq_of_mem_replicate hc]
  decide

mutual

theorem isAscii_printAt (level : Nat) (j : Json) : IsAscii (printAt level j) := by
  match j with
  | .null => simp [printAt]
  | .bool true => simp [printAt]
  | .bool false => simp [printAt]
  | .num mantissa exponent => simp [printAt, isAscii_printNum]
  | .str s => simp [printAt]
  | .arr [] => simp [printAt]
  | .arr (item :: items) =>
    have hitem := isAscii_printAt (level + 1) item
    have hitems := isAscii_printItems (level + 1) items
    simp [printAt, hitem, hitems]
  | .obj [] => simp [printAt]
  | .obj ((name, value) :: fields) =>
    have hvalue := isAscii_printAt (level + 1) value
    have hfields := isAscii_printFields (level + 1) fields
    simp [printAt, hvalue, hfields]

theorem isAscii_printItems (level : Nat) (items : List Json) :
    IsAscii (printItems level items) := by
  match items with
  | [] => exact isAscii_nil
  | item :: items =>
    have hitem := isAscii_printAt level item
    have hitems := isAscii_printItems level items
    simp [printItems, hitem, hitems]

theorem isAscii_printFields (level : Nat) (fields : List (String × Json)) :
    IsAscii (printFields level fields) := by
  match fields with
  | [] => exact isAscii_nil
  | (name, value) :: fields =>
    have hvalue := isAscii_printAt level value
    have hfields := isAscii_printFields level fields
    simp [printFields, hvalue, hfields]

end

end BeamLint.Json
