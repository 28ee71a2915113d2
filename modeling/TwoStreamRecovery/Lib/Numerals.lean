import Mathlib.Data.List.Induction
import Mathlib.Data.Nat.Digits.Defs
import Mathlib.Data.List.TakeWhile

/-!
# Numerals (`strtoull`)

* `decimalValue`: the number that a string of decimal digits denotes.
* `strtoull`: the conversion of the C standard with base 10, for a 64-bit result in the C locale.
* `IsNumeral`: a string of white space, a sign and digits; `strtoull_isComplete_iff`: these are the
  strings that are converted to their end.
* `accepts_iff`: a parser that accepts converted values in a range accepts the decimal numbers in it
  and nothing else, unless it is given a padded numeral.
-/

/-- The characters of a C string, without the terminating zero. -/
abbrev CString := List Char

/-- `isspace`. -/
def isSpace (c : Char) : Bool := c == ' ' || (9 ≤ c.toNat && c.toNat ≤ 13)

/-- The number that a string of decimal digits denotes. -/
def decimalValue (digits : CString) : ℕ :=
  Nat.ofDigits 10 (digits.reverse.map fun c => c.toNat - '0'.toNat)

/-- What a conversion leaves in its result, in `errno` and in `*endptr`. -/
structure Conversion where
  value : ℕ
  rangeError : Bool
  stop : ℕ

/-- The sign at the start of a string. -/
def signOf (text : CString) : CString :=
  match text with
  | '+' :: _ => ['+']
  | '-' :: _ => ['-']
  | _ => []

/-- What a sign makes of a number. -/
def signedValue (sign : CString) (n : ℕ) : ℕ := if sign = ['-'] then (2 ^ 64 - n) % 2 ^ 64 else n

/-- `strtoull`. -/
def strtoull (text : CString) : Conversion :=
  let blanks := text.takeWhile isSpace
  let sign := signOf (text.dropWhile isSpace)
  let digits := ((text.dropWhile isSpace).drop sign.length).takeWhile Char.isDigit
  if digits = [] then ⟨0, false, 0⟩
  else
    let stop := blanks.length + sign.length + digits.length
    if decimalValue digits < 2 ^ 64 then ⟨signedValue sign (decimalValue digits), false, stop⟩
    else ⟨2 ^ 64 - 1, true, stop⟩

/-- `strtoul`, where `unsigned long` has 64 bits. -/
def strtoul (text : CString) : Conversion := strtoull text

/-- `errno == 0 && end != text && *end == '\0'`. -/
def Conversion.isComplete (conversion : Conversion) (text : CString) : Bool :=
  !conversion.rangeError && conversion.stop != 0 && conversion.stop == text.length

/-- White space, a sign and digits. -/
structure IsNumeral (text blanks sign digits : CString) : Prop where
  text_eq : text = blanks ++ (sign ++ digits)
  blanks_space : ∀ c ∈ blanks, isSpace c = true
  sign_mem : sign ∈ [[], ['+'], ['-']]
  digits_ne : digits ≠ []
  digits_digit : ∀ c ∈ digits, c.isDigit = true

variable {text blanks sign digits : CString} {v : ℕ}

/-! ### What is converted -/

theorem isDigit_iff_toNat {c : Char} : c.isDigit = true ↔ 48 ≤ c.toNat ∧ c.toNat ≤ 57 := by
  rw [Char.isDigit, Bool.and_eq_true, decide_eq_true_eq, decide_eq_true_eq]
  exact and_congr UInt32.le_iff_toNat_le UInt32.le_iff_toNat_le

theorem not_isSpace_of_isDigit {c : Char} (hc : c.isDigit = true) : isSpace c = false := by
  obtain ⟨hlow, -⟩ := isDigit_iff_toNat.mp hc
  have hspace : c ≠ ' ' := by
    rintro rfl
    exact absurd hlow (by decide)
  simp only [isSpace, Bool.or_eq_false_iff, beq_eq_false_iff_ne, Bool.and_eq_false_iff,
    decide_eq_false_iff_not]
  exact ⟨hspace, .inr (by omega)⟩

theorem signOf_append (hsign : sign ∈ [[], ['+'], ['-']]) (hdigits : ∀ c ∈ digits, c.isDigit = true) :
    signOf (sign ++ digits) = sign := by
  simp only [List.mem_cons, List.not_mem_nil, or_false] at hsign
  obtain rfl | rfl | rfl := hsign
  · cases digits with
    | nil => rfl
    | cons c rest =>
      have hc := hdigits c List.mem_cons_self
      unfold signOf
      split
      · next heq =>
        rw [(List.cons.inj heq).1] at hc
        cases hc
      · next heq =>
        rw [(List.cons.inj heq).1] at hc
        cases hc
      · rfl
  · rfl
  · rfl

theorem signOf_cases (text : CString) :
    signOf text ∈ [[], ['+'], ['-']] ∧ text = signOf text ++ text.drop (signOf text).length := by
  unfold signOf
  split <;> simp

/-- A numeral splits into its parts. -/
theorem IsNumeral.parts (h : IsNumeral text blanks sign digits) :
    text.takeWhile isSpace = blanks ∧ signOf (text.dropWhile isSpace) = sign ∧
      ((text.dropWhile isSpace).drop sign.length).takeWhile Char.isDigit = digits := by
  have hhead : ∀ c ∈ (sign ++ digits).head?, isSpace c = false := by
    intro c hc
    have hsign := h.sign_mem
    simp only [List.mem_cons, List.not_mem_nil, or_false] at hsign
    obtain rfl | rfl | rfl := hsign
    · exact not_isSpace_of_isDigit (h.digits_digit c (List.mem_of_mem_head? hc))
    · rw [← Option.some.inj hc]
      decide
    · rw [← Option.some.inj hc]
      decide
  have hblanks : text.takeWhile isSpace = blanks ∧ text.dropWhile isSpace = sign ++ digits := by
    rw [h.text_eq, List.takeWhile_append_of_pos h.blanks_space,
      List.dropWhile_append_of_pos h.blanks_space]
    cases hbody : sign ++ digits with
    | nil => simp
    | cons c rest =>
      have hc := hhead c (by rw [hbody]; rfl)
      simp [hc]
  refine ⟨hblanks.1, ?_, ?_⟩
  · rw [hblanks.2, signOf_append h.sign_mem h.digits_digit]
  · rw [hblanks.2, List.drop_left]
    exact List.takeWhile_eq_self_iff.mpr h.digits_digit

/-- A numeral is converted as a whole. -/
theorem IsNumeral.strtoull_eq (h : IsNumeral text blanks sign digits) :
    strtoull text =
      if decimalValue digits < 2 ^ 64 then ⟨signedValue sign (decimalValue digits), false, text.length⟩
      else ⟨2 ^ 64 - 1, true, text.length⟩ := by
  obtain ⟨hblanks, hsign, hdigits⟩ := h.parts
  have hlength : text.length = blanks.length + sign.length + digits.length := by
    rw [h.text_eq, List.length_append, List.length_append, Nat.add_assoc]
  simp only [strtoull, hblanks, hsign, hdigits, if_neg h.digits_ne, hlength]

/-- What is converted of any string. -/
theorem strtoull_parts (text : CString) :
    ∃ blanks sign digits rest, text = blanks ++ (sign ++ (digits ++ rest)) ∧
      (∀ c ∈ blanks, isSpace c = true) ∧ sign ∈ [[], ['+'], ['-']] ∧
      (∀ c ∈ digits, c.isDigit = true) ∧
      strtoull text =
        if digits = [] then ⟨0, false, 0⟩
        else if decimalValue digits < 2 ^ 64 then
          ⟨signedValue sign (decimalValue digits), false,
            blanks.length + sign.length + digits.length⟩
        else ⟨2 ^ 64 - 1, true, blanks.length + sign.length + digits.length⟩ := by
  obtain ⟨hsign, hbody⟩ := signOf_cases (text.dropWhile isSpace)
  refine ⟨_, _, _,
    ((text.dropWhile isSpace).drop (signOf (text.dropWhile isSpace)).length).dropWhile Char.isDigit,
    ?_, fun c hc => List.mem_takeWhile_imp hc, hsign, fun c hc => List.mem_takeWhile_imp hc, rfl⟩
  rw [List.takeWhile_append_dropWhile, ← hbody, List.takeWhile_append_dropWhile]

theorem signedValue_lt (sign : CString) {n : ℕ} (hn : n < 2 ^ 64) : signedValue sign n < 2 ^ 64 := by
  unfold signedValue
  split
  · exact Nat.mod_lt _ (by decide)
  · exact hn

theorem strtoull_value_lt (text : CString) : (strtoull text).value < 2 ^ 64 := by
  obtain ⟨blanks, sign, digits, rest, -, -, -, -, heq⟩ := strtoull_parts text
  rw [heq]
  split
  · decide
  · split
    · next hfits => exact signedValue_lt sign hfits
    · exact Nat.sub_lt (by decide) (by decide)

/-- **The strings that are converted to their end** are the numerals that fit. -/
theorem strtoull_isComplete_iff :
    (strtoull text).isComplete text = true ∧ (strtoull text).value = v ↔
      ∃ blanks sign digits, IsNumeral text blanks sign digits ∧ decimalValue digits < 2 ^ 64 ∧
        v = signedValue sign (decimalValue digits) := by
  constructor
  · obtain ⟨blanks, sign, digits, rest, htext, hblanks, hsign, hdigits, heq⟩ := strtoull_parts text
    rintro ⟨hcomplete, rfl⟩
    rw [heq] at hcomplete ⊢
    by_cases hne : digits = []
    · rw [if_pos hne] at hcomplete
      cases hcomplete
    by_cases hfits : decimalValue digits < 2 ^ 64
    · rw [if_neg hne, if_pos hfits] at hcomplete ⊢
      simp only [Conversion.isComplete, Bool.and_eq_true, beq_iff_eq] at hcomplete
      have hlength := hcomplete.2
      rw [htext, List.length_append, List.length_append, List.length_append] at hlength
      have hrest : rest = [] := List.eq_nil_of_length_eq_zero (by omega)
      rw [hrest, List.append_nil] at htext
      exact ⟨blanks, sign, digits, ⟨htext, hblanks, hsign, hne, hdigits⟩, hfits, rfl⟩
    · rw [if_neg hne, if_neg hfits] at hcomplete
      cases hcomplete
  · rintro ⟨blanks, sign, digits, h, hfits, rfl⟩
    have hpos : text.length ≠ 0 := by
      have hdigits := List.length_pos_iff.mpr h.digits_ne
      rw [h.text_eq, List.length_append, List.length_append]
      omega
    rw [h.strtoull_eq, if_pos hfits]
    simp [Conversion.isComplete, hpos]

/-! ### What is accepted -/

/-- A non-empty string of decimal digits. -/
def IsDecimal (text : CString) : Prop := text ≠ [] ∧ ∀ c ∈ text, c.isDigit = true

/-- A numeral with white space or a sign before its digits, whose conversion is in the range. -/
def IsPaddedNumeral (inRange : ℕ → Prop) (text : CString) : Prop :=
  ∃ blanks sign digits, IsNumeral text blanks sign digits ∧ blanks ++ sign ≠ [] ∧
    decimalValue digits < 2 ^ 64 ∧ inRange (signedValue sign (decimalValue digits))

/-- A decimal number is a numeral without padding. -/
theorem isNumeral_iff_of_no_padding :
    IsNumeral text [] [] digits ↔ IsDecimal text ∧ digits = text := by
  constructor
  · intro h
    obtain rfl : text = digits := h.text_eq
    exact ⟨⟨h.digits_ne, h.digits_digit⟩, rfl⟩
  · rintro ⟨⟨hne, hdigits⟩, rfl⟩
    exact ⟨rfl, by simp, by simp, hne, hdigits⟩

/-- The padding is not a digit. -/
theorem IsNumeral.not_isDecimal (h : IsNumeral text blanks sign digits) (hpadded : blanks ++ sign ≠ []) :
    ¬ IsDecimal text := by
  rintro ⟨-, hdigits⟩
  obtain ⟨c, hc⟩ := List.exists_mem_of_ne_nil _ hpadded
  have hmem : c ∈ text := by
    rw [h.text_eq, ← List.append_assoc]
    exact List.mem_append_left _ hc
  have hdigit := hdigits c hmem
  have hspace := not_isSpace_of_isDigit hdigit
  rcases List.mem_append.mp hc with hblank | hsigned
  · rw [h.blanks_space c hblank] at hspace
    cases hspace
  · have hsign := h.sign_mem
    simp only [List.mem_cons, List.not_mem_nil, or_false] at hsign
    obtain rfl | rfl | rfl := hsign
    · cases hsigned
    · rw [List.mem_singleton.mp hsigned] at hdigit
      cases hdigit
    · rw [List.mem_singleton.mp hsigned] at hdigit
      cases hdigit

/-- A decimal number has no padding. -/
theorem IsDecimal.not_isPaddedNumeral {inRange : ℕ → Prop} (h : IsDecimal text) :
    ¬ IsPaddedNumeral inRange text := by
  rintro ⟨blanks, sign, digits, hnumeral, hpadded, -⟩
  exact hnumeral.not_isDecimal hpadded h

/-- **A parser that accepts what is converted** into the range accepts the decimal numbers of the range
and nothing else, unless it is given a padded numeral. -/
theorem accepts_iff {β : Type} {accepts : β → Prop} (inRange : ℕ → Prop) (stored : ℕ → β)
    (hrange : ∀ n, inRange n → n < 2 ^ 64)
    (haccepts : ∀ b, accepts b ↔
      (strtoull text).isComplete text = true ∧ inRange (strtoull text).value ∧
        b = stored (strtoull text).value) :
    (∀ b, accepts b ↔
        IsDecimal text ∧ inRange (decimalValue text) ∧ b = stored (decimalValue text)) ↔
      ¬ IsPaddedNumeral inRange text := by
  constructor
  · rintro h ⟨blanks, sign, digits, hnumeral, hpadded, hfits, hin⟩
    obtain ⟨hcomplete, hvalue⟩ :=
      strtoull_isComplete_iff.mpr ⟨blanks, sign, digits, hnumeral, hfits, rfl⟩
    rw [← hvalue] at hin
    have haccepted := (haccepts _).mpr ⟨hcomplete, hin, rfl⟩
    exact hnumeral.not_isDecimal hpadded ((h _).mp haccepted).1
  · intro hnot b
    rw [haccepts]
    constructor
    · rintro ⟨hcomplete, hin, rfl⟩
      obtain ⟨blanks, sign, digits, hnumeral, hfits, hvalue⟩ :=
        strtoull_isComplete_iff.mp ⟨hcomplete, rfl⟩
      rw [hvalue] at hin ⊢
      have hempty : blanks ++ sign = [] := by
        by_contra hpadded
        exact hnot ⟨blanks, sign, digits, hnumeral, hpadded, hfits, hin⟩
      obtain ⟨rfl, rfl⟩ := List.append_eq_nil_iff.mp hempty
      obtain ⟨hdecimal, rfl⟩ := isNumeral_iff_of_no_padding.mp hnumeral
      exact ⟨hdecimal, hin, rfl⟩
    · rintro ⟨hdecimal, hin, rfl⟩
      have hnumeral := isNumeral_iff_of_no_padding.mpr ⟨hdecimal, rfl⟩
      obtain ⟨hcomplete, hvalue⟩ :=
        strtoull_isComplete_iff.mpr ⟨[], [], text, hnumeral, hrange _ hin, rfl⟩
      rw [show signedValue [] (decimalValue text) = decimalValue text from rfl] at hvalue
      exact ⟨hcomplete, hvalue.symm ▸ hin, by rw [hvalue]⟩

/-! ### Written numbers -/

theorem decimalValue_eq_ofDigitChars (digits : CString) :
    decimalValue digits = Nat.ofDigitChars 10 digits 0 := by
  induction digits using List.reverseRecOn with
  | nil => rfl
  | append_singleton digits c ih =>
    rw [Nat.ofDigitChars_append, ← ih, Nat.ofDigitChars_cons, Nat.ofDigitChars_nil, decimalValue,
      List.reverse_append, List.reverse_singleton, List.singleton_append, List.map_cons,
      Nat.ofDigits_cons, Nat.add_comm]
    rfl

/-- The decimal digits of a number denote it. -/
theorem decimalValue_toDigits (n : ℕ) : decimalValue (Nat.toDigits 10 n) = n := by
  rw [decimalValue_eq_ofDigitChars, Nat.ofDigitChars_toDigits (by decide) (by decide)]

theorem isDecimal_toDigits (n : ℕ) : IsDecimal (Nat.toDigits 10 n) :=
  ⟨Nat.toDigits_ne_nil, fun _ hc => Nat.isDigit_of_mem_toDigits (by decide) (by decide) hc⟩
