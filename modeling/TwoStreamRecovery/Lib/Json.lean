import TwoStreamRecovery.Lib.Numerals

/-!
# JSON texts

* `Json`: numbers, strings, arrays and objects; `Json.encode`: the text.
* `Json.decode`: a reader for texts without white space, escapes and exponents; what it accepts is JSON.
* **`decode_encode`**: the text of a well-formed value is read back; it is printable.
-/

/-- A value; a number is kept as it is written. -/
inductive Json where
  | num (text : CString)
  | str (text : CString)
  | arr (items : List Json)
  | obj (members : List (CString × Json))

/-! ### Texts -/

def quoted (text : CString) : CString := '"' :: (text ++ ['"'])

mutual

/-- The text of a value. -/
def Json.encode : Json → CString
  | .num text => text
  | .str text => quoted text
  | .arr items => '[' :: (encodeItems items ++ [']'])
  | .obj members => '\x7b' :: (encodeMembers members ++ ['\x7d'])

def encodeItems : List Json → CString
  | [] => []
  | j :: rest => j.encode ++ encodeLaterItems rest

def encodeLaterItems : List Json → CString
  | [] => []
  | j :: rest => ',' :: (j.encode ++ encodeLaterItems rest)

def encodeMembers : List (CString × Json) → CString
  | [] => []
  | (key, j) :: rest => quoted key ++ ':' :: (j.encode ++ encodeLaterMembers rest)

def encodeLaterMembers : List (CString × Json) → CString
  | [] => []
  | (key, j) :: rest => ',' :: (quoted key ++ ':' :: (j.encode ++ encodeLaterMembers rest))

end

/-- A printable character that may stand in a string without an escape. -/
def isStringChar (c : Char) : Bool :=
  decide (c ≠ '"') && decide (c ≠ '\\') && decide (32 ≤ c.toNat ∧ c.toNat < 127)

def isNumberChar (c : Char) : Bool := c.isDigit || decide (c = '-') || decide (c = '.')

/-- A number: an optional sign, digits without a leading zero, and a fraction or none. -/
def isJsonNumber (text : CString) : Bool :=
  let digits := if text.head? = some '-' then text.tail else text
  let whole := digits.takeWhile Char.isDigit
  let fraction := digits.dropWhile Char.isDigit
  !whole.isEmpty && (decide (whole.head? ≠ some '0') || decide (whole = ['0'])) &&
    (fraction.isEmpty ||
      decide (fraction.head? = some '.') && !fraction.tail.isEmpty && fraction.tail.all Char.isDigit)

/-- Numbers and strings are written as they may be. -/
inductive Json.WellFormed : Json → Prop
  | num {text : CString} (h : isJsonNumber text = true) : WellFormed (.num text)
  | str {text : CString} (h : text.all isStringChar = true) : WellFormed (.str text)
  | arr {items : List Json} (h : ∀ j ∈ items, WellFormed j) : WellFormed (.arr items)
  | obj {members : List (CString × Json)} (hkeys : ∀ m ∈ members, m.1.all isStringChar = true)
      (h : ∀ m ∈ members, WellFormed m.2) : WellFormed (.obj members)

/-! ### Reading -/

/-- A string after its first quote, and what follows it. -/
def readString : CString → Option (CString × CString)
  | [] => none
  | c :: rest =>
    if c = '"' then some ([], rest)
    else if isStringChar c then (readString rest).map fun (text, rest) => (c :: text, rest)
    else none

/-- A key and the colon after it. -/
def readKey (text : CString) : Option (CString × CString) :=
  if text.head? = some '"' then
    (readString text.tail).bind fun (key, rest) =>
      if rest.head? = some ':' then some (key, rest.tail) else none
  else none

/-- The longest start that could be a number. -/
def readNumber (text : CString) : Option (Json × CString) :=
  let number := text.takeWhile isNumberChar
  if isJsonNumber number then some (.num number, text.dropWhile isNumberChar) else none

mutual

/-- The value at the start of a text, and what follows it; `n` bounds the depth of the reader. -/
def readValue : ℕ → CString → Option (Json × CString)
  | 0, _ => none
  | n + 1, text =>
    if text.head? = some '"' then (readString text.tail).map fun (s, rest) => (.str s, rest)
    else if text.head? = some '[' then
      if text.tail.head? = some ']' then some (.arr [], text.tail.tail)
      else (readItems n text.tail).map fun (items, rest) => (.arr items, rest)
    else if text.head? = some '\x7b' then
      if text.tail.head? = some '\x7d' then some (.obj [], text.tail.tail)
      else (readMembers n text.tail).map fun (members, rest) => (.obj members, rest)
    else readNumber text

/-- The items up to the bracket. -/
def readItems : ℕ → CString → Option (List Json × CString)
  | 0, _ => none
  | n + 1, text =>
    (readValue n text).bind fun (j, rest) =>
      if rest.head? = some ',' then
        (readItems n rest.tail).map fun (items, rest) => (j :: items, rest)
      else if rest.head? = some ']' then some ([j], rest.tail)
      else none

/-- The members up to the brace. -/
def readMembers : ℕ → CString → Option (List (CString × Json) × CString)
  | 0, _ => none
  | n + 1, text =>
    (readKey text).bind fun (key, rest) =>
      (readValue n rest).bind fun (j, rest) =>
        if rest.head? = some ',' then
          (readMembers n rest.tail).map fun (members, rest) => ((key, j) :: members, rest)
        else if rest.head? = some '\x7d' then some ([(key, j)], rest.tail)
        else none

end

/-- The value that a text is. -/
def Json.decode (text : CString) : Option Json :=
  (readValue (text.length + 1) text).bind fun (j, rest) => if rest = [] then some j else none

/-- The member of an object with a key. -/
def Json.field (key : CString) : Json → Option Json
  | .obj members => members.lookup key
  | _ => none

/-! ### Round trip -/

/-- A number ends before such a text. -/
def EndsNumber (rest : CString) : Prop := ∀ c, rest.head? = some c → isNumberChar c = false

theorem readString_quoted {text : CString} (h : text.all isStringChar = true) (rest : CString) :
    readString (text ++ '"' :: rest) = some (text, rest) := by
  induction text with
  | nil => rfl
  | cons c text ih =>
    rw [List.all_cons, Bool.and_eq_true] at h
    have hc : c ≠ '"' := by
      rintro rfl
      exact absurd h.1 (by decide)
    rw [List.cons_append, readString, if_neg hc, if_pos h.1, ih h.2, Option.map_some]

theorem readKey_quoted {key : CString} (h : key.all isStringChar = true) (rest : CString) :
    readKey (quoted key ++ ':' :: rest) = some (key, rest) := by
  have hquoted : quoted key ++ ':' :: rest = '"' :: (key ++ '"' :: ':' :: rest) := by simp [quoted]
  rw [hquoted, readKey, List.head?_cons, if_pos rfl, List.tail_cons, readString_quoted h]
  rfl

theorem isNumberChar_of_isDigit {c : Char} (h : c.isDigit = true) : isNumberChar c = true := by
  simp [isNumberChar, h]

/-- The characters of a number. -/
theorem isNumberChar_of_number {text : CString} (h : isJsonNumber text = true) :
    ∀ c ∈ text, isNumberChar c = true := by
  have hsign : ∀ c ∈ text, c = '-' ∨ c ∈ if text.head? = some '-' then text.tail else text := by
    intro c hc
    split
    · next hhead =>
      obtain ⟨rest, rfl⟩ := List.head?_eq_some_iff.mp hhead
      exact List.mem_cons.mp hc
    · exact .inr hc
  simp only [isJsonNumber, Bool.and_eq_true, Bool.or_eq_true, decide_eq_true_eq] at h
  obtain ⟨-, hfraction⟩ := h
  intro c hc
  rcases hsign c hc with rfl | hdigits
  · rfl
  generalize (if text.head? = some '-' then text.tail else text) = digits at hfraction hdigits
  rw [← List.takeWhile_append_dropWhile (p := Char.isDigit) (l := digits), List.mem_append] at hdigits
  rcases hdigits with hwhole | hrest
  · exact isNumberChar_of_isDigit (List.mem_takeWhile_imp hwhole)
  · rcases hfraction with hnone | ⟨⟨hdot, -⟩, htail⟩
    · rw [List.isEmpty_iff.mp hnone] at hrest
      cases hrest
    · obtain ⟨tail, htext⟩ := List.head?_eq_some_iff.mp hdot
      rw [htext] at hrest htail
      rcases List.mem_cons.mp hrest with rfl | hmem
      · rfl
      · exact isNumberChar_of_isDigit (List.all_eq_true.mp htail c hmem)

theorem readNumber_append {text rest : CString} (h : isJsonNumber text = true) (hrest : EndsNumber rest) :
    readNumber (text ++ rest) = some (.num text, rest) := by
  have hchars := isNumberChar_of_number h
  have hends : rest.takeWhile isNumberChar = [] ∧ rest.dropWhile isNumberChar = rest := by
    cases rest with
    | nil => exact ⟨rfl, rfl⟩
    | cons c rest => simp [hrest c rfl]
  have htake : (text ++ rest).takeWhile isNumberChar = text := by
    rw [List.takeWhile_append_of_pos hchars, hends.1, List.append_nil]
  have hdrop : (text ++ rest).dropWhile isNumberChar = rest := by
    rw [List.dropWhile_append_of_pos hchars, hends.2]
  rw [readNumber, htake, hdrop, if_pos h]

/-- How a text begins. -/
theorem encode_head {j : Json} (h : j.WellFormed) : ∃ c rest, j.encode = c :: rest ∧
    (c = '"' ∨ c = '[' ∨ c = '\x7b' ∨ isNumberChar c = true) := by
  cases h with
  | @num text h =>
    cases text with
    | nil => cases h
    | cons c rest =>
      exact ⟨c, rest, rfl, .inr (.inr (.inr (isNumberChar_of_number h c List.mem_cons_self)))⟩
  | @str text _ => exact ⟨'"', text ++ ['"'], rfl, .inl rfl⟩
  | @arr items _ => exact ⟨'[', encodeItems items ++ [']'], rfl, .inr (.inl rfl)⟩
  | @obj members _ _ => exact ⟨'\x7b', encodeMembers members ++ ['\x7d'], rfl, .inr (.inr (.inl rfl))⟩

theorem encode_not_close {j : Json} (h : j.WellFormed) (rest : CString) :
    (j.encode ++ rest).head? ≠ some ']' := by
  obtain ⟨c, text, hencode, hc⟩ := encode_head h
  rw [hencode, List.cons_append, List.head?_cons]
  rintro ⟨⟩
  revert hc
  decide

theorem endsNumber_cons {c : Char} (h : isNumberChar c = false) (rest : CString) :
    EndsNumber (c :: rest) := by
  rintro _ ⟨⟩
  exact h

/-- What the reader does with the text of a value. -/
def ReadsBack (j : Json) : Prop :=
  ∀ n rest, j.encode.length < n → EndsNumber rest → readValue n (j.encode ++ rest) = some (j, rest)

theorem readItems_encode {j : Json} {later : List Json} (hj : ReadsBack j) (h : ∀ k ∈ later, ReadsBack k)
    (rest : CString) {n : ℕ} (hn : (encodeItems (j :: later)).length + 1 < n) :
    readItems n (encodeItems (j :: later) ++ ']' :: rest) = some (j :: later, rest) := by
  induction later generalizing j n with
  | nil =>
    obtain ⟨n, rfl⟩ := Nat.exists_eq_succ_of_ne_zero (Nat.ne_zero_of_lt hn)
    rw [encodeItems, encodeLaterItems, List.append_nil] at hn ⊢
    rw [readItems, hj n _ (by omega) (endsNumber_cons (by decide) rest)]
    rfl
  | cons k more ih =>
    obtain ⟨n, rfl⟩ := Nat.exists_eq_succ_of_ne_zero (Nat.ne_zero_of_lt hn)
    have hsplit : encodeItems (j :: k :: more) = j.encode ++ ',' :: encodeItems (k :: more) := by
      simp [encodeItems, encodeLaterItems]
    rw [hsplit, List.length_append, List.length_cons] at hn
    have hlater := ih (h k List.mem_cons_self) (fun k' hk' => h k' (List.mem_cons_of_mem k hk'))
      (n := n) (by omega)
    rw [hsplit, List.append_assoc, List.cons_append, readItems,
      hj n _ (by omega) (endsNumber_cons (by decide) _), Option.bind_some]
    dsimp only
    rw [List.head?_cons, if_pos rfl, List.tail_cons, hlater, Option.map_some]

theorem readMembers_encode {m : CString × Json} {later : List (CString × Json)}
    (hm : m.1.all isStringChar = true ∧ ReadsBack m.2)
    (h : ∀ m' ∈ later, m'.1.all isStringChar = true ∧ ReadsBack m'.2) (rest : CString) {n : ℕ}
    (hn : (encodeMembers (m :: later)).length + 1 < n) :
    readMembers n (encodeMembers (m :: later) ++ '\x7d' :: rest) = some (m :: later, rest) := by
  induction later generalizing m n with
  | nil =>
    obtain ⟨key, j⟩ := m
    obtain ⟨n, rfl⟩ := Nat.exists_eq_succ_of_ne_zero (Nat.ne_zero_of_lt hn)
    rw [encodeMembers, encodeLaterMembers, List.append_nil, List.length_append, List.length_cons] at hn
    rw [encodeMembers, encodeLaterMembers, List.append_nil, List.append_assoc, List.cons_append, readMembers,
      readKey_quoted hm.1, Option.bind_some]
    dsimp only
    rw [hm.2 n _ (by dsimp only; omega) (endsNumber_cons (by decide) rest)]
    rfl
  | cons m' more ih =>
    obtain ⟨key, j⟩ := m
    obtain ⟨n, rfl⟩ := Nat.exists_eq_succ_of_ne_zero (Nat.ne_zero_of_lt hn)
    have hsplit : encodeMembers ((key, j) :: m' :: more) =
        quoted key ++ ':' :: (j.encode ++ ',' :: encodeMembers (m' :: more)) := by
      obtain ⟨key', j'⟩ := m'
      simp [encodeMembers, encodeLaterMembers]
    rw [hsplit] at hn ⊢
    simp only [List.length_append, List.length_cons] at hn
    have hlater := ih (h m' List.mem_cons_self) (fun m'' hm'' => h m'' (List.mem_cons_of_mem m' hm''))
      (n := n) (by omega)
    rw [List.append_assoc, List.cons_append, List.append_assoc, List.cons_append, readMembers,
      readKey_quoted hm.1, Option.bind_some]
    dsimp only
    rw [hm.2 n _ (by dsimp only; omega) (endsNumber_cons (by decide) _), Option.bind_some]
    dsimp only
    rw [List.head?_cons, if_pos rfl, List.tail_cons, hlater, Option.map_some]

/-- **A value is read back**, with what follows it. -/
theorem readsBack_of_wellFormed {j : Json} (h : j.WellFormed) : ReadsBack j := by
  induction h with
  | @num text h =>
    intro n rest hn hrest
    obtain ⟨n, rfl⟩ := Nat.exists_eq_succ_of_ne_zero (Nat.ne_zero_of_lt hn)
    obtain ⟨c, text', hencode, -⟩ := encode_head (.num h)
    have hc : isNumberChar c = true := by
      have hmem : c ∈ text := by
        rw [show text = c :: text' from hencode]
        exact List.mem_cons_self
      exact isNumberChar_of_number h c hmem
    have hother {d : Char} (hd : isNumberChar d = false) : (text ++ rest).head? ≠ some d := by
      rw [show text = c :: text' from hencode, List.cons_append, List.head?_cons]
      rintro ⟨⟩
      exact absurd hc (by simp [hd])
    rw [Json.encode, readValue, if_neg (hother (by decide)), if_neg (hother (by decide)),
      if_neg (hother (by decide)), readNumber_append h hrest]
  | @str text h =>
    intro n rest hn _
    obtain ⟨n, rfl⟩ := Nat.exists_eq_succ_of_ne_zero (Nat.ne_zero_of_lt hn)
    have hquoted : quoted text ++ rest = '"' :: (text ++ '"' :: rest) := by simp [quoted]
    rw [Json.encode, hquoted, readValue, List.head?_cons, if_pos rfl, List.tail_cons, readString_quoted h]
    rfl
  | @arr items h ih =>
    intro n rest hn _
    obtain ⟨n, rfl⟩ := Nat.exists_eq_succ_of_ne_zero (Nat.ne_zero_of_lt hn)
    rw [Json.encode, List.length_cons, List.length_append, List.length_singleton] at hn
    rw [Json.encode, List.cons_append, List.append_assoc, List.singleton_append, readValue, List.head?_cons,
      if_neg (by decide), if_pos rfl, List.tail_cons]
    cases items with
    | nil => rfl
    | cons j later =>
      have hopen : (encodeItems (j :: later) ++ ']' :: rest).head? ≠ some ']' := by
        rw [encodeItems, List.append_assoc]
        exact encode_not_close (h j List.mem_cons_self) _
      have hitems := readItems_encode (ih j List.mem_cons_self)
        (fun k hk => ih k (List.mem_cons_of_mem j hk)) rest (n := n) (by omega)
      rw [if_neg hopen, hitems, Option.map_some]
  | @obj members hkeys h ih =>
    intro n rest hn _
    obtain ⟨n, rfl⟩ := Nat.exists_eq_succ_of_ne_zero (Nat.ne_zero_of_lt hn)
    rw [Json.encode, List.length_cons, List.length_append, List.length_singleton] at hn
    rw [Json.encode, List.cons_append, List.append_assoc, List.singleton_append, readValue, List.head?_cons,
      if_neg (by decide), if_neg (by decide), if_pos rfl, List.tail_cons]
    cases members with
    | nil => rfl
    | cons m later =>
      have hopen : (encodeMembers (m :: later) ++ '\x7d' :: rest).head? ≠ some '\x7d' := by
        obtain ⟨key, j⟩ := m
        rw [encodeMembers, quoted, List.cons_append, List.cons_append, List.head?_cons]
        decide
      have hall : ∀ m' ∈ m :: later, m'.1.all isStringChar = true ∧ ReadsBack m'.2 :=
        fun m' hm' => ⟨hkeys m' hm', ih m' hm'⟩
      have hmembers := readMembers_encode (hall m List.mem_cons_self)
        (fun m' hm' => hall m' (List.mem_cons_of_mem m hm')) rest (n := n) (by omega)
      rw [if_neg hopen, hmembers, Option.map_some]

/-- **The text of a value is read back.** -/
theorem Json.decode_encode {j : Json} (h : j.WellFormed) : Json.decode j.encode = some j := by
  have hread := readsBack_of_wellFormed h (j.encode.length + 1) [] (Nat.lt_succ_self _)
    (by intro c hc; cases hc)
  rw [List.append_nil] at hread
  rw [decode, hread]
  rfl

/-! ### Members -/

/-- A key that stands once is found. -/
theorem Json.field_obj {members : List (CString × Json)} (hnodup : (members.map Prod.fst).Nodup)
    {m : CString × Json} (hm : m ∈ members) : (Json.obj members).field m.1 = some m.2 := by
  rw [field]
  induction members with
  | nil => cases hm
  | cons first rest ih =>
    rw [List.map_cons, List.nodup_cons] at hnodup
    rw [List.lookup_cons]
    rcases List.mem_cons.mp hm with rfl | hrest
    · rw [beq_self_eq_true]
    · have hne : m.1 ≠ first.1 := by
        intro heq
        exact hnodup.1 (heq ▸ List.mem_map_of_mem hrest)
      rw [beq_eq_false_iff_ne.mpr hne]
      exact ih hnodup.2 hrest

/-! ### Characters -/

/-- A printable character. -/
def IsPrintable (c : Char) : Prop := 32 ≤ c.toNat ∧ c.toNat < 127

instance (c : Char) : Decidable (IsPrintable c) := instDecidableAnd

theorem isPrintable_of_isStringChar {c : Char} (h : isStringChar c = true) : IsPrintable c := by
  simp only [isStringChar, Bool.and_eq_true, decide_eq_true_eq] at h
  exact h.2

theorem isPrintable_of_isNumberChar {c : Char} (h : isNumberChar c = true) : IsPrintable c := by
  simp only [isNumberChar, Bool.or_eq_true, decide_eq_true_eq] at h
  rcases h with (hdigit | rfl) | rfl
  · simp only [Char.isDigit, Bool.and_eq_true, decide_eq_true_eq] at hdigit
    have hlow : (48 : ℕ) ≤ c.toNat := hdigit.1
    have hhigh : c.toNat ≤ 57 := hdigit.2
    exact ⟨by omega, by omega⟩
  · decide
  · decide

theorem isPrintable_quoted {text : CString} (h : text.all isStringChar = true) :
    ∀ c ∈ quoted text, IsPrintable c := by
  intro c hc
  rw [quoted, List.mem_cons, List.mem_append, List.mem_singleton] at hc
  rcases hc with rfl | hc | rfl
  · decide
  · exact isPrintable_of_isStringChar (List.all_eq_true.mp h c hc)
  · decide

theorem isPrintable_encodeLaterItems {items : List Json}
    (h : ∀ j ∈ items, ∀ c ∈ j.encode, IsPrintable c) :
    ∀ c ∈ encodeLaterItems items, IsPrintable c := by
  induction items with
  | nil =>
    intro c hc
    cases hc
  | cons j rest ih =>
    intro c hc
    rw [encodeLaterItems, List.mem_cons, List.mem_append] at hc
    rcases hc with rfl | hc | hc
    · decide
    · exact h j List.mem_cons_self c hc
    · exact ih (fun k hk => h k (List.mem_cons_of_mem j hk)) c hc

theorem isPrintable_encodeLaterMembers {members : List (CString × Json)}
    (hkeys : ∀ m ∈ members, m.1.all isStringChar = true)
    (h : ∀ m ∈ members, ∀ c ∈ m.2.encode, IsPrintable c) :
    ∀ c ∈ encodeLaterMembers members, IsPrintable c := by
  induction members with
  | nil =>
    intro c hc
    cases hc
  | cons m rest ih =>
    intro c hc
    obtain ⟨key, j⟩ := m
    rw [encodeLaterMembers, List.mem_cons, List.mem_append, List.mem_cons, List.mem_append] at hc
    rcases hc with rfl | hc | rfl | hc | hc
    · decide
    · exact isPrintable_quoted (hkeys (key, j) List.mem_cons_self) c hc
    · decide
    · exact h (key, j) List.mem_cons_self c hc
    · exact ih (fun m hm => hkeys m (List.mem_cons_of_mem _ hm))
        (fun m hm => h m (List.mem_cons_of_mem _ hm)) c hc

/-- The text of a well-formed value is printable. -/
theorem isPrintable_encode {j : Json} (h : j.WellFormed) : ∀ c ∈ j.encode, IsPrintable c := by
  induction h with
  | @num text h => exact fun c hc => isPrintable_of_isNumberChar (isNumberChar_of_number h c hc)
  | @str text h => exact isPrintable_quoted h
  | @arr items _ ih =>
    intro c hc
    rw [Json.encode, List.mem_cons, List.mem_append, List.mem_singleton] at hc
    rcases hc with rfl | hc | rfl
    · decide
    · refine isPrintable_encodeLaterItems ih c ?_
      cases items with
      | nil => exact hc
      | cons j rest => exact List.mem_cons_of_mem ',' hc
    · decide
  | @obj members hkeys _ ih =>
    intro c hc
    rw [Json.encode, List.mem_cons, List.mem_append, List.mem_singleton] at hc
    rcases hc with rfl | hc | rfl
    · decide
    · refine isPrintable_encodeLaterMembers hkeys ih c ?_
      cases members with
      | nil => exact hc
      | cons m rest => exact List.mem_cons_of_mem ',' hc
    · decide

/-! ### Integers -/

def Json.ofNat (n : ℕ) : Json := .num (Nat.toDigits 10 n)

def Json.ofInt (z : ℤ) : Json := .num ((if z < 0 then ['-'] else []) ++ Nat.toDigits 10 z.natAbs)

theorem head_toDigits {n : ℕ} (hn : n ≠ 0) : (Nat.toDigits 10 n).head? ≠ some '0' := by
  induction n using Nat.strong_induction_on with
  | _ n ih =>
    by_cases hlt : n < 10
    · have hdigit : ∀ n < 10, n ≠ 0 → [Nat.digitChar n].head? ≠ some '0' := by decide
      rw [Nat.toDigits_of_lt_base hlt]
      exact hdigit n hlt hn
    · have hfirst := ih (n / 10) (by omega) (by omega)
      obtain ⟨c, rest, hcons⟩ := List.exists_cons_of_ne_nil (Nat.toDigits_ne_nil (n := n / 10) (b := 10))
      rw [Nat.toDigits_of_base_le (by decide) (Nat.not_lt.mp hlt), hcons]
      rwa [hcons] at hfirst

theorem isJsonNumber_of_digits {digits : CString} (hdigits : ∀ c ∈ digits, c.isDigit = true)
    (hne : digits ≠ []) (hzero : digits.head? ≠ some '0' ∨ digits = ['0']) (negative : Bool) :
    isJsonNumber ((if negative then ['-'] else []) ++ digits) = true := by
  have hsign : (if ((if negative then ['-'] else []) ++ digits).head? = some '-' then
      ((if negative then ['-'] else []) ++ digits).tail
        else (if negative then ['-'] else []) ++ digits) = digits := by
    cases negative with
    | true => rfl
    | false =>
      obtain ⟨c, rest, rfl⟩ := List.exists_cons_of_ne_nil hne
      have hc : c ≠ '-' := by
        rintro rfl
        exact absurd (hdigits '-' List.mem_cons_self) (by decide)
      simp [hc]
  have hwhole : digits.takeWhile Char.isDigit = digits := List.takeWhile_eq_self_iff.mpr hdigits
  have hfraction : digits.dropWhile Char.isDigit = [] := List.dropWhile_eq_nil_iff.mpr hdigits
  rw [isJsonNumber]
  simp only [hsign, hwhole, hfraction]
  simp only [List.isEmpty_nil, Bool.true_or, Bool.and_true, Bool.and_eq_true, Bool.not_eq_true',
    List.isEmpty_eq_false_iff, Bool.or_eq_true, decide_eq_true_eq]
  exact ⟨hne, hzero⟩

theorem isJsonNumber_toDigits (negative : Bool) (n : ℕ) :
    isJsonNumber ((if negative then ['-'] else []) ++ Nat.toDigits 10 n) = true := by
  refine isJsonNumber_of_digits (fun c hc => Nat.isDigit_of_mem_toDigits (by decide) le_rfl hc)
    Nat.toDigits_ne_nil ?_ negative
  by_cases hn : n = 0
  · rw [hn]
    exact .inr rfl
  · exact .inl (head_toDigits hn)

theorem wellFormed_ofNat (n : ℕ) : (Json.ofNat n).WellFormed := .num (isJsonNumber_toDigits false n)

theorem wellFormed_ofInt (z : ℤ) : (Json.ofInt z).WellFormed := by
  have hnumber := isJsonNumber_toDigits (decide (z < 0)) z.natAbs
  simp only [decide_eq_true_eq] at hnumber
  exact .num hnumber
