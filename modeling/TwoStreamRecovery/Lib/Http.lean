import TwoStreamRecovery.Lib.Numerals

/-!
# HTTP messages

* `HttpMessage`: the first line, the header fields and the body; `HttpMessage.encode`: its bytes.
* `HttpMessage.decode`: the message at the start of a list of bytes, and what follows it; the field
  `Content-Length` says where the body ends.
* **`decode_encode`**: a well-formed message is read back.
-/

/-! ### Bytes and characters -/

def byteOf (c : Char) : UInt8 := c.toNat.toUInt8

def charOf (b : UInt8) : Char := Char.ofNat b.toNat

def bytesOf (text : CString) : List UInt8 := text.map byteOf

/-- A character that may stand in a line. -/
def IsLineChar (c : Char) : Prop := c.toNat < 256 ∧ c ≠ '\r'

instance (c : Char) : Decidable (IsLineChar c) := inferInstanceAs (Decidable (_ ∧ _))

theorem charOf_byteOf {c : Char} (hc : IsLineChar c) : charOf (byteOf c) = c := by
  have hbyte : (byteOf c).toNat = c.toNat := Nat.mod_eq_of_lt hc.1
  rw [charOf, hbyte, Char.ofNat_toNat]

theorem byteOf_ne_cr {c : Char} (hc : IsLineChar c) : byteOf c ≠ 13 := by
  intro h
  have hchar := charOf_byteOf hc
  rw [h] at hchar
  exact hc.2 hchar.symm

/-! ### Messages -/

/-- The end of a line. -/
def crlf : List UInt8 := [13, 10]

/-- A message: its first line, its fields by name and value, and its body. -/
structure HttpMessage where
  start : CString
  fields : List (CString × CString)
  body : List UInt8
  deriving DecidableEq

def encodeField (field : CString × CString) : CString := field.1 ++ ([':', ' '] ++ field.2)

def encodeLine (line : CString) : List UInt8 := bytesOf line ++ crlf

/-- The lines before the body, and the empty line that ends them. -/
def HttpMessage.head (m : HttpMessage) : List UInt8 :=
  encodeLine m.start ++ (m.fields.flatMap fun field => encodeLine (encodeField field)) ++ crlf

def HttpMessage.encode (m : HttpMessage) : List UInt8 := m.head ++ m.body

/-- A number in decimal digits. -/
def decimalNumber (text : CString) : Option ℕ :=
  if text ≠ [] ∧ text.all Char.isDigit then some (decimalValue text) else none

/-- The length of the body, as the fields give it. -/
def contentLength (fields : List (CString × CString)) : Option ℕ :=
  (fields.lookup "Content-Length".toList).bind decimalNumber

/-- The lines can be told apart, and the length is that of the body. -/
structure HttpMessage.WellFormed (m : HttpMessage) : Prop where
  start : ∀ c ∈ m.start, IsLineChar c
  fields : ∀ field ∈ m.fields, (∀ c ∈ encodeField field, IsLineChar c) ∧ ':' ∉ field.1
  body : contentLength m.fields = some m.body.length

/-! ### Reading -/

/-- The first line, and what follows it. -/
def readLine : List UInt8 → Option (CString × List UInt8)
  | [] => none
  | b :: rest =>
    if b = 13 ∧ rest.head? = some 10 then some ([], rest.tail)
    else (readLine rest).map fun (line, rest) => (charOf b :: line, rest)

/-- Name and value of a field. -/
def parseField (line : CString) : Option (CString × CString) :=
  let name := line.takeWhile (· ≠ ':')
  if [':', ' '] <+: line.drop name.length then some (name, line.drop (name.length + 2)) else none

/-- The fields up to the empty line, which is one of the first `n`. -/
def readFields : ℕ → List UInt8 → Option (List (CString × CString) × List UInt8)
  | 0, _ => none
  | n + 1, bytes =>
    match readLine bytes with
    | none => none
    | some ([], rest) => some ([], rest)
    | some (line, rest) => do
      let field ← parseField line
      let (fields, rest) ← readFields n rest
      return (field :: fields, rest)

/-- The message at the start, and what follows it. -/
def HttpMessage.decode (bytes : List UInt8) : Option (HttpMessage × List UInt8) := do
  let (start, rest) ← readLine bytes
  let (fields, rest) ← readFields rest.length rest
  let n ← contentLength fields
  if n ≤ rest.length then some (⟨start, fields, rest.take n⟩, rest.drop n) else none

/-! ### Round trip -/

theorem readLine_encodeLine {line : CString} (hline : ∀ c ∈ line, IsLineChar c) (rest : List UInt8) :
    readLine (encodeLine line ++ rest) = some (line, rest) := by
  induction line with
  | nil => rfl
  | cons c line ih =>
    have hc := hline c List.mem_cons_self
    have hencode : encodeLine (c :: line) ++ rest = byteOf c :: (encodeLine line ++ rest) := rfl
    rw [hencode, readLine, if_neg fun h => byteOf_ne_cr hc h.1,
      ih fun c h => hline c (List.mem_cons_of_mem _ h), Option.map_some, charOf_byteOf hc]

theorem parseField_encodeField {field : CString × CString} (hname : ':' ∉ field.1) :
    parseField (encodeField field) = some field := by
  have hcut : (encodeField field).takeWhile (· ≠ ':') = field.1 := by
    rw [encodeField, List.takeWhile_append_of_pos fun c hc => by
      simpa using fun h : c = ':' => hname (h ▸ hc)]
    simp
  have hrest : (encodeField field).drop field.1.length = [':', ' '] ++ field.2 := List.drop_left
  rw [parseField, hcut, hrest, if_pos (List.prefix_append _ _), ← List.drop_drop, hrest]
  rfl

theorem readFields_encode {fields : List (CString × CString)}
    (hfields : ∀ field ∈ fields, (∀ c ∈ encodeField field, IsLineChar c) ∧ ':' ∉ field.1)
    (rest : List UInt8) {n : ℕ} (hn : fields.length < n) :
    readFields n ((fields.flatMap fun field => encodeLine (encodeField field)) ++ (crlf ++ rest)) =
      some (fields, rest) := by
  induction fields generalizing n with
  | nil =>
    obtain ⟨n, rfl⟩ := Nat.exists_eq_succ_of_ne_zero (Nat.ne_of_gt hn)
    rfl
  | cons field fields ih =>
    obtain ⟨n, rfl⟩ := Nat.exists_eq_succ_of_ne_zero (Nat.ne_of_gt ((Nat.zero_le _).trans_lt hn))
    obtain ⟨hline, hname⟩ := hfields field List.mem_cons_self
    have hne : encodeField field ≠ [] := by simp [encodeField]
    rw [List.flatMap_cons, List.append_assoc, readFields, readLine_encodeLine hline]
    obtain ⟨c, line, hcons⟩ := List.exists_cons_of_ne_nil hne
    have hparse := parseField_encodeField hname
    rw [hcons] at hparse ⊢
    simp only [hparse, ih (fun field h => hfields field (List.mem_cons_of_mem _ h))
      (Nat.lt_of_succ_lt_succ hn), Option.bind_eq_bind, Option.bind_some, Option.pure_def]

theorem length_le_encodeFields (fields : List (CString × CString)) :
    fields.length ≤ (fields.flatMap fun field => encodeLine (encodeField field)).length := by
  induction fields with
  | nil => exact le_rfl
  | cons field fields ih =>
    have hline : 0 < (encodeLine (encodeField field)).length := by simp [encodeLine, crlf]
    rw [List.flatMap_cons, List.length_append, List.length_cons]
    omega

/-- **A message is read back**, with what follows it. -/
theorem HttpMessage.decode_encode {m : HttpMessage} (h : m.WellFormed) (rest : List UInt8) :
    HttpMessage.decode (m.encode ++ rest) = some (m, rest) := by
  obtain ⟨start, fields, body⟩ := m
  obtain ⟨hstart, hfields, hbody⟩ := h
  have hsplit : HttpMessage.encode ⟨start, fields, body⟩ ++ rest =
      encodeLine start ++ ((fields.flatMap fun field => encodeLine (encodeField field)) ++
        (crlf ++ (body ++ rest))) := by
    simp only [HttpMessage.encode, HttpMessage.head, List.append_assoc]
  have hlength : fields.length < ((fields.flatMap fun field => encodeLine (encodeField field)) ++
      (crlf ++ (body ++ rest))).length := by
    have hle := length_le_encodeFields fields
    simp only [List.length_append, crlf, List.length_cons, List.length_nil]
    omega
  have hfits : body.length ≤ (body ++ rest).length := by simp
  rw [hsplit, HttpMessage.decode, readLine_encodeLine hstart]
  simp only [Option.bind_eq_bind, Option.bind_some]
  rw [readFields_encode hfields _ hlength]
  simp only [Option.bind_some]
  rw [show contentLength fields = some body.length from hbody, Option.bind_some, if_pos hfits,
    List.take_left, List.drop_left]
