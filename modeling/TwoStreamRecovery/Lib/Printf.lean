import TwoStreamRecovery.Lib.Numerals

/-!
# Formatted texts (`snprintf`)

* `readFormat`: the pieces of a format, which are characters and conversions.
* `Argument`: an argument with the type it is passed with; `snprintf`: the text that is written.
* `Writes`: pieces of a format write a text from their arguments, whatever follows; its rules.
* **`snprintf_of_writes`**: so the text of a whole format is found piece by piece.
-/

namespace Printf

variable {δ : Type}

/-- `%lu`, `%ld`, `%u`, `%d`, `%s` and `%.nf`, where `long` has 64 bits. -/
inductive Conversion where
  | u64
  | i64
  | u32
  | i32
  | string
  | double (places : ℕ)
  deriving DecidableEq

inductive Piece where
  | char (c : Char)
  | conversion (c : Conversion)
  deriving DecidableEq

/-- An argument; `δ` are the doubles. -/
inductive Argument (δ : Type) where
  | u64 (n : ℕ)
  | i64 (z : ℤ)
  | u32 (n : ℕ)
  | i32 (z : ℤ)
  | string (text : CString)
  | double (x : δ)

/-! ### Formats -/

/-- What stands after the percent sign. -/
def specifications : List (CString × Conversion) :=
  [(['l', 'u'], .u64), (['l', 'd'], .i64), (['u'], .u32), (['d'], .i32), (['s'], .string),
    (['.', '0', 'f'], .double 0), (['.', '3', 'f'], .double 3)]

/-- The pieces of a format; after a percent sign, with what has been read of its conversion. -/
def readFormat : Option CString → CString → Option (List Piece)
  | none, [] => some []
  | some _, [] => none
  | none, c :: rest =>
    if c = '%' then readFormat (some []) rest else (readFormat none rest).map (.char c :: ·)
  | some start, c :: rest =>
    match specifications.lookup (start ++ [c]) with
    | some conversion => (readFormat none rest).map (.conversion conversion :: ·)
    | none => readFormat (some (start ++ [c])) rest

/-! ### Arguments -/

/-- The digits of an integer, with its sign. -/
def intText (z : ℤ) : CString := (if z < 0 then ['-'] else []) ++ Nat.toDigits 10 z.natAbs

/-- What a conversion writes; `none` if the argument has another type. `printDouble` is `%.nf`. -/
def Argument.print (printDouble : ℕ → δ → CString) : Conversion → Argument δ → Option CString
  | .u64, .u64 n => some (Nat.toDigits 10 (n % 2 ^ 64))
  | .i64, .i64 z => some (intText (z.bmod (2 ^ 64)))
  | .u32, .u32 n => some (Nat.toDigits 10 (n % 2 ^ 32))
  | .i32, .i32 z => some (intText (z.bmod (2 ^ 32)))
  | .string, .string text => some text
  | .double places, .double x => some (printDouble places x)
  | _, _ => none

/-- The text of the pieces; `none` if an argument is missing or has another type. -/
def formatPieces (printDouble : ℕ → δ → CString) : List Piece → List (Argument δ) → Option CString
  | [], _ => some []
  | .char c :: pieces, args => (formatPieces printDouble pieces args).map (c :: ·)
  | .conversion _ :: _, [] => none
  | .conversion c :: pieces, a :: args =>
    (a.print printDouble c).bind fun text => (formatPieces printDouble pieces args).map (text ++ ·)

/-- The text that `snprintf` writes into a buffer that is long enough. -/
def snprintf (printDouble : ℕ → δ → CString) (format : CString) (args : List (Argument δ)) :
    Option CString :=
  (readFormat none format).bind fun pieces => formatPieces printDouble pieces args

example : snprintf (fun _ _ => []) "\"n\":[%u,%ld]".toList [.u32 7, .i64 (-12), (.double () : Argument Unit)] =
    some "\"n\":[7,-12]".toList := by decide +kernel

/-! ### Rules -/

variable {printDouble : ℕ → δ → CString} {pieces pieces' : List Piece} {args args' : List (Argument δ)}
  {text text' : CString}

/-- The pieces write the text from the arguments, and leave those that follow. -/
def Writes (printDouble : ℕ → δ → CString) (pieces : List Piece) (args : List (Argument δ))
    (text : CString) : Prop :=
  ∀ later rest, formatPieces printDouble (pieces ++ later) (args ++ rest) =
    (formatPieces printDouble later rest).map (text ++ ·)

theorem Writes.nil : Writes printDouble [] [] [] := by
  intro later rest
  exact Option.map_id'.symm

theorem Writes.append (h : Writes printDouble pieces args text) (h' : Writes printDouble pieces' args' text') :
    Writes printDouble (pieces ++ pieces') (args ++ args') (text ++ text') := by
  intro later rest
  rw [List.append_assoc, List.append_assoc, h, h', Option.map_map]
  simp only [Function.comp_def, List.append_assoc]

theorem Writes.char (c : Char) : Writes printDouble [.char c] [] [c] := fun _ _ => rfl

/-- A character and what follows it. -/
theorem Writes.cons (c : Char) (h : Writes printDouble pieces args text) :
    Writes printDouble (.char c :: pieces) args (c :: text) := (Writes.char c).append h

theorem Writes.literal (text : CString) : Writes printDouble (text.map .char) [] text := by
  induction text with
  | nil => exact .nil
  | cons c rest ih => exact ih.cons c

theorem Writes.conversion {c : Conversion} {a : Argument δ} (h : a.print printDouble c = some text) :
    Writes printDouble [.conversion c] [a] text := by
  intro later rest
  rw [List.singleton_append, List.singleton_append, formatPieces, h, Option.bind_some]

/-- **A format and its arguments**, piece by piece. -/
theorem snprintf_of_writes {format : CString} (hformat : readFormat none format = some pieces)
    (h : Writes printDouble pieces args text) : snprintf printDouble format args = some text := by
  have hwhole := h [] []
  rw [List.append_nil, List.append_nil] at hwhole
  rw [snprintf, hformat, Option.bind_some, hwhole, formatPieces, Option.map_some, List.append_nil]

end Printf
