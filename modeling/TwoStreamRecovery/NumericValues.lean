import TwoStreamRecovery.CommandLine

/-!
# Numbers on the command line

* `NumericOption.name`, `unit`, `inRange`: the name, the stored unit and the values of an option.
* `parseNumericOption_eq_ok`, `udpParseUrl_eq_some`: which values are accepted, and what is stored;
  `commandLineParseFrom_numeric`: how the command line goes on.
* **`numeric_values_iff`**: exactly the decimal numbers of the range are accepted, except that a
  numeral with a sign or white space before it is accepted if its conversion is in the range.
-/

namespace TwoStream

/-- The name of a numeric option. -/
def NumericOption.name : NumericOption → String
  | .httpPort => "--http-port"
  | .primaryDelayMs => "--primary-delay-ms"
  | .maxSecondaryLatencyMs => "--max-secondary-latency-ms"
  | .alignmentWindowMs => "--alignment-window-ms"
  | .historyMs => "--history-ms"
  | .primaryOutageMs => "--primary-outage-ms"
  | .primaryReturnMs => "--primary-return-ms"
  | .maxContentBurstPackets => "--max-content-burst-packets"
  | .minAlignmentConfidence => "--min-alignment-confidence"

/-- What one of the units of an option's value is stored as. -/
def NumericOption.unit (option : NumericOption) : ℕ :=
  match option.target with
  | .ms => 1000000
  | _ => 1

/-- The values of an option. -/
def NumericOption.inRange (option : NumericOption) (n : ℕ) : Prop :=
  match option with
  | .httpPort => 0 < n ∧ n ≤ 65535
  | .historyMs => n < 2 ^ 64
  | .maxContentBurstPackets => n ≤ 255
  | .minAlignmentConfidence => n ≤ 100
  | _ => n * 1000000 < 2 ^ 64

variable {option : NumericOption} {options options' : CommandLineOptions} {name value : CString}
  {n : ℕ}

theorem NumericOption.inRange_lt (h : option.inRange n) : n < 2 ^ 64 := by
  cases option <;> simp only [NumericOption.inRange] at h <;> omega

theorem ofName_name (option : NumericOption) :
    CommandLineOption.ofName option.name.toList = some (.numeric option) := by
  simp only [CommandLineOption.ofName, String.toList_inj]
  cases option <;> simp only [NumericOption.name, String.reduceEq, reduceIte]

/-! ### Values -/

theorem ite_error_eq_ok {ε α : Type} {c : Prop} [Decidable c] {e : ε} {a b : α} :
    (if c then Except.error e else .ok a) = .ok b ↔ ¬ c ∧ b = a := by
  split
  · next h => exact ⟨nofun, fun h' => absurd h h'.1⟩
  · next h =>
    rw [Except.ok.injEq]
    exact ⟨fun heq => ⟨h, heq.symm⟩, fun h' => h'.2.symm⟩

theorem except_map_eq_ok {ε α β : Type} (f : α → β) (x : Except ε α) (b : β) :
    x.map f = .ok b ↔ ∃ a, x = .ok a ∧ b = f a := by
  cases x <;> simp [Except.map, eq_comm]

theorem parseU64MsOption_eq_ok :
    parseU64MsOption name value = .ok n ↔
      (strtoull value).isComplete value = true ∧ (strtoull value).value * 1000000 < 2 ^ 64 ∧
        n = (strtoull value).value * 1000000 := by
  have hfits : ¬ (2 ^ 64 - 1) / 1000000 < (strtoull value).value ↔
      (strtoull value).value * 1000000 < 2 ^ 64 := by
    omega
  rw [parseU64MsOption, ite_error_eq_ok, not_or, Bool.not_eq_false, and_assoc, hfits]
  refine and_congr_right fun _ => and_congr_right fun hlt => ?_
  rw [Nat.mod_eq_of_lt hlt]

theorem parseU64Option_eq_ok :
    parseU64Option name value = .ok n ↔
      (strtoull value).isComplete value = true ∧ n = (strtoull value).value := by
  rw [parseU64Option, ite_error_eq_ok, Bool.not_eq_false]

theorem parseU32Option_eq_ok {maxValue : ℕ} (hmax : maxValue < 2 ^ 32) :
    parseU32Option name value maxValue = .ok n ↔
      (strtoull value).isComplete value = true ∧ (strtoull value).value ≤ maxValue ∧
        n = (strtoull value).value := by
  rw [parseU32Option]
  split
  · next errors heq =>
    refine ⟨nofun, fun ⟨hcomplete, _, _⟩ => ?_⟩
    rw [parseU64Option_eq_ok.mpr ⟨hcomplete, rfl⟩] at heq
    cases heq
  · next parsed heq =>
    obtain ⟨hcomplete, rfl⟩ := parseU64Option_eq_ok.mp heq
    rw [ite_error_eq_ok, Nat.not_lt, and_iff_right hcomplete]
    refine and_congr_right fun hle => ?_
    rw [Nat.mod_eq_of_lt (Nat.lt_of_le_of_lt hle hmax)]

/-- A number below a bound is stored as it is; a port only if it is not zero. -/
theorem parseNumericOption_bounded (option : NumericOption) {maxValue : ℕ}
    (htarget : option.target = .u32 maxValue) (hmax : maxValue < 2 ^ 32)
    (hport : option = .httpPort → maxValue < 2 ^ 16) :
    parseNumericOption option name value options = .ok options' ↔
      (strtoull value).isComplete value = true ∧
        ((option = .httpPort → (strtoull value).value ≠ 0) ∧ (strtoull value).value ≤ maxValue) ∧
        options' = option.store (strtoull value).value options := by
  simp only [parseNumericOption, htarget]
  split
  · next errors heq =>
    refine ⟨nofun, fun ⟨hcomplete, hin, _⟩ => ?_⟩
    rw [(parseU32Option_eq_ok hmax).mpr ⟨hcomplete, hin.2, rfl⟩] at heq
    cases heq
  · next parsed heq =>
    obtain ⟨hcomplete, hle, rfl⟩ := (parseU32Option_eq_ok hmax).mp heq
    rw [and_iff_right hcomplete, and_iff_left hle]
    by_cases hhttp : option = .httpPort
    · have hlt := Nat.lt_of_le_of_lt hle (hport hhttp)
      rw [if_pos hhttp, ite_error_eq_ok, Nat.mod_eq_of_lt hlt]
      exact and_congr_left fun _ => ⟨fun h _ => h, fun h => h hhttp⟩
    · rw [if_neg hhttp, Except.ok.injEq, and_iff_right fun h => absurd h hhttp]
      exact eq_comm

/-- Milliseconds are stored as nanoseconds. -/
theorem parseNumericOption_ms (htarget : option.target = .ms) :
    parseNumericOption option name value options = .ok options' ↔
      (strtoull value).isComplete value = true ∧ (strtoull value).value * 1000000 < 2 ^ 64 ∧
        options' = option.store ((strtoull value).value * 1000000) options := by
  simp only [parseNumericOption, htarget, except_map_eq_ok, parseU64MsOption_eq_ok]
  constructor
  · rintro ⟨n, ⟨hcomplete, hfits, rfl⟩, rfl⟩
    exact ⟨hcomplete, hfits, rfl⟩
  · rintro ⟨hcomplete, hfits, rfl⟩
    exact ⟨_, ⟨hcomplete, hfits, rfl⟩, rfl⟩

theorem parseNumericOption_historyMs :
    parseNumericOption .historyMs name value options = .ok options' ↔
      (strtoull value).isComplete value = true ∧
        options' = NumericOption.historyMs.store (strtoull value).value options := by
  simp only [parseNumericOption, NumericOption.target, except_map_eq_ok, parseU64Option_eq_ok]
  constructor
  · rintro ⟨n, ⟨hcomplete, rfl⟩, rfl⟩
    exact ⟨hcomplete, rfl⟩
  · rintro ⟨hcomplete, rfl⟩
    exact ⟨_, ⟨hcomplete, rfl⟩, rfl⟩

/-- **The value of an option** is converted, compared with its range and stored in its unit. -/
theorem parseNumericOption_eq_ok :
    parseNumericOption option name value options = .ok options' ↔
      (strtoull value).isComplete value = true ∧ option.inRange (strtoull value).value ∧
        options' = option.store ((strtoull value).value * option.unit) options := by
  have hbounded : ∀ maxValue, option.target = .u32 maxValue → option.unit = 1 := by
    intro maxValue htarget
    rw [NumericOption.unit, htarget]
  cases option with
  | httpPort =>
    rw [parseNumericOption_bounded _ rfl (by decide) (fun _ => by decide), hbounded 65535 rfl,
      Nat.mul_one, forall_prop_of_true rfl, ← Nat.pos_iff_ne_zero]
    rfl
  | historyMs =>
    rw [parseNumericOption_historyMs, show NumericOption.historyMs.unit = 1 from rfl, Nat.mul_one]
    exact and_congr_right fun _ => (and_iff_right (strtoull_value_lt value)).symm
  | maxContentBurstPackets =>
    have hport : NumericOption.maxContentBurstPackets = .httpPort → (strtoull value).value ≠ 0 := nofun
    rw [parseNumericOption_bounded .maxContentBurstPackets rfl (by decide) nofun, hbounded 255 rfl,
      Nat.mul_one, and_iff_right hport]
    rfl
  | minAlignmentConfidence =>
    have hport : NumericOption.minAlignmentConfidence = .httpPort → (strtoull value).value ≠ 0 := nofun
    rw [parseNumericOption_bounded .minAlignmentConfidence rfl (by decide) nofun, hbounded 100 rfl,
      Nat.mul_one, and_iff_right hport]
    rfl
  | _ => exact parseNumericOption_ms rfl

/-- The step of the command line for a numeric option. -/
theorem commandLineOption_eq_ok (hport : option = .httpPort → options.httpPort = 0) :
    commandLineOption options option.name.toList (some value) = .ok (options', true) ↔
      (strtoull value).isComplete value = true ∧ option.inRange (strtoull value).value ∧
        options' = option.store ((strtoull value).value * option.unit) options := by
  have hfresh : ¬ (option = .httpPort ∧ options.httpPort ≠ 0) := fun h => h.2 (hport h.1)
  have hparsed : parseNumericOption option option.name.toList value options = .ok options' ↔ _ :=
    parseNumericOption_eq_ok
  rw [← hparsed]
  simp only [commandLineOption, ofName_name, if_neg hfresh]
  split
  · next errors heq => simp [heq]
  · next parsed heq => simp [heq]

/-- **A command line** with a numeric option goes on with the stored value, or fails. -/
theorem commandLineParseFrom_numeric (hport : option = .httpPort → options.httpPort = 0)
    (rest : List CString) :
    commandLineParseFrom options (option.name.toList :: value :: rest) = .ok options' ↔
      (strtoull value).isComplete value = true ∧ option.inRange (strtoull value).value ∧
        commandLineParseFrom (option.store ((strtoull value).value * option.unit) options) rest =
          .ok options' := by
  have hconsumes : ∀ parsed, commandLineOption options option.name.toList (some value) ≠
      .ok (parsed, false) := by
    intro parsed hstep
    have hfresh : ¬ (option = .httpPort ∧ options.httpPort ≠ 0) := fun h => h.2 (hport h.1)
    simp only [commandLineOption, ofName_name, if_neg hfresh] at hstep
    split at hstep <;> cases hstep
  rw [commandLineParseFrom, List.head?_cons, List.tail_cons]
  cases hstep : commandLineOption options option.name.toList (some value) with
  | error stop =>
    constructor
    · intro h
      cases h
    · rintro ⟨hcomplete, hin, -⟩
      rw [(commandLineOption_eq_ok hport).mpr ⟨hcomplete, hin, rfl⟩] at hstep
      cases hstep
  | ok result =>
    obtain ⟨parsed, consumed⟩ := result
    cases consumed with
    | false => exact absurd hstep (hconsumes parsed)
    | true =>
      obtain ⟨hcomplete, hin, rfl⟩ := (commandLineOption_eq_ok hport).mp hstep
      exact ⟨fun h => ⟨hcomplete, hin, h⟩, fun h => h.2.2⟩

/-! ### URLs -/

theorem strrchr_append (host port : CString) {c : Char} (hport : c ∉ port) :
    strrchr (host ++ c :: port) c = some host.length := by
  have hnone : port.reverse.findIdx? (· == c) = none := by
    rw [List.findIdx?_eq_none_iff]
    intro x hx
    rw [beq_eq_false_iff_ne]
    rintro rfl
    exact hport (List.mem_reverse.mp hx)
  rw [strrchr, List.reverse_append, List.reverse_cons, List.append_assoc, List.findIdx?_append, hnone]
  simp [List.findIdx?_cons]

/-- **The port of a URL** is converted and compared with its range. -/
theorem udpParseUrl_eq_some {url host port : CString} {hostSize : ℕ} {result : CString × ℕ}
    (hurl : udpAddress url = host ++ ':' :: port) (hport : ':' ∉ port) (hhost : host ≠ [])
    (hsize : host.length < hostSize) :
    udpParseUrl url hostSize = some result ↔
      (strtoull port).isComplete port = true ∧ (strtoull port).value ≤ 65535 ∧
        result = (host, (strtoull port).value) := by
  have hpos := List.length_pos_iff.mpr hhost
  have hdrop : (host ++ ':' :: port).drop (host.length + 1) = port := by simp
  simp only [udpParseUrl, hurl, strrchr_append host port hport, hdrop, strtoul, List.take_left]
  rw [Option.ite_none_left_eq_some, if_neg (Nat.not_le.mpr hsize), Option.ite_none_left_eq_some, not_or,
    not_or, Bool.not_eq_false, Nat.not_lt, Option.some.injEq]
  constructor
  · rintro ⟨-, ⟨hcomplete, hle⟩, rfl⟩
    rw [Nat.mod_eq_of_lt (Nat.lt_of_le_of_lt hle (by decide))]
    exact ⟨hcomplete, hle, rfl⟩
  · rintro ⟨hcomplete, hle, rfl⟩
    have hne : host.length + 1 ≠ (host ++ ':' :: port).length := by
      rw [List.length_append, List.length_cons]
      intro hempty
      rw [List.eq_nil_of_length_eq_zero (show port.length = 0 by omega)] at hcomplete
      exact absurd hcomplete (by decide)
    rw [Nat.mod_eq_of_lt (Nat.lt_of_le_of_lt hle (by decide))]
    exact ⟨⟨Nat.ne_of_gt hpos, hne⟩, ⟨hcomplete, hle⟩, rfl⟩

/-- **Numbers on the command line.** Whether it is the value of a numeric option or the port of a URL,
a text is accepted if and only if it is a decimal number in the range, and then stored in the unit of
the option, unless it is a numeral behind white space or a sign whose conversion is in the range. -/
theorem numeric_values_iff (text : CString) :
    (∀ (option : NumericOption) (options : CommandLineOptions),
      (option = .httpPort → options.httpPort = 0) →
      ((∀ options', commandLineOption options option.name.toList (some text) = .ok (options', true) ↔
          IsDecimal text ∧ option.inRange (decimalValue text) ∧
            options' = option.store (decimalValue text * option.unit) options) ↔
        ¬ IsPaddedNumeral option.inRange text)) ∧
    ∀ (url host : CString) (hostSize : ℕ), udpAddress url = host ++ ':' :: text → ':' ∉ text →
      host ≠ [] → host.length < hostSize → ∀ parse ∈ [inputUdpParseUrl, outputUdpParseUrl],
      ((∀ result, parse url hostSize = some result ↔
          IsDecimal text ∧ decimalValue text ≤ 65535 ∧ result = (host, decimalValue text)) ↔
        ¬ IsPaddedNumeral (· ≤ 65535) text) := by
  constructor
  · intro option options hport
    exact accepts_iff option.inRange (fun n => option.store (n * option.unit) options)
      (fun n hn => NumericOption.inRange_lt hn) fun options' => commandLineOption_eq_ok hport
  · intro url host hostSize hurl hport hhost hsize parse hparse
    have hsame : parse = udpParseUrl := by
      simp only [List.mem_cons, List.not_mem_nil, or_false] at hparse
      obtain rfl | rfl := hparse <;> rfl
    rw [hsame]
    exact accepts_iff (· ≤ 65535) (fun n => (host, n)) (fun n hn => Nat.lt_of_le_of_lt hn (by decide))
      fun result => udpParseUrl_eq_some hurl hport hhost hsize

/-- The port of the web page and of an input. -/
theorem numeric_values_iff_ports :
    commandLineOption commandLineDefaults NumericOption.httpPort.name.toList (some ['8', '0']) =
        .ok ({ commandLineDefaults with httpPort := 80 }, true) ∧
      inputUdpParseUrl ['h', ':', '8', '0'] 128 = some (['h'], 80) := by
  have hdecimal : IsDecimal ['8', '0'] := ⟨List.cons_ne_nil _ _, List.all_eq_true.mp rfl⟩
  obtain ⟨hoptions, hurls⟩ := numeric_values_iff ['8', '0']
  have hoption := (hoptions .httpPort commandLineDefaults fun _ => rfl).mpr
    hdecimal.not_isPaddedNumeral
  have hurl := (hurls ['h', ':', '8', '0'] ['h'] 128 rfl (by decide) (by decide) (by decide)
    inputUdpParseUrl List.mem_cons_self).mpr hdecimal.not_isPaddedNumeral
  exact ⟨(hoption _).mpr ⟨hdecimal, ⟨by decide, by decide⟩, rfl⟩,
    (hurl _).mpr ⟨hdecimal, by decide, rfl⟩⟩

/-- `-18446744073709551615`, which is converted to 1. -/
def negativeValue : CString :=
  ['-', '1', '8', '4', '4', '6', '7', '4', '4', '0', '7', '3', '7', '0', '9', '5', '5', '1', '6', '1', '5']

/-- A negative number is accepted as the minimum alignment confidence. -/
theorem negative_confidence_accepted :
    ¬ ∀ (option : NumericOption) (options : CommandLineOptions) (value : CString),
      (option = .httpPort → options.httpPort = 0) →
      ∀ options', commandLineOption options option.name.toList (some value) = .ok (options', true) ↔
        IsDecimal value ∧ option.inRange (decimalValue value) ∧
          options' = option.store (decimalValue value * option.unit) options := by
  intro h
  have hconverted : (strtoull negativeValue).isComplete negativeValue = true ∧
      (strtoull negativeValue).value = 1 := by
    decide +kernel
  have hport : NumericOption.minAlignmentConfidence = .httpPort →
      commandLineDefaults.httpPort = 0 := nofun
  have hrange : NumericOption.minAlignmentConfidence.inRange (strtoull negativeValue).value := by
    rw [hconverted.2]
    show 1 ≤ 100
    decide
  have haccepted := (commandLineOption_eq_ok hport).mpr ⟨hconverted.1, hrange, rfl⟩
  obtain ⟨⟨-, hdigits⟩, -⟩ := (h _ _ _ hport _).mp haccepted
  exact absurd (hdigits '-' List.mem_cons_self) (by decide)

end TwoStream
