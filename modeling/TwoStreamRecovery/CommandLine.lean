import TwoStreamRecovery.Engine.Data
import TwoStreamRecovery.Lib.Numerals

/-!
# The command line (`command_line.c`, `input_udp_parse_url`, `output_udp_parse_url`)

* `parseU64MsOption`, `parseU64Option`, `parseU32Option`: the values of numeric options.
* `CommandLineOption`: the options by name; `commandLineOption`: one of them with its value.
* `commandLineParse`: the loop over the arguments.
* `udpParseUrl`: host and port of a UDP URL.
-/

namespace TwoStream

/-! ### Values -/

/-- What is printed about an argument. -/
inductive CommandLineError where
  | millisecond (name value : CString)
  | integer (name value : CString)
  | boundedInteger (name value : CString)
  | tcpPort (name value : CString)
  | duplicateOption (name : CString)
  | unknownOption (name : CString)
  | missingValue (name : CString)
  | inputUrlsRequired
  deriving DecidableEq

/-- `parse_u64_ms_option`. -/
def parseU64MsOption (name value : CString) : Except (List CommandLineError) ℕ :=
  let parsed := strtoull value
  if parsed.isComplete value = false ∨ (2 ^ 64 - 1) / 1000000 < parsed.value then
    .error [.millisecond name value]
  else .ok (parsed.value * 1000000 % 2 ^ 64)

/-- `parse_u64_option`. -/
def parseU64Option (name value : CString) : Except (List CommandLineError) ℕ :=
  let parsed := strtoull value
  if parsed.isComplete value = false then .error [.integer name value] else .ok parsed.value

/-- `parse_u32_option`. -/
def parseU32Option (name value : CString) (maxValue : ℕ) : Except (List CommandLineError) ℕ :=
  match parseU64Option name value with
  | .error errors => .error (errors ++ [.boundedInteger name value])
  | .ok parsed =>
    if maxValue < parsed then .error [.boundedInteger name value] else .ok (parsed % 2 ^ 32)

/-! ### Options -/

/-- `command_line_options_t`. -/
structure CommandLineOptions where
  inputPrimaryUrl : Option CString
  inputSecondaryUrl : Option CString
  inputPrimaryInterface : Option CString
  inputSecondaryInterface : Option CString
  outputUrl : CString
  httpPort : ℕ
  consoleReport : Bool
  recoveryConfig : RecoveryEngineConfig
  maxSecondaryLatencyNs : ℕ

/-- The options before the first argument. -/
def commandLineDefaults : CommandLineOptions where
  inputPrimaryUrl := none
  inputSecondaryUrl := none
  inputPrimaryInterface := none
  inputSecondaryInterface := none
  outputUrl := "udp://127.0.0.1:4500".toList
  httpPort := 0
  consoleReport := false
  recoveryConfig := recoveryEngineDefaultConfig
  maxSecondaryLatencyNs := 5000000000

/-- The options with a text as value. -/
inductive TextOption where
  | inputPrimaryUrl
  | inputSecondaryUrl
  | inputPrimaryInterface
  | inputSecondaryInterface
  | outputUrl
  deriving DecidableEq

/-- The options with a number as value. -/
inductive NumericOption where
  | httpPort
  | primaryDelayMs
  | maxSecondaryLatencyMs
  | alignmentWindowMs
  | historyMs
  | primaryOutageMs
  | primaryReturnMs
  | maxContentBurstPackets
  | minAlignmentConfidence
  deriving DecidableEq

/-- The options of the command line. -/
inductive CommandLineOption where
  | text (option : TextOption)
  | numeric (option : NumericOption)
  | consoleReport
  | help
  deriving DecidableEq

/-- The option of a name. -/
def CommandLineOption.ofName (name : CString) : Option CommandLineOption :=
  if name = "--input-primary-url".toList then some (.text .inputPrimaryUrl)
  else if name = "--input-secondary-url".toList then some (.text .inputSecondaryUrl)
  else if name = "--input-primary-interface".toList then some (.text .inputPrimaryInterface)
  else if name = "--input-secondary-interface".toList then some (.text .inputSecondaryInterface)
  else if name = "--output-url".toList then some (.text .outputUrl)
  else if name = "--http-port".toList then some (.numeric .httpPort)
  else if name = "--console-report".toList then some .consoleReport
  else if name = "--primary-delay-ms".toList then some (.numeric .primaryDelayMs)
  else if name = "--max-secondary-latency-ms".toList then some (.numeric .maxSecondaryLatencyMs)
  else if name = "--alignment-window-ms".toList then some (.numeric .alignmentWindowMs)
  else if name = "--history-ms".toList then some (.numeric .historyMs)
  else if name = "--primary-outage-ms".toList then some (.numeric .primaryOutageMs)
  else if name = "--primary-return-ms".toList then some (.numeric .primaryReturnMs)
  else if name = "--max-content-burst-packets".toList then some (.numeric .maxContentBurstPackets)
  else if name = "--min-alignment-confidence".toList then some (.numeric .minAlignmentConfidence)
  else if name = "--help".toList ∨ name = "-h".toList then some .help
  else none

/-- The text an option has been given before. -/
def TextOption.given (options : CommandLineOptions) : TextOption → Option CString
  | .inputPrimaryUrl => options.inputPrimaryUrl
  | .inputSecondaryUrl => options.inputSecondaryUrl
  | .inputPrimaryInterface => options.inputPrimaryInterface
  | .inputSecondaryInterface => options.inputSecondaryInterface
  | .outputUrl => none

/-- `*target = value`. -/
def TextOption.store (value : CString) (options : CommandLineOptions) :
    TextOption → CommandLineOptions
  | .inputPrimaryUrl => { options with inputPrimaryUrl := some value }
  | .inputSecondaryUrl => { options with inputSecondaryUrl := some value }
  | .inputPrimaryInterface => { options with inputPrimaryInterface := some value }
  | .inputSecondaryInterface => { options with inputSecondaryInterface := some value }
  | .outputUrl => { options with outputUrl := value }

/-- The assignment to the field of a numeric option. -/
def NumericOption.store (n : ℕ) (options : CommandLineOptions) : NumericOption → CommandLineOptions
  | .httpPort => { options with httpPort := n }
  | .primaryDelayMs =>
    { options with recoveryConfig := { options.recoveryConfig with primaryDelayNs := n } }
  | .maxSecondaryLatencyMs => { options with maxSecondaryLatencyNs := n }
  | .alignmentWindowMs =>
    { options with recoveryConfig := { options.recoveryConfig with alignmentWindowNs := n } }
  | .historyMs => { options with recoveryConfig := { options.recoveryConfig with historyMs := n } }
  | .primaryOutageMs =>
    { options with recoveryConfig := { options.recoveryConfig with primaryOutageNs := n } }
  | .primaryReturnMs =>
    { options with recoveryConfig := { options.recoveryConfig with primaryReturnNs := n } }
  | .maxContentBurstPackets =>
    { options with recoveryConfig := { options.recoveryConfig with maxContentBurstPackets := n } }
  | .minAlignmentConfidence =>
    { options with recoveryConfig := { options.recoveryConfig with minAlignmentConfidence := n } }

/-- Which of `ms_target_ns`, `u64_target` and `u32_target` is set for an option. -/
inductive NumericTarget where
  | ms
  | u64
  | u32 (maxValue : ℕ)

/-- The target of an option, with `u32_max`. -/
def NumericOption.target : NumericOption → NumericTarget
  | .httpPort => .u32 65535
  | .historyMs => .u64
  | .maxContentBurstPackets => .u32 255
  | .minAlignmentConfidence => .u32 100
  | _ => .ms

/-- The value of a numeric option. -/
def parseNumericOption (option : NumericOption) (name value : CString)
    (options : CommandLineOptions) : Except (List CommandLineError) CommandLineOptions :=
  match option.target with
  | .ms => (parseU64MsOption name value).map fun ns => option.store ns options
  | .u64 => (parseU64Option name value).map fun n => option.store n options
  | .u32 maxValue =>
    match parseU32Option name value maxValue with
    | .error errors =>
      .error (if option = .httpPort then errors ++ [.tcpPort name value] else errors)
    | .ok parsed =>
      if option = .httpPort then
        if parsed = 0 then .error [.tcpPort name value]
        else .ok (option.store (parsed % 2 ^ 16) options)
      else .ok (option.store parsed options)

/-! ### Arguments -/

/-- How the command line stops without options: the help page is asked for, or errors are printed. -/
inductive CommandLineStop where
  | help
  | errors (errors : List CommandLineError)
  deriving DecidableEq

/-- One option, with the argument that follows it, and whether this is its value. -/
def commandLineOption (options : CommandLineOptions) (name : CString) (next : Option CString) :
    Except CommandLineStop (CommandLineOptions × Bool) :=
  match CommandLineOption.ofName name with
  | none => .error (.errors [.unknownOption name])
  | some .help => .error .help
  | some .consoleReport =>
    if options.consoleReport then .error (.errors [.duplicateOption name])
    else .ok ({ options with consoleReport := true }, false)
  | some (.numeric option) =>
    if option = .httpPort ∧ options.httpPort ≠ 0 then .error (.errors [.duplicateOption name])
    else
      match next with
      | none => .error (.errors [.missingValue name])
      | some value =>
        match parseNumericOption option name value options with
        | .error errors => .error (.errors errors)
        | .ok options => .ok (options, true)
  | some (.text option) =>
    match next with
    | none => .error (.errors [.missingValue name])
    | some value =>
      if (option.given options).isSome then .error (.errors [.duplicateOption name])
      else .ok (option.store value options, true)

/-- The loop of `command_line_parse_internal` over the arguments. -/
def commandLineParseFrom (options : CommandLineOptions) :
    List CString → Except CommandLineStop CommandLineOptions
  | [] =>
    if options.inputPrimaryUrl.isNone || options.inputSecondaryUrl.isNone then
      .error (.errors [.inputUrlsRequired])
    else .ok options
  | name :: rest =>
    match commandLineOption options name rest.head? with
    | .error stop => .error stop
    | .ok (options, false) => commandLineParseFrom options rest
    | .ok (options, true) => commandLineParseFrom options rest.tail
termination_by args => args.length
decreasing_by
  · exact Nat.lt_succ_self rest.length
  · rw [List.length_tail, List.length_cons]
    omega

/-- `command_line_parse`, after the name of the program. -/
def commandLineParse (args : List CString) : Except CommandLineStop CommandLineOptions :=
  commandLineParseFrom commandLineDefaults args

/-! ### URLs -/

/-- `strrchr`, as an index. -/
def strrchr (text : CString) (c : Char) : Option ℕ :=
  (text.reverse.findIdx? (· == c)).map fun k => text.length - 1 - k

/-- `address`, the URL without its scheme. -/
def udpAddress (url : CString) : CString :=
  let scheme : CString := ['u', 'd', 'p', ':', '/', '/']
  if scheme.isPrefixOf url then url.drop scheme.length else url

/-- The host and the port of a URL. -/
def udpParseUrl (url : CString) (hostSize : ℕ) : Option (CString × ℕ) :=
  let address := udpAddress url
  match strrchr address ':' with
  | none => none
  | some colon =>
    if colon = 0 ∨ colon + 1 = address.length then none
    else if hostSize ≤ colon then none
    else
      let parsedPort := strtoul (address.drop (colon + 1))
      if parsedPort.isComplete (address.drop (colon + 1)) = false ∨ 65535 < parsedPort.value then none
      else some (address.take colon, parsedPort.value % 2 ^ 16)

/-- `input_udp_parse_url`. -/
def inputUdpParseUrl (url : CString) (hostSize : ℕ) : Option (CString × ℕ) := udpParseUrl url hostSize

/-- `output_udp_parse_url`. -/
def outputUdpParseUrl (url : CString) (hostSize : ℕ) : Option (CString × ℕ) :=
  udpParseUrl url hostSize

end TwoStream
