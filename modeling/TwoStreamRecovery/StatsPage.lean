import TwoStreamRecovery.Lib.Json
import TwoStreamRecovery.Lib.Printf
import TwoStreamRecovery.MainLoop
import TwoStreamRecovery.Replies
import TwoStreamRecovery.RollingStats
import Mathlib.Algebra.Order.BigOperators.Group.List
import Mathlib.Data.List.Nodup
import Mathlib.Data.Rat.Defs

/-!
# The statistics page (`report_stats_format_json`)

* `statsFormat`, `statsArguments`: the format and the arguments of the `snprintf`; `formatJson`: its text if
  it fits the buffer.
* `statsFields`: which value of `report_stats_t` each key stands for; `statsDocument`: these as JSON.
* **`snprintf_stats`**: the text is that of the document.
* **`apiStats_readable`**: every request for the statistics is answered with a JSON text in which each key
  has this value.

Doubles and their printing, and times of day, are parameters.
-/

namespace TwoStream

open Printf

variable {δ : Type}

/-! ### The variables -/

/-- `report_stats_t`, as far as it is printed; `δ` are the doubles. -/
structure ReportedStats (δ : Type) extends WindowedStats where
  unrecoverableNullRegions : ℕ
  pcrTimingConfidence : StreamId → ℕ
  pcrBitrateBps : StreamId → δ
  pcrDelayNs : δ
  pcrDelaySamples : ℕ
  observedSecondaryLatencyMinNs : δ
  observedSecondaryLatencyAvgNs : δ
  observedSecondaryLatencyMaxNs : δ
  observedSecondaryLatencyJitterNs : δ
  observedSecondaryLatencySamples : ℕ
  lastRecoveryEventTime : ℤ

/-- `stream_health_name`. -/
def streamHealthName : StreamHealth → CString
  | .healthy => "healthy".toList
  | .degraded => "degraded".toList
  | .lossy => "lossy".toList
  | .untrusted => "untrusted".toList
  | .offline => "offline".toList

/-- The number of a stream. -/
def StreamId.toInt : StreamId → ℤ
  | .primary => 0
  | .secondary => 1

/-- What the C library does with doubles (`%.nf`) and times (`localtime_r` and `strftime`). -/
structure CLibrary (δ : Type) where
  isFinite : δ → Bool
  printDouble : ℕ → δ → CString
  strftime : ℤ → CString

/-- `report_stats_wall_time`. -/
def reportStatsWallTime (lib : CLibrary δ) (wallTime : ℤ) : CString :=
  if wallTime = 0 then "Never".toList else lib.strftime wallTime

/-- The variables of `report_stats_format_json`. -/
structure StatsVariables (δ : Type) where
  stats : ReportedStats δ
  timestamp : CString
  lastRecoveryEvent : CString
  win : RollingWindow

/-- Their values before the `snprintf`, after two readings of the clock and one of the time of day. -/
def ReportedStats.variables (r : ReportedStats δ) (lib : CLibrary δ) (tickNs healthNs : ℕ) (wallTime : ℤ) :
    StatsVariables δ :=
  let stats := updateStreamHealth healthNs (reportStatsTick tickNs r.toWindowedStats)
  { stats := { r with toWindowedStats := stats }
    timestamp := lib.strftime wallTime
    lastRecoveryEvent := reportStatsWallTime lib r.lastRecoveryEventTime
    win := computeRollingWindow stats }

/-! ### The text -/

/-- The format, where `PRIu64` is `lu` and `PRId64` is `ld`. -/
def statsFormat : CString :=
  ["\x7b",
    "\"timestamp\":\"%s\",",
    "\"packets_received\":[%lu,%lu],",
    "\"win60_packets\":[%lu,%lu],",
    "\"input_datagrams\":[%lu,%lu],",
    "\"malformed_datagrams\":[%lu,%lu],",
    "\"partial_datagrams\":[%lu,%lu],",
    "\"resync_events\":[%lu,%lu],",
    "\"sync_errors\":[%lu,%lu],",
    "\"transport_errors\":[%lu,%lu],",
    "\"continuity_errors\":[%lu,%lu],",
    "\"win60_continuity_errors\":[%lu,%lu],",
    "\"health\":[\"%s\",\"%s\"],",
    "\"output_health\":\"%s\",",
    "\"duplicate_counters\":[%lu,%lu],",
    "\"null_packets\":[%lu,%lu],",
    "\"pcr_packets\":[%lu,%lu],",
    "\"alignment_offset_packets\":%ld,",
    "\"alignment_confidence\":%u,",
    "\"pcr_timing_confidence\":[%u,%u],",
    "\"pcr_bitrate_bps\":[%.0f,%.0f],",
    "\"pcr_delay_ns\":%.0f,",
    "\"pcr_delay_samples\":%lu,",
    "\"latency_ms\":\x7b\"min\":%.3f,\"avg\":%.3f,\"max\":%.3f,\"jitter\":%.3f,\"samples\":%lu\x7d,",
    "\"stream_disagreements\":%lu,",
    "\"primary_delay_overflows\":%lu,",
    "\"last_recovery_event\":\"%s\",",
    "\"recovered_null_packets\":%lu,",
    "\"recovered_content_packets\":%lu,",
    "\"recovered_content_bursts\":%lu,",
    "\"unrecoverable_null_regions\":%lu,",
    "\"secondary_loss_events\":%lu,",
    "\"secondary_missing_packets\":%lu,",
    "\"secondary_missing_anchors\":%lu,",
    "\"secondary_packets_too_late\":%lu,",
    "\"primary_delay_insufficient\":%lu,",
    "\"recovery_rejects\":\x7b\"low_alignment\":%lu,\"secondary_late\":%lu",
    ",\"tei\":%lu,\"discontinuity\":%lu,\"wrong_pid\":%lu",
    ",\"wrong_counter\":%lu,\"ambiguous\":%lu,\"burst_too_large\":%lu",
    ",\"missing_candidate\":%lu\x7d,",
    "\"recovery_exact_cc_gap\":%lu,",
    "\"recovered_packets\":%lu,",
    "\"unrecoverable_loss\":%lu,",
    "\"win60_recovered\":%lu,",
    "\"win60_unrecoverable\":%lu,",
    "\"output_packets\":%lu,",
    "\"win60_output\":%lu,",
    "\"output_continuity_errors\":%lu,",
    "\"output_duplicate_counters\":%lu,",
    "\"active_output_stream_id\":%d,",
    "\"source_switches\":[%lu,%lu],",
    "\"output_datagrams\":%lu,",
    "\"output_short_flushes\":%lu",
    "\x7d"].flatMap String.toList

/-- The arguments that follow it. -/
def statsArguments [Div δ] [OfScientific δ] (v : StatsVariables δ) : List (Argument δ) :=
  [.string v.timestamp,
    .u64 (v.stats.packetsReceived .primary), .u64 (v.stats.packetsReceived .secondary),
    .u64 (v.win.winPackets .primary), .u64 (v.win.winPackets .secondary),
    .u64 (v.stats.inputDatagrams .primary), .u64 (v.stats.inputDatagrams .secondary),
    .u64 (v.stats.malformedDatagrams .primary), .u64 (v.stats.malformedDatagrams .secondary),
    .u64 (v.stats.partialDatagrams .primary), .u64 (v.stats.partialDatagrams .secondary),
    .u64 (v.stats.resyncEvents .primary), .u64 (v.stats.resyncEvents .secondary),
    .u64 (v.stats.syncErrors .primary), .u64 (v.stats.syncErrors .secondary),
    .u64 (v.stats.transportErrors .primary), .u64 (v.stats.transportErrors .secondary),
    .u64 (v.stats.continuityErrors .primary), .u64 (v.stats.continuityErrors .secondary),
    .u64 (v.win.winCcErrors .primary), .u64 (v.win.winCcErrors .secondary),
    .string (streamHealthName (v.stats.streamHealth .primary)),
    .string (streamHealthName (v.stats.streamHealth .secondary)),
    .string (streamHealthName v.stats.outputHealth),
    .u64 (v.stats.duplicateCounters .primary), .u64 (v.stats.duplicateCounters .secondary),
    .u64 (v.stats.nullPackets .primary), .u64 (v.stats.nullPackets .secondary),
    .u64 (v.stats.pcrPackets .primary), .u64 (v.stats.pcrPackets .secondary),
    .i64 v.stats.alignmentOffsetPackets, .u32 v.stats.alignmentConfidence,
    .u32 (v.stats.pcrTimingConfidence .primary), .u32 (v.stats.pcrTimingConfidence .secondary),
    .double (v.stats.pcrBitrateBps .primary), .double (v.stats.pcrBitrateBps .secondary),
    .double v.stats.pcrDelayNs,
    .u64 v.stats.pcrDelaySamples,
    .double (v.stats.observedSecondaryLatencyMinNs / 1000000.0),
    .double (v.stats.observedSecondaryLatencyAvgNs / 1000000.0),
    .double (v.stats.observedSecondaryLatencyMaxNs / 1000000.0),
    .double (v.stats.observedSecondaryLatencyJitterNs / 1000000.0),
    .u64 v.stats.observedSecondaryLatencySamples,
    .u64 v.stats.streamDisagreements,
    .u64 v.stats.primaryDelayOverflows,
    .string v.lastRecoveryEvent,
    .u64 v.stats.recoveredNullPackets,
    .u64 v.stats.recoveredContentPackets,
    .u64 v.stats.recoveredContentBursts,
    .u64 v.stats.unrecoverableNullRegions,
    .u64 v.stats.secondaryLossEvents,
    .u64 v.stats.secondaryMissingPackets,
    .u64 v.stats.secondaryMissingAnchors,
    .u64 v.stats.secondaryPacketsTooLate,
    .u64 v.stats.primaryDelayInsufficient,
    .u64 (v.stats.recoveryRejects .lowAlignment),
    .u64 (v.stats.recoveryRejects .secondaryLate),
    .u64 (v.stats.recoveryRejects .tei),
    .u64 (v.stats.recoveryRejects .discontinuity),
    .u64 (v.stats.recoveryRejects .wrongPid),
    .u64 (v.stats.recoveryRejects .wrongCounter),
    .u64 (v.stats.recoveryRejects .ambiguous),
    .u64 (v.stats.recoveryRejects .burstTooLarge),
    .u64 (v.stats.recoveryRejects .missingCandidate),
    .u64 v.stats.recoveryExactCcGap,
    .u64 v.stats.recoveredPackets,
    .u64 v.stats.unrecoverableLoss,
    .u64 v.win.winRecovered,
    .u64 v.win.winUnrecoverable,
    .u64 v.stats.outputPackets,
    .u64 v.win.winOutput,
    .u64 v.stats.outputContinuityErrors,
    .u64 v.stats.outputDuplicateCounters,
    .i32 v.stats.activeOutputStreamId.toInt,
    .u64 (v.stats.sourceSwitches .primary), .u64 (v.stats.sourceSwitches .secondary),
    .u64 v.stats.outputDatagrams,
    .u64 v.stats.outputShortFlushes]

/-- `report_stats_format_json`; `none` if the text does not fit. -/
def ReportedStats.formatJson [Div δ] [OfScientific δ] (r : ReportedStats δ) (lib : CLibrary δ)
    (tickNs healthNs : ℕ) (wallTime : ℤ) (bufferSize : ℕ) : Option CString × ReportedStats δ :=
  let v := r.variables lib tickNs healthNs wallTime
  let written := snprintf lib.printDouble statsFormat (statsArguments v)
  (written.bind fun text => if bufferSize ≤ text.length then none else some text, v.stats)

/-! ### The document -/

/-- A number of the page. -/
inductive StatsNumber (δ : Type) where
  | u64 (n : StatsVariables δ → ℕ)
  | i64 (z : StatsVariables δ → ℤ)
  | u32 (n : StatsVariables δ → ℕ)
  | i32 (z : StatsVariables δ → ℤ)
  | double (places : ℕ) (x : StatsVariables δ → δ)

/-- A value of the page: numbers and strings, also one for each stream, and numbers under names. -/
inductive StatsValue (δ : Type) where
  | number (n : StatsNumber δ)
  | numbers (n : StreamId → StatsNumber δ)
  | word (text : StatsVariables δ → CString)
  | words (text : StreamId → StatsVariables δ → CString)
  | group (members : List (String × StatsNumber δ))

def StatsValue.counter (n : StatsVariables δ → ℕ) : StatsValue δ := .number (.u64 n)

def StatsValue.counters (n : StatsVariables δ → StreamId → ℕ) : StatsValue δ :=
  .numbers fun streamId => .u64 (n · streamId)

/-- The rejections for a reason. -/
def rejects (reason : RejectReason) : StatsNumber δ := .u64 (·.stats.recoveryRejects reason)

/-- What each key of the page stands for. -/
def statsFields [Div δ] [OfScientific δ] : List (String × StatsValue δ) :=
  [("timestamp", .word (·.timestamp)),
    ("packets_received", .counters (·.stats.packetsReceived)),
    ("win60_packets", .counters (·.win.winPackets)),
    ("input_datagrams", .counters (·.stats.inputDatagrams)),
    ("malformed_datagrams", .counters (·.stats.malformedDatagrams)),
    ("partial_datagrams", .counters (·.stats.partialDatagrams)),
    ("resync_events", .counters (·.stats.resyncEvents)),
    ("sync_errors", .counters (·.stats.syncErrors)),
    ("transport_errors", .counters (·.stats.transportErrors)),
    ("continuity_errors", .counters (·.stats.continuityErrors)),
    ("win60_continuity_errors", .counters (·.win.winCcErrors)),
    ("health", .words fun streamId v => streamHealthName (v.stats.streamHealth streamId)),
    ("output_health", .word fun v => streamHealthName v.stats.outputHealth),
    ("duplicate_counters", .counters (·.stats.duplicateCounters)),
    ("null_packets", .counters (·.stats.nullPackets)),
    ("pcr_packets", .counters (·.stats.pcrPackets)),
    ("alignment_offset_packets", .number (.i64 (·.stats.alignmentOffsetPackets))),
    ("alignment_confidence", .number (.u32 (·.stats.alignmentConfidence))),
    ("pcr_timing_confidence", .numbers fun streamId => .u32 (·.stats.pcrTimingConfidence streamId)),
    ("pcr_bitrate_bps", .numbers fun streamId => .double 0 (·.stats.pcrBitrateBps streamId)),
    ("pcr_delay_ns", .number (.double 0 (·.stats.pcrDelayNs))),
    ("pcr_delay_samples", .counter (·.stats.pcrDelaySamples)),
    ("latency_ms", .group [
      ("min", .double 3 fun v => v.stats.observedSecondaryLatencyMinNs / 1000000.0),
      ("avg", .double 3 fun v => v.stats.observedSecondaryLatencyAvgNs / 1000000.0),
      ("max", .double 3 fun v => v.stats.observedSecondaryLatencyMaxNs / 1000000.0),
      ("jitter", .double 3 fun v => v.stats.observedSecondaryLatencyJitterNs / 1000000.0),
      ("samples", .u64 (·.stats.observedSecondaryLatencySamples))]),
    ("stream_disagreements", .counter (·.stats.streamDisagreements)),
    ("primary_delay_overflows", .counter (·.stats.primaryDelayOverflows)),
    ("last_recovery_event", .word (·.lastRecoveryEvent)),
    ("recovered_null_packets", .counter (·.stats.recoveredNullPackets)),
    ("recovered_content_packets", .counter (·.stats.recoveredContentPackets)),
    ("recovered_content_bursts", .counter (·.stats.recoveredContentBursts)),
    ("unrecoverable_null_regions", .counter (·.stats.unrecoverableNullRegions)),
    ("secondary_loss_events", .counter (·.stats.secondaryLossEvents)),
    ("secondary_missing_packets", .counter (·.stats.secondaryMissingPackets)),
    ("secondary_missing_anchors", .counter (·.stats.secondaryMissingAnchors)),
    ("secondary_packets_too_late", .counter (·.stats.secondaryPacketsTooLate)),
    ("primary_delay_insufficient", .counter (·.stats.primaryDelayInsufficient)),
    ("recovery_rejects", .group [("low_alignment", rejects .lowAlignment),
      ("secondary_late", rejects .secondaryLate), ("tei", rejects .tei),
      ("discontinuity", rejects .discontinuity), ("wrong_pid", rejects .wrongPid),
      ("wrong_counter", rejects .wrongCounter), ("ambiguous", rejects .ambiguous),
      ("burst_too_large", rejects .burstTooLarge), ("missing_candidate", rejects .missingCandidate)]),
    ("recovery_exact_cc_gap", .counter (·.stats.recoveryExactCcGap)),
    ("recovered_packets", .counter (·.stats.recoveredPackets)),
    ("unrecoverable_loss", .counter (·.stats.unrecoverableLoss)),
    ("win60_recovered", .counter (·.win.winRecovered)),
    ("win60_unrecoverable", .counter (·.win.winUnrecoverable)),
    ("output_packets", .counter (·.stats.outputPackets)),
    ("win60_output", .counter (·.win.winOutput)),
    ("output_continuity_errors", .counter (·.stats.outputContinuityErrors)),
    ("output_duplicate_counters", .counter (·.stats.outputDuplicateCounters)),
    ("active_output_stream_id", .number (.i32 (·.stats.activeOutputStreamId.toInt))),
    ("source_switches", .counters (·.stats.sourceSwitches)),
    ("output_datagrams", .counter (·.stats.outputDatagrams)),
    ("output_short_flushes", .counter (·.stats.outputShortFlushes))]

/-- A pair of values. -/
def pairJson (j : StreamId → Json) : Json := .arr [j .primary, j .secondary]

variable (lib : CLibrary δ) (v : StatsVariables δ)

/-- The number as JSON, in 64 or 32 bits. -/
def StatsNumber.json : StatsNumber δ → Json
  | .u64 n => .ofNat (n v % 2 ^ 64)
  | .i64 z => .ofInt ((z v).bmod (2 ^ 64))
  | .u32 n => .ofNat (n v % 2 ^ 32)
  | .i32 z => .ofInt ((z v).bmod (2 ^ 32))
  | .double places x => .num (lib.printDouble places (x v))

/-- The value as JSON. -/
def StatsValue.json : StatsValue δ → Json
  | .number n => n.json lib v
  | .numbers n => pairJson fun streamId => (n streamId).json lib v
  | .word text => .str (text v)
  | .words text => pairJson fun streamId => .str (text streamId v)
  | .group members => .obj (members.map fun m => (m.1.toList, m.2.json lib v))

/-- The page as JSON. -/
def statsDocument [Div δ] [OfScientific δ] : Json :=
  .obj (statsFields.map fun field => (field.1.toList, field.2.json lib v))

/-! ### Texts of JSON -/

variable {lib v}

/-- `[..,..]`. -/
def pairText (text : StreamId → CString) : CString := '[' :: (text .primary ++ ',' :: (text .secondary ++ [']']))

/-- `"name":value`. -/
def memberText (name : String) (value : CString) : CString := quoted name.toList ++ ':' :: value

/-- What follows the first member. -/
def laterText : List CString → CString
  | [] => []
  | text :: rest => ',' :: (text ++ laterText rest)

/-- Members in braces. -/
def objectText : List CString → CString
  | [] => ['\x7b', '\x7d']
  | text :: rest => '\x7b' :: (text ++ laterText rest ++ ['\x7d'])

section Members

variable {α : Type} (l : List α) (name : α → String) (json : α → Json)

theorem encodeLaterMembers_eq :
    encodeLaterMembers (l.map fun a => ((name a).toList, json a)) =
      laterText (l.map fun a => memberText (name a) (json a).encode) := by
  induction l with
  | nil => rfl
  | cons a rest ih =>
    simp only [List.map_cons, encodeLaterMembers, laterText, memberText, ih, List.append_assoc,
      List.cons_append]

/-- An object is its members in braces. -/
theorem encode_obj :
    (Json.obj (l.map fun a => ((name a).toList, json a))).encode =
      objectText (l.map fun a => memberText (name a) (json a).encode) := by
  cases l with
  | nil => rfl
  | cons a rest =>
    simp only [List.map_cons, Json.encode, encodeMembers, encodeLaterMembers_eq, objectText, memberText,
      List.append_assoc, List.cons_append]

end Members

theorem encode_pairJson (j : StreamId → Json) :
    (pairJson j).encode = pairText fun streamId => (j streamId).encode := by
  simp [pairJson, pairText, Json.encode, encodeItems, encodeLaterItems]

/-! ### The format and the arguments of a value -/

def StatsNumber.conversion : StatsNumber δ → Printf.Conversion
  | .u64 _ => .u64
  | .i64 _ => .i64
  | .u32 _ => .u32
  | .i32 _ => .i32
  | .double places _ => .double places

def StatsNumber.argument (v : StatsVariables δ) : StatsNumber δ → Argument δ
  | .u64 n => .u64 (n v)
  | .i64 z => .i64 (z v)
  | .u32 n => .u32 (n v)
  | .i32 z => .i32 (z v)
  | .double _ x => .double (x v)

def quotedPieces : List Piece := [.char '"', .conversion .string, .char '"']

def pairPieces (pieces : StreamId → List Piece) : List Piece :=
  .char '[' :: (pieces .primary ++ .char ',' :: (pieces .secondary ++ [.char ']']))

def memberPieces (name : String) (value : List Piece) : List Piece :=
  (quoted name.toList).map .char ++ .char ':' :: value

def laterPieces : List (List Piece) → List Piece
  | [] => []
  | pieces :: rest => .char ',' :: (pieces ++ laterPieces rest)

def objectPieces : List (List Piece) → List Piece
  | [] => [.char '\x7b', .char '\x7d']
  | pieces :: rest => .char '\x7b' :: (pieces ++ laterPieces rest ++ [.char '\x7d'])

/-- How a value stands in the format. -/
def StatsValue.pieces : StatsValue δ → List Piece
  | .number n => [.conversion n.conversion]
  | .numbers n => pairPieces fun streamId => [.conversion (n streamId).conversion]
  | .word _ => quotedPieces
  | .words _ => pairPieces fun _ => quotedPieces
  | .group members => objectPieces (members.map fun m => memberPieces m.1 [.conversion m.2.conversion])

/-- The arguments for it. -/
def StatsValue.arguments (v : StatsVariables δ) : StatsValue δ → List (Argument δ)
  | .number n => [n.argument v]
  | .numbers n => [(n .primary).argument v, (n .secondary).argument v]
  | .word text => [.string (text v)]
  | .words text => [.string (text .primary v), .string (text .secondary v)]
  | .group members => members.map fun m => m.2.argument v

/-- **The format is that of the fields.** -/
theorem readFormat_statsFormat [Div δ] [OfScientific δ] : readFormat none statsFormat =
    some (objectPieces ((statsFields (δ := δ)).map fun field => memberPieces field.1 field.2.pieces)) := by
  simp only [statsFormat, List.flatMap_cons, List.flatMap_nil, statsFields, List.map_cons, List.map_nil,
    memberPieces, StatsValue.counter, StatsValue.counters, rejects, StatsValue.pieces,
    StatsNumber.conversion]
  -- the literals are spelled out here, which is slow for the kernel
  repeat rw [String.toList_ofList]
  decide +kernel

/-- **The arguments are those of the fields**, in their order. -/
theorem statsArguments_eq [Div δ] [OfScientific δ] (v : StatsVariables δ) :
    statsArguments v = statsFields.flatMap fun field => field.2.arguments v := by
  simp only [statsFields, List.flatMap_cons, List.flatMap_nil, List.map_cons, List.map_nil,
    StatsValue.counter, StatsValue.counters, rejects, StatsValue.arguments, StatsNumber.argument,
    List.cons_append, List.nil_append, statsArguments]

section Writes

variable {printDouble : ℕ → δ → CString} {pieces : List Piece} {args : List (Argument δ)}
  {text : CString}

theorem writes_quoted (text : CString) :
    Writes printDouble quotedPieces [.string text] (quoted text) :=
  .cons '"' ((Writes.conversion rfl).append (.char '"'))

theorem writes_pair {pieces : StreamId → List Piece} {args : StreamId → List (Argument δ)}
    {text : StreamId → CString} (h : ∀ streamId, Writes printDouble (pieces streamId) (args streamId)
      (text streamId)) :
    Writes printDouble (pairPieces pieces) (args .primary ++ args .secondary) (pairText text) := by
  have hlast : Writes printDouble (pieces .secondary ++ [.char ']']) (args .secondary)
      (text .secondary ++ [']']) := by
    have hend := (h .secondary).append (.char ']')
    rwa [List.append_nil] at hend
  exact .cons '[' ((h .primary).append (hlast.cons ','))

theorem writes_member (name : String) (h : Writes printDouble pieces args text) :
    Writes printDouble (memberPieces name pieces) args (memberText name text) :=
  (Writes.literal (quoted name.toList)).append (h.cons ':')

theorem writes_later {α : Type} {pieces : α → List Piece} {args : α → List (Argument δ)}
    {text : α → CString} {l : List α} (h : ∀ a ∈ l, Writes printDouble (pieces a) (args a) (text a)) :
    Writes printDouble (laterPieces (l.map pieces)) (l.flatMap args) (laterText (l.map text)) := by
  induction l with
  | nil => exact .nil
  | cons a rest ih =>
    have hrest := ih fun b hb => h b (List.mem_cons_of_mem a hb)
    exact ((h a List.mem_cons_self).append hrest).cons ','

/-- Members in braces, each from its arguments. -/
theorem writes_object {α : Type} {pieces : α → List Piece} {args : α → List (Argument δ)}
    {text : α → CString} {l : List α} (h : ∀ a ∈ l, Writes printDouble (pieces a) (args a) (text a)) :
    Writes printDouble (objectPieces (l.map pieces)) (l.flatMap args) (objectText (l.map text)) := by
  cases l with
  | nil => exact .cons _ (.char _)
  | cons a rest =>
    have hrest := writes_later fun b hb => h b (List.mem_cons_of_mem a hb)
    have hend := ((h a List.mem_cons_self).append hrest).append (.char '\x7d')
    rw [List.append_nil] at hend
    exact hend.cons '\x7b'

/-- A number is printed as its JSON. -/
theorem StatsNumber.writes (n : StatsNumber δ) (lib : CLibrary δ) (v : StatsVariables δ) :
    Writes lib.printDouble [.conversion n.conversion] [n.argument v] (n.json lib v).encode := by
  refine .conversion ?_
  cases n with
  | _ => rfl

/-- **A value is printed as its JSON.** -/
theorem StatsValue.writes (value : StatsValue δ) (lib : CLibrary δ) (v : StatsVariables δ) :
    Writes lib.printDouble value.pieces (value.arguments v) (value.json lib v).encode := by
  cases value with
  | number n => exact n.writes lib v
  | numbers n =>
    rw [StatsValue.json, encode_pairJson]
    exact writes_pair fun streamId => (n streamId).writes lib v
  | word text => exact writes_quoted (text v)
  | words text =>
    rw [StatsValue.json, encode_pairJson]
    exact writes_pair fun streamId => writes_quoted (text streamId v)
  | group members =>
    have hargs : (members.map fun m => m.2.argument v) = members.flatMap fun m => [m.2.argument v] :=
      List.map_eq_flatMap
    rw [StatsValue.json, encode_obj, StatsValue.arguments, hargs]
    exact writes_object fun m _ => writes_member m.1 (m.2.writes lib v)

end Writes

/-- **The `snprintf` writes the document.** -/
theorem snprintf_stats [Div δ] [OfScientific δ] (lib : CLibrary δ) (v : StatsVariables δ) :
    snprintf lib.printDouble statsFormat (statsArguments v) = some (statsDocument lib v).encode := by
  rw [statsDocument, encode_obj, statsArguments_eq]
  exact snprintf_of_writes readFormat_statsFormat
    (writes_object fun field _ => writes_member field.1 (field.2.writes lib v))

/-! ### Printed values -/

/-- A printed double: a JSON number; `DBL_MAX` has 309 digits before the point. -/
def IsPrintedDouble (text : CString) : Prop := isJsonNumber text = true ∧ text.length ≤ 320

/-- A text of `strftime`, from its buffer. -/
def IsPrintedTime (text : CString) : Prop := text.all isStringChar = true ∧ text.length < 64

/-- The library is as it is documented, for the doubles of `report_stats_t` and the format of the times. -/
structure CLibrary.Documented [Div δ] [OfScientific δ] (lib : CLibrary δ) : Prop where
  printDouble : ∀ places ≤ 3, ∀ x, lib.isFinite x = true → IsPrintedDouble (lib.printDouble places x)
  quotient : ∀ x, lib.isFinite x = true → lib.isFinite (x / 1000000.0) = true
  strftime : ∀ wallTime, IsPrintedTime (lib.strftime wallTime)

/-- The doubles are finite. -/
structure ReportedStats.Finite (lib : CLibrary δ) (r : ReportedStats δ) : Prop where
  pcrBitrateBps : ∀ streamId, lib.isFinite (r.pcrBitrateBps streamId) = true
  pcrDelayNs : lib.isFinite r.pcrDelayNs = true
  minNs : lib.isFinite r.observedSecondaryLatencyMinNs = true
  avgNs : lib.isFinite r.observedSecondaryLatencyAvgNs = true
  maxNs : lib.isFinite r.observedSecondaryLatencyMaxNs = true
  jitterNs : lib.isFinite r.observedSecondaryLatencyJitterNs = true

/-- A key of the page. -/
def IsKey (key : CString) : Prop := key.all isStringChar = true ∧ key.length ≤ 26

instance (key : CString) : Decidable (IsKey key) := instDecidableAnd

/-- What holds of a double. -/
def StatsNumber.Printable (lib : CLibrary δ) (v : StatsVariables δ) : StatsNumber δ → Prop
  | .double places x => IsPrintedDouble (lib.printDouble places (x v))
  | _ => True

/-- What holds of the texts in a value. -/
def StatsValue.Printable (lib : CLibrary δ) (v : StatsVariables δ) : StatsValue δ → Prop
  | .number n => n.Printable lib v
  | .numbers n => ∀ streamId, (n streamId).Printable lib v
  | .word text => IsPrintedTime (text v)
  | .words text => ∀ streamId, IsPrintedTime (text streamId v)
  | .group members => ∀ m ∈ members, IsKey m.1.toList ∧ m.2.Printable lib v

/-- The most that a number takes. -/
def StatsNumber.width : StatsNumber δ → ℕ
  | .double _ _ => 320
  | _ => 20

/-- The most that a value takes. -/
def StatsValue.width : StatsValue δ → ℕ
  | .number n => n.width
  | .numbers n => (n .primary).width + (n .secondary).width + 3
  | .word _ => 65
  | .words _ => 133
  | .group members => (members.map fun m => m.2.width + 30).sum + 2

theorem length_u64Text (n : ℕ) : (Nat.toDigits 10 (n % 2 ^ 64)).length ≤ 20 :=
  length_toDigits_lt (by decide) ((Nat.mod_lt n (by decide)).trans (by decide))

theorem length_u32Text (n : ℕ) : (Nat.toDigits 10 (n % 2 ^ 32)).length ≤ 20 :=
  length_toDigits_lt (by decide) ((Nat.mod_lt n (by decide)).trans (by decide))

theorem length_intText {z : ℤ} (h : z.natAbs < 10 ^ 19) : (intText z).length ≤ 20 := by
  have hdigits := length_toDigits_lt (by decide) h
  rw [intText, List.length_append]
  split
  · rw [List.length_singleton]
    omega
  · rw [List.length_nil]
    omega

theorem natAbs_bmod_lt (z : ℤ) : (z.bmod (2 ^ 64)).natAbs < 10 ^ 19 ∧ (z.bmod (2 ^ 32)).natAbs < 10 ^ 19 := by
  have hlow : -2 ^ 63 ≤ z.bmod (2 ^ 64) := Int.le_bmod (by decide)
  have hhigh : z.bmod (2 ^ 64) < 2 ^ 63 := Int.bmod_lt (by decide)
  have hlow' : -2 ^ 31 ≤ z.bmod (2 ^ 32) := Int.le_bmod (by decide)
  have hhigh' : z.bmod (2 ^ 32) < 2 ^ 31 := Int.bmod_lt (by decide)
  constructor <;> omega

theorem length_quoted (text : CString) : (quoted text).length = text.length + 2 := by simp [quoted]

theorem length_pairText (text : StreamId → CString) :
    (pairText text).length = (text .primary).length + (text .secondary).length + 3 := by
  simp only [pairText, List.length_cons, List.length_append, List.length_nil]
  omega

theorem length_memberText (name : String) (value : CString) :
    (memberText name value).length = name.toList.length + value.length + 3 := by
  rw [memberText, List.length_append, length_quoted, List.length_cons]
  omega

theorem length_laterText (texts : List CString) :
    (laterText texts).length = (texts.map fun text => text.length + 1).sum := by
  induction texts with
  | nil => rfl
  | cons text rest ih =>
    simp only [laterText, List.length_cons, List.length_append, ih, List.map_cons, List.sum_cons]
    omega

theorem length_objectText (texts : List CString) :
    (objectText texts).length ≤ (texts.map fun text => text.length + 1).sum + 2 := by
  cases texts with
  | nil => exact le_rfl
  | cons text rest =>
    simp only [objectText, List.length_cons, List.length_append, length_laterText, List.map_cons,
      List.sum_cons, List.length_nil]
    omega

/-- Members that are short enough. -/
theorem length_encode_obj {α : Type} (l : List α) (name : α → String) (json : α → Json) (width : α → ℕ)
    (hkeys : ∀ a ∈ l, IsKey (name a).toList) (hvalues : ∀ a ∈ l, (json a).encode.length ≤ width a) :
    (Json.obj (l.map fun a => ((name a).toList, json a))).encode.length ≤
      (l.map fun a => width a + 30).sum + 2 := by
  rw [encode_obj]
  refine (length_objectText _).trans (Nat.add_le_add_right ?_ 2)
  rw [List.map_map]
  refine List.sum_le_sum fun a ha => ?_
  have hkey := (hkeys a ha).2
  have hvalue := hvalues a ha
  rw [Function.comp_apply, length_memberText]
  omega

section Printable

variable {lib : CLibrary δ} {v : StatsVariables δ} {n : StatsNumber δ} {value : StatsValue δ}

theorem StatsNumber.length_encode_le (h : n.Printable lib v) : (n.json lib v).encode.length ≤ n.width := by
  cases n with
  | u64 n => exact length_u64Text (n v)
  | i64 z => exact length_intText (natAbs_bmod_lt (z v)).1
  | u32 n => exact length_u32Text (n v)
  | i32 z => exact length_intText (natAbs_bmod_lt (z v)).2
  | double places x => exact h.2

/-- **A value fits its width.** -/
theorem StatsValue.length_encode_le (h : value.Printable lib v) :
    (value.json lib v).encode.length ≤ value.width := by
  have hquoted {text : CString} (htext : IsPrintedTime text) : (quoted text).length ≤ 65 := by
    rw [length_quoted]
    exact Nat.add_le_add_right (Nat.le_of_lt_succ htext.2) 2
  cases value with
  | number n => exact StatsNumber.length_encode_le h
  | numbers n =>
    have hprimary := StatsNumber.length_encode_le (h .primary)
    have hsecondary := StatsNumber.length_encode_le (h .secondary)
    rw [StatsValue.json, encode_pairJson, length_pairText, StatsValue.width]
    omega
  | word text => exact hquoted h
  | words text =>
    have hprimary := hquoted (h .primary)
    have hsecondary := hquoted (h .secondary)
    rw [StatsValue.json, encode_pairJson, length_pairText]
    exact Nat.add_le_add_right (Nat.add_le_add hprimary hsecondary) 3
  | group members =>
    exact length_encode_obj members Prod.fst _ _ (fun m hm => (h m hm).1) fun m hm =>
      StatsNumber.length_encode_le (h m hm).2

theorem StatsNumber.wellFormed_json (h : n.Printable lib v) : (n.json lib v).WellFormed := by
  cases n with
  | u64 n => exact wellFormed_ofNat _
  | i64 z => exact wellFormed_ofInt _
  | u32 n => exact wellFormed_ofNat _
  | i32 z => exact wellFormed_ofInt _
  | double places x => exact .num h.1

theorem wellFormed_pairJson {j : StreamId → Json} (h : ∀ streamId, (j streamId).WellFormed) :
    (pairJson j).WellFormed := by
  refine .arr fun k hk => ?_
  rcases List.mem_pair.mp hk with rfl | rfl
  · exact h .primary
  · exact h .secondary

theorem StatsValue.wellFormed_json (h : value.Printable lib v) : (value.json lib v).WellFormed := by
  cases value with
  | number n => exact StatsNumber.wellFormed_json h
  | numbers n => exact wellFormed_pairJson fun streamId => StatsNumber.wellFormed_json (h streamId)
  | word text => exact .str h.1
  | words text => exact wellFormed_pairJson fun streamId => .str (h streamId).1
  | group members =>
    refine .obj ?_ ?_
    · rw [List.forall_mem_map]
      exact fun m hm => (h m hm).1.1
    · rw [List.forall_mem_map]
      exact fun m hm => StatsNumber.wellFormed_json (h m hm).2

end Printable

/-! ### The page -/

section Page

variable [Div δ] [OfScientific δ] {lib : CLibrary δ} {v : StatsVariables δ}

/-- What holds of the variables before the `snprintf`. -/
structure StatsVariables.Printable (lib : CLibrary δ) (v : StatsVariables δ) : Prop where
  finite : v.stats.Finite lib
  timestamp : IsPrintedTime v.timestamp
  lastRecoveryEvent : IsPrintedTime v.lastRecoveryEvent

theorem isPrintedTime_literal {s : CString} (h : (s.all isStringChar && decide (s.length < 64)) = true) :
    IsPrintedTime s := by
  simpa [IsPrintedTime] using h

theorem isPrintedTime_streamHealthName (h : StreamHealth) : IsPrintedTime (streamHealthName h) := by
  cases h <;> exact isPrintedTime_literal (by decide +kernel)

theorem ReportedStats.variables_printable (hlib : lib.Documented) {r : ReportedStats δ} (hr : r.Finite lib)
    (tickNs healthNs : ℕ) (wallTime : ℤ) : (r.variables lib tickNs healthNs wallTime).Printable lib where
  finite := ⟨hr.pcrBitrateBps, hr.pcrDelayNs, hr.minNs, hr.avgNs, hr.maxNs, hr.jitterNs⟩
  timestamp := hlib.strftime wallTime
  lastRecoveryEvent := by
    have hnever : IsPrintedTime "Never".toList := isPrintedTime_literal (by decide +kernel)
    simp only [ReportedStats.variables, reportStatsWallTime]
    split
    · exact hnever
    · exact hlib.strftime _

/-- The keys of the page. -/
def statsKeys : List CString := (statsFields (δ := ℚ)).map (·.1.toList)

theorem map_key_statsFields : (statsFields (δ := δ)).map (·.1.toList) = statsKeys := rfl

/-- The keys are strings, and no two are the same. -/
theorem statsKeys_facts : (∀ key ∈ statsKeys, IsKey key) ∧ statsKeys.Nodup := by
  simp only [statsKeys, statsFields, List.map_cons, List.map_nil]
  repeat rw [String.toList_ofList]
  decide +kernel

theorem mem_statsKeys {field : String × StatsValue δ} (h : field ∈ statsFields) :
    field.1.toList ∈ statsKeys := by
  rw [← map_key_statsFields (δ := δ)]
  exact List.mem_map.mpr ⟨field, h, rfl⟩

/-- The values of the page are printable. -/
theorem printable_statsFields (hlib : lib.Documented) (hv : v.Printable lib) :
    ∀ field ∈ statsFields, field.2.Printable lib v := by
  have hkeys : ∀ key ∈ ["min", "avg", "max", "jitter", "samples", "low_alignment", "secondary_late",
      "tei", "discontinuity", "wrong_pid", "wrong_counter", "ambiguous", "burst_too_large",
      "missing_candidate"].map String.toList, IsKey key := by
    rw [List.map_cons]
    decide +kernel
  have hwhole := hlib.printDouble 0 (by decide)
  have hmillis {x : δ} (hx : lib.isFinite x = true) :
      IsPrintedDouble (lib.printDouble 3 (x / 1000000.0)) :=
    hlib.printDouble 3 le_rfl _ (hlib.quotient x hx)
  simp only [List.map_cons, List.forall_mem_cons] at hkeys
  simp only [statsFields, List.forall_mem_cons, List.not_mem_nil, false_implies, StatsValue.Printable,
    StatsValue.counter, StatsValue.counters, rejects, StatsNumber.Printable, hv.timestamp,
    hv.lastRecoveryEvent, isPrintedTime_streamHealthName, hwhole _ hv.finite.pcrDelayNs,
    hwhole _ (hv.finite.pcrBitrateBps _), hmillis hv.finite.minNs, hmillis hv.finite.avgNs,
    hmillis hv.finite.maxNs, hmillis hv.finite.jitterNs, hkeys, implies_true, and_true]

/-- The widths of the values, whatever they are. -/
theorem sum_widths : ((statsFields (δ := δ)).map fun field => field.2.width + 30).sum + 2 ≤ 11000 := by
  simp only [statsFields, List.map_cons, List.map_nil, List.sum_cons, List.sum_nil, StatsValue.counter,
    StatsValue.counters, rejects, StatsValue.width, StatsNumber.width]
  norm_num

/-- **The text fits the buffer.** -/
theorem length_statsDocument (hlib : lib.Documented) (hv : v.Printable lib) :
    (statsDocument lib v).encode.length < 16384 := by
  have hlength := length_encode_obj statsFields Prod.fst (fun field => field.2.json lib v)
    (fun field => field.2.width) (fun field hfield => statsKeys_facts.1 _ (mem_statsKeys hfield))
    fun field hfield => StatsValue.length_encode_le (printable_statsFields hlib hv field hfield)
  exact hlength.trans_lt (sum_widths.trans_lt (by decide))

theorem wellFormed_statsDocument (hlib : lib.Documented) (hv : v.Printable lib) :
    (statsDocument lib v).WellFormed := by
  refine .obj ?_ ?_
  · rw [List.forall_mem_map]
    exact fun field hfield => (statsKeys_facts.1 _ (mem_statsKeys hfield)).1
  · rw [List.forall_mem_map]
    exact fun field hfield => StatsValue.wellFormed_json (printable_statsFields hlib hv field hfield)

/-- **Each value stands under its own key.** -/
theorem field_statsDocument {field : String × StatsValue δ} (h : field ∈ statsFields) :
    (statsDocument lib v).field field.1.toList = some (field.2.json lib v) := by
  refine Json.field_obj (m := (field.1.toList, field.2.json lib v)) ?_ (List.mem_map_of_mem h)
  have hkeys : (statsFields.map fun field => (field.1.toList, field.2.json lib v)).map Prod.fst =
      statsKeys := by
    rw [List.map_map, ← map_key_statsFields (δ := δ)]
    rfl
  rw [hkeys]
  exact statsKeys_facts.2

/-- **The page fits, and is the document.** -/
theorem formatJson_fits (hlib : lib.Documented) {r : ReportedStats δ} (hr : r.Finite lib)
    (tickNs healthNs : ℕ) (wallTime : ℤ) : (r.formatJson lib tickNs healthNs wallTime 16384).1 =
      some (statsDocument lib (r.variables lib tickNs healthNs wallTime)).encode := by
  have hv := ReportedStats.variables_printable hlib hr tickNs healthNs wallTime
  simp only [ReportedStats.formatJson, snprintf_stats, Option.bind_some]
  exact if_neg (Nat.not_le.mpr (length_statsDocument hlib hv))

end Page

/-! ### The reply -/

theorem charOf_bytesOf {text : CString} (h : ∀ c ∈ text, IsPrintable c) :
    (bytesOf text).map charOf = text := by
  rw [bytesOf, List.map_map]
  refine (List.map_congr_left fun c hc => ?_).trans (List.map_id text)
  obtain ⟨hlow, hhigh⟩ := h c hc
  refine charOf_byteOf ⟨by omega, ?_⟩
  rintro rfl
  exact absurd hlow (by decide)

theorem handleClient_of_asksForStats {files : FileSystem} {statsJson : Option (List UInt8)}
    {server : WebServer} {received : List UInt8} (hasks : asksForStats received = true) :
    handleClient files statsJson server received = handleApiStats statsJson := by
  obtain ⟨⟨method, path⟩, hline, hboth⟩ := (Option.any_eq_true _ _).mp hasks
  rw [Bool.and_eq_true, decide_eq_true_eq, decide_eq_true_eq] at hboth
  obtain ⟨rfl, hpath⟩ := hboth
  rw [handleClient_of_get hline, if_pos hpath]

/-- **The statistics can always be read.** Every request for them is answered with 200 and a body in which a
JSON reader finds under each key the value of `report_stats_t` that it stands for. -/
theorem apiStats_readable [Div δ] [OfScientific δ] {lib : CLibrary δ} (hlib : lib.Documented)
    {r : ReportedStats δ} (hr : r.Finite lib) (tickNs healthNs : ℕ) (wallTime : ℤ) (files : FileSystem)
    (server : WebServer) {received : List UInt8} (hasks : asksForStats received = true) :
    let v := r.variables lib tickNs healthNs wallTime
    ∃ body, (handleClient files ((r.formatJson lib tickNs healthNs wallTime 16384).1.map bytesOf)
        server received).response =
        some ⟨200, "OK".toList, "application/json; charset=utf-8".toList, body.length, body⟩ ∧
      Json.decode (body.map charOf) = some (statsDocument lib v) ∧
      ∀ field ∈ statsFields, (statsDocument lib v).field field.1.toList = some (field.2.json lib v) := by
  intro v
  have hdocument : (statsDocument lib v).WellFormed :=
    wellFormed_statsDocument hlib (ReportedStats.variables_printable hlib hr tickNs healthNs wallTime)
  refine ⟨bytesOf (statsDocument lib v).encode, ?_, ?_, fun _ => field_statsDocument⟩
  · rw [handleClient_of_asksForStats hasks, formatJson_fits hlib hr]
    rfl
  · rw [charOf_bytesOf (isPrintable_encode hdocument)]
    exact Json.decode_encode hdocument

/-- A library that prints zeros, at one time. -/
def zeroLibrary : CLibrary ℚ where
  isFinite x := decide (x = 0)
  printDouble places _ := if places = 0 then ['0'] else '0' :: '.' :: .replicate places '0'
  strftime _ := "2024-05-01 12:00:00 +0000".toList

/-- The counters of a program that has received three packets. -/
def startedStats : ReportedStats ℚ where
  toWindowedStats := { windowedStatsInit 0 with packetsReceived := fun streamId => 2 - streamId.toInt.toNat }
  unrecoverableNullRegions := 0
  pcrTimingConfidence _ := 0
  pcrBitrateBps _ := 0
  pcrDelayNs := 0
  pcrDelaySamples := 0
  observedSecondaryLatencyMinNs := 0
  observedSecondaryLatencyAvgNs := 0
  observedSecondaryLatencyMaxNs := 0
  observedSecondaryLatencyJitterNs := 0
  observedSecondaryLatencySamples := 0
  lastRecoveryEventTime := 0

def statsRequest : List UInt8 := "GET /api/stats?_=1 HTTP/1.1\r\n\r\n".toUTF8.toList

theorem zeroLibrary_documented : zeroLibrary.Documented where
  printDouble places hplaces x _ := by
    have hall : ∀ places ≤ 3, isJsonNumber (zeroLibrary.printDouble places 0) = true ∧
        (zeroLibrary.printDouble places 0).length ≤ 320 := by decide +kernel
    exact hall places hplaces
  quotient x hx := by
    have hzero : x = 0 := of_decide_eq_true hx
    rw [hzero]
    exact decide_eq_true (zero_div _)
  strftime _ := by
    have htime : IsPrintedTime "2024-05-01 12:00:00 +0000".toList :=
      isPrintedTime_literal (by decide +kernel)
    exact htime

/-- Two packets of the primary and one of the secondary are reported, and no recovery. -/
theorem apiStats_readable_startedStats :
    ∃ body document, (handleClient siblingFiles
        ((startedStats.formatJson zeroLibrary 5 6 7 16384).1.map bytesOf) (webServerOpen "webroot".toList)
        statsRequest).response =
        some ⟨200, "OK".toList, "application/json; charset=utf-8".toList, body.length, body⟩ ∧
      Json.decode (body.map charOf) = some document ∧
      document.field "packets_received".toList = some (.arr [.ofNat 2, .ofNat 1]) ∧
      document.field "last_recovery_event".toList = some (.str "Never".toList) := by
  have hfinite : startedStats.Finite zeroLibrary :=
    ⟨fun _ => rfl, rfl, rfl, rfl, rfl, rfl⟩
  have hasks : asksForStats statsRequest = true := by decide +kernel
  obtain ⟨body, hresponse, hdecode, hfields⟩ := apiStats_readable zeroLibrary_documented hfinite
    5 6 7 siblingFiles (webServerOpen "webroot".toList) hasks
  refine ⟨body, _, hresponse, hdecode, ?_, ?_⟩
  · exact hfields ("packets_received", .counters (·.stats.packetsReceived)) (by simp [statsFields])
  · exact hfields ("last_recovery_event", .word (·.lastRecoveryEvent)) (by simp [statsFields])

end TwoStream
