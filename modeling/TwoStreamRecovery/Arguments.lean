import TwoStreamRecovery.NumericValues
import Mathlib.Data.List.Nodup

/-!
# The arguments as a whole (`command_line_parse`)

* `Setting`: an option with its value; `Setting.args`: the arguments that give it.
* **`commandLineParse_eq_ok_iff`**: which command lines are accepted, and what their options are.
* **`commandLineParse_perm`**: the order of different options does not matter.
* **`commandLineParse_range`**: which options can be given.
-/

namespace TwoStream

/-! ### Settings -/

/-- The name of an option with a text. -/
def TextOption.name : TextOption → String
  | .inputPrimaryUrl => "--input-primary-url"
  | .inputSecondaryUrl => "--input-secondary-url"
  | .inputPrimaryInterface => "--input-primary-interface"
  | .inputSecondaryInterface => "--input-secondary-interface"
  | .outputUrl => "--output-url"

/-- An option as it is given, with the text of its value. -/
inductive Setting where
  | text (option : TextOption) (value : CString)
  | numeric (option : NumericOption) (value : CString)
  | consoleReport
  deriving DecidableEq

def Setting.option : Setting → CommandLineOption
  | .text option _ => .text option
  | .numeric option _ => .numeric option
  | .consoleReport => .consoleReport

def Setting.args : Setting → List CString
  | .text option value => [option.name.toList, value]
  | .numeric option value => [option.name.toList, value]
  | .consoleReport => ["--console-report".toList]

/-- The value of a numeric option is converted to its end and in the range. -/
def Setting.Accepted : Setting → Prop
  | .numeric option value =>
    (strtoull value).isComplete value = true ∧ option.inRange (strtoull value).value
  | _ => True

/-- What the setting makes of the options. -/
def Setting.store (options : CommandLineOptions) : Setting → CommandLineOptions
  | .text option value => option.store value options
  | .numeric option value => option.store ((strtoull value).value * option.unit) options
  | .consoleReport => { options with consoleReport := true }

/-- The options that may be given once only. -/
def CommandLineOption.once : CommandLineOption → Bool
  | .text .outputUrl => false
  | .text _ => true
  | .numeric .httpPort => true
  | .numeric _ => false
  | .consoleReport => true
  | .help => false

/-- The option has been given before, as far as the parser can tell. -/
def CommandLineOption.taken (options : CommandLineOptions) : CommandLineOption → Bool
  | .text option => (option.given options).isSome
  | .numeric .httpPort => options.httpPort != 0
  | .consoleReport => options.consoleReport
  | _ => false

variable {options options' result : CommandLineOptions} {setting : Setting} {settings : List Setting}
  {name : CString} {args rest : List CString}

theorem ofName_text (option : TextOption) :
    CommandLineOption.ofName option.name.toList = some (.text option) := by
  simp only [CommandLineOption.ofName, String.toList_inj]
  cases option <;> simp only [TextOption.name, String.reduceEq, reduceIte]

theorem ofName_consoleReport :
    CommandLineOption.ofName "--console-report".toList = some .consoleReport := by
  simp only [CommandLineOption.ofName, String.toList_inj, String.reduceEq, reduceIte]

theorem ite_some_eq_some {α : Type} {c : Prop} [Decidable c] {a x : α} {b : Option α}
    (h : (if c then some a else b) = some x) : (c ∧ a = x) ∨ b = some x := by
  split at h
  · next hc => exact .inl ⟨hc, Option.some.inj h⟩
  · exact .inr h

/-- An option but the help page is found under its own name. -/
theorem eq_of_ofName {option : CommandLineOption} (h : CommandLineOption.ofName name = some option) :
    match option with
    | .text option => name = option.name.toList
    | .numeric option => name = option.name.toList
    | .consoleReport => name = "--console-report".toList
    | .help => True := by
  rw [CommandLineOption.ofName] at h
  iterate 15
    obtain ⟨hname, rfl⟩ | h := ite_some_eq_some h
    · exact hname
  obtain ⟨-, rfl⟩ | h := ite_some_eq_some h
  · trivial
  · cases h

/-! ### One setting -/

/-- **The step of the command line for a setting.** -/
theorem commandLineParseFrom_setting :
    commandLineParseFrom options (setting.args ++ rest) = .ok result ↔
      setting.option.taken options = false ∧ setting.Accepted ∧
        commandLineParseFrom (setting.store options) rest = .ok result := by
  cases setting with
  | text option value =>
    have hstep : commandLineOption options option.name.toList (some value) =
        if (option.given options).isSome then .error (.errors [.duplicateOption option.name.toList])
        else .ok (option.store value options, true) := by
      rw [commandLineOption, ofName_text]
    rw [Setting.args, List.cons_append, List.singleton_append, commandLineParseFrom, List.head?_cons,
      List.tail_cons, hstep]
    by_cases hgiven : (option.given options).isSome = true
    · rw [if_pos hgiven]
      refine iff_of_false (by simp) fun h => ?_
      rw [Setting.option, CommandLineOption.taken, hgiven] at h
      cases h.1
    · rw [if_neg hgiven]
      exact ⟨fun h => ⟨Bool.eq_false_iff.mpr hgiven, trivial, h⟩, fun h => h.2.2⟩
  | numeric option value =>
    rw [Setting.args, List.cons_append, List.singleton_append]
    by_cases hport : option = .httpPort → options.httpPort = 0
    · have hfree : (Setting.numeric option value).option.taken options = false := by
        cases option with
        | httpPort => simpa [Setting.option, CommandLineOption.taken] using hport rfl
        | _ => rfl
      rw [commandLineParseFrom_numeric hport, Setting.Accepted, and_assoc, and_iff_right hfree]
      rfl
    · obtain ⟨rfl, hgiven⟩ := Classical.not_imp.mp hport
      have hstep : commandLineOption options NumericOption.httpPort.name.toList (some value) =
          .error (.errors [.duplicateOption NumericOption.httpPort.name.toList]) := by
        simp only [commandLineOption, ofName_name, true_and, if_pos hgiven]
      rw [commandLineParseFrom, List.head?_cons, hstep]
      refine iff_of_false (by simp) fun h => hgiven ?_
      simpa [Setting.option, CommandLineOption.taken] using h.1
  | consoleReport =>
    have hstep : commandLineOption options "--console-report".toList rest.head? =
        if options.consoleReport then .error (.errors [.duplicateOption "--console-report".toList])
        else .ok ({ options with consoleReport := true }, false) := by
      rw [commandLineOption, ofName_consoleReport]
    rw [Setting.args, List.singleton_append, commandLineParseFrom, hstep]
    by_cases hgiven : options.consoleReport = true
    · rw [if_pos hgiven]
      refine iff_of_false (by simp) fun h => ?_
      rw [Setting.option, CommandLineOption.taken, hgiven] at h
      cases h.1
    · rw [if_neg hgiven]
      exact ⟨fun h => ⟨Bool.eq_false_iff.mpr hgiven, trivial, h⟩, fun h => h.2.2⟩

/-- Accepted arguments begin with a setting. -/
theorem exists_setting (h : commandLineParseFrom options (name :: args) = .ok result) :
    ∃ setting rest, name :: args = Setting.args setting ++ rest := by
  cases hname : CommandLineOption.ofName name with
  | none =>
    rw [commandLineParseFrom, commandLineOption, hname] at h
    cases h
  | some option =>
    have hown := eq_of_ofName hname
    cases option with
    | text option =>
      cases args with
      | nil =>
        rw [commandLineParseFrom, commandLineOption, hname] at h
        cases h
      | cons value rest => exact ⟨.text option value, rest, by rw [hown]; rfl⟩
    | numeric option =>
      cases args with
      | nil =>
        have hstop : ∃ stop, commandLineOption options name none = .error stop := by
          simp only [commandLineOption, hname]
          split <;> exact ⟨_, rfl⟩
        obtain ⟨stop, hstop⟩ := hstop
        rw [commandLineParseFrom, List.head?_nil, hstop] at h
        cases h
      | cons value rest => exact ⟨.numeric option value, rest, by rw [hown]; rfl⟩
    | consoleReport => exact ⟨.consoleReport, args, by rw [hown]; rfl⟩
    | help =>
      rw [commandLineParseFrom, commandLineOption, hname] at h
      cases h

/-! ### All settings -/

/-- After a setting, its option has been given, and no other has. -/
theorem taken_store (haccepted : setting.Accepted) {option : CommandLineOption}
    (honce : option.once = true) :
    option.taken (setting.store options) = (option.taken options || decide (option = setting.option)) := by
  cases setting with
  | text option' value =>
    cases option with
    | text option =>
      cases option <;> cases option' <;>
        simp [CommandLineOption.taken, Setting.store, TextOption.store, TextOption.given,
          Setting.option] at honce ⊢
      cases honce
    | numeric option =>
      cases option <;> cases option' <;>
        simp [CommandLineOption.taken, Setting.store, TextOption.store, Setting.option]
    | consoleReport =>
      cases option' <;> simp [CommandLineOption.taken, Setting.store, TextOption.store, Setting.option]
    | help => cases honce
  | numeric option' value =>
    cases option with
    | text option =>
      cases option <;> cases option' <;>
        simp [CommandLineOption.taken, Setting.store, NumericOption.store, TextOption.given,
          Setting.option]
    | numeric option =>
      cases option with
      | httpPort =>
        cases option' with
        | httpPort =>
          have hport : 0 < (strtoull value).value := haccepted.2.1
          simp [CommandLineOption.taken, Setting.store, NumericOption.store, Setting.option,
            NumericOption.unit, NumericOption.target, Nat.ne_of_gt hport]
        | _ => simp [CommandLineOption.taken, Setting.store, NumericOption.store, Setting.option]
      | _ => cases honce
    | consoleReport =>
      cases option' <;> simp [CommandLineOption.taken, Setting.store, NumericOption.store, Setting.option]
    | help => cases honce
  | consoleReport =>
    cases option with
    | text option =>
      cases option <;> simp [CommandLineOption.taken, Setting.store, TextOption.given, Setting.option]
    | numeric option =>
      cases option <;> simp [CommandLineOption.taken, Setting.store, Setting.option]
    | consoleReport => simp [CommandLineOption.taken, Setting.store, Setting.option]
    | help => cases honce

theorem not_taken_of_not_once {option : CommandLineOption} (h : option.once = false) :
    option.taken options = false := by
  cases option with
  | text option => cases option <;> first | rfl | cases h
  | numeric option => cases option <;> first | rfl | cases h
  | consoleReport => cases h
  | help => rfl

/-- Every value is accepted, and no option is given too often. -/
structure ValidSettings (options : CommandLineOptions) (settings : List Setting) : Prop where
  accepted : ∀ setting ∈ settings, setting.Accepted
  once : ((settings.map Setting.option).filter CommandLineOption.once).Nodup
  fresh : ∀ setting ∈ settings, setting.option.taken options = false

theorem validSettings_cons :
    ValidSettings options (setting :: settings) ↔
      setting.option.taken options = false ∧ setting.Accepted ∧
        ValidSettings (setting.store options) settings := by
  constructor
  · rintro ⟨haccepted, honce, hfresh⟩
    have hfirst := haccepted setting List.mem_cons_self
    refine ⟨hfresh setting List.mem_cons_self, hfirst, fun s hs => haccepted s (List.mem_cons_of_mem _ hs),
      ?_, fun s hs => ?_⟩
    · exact honce.sublist ((List.sublist_cons_self _ _).filter _)
    · by_cases hs1 : s.option.once = true
      · rw [taken_store hfirst hs1, hfresh s (List.mem_cons_of_mem _ hs), Bool.false_or,
          decide_eq_false_iff_not]
        intro hsame
        rw [List.map_cons, List.filter_cons_of_pos (hsame ▸ hs1), List.nodup_cons] at honce
        refine honce.1 (List.mem_filter.mpr ⟨?_, hsame ▸ hs1⟩)
        exact hsame ▸ List.mem_map_of_mem hs
      · exact not_taken_of_not_once (Bool.eq_false_iff.mpr hs1)
  · rintro ⟨hfree, hfirst, haccepted, honce, hfresh⟩
    have hother (s : Setting) (hs : s ∈ settings) (hs1 : s.option.once = true) :
        s.option.taken options = false ∧ s.option ≠ setting.option := by
      have htaken := hfresh s hs
      rw [taken_store hfirst hs1, Bool.or_eq_false_iff, decide_eq_false_iff_not] at htaken
      exact htaken
    refine ⟨List.forall_mem_cons.mpr ⟨hfirst, haccepted⟩, ?_,
      List.forall_mem_cons.mpr ⟨hfree, fun s hs => ?_⟩⟩
    · rw [List.map_cons]
      by_cases hs1 : setting.option.once = true
      · rw [List.filter_cons_of_pos hs1, List.nodup_cons]
        refine ⟨fun hmem => ?_, honce⟩
        obtain ⟨hmem, -⟩ := List.mem_filter.mp hmem
        obtain ⟨s, hs, hsame⟩ := List.mem_map.mp hmem
        exact (hother s hs (hsame ▸ hs1)).2 hsame
      · rw [List.filter_cons_of_neg hs1]
        exact honce
    · by_cases hs1 : s.option.once = true
      · exact (hother s hs hs1).1
      · exact not_taken_of_not_once (Bool.eq_false_iff.mpr hs1)

theorem commandLineParseFrom_settings :
    commandLineParseFrom options (settings.flatMap Setting.args) = .ok result ↔
      ValidSettings options settings ∧ result = settings.foldl Setting.store options ∧
        result.inputPrimaryUrl.isSome ∧ result.inputSecondaryUrl.isSome := by
  induction settings generalizing options with
  | nil =>
    have hvalid : ValidSettings options [] := ⟨by simp, by simp, by simp⟩
    rw [List.flatMap_nil, commandLineParseFrom, and_iff_right hvalid, List.foldl_nil]
    split
    · next hmissing =>
      refine iff_of_false (by simp) ?_
      rintro ⟨rfl, hprimary, hsecondary⟩
      simp [Option.isSome_iff_ne_none.mp hprimary, Option.isSome_iff_ne_none.mp hsecondary] at hmissing
    · next hgiven =>
      simp only [Bool.or_eq_true, Option.isNone_iff_eq_none, not_or, ← Option.isSome_iff_ne_none] at hgiven
      rw [Except.ok.injEq]
      constructor
      · rintro rfl
        exact ⟨rfl, hgiven.1, hgiven.2⟩
      · exact fun h => h.1.symm
  | cons setting settings ih =>
    rw [List.flatMap_cons, commandLineParseFrom_setting, ih, validSettings_cons, List.foldl_cons, and_assoc,
      and_assoc]

theorem exists_settings (h : commandLineParseFrom options args = .ok result) :
    ∃ settings : List Setting, args = settings.flatMap Setting.args := by
  induction hn : args.length using Nat.strong_induction_on generalizing options args with
  | h n ih =>
    cases args with
    | nil => exact ⟨[], rfl⟩
    | cons name args =>
      obtain ⟨setting, rest, hargs⟩ := exists_setting h
      rw [hargs] at h hn ⊢
      have hpos : 0 < setting.args.length := by cases setting <;> exact Nat.succ_pos _
      obtain ⟨-, -, hrest⟩ := commandLineParseFrom_setting.mp h
      obtain ⟨settings, rfl⟩ := ih rest.length (by rw [← hn, List.length_append]; omega) hrest rfl
      exact ⟨setting :: settings, rfl⟩

/-! ### Accepted command lines -/

/-- Settings that the command line accepts: every value is, no option is given too often, and both
inputs are. -/
structure CompleteSettings (settings : List Setting) : Prop where
  accepted : ∀ setting ∈ settings, setting.Accepted
  once : ((settings.map Setting.option).filter CommandLineOption.once).Nodup
  primary : .text .inputPrimaryUrl ∈ settings.map Setting.option
  secondary : .text .inputSecondaryUrl ∈ settings.map Setting.option

theorem taken_foldl (haccepted : ∀ setting ∈ settings, setting.Accepted) {option : CommandLineOption}
    (honce : option.once = true) :
    option.taken (settings.foldl Setting.store options) =
      (option.taken options || decide (option ∈ settings.map Setting.option)) := by
  induction settings generalizing options with
  | nil => simp
  | cons setting settings ih =>
    obtain ⟨hfirst, hrest⟩ := List.forall_mem_cons.mp haccepted
    rw [List.foldl_cons, ih hrest, taken_store hfirst honce, Bool.or_assoc, List.map_cons]
    simp only [List.mem_cons, Bool.decide_or]

theorem taken_defaults (option : CommandLineOption) : option.taken commandLineDefaults = false := by
  cases option with
  | text option => cases option <;> rfl
  | numeric option => cases option <;> rfl
  | consoleReport => rfl
  | help => rfl

theorem given_foldl (haccepted : ∀ setting ∈ settings, setting.Accepted) (option : TextOption)
    (honce : (CommandLineOption.text option).once = true) :
    (option.given (settings.foldl Setting.store commandLineDefaults)).isSome = true ↔
      .text option ∈ settings.map Setting.option := by
  have h : (CommandLineOption.text option).taken (settings.foldl Setting.store commandLineDefaults) = _ :=
    taken_foldl haccepted honce
  rw [taken_defaults, Bool.false_or, CommandLineOption.taken] at h
  rw [h, decide_eq_true_iff]

/-- The command line of some settings. -/
theorem commandLineParse_settings :
    commandLineParse (settings.flatMap Setting.args) = .ok options ↔
      CompleteSettings settings ∧ options = settings.foldl Setting.store commandLineDefaults := by
  rw [commandLineParse, commandLineParseFrom_settings]
  constructor
  · rintro ⟨hvalid, rfl, hprimary, hsecondary⟩
    exact ⟨⟨hvalid.accepted, hvalid.once,
      (given_foldl hvalid.accepted .inputPrimaryUrl rfl).mp hprimary,
      (given_foldl hvalid.accepted .inputSecondaryUrl rfl).mp hsecondary⟩, rfl⟩
  · rintro ⟨hcomplete, rfl⟩
    exact ⟨⟨hcomplete.accepted, hcomplete.once, fun setting _ => taken_defaults setting.option⟩, rfl,
      (given_foldl hcomplete.accepted .inputPrimaryUrl rfl).mpr hcomplete.primary,
      (given_foldl hcomplete.accepted .inputSecondaryUrl rfl).mpr hcomplete.secondary⟩

/-- **The accepted command lines** are those of complete settings; each setting is stored in turn. -/
theorem commandLineParse_eq_ok_iff (args : List CString) (options : CommandLineOptions) :
    commandLineParse args = .ok options ↔
      ∃ settings : List Setting, args = settings.flatMap Setting.args ∧ CompleteSettings settings ∧
        options = settings.foldl Setting.store commandLineDefaults := by
  constructor
  · intro h
    obtain ⟨settings, rfl⟩ := exists_settings h
    exact ⟨settings, rfl, commandLineParse_settings.mp h⟩
  · rintro ⟨settings, rfl, h⟩
    exact commandLineParse_settings.mpr h

/-! ### The order of the settings -/

theorem store_comm (options : CommandLineOptions) {first second : Setting}
    (h : first.option ≠ second.option) :
    second.store (first.store options) = first.store (second.store options) := by
  cases first with
  | text option value =>
    cases second with
    | text option' value' => cases option <;> cases option' <;> first | exact absurd rfl h | rfl
    | numeric option' value' => cases option <;> cases option' <;> rfl
    | consoleReport => cases option <;> rfl
  | numeric option value =>
    cases second with
    | text option' value' => cases option <;> cases option' <;> rfl
    | numeric option' value' =>
      simp only [Setting.store]
      generalize (strtoull value).value * option.unit = n
      generalize (strtoull value').value * option'.unit = n'
      cases option <;> cases option' <;> first | exact absurd rfl h | rfl
    | consoleReport => cases option <;> rfl
  | consoleReport =>
    cases second with
    | text option' value' => cases option' <;> rfl
    | numeric option' value' => cases option' <;> rfl
    | consoleReport => exact absurd rfl h

theorem CompleteSettings.perm {settings' : List Setting} (hperm : settings.Perm settings')
    (h : CompleteSettings settings) : CompleteSettings settings' where
  accepted setting hs := h.accepted setting (hperm.mem_iff.mpr hs)
  once := (((hperm.map Setting.option).filter _).nodup_iff).mp h.once
  primary := (hperm.map Setting.option).mem_iff.mp h.primary
  secondary := (hperm.map Setting.option).mem_iff.mp h.secondary

/-- **The order does not matter**, if no option is given twice. -/
theorem commandLineParse_perm {settings' : List Setting} (hperm : settings.Perm settings')
    (honce : (settings.map Setting.option).Nodup) (options : CommandLineOptions) :
    commandLineParse (settings.flatMap Setting.args) = .ok options ↔
      commandLineParse (settings'.flatMap Setting.args) = .ok options := by
  have hcomm : ∀ x ∈ settings, ∀ y ∈ settings, ∀ options : CommandLineOptions,
      y.store (x.store options) = x.store (y.store options) := by
    intro x hx y hy options
    by_cases hsame : x = y
    · rw [hsame]
    · exact store_comm options fun h => hsame (List.inj_on_of_nodup_map honce hx hy h)
  have hstored : settings.foldl Setting.store commandLineDefaults =
      settings'.foldl Setting.store commandLineDefaults :=
    hperm.foldl_eq' (fun x hx y hy options => hcomm x hx y hy options) commandLineDefaults
  rw [commandLineParse_settings, commandLineParse_settings, hstored]
  exact and_congr_left fun _ => ⟨CompleteSettings.perm hperm, CompleteSettings.perm hperm.symm⟩

/-- Both inputs and the port of the web server. -/
def threeSettings : List Setting :=
  [.text .inputPrimaryUrl "udp://239.1.1.1:4001".toList,
    .text .inputSecondaryUrl "udp://239.1.1.2:4002".toList, .numeric .httpPort "8080".toList]

/-- They may be given in reverse. -/
theorem commandLineParse_perm_threeSettings :
    commandLineParse (threeSettings.reverse.flatMap Setting.args) =
      .ok (threeSettings.foldl Setting.store commandLineDefaults) := by
  have hport : (strtoull "8080".toList).isComplete "8080".toList = true ∧
      0 < (strtoull "8080".toList).value ∧ (strtoull "8080".toList).value ≤ 65535 := by decide +kernel
  have hcomplete : CompleteSettings threeSettings :=
    ⟨List.forall_mem_cons.mpr ⟨trivial, List.forall_mem_cons.mpr ⟨trivial,
      List.forall_mem_singleton.mpr hport⟩⟩, by decide, by decide, by decide⟩
  exact (commandLineParse_perm (List.reverse_perm threeSettings).symm (by decide) _).mp
    (commandLineParse_settings.mpr ⟨hcomplete, rfl⟩)

/-! ### The options that can be given -/

/-- A number of milliseconds in nanoseconds. -/
def IsMilliseconds (ns : ℕ) : Prop := 1000000 ∣ ns ∧ ns < 2 ^ 64

/-- The numbers that the numeric options allow. -/
structure InRange (options : CommandLineOptions) : Prop where
  httpPort : options.httpPort ≤ 65535
  primaryDelay : IsMilliseconds options.recoveryConfig.primaryDelayNs
  secondaryLatency : IsMilliseconds options.maxSecondaryLatencyNs
  alignmentWindow : IsMilliseconds options.recoveryConfig.alignmentWindowNs
  history : options.recoveryConfig.historyMs < 2 ^ 64
  primaryOutage : IsMilliseconds options.recoveryConfig.primaryOutageNs
  primaryReturn : IsMilliseconds options.recoveryConfig.primaryReturnNs
  burst : options.recoveryConfig.maxContentBurstPackets ≤ 255
  confidence : options.recoveryConfig.minAlignmentConfidence ≤ 100

theorem inRange_defaults : InRange commandLineDefaults := by
  refine ⟨?_, ⟨?_, ?_⟩, ⟨?_, ?_⟩, ⟨?_, ?_⟩, ?_, ⟨?_, ?_⟩, ⟨?_, ?_⟩, ?_, ?_⟩ <;> decide

theorem InRange.store (h : InRange options) (haccepted : setting.Accepted) :
    InRange (setting.store options) := by
  cases setting with
  | text option value => cases option <;> exact ⟨h.1, h.2, h.3, h.4, h.5, h.6, h.7, h.8, h.9⟩
  | consoleReport => exact ⟨h.1, h.2, h.3, h.4, h.5, h.6, h.7, h.8, h.9⟩
  | numeric option value =>
    obtain ⟨-, hin⟩ := haccepted
    have hms (hms : (strtoull value).value * 1000000 < 2 ^ 64) :
        IsMilliseconds ((strtoull value).value * 1000000) := ⟨Nat.dvd_mul_left _ _, hms⟩
    have hone (n : ℕ) : n * 1 = n := Nat.mul_one n
    cases option with
    | httpPort => exact ⟨(hone _).trans_le hin.2, h.2, h.3, h.4, h.5, h.6, h.7, h.8, h.9⟩
    | primaryDelayMs => exact ⟨h.1, hms hin, h.3, h.4, h.5, h.6, h.7, h.8, h.9⟩
    | maxSecondaryLatencyMs => exact ⟨h.1, h.2, hms hin, h.4, h.5, h.6, h.7, h.8, h.9⟩
    | alignmentWindowMs => exact ⟨h.1, h.2, h.3, hms hin, h.5, h.6, h.7, h.8, h.9⟩
    | historyMs => exact ⟨h.1, h.2, h.3, h.4, (hone _).trans_lt hin, h.6, h.7, h.8, h.9⟩
    | primaryOutageMs => exact ⟨h.1, h.2, h.3, h.4, h.5, hms hin, h.7, h.8, h.9⟩
    | primaryReturnMs => exact ⟨h.1, h.2, h.3, h.4, h.5, h.6, hms hin, h.8, h.9⟩
    | maxContentBurstPackets => exact ⟨h.1, h.2, h.3, h.4, h.5, h.6, h.7, (hone _).trans_le hin, h.9⟩
    | minAlignmentConfidence => exact ⟨h.1, h.2, h.3, h.4, h.5, h.6, h.7, h.8, (hone _).trans_le hin⟩

theorem inRange_foldl (haccepted : ∀ setting ∈ settings, setting.Accepted) (h : InRange options) :
    InRange (settings.foldl Setting.store options) := by
  induction settings generalizing options with
  | nil => exact h
  | cons setting settings ih =>
    obtain ⟨hfirst, hrest⟩ := List.forall_mem_cons.mp haccepted
    exact ih hrest (h.store hfirst)

/-- The settings that give some options. -/
def CommandLineOptions.toSettings (options : CommandLineOptions) : List Setting :=
  (options.inputPrimaryUrl.map (Setting.text .inputPrimaryUrl)).toList ++
  (options.inputSecondaryUrl.map (Setting.text .inputSecondaryUrl)).toList ++
  (options.inputPrimaryInterface.map (Setting.text .inputPrimaryInterface)).toList ++
  (options.inputSecondaryInterface.map (Setting.text .inputSecondaryInterface)).toList ++
  (if options.httpPort = 0 then [] else [.numeric .httpPort (Nat.toDigits 10 options.httpPort)]) ++
  (if options.consoleReport then [.consoleReport] else []) ++
  [.text .outputUrl options.outputUrl,
    .numeric .primaryDelayMs (Nat.toDigits 10 (options.recoveryConfig.primaryDelayNs / 1000000)),
    .numeric .maxSecondaryLatencyMs (Nat.toDigits 10 (options.maxSecondaryLatencyNs / 1000000)),
    .numeric .alignmentWindowMs (Nat.toDigits 10 (options.recoveryConfig.alignmentWindowNs / 1000000)),
    .numeric .historyMs (Nat.toDigits 10 options.recoveryConfig.historyMs),
    .numeric .primaryOutageMs (Nat.toDigits 10 (options.recoveryConfig.primaryOutageNs / 1000000)),
    .numeric .primaryReturnMs (Nat.toDigits 10 (options.recoveryConfig.primaryReturnNs / 1000000)),
    .numeric .maxContentBurstPackets (Nat.toDigits 10 options.recoveryConfig.maxContentBurstPackets),
    .numeric .minAlignmentConfidence (Nat.toDigits 10 options.recoveryConfig.minAlignmentConfidence)]

/-- A number is read back from its digits. -/
theorem strtoull_toDigits {n : ℕ} (hn : n < 2 ^ 64) :
    (strtoull (Nat.toDigits 10 n)).isComplete (Nat.toDigits 10 n) = true ∧
      (strtoull (Nat.toDigits 10 n)).value = n := by
  refine strtoull_isComplete_iff.mpr ⟨[], [], Nat.toDigits 10 n,
    isNumeral_iff_of_no_padding.mpr ⟨isDecimal_toDigits n, rfl⟩, ?_, ?_⟩
  · rwa [decimalValue_toDigits]
  · rw [decimalValue_toDigits]
    rfl

theorem accepted_toDigits {option : NumericOption} {n : ℕ} (hn : option.inRange n) :
    (Setting.numeric option (Nat.toDigits 10 n)).Accepted := by
  obtain ⟨hcomplete, hvalue⟩ := strtoull_toDigits (NumericOption.inRange_lt hn)
  exact ⟨hcomplete, hvalue.symm ▸ hn⟩

theorem IsMilliseconds.div_mul {ns : ℕ} (h : IsMilliseconds ns) : ns / 1000000 * 1000000 = ns :=
  Nat.div_mul_cancel h.1

theorem IsMilliseconds.div_mul_lt {ns : ℕ} (h : IsMilliseconds ns) : ns / 1000000 * 1000000 < 2 ^ 64 :=
  h.div_mul.trans_lt h.2

theorem accepted_toSettings (h : InRange options) : ∀ setting ∈ options.toSettings, setting.Accepted := by
  have htext (option : TextOption) (x : Option CString) :
      ∀ setting ∈ (x.map (Setting.text option)).toList, setting.Accepted := by
    cases x <;> simp [Setting.Accepted]
  simp only [CommandLineOptions.toSettings, List.forall_mem_append, List.forall_mem_cons]
  refine ⟨⟨⟨⟨⟨⟨htext _ _, htext _ _⟩, htext _ _⟩, htext _ _⟩, ?_⟩, ?_⟩, trivial,
    accepted_toDigits h.primaryDelay.div_mul_lt, accepted_toDigits h.secondaryLatency.div_mul_lt,
    accepted_toDigits h.alignmentWindow.div_mul_lt, accepted_toDigits h.history,
    accepted_toDigits h.primaryOutage.div_mul_lt, accepted_toDigits h.primaryReturn.div_mul_lt,
    accepted_toDigits h.burst, accepted_toDigits h.confidence, by simp⟩
  · split
    · simp
    · next hport =>
      exact List.forall_mem_singleton.mpr (accepted_toDigits ⟨Nat.pos_of_ne_zero hport, h.httpPort⟩)
  · split <;> simp [Setting.Accepted]

/-- The options but the help page, in the order of `toSettings`. -/
def allOptions : List CommandLineOption :=
  [.text .inputPrimaryUrl, .text .inputSecondaryUrl, .text .inputPrimaryInterface,
    .text .inputSecondaryInterface, .numeric .httpPort, .consoleReport, .text .outputUrl,
    .numeric .primaryDelayMs, .numeric .maxSecondaryLatencyMs, .numeric .alignmentWindowMs,
    .numeric .historyMs, .numeric .primaryOutageMs, .numeric .primaryReturnMs,
    .numeric .maxContentBurstPackets, .numeric .minAlignmentConfidence]

/-- Every option is given once at most. -/
theorem toSettings_once (options : CommandLineOptions) :
    ((options.toSettings.map Setting.option).filter CommandLineOption.once).Nodup := by
  have htext (option : TextOption) (x : Option CString) :
      ((x.map (Setting.text option)).toList.map Setting.option).Sublist [.text option] := by
    cases x <;> simp [Setting.option]
  have hport : ((if options.httpPort = 0 then []
      else [Setting.numeric .httpPort (Nat.toDigits 10 options.httpPort)]).map Setting.option).Sublist
        [.numeric .httpPort] := by
    split <;> simp [Setting.option]
  have hreport : ((if options.consoleReport then [Setting.consoleReport] else []).map
      Setting.option).Sublist [.consoleReport] := by
    split <;> simp [Setting.option]
  have hall := ((((((htext .inputPrimaryUrl options.inputPrimaryUrl).append
    (htext .inputSecondaryUrl options.inputSecondaryUrl)).append
      (htext .inputPrimaryInterface options.inputPrimaryInterface)).append
        (htext .inputSecondaryInterface options.inputSecondaryInterface)).append hport).append
          hreport).append (List.Sublist.refl (allOptions.drop 6))
  simp only [← List.map_append] at hall
  refine List.Nodup.sublist (List.Sublist.filter _ ?_)
    (show (allOptions.filter CommandLineOption.once).Nodup by decide)
  rw [CommandLineOptions.toSettings, List.map_append]
  exact hall

theorem completeSettings_toSettings (hprimary : options.inputPrimaryUrl.isSome)
    (hsecondary : options.inputSecondaryUrl.isSome) (h : InRange options) :
    CompleteSettings options.toSettings := by
  obtain ⟨primary, hprimary⟩ := Option.isSome_iff_exists.mp hprimary
  obtain ⟨secondary, hsecondary⟩ := Option.isSome_iff_exists.mp hsecondary
  refine ⟨accepted_toSettings h, toSettings_once options, ?_, ?_⟩
  · simp [CommandLineOptions.toSettings, hprimary, Setting.option]
  · simp [CommandLineOptions.toSettings, hsecondary, Setting.option]

theorem store_toDigits (option : NumericOption) {n : ℕ} (hn : option.inRange n)
    (options : CommandLineOptions) :
    (Setting.numeric option (Nat.toDigits 10 n)).store options = option.store (n * option.unit) options := by
  rw [Setting.store, (strtoull_toDigits (NumericOption.inRange_lt hn)).2]

/-- **The settings of some options give them.** -/
theorem foldl_toSettings (h : InRange options) :
    options.toSettings.foldl Setting.store commandLineDefaults = options := by
  have hinputs : ((options.inputPrimaryUrl.map (Setting.text .inputPrimaryUrl)).toList ++
      (options.inputSecondaryUrl.map (Setting.text .inputSecondaryUrl)).toList ++
      (options.inputPrimaryInterface.map (Setting.text .inputPrimaryInterface)).toList ++
      (options.inputSecondaryInterface.map (Setting.text .inputSecondaryInterface)).toList).foldl
        Setting.store commandLineDefaults =
      { commandLineDefaults with
        inputPrimaryUrl := options.inputPrimaryUrl
        inputSecondaryUrl := options.inputSecondaryUrl
        inputPrimaryInterface := options.inputPrimaryInterface
        inputSecondaryInterface := options.inputSecondaryInterface } := by
    cases options.inputPrimaryUrl <;> cases options.inputSecondaryUrl <;>
      cases options.inputPrimaryInterface <;> cases options.inputSecondaryInterface <;> rfl
  have hport (o : CommandLineOptions) (ho : o.httpPort = 0) : (if options.httpPort = 0 then []
      else [Setting.numeric .httpPort (Nat.toDigits 10 options.httpPort)]).foldl Setting.store o =
        { o with httpPort := options.httpPort } := by
    split
    · next hzero => rw [hzero, List.foldl_nil, ← ho]
    · next hpos =>
      rw [List.foldl_cons, List.foldl_nil,
        store_toDigits .httpPort ⟨Nat.pos_of_ne_zero hpos, h.httpPort⟩]
      exact congrArg (fun n => { o with httpPort := n }) (Nat.mul_one _)
  have hreport (o : CommandLineOptions) (ho : o.consoleReport = false) :
      (if options.consoleReport then [Setting.consoleReport] else []).foldl Setting.store o =
        { o with consoleReport := options.consoleReport } := by
    split
    · next hreport => rw [hreport]; rfl
    · next hreport => rw [Bool.eq_false_iff.mpr hreport, List.foldl_nil, ← ho]
  rw [CommandLineOptions.toSettings, List.foldl_append, List.foldl_append, List.foldl_append, hinputs,
    hport _ rfl, hreport _ rfl]
  simp only [List.foldl_cons, List.foldl_nil,
    store_toDigits .primaryDelayMs h.primaryDelay.div_mul_lt,
    store_toDigits .maxSecondaryLatencyMs h.secondaryLatency.div_mul_lt,
    store_toDigits .alignmentWindowMs h.alignmentWindow.div_mul_lt,
    store_toDigits .historyMs h.history, store_toDigits .primaryOutageMs h.primaryOutage.div_mul_lt,
    store_toDigits .primaryReturnMs h.primaryReturn.div_mul_lt,
    store_toDigits .maxContentBurstPackets h.burst, store_toDigits .minAlignmentConfidence h.confidence]
  simp only [Setting.store, TextOption.store, NumericOption.store, NumericOption.unit,
    NumericOption.target, h.primaryDelay.div_mul, h.secondaryLatency.div_mul, h.alignmentWindow.div_mul,
    h.primaryOutage.div_mul, h.primaryReturn.div_mul, Nat.mul_one]

/-- **The options that some command line gives** are those in range with both inputs. -/
theorem commandLineParse_range (options : CommandLineOptions) :
    (∃ args, commandLineParse args = .ok options) ↔
      options.inputPrimaryUrl.isSome ∧ options.inputSecondaryUrl.isSome ∧ InRange options := by
  constructor
  · rintro ⟨args, hparse⟩
    obtain ⟨settings, rfl⟩ := exists_settings hparse
    obtain ⟨hcomplete, rfl⟩ := commandLineParse_settings.mp hparse
    exact ⟨(given_foldl hcomplete.accepted .inputPrimaryUrl rfl).mpr hcomplete.primary,
      (given_foldl hcomplete.accepted .inputSecondaryUrl rfl).mpr hcomplete.secondary,
      inRange_foldl hcomplete.accepted inRange_defaults⟩
  · rintro ⟨hprimary, hsecondary, h⟩
    exact ⟨options.toSettings.flatMap Setting.args, commandLineParse_settings.mpr
      ⟨completeSettings_toSettings hprimary hsecondary h, (foldl_toSettings h).symm⟩⟩

end TwoStream
