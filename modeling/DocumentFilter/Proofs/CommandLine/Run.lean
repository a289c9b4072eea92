import DocumentFilter.CommandLine.Run
import DocumentFilter.Proofs.CommandLine.Incidental

/-!
# Commands and the library

A run of a command is one call of the library and a line break: it succeeds if the settings can be
loaded and the call succeeds, and then it prints the result; otherwise it prints nothing and says
last what is wrong.  The options for the log and the colours have no part in this.
-/

namespace DocumentFilter
namespace CommandLine
namespace Command

/-- The command prints JSON, so that it has a layout to choose. -/
def printsJson : Command → Bool
  | compile _ | query _ => true
  | tokens _ | tree _ => false

/-- The library gives what a command asks for, and the text is how it is printed. -/
inductive Prints (settings : Settings) (compact : Bool) : Command → String → Prop
  | compile {filter : String} {predicate : Predicate} :
      DocumentFilter.compile filter settings.maxDepth = .ok predicate →
      Prints settings compact (.compile filter)
        (if compact then predicate.toJson.compact else predicate.toJson.pretty)
  | tokens {filter : String} {tokens : List Token} :
      tokenize filter = .ok tokens → Prints settings compact (.tokens filter) (Token.table tokens)
  | tree {filter : String} {root : Group} :
      parse filter settings.maxDepth = .ok root →
      Prints settings compact (.tree filter) (root.outline.pretty 0)
  | query {options : QueryOptions} {query : Query} :
      Query.build options settings = .ok query →
      Prints settings compact (.query options)
        (if compact then query.toJson.compact else query.toJson.pretty)

/-- The library refuses what a command asks for. -/
inductive Fails (settings : Settings) : Command → FilterError → Prop
  | compile {filter : String} {fault : FilterError} :
      DocumentFilter.compile filter settings.maxDepth = .error fault →
      Fails settings (.compile filter) fault
  | tokens {filter : String} {fault : LexError} :
      tokenize filter = .error fault → Fails settings (.tokens filter) (.lex fault)
  | tree {filter : String} {fault : FilterError} :
      parse filter settings.maxDepth = .error fault → Fails settings (.tree filter) fault
  | query {options : QueryOptions} {fault : FilterError} :
      Query.build options settings = .error fault → Fails settings (.query options) fault

variable {settings : Settings} {compact : Bool} {command : Command}

theorem output_eq_ok_iff {text : String} :
    command.output settings compact = .ok text ↔ command.Prints settings compact text := by
  constructor
  · intro h
    cases command with
    | compile filter =>
        obtain ⟨predicate, hpredicate, rfl⟩ := Except.map_eq_ok_iff.mp h
        exact .compile hpredicate
    | tokens filter =>
        obtain ⟨tokens, htokens, rfl⟩ := Except.map_eq_ok_iff.mp h
        exact .tokens (Except.mapError_eq_ok_iff.mp htokens)
    | tree filter =>
        obtain ⟨root, hroot, rfl⟩ := Except.map_eq_ok_iff.mp h
        exact .tree hroot
    | query options =>
        obtain ⟨query, hquery, rfl⟩ := Except.map_eq_ok_iff.mp h
        exact .query hquery
  · intro h
    cases h with
    | compile h =>
        rw [output, h, Except.map]
        rfl
    | tokens h => rw [output, h, Except.mapError_ok, Except.map]
    | tree h => rw [output, h, Except.map]
    | query h =>
        rw [output, h, Except.map]
        rfl

theorem output_eq_error_iff {fault : FilterError} :
    command.output settings compact = .error fault ↔ command.Fails settings fault := by
  constructor
  · intro h
    cases command with
    | compile filter => exact .compile (Except.map_eq_error_iff.mp h)
    | tokens filter =>
        have hfault := Except.map_eq_error_iff.mp h
        obtain ⟨fault, hread, rfl⟩ := Except.mapError_eq_error_iff.mp hfault
        exact .tokens hread
    | tree filter => exact .tree (Except.map_eq_error_iff.mp h)
    | query options => exact .query (Except.map_eq_error_iff.mp h)
  · intro h
    cases h with
    | compile h => exact Except.map_eq_error_iff.mpr h
    | tokens h => rw [output, h, Except.mapError_error, Except.map]
    | tree h => exact Except.map_eq_error_iff.mpr h
    | query h => exact Except.map_eq_error_iff.mpr h

theorem output_congr {other : Bool}
    (h : (compact && command.printsJson) = (other && command.printsJson)) :
    command.output settings compact = command.output settings other := by
  cases command with
  | compile => rw [show compact = other by simpa [printsJson] using h]
  | tokens => rfl
  | tree => rfl
  | query => rw [show compact = other by simpa [printsJson] using h]

end Command

/-- The run has printed nothing and said last what is wrong. -/
def Outcome.Refuses (outcome : Outcome) (color : ColorMode) (message : String) : Prop :=
  outcome.code = 1 ∧ outcome.stdout = "" ∧
    ∃ log, outcome.stderr = log ++
      ((if color = .always then "\x1b[1;31merror:\x1b[0m" else "error:") ++ " " ++ message ++ "\n")

theorem Outcome.Refuses.code_ne_zero {outcome : Outcome} {color : ColorMode} {message : String}
    (h : outcome.Refuses color message) : outcome.code ≠ 0 := by
  rw [h.1]
  decide

namespace Invocation

/-- What a run leaves behind is what the library gives for it. -/
structure RunsAsLibrary (inv : Invocation) (environment : Environment) (outcome : Outcome) :
    Prop where
  /-- The run succeeds if the settings are there and the library gives what is asked for. -/
  code_eq_zero_iff : outcome.code = 0 ↔ ∃ settings text,
    Settings.IsLoaded environment.read inv.settingsPath? settings ∧
      inv.command.Prints settings inv.compact text
  /-- Then it prints the result and a line break. -/
  stdout_eq : ∀ settings text, Settings.IsLoaded environment.read inv.settingsPath? settings →
    inv.command.Prints settings inv.compact text → outcome.stdout = text ++ "\n"
  /-- Without settings nothing is done. -/
  no_settings : ∀ reason, Settings.IsRefused environment.read inv.settingsPath? reason →
    outcome.Refuses inv.color ("Failed to load config: " ++ reason)
  /-- With settings, what the library refuses is refused. -/
  refused : ∀ settings fault, Settings.IsLoaded environment.read inv.settingsPath? settings →
    inv.command.Fails settings fault → outcome.Refuses inv.color fault.message
  /-- There is no other way to fail. -/
  otherwise : outcome.code ≠ 0 →
    (∃ reason, Settings.IsRefused environment.read inv.settingsPath? reason) ∨
      ∃ settings fault, Settings.IsLoaded environment.read inv.settingsPath? settings ∧
        inv.command.Fails settings fault

theorem result_of_error {inv : Invocation} {read : String → Except ReadFault ByteArray}
    {fault : SettingsError} (h : Settings.load read inv.settingsPath? = .error fault) :
    (inv.result read).2 = .error ("Failed to load config: " ++ fault.chain) := by
  rw [result, h]

theorem result_of_ok {inv : Invocation} {read : String → Except ReadFault ByteArray}
    {settings : Settings} (h : Settings.load read inv.settingsPath? = .ok settings) :
    (inv.result read).2 =
      (inv.command.output settings inv.compact).mapError FilterError.message := by
  rw [result, h]

variable {inv : Invocation} {environment : Environment}

theorem run_of_ok {text : String} (h : (inv.result environment.read).2 = .ok text) :
    (inv.run environment).code = 0 ∧ (inv.run environment).stdout = text ++ "\n" := by
  simp only [run, h, and_self]

theorem run_of_error {message : String} (h : (inv.result environment.read).2 = .error message) :
    (inv.run environment).Refuses inv.color message := by
  simp only [Outcome.Refuses, run, h, true_and]
  exact ⟨_, rfl⟩

theorem runsAsLibrary_of_error {fault : SettingsError}
    (h : Settings.load environment.read inv.settingsPath? = .error fault) :
    inv.RunsAsLibrary environment (inv.run environment) := by
  have hrun := run_of_error (result_of_error h)
  have hrefused := Settings.load_eq_error_iff.mp ⟨fault, h, rfl⟩
  refine ⟨iff_of_false hrun.code_ne_zero ?_, ?_, ?_, ?_, fun _ => .inl ⟨_, hrefused⟩⟩
  · rintro ⟨settings, _, hloaded, _⟩
    exact hloaded.not_isRefused hrefused
  · exact fun _ _ hloaded => absurd hrefused hloaded.not_isRefused
  · intro reason hreason
    obtain ⟨other, hother, rfl⟩ := Settings.load_eq_error_iff.mpr hreason
    cases h.symm.trans hother
    exact hrun
  · exact fun _ _ hloaded => absurd hrefused hloaded.not_isRefused

theorem runsAsLibrary_of_ok {settings : Settings}
    (h : Settings.load environment.read inv.settingsPath? = .ok settings) :
    inv.RunsAsLibrary environment (inv.run environment) := by
  have hresult := result_of_ok h
  have hloaded := Settings.load_eq_ok_iff.mp h
  cases houtput : inv.command.output settings inv.compact with
  | ok text =>
      have hprints := Command.output_eq_ok_iff.mp houtput
      rw [houtput, Except.mapError_ok] at hresult
      obtain ⟨hcode, hstdout⟩ := run_of_ok hresult
      refine ⟨iff_of_true hcode ⟨settings, text, hloaded, hprints⟩, ?_, ?_, ?_, ?_⟩
      · intro other text' hother hprints'
        obtain rfl := hloaded.eq hother
        cases houtput.symm.trans (Command.output_eq_ok_iff.mpr hprints')
        exact hstdout
      · exact fun _ hreason => absurd hreason hloaded.not_isRefused
      · intro other fault hother hfails
        obtain rfl := hloaded.eq hother
        cases houtput.symm.trans (Command.output_eq_error_iff.mpr hfails)
      · exact fun hne => absurd hcode hne
  | error fault =>
      have hfails := Command.output_eq_error_iff.mp houtput
      rw [houtput, Except.mapError_error] at hresult
      have hrun := run_of_error hresult
      refine ⟨iff_of_false hrun.code_ne_zero ?_, ?_, ?_, ?_,
        fun _ => .inr ⟨settings, fault, hloaded, hfails⟩⟩
      · rintro ⟨other, text, hother, hprints⟩
        obtain rfl := hloaded.eq hother
        cases houtput.symm.trans (Command.output_eq_ok_iff.mpr hprints)
      · intro other text hother hprints
        obtain rfl := hloaded.eq hother
        cases houtput.symm.trans (Command.output_eq_ok_iff.mpr hprints)
      · exact fun _ hreason => absurd hreason hloaded.not_isRefused
      · intro other found hother hfound
        obtain rfl := hloaded.eq hother
        cases houtput.symm.trans (Command.output_eq_error_iff.mpr hfound)
        exact hrun

/-- Every run does as the library says. -/
theorem runsAsLibrary (inv : Invocation) (environment : Environment) :
    inv.RunsAsLibrary environment (inv.run environment) := by
  cases hload : Settings.load environment.read inv.settingsPath? with
  | error fault => exact runsAsLibrary_of_error hload
  | ok settings => exact runsAsLibrary_of_ok hload

/-- Runs that are asked for the same give the same result, whatever is logged. -/
theorem result_congr {other : Invocation} (read : String → Except ReadFault ByteArray)
    (h : other.essential (!inv.command.printsJson) = inv.essential (!inv.command.printsJson)) :
    (other.result read).2 = (inv.result read).2 := by
  simp only [essential, Bool.not_not, mk.injEq, true_and] at h
  obtain ⟨hpath, hcompact, hcommand⟩ := h
  cases hload : Settings.load read inv.settingsPath? with
  | error fault =>
      rw [result_of_error hload, result_of_error ((congrArg _ hpath).trans hload)]
  | ok settings =>
      rw [result_of_ok hload, result_of_ok ((congrArg _ hpath).trans hload), hcommand,
        Command.output_congr hcompact]

theorem run_congr {other : Invocation} {environment' : Environment}
    (h : (other.result environment'.read).2 = (inv.result environment.read).2) :
    (other.run environment').code = (inv.run environment).code ∧
      (other.run environment').stdout = (inv.run environment).stdout := by
  simp only [run, h]
  cases (inv.result environment.read).2 with
  | ok text => exact ⟨rfl, rfl⟩
  | error message => exact ⟨rfl, rfl⟩

end Invocation

end CommandLine
end DocumentFilter
