import Mathlib.Data.List.Nodup
import ReleaseLog.Console.CommandLine
import ReleaseLog.Proofs.Config.Basic
import ReleaseLog.Proofs.Text.Span

/-!
# Settings in any order

An option with its value behind `=` and a flag are arguments that say everything about themselves,
whatever the value is. A command line of such arguments is read exactly if none of them is about
something that another one is about, and what is read does not depend on their order
(`Given.ofArguments_eq_ok_iff_perm`). The environment counts for options of which nothing is said,
and an empty value says that there is none.
-/

namespace ReleaseLog

/-- What one argument says: the value of an option, or that a flag is set. -/
inductive Setting
  | value (which : CommandOption) (text : Text)
  | flag (which : Flag)
  deriving DecidableEq, Repr

namespace Setting

/-- The setting as one argument. -/
def argument : Setting → Text
  | value which text => "--".toList ++ which.name ++ "=".toList ++ text
  | flag which => "--".toList ++ which.name

/-- What the setting is about. -/
def subject : Setting → CommandOption ⊕ Flag
  | value which _ => .inl which
  | flag which => .inr which

/-- The value that the setting gives to an option. -/
def valueFor? (which : CommandOption) : Setting → Option Text
  | value other text => if which = other then some text else none
  | flag _ => none

theorem valueFor?_eq_some_iff {which : CommandOption} {setting : Setting} {text : Text} :
    setting.valueFor? which = some text ↔ setting = value which text := by
  cases setting with
  | value other given =>
      by_cases same : which = other
      · simp [valueFor?, same]
      · simp [valueFor?, same, Ne.symm same]
  | flag => simp [valueFor?]

end Setting

attribute [ext] Given

namespace Given

/-- All that is given, option by option and flag by flag. -/
def settings (given : Given) : List Setting :=
  CommandOption.all.filterMap (fun which => (given.value? which).map (Setting.value which)) ++
    (Flag.all.filter given.isSet).map Setting.flag

/-- What a list of settings gives: of each option the first value. -/
def ofSettings (settings : List Setting) : Given where
  value? which := settings.findSome? (Setting.valueFor? which)
  isSet which := settings.contains (.flag which)

/-- A setting is given, for the first time. -/
def set (given : Given) : Setting → Except Stop Given
  | .value which text => given.setValue which text
  | .flag which => given.setFlag which

/-- What is given, but for one option. -/
def without (given : Given) (which : CommandOption) : Given :=
  { given with value? := fun other => if other = which then none else given.value? other }

end Given

/-- An environment without the variable of an option. -/
def CommandOption.unset (which : CommandOption) (environment : Text → Option Text) :
    Text → Option Text :=
  fun name => if which.environmentName? = some name then none else environment name

namespace Inputs

/-- What is given counts, and of an option that is not given what its variable says. A date and the
flags have no variable. -/
structure IsDrawnFrom (inputs : Inputs) (given : Given) (environment : Text → Option Text) :
    Prop where
  version : inputs.version = (given.value? .version).or (environment "NEW_VERSION".toList)
  pullRequest : inputs.pullRequest =
    (given.value? .pullRequest).or (environment "PR_NUMBER".toList)
  path : inputs.path = (given.value? .path).or (environment "CHANGELOG_PATH".toList)
  repository : inputs.repository =
    (given.value? .repository).or (environment "CHANGELOG_REPO_URL".toList)
  date : inputs.date = given.value? .date
  dryRun : inputs.dryRun = given.isSet .dryRun
  debug : inputs.debug = given.isSet .debug

/-- The value of an option. -/
def value? (inputs : Inputs) : CommandOption → Option Text
  | .version => inputs.version
  | .pullRequest => inputs.pullRequest
  | .path => inputs.path
  | .repository => inputs.repository
  | .date => inputs.date

end Inputs

variable {given : Given} {setting : Setting} {front settings : List Setting}
  {environment : Text → Option Text} {which other : CommandOption} {text name : Text}

/-! ## One argument -/

theorem CommandOption.not_mem_name (which : CommandOption) : '=' ∉ which.name := by
  cases which <;> decide

theorem CommandOption.find?_name (which : CommandOption) :
    CommandOption.all.find? (·.name == which.name) = some which := by
  cases which <;> decide

namespace Argument

/-- Only the first `=` ends the name, so the value may be any text. -/
theorem ofText_value (which : CommandOption) (text : Text) :
    ofText (Setting.value which text).argument = .option which (some text) := by
  have name : ∀ c ∈ which.name, (c != '=') = true := by
    intro c member
    have different : c ≠ '=' := fun same => which.not_mem_name (same ▸ member)
    simpa using different
  have stop : ∀ c ∈ ('=' :: text).head?, (c != '=') = false := by
    intro c first
    obtain rfl := Option.mem_some.1 first
    rfl
  obtain ⟨front, back⟩ := Text.span_append name stop
  have written : (Setting.value which text).argument =
      '-' :: '-' :: (which.name ++ '=' :: text) := by
    simp [Setting.argument]
  have long : ofText ('-' :: '-' :: (which.name ++ '=' :: text)) =
      ofLong which.name (some text) := by
    rw [ofText]
    · simp only [front, back]
    · intro none
      cases which <;> cases none
  rw [written, long, ofLong, which.find?_name]

theorem ofText_flag (which : Flag) : ofText (Setting.flag which).argument = .flag which := by
  cases which <;> decide

end Argument

/-- A setting leaves no option open for the next argument. -/
theorem Reading.next_argument (given : Given) (setting : Setting) :
    Reading.next { given := given } setting.argument =
      (given.set setting).map fun given => { given := given } := by
  rw [Reading.next, if_neg Bool.false_ne_true]
  cases setting with
  | value which text =>
      rw [Argument.ofText_value]
      change (given.setValue which text >>= fun next => pure ({ given := next } : Reading)) =
        (given.setValue which text).map _
      cases given.setValue which text <;> rfl
  | flag which =>
      rw [Argument.ofText_flag]
      change (given.setFlag which >>= fun next => pure ({ given := next } : Reading)) =
        (given.setFlag which).map _
      cases given.setFlag which <;> rfl

theorem Reading.foldlM_next_argument (given : Given) (settings : List Setting) :
    (settings.map Setting.argument).foldlM Reading.next { given := given } =
      (settings.foldlM Given.set given).map fun given => { given := given } := by
  induction settings generalizing given with
  | nil => rfl
  | cons setting settings ih =>
      rw [List.map_cons, List.foldlM_cons, List.foldlM_cons, next_argument]
      cases given.set setting with
      | error => rfl
      | ok next => exact ih next

theorem Given.ofArguments_argument (settings : List Setting) :
    Given.ofArguments (settings.map Setting.argument) = settings.foldlM Given.set {} := by
  rw [ofArguments, Reading.foldlM_next_argument]
  cases settings.foldlM Given.set {} <;> rfl

/-! ## A row of settings -/

namespace Given

theorem value?_ofSettings_append (front : List Setting) (setting : Setting)
    (which : CommandOption) :
    (ofSettings (front ++ [setting])).value? which =
      ((ofSettings front).value? which).or (setting.valueFor? which) := by
  simp [ofSettings, List.findSome?_append]

theorem isSet_ofSettings_append (front : List Setting) (setting : Setting) (which : Flag) :
    (ofSettings (front ++ [setting])).isSet which =
      ((ofSettings front).isSet which || decide (.flag which = setting)) := by
  simp [ofSettings]

theorem isSome_value?_ofSettings_iff :
    ((ofSettings settings).value? which).isSome = true ↔
      .inl which ∈ settings.map Setting.subject := by
  rw [ofSettings, List.findSome?_isSome_iff, List.mem_map]
  refine exists_congr fun setting => and_congr_right fun _ => ?_
  cases setting with
  | value other text =>
      by_cases same : which = other
      · simp [Setting.valueFor?, Setting.subject, same]
      · simp [Setting.valueFor?, Setting.subject, same, Ne.symm same]
  | flag other => simp [Setting.valueFor?, Setting.subject]

theorem isSet_ofSettings_iff {which : Flag} :
    (ofSettings settings).isSet which = true ↔ .inr which ∈ settings.map Setting.subject := by
  rw [ofSettings, List.contains_iff_mem, List.mem_map]
  constructor
  · intro member
    exact ⟨.flag which, member, rfl⟩
  · rintro ⟨setting, member, same⟩
    cases setting with
    | value => cases same
    | flag => cases same; exact member

theorem ofSettings_append_value (absent : ¬ ((ofSettings front).value? which).isSome = true)
    (text : Text) :
    ofSettings (front ++ [.value which text]) =
      { ofSettings front with
        value? := fun other => if other = which then some text
          else (ofSettings front).value? other } := by
  ext other
  · rw [value?_ofSettings_append]
    by_cases same : other = which
    · simp [same, Option.not_isSome_iff_eq_none.1 absent, Setting.valueFor?]
    · simp [same, Setting.valueFor?]
  · simp [isSet_ofSettings_append]

theorem ofSettings_append_flag (front : List Setting) (which : Flag) :
    ofSettings (front ++ [.flag which]) =
      { ofSettings front with
        isSet := fun other => other = which || (ofSettings front).isSet other } := by
  ext other
  · simp [value?_ofSettings_append, Setting.valueFor?]
  · simp [isSet_ofSettings_append, Bool.or_comm]

/-- A setting is taken exactly if there is none yet about the same. -/
theorem set_ofSettings_eq_ok_iff :
    (ofSettings front).set setting = .ok given ↔
      setting.subject ∉ front.map Setting.subject ∧ given = ofSettings (front ++ [setting]) := by
  cases setting with
  | value which text =>
      rw [set, setValue, Setting.subject, ← isSome_value?_ofSettings_iff]
      by_cases present : ((ofSettings front).value? which).isSome = true
      · simp [present]
      · rw [if_neg present, ofSettings_append_value present, Except.ok.injEq, eq_comm]
        exact (and_iff_right present).symm
  | flag which =>
      rw [set, setFlag, Setting.subject, ← isSet_ofSettings_iff]
      by_cases present : (ofSettings front).isSet which = true
      · simp [present]
      · rw [if_neg present, ofSettings_append_flag, Except.ok.injEq, eq_comm]
        exact (and_iff_right present).symm

theorem nodup_subjects_concat_iff :
    ((front ++ [setting]).map Setting.subject).Nodup ↔
      setting.subject ∉ front.map Setting.subject ∧ (front.map Setting.subject).Nodup := by
  rw [List.map_append, List.map_singleton, ← List.concat_eq_append, List.nodup_concat]

/-- A row of settings is taken exactly if no two are about the same. -/
theorem foldlM_set_eq_ok_iff (apart : (front.map Setting.subject).Nodup) :
    settings.foldlM set (ofSettings front) = .ok given ↔
      ((front ++ settings).map Setting.subject).Nodup ∧ given = ofSettings (front ++ settings) := by
  induction settings generalizing front with
  | nil => simp [apart, pure, Except.pure, eq_comm]
  | cons setting settings ih =>
      rw [List.foldlM_cons, exceptBind_eq_ok_iff, List.append_cons]
      constructor
      · rintro ⟨next, taken, later⟩
        obtain ⟨new, rfl⟩ := set_ofSettings_eq_ok_iff.1 taken
        exact (ih (nodup_subjects_concat_iff.2 ⟨new, apart⟩)).1 later
      · rintro ⟨all, result⟩
        have longer : ((front ++ [setting]).map Setting.subject).Nodup := by
          rw [List.map_append] at all
          exact (List.nodup_append.1 all).1
        obtain ⟨new, _⟩ := nodup_subjects_concat_iff.1 longer
        exact ⟨_, set_ofSettings_eq_ok_iff.2 ⟨new, rfl⟩, (ih longer).2 ⟨all, result⟩⟩

/-! ## Every order -/

theorem value_mem_settings_iff :
    .value which text ∈ given.settings ↔ given.value? which = some text := by
  have listed : which ∈ CommandOption.all := by cases which <;> decide
  simp only [settings, List.mem_append, List.mem_filterMap, List.mem_map, Option.map_eq_some_iff,
    Setting.value.injEq]
  constructor
  · intro found
    rcases found with ⟨other, _, value, given, rfl, rfl⟩ | ⟨flag, _, different⟩
    · exact given
    · cases different
  · intro given
    exact .inl ⟨which, listed, text, given, rfl, rfl⟩

theorem flag_mem_settings_iff {which : Flag} :
    .flag which ∈ given.settings ↔ given.isSet which = true := by
  have listed : which ∈ Flag.all := by cases which <;> decide
  simp [settings, listed]

/-- What is given says nothing twice. -/
theorem nodup_subjects_settings (given : Given) :
    (given.settings.map Setting.subject).Nodup := by
  have options : CommandOption.all.Nodup := by decide
  have flags : Flag.all.Nodup := by decide
  rw [settings, List.map_append, List.map_filterMap, List.map_map, List.nodup_append]
  refine ⟨options.filterMap ?_, (flags.filter _).map ?_, ?_⟩
  · intro which other subject found again
    simp only [Option.map_map, Option.mem_def, Option.map_eq_some_iff] at found again
    obtain ⟨_, _, rfl⟩ := found
    obtain ⟨_, _, same⟩ := again
    exact (Sum.inl.inj same).symm
  · intro which other same
    exact Sum.inr.inj same
  · intro subject option other flag same
    subst same
    simp only [List.mem_filterMap, Option.map_map, Option.map_eq_some_iff] at option
    obtain ⟨which, _, _, _, rfl⟩ := option
    simp [Setting.subject] at flag

theorem mem_settings_ofSettings_iff (apart : (settings.map Setting.subject).Nodup) :
    setting ∈ (ofSettings settings).settings ↔ setting ∈ settings := by
  cases setting with
  | value which text =>
      rw [value_mem_settings_iff, ofSettings]
      constructor
      · intro found
        obtain ⟨setting, member, gives⟩ := List.exists_of_findSome?_eq_some found
        rwa [Setting.valueFor?_eq_some_iff.1 gives] at member
      · intro member
        have present : (settings.findSome? (Setting.valueFor? which)).isSome = true :=
          isSome_value?_ofSettings_iff.2 (List.mem_map_of_mem member)
        obtain ⟨other, found⟩ := Option.isSome_iff_exists.1 present
        obtain ⟨setting, member', gives⟩ := List.exists_of_findSome?_eq_some found
        obtain rfl := Setting.valueFor?_eq_some_iff.1 gives
        cases List.inj_on_of_nodup_map apart member member' rfl
        exact found
  | flag which =>
      rw [flag_mem_settings_iff]
      simp [ofSettings]

/-- Arguments that set options and flags are read exactly as what they list in some order. -/
theorem ofArguments_eq_ok_iff_perm :
    ofArguments (settings.map Setting.argument) = .ok given ↔ settings.Perm given.settings := by
  have run : settings.foldlM set (ofSettings []) = .ok given ↔
      (([] ++ settings).map Setting.subject).Nodup ∧ given = ofSettings ([] ++ settings) :=
    foldlM_set_eq_ok_iff List.nodup_nil
  have start : ofSettings [] = {} := rfl
  rw [ofArguments_argument, ← start, run, List.nil_append]
  constructor
  · rintro ⟨apart, result⟩
    subst result
    refine (List.perm_ext_iff_of_nodup apart.of_map (nodup_subjects_settings _).of_map).2 ?_
    intro setting
    exact (mem_settings_ofSettings_iff apart).symm
  · intro order
    have apart : (settings.map Setting.subject).Nodup :=
      (order.map Setting.subject).nodup_iff.2 (nodup_subjects_settings given)
    refine ⟨apart, ?_⟩
    ext which
    · rw [← value_mem_settings_iff, ← value_mem_settings_iff, mem_settings_ofSettings_iff apart,
        order.mem_iff]
    · rw [Bool.eq_iff_iff, ← flag_mem_settings_iff, ← flag_mem_settings_iff,
        mem_settings_ofSettings_iff apart, order.mem_iff]

/-! ## What is drawn from the environment -/

theorem value?_inputs (given : Given) (environment : Text → Option Text) (which : CommandOption) :
    (given.inputs environment).value? which =
      (given.value? which).or (which.environmentName?.bind environment) := by
  cases which <;> rfl

theorem value?_without (given : Given) (which other : CommandOption) :
    (given.without which).value? other = if other = which then none else given.value? other :=
  rfl

theorem isDrawnFrom_inputs (given : Given) (environment : Text → Option Text) :
    (given.inputs environment).IsDrawnFrom given environment where
  version := rfl
  pullRequest := rfl
  path := rfl
  repository := rfl
  date := Option.or_none
  dryRun := rfl
  debug := rfl

end Given

namespace CommandOption

theorem find?_environmentName? (which : CommandOption) :
    all.find? (·.environmentName? == which.environmentName?) = some which := by
  cases which <;> decide

/-- No two options share a variable. -/
theorem environmentName?_inj (same : which.environmentName? = other.environmentName?) :
    which = other := by
  have found := which.find?_environmentName?
  rw [same, other.find?_environmentName?] at found
  exact (Option.some.inj found).symm

/-- Without its variable an option has nothing to fall back to. All others have what they had. -/
theorem bind_unset (which other : CommandOption) (environment : Text → Option Text) :
    other.environmentName?.bind (which.unset environment) =
      if other = which then none else other.environmentName?.bind environment := by
  cases named : other.environmentName? with
  | none => simp
  | some name =>
      rw [Option.bind_some, Option.bind_some, unset, ← named]
      by_cases same : other = which
      · rw [if_pos (congrArg environmentName? same.symm), if_pos same]
      · have different : which.environmentName? ≠ other.environmentName? :=
          fun names => same (environmentName?_inj names).symm
        rw [if_neg different, if_neg same]

end CommandOption

/-- An empty value is no value to the check of the inputs. -/
theorem Config.ofInputs_congr {inputs inputs' : Inputs}
    (values : ∀ which, nonEmpty? (inputs.value? which) = nonEmpty? (inputs'.value? which))
    (dryRun : inputs.dryRun = inputs'.dryRun) : ofInputs inputs = ofInputs inputs' := by
  have version : nonEmpty? inputs.version = nonEmpty? inputs'.version := values .version
  have pullRequest : nonEmpty? inputs.pullRequest = nonEmpty? inputs'.pullRequest :=
    values .pullRequest
  have path : nonEmpty? inputs.path = nonEmpty? inputs'.path := values .path
  have repository : nonEmpty? inputs.repository = nonEmpty? inputs'.repository :=
    values .repository
  have date : nonEmpty? inputs.date = nonEmpty? inputs'.date := values .date
  simp only [ofInputs, version, pullRequest, path, repository, date, dryRun]

/-- An option that is given as an empty text counts as one that is not given and has no variable. -/
theorem Config.ofInputs_without (empty : given.value? which = some []) :
    ofInputs (given.inputs environment) =
      ofInputs ((given.without which).inputs (which.unset environment)) := by
  refine ofInputs_congr (fun other => ?_) rfl
  rw [Given.value?_inputs, Given.value?_inputs, CommandOption.bind_unset, Given.value?_without]
  by_cases same : other = which
  · rw [if_pos same, if_pos same, same, empty]
    rfl
  · rw [if_neg same, if_neg same]

namespace Inputs

theorem ofCommandLine_argument (order : settings.Perm given.settings) :
    ofCommandLine (settings.map Setting.argument) environment =
      .ok (given.inputs environment) := by
  rw [ofCommandLine, Given.ofArguments_eq_ok_iff_perm.2 order]
  rfl

/-- Options and flags that are given once each, as one argument each, are read as they are given in
every order, and the environment counts for the other options only. An option that is given as an
empty text hides its variable, and the configuration is the one without both of them. -/
theorem ofCommandLine_of_perm (given : Given) (environment : Text → Option Text) :
    ∃ inputs : Inputs, inputs.IsDrawnFrom given environment ∧
      (∀ settings : List Setting, settings.Perm given.settings →
        ofCommandLine (settings.map Setting.argument) environment = .ok inputs) ∧
      ∀ which, given.value? which = some [] → ∃ others : Inputs,
        (∀ settings : List Setting, settings.Perm (given.without which).settings →
          ofCommandLine (settings.map Setting.argument) (which.unset environment) = .ok others) ∧
        Config.ofInputs inputs = Config.ofInputs others := by
  refine ⟨given.inputs environment, given.isDrawnFrom_inputs environment, ?_, ?_⟩
  · intro settings order
    exact ofCommandLine_argument order
  · intro which empty
    refine ⟨(given.without which).inputs (which.unset environment), ?_, ?_⟩
    · intro settings order
      exact ofCommandLine_argument order
    · exact Config.ofInputs_without empty

/-- The version is given as an empty text, which hides the one in the environment. -/
theorem ofCommandLine_of_perm_empty_version :
    let path := "-a=b\nc".toList
    let given : Given :=
      { value? := fun | .version => some [] | .path => some path | _ => none
        isSet := fun which => which = .dryRun }
    let environment : Text → Option Text := fun _ => some "1-1".toList
    let settings := [Setting.flag .dryRun, .value .path path, .value .version []]
    settings.Perm given.settings ∧ given.value? .version = some [] ∧
      ∃ inputs, ofCommandLine (settings.map Setting.argument) environment = .ok inputs ∧
        inputs.version = some [] ∧ inputs.path = some path ∧
        Config.ofInputs inputs = .error (.missing "NEW_VERSION and PR_NUMBER".toList) := by
  intro path given environment settings
  have order : settings.Perm given.settings := by decide
  obtain ⟨inputs, drawn, read, missing⟩ := ofCommandLine_of_perm given environment
  obtain ⟨others, others_read, same⟩ := missing .version rfl
  let fewer := [Setting.flag .dryRun, .value .path path]
  have fewer_order : fewer.Perm (given.without .version).settings := by decide
  have others_eq : ofCommandLine (fewer.map Setting.argument)
      (CommandOption.version.unset environment) =
        .ok { pullRequest := some "1-1".toList, path, repository := some "1-1".toList,
              dryRun := true } := by
    decide +kernel
  rw [others_read fewer fewer_order] at others_eq
  refine ⟨order, rfl, inputs, read settings order, drawn.version, drawn.path, ?_⟩
  rw [same, Except.ok.inj others_eq]
  rfl

end Inputs
end ReleaseLog
