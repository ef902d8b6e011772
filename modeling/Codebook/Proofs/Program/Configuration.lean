import Codebook.Program
import Codebook.Proofs.Settings.Layers
import Codebook.Proofs.Workplace
import Mathlib.Data.List.Basic

/-!
# Which settings a run has

A run looks at one configuration file at most: the one that its options name, or else the first of a
few names in the working directory that a file goes by. What stands there settles, together with the
options, which settings the run has, or which failure it ends with before it looks at anything else.
Other configuration files play no part, be they right or wrong.

The settings are said field by field here, with no word about layers put over one another. A line
format of one's own comes before any dialect, whether it is among the options or in the file.
-/

namespace Codebook

open CommandLine

/-! ## Configuration files -/

/-- The paths that a configuration file is looked for at, if no other one is named. -/
def Files.candidates (files : Files) : List String :=
  configurationNames.map (joinPath files.hereText)

/-- The path of the configuration file that a run consults, if there is one. -/
inductive Consulted (files : Files) (options : Options) : Option String → Prop
  /-- It is named by the options. What stands there is not asked. -/
  | named {path : String} (named : options.config = some path) : Consulted files options (some path)
  /-- None is named, and this candidate is the first one that is a file. -/
  | found {before after : List String} {path : String} (unnamed : options.config = none)
    (among : files.candidates = before ++ path :: after)
    (passedOver : ∀ earlier ∈ before, ¬ RegularFile files earlier)
    (regular : RegularFile files path) : Consulted files options (some path)
  /-- None is named, and no candidate is a file. -/
  | absent (unnamed : options.config = none)
    (passedOver : ∀ path ∈ files.candidates, ¬ RegularFile files path) : Consulted files options none

/-- What a run remarks on when it looks for a configuration file. -/
def consultation : Option String → Remark
  | some path => .loadingSettings path
  | none => .noSettingsFound

/-! ## Settings -/

/-- The layer that a run has from the file that it consults. -/
inductive LayerOf (files : Files) : Option String → Layer → Prop
  /-- Without a file everything is open. -/
  | nothing : LayerOf files none .empty
  /-- A file holds a text that stands for the layer. -/
  | layer {path text : String} {layer : Layer} (holds : Holds files path text)
    (accepted : Layer.read text = .ok layer) : LayerOf files (some path) layer

/-- The settings that options stand for where a file stands for a layer, whether or not they are
valid. -/
def CommandLine.Options.settingsOver (options : Options) (layer : Layer) : Settings where
  placeholder := (options.placeholder.or layer.placeholder).getD defaultPlaceholder
  lineFormat :=
    (options.lineFormat.or layer.lineFormat).getD
      ((options.dialect.or layer.dialect).getD .csharp).lineFormat
  strict := options.strict || layer.strict.getD false

/-- The settings of a run that consults a file, or the failure that the run ends with for want of
them. -/
inductive Configured (files : Files) (options : Options) :
    Option String → Except Failure Settings → Prop
  /-- The file cannot be read. -/
  | unread {path : String} {fault : FileFault} (unread : Unread files path fault) :
    Configured files options (some path) (.error (.unreadable path fault))
  /-- The file does not stand for a layer. -/
  | malformed {path text : String} {fault : SettingsFault} (holds : Holds files path text)
    (rejected : Layer.read text = .error fault) :
    Configured files options (some path) (.error (.settings fault))
  /-- The placeholder is empty. -/
  | emptyPlaceholder {consulted : Option String} {layer : Layer} (held : LayerOf files consulted layer)
    (empty : (options.settingsOver layer).placeholder = "") :
    Configured files options consulted (.error (.settings .emptyPlaceholder))
  /-- The line format is empty. -/
  | emptyLineFormat {consulted : Option String} {layer : Layer} (held : LayerOf files consulted layer)
    (placeholder : (options.settingsOver layer).placeholder ≠ "")
    (empty : (options.settingsOver layer).lineFormat = "") :
    Configured files options consulted (.error (.settings .emptyLineFormat))
  /-- Neither is empty. -/
  | valid {consulted : Option String} {layer : Layer} (held : LayerOf files consulted layer)
    (placeholder : (options.settingsOver layer).placeholder ≠ "")
    (lineFormat : (options.settingsOver layer).lineFormat ≠ "") :
    Configured files options consulted (.ok (options.settingsOver layer))

variable {files : Files} {options : Options} {consulted : Option String}

/-! ## The file that is consulted -/

/-- There is one file that a run consults, or there is none. -/
theorem consulted_iff : Consulted files options consulted ↔
    consulted = options.config.or (files.findFirst? files.hereText configurationNames) := by
  cases named : options.config with
  | some path =>
    constructor
    · intro consults
      cases consults with
      | named same => exact same.symm.trans named
      | found unnamed | absent unnamed => cases named.symm.trans unnamed
    · rintro rfl
      exact .named named
  | none =>
    rw [Option.none_or]
    constructor
    · intro consults
      cases consults with
      | named same => cases named.symm.trans same
      | found _ among passedOver regular =>
        symm
        refine List.find?_eq_some_iff_append.mpr ⟨isFile_iff.mpr regular, _, _, among, ?_⟩
        intro earlier member
        rw [Bool.not_eq_true', ← Bool.not_eq_true, isFile_iff]
        exact passedOver earlier member
      | absent _ passedOver =>
        symm
        refine List.find?_eq_none.mpr ?_
        intro path member
        rw [isFile_iff]
        exact passedOver path member
    · rintro rfl
      cases found : files.findFirst? files.hereText configurationNames with
      | none =>
        have passedOver := List.find?_eq_none.mp found
        refine .absent named ?_
        intro path member
        rw [← isFile_iff]
        exact passedOver path member
      | some path =>
        obtain ⟨isFile, before, after, among, passedOver⟩ := List.find?_eq_some_iff_append.mp found
        refine .found named among ?_ (isFile_iff.mp isFile)
        intro earlier member
        rw [← isFile_iff, Bool.not_eq_true, ← Bool.not_eq_true']
        exact passedOver earlier member

/-- A run consults some file, or it is settled that it consults none. -/
theorem exists_consulted (files : Files) (options : Options) :
    ∃ consulted, Consulted files options consulted :=
  ⟨_, consulted_iff.mpr rfl⟩

/-! ## The settings that come of it -/

/-- The settings of a layer below some options are those that the options stand for over it, if these
are valid. -/
theorem ofLayer_merge (options : Options) (layer : Layer) :
    Settings.ofLayer (layer.merge options.layer) =
      if (options.settingsOver layer).placeholder = "" then .error .emptyPlaceholder
      else if (options.settingsOver layer).lineFormat = "" then .error .emptyLineFormat
      else .ok (options.settingsOver layer) := by
  have strict : (layer.merge options.layer).strict.getD false =
      (options.strict || layer.strict.getD false) := by
    simp only [Layer.merge, CommandLine.Options.layer]
    cases options.strict <;> rfl
  rw [ofLayer_eq, strict]
  rfl

/-- A run has settings, or fails for want of them. -/
theorem exists_configured (files : Files) (options : Options) (consulted : Option String) :
    ∃ result, Configured files options consulted result := by
  have settled {layer : Layer} (held : LayerOf files consulted layer) :
      ∃ result, Configured files options consulted result := by
    by_cases placeholder : (options.settingsOver layer).placeholder = ""
    · exact ⟨_, .emptyPlaceholder held placeholder⟩
    · by_cases lineFormat : (options.settingsOver layer).lineFormat = ""
      · exact ⟨_, .emptyLineFormat held placeholder lineFormat⟩
      · exact ⟨_, .valid held placeholder lineFormat⟩
  cases consulted with
  | none => exact settled .nothing
  | some path =>
    rcases holds_or_unread files path with ⟨text, holds⟩ | ⟨fault, unread⟩
    · cases outcome : Layer.read text with
      | error fault => exact ⟨_, .malformed holds outcome⟩
      | ok layer => exact settled (.layer holds outcome)
    · exact ⟨_, .unread unread⟩

/-! ## Looking for settings -/

/-- A file whose text is read gives a layer, or a failure. -/
theorem perform_loadLayer {path text : String} (holds : Holds files path text)
    (remarks : List Remark) :
    (loadLayer path).perform ⟨files, remarks⟩ =
      ((Layer.read text).mapError .settings, ⟨files, remarks ++ [.loadingSettings path]⟩) := by
  rw [loadLayer, Task.perform_bind, perform_remark]
  simp only [Task.perform_bind, holds.perform_readInput, perform_settle]

/-- A file that cannot be read gives a failure. -/
theorem perform_loadLayer_unread {path : String} {fault : FileFault}
    (unread : Unread files path fault) (remarks : List Remark) :
    (loadLayer path).perform ⟨files, remarks⟩ =
      (.error (.unreadable path fault), ⟨files, remarks ++ [.loadingSettings path]⟩) := by
  rw [loadLayer, Task.perform_bind, perform_remark]
  simp only [Task.perform_bind, unread.perform_readInput]

/-- A run that consults a file loads it. -/
theorem perform_chooseLayer {path : String} (consults : Consulted files options (some path))
    (remarks : List Remark) :
    (chooseLayer options.config files.hereText).perform ⟨files, remarks⟩ =
      (loadLayer path).perform ⟨files, remarks⟩ := by
  have chosen := consulted_iff.mp consults
  rw [chooseLayer, Task.perform_bind, Task.perform_get]
  simp only [← chosen]

/-- A run has the layer of the file that it consults. -/
theorem LayerOf.perform {layer : Layer} (held : LayerOf files consulted layer)
    (consults : Consulted files options consulted) (remarks : List Remark) :
    (chooseLayer options.config files.hereText).perform ⟨files, remarks⟩ =
      (.ok layer, ⟨files, remarks ++ [consultation consulted]⟩) := by
  cases held with
  | nothing =>
    have chosen := consulted_iff.mp consults
    rw [chooseLayer, Task.perform_bind, Task.perform_get]
    simp only [← chosen]
    rfl
  | layer holds accepted =>
    rw [perform_chooseLayer consults, perform_loadLayer holds, accepted]
    rfl

/-- A run that consults a file has the settings, or the failure, that come of it. The files are left as
they are, and a single remark is made. -/
theorem Configured.perform {result : Except Failure Settings}
    (configured : Configured files options consulted result)
    (consults : Consulted files options consulted) (remarks : List Remark) :
    (chooseSettings options files.hereText).perform ⟨files, remarks⟩ =
      (result, ⟨files, remarks ++ [consultation consulted]⟩) := by
  rw [chooseSettings, Task.perform_bind]
  cases configured with
  | unread unread => rw [perform_chooseLayer consults, perform_loadLayer_unread unread]; rfl
  | malformed holds rejected =>
    rw [perform_chooseLayer consults, perform_loadLayer holds, rejected]
    rfl
  | emptyPlaceholder held empty =>
    rw [held.perform consults]
    simp only [perform_settle, ofLayer_merge, if_pos empty]
    rfl
  | emptyLineFormat held placeholder empty =>
    rw [held.perform consults]
    simp only [perform_settle, ofLayer_merge, if_neg placeholder, if_pos empty]
    rfl
  | valid held placeholder lineFormat =>
    rw [held.perform consults]
    simp only [perform_settle, ofLayer_merge, if_neg placeholder, if_neg lineFormat]
    rfl

/-- What comes of a consulted file is one thing. -/
theorem Configured.unique {result other : Except Failure Settings}
    (configured : Configured files options consulted result)
    (consults : Consulted files options consulted)
    (again : Configured files options consulted other) : other = result := by
  have same := (again.perform consults []).symm.trans (configured.perform consults [])
  exact congrArg Prod.fst same

/-- What comes of a consulted file is a matter of the text that it holds, or of the reason why it
cannot be read. -/
theorem Configured.transfer {others : Files} {result : Except Failure Settings}
    (configured : Configured files options consulted result)
    (same : ∀ path ∈ consulted, others.readText path = files.readText path) :
    Configured others options consulted result := by
  have layer {held : Layer} (found : LayerOf files consulted held) :
      LayerOf others consulted held := by
    cases found with
    | nothing => exact .nothing
    | layer holds accepted =>
      have read := (same _ rfl).trans holds.readText
      exact .layer (readText_eq_ok_iff.mp read) accepted
  cases configured with
  | unread unread =>
    have failed := (same _ rfl).trans unread.readText
    exact .unread (readText_eq_error_iff.mp failed)
  | malformed holds rejected =>
    have read := (same _ rfl).trans holds.readText
    exact .malformed (readText_eq_ok_iff.mp read) rejected
  | emptyPlaceholder held empty => exact .emptyPlaceholder (layer held) empty
  | emptyLineFormat held placeholder empty => exact .emptyLineFormat (layer held) placeholder empty
  | valid held placeholder lineFormat => exact .valid (layer held) placeholder lineFormat

/-- A run consults the same file in other files if the candidates are the same and as many of them are
files, unless a file is named by the options. -/
theorem Consulted.transfer {others : Files} (consults : Consulted files options consulted)
    (candidates : others.candidates = files.candidates)
    (same : options.config = none → ∀ path ∈ files.candidates,
      (RegularFile others path ↔ RegularFile files path)) : Consulted others options consulted := by
  cases consults with
  | named named => exact .named named
  | found unnamed among passedOver regular =>
    refine .found unnamed (candidates.trans among) ?_ ?_
    · intro earlier member
      have candidate : earlier ∈ files.candidates := by
        rw [among]
        exact List.mem_append_left _ member
      rw [same unnamed earlier candidate]
      exact passedOver earlier member
    · refine (same unnamed _ ?_).mpr regular
      rw [among]
      exact List.mem_append_right _ List.mem_cons_self
  | absent unnamed passedOver =>
    refine .absent unnamed ?_
    intro path member
    rw [candidates] at member
    rw [same unnamed path member]
    exact passedOver path member

/-! ## Runs -/

/-- The line that a run prints when it has generated its output. -/
def successLine (count : Nat) : String :=
  "Generated " ++ toString count ++ " error codes.\n"

/-- What a run leaves behind when its work has come to this. -/
def Outcome.ofWork (details : Bool) : Except Failure Summary × Workplace → Outcome
  | (.ok summary, workplace) =>
    ⟨0, successLine summary.definitions, logText details workplace.remarks, workplace.files⟩
  | (.error failure, workplace) =>
    ⟨1, "", logText details workplace.remarks ++ failure.message ++ "\n", workplace.files⟩

/-- A run whose arguments can be read leaves behind what its work comes to. -/
theorem runProgram_of_options {arguments : List String}
    (read : Options.read arguments = .ok options) :
    runProgram arguments files =
      .ofWork options.verbose ((work options files.hereText).perform ⟨files, []⟩) := by
  rw [runProgram, read]
  rcases done : (work options files.hereText).perform ⟨files, []⟩ with ⟨failure | summary, workplace⟩
  · simp only [done]
    rfl
  · simp only [done]
    rfl

/-- A run without valid settings does nothing else. -/
theorem Configured.run_stops {arguments : List String} {failure : Failure}
    (read : Options.read arguments = .ok options) (consults : Consulted files options consulted)
    (configured : Configured files options consulted (.error failure)) :
    runProgram arguments files =
      .ofWork options.verbose (.error failure, ⟨files, [consultation consulted]⟩) := by
  rw [runProgram_of_options read, work, Task.perform_bind, configured.perform consults]
  rfl

/-- A run with valid settings does its job under them. -/
theorem Configured.run_goes_on {arguments : List String} {settings : Settings}
    (read : Options.read arguments = .ok options) (consults : Consulted files options consulted)
    (configured : Configured files options consulted (.ok settings)) :
    runProgram arguments files =
      .ofWork options.verbose ((generate declarationLine options.job settings).perform
        ⟨files, [consultation consulted]⟩) := by
  rw [runProgram_of_options read, work, Task.perform_bind, configured.perform consults]
  rfl

/-- A run whose arguments can be read consults one configuration file at most: the one that its options
name, or else the first candidate that is a file. From this file, or for want of one, and from its
options it has its settings or a failure, and what other files hold plays no part in that. If it is a
failure, because the file cannot be read or is malformed or the settings that come of it are not valid,
the run ends with it and has done nothing but look for settings. Otherwise the run is its job under the
settings, with one remark made before.

The settings are said field by field in `CommandLine.Options.settingsOver`. -/
theorem run_has_its_settings (arguments : List String) (files : Files) (options : Options)
    (read : Options.read arguments = .ok options) :
    ∃ consulted result,
      (∀ other, Consulted files options other ↔ other = consulted) ∧
      (∀ other, Configured files options consulted other ↔ other = result) ∧
      (∀ others : Files, (∀ path ∈ consulted, others.readText path = files.readText path) →
        Configured others options consulted result) ∧
      (∀ failure, result = .error failure →
        runProgram arguments files =
          .ofWork options.verbose (.error failure, ⟨files, [consultation consulted]⟩)) ∧
      (∀ settings, result = .ok settings →
        runProgram arguments files =
          .ofWork options.verbose ((generate declarationLine options.job settings).perform
            ⟨files, [consultation consulted]⟩)) := by
  have consults : ∀ other, Consulted files options other ↔
      other = options.config.or (files.findFirst? files.hereText configurationNames) :=
    fun other => consulted_iff
  obtain ⟨result, configured⟩ := exists_configured files options
    (options.config.or (files.findFirst? files.hereText configurationNames))
  refine ⟨_, result, consults, fun other => ⟨?_, ?_⟩, ?_, ?_, ?_⟩
  · exact configured.unique ((consults _).mpr rfl)
  · rintro rfl
    exact configured
  · intro others same
    exact configured.transfer same
  · rintro failure rfl
    exact configured.run_stops read ((consults _).mpr rfl)
  · rintro settings rfl
    exact configured.run_goes_on read ((consults _).mpr rfl)

/-- There is a run that passes over a directory, consults the next candidate and fails for its empty
placeholder, although the last candidate is a file that is right. -/
theorem later_candidate_plays_no_part :
    ∃ (arguments : List String) (files : Files) (options : Options),
      Options.read arguments = .ok options ∧
      files.tree.at? ["w", "errcodegen.json"] = some .directory ∧
      Consulted files options (some "/w/errcodegen.yml") ∧
      (∃ text layer, Holds files "/w/errcodegen.yaml" text ∧ Layer.read text = .ok layer) ∧
      runProgram arguments files =
        .ofWork options.verbose (.error (.settings .emptyPlaceholder),
          ⟨files, [.loadingSettings "/w/errcodegen.yml"]⟩) := by
  obtain ⟨arguments, files, options, text, layer, other, otherLayer, read, passedOver, found, held,
      accepted, empty, otherHeld, otherAccepted⟩ :
      ∃ (arguments : List String) (files : Files) (options : Options) (text : String)
        (layer : Layer) (other : String) (otherLayer : Layer),
        Options.read arguments = .ok options ∧
        files.tree.at? ["w", "errcodegen.json"] = some .directory ∧
        options.config.or (files.findFirst? files.hereText configurationNames) =
          some "/w/errcodegen.yml" ∧
        files.readText "/w/errcodegen.yml" = .ok text ∧
        (Layer.read text).toOption = some layer ∧
        (options.settingsOver layer).placeholder = "" ∧
        files.readText "/w/errcodegen.yaml" = .ok other ∧
        (Layer.read other).toOption = some otherLayer :=
    ⟨["--messages=codes", "--template", "page", "--output=out"],
      ⟨⟨[(["w"], .directory), (["w", "errcodegen.json"], .directory),
        (["w", "errcodegen.yml"], .file "placeholder: ''\n".toUTF8),
        (["w", "errcodegen.yaml"], .file "dialect: rust\n".toUTF8)]⟩, ["w"]⟩,
      ⟨⟨"codes", "page", "out"⟩, none, none, none, none, false, false⟩, "placeholder: ''\n",
      ⟨some "", none, none, none⟩, "dialect: rust\n", ⟨none, some .rust, none, none⟩,
      by decide +kernel, rfl, by decide +kernel, by decide +kernel, by decide +kernel, rfl,
      by decide +kernel, by decide +kernel⟩
  have holds := readText_eq_ok_iff.mp held
  have consults : Consulted files options (some "/w/errcodegen.yml") := consulted_iff.mpr found.symm
  have configured : Configured files options (some "/w/errcodegen.yml")
      (.error (.settings .emptyPlaceholder)) :=
    .emptyPlaceholder (.layer holds (ok_of_toOption accepted)) empty
  obtain ⟨consulted, result, onlyThis, onlySo, -, stops, -⟩ :=
    run_has_its_settings arguments files options read
  obtain rfl := (onlyThis _).mp consults
  obtain rfl := (onlySo _).mp configured
  exact ⟨arguments, files, options, read, passedOver, consults,
    ⟨other, otherLayer, readText_eq_ok_iff.mp otherHeld, ok_of_toOption otherAccepted⟩,
    stops _ rfl⟩

end Codebook
