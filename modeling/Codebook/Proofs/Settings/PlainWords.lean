import Codebook.Proofs.Settings.OfYaml

/-!
# Plain words as values

A plain word that is the value of a setting may look like a number, a truth value or something else that
has a meaning of its own. None of this is asked: the setting alone tells what its word is taken for. A
placeholder or a line format is the word itself, whatever it looks like; only the words for nothing leave
every setting open.
-/

namespace Codebook

open Yaml (Happening IsWord Mark Scalar linesText)

/-! ## What words are taken for -/

/-- The words for nothing. -/
def nullWords : List String :=
  ["null", "Null", "NULL"]

/-- The truth value of a word. -/
def truthOfWord? (word : String) : Option Bool :=
  if word ∈ ["true", "True", "TRUE"] then some true
  else if word ∈ ["false", "False", "FALSE"] then some false
  else none

/-- The dialect of a word. -/
def Dialect.ofWord? (word : String) : Option Dialect :=
  if word = "csharp" then some .csharp else if word = "rust" then some .rust else none

/-- What a plain word says about a setting, as a layer that leaves the others open. Nothing if it does
not fit. -/
def Layer.ofWord? (setting : Setting) (word : String) : Option Layer :=
  if word ∈ nullWords then some .empty
  else
    match setting with
    | .placeholder => some { Layer.empty with placeholder := some word }
    | .dialect => (Dialect.ofWord? word).map fun dialect =>
      { Layer.empty with dialect := some dialect }
    | .lineFormat => some { Layer.empty with lineFormat := some word }
    | .strict => (truthOfWord? word).map fun strict => { Layer.empty with strict := some strict }

/-! ## Results -/

/-- A result that is as expected, or any fault if nothing is. -/
def Meets {ε α : Type} (result : Except ε α) : Option α → Prop
  | some value => result = .ok value
  | none => ∃ fault, result = .error fault

section Meets

variable {ε ε' α β : Type} {result : Except ε α} {expected : Option α}

theorem Meets.map (meets : Meets result expected) (f : α → β) :
    Meets (result.map f) (expected.map f) := by
  cases expected with
  | none =>
    obtain ⟨fault, rfl⟩ := meets
    exact ⟨fault, rfl⟩
  | some value =>
    obtain rfl : result = .ok value := meets
    rfl

theorem Meets.mapError (meets : Meets result expected) (f : ε → ε') :
    Meets (result.mapError f) expected := by
  cases expected with
  | none =>
    obtain ⟨fault, rfl⟩ := meets
    exact ⟨f fault, rfl⟩
  | some value =>
    obtain rfl : result = .ok value := meets
    rfl

end Meets

/-! ## Values -/

/-- A plain word leaves a setting open exactly if it is one of the words for nothing. -/
theorem leftOpen_word {word : String} (isWord : IsWord word.toList) :
    leftOpen (.scalar word .plain none) = .ok (decide (word ∈ nullWords)) := by
  have notEmpty : word.isEmpty = false := by
    rw [String.isEmpty_eq_false_iff]
    rintro rfl
    exact isWord.notEmpty rfl
  have noTilde : word ≠ "~" := by
    rintro rfl
    exact absurd (isWord.chars '~' (by decide)) (by decide)
  have same : isNullWord word = decide (word ∈ nullWords) := by
    simp [isNullWord, nullWords, noTilde]
  change Except.ok (word.isEmpty || isNullWord word) = _
  rw [notEmpty, Bool.false_or, same]

/-- A value that is left open, or is what its reader makes of it. -/
theorem fitOptional_word {α : Type} {word : String} (isWord : IsWord word.toList)
    (fit : Yaml.Event → Fitting α) :
    fitOptional fit (.scalar word .plain none) =
      if word ∈ nullWords then .ok none else (fit (.scalar word .plain none)).map some := by
  unfold fitOptional
  rw [leftOpen_word isWord]
  by_cases null : word ∈ nullWords
  · simp only [null, decide_true, if_true]
    rfl
  · simp only [null, decide_false, if_false]
    cases fit (.scalar word .plain none) <;> rfl

/-- The name of a dialect has to be as it is listed. -/
theorem fitDialect_word (place : Misfit → Misfit) (word : String) :
    Meets (fitDialect place (.scalar word .plain none)) (Dialect.ofWord? word) := by
  have found : Dialect.ofName? word false = Dialect.ofWord? word := by
    by_cases csharp : word = "csharp"
    · subst csharp
      rfl
    · by_cases rust : word = "rust"
      · subst rust
        rfl
      · simp [Dialect.ofName?, Dialect.all, Dialect.name, Dialect.ofWord?, csharp, rust,
          Ne.symm csharp, Ne.symm rust]
  change Meets ((fitDialectName word).mapError place) _
  refine Meets.mapError ?_ place
  rw [← found]
  unfold fitDialectName
  cases Dialect.ofName? word false with
  | none => exact ⟨_, rfl⟩
  | some dialect => rfl

/-- A truth value has to be one of three words. -/
theorem fitBool_word (word : String) :
    Meets (fitBool (.scalar word .plain none)) (truthOfWord? word) := by
  have same : boolWord? word = truthOfWord? word := by
    simp only [boolWord?, truthOfWord?, List.contains_iff_mem]
  rw [← same]
  unfold fitBool
  dsimp only
  cases boolWord? word with
  | none => exact ⟨_, rfl⟩
  | some value => rfl

/-- The value of a setting is what its word says about it. -/
theorem fitSetting_word (setting : Setting) {word : String} (isWord : IsWord word.toList)
    (path : String) {value : Happening} (event : value.event = .scalar word .plain none) :
    Meets (Layer.empty.fitSetting setting.name path value) (Layer.ofWord? setting word) := by
  obtain ⟨_, mark, anchor, aliased⟩ := value
  obtain rfl := event
  unfold Layer.ofWord?
  cases setting with
  | placeholder =>
    change Meets ((fitOptional _ _).map fun placeholder => { Layer.empty with placeholder }) _
    rw [fitOptional_word isWord]
    split <;> rfl
  | dialect =>
    change Meets ((fitOptional _ _).map fun dialect => { Layer.empty with dialect }) _
    rw [fitOptional_word isWord]
    split
    · rfl
    · have fits := (fitDialect_word (fun misfit => misfit.at path mark) word).map some
      have set := fits.map fun dialect => { Layer.empty with dialect }
      rwa [Option.map_map] at set
  | lineFormat =>
    change Meets ((fitOptional _ _).map fun lineFormat => { Layer.empty with lineFormat }) _
    rw [fitOptional_word isWord]
    split <;> rfl
  | strict =>
    change Meets ((fitOptional _ _).map fun strict => { Layer.empty with strict }) _
    rw [fitOptional_word isWord]
    split
    · rfl
    · have fits := ((fitBool_word word).mapError fun misfit => misfit.at path mark).map some
      have set := fits.map fun strict => { Layer.empty with strict }
      rwa [Option.map_map] at set

/-! ## The text -/

/-- The entry of a single line is what the value of its setting makes of it. -/
theorem fitEntries_single {start : Mark} {setting : Setting} {style valueStyle : Yaml.Style}
    {word : String} {happenings : List Happening} {expected : Option Layer}
    (cut : happenings.map Happening.event =
      Yaml.entryEvents [(⟨setting.name, style⟩, ⟨word, valueStyle⟩)])
    (fits : ∀ (path : String) (value : Happening), value.event = .scalar word valueStyle none →
      Meets (Layer.empty.fitSetting setting.name path value) expected) :
    Meets (Layer.empty.fitEntries start [] happenings) expected := by
  obtain ⟨key, _, rfl, isKey, cutValue⟩ := List.map_eq_cons_iff.mp cut
  obtain ⟨value, _, rfl, isValue, cutEnd⟩ := List.map_eq_cons_iff.mp cutValue
  obtain ⟨last, rfl, isEnd⟩ := List.map_eq_singleton_iff.mp cutEnd
  have known : settingNames.contains setting.name = true :=
    List.contains_iff_mem.mpr setting.name_mem
  have fitsHere := fits (if key.aliased then "?" else setting.name) value isValue
  rw [Layer.fitEntries, isKey]
  simp only [known, List.contains_nil, Bool.not_true, Bool.false_eq_true, if_false]
  cases expected with
  | none =>
    obtain ⟨misfit, refused⟩ := fitsHere
    rw [refused]
    exact ⟨_, rfl⟩
  | some layer =>
    have taken : Layer.empty.fitSetting setting.name (if key.aliased then "?" else setting.name)
      value = .ok layer := fitsHere
    rw [taken]
    simp only [Layer.fitEntries, isEnd]
    rfl

/-- A line with a plain word sets its setting to what the word says about it, and leaves the others open;
else it is refused. -/
theorem read_plain_word (setting : Setting) (word text : String) (closed : Bool)
    (isWord : IsWord word.toList)
    (line : text.toList =
      setting.name.toList ++ ':' :: ' ' :: (word.toList ++ if closed then ['\n'] else [])) :
    Meets (Layer.read text) (Layer.ofWord? setting word) := by
  have written : Scalar.Written ⟨word, .plain⟩ word.toList := by
    simpa using Scalar.Written.plain isWord
  have lines : text.toList = linesText closed [setting.line written] := by
    rw [line]
    simp [linesText, Yaml.Entry.line, Setting.line]
  obtain ⟨-, start, happenings, cut, read⟩ := read_lines lines rfl (by simp)
  rw [read]
  exact fitEntries_single cut fun path value => fitSetting_word setting isWord path

/-- A number is a placeholder as it stands, and a word for yes is no truth value. -/
theorem special_words_are_read :
    (IsWord "1.50".toList ∧
      Layer.read "placeholder: 1.50" = .ok { Layer.empty with placeholder := some "1.50" }) ∧
    IsWord "yes".toList ∧ ∃ fault, Layer.read "strict: yes\n" = .error fault := by
  have number : IsWord "1.50".toList := ⟨by decide, by decide⟩
  have yes : IsWord "yes".toList := ⟨by decide, by decide⟩
  refine ⟨⟨number, ?_⟩, yes, ?_⟩
  · exact read_plain_word .placeholder "1.50" "placeholder: 1.50" false number rfl
  · exact read_plain_word .strict "yes" "strict: yes\n" true yes rfl

end Codebook
