import Codebook.Proofs.Settings.OfJson
import Codebook.Proofs.Yaml.Documents
import Mathlib.Data.List.Forall2

/-!
# Layers on lines

A layer can also be written with a line for each setting. The text is no JSON then, and is read as
YAML, and what comes of it is the same layer that its JSON texts are read as.

What a setting is given is asked of its value alone, and only the names are compared with those that have
come before. So there is one law for an entry, and entries are added one by one as the members of an
object are.
-/

namespace Codebook

open Text
open Yaml (Document Entry Event Happening Mark Scalar linesText)

/-! ## From documents to layers -/

/-- A document that holds a mapping stands for the layer of its entries. -/
theorem ofYaml_tells {text : List Char} {events : List Event}
    (tells : (Document.ofText text).Tells (.mappingStart none :: events)) :
    ∃ (start : Mark) (happenings : List Happening), happenings.map Happening.event = events ∧
      Layer.ofYaml text = Layer.empty.fitEntries start [] happenings := by
  obtain ⟨complete, alone, tells⟩ := tells
  obtain ⟨first, rest, held, starts, cut⟩ := List.map_eq_cons_iff.mp tells
  refine ⟨first.mark, rest, cut, ?_⟩
  simp only [Layer.ofYaml, Layer.fitDocument, held, starts, complete, alone]
  cases Layer.empty.fitEntries first.mark [] rest <;> rfl

/-- Else there may be a misfit, or the text is not well formed. -/
theorem ofYaml_unsaid {text : List Char}
    (unsaid : ((Document.ofText text).complete && (Document.ofText text).alone) = false) :
    ∃ fault, Layer.ofYaml text = .error fault := by
  simp only [Layer.ofYaml, unsaid]
  cases Layer.fitDocument (Document.ofText text) <;> exact ⟨_, rfl⟩

/-- A text that is no layer as JSON is read as YAML. -/
theorem read_eq_ofYaml {text : String} {c : Char} (member : c ∈ text.toList)
    (visible : isBlank c = false) (noJson : (Json.read? text).bind Layer.ofJson? = none) :
    Layer.read text = Layer.ofYaml text.toList := by
  have notBlank : (trim text.toList).isEmpty = false := by
    simpa using trim_ne_nil member visible
  simp only [Layer.read, notBlank, noJson]
  rfl

/-! ## Entries one by one -/

/-- Entries fit exactly if the first one has a name that has not come before and a value that fits, and
the others do so behind it. -/
theorem fitEntries_eq_ok_iff {start : Mark} {layer result : Layer} {seen : List String}
    {key value : Happening} {rest : List Happening} {name : String} {style : Yaml.Style}
    {tag : Option Yaml.TagText} (isKey : key.event = .scalar name style tag) :
    layer.fitEntries start seen (key :: value :: rest) = .ok result ↔
      name ∈ settingNames ∧ name ∉ seen ∧
        ∃ next, layer.fitSetting name (if key.aliased then "?" else name) value = .ok next ∧
          next.fitEntries start (name :: seen) rest = .ok result := by
  rw [Layer.fitEntries, isKey]
  by_cases known : name ∈ settingNames
  · by_cases again : name ∈ seen
    · simp [known, again]
    · cases fits : layer.fitSetting name (if key.aliased then "?" else name) value <;>
        simp [known, again, fits]
  · simp [known]

/-! ## Values -/

/-- How a value is shown by a scalar: a text between quotes, and any other one as a plain word. -/
inductive Json.ShownBy : Json → Scalar → Prop where
  | null : ShownBy .null ⟨"null", .plain⟩
  | isTrue : ShownBy (.bool true) ⟨"true", .plain⟩
  | isFalse : ShownBy (.bool false) ⟨"false", .plain⟩
  | text (value : String) : ShownBy (.text value) ⟨value, .double⟩

/-- How the value of a setting is shown by a scalar. The name of a dialect needs no quotes. -/
inductive Layer.Shows (layer : Layer) : Setting → Scalar → Prop where
  | value {setting : Setting} {scalar : Scalar} (shown : (layer.value setting).ShownBy scalar) :
      Shows layer setting scalar
  | name {dialect : Dialect} (isSet : layer.dialect = some dialect) :
      Shows layer .dialect ⟨dialect.name, .plain⟩

theorem fitOptional_text {value : Option String} {scalar : Scalar}
    (shown : ((value.map Json.text).getD .null).ShownBy scalar) (place : Misfit → Misfit) :
    fitOptional (fun event => (fitText event).mapError place)
      (.scalar scalar.text scalar.style none) = .ok value := by
  cases value <;> cases shown <;> rfl

theorem fitOptional_bool {value : Option Bool} {scalar : Scalar}
    (shown : ((value.map Json.bool).getD .null).ShownBy scalar) (place : Misfit → Misfit) :
    fitOptional (fun event => (fitBool event).mapError place)
      (.scalar scalar.text scalar.style none) = .ok value := by
  rcases value with _ | _ | _ <;> cases shown <;> rfl

theorem fitOptional_dialect {value : Option Dialect} {scalar : Scalar}
    (shown : ((value.map fun dialect => Json.text dialect.name).getD .null).ShownBy scalar)
    (place : Misfit → Misfit) :
    fitOptional (fitDialect place) (.scalar scalar.text scalar.style none) = .ok value := by
  rcases value with _ | _ | _ <;> cases shown <;> rfl

/-- A value that is shown by a scalar fits its setting. -/
theorem fitSetting_shown {source : Layer} {setting : Setting} {scalar : Scalar}
    (shown : source.Shows setting scalar) (layer : Layer) (path : String) {value : Happening}
    (event : value.event = .scalar scalar.text scalar.style none) :
    layer.fitSetting setting.name path value = .ok (layer.taking source setting) := by
  obtain ⟨_, mark, anchor, aliased⟩ := value
  obtain rfl := event
  cases shown with
  | @name dialect isSet =>
    rw [Layer.taking, isSet]
    cases dialect <;> rfl
  | value shown =>
    cases setting with
    | placeholder =>
      exact congrArg (Except.map fun placeholder => { layer with placeholder })
        (fitOptional_text shown fun misfit => misfit.at path mark)
    | dialect =>
      exact congrArg (Except.map fun dialect => { layer with dialect })
        (fitOptional_dialect shown fun misfit => misfit.at path mark)
    | lineFormat =>
      exact congrArg (Except.map fun lineFormat => { layer with lineFormat })
        (fitOptional_text shown fun misfit => misfit.at path mark)
    | strict =>
      exact congrArg (Except.map fun strict => { layer with strict })
        (fitOptional_bool shown fun misfit => misfit.at path mark)

/-! ## Lines of settings -/

/-- A line for a setting, with the value that a layer gives it. -/
structure Layer.ShowsOn (layer : Layer) (setting : Setting) (entry : Entry) : Prop where
  key : entry.key = ⟨setting.name, .plain⟩
  value : layer.Shows setting entry.value

theorem Setting.name_mem (setting : Setting) : setting.name ∈ settingNames := by
  cases setting <;> decide

/-- Lines for different settings, none of which has come before, set them one after the other. -/
theorem fitEntries_settings {source : Layer} (start : Mark) {settings : List Setting}
    {entries : List Entry} (shown : List.Forall₂ source.ShowsOn settings entries) :
    ∀ (layer : Layer) (seen : List Setting) (happenings : List Happening), settings.Nodup →
      (∀ setting ∈ settings, setting ∉ seen) →
      happenings.map Happening.event = Yaml.entryEvents (entries.map Entry.pair) →
      layer.fitEntries start (seen.map Setting.name) happenings =
        .ok (settings.foldl (fun layer setting => layer.taking source setting) layer) := by
  induction shown with
  | nil =>
    intro layer seen happenings _ _ cut
    obtain ⟨last, rfl, isEnd⟩ := List.map_eq_singleton_iff.mp cut
    rw [Layer.fitEntries, isEnd]
    rfl
  | @cons setting entry settings entries shown others ih =>
    intro layer seen happenings once fresh cut
    obtain ⟨key, _, rfl, isKey, cutValue⟩ := List.map_eq_cons_iff.mp cut
    obtain ⟨value, rest, rfl, isValue, cutRest⟩ := List.map_eq_cons_iff.mp cutValue
    obtain ⟨freshFirst, freshRest⟩ := List.forall_mem_cons.mp fresh
    obtain ⟨notAgain, onceRest⟩ := List.nodup_cons.mp once
    have notSeen : setting.name ∉ seen.map Setting.name := by
      rw [List.mem_map_of_injective fun _ _ => Setting.name_injective]
      exact freshFirst
    have freshThen : ∀ other ∈ settings, other ∉ setting :: seen := by
      intro other member
      rw [List.mem_cons, not_or]
      exact ⟨fun same => notAgain (same ▸ member), freshRest other member⟩
    have isName : key.event = .scalar setting.name .plain none := by
      rw [isKey, shown.key]
    refine (fitEntries_eq_ok_iff isName).mpr ⟨setting.name_mem, notSeen, layer.taking source setting,
      fitSetting_shown shown.value layer _ isValue, ?_⟩
    exact ih (layer.taking source setting) (setting :: seen) rest onceRest freshThen cutRest

/-- Lines that have every set setting, and none twice, stand for the layer. -/
theorem fitEntries_layer {layer : Layer} {settings : List Setting} {entries : List Entry}
    {start : Mark} {happenings : List Happening} (once : settings.Nodup)
    (others : ∀ setting, setting ∉ settings → layer.value setting = .null)
    (shown : List.Forall₂ layer.ShowsOn settings entries)
    (cut : happenings.map Happening.event = Yaml.entryEvents (entries.map Entry.pair)) :
    Layer.empty.fitEntries start [] happenings = .ok layer := by
  have added := fitEntries_settings start shown .empty [] happenings once (by simp) cut
  rw [foldl_taking_empty others] at added
  exact added

/-! ## The text -/

theorem Layer.ShowsOn.keyText {layer : Layer} {setting : Setting} {entry : Entry}
    (shown : layer.ShowsOn setting entry) : entry.keyText = setting.name.toList :=
  Scalar.Written.plainText (shown.key ▸ entry.keyWritten)

/-- No JSON text starts with the name of a setting. -/
theorem read?_name {setting : Setting} {text : String} {rest : List Char}
    (starts : text.toList = setting.name.toList ++ rest) : Json.read? text = none := by
  have noValue : readJsonValue? (2 * text.length + 2) text.toList = none := by
    rw [starts]
    cases setting <;> rfl
  rw [Json.read?, noValue]
  rfl

/-- The name of a setting is near enough to its colon. -/
theorem Setting.found {setting : Setting} {entry : Entry}
    (named : entry.keyText = setting.name.toList) : entry.Found := by
  rw [Entry.Found, named]
  cases setting <;> decide

theorem found_of_shown {layer : Layer} {settings : List Setting} {entries : List Entry}
    (shown : List.Forall₂ layer.ShowsOn settings entries) : ∀ entry ∈ entries, entry.Found := by
  induction shown with
  | nil => simp
  | cons first _ ih => exact List.forall_mem_cons.mpr ⟨Setting.found first.keyText, ih⟩

theorem Setting.starts (setting : Setting) :
    ∃ c rest, setting.name.toList = c :: rest ∧ isBlank c = false := by
  cases setting <;> exact ⟨_, _, rfl, by decide⟩

/-- Lines of which the first starts with the name of a setting stand for the layer of their entries. -/
theorem read_lines {closed : Bool} {setting : Setting} {entry : Entry} {entries : List Entry}
    {text : String} (lines : text.toList = linesText closed (entry :: entries))
    (named : entry.keyText = setting.name.toList) (found : ∀ entry ∈ entries, entry.Found) :
    Json.read? text = none ∧ ∃ (start : Mark) (happenings : List Happening),
      happenings.map Happening.event = Yaml.entryEvents ((entry :: entries).map Entry.pair) ∧
      Layer.read text = Layer.empty.fitEntries start [] happenings := by
  have foundAll : ∀ other ∈ entry :: entries, other.Found :=
    List.forall_mem_cons.mpr ⟨Setting.found named, found⟩
  obtain ⟨start, happenings, cut, fits⟩ :=
    ofYaml_tells (Yaml.ofText_linesText closed (List.cons_ne_nil entry entries) foundAll)
  obtain ⟨rest, first⟩ := Yaml.linesText_cons closed entry entries
  have starts : text.toList =
      setting.name.toList ++ (':' :: ' ' :: entry.valueText ++ rest) := by
    rw [lines, first, Entry.line, named]
    simp
  have noJson := read?_name starts
  obtain ⟨c, others, name, visible⟩ := setting.starts
  have member : c ∈ text.toList := by simp [starts, name]
  refine ⟨noJson, start, happenings, cut, ?_⟩
  rw [read_eq_ofYaml member visible (by rw [noJson]; rfl), lines, fits]

/-- The ways to write a layer with a line for each setting. -/
inductive LinedLayer (layer : Layer) : List Char → Prop where
  | lines {settings : List Setting} {entries : List Entry} {closed : Bool} (once : settings.Nodup)
      (others : ∀ setting, setting ∉ settings → layer.value setting = .null)
      (shown : List.Forall₂ layer.ShowsOn settings entries) :
      LinedLayer layer (linesText closed entries)

/-- A layer on lines is no JSON, and is read as the layer that its JSON texts are read as. -/
theorem read_lined_layer (layer : Layer) (text : String) (lined : LinedLayer layer text.toList) :
    Json.read? text = none ∧ Layer.read text = .ok layer ∧
      ∀ json : String, WrittenLayer layer json.toList → Layer.read json = Layer.read text := by
  obtain ⟨noJson, read⟩ : Json.read? text = none ∧ Layer.read text = .ok layer := by
    generalize whole : text.toList = characters at lined
    obtain ⟨once, others, shown⟩ := lined
    cases shown with
    | nil =>
      have nothing : layer = .empty := by
        apply Layer.ext_value
        intro setting
        rw [others setting List.not_mem_nil]
        cases setting <;> rfl
      obtain rfl : text = "" := String.toList_eq_nil_iff.mp whole
      rw [nothing]
      exact ⟨rfl, rfl⟩
    | cons first shown =>
      obtain ⟨noJson, start, happenings, cut, read⟩ :=
        read_lines whole first.keyText (found_of_shown shown)
      exact ⟨noJson, read.trans (fitEntries_layer once others (.cons first shown) cut)⟩
  refine ⟨noJson, read, fun json written => ?_⟩
  obtain ⟨value, whole, same⟩ := written.value
  rw [read_of_whole whole same, read]

/-- The line of a setting with a scalar as its value. -/
def Setting.line (setting : Setting) {value : Scalar} {text : List Char}
    (written : value.Written text) : Entry where
  key := ⟨setting.name, .plain⟩
  value
  keyText := setting.name.toList
  valueText := text
  keyWritten := by
    have name : Scalar.Written ⟨String.ofList setting.name.toList, .plain⟩ setting.name.toList :=
      .plain (by cases setting <;> exact ⟨by decide, by decide⟩)
    rwa [String.ofList_toList] at name
  valueWritten := written
  notMark := by cases setting <;> decide

/-- Every value of a setting is shown by some scalar. -/
theorem exists_shown (layer : Layer) (setting : Setting) :
    ∃ (scalar : Scalar) (text : List Char), layer.Shows setting scalar ∧ scalar.Written text := by
  have isNull : Scalar.Written ⟨"null", .plain⟩ "null".toList := .plain ⟨by decide, by decide⟩
  have isTrue : Scalar.Written ⟨"true", .plain⟩ "true".toList := .plain ⟨by decide, by decide⟩
  have isFalse : Scalar.Written ⟨"false", .plain⟩ "false".toList := .plain ⟨by decide, by decide⟩
  have optional {α : Type} (value : Option α) (f : α → Json)
      (shown : ∀ a, ∃ (scalar : Scalar) (text : List Char),
        (f a).ShownBy scalar ∧ scalar.Written text) :
      ∃ (scalar : Scalar) (text : List Char),
        ((value.map f).getD .null).ShownBy scalar ∧ scalar.Written text := by
    cases value with
    | none => exact ⟨_, _, .null, isNull⟩
    | some a => exact shown a
  have ofText (value : String) : ∃ (scalar : Scalar) (text : List Char),
      (Json.text value).ShownBy scalar ∧ scalar.Written text := by
    obtain ⟨inner, spelled⟩ := Yaml.exists_spelled value.toList
    exact ⟨_, _, .text value, .quoted spelled⟩
  have ofBool (value : Bool) : ∃ (scalar : Scalar) (text : List Char),
      (Json.bool value).ShownBy scalar ∧ scalar.Written text := by
    cases value with
    | true => exact ⟨_, _, .isTrue, isTrue⟩
    | false => exact ⟨_, _, .isFalse, isFalse⟩
  have shown : ∃ (scalar : Scalar) (text : List Char),
      (layer.value setting).ShownBy scalar ∧ scalar.Written text := by
    cases setting with
    | placeholder => exact optional layer.placeholder Json.text ofText
    | dialect => exact optional layer.dialect _ fun dialect => ofText dialect.name
    | lineFormat => exact optional layer.lineFormat Json.text ofText
    | strict => exact optional layer.strict Json.bool ofBool
  obtain ⟨scalar, text, shown, written⟩ := shown
  exact ⟨scalar, text, .value shown, written⟩

/-- Every layer can be written on lines, with its settings in any order, and null for those that are left
open but not left out. -/
theorem exists_linedLayer (layer : Layer) {settings : List Setting} (closed : Bool)
    (once : settings.Nodup)
    (others : ∀ setting, setting ∉ settings → layer.value setting = .null) :
    ∃ entries, List.Forall₂ layer.ShowsOn settings entries ∧
      LinedLayer layer (linesText closed entries) := by
  have lined (settings : List Setting) : ∃ entries, List.Forall₂ layer.ShowsOn settings entries := by
    induction settings with
    | nil => exact ⟨[], .nil⟩
    | cons setting settings ih =>
      obtain ⟨entries, others⟩ := ih
      obtain ⟨scalar, text, shown, written⟩ := exists_shown layer setting
      exact ⟨setting.line written :: entries, .cons ⟨rfl, shown⟩ others⟩
  obtain ⟨entries, shown⟩ := lined settings
  exact ⟨entries, shown, .lines once others shown⟩

/-- Settings in an order of their own, one of them null, with a text that has a comment sign, a colon
before a blank, a blank at its end, and characters that are escaped in two ways. -/
theorem settings_on_lines_are_read : ∃ text : String,
    text = "dialect: rust\nstrict: null\nplaceholder: \"\\u00e9: #\\x0A \"\n" ∧
    LinedLayer ⟨some "é: #\n ", some .rust, none, none⟩ text.toList ∧
    Layer.read text = .ok ⟨some "é: #\n ", some .rust, none, none⟩ := by
  have zero : Yaml.HexNumber 0 ['0'] := @Yaml.HexNumber.more 0 0 [] '0' .nothing (.inl rfl)
  have zeros : Yaml.HexNumber 0 ['0', '0'] := @Yaml.HexNumber.more 0 0 ['0'] '0' zero (.inl rfl)
  have fourteen : Yaml.HexNumber 14 ['0', '0', 'e'] :=
    @Yaml.HexNumber.more 0 14 ['0', '0'] 'e' zeros (.inl rfl)
  have letter : Yaml.SpelledChar 'é' "\\u00e9".toList :=
    .numbered (by decide) rfl (@Yaml.HexNumber.more 14 9 ['0', '0', 'e'] '9' fourteen (.inl rfl))
  have lineEnd : Yaml.SpelledChar '\n' "\\x0A".toList :=
    .numbered (by decide) rfl (@Yaml.HexNumber.more 0 10 ['0'] 'A' zero (.inr rfl))
  have spelled : Yaml.Spelled "é: #\n ".toList "\\u00e9: #\\x0A ".toList :=
    .more letter (.more (.raw (by decide) (by decide) (by decide))
      (.more (.raw (by decide) (by decide) (by decide))
        (.more (.raw (by decide) (by decide) (by decide))
          (.more lineEnd (.more (.raw (by decide) (by decide) (by decide)) .nothing)))))
  have rust : Scalar.Written ⟨"rust", .plain⟩ "rust".toList := .plain ⟨by decide, by decide⟩
  have null : Scalar.Written ⟨"null", .plain⟩ "null".toList := .plain ⟨by decide, by decide⟩
  have placeholder := Scalar.Written.quoted spelled
  have others : ∀ setting, setting ∉ [Setting.dialect, .strict, .placeholder] →
      (Layer.mk (some "é: #\n ") (some .rust) none none).value setting = .null := by
    intro setting absent
    cases setting <;> simp_all [Layer.value]
  have lined := @LinedLayer.lines ⟨some "é: #\n ", some .rust, none, none⟩
    [.dialect, .strict, .placeholder]
    [Setting.dialect.line rust, Setting.strict.line null, Setting.placeholder.line placeholder] true
    (by decide) others
    (.cons ⟨rfl, @Layer.Shows.name _ .rust rfl⟩
      (.cons ⟨rfl, .value .null⟩ (.cons ⟨rfl, .value (.text _)⟩ .nil)))
  exact ⟨_, rfl, lined, (read_lined_layer _ _ lined).2.1⟩

end Codebook
