import Codebook.Proofs.Json
import Codebook.Settings.Read
import Mathlib.Data.List.TakeWhile

/-!
# Every JSON text of a layer is read as this layer

A layer is written in JSON as an object or as an array. An object has the settings by name, in any
order: those that are set have to be there, and the others may be left out or be null. An array has the
four values in their order. On top of that come the ways that each value can be written.

All of these texts are read as the layer they were written for. Members are added to a layer one by one;
after some of them it has their settings and none of the others, whichever order they came in.
-/

namespace Codebook

open Json Text

/-! ## Layers as values -/

/-- The settings that a layer may have. -/
inductive Setting where
  | placeholder
  | dialect
  | lineFormat
  | strict
  deriving Repr, DecidableEq

/-- The name that a setting goes by in a text. -/
def Setting.name : Setting → String
  | .placeholder => "placeholder"
  | .dialect => "dialect"
  | .lineFormat => "line_format"
  | .strict => "strict"

theorem Setting.name_injective {setting other : Setting} (same : setting.name = other.name) :
    setting = other := by
  cases setting <;> cases other <;> first | rfl | exact absurd same (by decide)

/-- The value that a layer gives a setting, which is null if the setting is left open. -/
def Layer.value (layer : Layer) : Setting → Json
  | .placeholder => (layer.placeholder.map Json.text).getD .null
  | .dialect => (layer.dialect.map fun dialect => Json.text dialect.name).getD .null
  | .lineFormat => (layer.lineFormat.map Json.text).getD .null
  | .strict => (layer.strict.map Json.bool).getD .null

/-- The ways to write a layer. -/
inductive WrittenLayer (layer : Layer) : List Char → Prop where
  | object {settings : List Setting} {text : List Char} (once : settings.Nodup)
      (others : ∀ setting, setting ∉ settings → layer.value setting = .null)
      (written : WrittenWhole
        (.object (settings.map fun setting => (setting.name, layer.value setting))) text) :
      WrittenLayer layer text
  | array {text : List Char}
      (written : WrittenWhole (.array [layer.value .placeholder, layer.value .dialect,
        layer.value .lineFormat, layer.value .strict]) text) :
      WrittenLayer layer text

/-! ## Single values -/

theorem optional?_text (value : Option String) :
    Json.optional? Json.asText? ((value.map Json.text).getD .null) = some value := by
  cases value <;> rfl

theorem optional?_bool (value : Option Bool) :
    Json.optional? Json.asBool? ((value.map Json.bool).getD .null) = some value := by
  cases value <;> rfl

theorem optional?_dialect (value : Option Dialect) :
    Json.optional? Json.asDialect? ((value.map fun dialect => Json.text dialect.name).getD .null) =
      some value := by
  cases value with
  | none => rfl
  | some dialect => cases dialect <;> rfl

/-! ## Members one by one -/

/-- A layer with one setting as another layer has it. -/
def Layer.taking (layer source : Layer) : Setting → Layer
  | .placeholder => { layer with placeholder := source.placeholder }
  | .dialect => { layer with dialect := source.dialect }
  | .lineFormat => { layer with lineFormat := source.lineFormat }
  | .strict => { layer with strict := source.strict }

theorem Layer.value_taking (layer source : Layer) (setting other : Setting) :
    (layer.taking source setting).value other =
      if other = setting then source.value other else layer.value other := by
  cases setting <;> cases other <;> rfl

/-- Two layers that give every setting the same value are the same. -/
theorem Layer.ext_value {layer other : Layer}
    (same : ∀ setting, layer.value setting = other.value setting) : layer = other := by
  have placeholder := congrArg (Json.optional? Json.asText?) (same .placeholder)
  have dialect := congrArg (Json.optional? Json.asDialect?) (same .dialect)
  have lineFormat := congrArg (Json.optional? Json.asText?) (same .lineFormat)
  have strict := congrArg (Json.optional? Json.asBool?) (same .strict)
  simp only [Layer.value, optional?_text, optional?_dialect, optional?_bool, Option.some.injEq]
    at placeholder dialect lineFormat strict
  cases layer
  cases other
  simp_all

/-- A member that has not come before sets its setting. -/
theorem addMembers?_setting (layer source : Layer) (setting : Setting) {seen : List String}
    (fresh : setting.name ∉ seen) (rest : List (String × Json)) :
    layer.addMembers? seen ((setting.name, source.value setting) :: rest) =
      (layer.taking source setting).addMembers? (setting.name :: seen) rest := by
  cases setting <;>
    simp only [Setting.name] at fresh <;>
    simp [Layer.addMembers?, fresh, Setting.name, Layer.value, optional?_text, optional?_dialect,
      optional?_bool, Layer.taking]

/-- Members of different settings, none of which has come before, set them one after the other. -/
theorem addMembers?_settings (source : Layer) (settings : List Setting) :
    ∀ (layer : Layer) (seen : List Setting), settings.Nodup →
      (∀ setting ∈ settings, setting ∉ seen) →
      layer.addMembers? (seen.map Setting.name)
          (settings.map fun setting => (setting.name, source.value setting)) =
        some (settings.foldl (fun layer setting => layer.taking source setting) layer) := by
  induction settings with
  | nil => exact fun layer seen _ _ => rfl
  | cons setting settings ih =>
    intro layer seen once fresh
    obtain ⟨freshFirst, freshRest⟩ := List.forall_mem_cons.mp fresh
    obtain ⟨notAgain, onceRest⟩ := List.nodup_cons.mp once
    have notSeen : setting.name ∉ seen.map Setting.name := by
      intro member
      obtain ⟨other, inSeen, same⟩ := List.mem_map.mp member
      exact freshFirst (Setting.name_injective same ▸ inSeen)
    have freshThen : ∀ other ∈ settings, other ∉ setting :: seen := by
      intro other member inSeen
      rcases List.mem_cons.mp inSeen with rfl | earlier
      · exact notAgain member
      · exact freshRest other member earlier
    rw [List.map_cons, addMembers?_setting layer source setting notSeen, List.foldl_cons]
    exact ih (layer.taking source setting) (setting :: seen) onceRest freshThen

/-- A layer that has taken some settings has the values of these, and its own for the others. -/
theorem value_foldl_taking (source : Layer) (settings : List Setting) (layer : Layer)
    (setting : Setting) :
    (settings.foldl (fun layer setting => layer.taking source setting) layer).value setting =
      if setting ∈ settings then source.value setting else layer.value setting := by
  induction settings generalizing layer with
  | nil => simp
  | cons first settings ih =>
    rw [List.foldl_cons, ih, Layer.value_taking]
    by_cases later : setting ∈ settings
    · simp [later]
    · by_cases same : setting = first <;> simp [later, same]

/-- A layer that has taken every set setting is the one that it took them from. -/
theorem foldl_taking_empty {layer : Layer} {settings : List Setting}
    (others : ∀ setting, setting ∉ settings → layer.value setting = .null) :
    settings.foldl (fun base setting => base.taking layer setting) .empty = layer := by
  apply Layer.ext_value
  intro setting
  rw [value_foldl_taking]
  by_cases member : setting ∈ settings
  · rw [if_pos member]
  · rw [if_neg member, others setting member]
    cases setting <;> rfl

/-- An object that has every set setting, and none twice, stands for the layer. -/
theorem ofJson?_object {layer : Layer} {settings : List Setting} (once : settings.Nodup)
    (others : ∀ setting, setting ∉ settings → layer.value setting = .null) :
    Layer.ofJson? (.object (settings.map fun setting => (setting.name, layer.value setting))) =
      some layer := by
  have added := addMembers?_settings layer settings .empty [] once (by simp)
  rw [foldl_taking_empty others] at added
  exact added

/-- An array of the four values stands for the layer. -/
theorem ofJson?_array (layer : Layer) :
    Layer.ofJson? (.array [layer.value .placeholder, layer.value .dialect,
      layer.value .lineFormat, layer.value .strict]) = some layer := by
  simp only [Layer.ofJson?, Layer.value, optional?_text, optional?_dialect, optional?_bool,
    Option.bind_eq_bind, Option.bind_some]
  rfl

/-! ## The text -/

/-- A text with a character that is no blank is not cut off as a whole. -/
theorem trim_ne_nil {text : List Char} {c : Char} (member : c ∈ text) (visible : isBlank c = false) :
    trim text ≠ [] := by
  intro nothing
  have blankRight : ∀ d ∈ dropBlanks text, isBlank d = true := by
    rw [trim, dropBlanksRight, List.reverse_eq_nil_iff, List.dropWhile_eq_nil_iff] at nothing
    intro d inRest
    exact nothing d (List.mem_reverse.mpr inRest)
  have blank : isBlank c = true := by
    rw [← List.takeWhile_append_dropWhile (p := isBlank) (l := text)] at member
    rcases List.mem_append.mp member with left | right
    · exact List.mem_takeWhile_imp left
    · exact blankRight c right
  rw [visible] at blank
  cases blank

/-- The brace or the bracket of a text is no blank. -/
theorem WrittenWhole.visible {value : Json} {text : List Char} (written : WrittenWhole value text) :
    ∃ c ∈ text, isBlank c = false := by
  cases written with
  | emptyObject => exact ⟨'{', by simp, by decide⟩
  | object => exact ⟨'{', by simp, by decide⟩
  | array => exact ⟨'[', by simp, by decide⟩

/-- A text of a layer is a text of a value that stands for it. -/
theorem WrittenLayer.value {layer : Layer} {text : List Char} (written : WrittenLayer layer text) :
    ∃ value, WrittenWhole value text ∧ Layer.ofJson? value = some layer := by
  cases written with
  | object once others whole => exact ⟨_, whole, ofJson?_object once others⟩
  | array whole => exact ⟨_, whole, ofJson?_array layer⟩

/-- A text of a value is read as the layer that the value stands for, if it stands for one. -/
theorem read_of_whole {value : Json} {layer : Layer} {text : String}
    (whole : WrittenWhole value text.toList) (same : Layer.ofJson? value = some layer) :
    Layer.read text = .ok layer := by
  obtain ⟨c, member, visible⟩ := WrittenWhole.visible whole
  have notBlank : (trim text.toList).isEmpty = false := by
    simpa using trim_ne_nil member visible
  simp only [Layer.read, notBlank, whole.read, Option.bind_some, same]
  rfl

/-- Every text that is written for a layer in JSON is read as this layer. -/
theorem read_written_layer (layer : Layer) (text : String)
    (written : WrittenLayer layer text.toList) : Layer.read text = .ok layer := by
  obtain ⟨value, whole, same⟩ := written.value
  exact read_of_whole whole same

/-- A text with blanks around its tokens, a name that is not written plainly, a slash with an escape it
does not need, and a character that is split in two halves. -/
theorem escaped_settings_are_read : ∃ text : String,
    text = "\n\x7b\"l\\u0069ne_format\" :\"\\/\",\t\"placeholder\":\"\\uD83D\\ude00\"\x7d " ∧
    WrittenLayer ⟨some "😀", none, some "/", none⟩ text.toList ∧
    Layer.read text = .ok ⟨some "😀", none, some "/", none⟩ := by
  have letter : SpelledChar 'i' "\\u0069".toList :=
    .numbered (FourDigits.digits (i := 0) (j := 0) (k := 6) (l := 9) (.inl rfl) (.inl rfl)
      (.inl rfl) (.inl rfl))
  have slash : SpelledChar '/' "\\/".toList := .short (by decide)
  have face : SpelledChar '😀' "\\uD83D\\ude00".toList :=
    .halves
      (FourDigits.digits (i := 13) (j := 8) (k := 3) (l := 13) (.inr rfl) (.inl rfl) (.inl rfl)
        (.inr rfl))
      (FourDigits.digits (i := 13) (j := 14) (k := 0) (l := 0) (.inl rfl) (.inl rfl) (.inl rfl)
        (.inl rfl))
      (by decide) (by decide) (by decide)
  have first : Spelled ['l'] ['l'] := spelled_raw (by decide)
  have key : Spelled "line_format".toList "l\\u0069ne_format".toList :=
    first.append (.more letter (spelled_raw (by decide)))
  have value : Spelled "/".toList "\\/".toList := .more slash .nothing
  have otherKey : Spelled "placeholder".toList "placeholder".toList := spelled_raw (by decide)
  have otherValue : Spelled "😀".toList "\\uD83D\\ude00".toList := .more face .nothing
  have nothing : Blanks [] := by simp [Blanks]
  have feed : Blanks ['\n'] := by simp [Blanks]
  have space : Blanks [' '] := by simp [Blanks]
  have tab : Blanks ['\t'] := by simp [Blanks]
  have lineFormat : WrittenMember ("line_format", .text "/")
      "\"l\\u0069ne_format\" :\"\\/\"".toList :=
    .pair (.quoted key) space nothing (.text (.quoted value))
  have placeholder : WrittenMember ("placeholder", .text "😀")
      "\"placeholder\":\"\\uD83D\\ude00\"".toList :=
    .pair (.quoted otherKey) nothing nothing (.text (.quoted otherValue))
  have members := Listed.more lineFormat nothing tab (.last placeholder nothing)
  have others : ∀ setting, setting ∉ [Setting.lineFormat, .placeholder] →
      (Layer.mk (some "😀") none (some "/") none).value setting = .null := by
    intro setting absent
    cases setting <;> simp_all [Layer.value]
  have written := @WrittenLayer.object ⟨some "😀", none, some "/", none⟩ [.lineFormat, .placeholder]
    _ (by decide) others (.object feed nothing members space)
  exact ⟨_, rfl, written, read_written_layer _ _ written⟩

end Codebook
