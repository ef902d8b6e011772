import Mathlib.Data.List.Induction
import Codebook.Settings.Layer

/-!
# Layers that are put over one another

A setting of a stack of layers is the one that the last layer that sets it gives. This is said of one
setting at a time, and of each of the four in the same way: all that counts is that a layer put over
another one hides what is below it where it sets something, and nothing else.

Whether settings are valid is looked at in the stack and not in the layers. So an empty text is refused
only if no later layer hides it. A dialect hides no line format, in whichever layer it stands, and the
line formats of the dialects are not empty.
-/

namespace Codebook

/-! ## One setting -/

/-- The last of some layers that sets a setting gives it this value, or none of them sets it. -/
inductive LastSet {α : Type} (setting : Layer → Option α) : List Layer → Option α → Prop where
  | unset {layers : List Layer} (allOpen : ∀ layer ∈ layers, setting layer = none) :
      LastSet setting layers none
  | set {before after : List Layer} {layer : Layer} {value : α} (given : setting layer = some value)
      (openAfter : ∀ later ∈ after, setting later = none) :
      LastSet setting (before ++ layer :: after) (some value)

/-- A setting that a layer takes from the one below it exactly if it leaves it open. -/
structure Overlaid {α : Type} (setting : Layer → Option α) : Prop where
  merge : ∀ lower upper, setting (lower.merge upper) = (setting upper).or (setting lower)
  empty : setting .empty = none

theorem overlaid_placeholder : Overlaid Layer.placeholder := ⟨fun _ _ => rfl, rfl⟩
theorem overlaid_dialect : Overlaid Layer.dialect := ⟨fun _ _ => rfl, rfl⟩
theorem overlaid_lineFormat : Overlaid Layer.lineFormat := ⟨fun _ _ => rfl, rfl⟩
theorem overlaid_strict : Overlaid Layer.strict := ⟨fun _ _ => rfl, rfl⟩

/-- The topmost layer is put over the stack of the others. -/
theorem stack_concat (layers : List Layer) (layer : Layer) :
    Layer.stack (layers ++ [layer]) = (Layer.stack layers).merge layer := by
  simp only [Layer.stack, List.foldl_append, List.foldl_cons, List.foldl_nil]

section Setting

variable {α : Type} {setting : Layer → Option α} {layers : List Layer} {value : Option α}

/-- A layer that leaves a setting open changes nothing about who set it last. -/
theorem LastSet.concat_open (last : LastSet setting layers value) {layer : Layer}
    (leavesOpen : setting layer = none) : LastSet setting (layers ++ [layer]) value := by
  cases last with
  | unset allOpen =>
    refine .unset fun other member => ?_
    rcases List.mem_append.mp member with below | top
    · exact allOpen other below
    · rw [List.mem_singleton.mp top, leavesOpen]
  | set given openAfter =>
    rw [List.append_assoc, List.cons_append]
    refine .set given fun later member => ?_
    rcases List.mem_append.mp member with below | top
    · exact openAfter later below
    · rw [List.mem_singleton.mp top, leavesOpen]

/-- What a stack sets is what the last layer that sets it gives. The induction puts one layer more on
top: it sets the setting itself, or leaves it as it is. -/
theorem Overlaid.lastSet_stack (overlaid : Overlaid setting) (layers : List Layer) :
    LastSet setting layers (setting (Layer.stack layers)) := by
  induction layers using List.reverseRecOn with
  | nil =>
    rw [Layer.stack, List.foldl_nil, overlaid.empty]
    exact .unset (by simp)
  | append_singleton layers layer ih =>
    rw [stack_concat, overlaid.merge]
    cases given : setting layer with
    | none =>
      rw [Option.none_or]
      exact ih.concat_open given
    | some value => exact .set given (by simp)

/-- Layers that leave a setting open do not change it in a stack that they are put over. -/
theorem Overlaid.foldl_open (overlaid : Overlaid setting) {after : List Layer}
    (openAfter : ∀ later ∈ after, setting later = none) (lower : Layer) :
    setting (after.foldl Layer.merge lower) = setting lower := by
  induction after generalizing lower with
  | nil => rfl
  | cons layer after ih =>
    obtain ⟨leavesOpen, others⟩ := List.forall_mem_cons.mp openAfter
    rw [List.foldl_cons, ih others, overlaid.merge, leavesOpen, Option.none_or]

/-- The last layer that sets a setting gives the stack its value. -/
theorem LastSet.stack_eq (overlaid : Overlaid setting) (last : LastSet setting layers value) :
    setting (Layer.stack layers) = value := by
  cases last with
  | unset allOpen =>
    rw [Layer.stack, overlaid.foldl_open allOpen, overlaid.empty]
  | set given openAfter =>
    rw [Layer.stack, List.foldl_append, List.foldl_cons, overlaid.foldl_open openAfter,
      overlaid.merge, given, Option.some_or]

end Setting

/-! ## All settings -/

theorem Layer.merge_assoc (low middle high : Layer) :
    (low.merge middle).merge high = low.merge (middle.merge high) := by
  simp only [Layer.merge, Option.or_assoc]

theorem Layer.empty_merge (layer : Layer) : Layer.empty.merge layer = layer := by
  simp only [Layer.merge, Layer.empty, Option.or_none]

theorem Layer.merge_empty (layer : Layer) : layer.merge .empty = layer := by
  simp only [Layer.merge, Layer.empty, Option.none_or]

/-- A layer that leaves everything open may stand anywhere in a stack. -/
theorem stack_insert_empty (before after : List Layer) :
    Layer.stack (before ++ .empty :: after) = Layer.stack (before ++ after) := by
  simp only [Layer.stack, List.foldl_append, List.foldl_cons, Layer.merge_empty]

/-- The settings of a layer are its own with defaults for what is open, unless one of them is empty. -/
theorem ofLayer_eq (layer : Layer) :
    Settings.ofLayer layer =
      if layer.placeholder.getD defaultPlaceholder = "" then .error .emptyPlaceholder
      else if layer.lineFormat.getD (layer.dialect.getD .default).lineFormat = "" then
        .error .emptyLineFormat
      else .ok {
        placeholder := layer.placeholder.getD defaultPlaceholder
        lineFormat := layer.lineFormat.getD (layer.dialect.getD .default).lineFormat
        strict := layer.strict.getD false } := by
  simp only [Settings.ofLayer, String.isEmpty_iff]
  split
  · next empty => rfl
  · split
    · rfl
    · rfl

/-- No dialect has an empty line format. -/
theorem Dialect.lineFormat_ne_empty (dialect : Dialect) : dialect.lineFormat ≠ "" := by
  cases dialect <;> decide

/-- The settings that some layers come to: what the last layer that sets it gives, with defaults for
what none of them sets. The dialect counts only if no layer sets a line format. -/
structure Settings.FromLayers (layers : List Layer) (settings : Settings) : Prop where
  placeholder : ∃ given, LastSet Layer.placeholder layers given ∧
    settings.placeholder = given.getD defaultPlaceholder
  lineFormat : (∃ given, LastSet Layer.lineFormat layers (some given) ∧
      settings.lineFormat = given) ∨
    (∃ dialect, LastSet Layer.lineFormat layers none ∧ LastSet Layer.dialect layers dialect ∧
      settings.lineFormat = (dialect.getD .csharp).lineFormat)
  strict : ∃ given, LastSet Layer.strict layers given ∧ settings.strict = given.getD false

/-- The line format of a stack is that of the last layer that sets one; else it is that of the last
dialect. -/
theorem lineFormat_stack (layers : List Layer) {lineFormat : String}
    (same : lineFormat = (Layer.stack layers).lineFormat.getD
      ((Layer.stack layers).dialect.getD .default).lineFormat) :
    (∃ given, LastSet Layer.lineFormat layers (some given) ∧ lineFormat = given) ∨
    (∃ dialect, LastSet Layer.lineFormat layers none ∧ LastSet Layer.dialect layers dialect ∧
      lineFormat = (dialect.getD .csharp).lineFormat) := by
  have last := overlaid_lineFormat.lastSet_stack layers
  cases given : (Layer.stack layers).lineFormat with
  | some held =>
    rw [given] at last same
    exact .inl ⟨held, last, same⟩
  | none =>
    rw [given] at last same
    exact .inr ⟨_, last, overlaid_dialect.lastSet_stack layers, same⟩

/-- The settings of a stack are valid unless the last placeholder or the last line format that is set
is empty. -/
theorem ofLayer_stack (layers : List Layer) :
    (LastSet Layer.placeholder layers (some "") →
      Settings.ofLayer (Layer.stack layers) = .error .emptyPlaceholder) ∧
    (¬ LastSet Layer.placeholder layers (some "") → LastSet Layer.lineFormat layers (some "") →
      Settings.ofLayer (Layer.stack layers) = .error .emptyLineFormat) ∧
    (¬ LastSet Layer.placeholder layers (some "") → ¬ LastSet Layer.lineFormat layers (some "") →
      ∃ settings, Settings.ofLayer (Layer.stack layers) = .ok settings ∧
        settings.placeholder ≠ "" ∧ settings.lineFormat ≠ "" ∧ settings.FromLayers layers) := by
  have placeholderKept (notEmpty : ¬ LastSet Layer.placeholder layers (some "")) :
      (Layer.stack layers).placeholder.getD defaultPlaceholder ≠ "" := by
    have last := overlaid_placeholder.lastSet_stack layers
    cases given : (Layer.stack layers).placeholder with
    | none => decide
    | some held =>
      rw [given] at last
      rintro rfl
      exact notEmpty last
  refine ⟨?_, ?_, ?_⟩
  · intro empty
    rw [ofLayer_eq, empty.stack_eq overlaid_placeholder, Option.getD_some, if_pos rfl]
  · intro notEmpty empty
    rw [ofLayer_eq, if_neg (placeholderKept notEmpty), empty.stack_eq overlaid_lineFormat,
      Option.getD_some, if_pos rfl]
  · intro notEmpty lineNotEmpty
    have lineFormat := lineFormat_stack layers rfl
    have lineKept : (Layer.stack layers).lineFormat.getD
        ((Layer.stack layers).dialect.getD .default).lineFormat ≠ "" := by
      rcases lineFormat with ⟨given, last, same⟩ | ⟨dialect, -, -, same⟩
      · rw [same]
        rintro rfl
        exact lineNotEmpty last
      · rw [same]
        exact Dialect.lineFormat_ne_empty _
    rw [ofLayer_eq, if_neg (placeholderKept notEmpty), if_neg lineKept]
    exact ⟨_, rfl, placeholderKept notEmpty, lineKept,
      ⟨_, overlaid_placeholder.lastSet_stack layers, rfl⟩, lineFormat,
      ⟨_, overlaid_strict.lastSet_stack layers, rfl⟩⟩

/-- Layers are resolved setting by setting: each one of a stack is what the last layer that sets it
gives. How they are put over one another does not matter, and neither do layers that set nothing. The
settings of a stack are refused only if the last placeholder is empty, or else the last line format;
otherwise they are what the last layers give, with a dialect only where no line format is set. -/
theorem layers_resolve_setting_by_setting :
    (∀ layers : List Layer,
      LastSet Layer.placeholder layers (Layer.stack layers).placeholder ∧
      LastSet Layer.dialect layers (Layer.stack layers).dialect ∧
      LastSet Layer.lineFormat layers (Layer.stack layers).lineFormat ∧
      LastSet Layer.strict layers (Layer.stack layers).strict) ∧
    (∀ low middle high : Layer,
      (low.merge middle).merge high = low.merge (middle.merge high)) ∧
    (∀ layer : Layer, Layer.empty.merge layer = layer ∧ layer.merge .empty = layer) ∧
    (∀ before after : List Layer,
      Layer.stack (before ++ .empty :: after) = Layer.stack (before ++ after)) ∧
    ∀ layers : List Layer,
      (LastSet Layer.placeholder layers (some "") →
        Settings.ofLayer (Layer.stack layers) = .error .emptyPlaceholder) ∧
      (¬ LastSet Layer.placeholder layers (some "") → LastSet Layer.lineFormat layers (some "") →
        Settings.ofLayer (Layer.stack layers) = .error .emptyLineFormat) ∧
      (¬ LastSet Layer.placeholder layers (some "") →
        ¬ LastSet Layer.lineFormat layers (some "") →
        ∃ settings, Settings.ofLayer (Layer.stack layers) = .ok settings ∧
          settings.placeholder ≠ "" ∧ settings.lineFormat ≠ "" ∧ settings.FromLayers layers) := by
  refine ⟨fun layers => ?_, Layer.merge_assoc, ?_, stack_insert_empty, ofLayer_stack⟩
  · exact ⟨overlaid_placeholder.lastSet_stack layers, overlaid_dialect.lastSet_stack layers,
      overlaid_lineFormat.lastSet_stack layers, overlaid_strict.lastSet_stack layers⟩
  · exact fun layer => ⟨layer.empty_merge, layer.merge_empty⟩

/-- An empty placeholder that is hidden does no harm, and a dialect on top hides no line format. -/
example : Settings.ofLayer (.stack
    [⟨some "", none, some "x", none⟩, ⟨some "P", some .rust, none, none⟩]) =
      .ok ⟨"P", "x", false⟩ := rfl

end Codebook
