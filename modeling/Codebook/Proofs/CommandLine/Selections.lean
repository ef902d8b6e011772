import Codebook.CommandLine.Options
import Codebook.Proofs.Workplace
import Mathlib.Data.List.Nodup

/-!
# Selections on the command line

A command line selects values for parameters and turns switches on. Every value can be written in the
argument of its parameter or in an argument of its own, and the selections can stand in any order.

Reading keeps the value of a parameter back until the next choice, if it stands in an argument of its
own. So the states it goes through depend on how values are written. What it comes to does not: it is
what one gets by making the selections one after the other, and a selection fails only if it was made
before.

Only strictness and verbosity are looked at among the switches. The help, the version and the letters
behind a single dash are left out.
-/

namespace Codebook.CommandLine

/-! ## Written selections -/

/-- What is selected: a value for a parameter, or a switch that is turned on. -/
inductive Selection where
  | value (parameter : Parameter) (value : String)
  | strict
  | verbose
  deriving Repr, DecidableEq

/-- The choice that a selection makes. -/
def Selection.choice : Selection → Choice
  | .value chosen _ => .parameter chosen
  | .strict => .switch .strict
  | .verbose => .switch .verbose

/-- The argument that stands for a parameter. -/
def Parameter.written : Parameter → String
  | .definitions => "--messages"
  | .template => "--template"
  | .output => "--output"
  | .dialect => "--dialect"
  | .lineFormat => "--line-format"
  | .placeholder => "--placeholder"
  | .config => "--config"

/-- The ways to write a selection. A value in an argument of its own must not start with a dash. -/
inductive Selection.Written : Selection → List String → Prop where
  | attached {parameter : Parameter} {value : String} :
      Written (.value parameter value) [parameter.written ++ "=" ++ value]
  | apart {parameter : Parameter} {value : String} (noDash : value.toList.head? ≠ some '-') :
      Written (.value parameter value) [parameter.written, value]
  | strict : Written .strict ["--strict"]
  | verbose : Written .verbose ["--verbose"]

/-- The ways to write selections one after the other. -/
inductive Selected : List Selection → List String → Prop where
  | nothing : Selected [] []
  | more {selection : Selection} {selections : List Selection} {first rest : List String}
      (written : selection.Written first) (others : Selected selections rest) :
      Selected (selection :: selections) (first ++ rest)

/-- A path is not empty, and a dialect is one that exists. Any other value may be any text. -/
def Selection.Suits : Selection → Prop
  | .value chosen text =>
    ((chosen = .definitions ∨ chosen = .template ∨ chosen = .output ∨ chosen = .config) → text ≠ "") ∧
      (chosen = .dialect → text = "csharp" ∨ text = "rust")
  | .strict | .verbose => True

/-! ## Shapes of arguments -/

theorem Parameter.written_eq (parameter : Parameter) : parameter.written = "--" ++ parameter.name := by
  cases parameter <;> rfl

theorem ofName?_parameter (parameter : Parameter) :
    Choice.ofName? parameter.name = some (.parameter parameter) := by
  cases parameter <;> decide

/-- The name of a parameter alone. -/
theorem shapeOf_written (parameter : Parameter) :
    shapeOf parameter.written = .long parameter.name none := by
  cases parameter <;> decide

/-- The first equals sign ends the name of a parameter, whatever its value holds. -/
theorem shapeOf_attached (parameter : Parameter) (value : String) :
    shapeOf (parameter.written ++ "=" ++ value) = .long parameter.name (some value) := by
  have noSign : ∀ c ∈ parameter.name.toList, (c ≠ '=' : Bool) = true := by
    cases parameter <;> simp [Parameter.name]
  have text : (parameter.written ++ "=" ++ value).toList =
      '-' :: '-' :: (parameter.name.toList ++ '=' :: value.toList) := by
    simp [Parameter.written_eq]
  have name : (parameter.name.toList ++ '=' :: value.toList).takeWhile (· ≠ '=') =
      parameter.name.toList := by
    rw [List.takeWhile_append_of_pos noSign]
    simp
  have behind : (parameter.name.toList ++ '=' :: value.toList).dropWhile (· ≠ '=') =
      '=' :: value.toList := by
    rw [List.dropWhile_append_of_pos noSign]
    simp
  unfold shapeOf
  rw [text]
  cases parameter <;> simp_all

theorem shapeOf_plain {value : String} (noDash : value.toList.head? ≠ some '-') :
    shapeOf value = .plain := by
  unfold shapeOf
  split <;> simp_all

/-! ## Reading -/

/-- Makes a selection. -/
def Given.add (given : Given) : Selection → Except Stop Given
  | .value chosen text => given.give chosen text
  | .strict => given.turnOn true .strict
  | .verbose => given.turnOn true .verbose

theorem settle_of_waiting {given : Given} (nothing : given.waiting = none) :
    given.settle = .ok given := by
  unfold Given.settle
  rw [nothing]
  rfl

/-- Giving a value says nothing about what waits. -/
theorem waiting_of_give {given after : Given} {parameter : Parameter} {value : String}
    (done : given.give parameter value = .ok after) : after.waiting = given.waiting := by
  unfold Given.give at done
  split at done
  · cases done
  · cases checked : checkValue parameter value with
    | error stop => simp [checked, bind, Except.bind] at done
    | ok _ =>
      simp only [checked, bind, Except.bind, pure, Except.pure, Except.ok.injEq] at done
      rw [← done]

theorem waiting_of_turnOn {given after : Given} {long : Bool} {switch : Switch}
    (done : given.turnOn long switch = .ok after) : after.waiting = given.waiting := by
  unfold Given.turnOn at done
  split at done
  · cases done
  · cases done
  · split at done
    · cases done
    · cases done
      rfl

theorem waiting_of_settle {given after : Given} (settled : given.settle = .ok after) :
    after.waiting = none := by
  unfold Given.settle at settled
  split at settled
  · next nothing =>
    cases settled
    exact nothing
  · cases settled
  · exact waiting_of_give settled

/-- A value in the argument of its parameter is given at once. -/
theorem read_attached (given : Given) (parameter : Parameter) (value : String)
    (rest : List String) :
    given.read ((parameter.written ++ "=" ++ value) :: rest) = (do
      let given ← given.settle
      let given ← given.give parameter value
      given.read rest) := by
  simp [Given.read, shapeOf_attached, Given.chooseLong, ofName?_parameter]

/-- A value in an argument of its own waits. -/
theorem read_apart (given : Given) (parameter : Parameter) {value : String}
    (noDash : value.toList.head? ≠ some '-') (rest : List String) :
    given.read (parameter.written :: value :: rest) = (do
      let given ← given.settle
      Given.read { given with waiting := some (parameter, some value) } rest) := by
  simp [Given.read, shapeOf_written, shapeOf_plain noDash, Given.chooseLong, ofName?_parameter,
    Given.takePlain]

theorem read_strict (given : Given) (rest : List String) :
    given.read ("--strict" :: rest) = (do
      let given ← given.settle
      let given ← given.turnOn true .strict
      given.read rest) := by
  have shape : shapeOf "--strict" = .long "strict" none := by decide
  have choice : Choice.ofName? "strict" = some (.switch .strict) := by decide
  simp [Given.read, shape, Given.chooseLong, choice]

theorem read_verbose (given : Given) (rest : List String) :
    given.read ("--verbose" :: rest) = (do
      let given ← given.settle
      let given ← given.turnOn true .verbose
      given.read rest) := by
  have shape : shapeOf "--verbose" = .long "verbose" none := by decide
  have choice : Choice.ofName? "verbose" = some (.switch .verbose) := by decide
  simp [Given.read, shape, Given.chooseLong, choice]

/-- What follows a step counts only where the step is done. -/
theorem bind_congr_of_ok {ε α β : Type} {step : Except ε α} {next other : α → Except ε β}
    (same : ∀ result, step = .ok result → next result = other result) :
    step >>= next = step >>= other := by
  cases step with
  | error stop => rfl
  | ok result => exact same result rfl

/-- Arguments for some selections make these one after the other, once what waits has been settled. The
induction starts from any state in which no parameter is still without a value. -/
theorem Selected.read {selections : List Selection} {arguments : List String}
    (selected : Selected selections arguments) :
    ∀ given : Given, (∀ parameter, given.waiting ≠ some (parameter, none)) →
      given.read arguments = given.settle >>= fun given => selections.foldlM Given.add given := by
  induction selected with
  | nothing =>
    intro given _
    simp [Given.read]
  | @more selection selections first rest written others ih =>
    intro given _
    have goOn {start after : Given} (nothing : start.waiting = none)
        (same : after.waiting = start.waiting) :
        after.read rest = selections.foldlM Given.add after := by
      rw [nothing] at same
      rw [ih after (by simp [same]), settle_of_waiting same]
      rfl
    simp only [List.foldlM_cons]
    cases written with
    | attached =>
      rw [List.cons_append, List.nil_append, read_attached]
      refine bind_congr_of_ok fun start settled => bind_congr_of_ok fun after done => ?_
      exact goOn (waiting_of_settle settled) (waiting_of_give done)
    | @apart parameter value noDash =>
      rw [List.cons_append, List.cons_append, List.nil_append, read_apart given parameter noDash]
      refine bind_congr_of_ok fun start settled => ?_
      have kept : { start with waiting := none } = start := by
        rw [← waiting_of_settle settled]
      rw [ih { start with waiting := some (parameter, some value) } (by simp), Given.settle]
      simp only [kept]
      rfl
    | strict =>
      rw [List.cons_append, List.nil_append, read_strict]
      refine bind_congr_of_ok fun start settled => bind_congr_of_ok fun after done => ?_
      exact goOn (waiting_of_settle settled) (waiting_of_turnOn done)
    | verbose =>
      rw [List.cons_append, List.nil_append, read_verbose]
      refine bind_congr_of_ok fun start settled => bind_congr_of_ok fun after done => ?_
      exact goOn (waiting_of_settle settled) (waiting_of_turnOn done)

/-! ## What is selected -/

/-- The choices that have been made. -/
def Given.made (given : Given) : List Choice :=
  given.values.map (fun entry => Choice.parameter entry.1) ++ given.switches.map Choice.switch

/-- What is given once a selection has been made. -/
def Given.having (given : Given) : Selection → Given
  | .value chosen text => { given with values := given.values ++ [(chosen, text)] }
  | .strict => { given with switches := given.switches ++ [.strict] }
  | .verbose => { given with switches := given.switches ++ [.verbose] }

theorem mem_made_iff (given : Given) (choice : Choice) :
    choice ∈ given.made ↔
      (∃ entry ∈ given.values, Choice.parameter entry.1 = choice) ∨
        ∃ switch ∈ given.switches, Choice.switch switch = choice := by
  simp only [Given.made, List.mem_append, List.mem_map]

theorem mem_made_having (given : Given) (selection : Selection) (choice : Choice) :
    choice ∈ (given.having selection).made ↔ choice ∈ given.made ∨ selection.choice = choice := by
  cases selection with
  | value chosen text =>
    simp only [mem_made_iff, Given.having, Selection.choice, List.mem_append, List.mem_singleton,
      or_and_right, exists_or, exists_eq_left]
    exact or_right_comm
  | strict =>
    simp only [mem_made_iff, Given.having, Selection.choice, List.mem_append, List.mem_singleton,
      or_and_right, exists_or, exists_eq_left]
    exact or_assoc.symm
  | verbose =>
    simp only [mem_made_iff, Given.having, Selection.choice, List.mem_append, List.mem_singleton,
      or_and_right, exists_or, exists_eq_left]
    exact or_assoc.symm

/-- A value that suits is not refused. -/
theorem checkValue_suits {parameter : Parameter} {value : String}
    (suits : (Selection.value parameter value).Suits) : checkValue parameter value = .ok () := by
  obtain ⟨path, dialect⟩ := suits
  cases parameter with
  | dialect => rcases dialect rfl with rfl | rfl <;> rfl
  | lineFormat => simp [checkValue, Parameter.isPath, pure, Except.pure]
  | placeholder => simp [checkValue, Parameter.isPath, pure, Except.pure]
  | definitions => simp [checkValue, path, pure, Except.pure]
  | template => simp [checkValue, path, pure, Except.pure]
  | output => simp [checkValue, path, pure, Except.pure]
  | config => simp [checkValue, path, pure, Except.pure]

/-- A selection that suits is made unless its choice has been made before. -/
theorem add_eq {selection : Selection} (suits : selection.Suits) (given : Given) :
    given.add selection =
      if selection.choice ∈ given.made then .error (.repeated selection.choice)
      else .ok (given.having selection) := by
  cases selection with
  | value chosen text =>
    have known : (given.values.lookup chosen).isSome ↔ Choice.parameter chosen ∈ given.made := by
      simp [mem_made_iff, List.lookup_isSome_iff, @eq_comm _ chosen]
    simp only [Given.add, Given.give, Selection.choice, ← known, checkValue_suits suits]
    split <;> rfl
  | strict =>
    have known : given.switches.contains .strict ↔ Choice.switch .strict ∈ given.made := by
      simp [mem_made_iff]
    simp only [Given.add, Given.turnOn, Selection.choice, ← known]
    rfl
  | verbose =>
    have known : given.switches.contains .verbose ↔ Choice.switch .verbose ∈ given.made := by
      simp [mem_made_iff]
    simp only [Given.add, Given.turnOn, Selection.choice, ← known]
    rfl

/-- Selections can be made one after the other if and only if no choice is made twice. -/
theorem foldlM_add_eq_ok_iff {selections : List Selection}
    (suits : ∀ selection ∈ selections, selection.Suits) (given after : Given) :
    selections.foldlM Given.add given = .ok after ↔
      (∀ selection ∈ selections, selection.choice ∉ given.made) ∧
        (selections.map Selection.choice).Nodup ∧ after = selections.foldl Given.having given := by
  induction selections generalizing given with
  | nil => simp [pure, Except.pure, eq_comm]
  | cons selection selections ih =>
    obtain ⟨suitsFirst, suitsOthers⟩ := List.forall_mem_cons.mp suits
    rw [List.foldlM_cons, add_eq suitsFirst, List.foldl_cons, List.map_cons, List.nodup_cons]
    by_cases before : selection.choice ∈ given.made
    · simp [before, bind, Except.bind]
    · have next := ih suitsOthers (given.having selection)
      simp only [if_neg before, bind, Except.bind, next, mem_made_having]
      simp only [List.forall_mem_cons, not_or, List.mem_map, not_exists, not_and, forall_and, before,
        not_false_eq_true, true_and]
      constructor
      · rintro ⟨⟨fresh, apart⟩, once, same⟩
        exact ⟨fresh, ⟨fun other member same => apart other member same.symm, once⟩, same⟩
      · rintro ⟨fresh, ⟨apart, once⟩, same⟩
        exact ⟨⟨fresh, fun other member same => apart other member same.symm⟩, once, same⟩

theorem mem_values_foldl (selections : List Selection) (given : Given) (parameter : Parameter)
    (value : String) :
    (parameter, value) ∈ (selections.foldl Given.having given).values ↔
      (parameter, value) ∈ given.values ∨ .value parameter value ∈ selections := by
  induction selections generalizing given with
  | nil => simp
  | cons selection selections ih =>
    rw [List.foldl_cons, ih, List.mem_cons]
    cases selection <;> simp [Given.having, or_assoc]

theorem mem_switches_foldl (selections : List Selection) (given : Given) :
    (.strict ∈ (selections.foldl Given.having given).switches ↔
      .strict ∈ given.switches ∨ .strict ∈ selections) ∧
    (.verbose ∈ (selections.foldl Given.having given).switches ↔
      .verbose ∈ given.switches ∨ .verbose ∈ selections) := by
  induction selections generalizing given with
  | nil => simp
  | cons selection selections ih =>
    obtain ⟨strict, verbose⟩ := ih (given.having selection)
    rw [List.foldl_cons, strict, verbose, List.mem_cons, List.mem_cons]
    cases selection <;> simp [Given.having]

/-- The state after all selections that start from nothing. -/
def allSelected (selections : List Selection) : Given :=
  selections.foldl Given.having .nothing

/-- Every parameter that was chosen once has the value it was chosen with. -/
theorem lookup_allSelected {selections : List Selection}
    (once : (selections.map Selection.choice).Nodup) (parameter : Parameter) (value : String) :
    (allSelected selections).values.lookup parameter = some value ↔
      .value parameter value ∈ selections := by
  have held (value : String) :
      (parameter, value) ∈ (allSelected selections).values ↔ .value parameter value ∈ selections := by
    simp [allSelected, mem_values_foldl, Given.nothing]
  have sound (value : String)
      (found : (allSelected selections).values.lookup parameter = some value) :
      .value parameter value ∈ selections := by
    obtain ⟨before, after, split, -⟩ := List.lookup_eq_some_iff.mp found
    rw [← held, split]
    exact List.mem_append_right _ List.mem_cons_self
  constructor
  · exact sound value
  · intro member
    have some : ((allSelected selections).values.lookup parameter).isSome :=
      List.lookup_isSome_iff.mpr ⟨(parameter, value), (held value).mpr member, beq_self_eq_true _⟩
    obtain ⟨other, found⟩ := Option.isSome_iff_exists.mp some
    have same := List.inj_on_of_nodup_map once (sound other found) member rfl
    cases same
    exact found

/-! ## Options -/

/-- What the options say is what was selected, and they leave open what was not. -/
structure Options.Reflect (selections : List Selection) (options : Options) : Prop where
  definitions : .value .definitions options.job.definitions ∈ selections
  template : .value .template options.job.template ∈ selections
  output : .value .output options.job.output ∈ selections
  dialect : ∀ dialect, options.dialect = some dialect ↔ .value .dialect dialect.name ∈ selections
  lineFormat : ∀ text, options.lineFormat = some text ↔ .value .lineFormat text ∈ selections
  placeholder : ∀ text, options.placeholder = some text ↔ .value .placeholder text ∈ selections
  config : ∀ path, options.config = some path ↔ .value .config path ∈ selections
  strict : options.strict = true ↔ .strict ∈ selections
  verbose : options.verbose = true ↔ .verbose ∈ selections

/-- The layer sets what was selected. It leaves strictness open if this was not. -/
structure Overrides (selections : List Selection) (layer : Layer) : Prop where
  placeholder : ∀ text, layer.placeholder = some text ↔ .value .placeholder text ∈ selections
  dialect : ∀ dialect, layer.dialect = some dialect ↔ .value .dialect dialect.name ∈ selections
  lineFormat : ∀ text, layer.lineFormat = some text ↔ .value .lineFormat text ∈ selections
  strict : layer.strict = if .strict ∈ selections then some true else none

/-- All required parameters have been selected. -/
def Complete (selections : List Selection) : Prop :=
  ∀ parameter, parameter = .definitions ∨ parameter = .template ∨ parameter = .output →
    ∃ value, .value parameter value ∈ selections

theorem ofName?_eq_some_iff (name : String) (dialect : Dialect) :
    Dialect.ofName? name false = some dialect ↔ dialect.name = name := by
  constructor
  · intro found
    simpa using List.find?_some found
  · rintro rfl
    cases dialect <;> decide

/-- The options of what was selected are what was selected. -/
theorem options_allSelected {selections : List Selection}
    (once : (selections.map Selection.choice).Nodup) {options : Options}
    (read : (allSelected selections).options = .ok options) : options.Reflect selections := by
  have lookup := lookup_allSelected once
  have switches := mem_switches_foldl selections .nothing
  simp only [Given.options] at read
  split at read
  · next definitions template output foundDefinitions foundTemplate foundOutput =>
    cases read
    refine ⟨(lookup _ _).mp foundDefinitions, (lookup _ _).mp foundTemplate,
      (lookup _ _).mp foundOutput, ?_, lookup _, lookup _, lookup _, ?_, ?_⟩
    · intro dialect
      simp [Option.bind_eq_some_iff, lookup, ofName?_eq_some_iff]
    · simpa [allSelected, Given.nothing] using switches.1
    · simpa [allSelected, Given.nothing] using switches.2
  · cases read

/-- There are options if nothing that is required is missing. -/
theorem exists_options_allSelected {selections : List Selection}
    (once : (selections.map Selection.choice).Nodup) (complete : Complete selections) :
    ∃ options, (allSelected selections).options = .ok options := by
  have lookup := lookup_allSelected once
  obtain ⟨definitions, chosenDefinitions⟩ := complete .definitions (.inl rfl)
  obtain ⟨template, chosenTemplate⟩ := complete .template (.inr (.inl rfl))
  obtain ⟨output, chosenOutput⟩ := complete .output (.inr (.inr rfl))
  simp only [Given.options, (lookup _ _).mpr chosenDefinitions, (lookup _ _).mpr chosenTemplate,
    (lookup _ _).mpr chosenOutput]
  exact ⟨_, rfl⟩

theorem Options.Reflect.complete {selections : List Selection} {options : Options}
    (reflect : options.Reflect selections) : Complete selections := by
  rintro parameter (rfl | rfl | rfl)
  · exact ⟨_, reflect.definitions⟩
  · exact ⟨_, reflect.template⟩
  · exact ⟨_, reflect.output⟩

theorem Options.Reflect.of_perm {selections others : List Selection} {options : Options}
    (reordered : others.Perm selections) (reflect : options.Reflect others) :
    options.Reflect selections where
  definitions := reordered.mem_iff.mp reflect.definitions
  template := reordered.mem_iff.mp reflect.template
  output := reordered.mem_iff.mp reflect.output
  dialect dialect := (reflect.dialect dialect).trans reordered.mem_iff
  lineFormat text := (reflect.lineFormat text).trans reordered.mem_iff
  placeholder text := (reflect.placeholder text).trans reordered.mem_iff
  config path := (reflect.config path).trans reordered.mem_iff
  strict := reflect.strict.trans reordered.mem_iff
  verbose := reflect.verbose.trans reordered.mem_iff

/-- Only one set of options reflects some selections. -/
theorem Options.Reflect.unique {selections : List Selection} {options other : Options}
    (once : (selections.map Selection.choice).Nodup) (reflect : options.Reflect selections)
    (otherReflect : other.Reflect selections) : options = other := by
  have sameValue {parameter : Parameter} {value otherValue : String}
      (member : .value parameter value ∈ selections)
      (otherMember : .value parameter otherValue ∈ selections) : value = otherValue := by
    have same := List.inj_on_of_nodup_map once member otherMember rfl
    cases same
    rfl
  have definitions := sameValue reflect.definitions otherReflect.definitions
  have template := sameValue reflect.template otherReflect.template
  have output := sameValue reflect.output otherReflect.output
  have dialect : options.dialect = other.dialect :=
    Option.ext fun dialect => (reflect.dialect dialect).trans (otherReflect.dialect dialect).symm
  have lineFormat : options.lineFormat = other.lineFormat :=
    Option.ext fun text => (reflect.lineFormat text).trans (otherReflect.lineFormat text).symm
  have placeholder : options.placeholder = other.placeholder :=
    Option.ext fun text => (reflect.placeholder text).trans (otherReflect.placeholder text).symm
  have config : options.config = other.config :=
    Option.ext fun path => (reflect.config path).trans (otherReflect.config path).symm
  have strict : options.strict = other.strict :=
    Bool.eq_iff_iff.mpr (reflect.strict.trans otherReflect.strict.symm)
  have verbose : options.verbose = other.verbose :=
    Bool.eq_iff_iff.mpr (reflect.verbose.trans otherReflect.verbose.symm)
  obtain ⟨⟨_, _, _⟩, _, _, _, _, _, _⟩ := options
  obtain ⟨⟨_, _, _⟩, _, _, _, _, _, _⟩ := other
  simp_all only

/-- The settings among options that reflect some selections are those that were selected. -/
theorem Options.Reflect.overrides {selections : List Selection} {options : Options}
    (reflect : options.Reflect selections) : Overrides selections options.layer where
  placeholder := reflect.placeholder
  dialect := reflect.dialect
  lineFormat := reflect.lineFormat
  strict := by simp only [Options.layer, reflect.strict]

/-- The options of what was selected are the ones that reflect it. -/
theorem options_allSelected_iff {selections : List Selection}
    (once : (selections.map Selection.choice).Nodup) (options : Options) :
    (allSelected selections).options = .ok options ↔ options.Reflect selections := by
  constructor
  · exact options_allSelected once
  · intro reflect
    obtain ⟨other, found⟩ := exists_options_allSelected once reflect.complete
    rw [reflect.unique once (options_allSelected once found)]
    exact found

/-- Nothing waits at the start, so that arguments for some selections make these and no more. -/
theorem Selected.read_nothing {selections : List Selection} {arguments : List String}
    (selected : Selected selections arguments) :
    Given.nothing.read arguments = selections.foldlM Given.add .nothing := by
  rw [selected.read .nothing (by simp [Given.nothing]), settle_of_waiting rfl]
  rfl

/-- Selections can be made from nothing if no choice is made twice. -/
theorem foldlM_add_nothing_iff {selections : List Selection}
    (suits : ∀ selection ∈ selections, selection.Suits) (after : Given) :
    selections.foldlM Given.add .nothing = .ok after ↔
      (selections.map Selection.choice).Nodup ∧ after = allSelected selections := by
  rw [foldlM_add_eq_ok_iff suits]
  simp [Given.made, Given.nothing, allSelected]

/-- Arguments for some selections are read as the options that reflect these, provided that no choice
is made twice. -/
theorem Selected.read_eq_ok_iff {selections : List Selection} {arguments : List String}
    (selected : Selected selections arguments) (suits : ∀ selection ∈ selections, selection.Suits)
    (options : Options) :
    Options.read arguments = .ok options ↔
      (selections.map Selection.choice).Nodup ∧ options.Reflect selections := by
  have made := foldlM_add_nothing_iff suits
  rw [Options.read, selected.read_nothing]
  constructor
  · intro found
    cases reached : selections.foldlM Given.add .nothing with
    | error stop =>
      rw [reached] at found
      cases found
    | ok after =>
      obtain ⟨once, rfl⟩ := (made after).mp reached
      rw [reached] at found
      exact ⟨once, (options_allSelected_iff once options).mp found⟩
  · rintro ⟨once, reflect⟩
    rw [(made _).mpr ⟨once, rfl⟩]
    exact (options_allSelected_iff once options).mpr reflect

/-- Selections are read the same way in whatever order they stand and however they are written. There
are options exactly if the required parameters are all selected and no choice is made twice, and they
hold what was selected. -/
theorem selections_are_read_in_any_order {selections : List Selection} {arguments : List String}
    (selected : Selected selections arguments)
    (suits : ∀ selection ∈ selections, selection.Suits) :
    ((∃ options, Options.read arguments = .ok options) ↔
      Complete selections ∧ (selections.map Selection.choice).Nodup) ∧
    (∀ options, Options.read arguments = .ok options →
      options.Reflect selections ∧ Overrides selections options.layer) ∧
    ∀ (others : List Selection) (otherArguments : List String), others.Perm selections →
      Selected others otherArguments →
        (Options.read otherArguments).toOption = (Options.read arguments).toOption := by
  have read := selected.read_eq_ok_iff suits
  refine ⟨?_, ?_, ?_⟩
  · constructor
    · rintro ⟨options, found⟩
      obtain ⟨once, reflect⟩ := (read options).mp found
      exact ⟨reflect.complete, once⟩
    · rintro ⟨complete, once⟩
      obtain ⟨options, found⟩ := exists_options_allSelected once complete
      exact ⟨options, (read options).mpr ⟨once, options_allSelected once found⟩⟩
  · intro options found
    obtain ⟨-, reflect⟩ := (read options).mp found
    exact ⟨reflect, reflect.overrides⟩
  · intro others otherArguments reordered otherSelected
    have otherSuits : ∀ selection ∈ others, selection.Suits := fun selection member =>
      suits selection (reordered.mem_iff.mp member)
    have otherRead := otherSelected.read_eq_ok_iff otherSuits
    have same (options : Options) :
        Options.read otherArguments = .ok options ↔ Options.read arguments = .ok options := by
      rw [read, otherRead, (reordered.map Selection.choice).nodup_iff]
      exact and_congr_right fun _ => ⟨.of_perm reordered, .of_perm reordered.symm⟩
    cases found : Options.read arguments with
    | ok options => rw [(same options).mpr found]
    | error stop =>
      cases otherFound : Options.read otherArguments with
      | ok options =>
        rw [(same options).mp otherFound] at found
        cases found
      | error otherStop => rfl

/-- A value that looks like another choice and has a second equals sign, an empty one, and a strict run:
the options are the same in another order and other spellings. -/
theorem misleading_values_are_read : ∃ options : Options,
    Options.read ["--output", "a", "--strict", "--line-format=--output=b", "--template=t",
      "--placeholder", "", "--messages", "m"] = .ok options ∧
    Options.read ["--messages=m", "--template", "t", "--output=a", "--placeholder=",
      "--line-format=--output=b", "--strict"] = .ok options ∧
    options.lineFormat = some "--output=b" ∧ options.placeholder = some "" ∧
    options.dialect = none ∧ options.layer.strict = some true := by
  have selected : Selected [.value .output "a", .strict, .value .lineFormat "--output=b",
      .value .template "t", .value .placeholder "", .value .definitions "m"]
      ["--output", "a", "--strict", "--line-format=--output=b", "--template=t", "--placeholder", "",
        "--messages", "m"] :=
    .more (.apart (by decide)) (.more .strict (.more .attached (.more .attached
      (.more (.apart (by decide)) (.more (.apart (by decide)) .nothing)))))
  have otherSelected : Selected [.value .definitions "m", .value .template "t", .value .output "a",
      .value .placeholder "", .value .lineFormat "--output=b", .strict]
      ["--messages=m", "--template", "t", "--output=a", "--placeholder=",
        "--line-format=--output=b", "--strict"] :=
    .more .attached (.more (.apart (by decide)) (.more .attached (.more .attached
      (.more .attached (.more .strict .nothing)))))
  obtain ⟨readIff, held, anyOrder⟩ := selections_are_read_in_any_order selected
    (by simp [Selection.Suits])
  obtain ⟨options, read⟩ := readIff.mpr ⟨by simp [Complete], by decide⟩
  obtain ⟨reflect, overrides⟩ := held options read
  have otherRead := anyOrder _ _ (by decide) otherSelected
  rw [read] at otherRead
  refine ⟨options, read, ok_of_toOption otherRead, ?_, ?_, ?_, ?_⟩
  · exact (reflect.lineFormat _).mpr (by decide)
  · exact (reflect.placeholder _).mpr (by decide)
  · cases chosen : options.dialect with
    | none => rfl
    | some dialect => exact absurd ((reflect.dialect dialect).mp chosen) (by simp)
  · rw [overrides.strict]
    decide

end Codebook.CommandLine
