import Codebook.Expansion

/-!
# Line formats of text and fields

The simplest line formats are texts with fields in between, which the code or the name of a definition
is put into. What is said here is what becomes of the tree of such a format: the texts and the values
of the fields stand in the output one after the other, as they are.

Nothing in the machine but its output changes on the way. So it is enough to say what the machine knows
when it starts, and to add up what is put out.
-/

namespace Codebook.Template

/-- The fields of a definition. -/
inductive Field where
  | code
  | name
  deriving Repr, DecidableEq

/-- The name that a field goes by in a line format. -/
def Field.word : Field → String
  | .code => "code"
  | .name => "name"

/-- What a field of a definition holds. -/
def Field.value (definition : Definition) : Field → String
  | .code => definition.code
  | .name => definition.name

/-- A part of a simple line format: a text, or a field that is put in. -/
inductive Slot where
  | text (raw : String)
  | field (field : Field)
  deriving Repr, DecidableEq

/-- The statement that a part is read as. -/
def Slot.statement (line : Nat) : Slot → Statement
  | .text raw => .text raw line
  | .field held => .output (.name held.word line)

/-- What is put out for a part. -/
def Slot.shown (definition : Definition) : Slot → String
  | .text raw => raw
  | .field held => held.value definition

/-! ## Texts as values -/

/-- Texts are compared as values as they are compared as texts. -/
theorem compareWithin_ofText (depth : Nat) (first second : String) :
    Value.compareWithin (depth + 1) (.ofText first) (.ofText second) = compare first second := by
  simp [Value.compareWithin, Value.ofText, compareSimple?, Value.kind]

/-- The value of a key is that of the first entry with this key. -/
theorem valueFor?_ofText (key word : String) (value : Value) (entries : List (Value × Value)) :
    valueFor? (.ofText key) ((.ofText word, value) :: entries) =
      if key = word then some value else valueFor? (.ofText key) entries := by
  have compared : (Value.ofText key).compare (.ofText word) = compare key word :=
    compareWithin_ofText 9999 key word
  by_cases same : key = word
  · subst same
    simp [valueFor?, compared]
  · simp [valueFor?, compared, same]

/-- A text is no object, and so it gets no number. -/
theorem identifyWithin_ofText (depth : Nat) (text : String) :
    identifyWithin depth (.ofText text) = pure (.ofText text) := by
  cases depth <;> rfl

/-- A text refers to no cell. -/
theorem renewWithin_ofText (depth : Nat) (cells : Array Cell) (passed : List Nat) (text : String) :
    renewWithin depth cells passed (.ofText text) = .ofText text := by
  cases depth <;> rfl

/-! ## What the machine knows -/

/-- The entries of the map that a line format is rendered with, in the order of their keys. -/
def dataEntries (definition : Definition) : List (Value × Value) :=
  [(.ofText "code", .ofText definition.code), (.ofText "name", .ofText definition.name)]

/-- The machine knows a definition and nothing else, and does not escape. -/
structure Machine.Knows (machine : Machine) (definition : Definition) : Prop where
  frames : ∃ identity, machine.frames = [⟨[], none, .map (dataEntries definition) identity, none⟩]
  plain : machine.escaping = false

/-- The data of a definition gets one number, which is that of the whole map. -/
theorem identifyWithin_data (depth : Nat) (definition : Definition) (next : Nat) :
    identifyWithin (depth + 1) definition.data next =
      (.map (dataEntries definition) (some next), next + 1) := by
  have data : definition.data = .map (dataEntries definition) none := rfl
  rw [data, identifyWithin]
  simp only [dataEntries, List.mapM_cons, List.mapM_nil, identifyWithin_ofText, pure_bind]
  rfl

/-- The names of the fields stand for what the definition holds. -/
theorem item?_data (definition : Definition) (identity : Identity) (field : Field) :
    (Value.map (dataEntries definition) identity).item? (.ofText field.word) =
      some (.ofText (field.value definition)) := by
  cases field <;>
    simp [Value.item?, Value.entries?, dataEntries, valueFor?_ofText, Field.word, Field.value]

/-- The name of a field has the value that the definition holds. -/
theorem valueOf?_field {machine : Machine} {definition : Definition}
    (knows : machine.Knows definition) (field : Field) :
    (valueOf? field.word).run machine = .ok (some (.ofText (field.value definition)), machine) := by
  obtain ⟨identity, frames⟩ := knows.frames
  have found : Frame.lookup? machine.cells field.word
      ⟨[], none, .map (dataEntries definition) identity, none⟩ =
        some (.ofText (field.value definition)) :=
    item?_data definition identity field
  simp [valueOf?, frames, found]
  rfl

/-- A text is put out as it is where nothing is escaped. -/
theorem emit_ofText {machine : Machine} (plain : machine.escaping = false) (text : String) :
    (emit (.ofText text)).run machine =
      .ok ((), { machine with output := machine.output ++ text }) := by
  have shown : (emit (.ofText text)).run machine = (emitText text).run machine := by
    simp only [emit, renewed, StateT.run_bind]
    simp [renewWithin_ofText, plain]
    rfl
  rw [shown]
  rfl

/-! ## What is put out -/

/-- A name is put out by its value. It is no call, so it cannot start a loop again. -/
theorem perform_name (enter : Entering) (name : String) (line : Nat) :
    perform enter (.output (.name name line)) =
      valueOf? name >>= fun value => emit (orUndefined value) := by
  rw [perform]
  · rw [evaluate, bind_assoc]
    rfl
  · exact fun _ _ _ call => by cases call

/-- A part puts out what is shown for it, and changes nothing else. -/
theorem perform_slot {machine : Machine} {definition : Definition} (enter : Entering)
    (knows : machine.Knows definition) (slot : Slot) (line : Nat) :
    (perform enter (slot.statement line)).run machine =
      .ok ((), { machine with output := machine.output ++ slot.shown definition }) := by
  cases slot with
  | text raw =>
    rw [Slot.statement, perform]
    rfl
  | field held =>
    rw [Slot.statement, perform_name, StateT.run_bind, valueOf?_field knows]
    exact emit_ofText knows.plain (held.value definition)

/-- Parts put out what is shown for them, one after the other. What is put out does not change what the
machine knows. -/
theorem performAll_slots {definition : Definition} (enter : Entering) (slots : List (Slot × Nat)) :
    ∀ machine : Machine, machine.Knows definition →
      (performAll enter (slots.map fun (slot, line) => slot.statement line)).run machine =
        .ok ((), { machine with
          output := slots.foldl (fun output (slot, _) => output ++ slot.shown definition)
            machine.output }) := by
  induction slots with
  | nil => exact fun machine knows => rfl
  | cons first slots ih =>
    intro machine knows
    obtain ⟨slot, line⟩ := first
    rw [List.map_cons, performAll, StateT.run_bind, perform_slot enter knows]
    exact ih _ ⟨knows.frames, knows.plain⟩

/-- A tree of texts and fields is rendered as the texts and what the definition holds in the fields, one
after the other.

Proof: the machine starts with the data of the definition alone and with no output. -/
theorem renderStatements_slots (slots : List (Slot × Nat)) (definition : Definition) :
    renderStatements (slots.map fun (slot, line) => slot.statement line) definition.data =
      .ok (String.join (slots.map fun (slot, _) => slot.shown definition)) := by
  have numbered : identifyWithin valueDepth definition.data 0 =
      (.map (dataEntries definition) (some 0), 1) :=
    identifyWithin_data 9999 definition 0
  have knows (blocks : List (String × List Statement)) :
      Machine.Knows ⟨[⟨[], none, .map (dataEntries definition) (some 0), none⟩], [], 0, #[], 1, "",
        false, blocks⟩ definition :=
    ⟨⟨some 0, rfl⟩, rfl⟩
  rw [renderStatements, numbered]
  dsimp only
  rw [performAll_slots _ slots _ (knows _), String.join, List.foldl_map]
  rfl

end Codebook.Template
