import Codebook.Definition
import Codebook.Template.Render
import Codebook.Text.Occurrence

/-!
# Declaration lines and their place in a template

Every definition gives one declaration line, by a line format that is rendered with the code and the
name. All lines in the order of the definitions are the block, and the block is put in place of every
occurrence of the placeholder in a template. The rest of the template stays as it is.
-/

namespace Codebook

/-- What a line format is rendered with. -/
def Definition.data (definition : Definition) : Template.Value :=
  .ofEntries [(.ofText "name", .ofText definition.name), (.ofText "code", .ofText definition.code)]

/-- What writes declaration lines: it makes a line of a line format and a definition, or fails in
    its own way. -/
abbrev LineWriter (ε : Type) := String → Definition → Except ε String

/-- Writes a declaration line by rendering the line format. -/
def declarationLine : LineWriter Template.Fault := fun lineFormat definition =>
  Template.render lineFormat definition.data

/-- The lines of all definitions, one after the other. -/
def declarationBlock {ε : Type} (writer : LineWriter ε) (lineFormat : String)
    (definitions : List Definition) : Except ε String := do
  return "".intercalate (← definitions.mapM (writer lineFormat))

/-- A template with the block in it, and how often it is in it. -/
structure Expansion where
  text : String
  replacements : Nat
  deriving Repr, DecidableEq

/-- Puts a block in place of every occurrence of the placeholder. The occurrences are counted first;
    a template without any is taken over as it is. -/
def putBlock (placeholder block template : String) : Expansion :=
  let replacements := Text.occurrences placeholder.toList template.toList
  { text :=
      if replacements = 0 then template
      else String.ofList (Text.replaceAll placeholder.toList block.toList template.toList)
    replacements }

/-- Puts the lines of all definitions in place of every occurrence of the placeholder. The lines are
    written even if there is none. -/
def expand {ε : Type} (writer : LineWriter ε) (lineFormat placeholder template : String)
    (definitions : List Definition) : Except ε Expansion := do
  return putBlock placeholder (← declarationBlock writer lineFormat definitions) template

end Codebook
