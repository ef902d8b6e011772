import Codebook.Main
import Codebook.Session
import Codebook.Proofs.Definition.Rejection
import Codebook.Proofs.Text.Occurrence
import Codebook.Proofs.Generation.Failing
import Codebook.Proofs.Expansion
import Codebook.Proofs.Files.Access
import Codebook.Proofs.Workplace
import Codebook.Proofs.Generation.Stages
import Codebook.Proofs.Definition.Truncation
import Codebook.Proofs.Generation.Layout
import Codebook.Proofs.Readback
import Codebook.Proofs.Definition.Filler
import Codebook.Proofs.Definition.Finality
import Codebook.Proofs.Definition.Segments
import Codebook.Proofs.Definition.LineEndings
import Codebook.Proofs.Generation.Strictness
import Codebook.Proofs.Program.Configuration
import Codebook.Proofs.Program.Ending
import Codebook.Proofs.Files.Rewriting
import Codebook.Proofs.Files.WorkingDirectory
import Codebook.Proofs.Generation.Remarks
import Codebook.Proofs.Program.Regeneration
import Codebook.Proofs.Template.FieldFormat
import Codebook.Proofs.Consumption
import Codebook.Proofs.Settings.Layers
import Codebook.Proofs.Settings.OfJson
import Codebook.Proofs.CommandLine.Selections
import Codebook.Proofs.Yaml.Lines
import Codebook.Proofs.Yaml.Endings
import Codebook.Proofs.Yaml.Braces
import Codebook.Proofs.Yaml.Documents
import Codebook.Proofs.Settings.OfYaml
import Codebook.Proofs.Settings.PlainWords
import Codebook.Proofs.Yaml.JsonTexts
import Codebook.Proofs.Settings.Refusal
import Codebook.Proofs.Definition.Pattern
import Codebook.Proofs.Definition.Unambiguous
import Codebook.Proofs.Definition.Offset
import Codebook.Proofs.Session
import Codebook.Proofs.Declaration
import Codebook.Proofs.Definition.LongestMatch
