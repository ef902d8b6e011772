/-!
# What can go wrong with a line format

A line format is refused when it is read, or fails while it is rendered. Either way there is
one fault: its kind, what it is about if there is more to say, and the line of the format it
was found on. The wording of all faults is here.
-/

namespace Codebook.Template

/-- The kinds of faults. -/
inductive FaultKind where
  | malformed
  | badEscape
  | undefinedValue
  | invalidOperation
  | missingArgument
  | tooManyArguments
  | cannotUnpack
  | templateNotFound
  | unknownFilter
  | unknownTest
  | unknownFunction
  | unknownMethod
  | unknownBlock
  deriving Repr, DecidableEq

/-- The words for a kind of fault. -/
def FaultKind.words : FaultKind → String
  | .malformed => "syntax error"
  | .badEscape => "bad string escape"
  | .undefinedValue => "undefined value"
  | .invalidOperation => "invalid operation"
  | .missingArgument => "missing argument"
  | .tooManyArguments => "too many arguments"
  | .cannotUnpack => "cannot unpack"
  | .templateNotFound => "template not found"
  | .unknownFilter => "unknown filter"
  | .unknownTest => "unknown test"
  | .unknownFunction => "unknown function"
  | .unknownMethod => "unknown method"
  | .unknownBlock => "unknown block"

/-- A fault. Line formats have no file of their own, so the line is all of its place. -/
structure Fault where
  kind : FaultKind
  detail : Option String
  line : Option Nat
  deriving Repr, DecidableEq

/-- A fault of a kind, with something to say about it and no place yet. -/
def Fault.about (kind : FaultKind) (detail : String) : Fault :=
  ⟨kind, some detail, none⟩

/-- A fault of a kind about which there is nothing more to say. -/
def Fault.plain (kind : FaultKind) : Fault :=
  ⟨kind, none, none⟩

/-- The fault with a place. A fault keeps the first place it is given. -/
def Fault.at (fault : Fault) (line : Nat) : Fault :=
  { fault with line := fault.line.or (some line) }

/-- The text of a fault. -/
def Fault.message (fault : Fault) : String :=
  let about :=
    match fault.detail with
    | some detail => ": " ++ detail
    | none => ""
  let place :=
    match fault.line with
    | some line => " (in <string>:" ++ toString line ++ ")"
    | none => ""
  fault.kind.words ++ about ++ place

end Codebook.Template
