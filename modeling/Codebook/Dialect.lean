/-!
# Dialects

The languages that declaration lines can be written in without a line format of one's own.
-/

namespace Codebook

/-- The dialects. -/
inductive Dialect where
  | csharp
  | rust
  deriving Repr, DecidableEq

/-- All dialects in the order in which they are listed. -/
def Dialect.all : List Dialect :=
  [.csharp, .rust]

/-- The dialect that is used if none is asked for. -/
def Dialect.default : Dialect :=
  .csharp

/-- The name of a dialect. -/
def Dialect.name : Dialect → String
  | .csharp => "csharp"
  | .rust => "rust"

/-- The line format of a dialect: a constant of a class, or of a module. -/
def Dialect.lineFormat : Dialect → String
  | .csharp => "\tpublic const \x7b\x7b name \x7d\x7d = \x7b\x7b code \x7d\x7d;\n"
  | .rust => "    pub const \x7b\x7b name \x7d\x7d: u32 = \x7b\x7b code \x7d\x7d;\n"

/-- The text with small letters in place of capitals, among the characters of seven bits. -/
def withoutCase (text : String) : List Char :=
  text.toList.map Char.toLower

/-- The dialect of a name. -/
def Dialect.ofName? (name : String) (ignoreCase : Bool) : Option Dialect :=
  Dialect.all.find? fun dialect =>
    if ignoreCase then withoutCase dialect.name == withoutCase name else dialect.name == name

end Codebook
