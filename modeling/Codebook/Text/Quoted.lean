import Codebook.Text.Printable

/-!
# Quoted text in messages

Messages and lists of values show a character or a text between quotes, with everything
that could not be read back or not be seen written as an escape. The two forms differ only
in which quote is escaped: a character escapes the single quote, a text the double quote.
-/

namespace Codebook.Text

/-- The lower-case hexadecimal digits of a number, at least one, without leading zeros. -/
def hexDigits (n : Nat) : List Char :=
  Nat.toDigits 16 n

/-- The escape of a character by its code point. -/
def codePointEscape (c : Char) : List Char :=
  "\\u\x7b".toList ++ hexDigits c.toNat ++ ['}']

/-- The written form of a character between quotes of the kind `quote`. -/
def escapeFor (quote : Char) (c : Char) : List Char :=
  if c = '\x00' then ['\\', '0']
  else if c = '\t' then ['\\', 't']
  else if c = '\r' then ['\\', 'r']
  else if c = '\n' then ['\\', 'n']
  else if c = '\\' || c = quote then ['\\', c]
  else if isExtending c then codePointEscape c
  else if isVisible c then [c]
  else codePointEscape c

/-- A character between single quotes. -/
def quoteChar (c : Char) : String :=
  String.ofList ('\'' :: escapeFor '\'' c ++ ['\''])

/-- A text between double quotes. -/
def quoteText (text : List Char) : List Char :=
  '"' :: text.flatMap (escapeFor '"') ++ ['"']

end Codebook.Text
