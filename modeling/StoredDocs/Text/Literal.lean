import StoredDocs.Text.Extend
import StoredDocs.Text.Hex
import StoredDocs.Text.Printable

/-!
# Quoted text literals

Diagnostics show a text as a quoted literal: between double quotes, with the quote and the
backslash escaped by a backslash, the null, tab, carriage return and line feed written as
`\0`, `\t`, `\r`, `\n`, and every other character that extends the one before it
(`Extend.isExtend`) or does not print on its own (`Printable.isPrintable`) written as `\u{…}`
with its lowercase hexadecimal scalar value. An extending character is escaped wherever it
stands, also right after the character it attaches to.
-/

namespace StoredDocs.Literal

/-- The written form of one character inside a quoted literal. -/
def escapeChar (c : Char) : List Char :=
  if c = '\x00' then ['\\', '0']
  else if c = '\t' then ['\\', 't']
  else if c = '\r' then ['\\', 'r']
  else if c = '\n' then ['\\', 'n']
  else if c = '\\' then ['\\', '\\']
  else if c = '"' then ['\\', '"']
  else if Extend.isExtend c || !Printable.isPrintable c then
    ['\\', 'u', '\x7b'] ++ Hex.ofNat c.toNat ++ ['\x7d']
  else [c]

/-- A text between double quotes, escaped as described above. -/
def quote (s : String) : String :=
  String.ofList ('"' :: s.toList.flatMap escapeChar ++ ['"'])

end StoredDocs.Literal
