import StoredDocs.Number.Binary64
import StoredDocs.Text.Hex

/-!
# JSON values and their compact text

A JSON number is an unsigned or a signed 64-bit integer, or a double. A JSON value is written
compactly, with no blank between tokens. Integers are written in decimal, a finite double in
its shortest text and any other double as `null`. In a string, the quote and the backslash are
escaped by a backslash, backspace, form feed, line feed, carriage return and tab are written
`\b`, `\f`, `\n`, `\r`, `\t`, every other character below U+0020 as `\u00XX` with lowercase
hexadecimal digits, and every other character as itself. Object members are written in the
order the value holds them.
-/

namespace StoredDocs.Json

/-- A JSON number: an unsigned or signed 64-bit integer, or a double. -/
inductive Number where
  | unsigned (n : Nat)
  | signed (i : Int)
  | float (f : Binary64)
  deriving DecidableEq, Repr

/-- The compact text of a number. -/
def Number.render : Number → String
  | .unsigned n => toString n
  | .signed i => toString i
  | .float f => if f.isInfinite then "null" else f.render

/-- A JSON value. -/
inductive Value where
  | null
  | bool (b : Bool)
  | number (n : Number)
  | string (s : String)
  | array (items : List Value)
  | object (members : List (String × Value))
  deriving Repr, Inhabited

/-- The written form of one character inside a string. -/
def escapeChar (c : Char) : List Char :=
  if c = '"' then ['\\', '"']
  else if c = '\\' then ['\\', '\\']
  else if c = '\x08' then ['\\', 'b']
  else if c = '\x0c' then ['\\', 'f']
  else if c = '\n' then ['\\', 'n']
  else if c = '\r' then ['\\', 'r']
  else if c = '\t' then ['\\', 't']
  else if c.toNat < 0x20 then ['\\', 'u', '0', '0'] ++ Hex.ofByte c.toNat.toUInt8
  else [c]

/-- A string written as a JSON string. -/
def quote (s : String) : String :=
  String.ofList ('"' :: s.toList.flatMap escapeChar ++ ['"'])

mutual

/-- The compact text of a value. -/
def Value.render : Value → String
  | .null => "null"
  | .bool true => "true"
  | .bool false => "false"
  | .number n => n.render
  | .string s => quote s
  | .array items => "[" ++ renderItems items ++ "]"
  | .object members => "\x7b" ++ renderMembers members ++ "\x7d"

/-- The compact text of array items, comma-separated. -/
def renderItems : List Value → String
  | [] => ""
  | [v] => v.render
  | v :: vs => v.render ++ "," ++ renderItems vs

/-- The compact text of object members, comma-separated. -/
def renderMembers : List (String × Value) → String
  | [] => ""
  | [(k, v)] => quote k ++ ":" ++ v.render
  | (k, v) :: ms => quote k ++ ":" ++ v.render ++ "," ++ renderMembers ms

end

/-- The member of an object under a key. -/
def Value.member? (key : String) : Value → Option Value
  | .object members => members.lookup key
  | _ => none

end StoredDocs.Json
