import StoredDocs.Number.Binary64
import StoredDocs.Text.Literal

/-!
# Why a JSON text was refused

Reading a JSON text into a typed value fails either on the text itself (it is malformed) or on
what it says (a value of the wrong type, an unknown variant, a missing or repeated field). A
failure carries the position where it was noticed, once that is known: the line, counted from
one, and the column, counted in bytes from the start of that line.
-/

namespace StoredDocs.Json

/-- A place in the text. -/
structure Position where
  line : Nat
  column : Nat
  deriving DecidableEq, Repr

/-- A problem with the text itself. -/
inductive Malformed where
  | eofWhileParsingList
  | eofWhileParsingObject
  | eofWhileParsingString
  | eofWhileParsingValue
  | expectedColon
  | expectedListCommaOrEnd
  | expectedObjectCommaOrEnd
  | expectedSomeIdent
  | expectedSomeValue
  | invalidEscape
  | invalidNumber
  | numberOutOfRange
  | controlCharacterWhileParsingString
  | keyMustBeAString
  | loneLeadingSurrogateInHexEscape
  | trailingComma
  | trailingCharacters
  | unexpectedEndOfHexEscape
  | recursionLimitExceeded
  deriving DecidableEq, Repr

/-- The sentence of a malformed text. -/
def Malformed.message : Malformed → String
  | .eofWhileParsingList => "EOF while parsing a list"
  | .eofWhileParsingObject => "EOF while parsing an object"
  | .eofWhileParsingString => "EOF while parsing a string"
  | .eofWhileParsingValue => "EOF while parsing a value"
  | .expectedColon => "expected `:`"
  | .expectedListCommaOrEnd => "expected `,` or `]`"
  | .expectedObjectCommaOrEnd => "expected `,` or `\x7d`"
  | .expectedSomeIdent => "expected ident"
  | .expectedSomeValue => "expected value"
  | .invalidEscape => "invalid escape"
  | .invalidNumber => "invalid number"
  | .numberOutOfRange => "number out of range"
  | .controlCharacterWhileParsingString =>
    "control character (\\u0000-\\u001F) found while parsing a string"
  | .keyMustBeAString => "key must be a string"
  | .loneLeadingSurrogateInHexEscape => "lone leading surrogate in hex escape"
  | .trailingComma => "trailing comma"
  | .trailingCharacters => "trailing characters"
  | .unexpectedEndOfHexEscape => "unexpected end of hex escape"
  | .recursionLimitExceeded => "recursion limit exceeded"

/-- What was found where a value of another type was expected. -/
inductive Unexpected where
  | bool (b : Bool)
  | unsigned (n : Nat)
  | signed (i : Int)
  | float (f : Binary64)
  | str (s : String)
  | null
  | seq
  | map
  | unitVariant
  deriving DecidableEq, Repr

/-- How a found value is named in a message. -/
def Unexpected.describe : Unexpected → String
  | .bool b => "boolean `" ++ toString b ++ "`"
  | .unsigned n => "integer `" ++ toString n ++ "`"
  | .signed i => "integer `" ++ toString i ++ "`"
  | .float f => "floating point `" ++ f.render ++ "`"
  | .str s => "string " ++ Literal.quote s
  | .null => "null"
  | .seq => "sequence"
  | .map => "map"
  | .unitVariant => "unit variant"

/-- What was wrong. -/
inductive Problem where
  | malformed (s : Malformed)
  | invalidType (found : Unexpected) (expected : String)
  | invalidValue (found : Unexpected) (expected : String)
  | invalidLength (len : Nat) (expected : String)
  | unknownVariant (name : String) (expected : List String)
  | missingField (name : String)
  | duplicateField (name : String)
  deriving DecidableEq, Repr

/-- The names of the expected variants: one, two joined by `or`, or a list. -/
def oneOf (names : List String) : String :=
  let q (n : String) := "`" ++ n ++ "`"
  match names with
  | [] => "nothing"
  | [a] => q a
  | [a, b] => q a ++ " or " ++ q b
  | _ => "one of " ++ ", ".intercalate (names.map q)

/-- The sentence of a problem. -/
def Problem.message : Problem → String
  | .malformed s => s.message
  | .invalidType found expected => "invalid type: " ++ found.describe ++ ", expected " ++ expected
  | .invalidValue found expected => "invalid value: " ++ found.describe ++ ", expected " ++ expected
  | .invalidLength len expected => "invalid length " ++ toString len ++ ", expected " ++ expected
  | .unknownVariant name [] => "unknown variant `" ++ name ++ "`, there are no variants"
  | .unknownVariant name expected => "unknown variant `" ++ name ++ "`, expected " ++ oneOf expected
  | .missingField name => "missing field `" ++ name ++ "`"
  | .duplicateField name => "duplicate field `" ++ name ++ "`"

/-- A refusal: the problem and, once known, where it was noticed. -/
structure Failure where
  problem : Problem
  position : Option Position := none
  deriving DecidableEq, Repr

/-- The sentence of a refusal, with its position when known. -/
def Failure.message (f : Failure) : String :=
  match f.position with
  | none => f.problem.message
  | some p =>
    f.problem.message ++ " at line " ++ toString p.line ++ " column " ++ toString p.column

end StoredDocs.Json
