import StoredDocs.Error
import StoredDocs.Field
import StoredDocs.Text.Hex
import StoredDocs.Text.Utf8

/-!
# Column encoding of stored fields

Every stored field is written to one column whose value is the payload followed by a single
trailing type tag:

* `binaryTag` (`0x7F`): the payload is opaque bytes, kept verbatim;
* `textTag` (`0x80`): the payload is UTF-8 text. A multi-valued text field joins its values
  with the delimiter U+FFFF; decoding splits the text back into one field per non-empty
  token, in order.

Column names are decoded lossily, as is the text payload. The column named
`U+FFFF META U+FFFF` holds row metadata and is no field.
-/

namespace StoredDocs.Codec

/-- The tag of a binary column value. -/
def binaryTag : UInt8 := 0x7F

/-- The tag of a text column value. -/
def textTag : UInt8 := 0x80

/-- The character that separates the values of a multi-valued text field. -/
def delimiter : Char := '￿'

/-- The UTF-8 bytes of the delimiter. -/
def delimiterBytes : Bytes := [0xEF, 0xBF, 0xBF]

/-- The name of the metadata column: `META` between two delimiters. -/
def metadataColumn : Bytes := delimiterBytes ++ [0x4D, 0x45, 0x54, 0x41] ++ delimiterBytes

/-- Two U+FFFE characters: a column name that sorts after every field name in use. -/
def finalToken : Bytes := [0xEF, 0xBF, 0xBE, 0xEF, 0xBF, 0xBE]

/-- Whether a column is the metadata column. -/
def isMetadataColumn (name : Bytes) : Bool := name == metadataColumn

/-- The pieces of a character list between occurrences of `d`. -/
def splitOn (d : Char) : List Char → List (List Char)
  | [] => [[]]
  | c :: cs =>
    if c = d then [] :: splitOn d cs
    else match splitOn d cs with
      | [] => [[c]]
      | t :: ts => (c :: t) :: ts

/-- The text fields of a decoded text payload: one per non-empty token between delimiters,
or the whole text when it holds no delimiter. -/
def textFields (name : String) (text : List Char) : List StoredField :=
  if delimiter ∈ text then
    ((splitOn delimiter text).filter (· ≠ [])).map fun t => ⟨name, .text (String.ofList t)⟩
  else [⟨name, .text (String.ofList text)⟩]

/-- Decodes one column into the fields it stores. -/
def decodeColumn (name value : Bytes) : Except Error (List StoredField) :=
  let fieldName := Utf8.decodeLossy name
  match Bytes.splitLast? value with
  | none => throw (.corruptEncoding none fieldName "empty column value")
  | some (payload, tag) =>
    if tag = binaryTag then pure [⟨fieldName, .binary payload⟩]
    else if tag = textTag then pure (textFields fieldName (Utf8.decodeChars payload))
    else throw (.corruptEncoding none fieldName
      ("unknown type tag 0x" ++ String.ofList (Hex.ofByte tag)))

/-- The check that one value of a text field can be stored: no delimiter inside it, and not
empty when the field has several values. -/
def checkTextValue (count : Nat) (i : Nat) (value : String) : Except Error Unit := do
  if delimiter ∈ value.toList then
    throw (.invalidArgument "values" ("value " ++ toString i ++ " contains the multi-value delimiter"))
  if value.isEmpty && count > 1 then
    throw (.invalidArgument "values" ("value " ++ toString i ++ " is empty in a multi-valued field"))

/-- Checks the values from position `i` on, in order. -/
def checkTextValues (count : Nat) : Nat → List String → Except Error Unit
  | _, [] => pure ()
  | i, v :: vs => do checkTextValue count i v; checkTextValues count (i + 1) vs

/-- Encodes the values of a text field: joined by the delimiter, then the text tag. -/
def encodeText (values : List String) : Except Error Bytes := do
  verifyArg (!values.isEmpty) "values" "!values.is_empty()"
  checkTextValues values.length 0 values
  pure ((delimiterBytes.intercalate (values.map Utf8.encode)) ++ [textTag])

/-- Encodes a binary value: the bytes, then the binary tag. -/
def encodeBinary (bytes : Bytes) : Bytes := bytes ++ [binaryTag]

end StoredDocs.Codec
