import StoredDocs.Cli.Report
import StoredDocs.Text.Blank
import StoredDocs.Text.Integer
import StoredDocs.Text.Utf8

/-!
# Hexadecimal input

Bytes are given on the command line as hexadecimal text: blanks around it are ignored, one
leading `0x` is dropped, and the rest must have an even number of bytes. It is read two bytes
at a time, each pair a whole number of characters read as a hexadecimal number of one byte,
which may carry a plus sign.
-/

namespace StoredDocs.Cli

/-- Why hexadecimal text is refused. -/
inductive HexError where
  /-- The text has an odd number of bytes. -/
  | oddLength (len : Nat)
  /-- The pair at an offset would split a character. -/
  | splitCharacter (offset : Nat)
  /-- The pair at an offset is not a hexadecimal byte. -/
  | badDigits (pair : String) (offset : Nat) (cause : Integer.Refusal)
  deriving DecidableEq, Repr

/-- The report of a refusal. -/
def HexError.report : HexError → Report
  | .oddLength n => ⟨"Hex string has odd length: " ++ toString n, []⟩
  | .splitCharacter i => ⟨"Invalid hex at offset " ++ toString i, []⟩
  | .badDigits pair i cause =>
    ⟨"Invalid hex digits '" ++ pair ++ "' at offset " ++ toString i, [cause.message]⟩

/-- Whether a byte starts a character. -/
def startsCharacter (b : UInt8) : Bool := !Utf8.isContinuation b

/-- Reads the pairs of bytes from `offset` on. -/
def readPairs (offset : Nat) : Bytes → Except HexError Bytes
  | b0 :: b1 :: rest => do
    let atBoundary : Bool := match rest with
      | [] => true
      | b2 :: _ => startsCharacter b2
    if !(startsCharacter b0 && atBoundary) then throw (.splitCharacter offset)
    let pair := Utf8.decodeLossy [b0, b1]
    match Integer.read 16 0 255 pair.toList with
    | .ok v => do pure (v.toNat.toUInt8 :: (← readPairs (offset + 2) rest))
    | .error r => throw (.badDigits pair offset r)
  | _ => pure []

/-- Reads hexadecimal text. -/
def readHex (text : String) : Except HexError Bytes :=
  let trimmed := Blank.trim text.toList
  let digits := match trimmed with
    | '0' :: 'x' :: rest => rest
    | cs => cs
  let bytes := Utf8.encode (String.ofList digits)
  if bytes.length % 2 != 0 then throw (.oddLength bytes.length) else readPairs 0 bytes

end StoredDocs.Cli
