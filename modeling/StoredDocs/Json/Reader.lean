import StoredDocs.Json.Failure
import StoredDocs.Json.Value
import StoredDocs.Text.Utf8

/-!
# Reading JSON text

A reading walks the bytes of a JSON text from left to right. It keeps the index of the next
byte, and that index survives a failure: what a caller does after a failed step (closing an
object, say) starts where the step stopped. A failure of form is placed either at the next
byte (`fail`) or just past the byte ahead of it (`failAhead`).

The tokens are read as JSON defines them, with these rules where the standard leaves room:

* blanks are space, tab, line feed and carriage return;
* a number is read as an unsigned 64-bit integer while it has only digits and fits; a
  negative integer that fits in 64 bits is a signed integer; every other number is a double,
  obtained by rounding the digits read as an integer and then multiplying or dividing by the
  double nearest to the power of ten (dividing by `1e308` first for very small exponents).
  Digits past the twentieth of an integer count only as powers of ten;
* in a string, a control character is refused, an escape `\u` takes four hexadecimal
  digits, and a surrogate must be the first of a pair written as two escapes.
-/

namespace StoredDocs.Json

/-- A reading of a JSON text: the text's bytes, the index of the next byte, and the outcome. -/
abbrev Reader := ReaderT (Array UInt8) (ExceptT Failure (StateM Nat))

variable {α : Type}

/-- The position just before byte `i` of the text. -/
def positionOf (text : Array UInt8) (i : Nat) : Position :=
  let (line, start, _) := (text.extract 0 i).foldl
    (fun (line, start, k) b => if b == 10 then (line + 1, k + 1, k + 1) else (line, start, k + 1))
    (1, 0, 0)
  ⟨line, i - start⟩

/-- A bound on the steps of any loop over the text. -/
def fuel : Reader Nat := do pure ((← read).size + 1)

/-- The next byte, if any. -/
def peek : Reader (Option UInt8) := do pure (← read)[← get]?

/-- The next byte, or `0` at the end. -/
def peekOrNull : Reader UInt8 := do pure ((← peek).getD 0)

/-- Moves past the next byte. -/
def eat : Reader Unit := modify (· + 1)

/-- The next byte, moving past it. -/
def next : Reader (Option UInt8) := do
  let b ← peek
  if b.isSome then eat
  pure b

/-- The next byte or `0` at the end, moving past it when there is one. -/
def nextOrNull : Reader UInt8 := do pure ((← next).getD 0)

/-- Fails at the next byte. -/
def fail (s : Malformed) : Reader α := do
  throw { problem := .malformed s, position := some (positionOf (← read) (← get)) }

/-- Fails just past the byte ahead. -/
def failAhead (s : Malformed) : Reader α := do
  let text ← read
  throw { problem := .malformed s, position := some (positionOf text (min text.size ((← get) + 1))) }

/-- Fails with a problem whose position is not known yet. -/
def refuse (p : Problem) : Reader α := throw { problem := p }

/-- Places a failure without a position at the next byte. -/
def place (f : Failure) : Reader Failure := do
  match f.position with
  | some _ => pure f
  | none => pure { f with position := some (positionOf (← read) (← get)) }

/-- Runs `body`, placing any failure it leaves without a position at the byte where it
stopped. -/
def placing (body : Reader α) : Reader α :=
  tryCatch body fun f => do throw (← place f)

/-- Runs `body`, then `close` whatever happened: the failure of `body` wins over that of
`close`. -/
def thenClose (body : Reader α) (close : Reader Unit) : Reader α := do
  let r ← tryCatch (Except.ok <$> body) fun f => pure (Except.error f)
  let c ← tryCatch (Except.ok <$> close) fun f => pure (Except.error f)
  match r, c with
  | .ok v, .ok () => pure v
  | .error f, _ => throw f
  | .ok _, .error f => throw f

/-- Whether a byte is a blank. -/
def isBlank (b : UInt8) : Bool := b == 0x20 || b == 0x0A || b == 0x09 || b == 0x0D

/-- Moves past blanks and returns the byte after them. -/
def skipBlank : Reader (Option UInt8) := do
  let rec go : Nat → Reader (Option UInt8)
    | 0 => peek
    | n + 1 => do
      match ← peek with
      | some b => if isBlank b then do eat; go n else pure (some b)
      | none => pure none
  go (← fuel)

/-- Reads the rest of a literal such as `null` after its first byte. -/
def expectIdent : List UInt8 → Reader Unit
  | [] => pure ()
  | b :: bs => do
    match ← next with
    | none => fail .eofWhileParsingValue
    | some c => if c == b then expectIdent bs else fail .expectedSomeIdent

/-- Whether a byte is a decimal digit. -/
def isDigit (b : UInt8) : Bool := 0x30 ≤ b && b ≤ 0x39

/-- The value of a decimal digit byte. -/
def digitOf (b : UInt8) : Nat := b.toNat - 0x30

/-! ### Numbers -/

/-- How a number is named when it is found where something else was expected. -/
def Number.unexpected : Number → Unexpected
  | .unsigned n => .unsigned n
  | .signed i => .signed i
  | .float f => .float f

/-- The largest unsigned 64-bit integer. -/
def maxU64 : Nat := 18446744073709551615

/-- The largest signed 32-bit integer, the bound of a decimal exponent. -/
def maxI32 : Int := 2147483647

/-- `v` of the given sign. -/
def signed (positive : Bool) (f : Binary64) : Binary64 := if positive then f else f.neg

/-- The double `significand * 10^exponent`, or a failure when it is too large. -/
def fromParts (positive : Bool) (significand : Nat) (exponent : Int) : Reader Binary64 := do
  let rec go : Nat → Binary64 → Int → Reader Binary64
    | 0, f, _ => pure f
    | n + 1, f, e => do
      if e.natAbs ≤ 308 then
        if 0 ≤ e then
          let g := f.mul (Binary64.pow10 e.natAbs)
          if g.isInfinite then fail .numberOutOfRange else pure g
        else pure (f.div (Binary64.pow10 e.natAbs))
      else if f == .finite false 0 (-1074) then pure f
      else if 0 ≤ e then fail .numberOutOfRange
      else go n (f.div (Binary64.pow10 308)) (e + 308)
  let f ← go 8 (Binary64.ofNat significand) exponent
  pure (signed positive f)

/-- The rest of an exponent that no longer fits: zero, or too large for a non-zero value. -/
def exponentOverflow (positive zeroSignificand positiveExp : Bool) : Reader Binary64 := do
  if !zeroSignificand && positiveExp then fail .numberOutOfRange
  let rec skip : Nat → Reader Unit
    | 0 => pure ()
    | n + 1 => do if isDigit (← peekOrNull) then do eat; skip n else pure ()
  skip (← fuel)
  pure (signed positive (.finite false 0 (-1074)))

/-- Reads an exponent after `e` or `E` and builds the double. -/
def exponentPart (positive : Bool) (significand : Nat) (start : Int) : Reader Binary64 := do
  eat
  let positiveExp ← match ← peekOrNull with
    | 0x2B => do eat; pure true
    | 0x2D => do eat; pure false
    | _ => pure true
  let first ← match ← next with
    | none => fail .eofWhileParsingValue
    | some c => if isDigit c then pure (digitOf c) else fail .invalidNumber
  let rec digits : Nat → Int → Reader (Option Int)
    | 0, e => pure (some e)
    | n + 1, e => do
      let c ← peekOrNull
      if isDigit c then
        eat
        let e' := e * 10 + digitOf c
        if e' > maxI32 then pure none else digits n e'
      else pure (some e)
  match ← digits (← fuel) first with
  | none => exponentOverflow positive (significand == 0) positiveExp
  | some e =>
    let total := if positiveExp then start + e else start - e
    fromParts positive significand (max (min total maxI32) (-maxI32 - 1))

/-- Reads the digits after a decimal point and builds the double. -/
def decimalPart (positive : Bool) (significand : Nat) (before : Int) : Reader Binary64 := do
  eat
  let rec digits : Nat → Nat → Int → Reader (Nat × Int × Bool)
    | 0, s, e => pure (s, e, false)
    | n + 1, s, e => do
      let c ← peekOrNull
      if isDigit c then
        if s * 10 + digitOf c > maxU64 then pure (s, e, true)
        else do eat; digits n (s * 10 + digitOf c) (e - 1)
      else pure (s, e, false)
  let (s, after, overflowed) ← digits (← fuel) significand 0
  if overflowed then
    let rec skip : Nat → Reader Unit
      | 0 => pure ()
      | n + 1 => do if isDigit (← peekOrNull) then do eat; skip n else pure ()
    skip (← fuel)
    match ← peekOrNull with
    | 0x65 | 0x45 => exponentPart positive s (before + after)
    | _ => fromParts positive s (before + after)
  else
    if after == 0 then
      match ← peek with
      | some _ => failAhead .invalidNumber
      | none => failAhead .eofWhileParsingValue
    match ← peekOrNull with
    | 0x65 | 0x45 => exponentPart positive s (before + after)
    | _ => fromParts positive s (before + after)

/-- Reads what follows the integer digits of a number. -/
def numberRest (positive : Bool) (significand : Nat) : Reader Number := do
  match ← peekOrNull with
  | 0x2E => .float <$> decimalPart positive significand 0
  | 0x65 | 0x45 => .float <$> exponentPart positive significand 0
  | _ =>
    if positive then pure (.unsigned significand)
    else if 1 ≤ significand && significand ≤ 9223372036854775808 then
      pure (.signed (-(significand : Int)))
    else pure (.float (Binary64.ofNat significand).neg)

/-- Reads the digits of an integer that no longer fits: they count as powers of ten. -/
def longInteger (positive : Bool) (significand : Nat) : Reader Binary64 := do
  let rec go : Nat → Int → Reader Binary64
    | 0, e => fromParts positive significand e
    | n + 1, e => do
      match ← peekOrNull with
      | 0x2E => decimalPart positive significand e
      | 0x65 | 0x45 => exponentPart positive significand e
      | c => if isDigit c then do eat; go n (e + 1) else fromParts positive significand e
  go (← fuel) 0

/-- Reads a number whose sign, if any, has been read. -/
def integer (positive : Bool) : Reader Number := do
  match ← next with
  | none => fail .eofWhileParsingValue
  | some 0x30 =>
    if isDigit (← peekOrNull) then failAhead .invalidNumber else numberRest positive 0
  | some c =>
    if !isDigit c then fail .invalidNumber
    else
      let rec go : Nat → Nat → Reader Number
        | 0, s => numberRest positive s
        | n + 1, s => do
          let d ← peekOrNull
          if isDigit d then
            if s * 10 + digitOf d > maxU64 then .float <$> longInteger positive s
            else do eat; go n (s * 10 + digitOf d)
          else numberRest positive s
      go (← fuel) (digitOf c)

/-- Skips the digits of an exponent after `e` or `E`. -/
def skipExponent : Reader Unit := do
  eat
  match ← peekOrNull with
  | 0x2B | 0x2D => eat
  | _ => pure ()
  if !isDigit (← nextOrNull) then fail .invalidNumber
  let rec skip : Nat → Reader Unit
    | 0 => pure ()
    | n + 1 => do if isDigit (← peekOrNull) then do eat; skip n else pure ()
  skip (← fuel)

/-- Skips a number whose sign, if any, has been read, checking only its form. -/
def skipNumber : Reader Unit := do
  let rec skipDigits : Nat → Reader Bool
    | 0 => pure false
    | n + 1 => do if isDigit (← peekOrNull) then do eat; let _ ← skipDigits n; pure true else pure false
  let c ← nextOrNull
  if c == 0x30 then
    if isDigit (← peekOrNull) then failAhead .invalidNumber
  else if isDigit c then
    let _ ← skipDigits (← fuel)
  else fail .invalidNumber
  match ← peekOrNull with
  | 0x2E =>
    eat
    if !(← skipDigits (← fuel)) then failAhead .invalidNumber
    match ← peekOrNull with
    | 0x65 | 0x45 => skipExponent
    | _ => pure ()
  | 0x65 | 0x45 => skipExponent
  | _ => pure ()

/-! ### Strings -/

/-- Reads four hexadecimal digits of a `\u` escape. -/
def hexEscape : Reader Nat := do
  let text ← read
  let i ← get
  if i + 4 ≤ text.size then
    set (i + 4)
    let ds := (text.extract i (i + 4)).toList.map fun b => Char.ofNat b.toNat
    let value := ds.foldl (fun acc c => do
      let v ← acc
      let d ← if '0' ≤ c ∧ c ≤ '9' then some (c.toNat - 48)
        else if 'a' ≤ c ∧ c ≤ 'f' then some (c.toNat - 87)
        else if 'A' ≤ c ∧ c ≤ 'F' then some (c.toNat - 55) else none
      pure (16 * v + d)) (some 0)
    match value with
    | some v => pure v
    | none => fail .invalidEscape
  else
    set text.size
    fail .eofWhileParsingString

/-- The byte after a backslash, or a failure at the end of the text. -/
def nextInString : Reader UInt8 := do
  match ← next with
  | some b => pure b
  | none => fail .eofWhileParsingString

/-- Reads a `\u` escape after the `u`: a character, or a surrogate pair. -/
def unicodeEscape : Reader Char := do
  let n ← hexEscape
  if 0xDC00 ≤ n && n ≤ 0xDFFF then fail .loneLeadingSurrogateInHexEscape
  if n < 0xD800 || 0xDBFF < n then pure (Char.ofNat n)
  else
    let b ← match ← peek with
      | some b => pure b
      | none => fail .eofWhileParsingString
    eat
    if b != 0x5C then fail .unexpectedEndOfHexEscape
    let u ← match ← peek with
      | some u => pure u
      | none => fail .eofWhileParsingString
    eat
    if u != 0x75 then fail .unexpectedEndOfHexEscape
    let n2 ← hexEscape
    if n2 < 0xDC00 || 0xDFFF < n2 then fail .loneLeadingSurrogateInHexEscape
    pure (Char.ofNat (((n - 0xD800) * 1024 + (n2 - 0xDC00)) + 0x10000))

/-- Reads an escape after its backslash, as bytes of the string. -/
def escape : Reader Bytes := do
  match ← nextInString with
  | 0x22 => pure [0x22]
  | 0x5C => pure [0x5C]
  | 0x2F => pure [0x2F]
  | 0x62 => pure [0x08]
  | 0x66 => pure [0x0C]
  | 0x6E => pure [0x0A]
  | 0x72 => pure [0x0D]
  | 0x74 => pure [0x09]
  | 0x75 => do pure (String.utf8EncodeChar (← unicodeEscape))
  | _ => fail .invalidEscape

/-- Reads the rest of a string after its opening quote. -/
def stringBody : Reader String := do
  let rec go : Nat → List UInt8 → Reader String
    | 0, acc => pure (Utf8.decodeLossy acc.reverse)
    | n + 1, acc => do
      match ← peek with
      | none => fail .eofWhileParsingString
      | some 0x22 => do eat; pure (Utf8.decodeLossy acc.reverse)
      | some 0x5C => do eat; let bs ← escape; go n (bs.reverse ++ acc)
      | some b =>
        if b < 0x20 then do eat; fail .controlCharacterWhileParsingString
        else do eat; go n (b :: acc)
  go (← fuel) []

/-- Skips an escape after its backslash, checking only its form. -/
def skipEscape : Reader Unit := do
  match ← nextInString with
  | 0x22 | 0x5C | 0x2F | 0x62 | 0x66 | 0x6E | 0x72 | 0x74 => pure ()
  | 0x75 => do let _ ← hexEscape
  | _ => fail .invalidEscape

/-- Skips the rest of a string after its opening quote. -/
def skipString : Reader Unit := do
  let rec go : Nat → Reader Unit
    | 0 => pure ()
    | n + 1 => do
      match ← peek with
      | none => fail .eofWhileParsingString
      | some 0x22 => eat
      | some 0x5C => do eat; skipEscape; go n
      | some b => if b < 0x20 then fail .controlCharacterWhileParsingString else do eat; go n
  go (← fuel)

/-! ### Skipping a whole value -/

/-- After a container's member: a comma, the container's end, or a failure. Returns the
innermost container that still expects a member, or `none` when the outermost one ended. -/
def afterMember (frame : UInt8) (outer : List UInt8) (acceptComma : Bool) :
    Reader (Option (UInt8 × List UInt8)) := do
  let rec go : Nat → UInt8 → List UInt8 → Bool → Reader (Option (UInt8 × List UInt8))
    | 0, f, o, _ => pure (some (f, o))
    | n + 1, f, o, comma => do
      match ← skipBlank with
      | some 0x2C =>
        if comma then do eat; pure (some (f, o))
        else pure (some (f, o))
      | some b =>
        if (b == 0x5D && f == 0x5B) || (b == 0x7D && f == 0x7B) then
          eat
          match o with
          | [] => pure none
          | f' :: o' => go n f' o' true
        else if comma then
          failAhead (if f == 0x5B then .expectedListCommaOrEnd else .expectedObjectCommaOrEnd)
        else pure (some (f, o))
      | none => failAhead (if f == 0x5B then .eofWhileParsingList else .eofWhileParsingObject)
  go (← fuel) frame outer acceptComma

/-- Skips one whole value, checking its form but building nothing. -/
def skipValue : Reader Unit := do
  let rec go : Nat → List UInt8 → Reader Unit
    | 0, _ => pure ()
    | n + 1, stack => do
      let start ← match ← skipBlank with
        | none => failAhead .eofWhileParsingValue
        | some b => pure b
      -- a container opens a frame; a scalar is read whole
      let opened ← match start with
        | 0x6E => do eat; expectIdent [0x75, 0x6C, 0x6C]; pure none
        | 0x74 => do eat; expectIdent [0x72, 0x75, 0x65]; pure none
        | 0x66 => do eat; expectIdent [0x61, 0x6C, 0x73, 0x65]; pure none
        | 0x2D => do eat; skipNumber; pure none
        | 0x22 => do eat; skipString; pure none
        | 0x5B | 0x7B => do eat; pure (some start)
        | b => if isDigit b then do skipNumber; pure none else failAhead .expectedSomeValue
      let resume ← match opened, stack with
        | some f, _ => afterMember f stack false
        | none, [] => pure none
        | none, f :: outer => afterMember f outer true
      match resume with
      | none => pure ()
      | some (f, outer) =>
        if f == 0x7B then
          match ← skipBlank with
          | some 0x22 => eat
          | some _ => failAhead .keyMustBeAString
          | none => failAhead .eofWhileParsingObject
          skipString
          match ← skipBlank with
          | some 0x3A => eat
          | some _ => failAhead .expectedColon
          | none => failAhead .eofWhileParsingObject
        go n (f :: outer)
  go (← fuel) []

/-- Runs a reading over a whole text: the value, then nothing but blanks. -/
def readText (text : String) (value : Reader α) : Except Failure α :=
  let whole : Reader α := do
    let v ← value
    match ← skipBlank with
    | some _ => failAhead .trailingCharacters
    | none => pure v
  ((whole.run text.toUTF8.data).run.run 0).1

end StoredDocs.Json
