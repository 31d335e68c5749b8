import StoredDocs.Json.Reader

/-!
# Decoding typed values from JSON text

Decoders read a value of a given shape and refuse any other, naming what they found and what
they expected ("invalid type: null, expected a string"). A failure that does not know its
position yet takes the position where the enclosing value stopped being read; the enclosing
container is closed, or its closing attempted, before that.

* a string, an unsigned integer in a range, or `null`;
* a sequence of values of one shape;
* a map from strings to values of one shape, sorted by key, a later entry of a key replacing
  an earlier one;
* a record, written as an object of fields (unknown fields are skipped, a repeated field is
  refused, a missing field without default is refused) or as an array of its fields in order;
* a choice between named variants, written as the bare name of a variant without content or
  as an object with the variant's name as its one key and the content as its value;
* any value at all, as a `Value`, with objects sorted by key like maps.
-/

namespace StoredDocs.Json

variable {α : Type}

/-- The refusal of a value found where `expected` was wanted. The value's first token is read
to name it. -/
def invalidTypeHere (expected : String) : Reader Failure := do
  let f ← match ← peekOrNull with
    | 0x6E => do eat; expectIdent [0x75, 0x6C, 0x6C]; pure { problem := .invalidType .null expected }
    | 0x74 => do eat; expectIdent [0x72, 0x75, 0x65]; pure { problem := .invalidType (.bool true) expected }
    | 0x66 => do
      eat; expectIdent [0x61, 0x6C, 0x73, 0x65]; pure { problem := .invalidType (.bool false) expected }
    | 0x2D => do eat; let n ← integer false; pure { problem := .invalidType n.unexpected expected }
    | 0x22 => do eat; let s ← stringBody; pure { problem := .invalidType (.str s) expected }
    | 0x5B => pure { problem := .invalidType .seq expected }
    | 0x7B => pure { problem := .invalidType .map expected }
    | b =>
      if isDigit b then do let n ← integer true; pure { problem := .invalidType n.unexpected expected }
      else failAhead .expectedSomeValue
  place f

/-- Fails with the refusal of the value ahead. -/
def refuseHere (expected : String) : Reader α := do throw (← invalidTypeHere expected)

/-- The first byte of a value, failing at the end of the text. -/
def valueStart : Reader UInt8 := do
  match ← skipBlank with
  | some b => pure b
  | none => failAhead .eofWhileParsingValue

/-- A string, passed to `accept`, which may refuse it. -/
def stringWith (expected : String) (accept : String → Except Problem α) : Reader α :=
  placing do
    if (← valueStart) == 0x22 then
      eat
      let s ← stringBody
      match accept s with
      | .ok v => pure v
      | .error p => refuse p
    else refuseHere expected

/-- A string. -/
def string : Reader String := stringWith "a string" pure

/-- A number, passed to `accept`, which may refuse it. -/
def numberWith (expected : String) (accept : Number → Except Problem α) : Reader α :=
  placing do
    let b ← valueStart
    let n ← if b == 0x2D then do eat; integer false
      else if isDigit b then integer true
      else refuseHere expected
    match accept n with
    | .ok v => pure v
    | .error p => refuse p

/-- An unsigned integer not above `max`, named `expected` in refusals. -/
def unsignedUpTo (max : Nat) (expected : String) : Reader Nat :=
  numberWith expected fun
    | .unsigned n => if n ≤ max then .ok n else .error (.invalidValue (.unsigned n) expected)
    | .signed i => if 0 ≤ i && i.toNat ≤ max then .ok i.toNat else .error (.invalidValue (.signed i) expected)
    | .float f => .error (.invalidType (.float f) expected)

/-- An unsigned 32-bit integer. -/
def u32 : Reader UInt32 := do pure (← unsignedUpTo 4294967295 "u32").toUInt32

/-- An unsigned 64-bit size. -/
def usize : Reader Nat := unsignedUpTo maxU64 "usize"

/-- The literal `null`, as the content of a variant without content. -/
def unit : Reader Unit :=
  placing do
    if (← valueStart) == 0x6E then do eat; expectIdent [0x75, 0x6C, 0x6C]
    else refuseHere "unit"

/-- The next element of a sequence, or `none` at its end; `first` tells whether no element
was read yet. -/
def nextElement (first : Bool) (elem : Reader α) : Reader (Option α) := do
  let ahead ← match ← skipBlank with
    | some 0x5D => return none
    | some b =>
      if b == 0x2C && !first then do eat; skipBlank
      else if first then pure (some b)
      else failAhead .expectedListCommaOrEnd
    | none => failAhead .eofWhileParsingList
  match ahead with
  | some 0x5D => failAhead .trailingComma
  | some _ => some <$> elem
  | none => failAhead .eofWhileParsingValue

/-- After the elements of a sequence: its closing bracket. -/
def closeSeq : Reader Unit := do
  match ← skipBlank with
  | some 0x5D => eat
  | some 0x2C =>
    eat
    match ← skipBlank with
    | some 0x5D => failAhead .trailingComma
    | _ => failAhead .trailingCharacters
  | some _ => failAhead .trailingCharacters
  | none => failAhead .eofWhileParsingList

/-- The next key of an object, or `none` at its end; `first` tells whether no key was read. -/
def nextKey (first : Bool) : Reader (Option String) := do
  let ahead ← match ← skipBlank with
    | some 0x7D => return none
    | some b =>
      if b == 0x2C && !first then do eat; skipBlank
      else if first then pure (some b)
      else failAhead .expectedObjectCommaOrEnd
    | none => failAhead .eofWhileParsingObject
  match ahead with
  | some 0x22 => do eat; some <$> stringBody
  | some 0x7D => failAhead .trailingComma
  | some _ => failAhead .keyMustBeAString
  | none => failAhead .eofWhileParsingValue

/-- The colon after a key, then the value. -/
def memberValue (value : Reader α) : Reader α := do
  match ← skipBlank with
  | some 0x3A => eat
  | some _ => failAhead .expectedColon
  | none => failAhead .eofWhileParsingObject
  value

/-- After the members of an object: its closing brace. -/
def closeMap : Reader Unit := do
  match ← skipBlank with
  | some 0x7D => eat
  | some 0x2C => failAhead .trailingComma
  | some _ => failAhead .trailingCharacters
  | none => failAhead .eofWhileParsingObject

/-- The elements of a sequence, each read by `elem`. -/
def seqOf (elem : Reader α) : Reader (List α) :=
  placing do
    if (← valueStart) == 0x5B then
      eat
      let rec go : Nat → Bool → List α → Reader (List α)
        | 0, _, acc => pure acc.reverse
        | n + 1, first, acc => do
          match ← nextElement first elem with
          | none => pure acc.reverse
          | some v => go n false (v :: acc)
      thenClose (do go (← fuel) true []) closeSeq
    else refuseHere "a sequence"

/-- Inserts a binding into a list sorted by key, replacing a binding of the same key. -/
def insertByKey (k : String) (v : α) : List (String × α) → List (String × α)
  | [] => [(k, v)]
  | (k', v') :: rest =>
    if k < k' then (k, v) :: (k', v') :: rest
    else if k = k' then (k, v) :: rest
    else (k', v') :: insertByKey k v rest

/-- A map from strings to values read by `value`, sorted by key. -/
def mapOf (value : Reader α) : Reader (List (String × α)) :=
  placing do
    if (← valueStart) == 0x7B then
      eat
      let rec go : Nat → Bool → List (String × α) → Reader (List (String × α))
        | 0, _, acc => pure acc
        | n + 1, first, acc => do
          match ← nextKey first with
          | none => pure acc
          | some k => do
            let v ← memberValue value
            go n false (insertByKey k v acc)
      thenClose (do go (← fuel) true []) closeMap
    else refuseHere "a map"

/-- Any value with containers nested at most `depth` deep: numbers as `integer` reads them,
objects as `mapOf` reads maps. -/
def anyValue (depth : Nat) : Reader Value := placing do
  match ← valueStart with
  | 0x6E => do eat; expectIdent [0x75, 0x6C, 0x6C]; pure .null
  | 0x74 => do eat; expectIdent [0x72, 0x75, 0x65]; pure (.bool true)
  | 0x66 => do eat; expectIdent [0x61, 0x6C, 0x73, 0x65]; pure (.bool false)
  | 0x2D => do eat; pure (.number (← integer false))
  | 0x22 => do eat; pure (.string (← stringBody))
  | 0x5B =>
    match depth with
    | 0 => fail .recursionLimitExceeded
    | d + 1 => do pure (.array (← seqOf (anyValue d)))
  | 0x7B =>
    match depth with
    | 0 => fail .recursionLimitExceeded
    | d + 1 => do pure (.object (← mapOf (anyValue d)))
  | b => if isDigit b then do pure (.number (← integer true)) else failAhead .expectedSomeValue

/-- The value of a whole JSON text, nested at most 128 deep. -/
def Value.ofText (text : String) : Except Failure Value := readText text (anyValue 128)

/-- A record named `expected`: `fromSeq` reads it from the array form (after the opening
bracket), `fromMap` from the object form (after the opening brace). -/
def recordOf (expected : String) (fromSeq : Reader α) (fromMap : Reader α) : Reader α :=
  placing do
    match ← valueStart with
    | 0x5B => do eat; thenClose fromSeq closeSeq
    | 0x7B => do eat; thenClose fromMap closeMap
    | _ => refuseHere expected

/-- The fields of an object, each handled by `field` with the state so far; `field` reads
the member's value (after its key) or refuses the key. -/
def fieldsOf {σ : Type} (init : σ) (field : σ → String → Reader σ) : Reader σ := do
  let rec go : Nat → Bool → σ → Reader σ
    | 0, _, st => pure st
    | n + 1, first, st => do
      match ← nextKey first with
      | none => pure st
      | some k => do go n false (← field st k)
  go (← fuel) true init

/-- The value of a member that the record does not know: skipped. -/
def skipMember : Reader Unit := memberValue skipValue

/-- The index of a variant name among `names`. -/
def variantIndex (names : List String) : Reader Nat :=
  stringWith "variant identifier" fun s =>
    match names.idxOf? s with
    | some i => .ok i
    | none => .error (.unknownVariant s names)

/-- A choice between the variants `names`. `content i` reads the content of variant `i` in the
object form, whose one key, the variant name, must be a string; `bare i` is variant `i`
written as its bare name, or the problem when that variant has content. -/
def variantOf (names : List String) (content : Nat → Reader α)
    (bare : Nat → Except Problem α) : Reader α := do
  match ← valueStart with
  | 0x7B =>
    eat
    match ← skipBlank with
    | some 0x22 | some 0x7D => pure ()
    | some _ => failAhead .keyMustBeAString
    | none => failAhead .eofWhileParsingObject
    let i ← variantIndex names
    let v ← memberValue (content i)
    match ← skipBlank with
    | some 0x7D => do eat; pure v
    | some _ => fail .expectedSomeValue
    | none => fail .eofWhileParsingObject
  | 0x22 =>
    let i ← variantIndex names
    match bare i with
    | .ok v => pure v
    | .error p => refuse p
  | _ => failAhead .expectedSomeValue

end StoredDocs.Json
