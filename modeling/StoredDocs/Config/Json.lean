import StoredDocs.Config
import StoredDocs.Json.Decode
import StoredDocs.Json.Value

/-!
# Reader configurations as JSON

A configuration is written as a JSON object with the members `index_name` (a string),
`max_docs` (an unsigned 32-bit integer), `initial_norms_len` (an unsigned 64-bit integer)
and `consistency` (`"one"`, `"quorum"` or `"all"`), in that order. When read, only
`index_name` is required, other members are skipped, and the array form lists the members in
the same order. Reading then validates the configuration.
-/

namespace StoredDocs

namespace ReaderConfig

/-- The members of a configuration as they are read, each once at most. -/
structure Members where
  indexName : Option String := none
  maxDocs : Option UInt32 := none
  initialNormsLen : Option Nat := none
  consistency : Option Consistency := none

/-- The names of the consistency levels, in the order of `Consistency`. -/
def consistencyNames : List String := ["one", "quorum", "all"]

/-- The level of a consistency variant index. -/
def consistencyAt : Nat → Consistency
  | 0 => .one
  | 1 => .quorum
  | _ => .all

/-- Reads a consistency level. -/
def consistencyReader : Json.Reader Consistency :=
  Json.variantOf consistencyNames (fun i => do Json.unit; pure (consistencyAt i))
    (fun i => .ok (consistencyAt i))

/-- Reads one member of the object form. -/
def readMember (m : Members) : String → Json.Reader Members
  | "index_name" => do
    if m.indexName.isSome then Json.refuse (.duplicateField "index_name")
    pure { m with indexName := some (← Json.memberValue Json.string) }
  | "max_docs" => do
    if m.maxDocs.isSome then Json.refuse (.duplicateField "max_docs")
    pure { m with maxDocs := some (← Json.memberValue Json.u32) }
  | "initial_norms_len" => do
    if m.initialNormsLen.isSome then Json.refuse (.duplicateField "initial_norms_len")
    pure { m with initialNormsLen := some (← Json.memberValue Json.usize) }
  | "consistency" => do
    if m.consistency.isSome then Json.refuse (.duplicateField "consistency")
    pure { m with consistency := some (← Json.memberValue consistencyReader) }
  | _ => do Json.skipMember; pure m

/-- The configuration of the members read, with defaults for those not given. -/
def ofMembers (m : Members) : Json.Reader ReaderConfig := do
  match m.indexName with
  | none => Json.refuse (.missingField "index_name")
  | some name =>
    pure { indexName := name
           maxDocs := m.maxDocs.getD defaultMaxDocs
           initialNormsLen := m.initialNormsLen.getD defaultInitialNormsLen
           consistency := m.consistency.getD .one }

/-- Reads the array form: the members in order, the first required. -/
def fromArray : Json.Reader ReaderConfig := do
  let name ← match ← Json.nextElement true Json.string with
    | some n => pure n
    | none => Json.refuse (.invalidLength 0 "struct ReaderConfig with 4 elements")
  let maxDocs ← Json.nextElement false Json.u32
  let initial ← Json.nextElement false Json.usize
  let consistency ← Json.nextElement false consistencyReader
  pure { indexName := name
         maxDocs := maxDocs.getD defaultMaxDocs
         initialNormsLen := initial.getD defaultInitialNormsLen
         consistency := consistency.getD .one }

/-- Reads a configuration, without validating it. -/
def reader : Json.Reader ReaderConfig :=
  Json.recordOf "struct ReaderConfig" fromArray (do ofMembers (← Json.fieldsOf {} readMember))

/-- Reads and validates a configuration from JSON text. A text that is not a configuration is
refused as an invalid format of the reader config. -/
def ofJson (text : String) : Except Error ReaderConfig := do
  let config ← (Json.readText text reader).mapError fun f =>
    Error.invalidFormat "reader config" f.message
  config.validate
  pure config

/-- The JSON value of a configuration. -/
def toJsonValue (c : ReaderConfig) : Json.Value :=
  .object [("index_name", .string c.indexName),
           ("max_docs", .number (.unsigned c.maxDocs.toNat)),
           ("initial_norms_len", .number (.unsigned c.initialNormsLen)),
           ("consistency", .string c.consistency.name)]

/-- The compact JSON text of a configuration. -/
def toJson (c : ReaderConfig) : String := c.toJsonValue.render

end ReaderConfig

end StoredDocs
