import StoredDocs.Text.Literal

/-!
# Errors of the reader

Every failure of the library is one of seven causes. `Error.message` gives the sentence
shown to a user, and `Error.describe` the diagnostic form that names the cause and its
fields.

A failed check of an argument or of stored data carries the condition that failed as its
message, written as in the check (`!values.is_empty()`, `last & 0x80 == 0`).
-/

namespace StoredDocs

/-- The causes of failure. -/
inductive Error where
  /-- A stored column cannot be decoded; the ordinal is that of its row, once known. -/
  | corruptEncoding (ordinal : Option UInt32) (column message : String)
  /-- The store cannot serve a read. -/
  | storageUnavailable (context source : String)
  /-- An ordinal at or above the capacity bound of the index. -/
  | capacityExceeded (ordinal : UInt32) (capacity : Nat)
  /-- A norm payload that is not exactly one byte. -/
  | invalidNorm (field : String) (len : Nat)
  /-- An operation that this reader does not offer. -/
  | unsupported (operation : String)
  /-- An argument that fails its check. -/
  | invalidArgument (name message : String)
  /-- Data that does not have the expected format. -/
  | invalidFormat (element message : String)
  deriving DecidableEq, Repr, Inhabited

namespace Error

/-- The ordinal of a corrupt column's row, or `?` while it is not known. -/
def ordinalLabel : Option UInt32 → String
  | some o => toString o.toNat
  | none => "?"

/-- The sentence that describes an error. -/
def message : Error → String
  | corruptEncoding o column msg =>
    "field is not properly encoded: " ++ ordinalLabel o ++ "(" ++ column ++ "): " ++ msg
  | storageUnavailable context source =>
    "storage unavailable for '" ++ context ++ "': " ++ source
  | capacityExceeded o capacity =>
    "ordinal " ++ toString o.toNat ++ " exceeds the capacity bound " ++ toString capacity
  | invalidNorm field len =>
    "norm for field '" ++ field ++ "' must be a single byte, got " ++ toString len ++ " bytes"
  | unsupported operation => "operation is not supported: " ++ operation
  | invalidArgument name msg => "invalid argument " ++ name ++ ": " ++ msg
  | invalidFormat element msg => "invalid format for '" ++ element ++ "': " ++ msg

/-- The diagnostic form: the cause and its fields, texts quoted. -/
def describe (e : Error) : String :=
  let q := Literal.quote
  let body := match e with
    | corruptEncoding o column msg =>
      let ord := match o with
        | some n => "Some(" ++ toString n.toNat ++ ")"
        | none => "None"
      "CorruptEncoding \x7b ordinal: " ++ ord ++ ", column: " ++ q column ++ ", message: " ++
        q msg ++ " \x7d"
    | storageUnavailable context source =>
      "StorageUnavailable \x7b context: " ++ q context ++ ", source: " ++ q source ++ " \x7d"
    | capacityExceeded o capacity =>
      "CapacityExceeded \x7b ordinal: " ++ toString o.toNat ++ ", capacity: " ++
        toString capacity ++ " \x7d"
    | invalidNorm field len =>
      "InvalidNorm \x7b field: " ++ q field ++ ", len: " ++ toString len ++ " \x7d"
    | unsupported operation => "Unsupported \x7b operation: " ++ q operation ++ " \x7d"
    | invalidArgument name msg =>
      "InvalidArgument \x7b name: " ++ q name ++ ", message: " ++ q msg ++ " \x7d"
    | invalidFormat element msg =>
      "InvalidFormat \x7b element: " ++ q element ++ ", message: " ++ q msg ++ " \x7d"
  "Error(" ++ body ++ ")"

/-- Whether the error is a corrupt column. -/
def isCorruptEncoding : Error → Bool
  | corruptEncoding .. => true
  | _ => false

/-- Whether the error is an unavailable store. -/
def isStorageUnavailable : Error → Bool
  | storageUnavailable .. => true
  | _ => false

/-- A corrupt column error, now carrying the ordinal of its row; other errors unchanged. -/
def withOrdinal (o : UInt32) : Error → Error
  | corruptEncoding _ column msg => corruptEncoding (some o) column msg
  | e => e

end Error

/-- A check on an argument: fails with the condition as the message when it does not hold. -/
def verifyArg (holds : Bool) (name condition : String) : Except Error Unit :=
  if holds then pure () else throw (.invalidArgument name condition)

/-- A check on an argument passes only when its condition holds. -/
theorem verifyArg_eq_ok {holds : Bool} {name condition : String} {u : Unit}
    (h : verifyArg holds name condition = .ok u) : holds = true := by
  cases holds
  · simp [verifyArg, throw, throwThe, MonadExceptOf.throw] at h
  · rfl

/-- What follows a check on an argument runs only when its condition holds. -/
theorem verifyArg_bind_eq_ok {α : Type} {holds : Bool} {name condition : String}
    {k : Unit → Except Error α} {a : α} (h : (verifyArg holds name condition >>= k) = .ok a) :
    holds = true ∧ k () = .ok a := by
  cases holds
  · simp [verifyArg, throw, throwThe, MonadExceptOf.throw, bind, Except.bind] at h
  · exact ⟨rfl, h⟩

/-- A check on stored data: fails with the condition as the message when it does not hold. -/
def verifyData (holds : Bool) (element condition : String) : Except Error Unit :=
  if holds then pure () else throw (.invalidFormat element condition)

end StoredDocs
