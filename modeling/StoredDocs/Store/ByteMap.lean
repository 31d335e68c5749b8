import StoredDocs.Bytes

/-!
# Maps keyed by byte strings

A finite map from byte strings to values, kept as a list of bindings by strictly ascending
key. Inserting under a present key replaces its value; listing yields the bindings in key
order.
-/

namespace StoredDocs

/-- A finite map from byte strings, by ascending key. -/
structure ByteMap (α : Type) where
  /-- The bindings, by strictly ascending key. -/
  toList : List (Bytes × α)
  deriving DecidableEq, Repr

namespace ByteMap

variable {α : Type}

/-- The empty map. -/
def empty : ByteMap α := ⟨[]⟩

/-- Binds `k` to `v` in a list kept by ascending key, replacing an earlier binding of `k`. -/
def insertList (k : Bytes) (v : α) : List (Bytes × α) → List (Bytes × α)
  | [] => [(k, v)]
  | (k', v') :: rest =>
    match Bytes.compareLex k k' with
    | .lt => (k, v) :: (k', v') :: rest
    | .eq => (k, v) :: rest
    | .gt => (k', v') :: insertList k v rest

/-- Binds `k` to `v`, replacing an earlier binding of `k`. -/
def insert (m : ByteMap α) (k : Bytes) (v : α) : ByteMap α := ⟨insertList k v m.toList⟩

/-- The value bound to `k`. -/
def get? (m : ByteMap α) (k : Bytes) : Option α := m.toList.lookup k

/-- Whether `k` is bound. -/
def contains (m : ByteMap α) (k : Bytes) : Bool := (m.get? k).isSome

/-- The map without a binding for `k`. -/
def erase (m : ByteMap α) (k : Bytes) : ByteMap α := ⟨m.toList.filter fun p => p.1 != k⟩

/-- The number of bindings. -/
def size (m : ByteMap α) : Nat := m.toList.length

/-- The map of a list of bindings; a later binding of a key replaces an earlier one. -/
def ofList (bindings : List (Bytes × α)) : ByteMap α :=
  bindings.foldl (fun m (k, v) => m.insert k v) empty

/-- Changes the value bound to `k` with `f`, starting from `dflt` when `k` is not bound. -/
def alter (m : ByteMap α) (k : Bytes) (dflt : α) (f : α → α) : ByteMap α :=
  m.insert k (f ((m.get? k).getD dflt))

end ByteMap

end StoredDocs
