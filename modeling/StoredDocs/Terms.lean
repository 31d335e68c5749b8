import StoredDocs.Cache
import StoredDocs.Error

/-!
# Term cursors

A term cursor walks a sorted dictionary of terms, each with the number of documents that
contain it. A term may stand more than once, with its entries in ascending frequency.
Skipping to a term moves the cursor to the first entry at or after it, searching the whole
dictionary, and tells whether there is one; past the last entry the document frequency is
zero.

A reader takes its cursors from a provider (`CursorProvider`): opening a cursor for an index and
moving a cursor to a term may both fail, and where a cursor lands may depend on where it stood.
Two providers stand here: one over a dictionary, whose every opening succeeds at its first
term, and one for an index that enumerates no terms, whose openings are all refused.
-/

namespace StoredDocs

/-- A dictionary of terms with their document frequencies, sorted by term and frequency. -/
structure TermDictionary where
  entries : List (Term × Nat)
  deriving Repr

namespace TermDictionary

/-- Whether entry `a` comes no later than `b`: by term, and for one term by frequency. -/
def entryLE (a b : Term × Nat) : Bool :=
  match Term.compare a.1 b.1 with
  | .lt => true
  | .gt => false
  | .eq => a.2 ≤ b.2

/-- The dictionary of the given entries, sorted by term and, for one term, by frequency. -/
def ofList (entries : List (Term × Nat)) : TermDictionary :=
  ⟨entries.mergeSort entryLE⟩

/-- The number of entries. -/
def size (d : TermDictionary) : Nat := d.entries.length

end TermDictionary

/-- A position in a term dictionary; the dictionary's size is past its end. -/
structure TermCursor where
  position : Nat := 0
  deriving DecidableEq, Repr

namespace TermCursor

/-- Moves to the first term at or after `t`, telling whether there is one; without one the
cursor stands past the end. -/
def skipTo (d : TermDictionary) (_c : TermCursor) (t : Term) : Bool × TermCursor :=
  match d.entries.findIdx? fun e => Term.atOrAfter e.1 t with
  | some i => (true, ⟨i⟩)
  | none => (false, ⟨d.size⟩)

/-- The document frequency of the term at the cursor, zero past the end. -/
def docFreq (d : TermDictionary) (c : TermCursor) : Nat :=
  (d.entries[c.position]?.map (·.2)).getD 0

end TermCursor

/-- What a reader needs of term cursors of type `C`: opening one for the index of a name,
moving one to the first term at or after a given term, and reading the document frequency at
one. Opening and moving may fail. -/
structure CursorProvider (C : Type) where
  /-- A new cursor for the index of the given name. -/
  openCursor : String → Except Error C
  /-- Moves the cursor to the first term at or after the given one, telling whether there is
  one. -/
  skipTo : C → Term → Except Error (Bool × C)
  /-- The number of documents containing the term at the cursor. -/
  docFreq : C → Nat

namespace CursorProvider

/-- The cursors of a dictionary: every opening succeeds at the first term, and skipping
searches the whole dictionary. -/
def ofDictionary (d : TermDictionary) : CursorProvider TermCursor where
  openCursor _ := pure {}
  skipTo c t := pure (c.skipTo d t)
  docFreq c := c.docFreq d

/-- The provider of an index that enumerates no terms: opening a cursor is unsupported, so no
cursor ever exists. -/
def noTerms : CursorProvider Empty where
  openCursor _ := throw (.unsupported "term enumeration")
  skipTo c _ := nomatch c
  docFreq c := nomatch c

end CursorProvider

end StoredDocs
