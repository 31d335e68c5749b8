import StoredDocs.Cli.Parse
import StoredDocs.Cli.Snapshot
import StoredDocs.Config.Json
import StoredDocs.Reader

/-!
# Running the program

`key` prints the storage key of a document, `decode` prints the fields of one stored column
value, and `show` loads a row snapshot and prints one document read through a reader, then
the number of documents its read left in the cache. A field is printed as `name: text`, a
binary value as `name: 0x` and its hexadecimal digits.

A refused command line exits with status 2 and its message on standard error; help and the
version are printed on standard output with status 0. A failing command exits with status 1
and its report on standard error.
-/

namespace StoredDocs.Cli

/-- What the program leaves behind: its exit status and what it printed. -/
structure Exit where
  status : Nat
  stdout : String := ""
  stderr : String := ""
  deriving DecidableEq, Repr

/-- What a path names. -/
inductive FileStatus where
  | missing
  /-- Something that is not a regular file, such as a directory or a device. -/
  | notFile
  | file (content : String)
  /-- A file that cannot be read as text, and why. -/
  | unreadable (reason : String)
  deriving DecidableEq, Repr

/-- The exit of a stop while reading the command line. -/
def Stop.exit : Stop → Exit
  | .help c => { status := 0, stdout := c.helpText }
  | .version => { status := 0, stdout := versionText }
  | .helpOnEmpty c => { status := 2, stderr := c.helpText }
  | .error e => { status := 2, stderr := e.render }

/-- The printed line of a field. -/
def fieldLine (f : StoredField) : String :=
  match f.value with
  | .text t => f.name ++ ": " ++ t
  | .binary b => f.name ++ ": 0x" ++ Hex.ofBytes b

/-- The report of a library error, with its causes. -/
def errorReport (e : Error) : Report :=
  match e with
  | .storageUnavailable _ source => ⟨e.message, [source]⟩
  | _ => ⟨e.message, []⟩

/-- The text of a file, refusing a missing path or one that is not a file. -/
def readFile (files : String → FileStatus) (path : String) : Except Report String :=
  match files path with
  | .missing => throw ⟨"File does not exist: " ++ path, []⟩
  | .notFile => throw ⟨"Path is not a file: " ++ path, []⟩
  | .file content => pure content
  | .unreadable reason => throw ⟨"Failed to read file: " ++ path, [reason]⟩

/-- The lines `key` prints. -/
def keyLines (index : String) (ordinal : UInt32) : Except Report (List String) :=
  if index.isEmpty then throw ⟨"Index name must not be empty", []⟩
  else pure [(StorageKey.forDocument index ordinal).display]

/-- The lines `decode` prints. -/
def decodeLines (column hex : String) : Except Report (List String) := do
  let value ← (readHex hex).mapError HexError.report
  let fields ← (Codec.decodeColumn (Utf8.encode column) value).mapError fun e =>
    Report.context ("Failed to decode column '" ++ column ++ "'") (errorReport e)
  pure (fields.map fieldLine)

/-- The lines `show` prints. -/
def showLines (files : String → FileStatus) (snapshot config : String) (prefetch : List UInt32)
    (fields : List String) (ordinal : UInt32) : Except Report (List String) := do
  let cfg ← (ReaderConfig.ofJson (← readFile files config)).mapError fun e =>
    Report.context ("Invalid reader config: " ++ config) (errorReport e)
  let rows ← (parseSnapshot (← readFile files snapshot)).mapError fun f =>
    ⟨"Failed to parse row snapshot", [f.message]⟩
  let store ← loadSnapshot cfg.indexName rows
  let ix ← (Index.ofConfig cfg CursorProvider.noTerms).mapError errorReport
  let (r, _) := ((ix.worker.document ix ordinal { prefetch, fields }).run).run { store }
  match r with
  | .error e => throw (Report.context ("Failed to read document " ++ toString ordinal.toNat) (errorReport e))
  | .ok (none, _) => pure ["No document found for ordinal " ++ toString ordinal.toNat]
  | .ok (some d, w) =>
    pure (("Document " ++ toString d.ordinal.toNat ++ " (" ++ toString d.len ++ " field values)") ::
      d.fields.map (fun f => "  " ++ fieldLine f) ++
      ["Cached documents: " ++ toString (w.caches.stats.documents.getD 0)])

/-- The paths an invocation reads. -/
def Invocation.paths : Invocation → List String
  | .show snapshot config .. => [config, snapshot]
  | _ => []

/-- Runs an invocation over the files it can read. -/
def Invocation.execute (files : String → FileStatus) (inv : Invocation) : Exit :=
  let lines := match inv with
    | .key index ordinal => keyLines index ordinal
    | .decode column hex => decodeLines column hex
    | .show snapshot config prefetch fields ordinal => showLines files snapshot config prefetch fields ordinal
  match lines with
  | .ok ls => { status := 0, stdout := String.join (ls.map (· ++ "\n")) }
  | .error r => { status := 1, stderr := r.render }

/-- Runs the program on its arguments over the files it can read. -/
def run (args : List String) (files : String → FileStatus) : Exit :=
  match parse args with
  | .ok inv => inv.execute files
  | .error s => s.exit

end StoredDocs.Cli
