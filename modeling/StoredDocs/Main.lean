import StoredDocs.Cli.Run

/-!
# The program

Reads the files the command line names, runs the program, prints what it prints, and exits
with its status.
-/

open StoredDocs.Cli

/-- What a path names on disk. -/
def fileStatus (path : String) : IO FileStatus := do
  try
    let bytes ← IO.FS.readBinFile path
    match String.fromUTF8? bytes with
    | some text => pure (.file text)
    | none => pure (.unreadable "stream did not contain valid UTF-8")
  catch e =>
    match e with
    | .noFileOrDirectory .. => pure .missing
    | _ => pure .notFile

def main (args : List String) : IO UInt32 := do
  let exit ← match parse args with
    | .error s => pure s.exit
    | .ok inv => do
      let found ← inv.paths.mapM fun p => do pure (p, ← fileStatus p)
      pure (inv.execute fun p => (found.lookup p).getD .missing)
  IO.print exit.stdout
  IO.eprint exit.stderr
  pure exit.status.toUInt32
