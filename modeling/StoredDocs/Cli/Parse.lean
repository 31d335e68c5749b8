import StoredDocs.Cli.Help
import StoredDocs.Cli.Similarity
import StoredDocs.Text.Integer

/-!
# Reading the command line

The arguments are read from the left. A word naming a subcommand hands the rest to that
subcommand (`help` shows the help of the commands named after it). `--` makes every later
word positional. A word starting with `--` is a long option, perhaps with `=value`; a word
starting with `-` is a cluster of short options, where an option taking a value takes the
rest of the cluster (after an optional `=`). Other words are the value of an option waiting
for one, or positional values.

An argument is completed, and its values checked, when the next argument starts, when a word
cannot be placed, or at the end; so of two faults the earlier one in that order is reported.
A help or version flag stops at once, after completing the argument before it. A word that
cannot be placed is reported with the most similar name the command knows, if any. A flag
given a value is refused with a usage line naming the command's group once some argument is
complete, and the arguments used otherwise. At the end, the command's required arguments must
all have been given.
-/

namespace StoredDocs.Cli

/-- A checked value. -/
inductive Value where
  | text (s : String)
  | number (n : Nat)
  deriving DecidableEq, Repr

/-- The arguments given so far, in the order first given, with their checked values. -/
abbrev Matches := List (String × List Value)

/-- The values collected for an argument that is not complete yet. -/
structure Pending where
  id : String
  values : List String
  deriving DecidableEq, Repr

/-- The state of reading a command's arguments. -/
structure ParseState where
  given : Matches := []
  pending : Option Pending := none
  /-- The option waiting for its value. -/
  awaiting : Option String := none
  /-- The index of the next positional argument. -/
  position : Nat := 0
  /-- Whether `--` was given. -/
  trailing : Bool := false
  deriving DecidableEq, Repr

/-- Why reading stops before any command runs. -/
inductive Stop where
  /-- The help of a command was asked for. -/
  | help (c : Command)
  /-- The version was asked for. -/
  | version
  /-- The program was given nothing, and answers with its help. -/
  | helpOnEmpty (c : Command)
  | error (e : UsageError)
  deriving DecidableEq, Repr

namespace ParseState

/-- Whether an argument was given. -/
def has (st : ParseState) (id : String) : Bool := st.given.any (·.1 == id)

/-- The ids of the arguments given, in order. -/
def used (st : ParseState) : List String := st.given.map (·.1)

/-- Records that an argument was given, keeping its place if it was given before. -/
def start (st : ParseState) (id : String) : ParseState :=
  if st.has id then st else { st with given := st.given ++ [(id, [])] }

/-- Adds values to an argument that was given. -/
def addValues (st : ParseState) (id : String) (vs : List Value) : ParseState :=
  { st with given := st.given.map fun (k, old) => if k == id then (k, old ++ vs) else (k, old) }

end ParseState

/-- A usage error of command `c`, pointing to its help flag if it has one. -/
def Command.refuse (c : Command) (message : String) (tips : List String)
    (usage : Option String) : Stop :=
  .error { message, tips, usage, pointToHelp := c.hasHelpFlag }

/-- Checks a value of an argument. -/
def checkValue (c : Command) (a : Arg) (raw : String) : Except Stop Value :=
  match a.kind with
  | .text => pure (.text raw)
  | .ordinal =>
    let refuse (shown reason : String) : Stop :=
      c.refuse ("invalid value '" ++ shown ++ "' for '" ++ a.name ++ "': " ++ reason) [] none
    match Integer.readI64 raw with
    | .error r => throw (refuse raw r.message)
    | .ok v =>
      if 0 ≤ v ∧ v ≤ 4294967295 then pure (.number v.toNat)
      else throw (refuse (toString v) (toString v ++ " is not in 0..=4294967295"))

/-- Checks values in order, keeping those checked before a refusal. -/
def checkValues (c : Command) (a : Arg) : List String → List Value × Option Stop
  | [] => ([], none)
  | r :: rs =>
    match checkValue c a r with
    | .error s => ([], some s)
    | .ok v =>
      let (vs, s) := checkValues c a rs
      (v :: vs, s)

/-- Completes an argument with its raw values: the state after, and the stop it causes. -/
def complete (c : Command) (a : Arg) (raw : List String) (st : ParseState) :
    ParseState × Option Stop :=
  if a.takesValue && raw.isEmpty then
    (st, some (c.refuse ("a value is required for '" ++ a.name ++ "' but none was supplied") [] none))
  else
    match a.action with
    | .set =>
      if st.has a.id then
        ({ st with given := st.given.filter (·.1 != a.id) },
          some (c.refuse ("the argument '" ++ a.name ++ "' cannot be used multiple times")
            [] (some c.helpUsage)))
      else
        let (vs, s) := checkValues c a raw
        ((st.start a.id).addValues a.id vs, s)
    | .append =>
      let (vs, s) := checkValues c a raw
      ((st.start a.id).addValues a.id vs, s)
    | .help => (st, some (.help c))
    | .version => (st, some .version)

/-- Completes the argument whose values are pending, if any. -/
def resolve (c : Command) (st : ParseState) : ParseState × Option Stop :=
  match st.pending with
  | none => (st, none)
  | some p =>
    let st := { st with pending := none }
    match c.arg? p.id with
    | some a => complete c a p.values st
    | none => (st, none)

/-- Completes the pending argument, then the argument `a` with `raw`. -/
def react (c : Command) (a : Arg) (raw : List String) (st : ParseState) : ParseState × Option Stop :=
  match resolve c st with
  | (st', some s) => (st', some s)
  | (st', none) => complete c a raw st'

/-- Goes on from a state unless it came with a stop. -/
def orStop : ParseState × Option Stop → Except Stop ParseState
  | (_, some s) => throw s
  | (st, none) => pure st

/-- Starts an option whose value is the next word. -/
def awaitValue (c : Command) (a : Arg) (st : ParseState) : Except Stop ParseState := do
  let st ← orStop (resolve c st)
  pure { st with pending := some ⟨a.id, []⟩, awaiting := some a.id }

/-- The tip for a word that looks like an option but may have been meant as a value. -/
def trailingTip (word : String) : String :=
  "to pass '" ++ word ++ "' as a value, use '-- " ++ word ++ "'"

/-- The long option most similar to `name`: among the command's own, or else among those of a
subcommand named later on the line, the one named earliest. -/
def suggestLong (c : Command) (name : String) (rest : List String) : Option (String × Option String) :=
  match mostSimilar? name c.longs with
  | some l => some (l, none)
  | none =>
    let found := c.subcommands.filterMap fun (sub, _) => do
      let sc ← subcommand? c sub
      let l ← mostSimilar? name sc.longs
      let at_ ← rest.idxOf? sub
      pure (at_, (l, some sub))
    (found.foldl (fun best x => match best with
      | some b => if x.1 < b.1 then some x else some b
      | none => some x) none).map (·.2)

/-- Refuses an unknown long option. -/
def unknownLong (c : Command) (st : ParseState) (name : String) (rest : List String) : Stop :=
  let suggestion := suggestLong c name rest
  let st := match suggestion with
    | some (l, _) => match c.long? l with
      | some a => st.start a.id
      | none => st
    | none => st
  let word := "--" ++ name
  let similarTip := match suggestion with
    | some (l, none) => ["a similar argument exists: '--" ++ l ++ "'"]
    | _ => []
  let trailing := if suggestion.isNone && !st.trailing && !c.positionals.isEmpty then [trailingTip word] else []
  let subTip := match suggestion with
    | some (l, some sub) => ["'" ++ sub ++ " --" ++ l ++ "' exists"]
    | _ => []
  c.refuse ("unexpected argument '" ++ word ++ "' found") (similarTip ++ trailing ++ subTip)
    (some (c.errorUsage st.used))

/-- Refuses an unknown short option. -/
def unknownShort (c : Command) (st : ParseState) (ch : Char) : Stop :=
  let word := "-" ++ ch.toString
  let tips := if !st.trailing && !c.positionals.isEmpty then [trailingTip word] else []
  c.refuse ("unexpected argument '" ++ word ++ "' found") tips (some c.helpUsage)

/-- Refuses a word that is neither an option, a value nor a subcommand. -/
def unplaced (c : Command) (st : ParseState) (word : String) : Stop :=
  if st.trailing && (subcommand? c word).isSome then
    c.refuse ("unexpected argument '" ++ word ++ "' found")
      ["subcommand '" ++ word ++ "' exists; to use it, remove the '--' before it"] (some c.helpUsage)
  else if !c.subcommands.isEmpty then
    match similar word (c.subcommands.map (·.1)) with
    | [] => c.refuse ("unrecognized subcommand '" ++ word ++ "'") [] (some c.helpUsage)
    | [s] =>
      c.refuse ("unrecognized subcommand '" ++ word ++ "'") ["a similar subcommand exists: '" ++ s ++ "'"]
        (some c.helpUsage)
    | ss =>
      c.refuse ("unrecognized subcommand '" ++ word ++ "'")
        ["some similar subcommands exist: " ++ ", ".intercalate (ss.map fun s => "'" ++ s ++ "'")]
        (some c.helpUsage)
  else c.refuse ("unexpected argument '" ++ word ++ "' found") [] (some c.helpUsage)

/-- The help asked for by `help` followed by command names. -/
def helpFor (c : Command) : List String → Stop
  | [] => .help c
  | n :: ns =>
    match subcommand? c n with
    | some sc => helpFor sc ns
    | none => .error { message := "unrecognized subcommand '" ++ n ++ "'", usage := some c.helpUsage,
                       pointToHelp := c.hasHelpFlag }

/-- The name and the attached value of a long option. -/
def splitLong (body : List Char) : String × Option String :=
  match body.idxOf? '=' with
  | some i => (String.ofList (body.take i), some (String.ofList (body.drop (i + 1))))
  | none => (String.ofList body, none)

/-- Reads a long option. -/
def readLong (c : Command) (st : ParseState) (body : List Char) (rest : List String) :
    Except Stop ParseState :=
  let (name, value) := splitLong body
  let st := { st with awaiting := none }
  match c.long? name with
  | some a =>
    if a.takesValue then
      match value with
      | some v => orStop (react c a [v] st)
      | none => awaitValue c a st
    else
      match value with
      | some v =>
        let used := (st.used.filter fun id => !((c.arg? id).any (·.required))) ++ [a.id]
        let usage := if st.given.isEmpty then c.errorUsage used else c.groupedUsage [a]
        throw (c.refuse ("unexpected value '" ++ v ++ "' for '" ++ a.name ++ "' found; no more were expected")
          [] (some usage))
      | none => orStop (react c a [] st)
  | none => throw (unknownLong c (resolve c st).1 name rest)

/-- Reads a cluster of short options. -/
def readShort (c : Command) : ParseState → List Char → Except Stop ParseState
  | st, [] => pure st
  | st, ch :: more =>
    let st := { st with awaiting := none }
    match c.short? ch with
    | some a =>
      if a.takesValue then
        match more with
        | [] => awaitValue c a st
        | '=' :: v => orStop (react c a [String.ofList v] st)
        | v => orStop (react c a [String.ofList v] st)
      else do
        let st ← orStop (react c a [] st)
        readShort c st more
    | none => throw (unknownShort c (resolve c st).1 ch)

/-- Places a positional value. -/
def readPositional (c : Command) (st : ParseState) (word : String) : Except Stop ParseState := do
  match c.positionals[st.position]? with
  | some p =>
    let st ← if (st.pending.map (·.id)) == some p.id && p.action == .append then pure st
      else orStop (resolve c st)
    let values := match st.pending with
      | some q => if q.id == p.id then q.values else []
      | none => []
    let st := { st with pending := some ⟨p.id, values ++ [word]⟩ }
    pure (if p.action == .append then st else { st with position := st.position + 1 })
  | none => throw (unplaced c (resolve c st).1 word)

/-- Reads the words of a command; a subcommand named on the way gets the rest. -/
def readWords (c : Command) : ParseState → List String → Except Stop (ParseState × Option (String × List String))
  | st, [] => pure (st, none)
  | st, w :: rest =>
    if st.trailing then do readWords c (← readPositional c st w) rest
    else if (subcommand? c w).isSome then
      if w == "help" then throw (helpFor c rest) else pure (st, some (w, rest))
    else if w == "--" then readWords c { st with trailing := true } rest
    else
      match w.toList with
      | '-' :: '-' :: body => do readWords c (← readLong c st body rest) rest
      | '-' :: ch :: more => do readWords c (← readShort c st (ch :: more)) rest
      | _ =>
        match st.awaiting with
        | some id =>
          let values := match st.pending with
            | some q => q.values
            | none => []
          readWords c { st with pending := some ⟨id, values ++ [w]⟩, awaiting := none } rest
        | none => do readWords c (← readPositional c st w) rest

/-- Refuses a command given without its required arguments. -/
def missingRequired (c : Command) (st : ParseState) (missing : List Arg) : Stop :=
  let shown := (missing.filter (!·.positional)) ++ (missing.filter (·.positional))
  c.refuse ("the following required arguments were not provided:" ++
      String.join (shown.map fun a => "\n  " ++ a.display true))
    [] (some (c.usageOf (st.used ++ missing.map (·.id))))

/-- Completes the last argument and checks that the command got what it needs. -/
def finish (c : Command) (st : ParseState) : Except Stop Matches := do
  let st ← orStop (resolve c st)
  if c.helpWhenEmpty && st.given.isEmpty then throw (.helpOnEmpty c)
  if !c.subcommands.isEmpty then
    throw (c.refuse ("'" ++ c.path ++ "' requires a subcommand but one was not provided\n  [subcommands: " ++
      ", ".intercalate (c.subcommands.map (·.1)) ++ "]") [] (some c.helpUsage))
  let missing := c.args.filter fun a => a.required && !st.has a.id
  if !missing.isEmpty then throw (missingRequired c st missing)
  pure st.given

/-- What the command line asks for. -/
inductive Invocation where
  | key (index : String) (ordinal : UInt32)
  | decode (column hex : String)
  | show (snapshot config : String) (prefetch : List UInt32) (fields : List String) (ordinal : UInt32)
  deriving DecidableEq, Repr

/-- The text values of an argument. -/
def textsOf (m : Matches) (id : String) : List String :=
  ((m.lookup id).getD []).filterMap fun
    | .text s => some s
    | .number _ => none

/-- The numeric values of an argument. -/
def numbersOf (m : Matches) (id : String) : List UInt32 :=
  ((m.lookup id).getD []).filterMap fun
    | .number n => some n.toUInt32
    | .text _ => none

/-- The invocation of a work command from its arguments. -/
def Invocation.ofMatches (name : String) (m : Matches) : Invocation :=
  let text id := (textsOf m id).headD ""
  let number id := (numbersOf m id).headD 0
  match name with
  | "key" => .key (text "index") (number "ordinal")
  | "decode" => .decode (text "column") (text "hex")
  | _ => .show (text "snapshot") (text "config") (numbersOf m "prefetch") (textsOf m "field") (number "ordinal")

/-- Reads the command line. -/
def parse (args : List String) : Except Stop Invocation := do
  let (st, sub) ← readWords topCommand {} args
  match sub with
  | none =>
    let _ ← finish topCommand st
    throw (.helpOnEmpty topCommand)
  | some (name, rest) =>
    match subcommand? topCommand name with
    | none => throw (.helpOnEmpty topCommand)
    | some sc =>
      let (st', _) ← readWords sc {} rest
      pure (Invocation.ofMatches name (← finish sc st'))

end StoredDocs.Cli
