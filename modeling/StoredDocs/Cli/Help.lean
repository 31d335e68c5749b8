import StoredDocs.Cli.Grammar

/-!
# Help, usage lines and usage errors

A command's help is its about line, its usage line, and its sections: the subcommands, the
positional arguments and the options, each item followed by what it does, aligned two
columns after the widest item of its section. Options leave room for a short name (`-p, `)
whether they have one or not.

The usage line of a command lists `[OPTIONS]` when some option is optional, the required
options, and the positional arguments. The usage line of a failed invocation lists instead
the required options and the options that were used, in the order they were first given.
The arguments of a command other than its builtin flags form its group, which a usage line
writes as one item, `<--index <INDEX>|--ordinal <ORDINAL>>`, standing for all of them.

A usage error is a sentence, perhaps tips, perhaps a usage line, and a pointer to `--help`
for commands that have it.
-/

namespace StoredDocs.Cli

/-- `n` spaces. -/
def spaces (n : Nat) : String := String.ofList (List.replicate n ' ')

/-- The distinct strings of a list, first occurrences kept. -/
def dedup (xs : List String) : List String :=
  xs.foldl (fun acc x => if acc.contains x then acc else acc ++ [x]) []

namespace Command

/-- Whether usage lines list `[OPTIONS]`: some option is optional and not a builtin flag. -/
def needsOptionsTag (c : Command) : Bool := c.options.any fun a => !a.isBuiltin && !a.required

/-- The positional arguments of usage lines; those required or in `shown` with required
placeholders. -/
def positionalUsage (c : Command) (shown : List String) : List String :=
  c.positionals.map fun a => a.display (a.required || shown.contains a.id)

/-- The subcommand placeholder, for a command with subcommands. -/
def subcommandUsage (c : Command) : List String := if c.subcommands.isEmpty then [] else ["<COMMAND>"]

/-- The usage line of the command's help. -/
def helpUsage (c : Command) : String :=
  let opts := (c.options.filter (·.required)).map (·.display true)
  let items := (if c.needsOptionsTag then ["[OPTIONS]"] else []) ++ opts ++ c.positionalUsage [] ++
    c.subcommandUsage
  items.foldl (fun acc i => acc ++ " " ++ i) c.path

/-- The usage line of an invocation that used the arguments `used`. -/
def usageOf (c : Command) (used : List String) : String :=
  let optIds := dedup ((c.options.filter (·.required)).map (·.id) ++
    used.filter fun id => (c.options.find? (·.id == id)).isSome)
  let opts := optIds.filterMap fun id => (c.arg? id).map (·.display true)
  let items := opts ++ c.positionalUsage used ++ c.subcommandUsage
  items.foldl (fun acc i => acc ++ " " ++ i) c.path

/-- The group of the command as usage lines write it: its arguments other than the builtin
flags, options with their placeholders and positional arguments by the bare name of their
value, between angle brackets. -/
def groupUsage (c : Command) : String :=
  let members := (c.args.filter (!·.isBuiltin)).map fun a =>
    if a.positional then a.valueName else a.display true
  "<" ++ "|".intercalate members ++ ">"

/-- The usage line of an invocation that used the group and then the flags `flags`: the
flags, then the group, which stands for every argument it holds. -/
def groupedUsage (c : Command) (flags : List Arg) : String :=
  (flags.map (·.display true) ++ [c.groupUsage]).foldl (fun acc i => acc ++ " " ++ i) c.path

/-- The usage line of an error: the help usage when nothing was used. -/
def errorUsage (c : Command) (used : List String) : String :=
  if used.isEmpty then c.helpUsage else c.usageOf used

/-- The lines of items with what each does, aligned two columns after the widest item. -/
def aligned (items : List (String × Nat × String)) : List String :=
  let longest := items.foldl (fun m (_, w, _) => max m w) 2
  items.map fun (text, w, help) => "  " ++ text ++ spaces (longest + 2 - w) ++ help

/-- An option as its help line writes it, with its width. -/
def optionItem (a : Arg) : String × Nat × String :=
  let shortPart := match a.short with
    | some s => "-" ++ s.toString ++ (if a.long.isSome then ", " else "")
    | none => "    "
  let longPart := match a.long with
    | some l => "--" ++ l
    | none => ""
  let suffix := if a.takesValue then " " ++ a.placeholder true else ""
  (shortPart ++ longPart ++ suffix, (longPart ++ suffix).length + 4, a.help)

/-- The sections of the command's help. -/
def sections (c : Command) : List String :=
  let commands := if c.subcommands.isEmpty then []
    else ["Commands:\n" ++ "\n".intercalate (aligned (c.subcommands.map fun (n, a) => (n, n.length, a)))]
  let args := if c.positionals.isEmpty then []
    else ["Arguments:\n" ++ "\n".intercalate (aligned (c.positionals.map fun a =>
      let t := a.display a.required
      (t, t.length, a.help)))]
  let opts := if c.options.isEmpty then []
    else ["Options:\n" ++ "\n".intercalate (aligned (c.options.map optionItem))]
  commands ++ args ++ opts

/-- The help of the command. -/
def helpText (c : Command) : String :=
  c.about ++ "\n\nUsage: " ++ c.helpUsage ++ "\n\n" ++ "\n\n".intercalate c.sections ++ "\n"

end Command

/-- The version line of the program. -/
def versionText : String := programName ++ " " ++ programVersion ++ "\n"

/-- A refused invocation. -/
structure UsageError where
  message : String
  tips : List String := []
  usage : Option String := none
  /-- Whether the command has a help flag to point to. -/
  pointToHelp : Bool := true
  deriving DecidableEq, Repr

/-- The text of a usage error. -/
def UsageError.render (e : UsageError) : String :=
  let tips := if e.tips.isEmpty then "" else "\n\n" ++ "\n".intercalate (e.tips.map ("  tip: " ++ ·))
  let usage := match e.usage with
    | some u => "\n\nUsage: " ++ u
    | none => ""
  let hint := if e.pointToHelp then "\n\nFor more information, try '--help'.\n" else "\n"
  "error: " ++ e.message ++ tips ++ usage ++ hint

end StoredDocs.Cli
