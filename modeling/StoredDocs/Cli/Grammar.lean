/-!
# The command-line grammar

A command has arguments and, at the top, subcommands. An argument is an option, written with
a long name (`--index`) and perhaps a short one (`-p`), or a positional argument, written as
a bare value. An option takes one value each time it is given, or is a flag that shows help
or the version. A value is checked when its argument is complete: text is taken as it is, an
ordinal must be an unsigned 32-bit number.

The program `quarry-cmd` has the commands `key`, `decode` and `show`, and `help`, which
shows the help of the commands it names.
-/

namespace StoredDocs.Cli

/-- What an argument does with what it is given. -/
inductive Action where
  /-- Takes one value, and may be given once. -/
  | set
  /-- Takes one value each time it is given. -/
  | append
  /-- Shows the help of its command. -/
  | help
  /-- Shows the version of the program. -/
  | version
  deriving DecidableEq, Repr

/-- How a value is checked. -/
inductive ValueKind where
  | text
  | ordinal
  deriving DecidableEq, Repr

/-- An argument of a command. -/
structure Arg where
  id : String
  long : Option String := none
  short : Option Char := none
  /-- The name of the value in help and usage lines. -/
  valueName : String := ""
  help : String
  action : Action
  kind : ValueKind := .text
  required : Bool := false
  /-- A positional argument has no name and is given by position. -/
  positional : Bool := false
  deriving DecidableEq, Repr

namespace Arg

/-- Whether the argument takes values. -/
def takesValue (a : Arg) : Bool := a.action == .set || a.action == .append

/-- Whether the argument is a flag of its own, which usage lines leave out of `[OPTIONS]`. -/
def isBuiltin (a : Arg) : Bool := a.action == .help || a.action == .version

/-- The value placeholder: `<NAME>`, or `[NAME]` for a positional argument that is not
required; a positional argument given any number of times is followed by `...`. -/
def placeholder (a : Arg) (required : Bool) : String :=
  let name := if a.positional && !required then "[" ++ a.valueName ++ "]" else "<" ++ a.valueName ++ ">"
  if a.positional && a.action == .append then name ++ "..." else name

/-- The argument as usage lines and messages write it, with the placeholder for a required or
optional value. -/
def display (a : Arg) (required : Bool) : String :=
  let flag := match a.long, a.short with
    | some l, _ => "--" ++ l
    | none, some s => "-" ++ s.toString
    | none, none => ""
  if a.positional then a.placeholder required
  else if a.takesValue then flag ++ " " ++ a.placeholder required
  else flag

/-- The argument as messages name it. -/
def name (a : Arg) : String := a.display a.required

end Arg

/-- A command: its name as usage lines write it, what it does, its arguments in order, and
its subcommands with what each does. -/
structure Command where
  path : String
  about : String
  args : List Arg
  subcommands : List (String × String) := []
  /-- Whether the command shows its help when given nothing. -/
  helpWhenEmpty : Bool := false
  deriving DecidableEq, Repr

namespace Command

/-- The options, in order. -/
def options (c : Command) : List Arg := c.args.filter (!·.positional)

/-- The positional arguments, in order. -/
def positionals (c : Command) : List Arg := c.args.filter (·.positional)

/-- The argument of an id. -/
def arg? (c : Command) (id : String) : Option Arg := c.args.find? (·.id == id)

/-- The option of a long name. -/
def long? (c : Command) (l : String) : Option Arg := c.args.find? (·.long == some l)

/-- The option of a short name. -/
def short? (c : Command) (s : Char) : Option Arg := c.args.find? (·.short == some s)

/-- The long names of the options, in order. -/
def longs (c : Command) : List String := c.args.filterMap (·.long)

/-- Whether the command has a help flag. -/
def hasHelpFlag (c : Command) : Bool := c.args.any (·.action == .help)

end Command

/-- The help flag of every command but `help`. -/
def helpFlag : Arg :=
  { id := "help", long := some "help", short := some 'h', help := "Print help", action := .help }

/-- The version flag of the program. -/
def versionFlag : Arg :=
  { id := "version", long := some "version", short := some 'V', help := "Print version",
    action := .version }

/-- A required option with a text value. -/
def textOption (id help : String) : Arg :=
  { id, long := some id, valueName := id.toUpper, help, action := .set, required := true }

/-- The program's name. -/
def programName : String := "quarry-cmd"

/-- The program's version. -/
def programVersion : String := "0.1.0"

/-- The command `key`. -/
def keyCommand : Command :=
  { path := programName ++ " key"
    about := "Print the storage key of a document as hex"
    args := [textOption "index" "Logical index name",
             { textOption "ordinal" "Document ordinal" with kind := .ordinal }, helpFlag] }

/-- The command `decode`. -/
def decodeCommand : Command :=
  { path := programName ++ " decode"
    about := "Decode a single stored column value"
    args := [textOption "column" "Column (field) name",
             textOption "hex" "Raw column value, hex encoded, including the trailing type tag",
             helpFlag] }

/-- The command `show`. -/
def showCommand : Command :=
  { path := programName ++ " show"
    about := "Materialize a document from a JSON row snapshot"
    args := [textOption "snapshot" "Path to the JSON row snapshot",
             textOption "config" "Path to the JSON reader configuration",
             { id := "prefetch", long := some "prefetch", short := some 'p', valueName := "PREFETCH",
               help := "Additional ordinals to prefetch (can be specified multiple times)",
               action := .append, kind := .ordinal },
             { id := "field", long := some "field", short := some 'f', valueName := "FIELD",
               help := "Restrict the read to these fields (can be specified multiple times)",
               action := .append },
             { id := "ordinal", valueName := "ORDINAL", help := "Document ordinal", action := .set,
               kind := .ordinal, required := true, positional := true },
             helpFlag] }

/-- The about line of `help`. -/
def helpAbout : String := "Print this message or the help of the given subcommand(s)"

/-- The command `help`, which has no help flag of its own. -/
def helpCommand : Command :=
  { path := programName ++ " help"
    about := helpAbout
    args := [{ id := "subcommand", valueName := "COMMAND", help := "Print help for the subcommand(s)",
               action := .append, positional := true }] }

/-- The commands that do work, in order. -/
def workCommands : List (String × Command) :=
  [("key", keyCommand), ("decode", decodeCommand), ("show", showCommand)]

/-- The program itself, as a command whose subcommands are the work commands and `help`. -/
def topCommand : Command :=
  { path := programName
    about := "Command-line utility for inspecting stored documents"
    args := [helpFlag, versionFlag]
    subcommands := workCommands.map (fun (n, c) => (n, c.about)) ++ [("help", helpAbout)]
    helpWhenEmpty := true }

/-- The subcommand of a command by name: the work commands and `help` under the program, none
under the others. -/
def subcommand? (parent : Command) (name : String) : Option Command :=
  if parent.path == programName then
    if name == "help" then some helpCommand else workCommands.lookup name
  else none

end StoredDocs.Cli
