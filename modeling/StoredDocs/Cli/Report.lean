/-!
# Failure reports

A command that fails reports what it was doing and, below, the chain of causes, outermost
first. A single cause is indented by four spaces; several are numbered from zero, the
number right-aligned in five columns. Later lines of a cause are indented to its text.
-/

namespace StoredDocs.Cli

/-- A failure and its causes, outermost first. -/
structure Report where
  message : String
  causes : List String := []
  deriving DecidableEq, Repr

namespace Report

/-- A report of the failure `r` while doing `message`. -/
def context (message : String) (r : Report) : Report := ⟨message, r.message :: r.causes⟩

/-- The text of `n` right-aligned in five columns. -/
def numberColumn (n : Nat) : String :=
  let t := toString n
  String.ofList (List.replicate (5 - t.length) ' ') ++ t

/-- A cause, its first line after `lead` and its later lines after `indent`. -/
def causeText (lead indent : String) (cause : String) : String :=
  lead ++ ("\n" ++ indent).intercalate (cause.splitOn "\n")

/-- The text of a report, as the program writes it when it fails. -/
def render (r : Report) : String :=
  let causes := match r.causes with
    | [] => ""
    | [c] => "\n\nCaused by:\n" ++ causeText "    " "    " c
    | cs => "\n\nCaused by:" ++ String.join ((List.range cs.length).zip cs |>.map fun (i, c) =>
        "\n" ++ causeText (numberColumn i ++ ": ") "       " c)
  "Error: " ++ r.message ++ causes ++ "\n"

end Report

end StoredDocs.Cli
