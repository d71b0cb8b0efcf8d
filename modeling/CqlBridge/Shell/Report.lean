/-!
# `CqlBridge.Shell.Report` — how a failed run reports its error

A failure is a message and the chain of causes under it. The report is `Error: ` and the
message, then, when there are causes, a blank line, `Caused by:` and one cause per line: a
single cause indented by four spaces, several numbered from 0 with the number right-aligned in
five columns. The later lines of a cause that spans lines keep the same indentation.
-/

namespace CqlBridge.Shell

/-- An error that ends a run: its message and its causes, outermost first. -/
structure Failure where
  message : String
  causes : List String := []
  deriving Inhabited, Repr

namespace Failure

/-- A number right-aligned in five columns, then `: `. -/
def numberMark (n : Nat) : String :=
  let s := toString n
  String.ofList (List.replicate (5 - s.length) ' ') ++ s ++ ": "

/-- One cause: its first line after `first`, each later line after `rest`. -/
def indent (first rest text : String) : String :=
  match text.splitOn "\n" with
  | [] => first
  | l :: ls => first ++ l ++ String.join (ls.map fun line => "\n" ++ rest ++ line)

/-- The causes, each on its own line. -/
def causeLines : List String → String
  | [] => ""
  | [c] => "\n" ++ indent "    " "    " c
  | cs => String.join (cs.zipIdx.map fun (c, n) => "\n" ++ indent (numberMark n) "       " c)

/-- The text of the report, ending in a line feed. -/
def render (f : Failure) : String :=
  "Error: " ++ f.message ++
    (if f.causes.isEmpty then "" else "\n\nCaused by:" ++ causeLines f.causes) ++ "\n"

end Failure

end CqlBridge.Shell
