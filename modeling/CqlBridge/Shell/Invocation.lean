/-!
# `CqlBridge.Shell.Invocation` — the command line's arguments

`cassduck [--config PATH] (--catalog [KEYSPACE] | SQL)`: `--config` takes the next argument as
the settings file (`config.yaml` by default; the last one given wins), `--catalog` asks for the
catalog summary of at most one keyspace, and every other argument is a word of the SQL text,
joined by single spaces. `-h` and `--help` answer the usage line, as do a SQL text with no words
and a catalog request with more than one keyspace.
-/

namespace CqlBridge.Shell

/-- What the command line is asked to do. -/
inductive Command where
  /-- Summarise the attached catalog, or one keyspace of it. -/
  | catalog (keyspace : Option String)
  /-- Run a SQL text and print its rows. -/
  | sql (text : String)
  deriving Inhabited, Repr, DecidableEq

/-- The arguments of one run. -/
structure Invocation where
  config : String := "config.yaml"
  command : Command
  deriving Inhabited, Repr

namespace Invocation

/-- The usage line. -/
def usage : String := "usage: cassduck [--config PATH] (--catalog [KEYSPACE] | SQL)"

/-- Reads the arguments: the settings file, whether the catalog is asked for, and the other
arguments in order. -/
def scan (config : String) (catalog : Bool) (rest : List String) :
    List String → Except String (String × Bool × List String)
  | [] => .ok (config, catalog, rest.reverse)
  | "--config" :: path :: more => scan path catalog rest more
  | ["--config"] => .error "--config needs a path"
  | "--catalog" :: more => scan config true rest more
  | "-h" :: _ | "--help" :: _ => .error usage
  | arg :: more => scan config catalog (arg :: rest) more

/-- The invocation that arguments ask for, or the message refusing them. -/
def ofArgs (args : List String) : Except String Invocation := do
  let (config, catalog, rest) ← scan "config.yaml" false [] args
  if catalog then
    match rest with
    | [] => return { config, command := .catalog none }
    | [k] => return { config, command := .catalog (some k) }
    | _ => throw usage
  else if rest.isEmpty then throw usage
  else return { config, command := .sql (" ".intercalate rest) }

example : (ofArgs ["--config", "a.yaml", "--config", "b.yaml", "SELECT", "3"]).toOption.map
    (fun i => (i.config, i.command)) = some ("b.yaml", .sql "SELECT 3") := by decide +kernel

example : (match ofArgs ["SELECT 1", "-h"] with
    | .error m => m
    | .ok _ => "") = usage := by decide +kernel

end Invocation

end CqlBridge.Shell
