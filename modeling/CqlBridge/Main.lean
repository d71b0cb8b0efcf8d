import CqlBridge.Shell.Run
import CqlBridge.Time.Civil
import Std.Time.DateTime.Timestamp

/-!
# `CqlBridge.Main` — the `cassduck` command line

The program reads its environment and runs `Shell.run` on the real file system, in the current
directory, with today's date (UTC) naming the day's log file; then it writes the standard output
and the error stream and exits with the run's code. All decisions are `Shell.run`'s: this module
only carries out the three disk operations of `Shell.Disk` and reads the clock and the
environment.
-/

namespace CqlBridge.Shell

/-- The operating-system error number of a failed file operation, when it carries one. -/
def osCode? : IO.Error → Option UInt32
  | .alreadyExists _ c _ => some c
  | .noFileOrDirectory _ c _ => some c
  | .inappropriateType _ c _ => some c
  | .permissionDenied _ c _ => some c
  | .invalidArgument _ c _ => some c
  | .otherError c _ => some c
  | _ => none

/-- The error of `Shell.Disk` for an operating-system error number. -/
def osErrorOf (code : Option UInt32) : OsError :=
  match code with
  | some 17 => .alreadyExists
  | some 20 => .notDirectory
  | some 21 => .isDirectory
  | _ => .notFound

/-- What stands at a path on the real file system: a file that reads is a file, a read refused
because the path is a directory is a directory, anything else is nothing. -/
def lookPath (path : String) : IO Found := do
  match ← (IO.FS.readBinFile path).toBaseIO with
  -- a file that is not UTF-8 text still stands there, with some text
  | .ok bytes => return .file ((String.fromUTF8? bytes).getD "\x00")
  | .error e => return (if osCode? e == some 21 then .directory else .missing)

/-- The path's cumulative prefixes: `a`, `a/b`, `a/b/c` for `a/b/c` (an absolute path keeps its
leading `/`). -/
def pathPrefixes (path : String) : List String :=
  let parts := path.splitOn "/"
  (List.range parts.length).filterMap fun i =>
    let p := "/".intercalate (parts.take (i + 1))
    if p.isEmpty || (parts.getD i "").isEmpty then none else some p

/-- Creates a directory and its missing parents, walking the path from the top. -/
def makeDirsOn (path : String) : IO (Except OsError Unit) := do
  let rec walk : List String → IO (Except OsError Unit)
    | [] => return .ok ()
    | p :: rest => do
      match ← (IO.FS.createDir p).toBaseIO with
      | .ok () => walk rest
      | .error e =>
        if osCode? e == some 17 then
          if (← lookPath p) == .directory then walk rest
          else return .error (if rest.isEmpty then .alreadyExists else .notDirectory)
        else return .error (osErrorOf (osCode? e))
  walk (pathPrefixes path)

/-- Opens a file for appending, creating it when missing. -/
def makeFileOn (path : String) : IO (Except OsError Unit) := do
  match ← (IO.FS.Handle.mk path .append).toBaseIO with
  | .ok _ => return .ok ()
  | .error e => return .error (osErrorOf (osCode? e))

/-- The real file system. -/
def systemDisk : Disk IO where
  look := lookPath
  makeDirs := makeDirsOn
  makeFile := makeFileOn

/-- The environment of this process, as the system lists it (empty where it cannot be read). -/
def systemEnv : IO Env := do
  let text := match ← (IO.FS.readBinFile "/proc/self/environ").toBaseIO with
    | .ok bytes => (String.fromUTF8? bytes).getD ""
    | .error _ => ""
  let pairs := (text.splitOn "\x00").filterMap fun entry =>
    match entry.splitOn "=" with
    | k :: v :: more => if k.isEmpty then none else some (k, "=".intercalate (v :: more))
    | _ => none
  return Env.ofList pairs

/-- Today's date in UTC, `YYYY-MM-DD`. -/
def today : IO String := do
  let secs := (← Std.Time.Timestamp.now).toSecondsSinceUnixEpoch.val
  return (Time.dateText? (secs / 86400)).getD "1970-01-01"

end CqlBridge.Shell

/-- Runs the command line. -/
def main (args : List String) : IO UInt32 := do
  let env ← CqlBridge.Shell.systemEnv
  let cwd := (← IO.currentDir).toString
  let date ← CqlBridge.Shell.today
  let o ← CqlBridge.Shell.run CqlBridge.Shell.systemDisk ⟨cwd, date⟩ args env
  IO.print o.stdout
  IO.eprint o.stderr
  return o.code.toUInt32
