import ShellWord.Command.Run
import Std.Time.DateTime

/-!
# The command

The program looks at those parts of the file system that a run can depend on, lets `Command.run`
decide what is printed and what is logged, and carries that out. A word list that is empty is read
from the standard input.
-/

namespace ShellWord.Surroundings

def dataOf (bytes : ByteArray) : Bytes := bytes.toList

/-- All of a stream. -/
partial def readAll (stream : IO.FS.Stream) (before : ByteArray) : IO ByteArray := do
  let more ← stream.read 65536
  if more.isEmpty then return before else readAll stream (before ++ more)

/-- Adds an entry that is known to exist, and the directories above it. -/
def surveyEntry (t : FileTree) (l : Location) : IO FileTree := do
  let path := Location.toString l
  let t := (List.range l.length).foldl (fun t n => t.put (l.take n) .directory) t
  if ← (← IO.FS.realPath path).isDir then return t.put l .directory
  else return t.put l (.file (dataOf (← IO.FS.readBinFile path)))

/-- Adds what exists on the way of several names, seen from a location. -/
def survey (t : FileTree) (here : Location) : List String → IO FileTree
  | [] => return t
  | name :: rest => do
    if name = ".." then survey t here.dropLast rest
    else
      let next := here ++ [name]
      match ← (IO.FS.realPath (Location.toString next)).toBaseIO with
      | .error _ => return t
      | .ok real =>
        let l := (Path.ofString real.toString).names
        let t := if l = next then t else t.put next (.link (Location.toString l))
        survey (← surveyEntry t l) l rest

/-- Adds what exists on the way of a path. -/
def surveyPath (cwd : Location) (t : FileTree) (p : Path) : IO FileTree :=
  survey t (FileTree.startOf cwd p) p.names

/-- The users of the system and their home directories. -/
def users : IO (List (String × String)) := do
  match ← (IO.FS.lines "/etc/passwd").toBaseIO with
  | .error _ => return []
  | .ok lines =>
    return lines.toList.filterMap fun line =>
      match (splitAt ':' line.toList).map String.ofList with
      | [name, _, _, _, _, home, _] => some (name, home)
      | _ => none

/-- The paths at which settings files may lie. -/
def settingsPaths (homes : Homes) (cwd : Location) (namedFile : Option String) : List Path :=
  let named := namedFile.toList.filterMap fun name =>
    ((Path.ofString name).expandHome homes).toOption
  let projects := (List.range (cwd.length + 1)).map fun n =>
    ⟨.root, cwd.take n ++ [projectFileName]⟩
  userFile homes :: named ++ projects

/-- The host of a run, as far as the run depends on it. -/
def host : IO Host := do
  let cwd := (Path.ofString (← IO.currentDir).toString).names
  let homes : Homes := ⟨(← IO.getEnv "HOME").getD "/", ← users⟩
  let namedFile ← IO.getEnv "SHELLQUOTE_CONFIG"
  let tree ← surveyPath [] {} ⟨.root, cwd⟩
  let tree ← (settingsPaths homes cwd namedFile).foldlM (surveyPath cwd) tree
  let host : Host := { tree, cwd, homes, namedFile }
  match Settings.loadHere host with
  | .ok { log := some p, .. } => return { host with tree := ← surveyPath cwd tree p }
  | _ => return host

/-- Makes the directories and appends the data that a run has added to a file tree. -/
def carryOut (old new : FileTree) : IO Unit := do
  for (l, entry) in new.entries do
    if old.get? l ≠ some entry then
      match entry with
      | .directory => IO.FS.createDir (Location.toString l)
      | .file content =>
        let before := match old.get? l with
          | some (.file content) => content.length
          | _ => 0
        IO.FS.withFile (Location.toString l) .append fun handle =>
          handle.write ⟨(content.drop before).toArray⟩
      | .link _ => pure ()

/-- The time as it stands in the log: date and time of day in UTC, to the microsecond. -/
def stamp : IO String := do
  let now ← Std.Time.Timestamp.now
  let t := Std.Time.PlainDateTime.ofWallTime (.ofDuration now.toDurationSinceUnixEpoch)
  let pad (width : Nat) (n : Int) : String :=
    let digits := toString n
    "".pushn '0' (width - digits.length) ++ digits
  let date := "-".intercalate
    [pad 4 t.date.year.toInt, pad 2 t.date.month.val, pad 2 t.date.day.val]
  let time := ":".intercalate
    [pad 2 t.time.hour.val, pad 2 t.time.minute.val, pad 2 t.time.second.val]
  return s!"{date}T{time}.{pad 6 (t.time.nanosecond.val / 1000)}Z"

/-- The report of a run that breaks off. -/
def breakMessage : Command.Break → String
  | .load e => e.message
  | .file e => e.message

end ShellWord.Surroundings

open ShellWord in
/-- Quotes the words of the command line. -/
def main (arguments : List String) : IO UInt32 := do
  let arguments := arguments.map Text.ofString
  let host ← Surroundings.host
  let stdin ← match Command.Arguments.read arguments with
    | .ok { words := [], .. } => Surroundings.readAll (← IO.getStdin) .empty
    | _ => pure .empty
  let stamp ← Surroundings.stamp
  let report := Command.run host (fun _ => stamp) {} arguments (Surroundings.dataOf stdin)
  Surroundings.carryOut host.tree report.world.tree
  (← IO.getStdout).write ⟨report.output.toArray⟩
  (← IO.getStderr).putStr (Utf8.spellOut report.errors)
  match report.ending with
  | .status code => return UInt32.ofNat code
  | .broken b =>
    (← IO.getStderr).putStrLn (Surroundings.breakMessage b)
    return 1
