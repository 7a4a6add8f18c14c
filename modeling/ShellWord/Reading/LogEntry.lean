import ShellWord.Journal.Line
import ShellWord.Path.Basic
import ShellWord.Reading.ByteLiteral

/-!
# Reading a log

What a log tells, read line by line: a line is a JSON object, and the word in it is a literal of
bytes. The readers of both know nothing of the writer of the log.
-/

namespace ShellWord.Reading

/-- Reads data that holds one JSON text. -/
def Json.ofBytes? (data : Bytes) : Option Json :=
  match Utf8.decode? data with
  | .ok s => ofText? s
  | .error _ => none

def Json.member? (key : String) : Json → Option Json
  | object members => members.lookup key.toList
  | _ => none

/-- The text of a string. -/
def Json.string? : Json → Option String
  | string s => some (String.ofList s)
  | _ => none

/-- An entry of a log: a call, when it was logged and how serious it was. -/
structure LogEntry where
  stamp : String
  level : String
  call : Journal.Call
  deriving DecidableEq, Repr

namespace LogEntry

/-- What a log tells of a call: only a full log shows the word. -/
def ofCall (full : Bool) (stamp : String) (c : Journal.Call) : LogEntry :=
  { stamp, level := c.level, call := if full then c else { c with data := none } }

end LogEntry

end ShellWord.Reading
