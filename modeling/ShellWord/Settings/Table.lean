import ShellWord.Path.Home
import ShellWord.Quote.DialectName
import ShellWord.Settings.Basic
import ShellWord.Toml.Document
import ShellWord.Toml.Literal

/-!
# Settings from a table

A settings file is a table with the keys `dialect`, `log` and `log_full`, where a minus sign may
stand for the underscore. Entries are taken in the order of the file: the first that is not valid
is reported, and of two spellings of one key the last wins.
-/

namespace ShellWord

/-- What is wrong with a settings file. -/
inductive SettingsError
  /-- The text is no document. -/
  | malformed
  | dialectNotText (v : Toml.Value)
  | unknownDialect (e : UnknownDialect)
  | logWithoutPath
  | logFullNotBoolean (v : Toml.Value)
  | unknownKey (key : String)
  /-- The log is at a home directory that cannot be found. -/
  | home (e : HomeError)
  deriving Repr

/-- The report of a fault in a settings file. -/
def SettingsError.message : SettingsError → String
  | malformed => "invalid TOML"
  | dialectNotText v => s!"'dialect' must be a string, got {v.literal}"
  | unknownDialect e => e.message
  | logWithoutPath => "'log' requires a path"
  | logFullNotBoolean v => s!"'log_full' must be true or false, got {v.literal}"
  | unknownKey key => s!"unknown setting '{key}'"
  | home e => e.message

/-- The fields that a key can name. -/
inductive SettingsField
  | dialect
  | log
  | logFull
  deriving DecidableEq, Repr

def SettingsField.ofKey? (key : String) : Option SettingsField :=
  let plain := key.toList.map fun c => if c = '-' then '_' else c
  if plain = "dialect".toList then some .dialect
  else if plain = "log".toList then some .log
  else if plain = "log_full".toList then some .logFull
  else none

namespace Settings

def setDialect (s : Settings) : Toml.Value → Except SettingsError Settings
  | .text name =>
    match Dialect.ofName name with
    | .ok d => .ok { s with dialect := some d }
    | .error e => .error (.unknownDialect e)
  | v => .error (.dialectNotText v)

def setLog (homes : Homes) (s : Settings) : Toml.Value → Except SettingsError Settings
  | .text path =>
    if path = "" then .error .logWithoutPath
    else
      match (Path.ofString path).expandHome homes with
      | .ok p => .ok { s with log := some p }
      | .error e => .error (.home e)
  | _ => .error .logWithoutPath

/-- Sets whether the log shows the words. -/
def setLogFull (s : Settings) : Toml.Value → Except SettingsError Settings
  | .boolean b => .ok { s with logFull := some b }
  | v => .error (.logFullNotBoolean v)

/-- Takes one entry of the table into the settings. -/
def setEntry (homes : Homes) (s : Settings) (key : String) (v : Toml.Value) :
    Except SettingsError Settings :=
  match SettingsField.ofKey? key with
  | some .dialect => s.setDialect v
  | some .log => s.setLog homes v
  | some .logFull => s.setLogFull v
  | none => .error (.unknownKey key)

/-- The settings of a table. -/
def ofTable (homes : Homes) (table : Toml.Table) : Except SettingsError Settings :=
  table.foldlM (fun s entry => s.setEntry homes entry.1 entry.2) {}

/-- The settings of the text of a settings file. -/
def ofText (homes : Homes) (text : String) : Except SettingsError Settings :=
  match Toml.table? text with
  | some table => ofTable homes table
  | none => .error .malformed

end Settings

end ShellWord
