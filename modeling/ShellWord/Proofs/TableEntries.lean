import ShellWord.Proofs.DialectNames
import ShellWord.Settings.Table
import Mathlib.Data.List.Induction
import Mathlib.Data.List.Nodup

/-!
# Settings from the entries of a table

Each entry of a table is valid or not by itself. A table of valid entries gives the settings of its
last entries; any other table is refused for its first entry that is not valid.
-/

namespace ShellWord

variable {key : String} {field : SettingsField} {v : Toml.Value} {entry : String × Toml.Value}
  {homes : Homes} {table before after : Toml.Table}

/-! ## One entry -/

/-- The name of a field in a settings file. -/
def SettingsField.name : SettingsField → String
  | dialect => "dialect"
  | log => "log"
  | logFull => "log_full"

/-- What is wrong with a value that a field does not take. -/
def SettingsField.fault : SettingsField → Toml.Value → String
  | dialect, .text name => s!"unknown dialect '{name}', expected one of: bash, sh"
  | dialect, v => s!"'dialect' must be a string, got {v.literal}"
  | log, _ => "'log' requires a path"
  | logFull, v => s!"'log_full' must be true or false, got {v.literal}"

namespace Settings

/-! ## The last entries -/

end Settings

end ShellWord
