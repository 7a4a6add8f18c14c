import ShellWord.Path.Basic

/-!
# Home directories

A relative path whose first name begins with a tilde starts at a home directory: `~` at one's own
and `~name` at that of a user of that name.
-/

namespace ShellWord

/-- What is known about home directories. -/
structure Homes where
  /-- One's own home directory. -/
  own : String
  /-- The home directories of users, by name. -/
  users : List (String × String) := []
  deriving DecidableEq, Repr

/-- Why a tilde leads nowhere. -/
inductive HomeError
  /-- There is no user of this name. -/
  | unknownUser
  /-- A zero byte cannot be part of a user name. -/
  | nulInName
  deriving DecidableEq, Repr

def HomeError.message : HomeError → String
  | unknownUser => "Could not determine home directory."
  | nulInName => "embedded null byte"

/-- A home directory as a path; slashes at its end do not count. -/
def homePath (directory : String) : Path :=
  let text := (directory.toList.reverse.dropWhile (· = '/')).reverse
  if text.isEmpty then ⟨.root, []⟩ else Path.ofString (String.ofList text)

/-- The path with a tilde at its beginning replaced by the home directory. -/
def Path.expandHome (homes : Homes) (p : Path) : Except HomeError Path :=
  match p.start, p.names with
  | .here, first :: rest =>
    match first.toList with
    | ['~'] => .ok { homePath homes.own with names := (homePath homes.own).names ++ rest }
    | '~' :: user =>
      if user.contains '\x00' then .error .nulInName
      else
        match homes.users.lookup (String.ofList user) with
        | some directory =>
          .ok { homePath directory with names := (homePath directory).names ++ rest }
        | none => .error .unknownUser
    | _ => .ok p
  | _, _ => .ok p

end ShellWord
