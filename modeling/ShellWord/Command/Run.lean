import ShellWord.Command.Arguments
import ShellWord.Command.Words
import ShellWord.Settings.Layers

/-!
# A run of the command

A run reads its arguments, loads the settings, opens the log, quotes the words and prints them. It
ends with a status, or it breaks off with a fault that it does not report itself.
-/

namespace ShellWord.Command

/-- The reminder of how the command is used. -/
def usage : String := "usage: shellquote [--bash | --sh] [--] WORD..."

/-- A fault that ends a run without a status. -/
inductive Break
  | load (e : LoadError)
  | file (e : FileError)
  deriving Repr

/-- How a run ends. -/
inductive Ending
  /-- Success is 0, refused input or settings are 1, refused arguments are 2. -/
  | status (code : Nat)
  | broken (b : Break)
  deriving Repr

/-- What a run leaves behind. -/
structure Report where
  ending : Ending
  output : Bytes := []
  errors : Text := []
  /-- The log and the file tree after the run. -/
  world : Journal.World
  deriving Repr

/-- A line of the command's own messages. -/
def complaint (message : Text) : Text :=
  Text.ofString "shellquote: " ++ message ++ Text.ofString "\n"

/-- Whether the command reports this fault itself. It does so for faults that lie in the settings
files and in the names of things. -/
def isReported : LoadError → Bool
  | .layer _ _ => true
  | .home .nulInName => true
  | .home .unknownUser => false
  | .resolve .nul => true
  | .resolve (.linkLoop _) => false
  | .file e => e.fault = .nul

/-- Quotes the words, or the standard input if there are none, and prints them. -/
def print (clock : Nat → String) (d : Dialect) (words : List Bytes) (stdin : Bytes)
    (w : Journal.World) : Report :=
  match quoteWords clock d w (if words.isEmpty then [stdin] else words) with
  | (w, .ok out) => { ending := .status 0, output := out ++ [0x0A], world := w }
  | (w, .error e) =>
    { ending := .status 1, errors := complaint (Text.ofString e.message), world := w }

/-- Opens the log and prints the words. -/
def runWith (host : Host) (clock : Nat → String) (args : Arguments) (stdin : Bytes)
    (journal : Journal) (settings : Settings) : Report :=
  match Journal.World.configure ⟨journal, host.tree⟩ host.cwd settings with
  | (w, .ok ()) => print clock (args.dialect.getD settings.effectiveDialect) args.words stdin w
  | (w, .error e) =>
    -- a zero character in the path is no fault of the file system, and not reported as one
    if e.fault = .nul then { ending := .broken (.file e), world := w }
    else
      { ending := .status 1, world := w
        errors := complaint (Text.ofString s!"config error: cannot open log: {e.message}") }

/-- A whole run of the command. -/
def run (host : Host) (clock : Nat → String) (journal : Journal) (arguments : List Text)
    (stdin : Bytes) : Report :=
  let world : Journal.World := ⟨journal, host.tree⟩
  if arguments.head? = some (Text.ofString "-h") ∨ arguments.head? = some (Text.ofString "--help")
  then { ending := .status 0, output := ascii (usage ++ "\n"), world }
  else
    match Arguments.read arguments with
    | .error e =>
      { ending := .status 2, world
        errors := complaint (e.message ++ Text.ofString s!"\n{usage}") }
    | .ok args =>
      match Settings.loadHere host with
      | .error e =>
        if isReported e then
          { ending := .status 1, world
            errors := complaint (Text.ofString s!"config error: {e.message}") }
        else { ending := .broken (.load e), world }
      | .ok settings => runWith host clock args stdin journal settings

end ShellWord.Command
