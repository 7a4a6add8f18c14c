import ShellWord.Journal.Basic

/-!
# Words of a command line

The words of a command line are quoted one after another and separated by single spaces. Each
word is logged; the first one that cannot be quoted is logged too and ends the run.
-/

namespace ShellWord.Command

/-- Quotes words after the output so far, and logs each. The clock tells the time of each line of
the log by its number, counted from `tick`. -/
def quoteFrom (clock : Nat → String) (d : Dialect) :
    Nat → Journal.World → Bytes → List Bytes → Journal.World × Except NulByte Bytes
  | _, w, out, [] => (w, .ok out)
  | tick, w, out, word :: rest =>
    let out := if tick = 0 then out else out ++ [0x20]
    let call : Journal.Call :=
      { event := "quoted", dialect := d, size := word.length, data := some word }
    match d.quoteOnto out word with
    | .ok out => quoteFrom clock d (tick + 1) (w.record (clock tick) call) out rest
    | .error e =>
      let call := { call with event := "rejected", error := some e.message }
      (w.record (clock tick) call, .error e)

/-- Quotes the words of a command line. -/
def quoteWords (clock : Nat → String) (d : Dialect) (w : Journal.World) (words : List Bytes) :
    Journal.World × Except NulByte Bytes :=
  quoteFrom clock d 0 w [] words

end ShellWord.Command
