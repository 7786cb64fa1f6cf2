import Discovery.Error
import Discovery.Files.Tree
import Discovery.Wordlist.Expansion
/-!
# Where words come from

A word list is standard input (written `-`) or a file. Opening a file fails when it
cannot be opened; a directory opens, but reading it fails at once, which ends its
stream of words without an error. Before a run, a word list file is read whole to count
the candidates it will give; standard input is not counted, and a file that cannot be
read fails the count.
-/

namespace Discovery.Wordlist

open Discovery.Files

/-- An open word list. -/
inductive Source where
  | stdin
  | bytes (bs : List UInt8)
  deriving DecidableEq, Repr

/-- Open a word list. -/
def Source.open (fs : Tree) (path : String) : Except ScanError Source :=
  if path = "-" then .ok .stdin
  else
    match fs.lookup path with
    | some .dir => .ok (.bytes [])
    | _ =>
      match fs.read path with
      | .ok bs => .ok (.bytes bs)
      | .error e => .error (.corpus path e.message)

/-- The number of candidates a word list file will give; none for standard input. -/
def countExpected (fs : Tree) (path : String) (e : Expansion) : Except ScanError (Option Nat) :=
  if path = "-" then .ok none
  else
    match fs.read path with
    | .ok bs => .ok (some (e.expectedCount (Text.decodeLossyString bs)))
    | .error err => .error (.corpus path err.message)

end Discovery.Wordlist
