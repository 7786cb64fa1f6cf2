import Discovery.Text.Blank
/-!
# Lines of a text

A text is cut into lines at each line feed; a carriage return just before a line feed
belongs to the break and not to the line, and a final line feed does not start an empty
last line. A carriage return at the very end, with no line feed after it, stays. The
meaningful lines of a list are its lines trimmed, without the empty ones and those that
start with `#`.
-/

namespace Discovery.Text

/-- Cut at every line feed, keeping the empty pieces. -/
def splitNewline : List Char → List (List Char)
  | [] => [[]]
  | c :: cs =>
    if c = '\n' then [] :: splitNewline cs
    else match splitNewline cs with
      | [] => [[c]]
      | l :: ls => (c :: l) :: ls

/-- A line without the carriage return that ends it. -/
def dropCarriageReturn (l : List Char) : List Char :=
  match l.getLast? with
  | some '\r' => l.dropLast
  | _ => l

/-- The lines of a text: pieces between line feeds, where a line feed at the very end adds
no empty line. A piece that ends at a line feed loses one carriage return at its end; the
last piece, when no line feed follows it, is kept as it is. -/
def linesChars (cs : List Char) : List (List Char) :=
  let pieces := splitNewline cs
  let ended := pieces.dropLast.map dropCarriageReturn
  if cs.getLast? = some '\n' || cs.isEmpty then ended else ended ++ [pieces.getLastD []]

/-- The lines of a text. -/
def lines (s : String) : List String := (linesChars s.toList).map String.ofList

/-- A line that carries an entry: not blank and not a comment. -/
def isMeaningful (line : String) : Bool :=
  !line.isEmpty && !(line.toList.head? = some '#')

/-- The trimmed lines that are neither empty nor comments, in order. -/
def meaningfulLines (s : String) : List String :=
  ((lines s).map trim).filter isMeaningful

theorem splitNewline_ne_nil (cs : List Char) : splitNewline cs ≠ [] := by
  cases cs with
  | nil => simp [splitNewline]
  | cons c cs =>
    simp only [splitNewline]
    split
    · simp
    · split <;> simp

theorem splitNewline_append_newline (cs : List Char) :
    splitNewline (cs ++ ['\n']) = splitNewline cs ++ [[]] := by
  induction cs with
  | nil => simp [splitNewline]
  | cons c cs ih =>
    simp only [List.cons_append, splitNewline, ih]
    split
    · simp
    · have := splitNewline_ne_nil cs
      cases h : splitNewline cs with
      | nil => exact absurd h this
      | cons l ls => simp

end Discovery.Text
