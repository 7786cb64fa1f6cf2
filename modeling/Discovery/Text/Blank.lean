/-!
# Blank characters and trimming

A blank is a character with the Unicode `White_Space` property: the ASCII controls
from tab to carriage return, space, next line, no-break space, the Ogham space mark,
the typographic spaces from en quad to hair space, the line and paragraph separators,
the narrow no-break space, the medium mathematical space and the ideographic space.
Trimming removes blanks from both ends of a text and nothing else, so a zero-width
no-break space (a byte order mark) survives it.
-/

namespace Discovery.Text

/-- The characters with the Unicode `White_Space` property. -/
def isBlank (c : Char) : Bool :=
  let n := c.toNat
  (0x09 ≤ n && n ≤ 0x0D) || n == 0x20 || n == 0x85 || n == 0xA0 || n == 0x1680 ||
    (0x2000 ≤ n && n ≤ 0x200A) || n == 0x2028 || n == 0x2029 || n == 0x202F ||
    n == 0x205F || n == 0x3000

/-- Drop the blanks in front. -/
def trimStartChars (cs : List Char) : List Char := cs.dropWhile isBlank

/-- Drop the blanks at the end. -/
def trimEndChars (cs : List Char) : List Char := (cs.reverse.dropWhile isBlank).reverse

/-- Drop the blanks at both ends. -/
def trimChars (cs : List Char) : List Char := trimEndChars (trimStartChars cs)

/-- A text without the blanks at both of its ends. -/
def trim (s : String) : String := String.ofList (trimChars s.toList)

theorem trimStartChars_head (cs : List Char) (c : Char) (r : List Char)
    (h : trimStartChars cs = c :: r) : isBlank c = false := by
  unfold trimStartChars at h
  induction cs with
  | nil => simp at h
  | cons a as ih =>
    rw [List.dropWhile_cons] at h
    split at h
    · exact ih h
    · next ha => cases h; simpa using ha

end Discovery.Text
