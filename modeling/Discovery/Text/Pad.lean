/-!
# Padding to a width

A text shorter than a width is filled with spaces up to it, on the right to align it
left or on the left to align it right. Widths count characters; a text that is already
as wide is left as it is.
-/

namespace Discovery.Text

/-- `s` followed by spaces up to `width` characters. -/
def alignLeft (width : Nat) (s : String) : String :=
  s ++ String.ofList (List.replicate (width - s.length) ' ')

/-- Spaces up to `width` characters, then `s`. -/
def alignRight (width : Nat) (s : String) : String :=
  String.ofList (List.replicate (width - s.length) ' ') ++ s

/-- Digits of `n`, with zeros in front up to `width` digits. -/
def zeroPad (width n : Nat) : String :=
  let ds := toString n
  String.ofList (List.replicate (width - ds.length) '0') ++ ds

end Discovery.Text
