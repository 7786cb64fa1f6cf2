/-!
# Searching and replacing inside texts

Patterns are searched left to right. `replaceAll` replaces every occurrence of a
pattern, where an occurrence starts only after the previous one ended, so the
occurrences never overlap: in `aaa` the pattern `aa` occurs once. An empty pattern
occurs before every character and at the end.
-/

namespace Discovery.Text

/-- `pat` occurs somewhere in `s`. -/
def occurs (pat : List Char) : List Char → Bool
  | [] => pat.isEmpty
  | c :: cs => pat.isPrefixOf (c :: cs) || occurs pat cs

/-- Replace each occurrence of the non-empty pattern `p :: ps`, left to right. -/
def replaceCons (p : Char) (ps rep : List Char) : List Char → List Char
  | [] => []
  | c :: cs =>
    if (p :: ps).isPrefixOf (c :: cs) then rep ++ replaceCons p ps rep (cs.drop ps.length)
    else c :: replaceCons p ps rep cs
termination_by s => s.length
decreasing_by
  all_goals simp only [List.length_drop, List.length_cons]
  all_goals omega

/-- Replace every non-overlapping occurrence of `pat`, scanning left to right. -/
def replaceAll (s pat rep : List Char) : List Char :=
  match pat with
  | [] => (s.flatMap fun c => rep ++ [c]) ++ rep
  | p :: ps => replaceCons p ps rep s

/-- The same on `String`s. -/
def replace (s pat rep : String) : String :=
  String.ofList (replaceAll s.toList pat.toList rep.toList)

/-- `pat` occurs in `s`. -/
def contains (s pat : String) : Bool := occurs pat.toList s.toList

/-- `s` starts with `pat`. -/
def startsWith (s pat : String) : Bool := pat.toList.isPrefixOf s.toList

/-- `s` ends with `pat`. -/
def endsWith (s pat : String) : Bool := pat.toList.reverse.isPrefixOf s.toList.reverse

/-- `s` without the prefix `pat`, when it starts with it. -/
def stripPrefix? (s pat : String) : Option String :=
  if startsWith s pat then some (String.ofList (s.toList.drop pat.length)) else none

/-- Replace every character of the set `cs` by `rep`. -/
def replaceChars (s : String) (cs : List Char) (rep : String) : String :=
  String.ofList (s.toList.flatMap fun c => if cs.contains c then rep.toList else [c])

end Discovery.Text
