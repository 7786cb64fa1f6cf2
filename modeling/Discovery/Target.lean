import Discovery.Text.Digit
import Discovery.Text.Number
import Discovery.Text.Search
/-!
# The base address of a directory scan

A target gets a trailing slash, and a scheme when it has none: a target that already
starts with `http` is kept. Otherwise its explicit port decides: the port is the run
of decimal digits after the last colon, before the first slash, that has something in
front of it and a digit after it. No port means plain `http`; port 80 means `http` and
port 443 `https`; any other port, or digits that are no sixteen-bit number, leave the
scheme unknown, which is an error.

`baseUrl_endsWith_slash` says that every accepted base ends with a slash.
-/

namespace Discovery.Target

open Discovery.Text

/-- The port digits after the last fitting colon of the first path segment. -/
def portDigits : (cs : List Char) → (seen : Bool) → (found : Option (List Char)) →
    Option (List Char)
  | [], _, found => found
  | c :: rest, seen, found =>
    if c = '/' then found
    else
      let found :=
        if c = ':' && seen then
          match rest with
          | d :: _ => if isDecimal d then some ((rest.takeWhile (· ≠ '/')).takeWhile isDecimal)
                      else found
          | [] => found
        else found
      portDigits rest true found

/-- The explicit port of a target, as written. -/
def explicitPort? (target : String) : Option String :=
  (portDigits target.toList false none).map String.ofList

/-- Why a target has no base address. -/
def schemeUnknown : String := "url scheme not specified"

/-- A target with a slash at its end. -/
def withSlash (raw : String) : String := if endsWith raw "/" then raw else raw ++ "/"

/-- The scheme that a target ending with a slash gets, if any. -/
def schemeOf (url : String) : Except String String :=
  if startsWith url "http" then .ok ""
  else
    match explicitPort? url with
    | none => .ok "http://"
    | some port =>
      match readUnsigned 16 port with
      | .ok 80 => .ok "http://"
      | .ok 443 => .ok "https://"
      | _ => .error schemeUnknown

/-- The base address of a target: a scheme in front and a slash at the end. -/
def baseUrl (raw : String) : Except String String :=
  (schemeOf (withSlash raw)).map (· ++ withSlash raw)

theorem endsWith_append (s t : String) : endsWith (s ++ t) t = true := by
  simp [endsWith, String.toList_append, List.reverse_append, List.isPrefixOf_iff_prefix]

theorem endsWith_append_of (s t u : String) (h : endsWith s u = true) :
    endsWith (t ++ s) u = true := by
  simp only [endsWith, List.isPrefixOf_iff_prefix, String.toList_append,
    List.reverse_append] at h ⊢
  exact h.trans (List.prefix_append _ _)

theorem withSlash_endsWith (raw : String) : endsWith (withSlash raw) "/" = true := by
  unfold withSlash
  split
  · assumption
  · exact endsWith_append raw "/"

/-- Every accepted base address ends with a slash. -/
theorem baseUrl_endsWith_slash (raw url : String) (h : baseUrl raw = .ok url) :
    endsWith url "/" = true := by
  unfold baseUrl at h
  cases hs : schemeOf (withSlash raw) with
  | error e => rw [hs] at h; cases h
  | ok p =>
    rw [hs] at h
    cases h
    exact endsWith_append_of _ _ _ (withSlash_endsWith raw)

end Discovery.Target
