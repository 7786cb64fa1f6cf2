import Discovery.Dns.Resolver
import Discovery.Text.Utf8
/-!
# Special-use names

Without a network, a resolver still answers some names by itself. An address written
as text is its own answer. Any other name is first read label by label: a label may
not be empty (except the one after a final dot) nor longer than 63 bytes, and the first
bad label fails the lookup. Names in the `localhost.` zone have the loopback address;
names in the `invalid.` zone do not exist and have no canonical name; zone names are
compared without ASCII case. Every other name would need the network, which is not
there.
-/

namespace Discovery.Dns

open Discovery.Net

/-- The labels of a name, without the empty one after a final dot. -/
def labels (name : String) : List String :=
  let parts := name.splitOn "."
  if name.endsWith "." then parts.dropLast else parts

/-- Why a name cannot be read, if it cannot: the first empty or overlong label. -/
def nameProblem? (name : String) : Option String :=
  (labels name).findSome? fun l =>
    let n := (Text.encode l).length
    if n > 63 then some ("proto error: label bytes exceed 63: " ++ toString n)
    else if l.isEmpty then some "proto error: Malformed label: "
    else none

/-- The special-use zone a name lies in, by its last label. -/
def zoneOf (name : String) : Option String :=
  (labels name).getLast?.map String.toLower

/-- The reason a lookup fails when it would need the network. -/
def unreachable : String := "proto error: no connections available"

/-- The resolver of special-use names. -/
def specialUse : Resolver where
  lookupHost name :=
    match IpAddr.read? name with
    | some a => .ok [a]
    | none =>
      match nameProblem? name with
      | some p => .error (.failed p)
      | none =>
        match zoneOf name with
        | some "localhost" => .ok [.v4 ⟨0x7F000001⟩]
        | some "invalid" => .error .notFound
        | _ => .error (.failed unreachable)
  lookupCname name :=
    match nameProblem? name with
    | some p => .error (.failed p)
    | none =>
      match zoneOf name with
      | some "localhost" => .error .notFound
      | some "invalid" => .error .notFound
      | _ => .error (.failed unreachable)

end Discovery.Dns
