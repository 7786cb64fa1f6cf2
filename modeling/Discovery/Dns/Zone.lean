import Discovery.Dns.Resolver
/-!
# Zones

A zone is a fixed table of names: each name has a list of addresses or a lookup
failure, and may have a canonical name or a failure. Names are matched exactly, and a
name that is not in the table is not found. A zone answers as a resolver does, so an
empty list of addresses counts as not found.

`resolver_neverEmpty` says that a zone keeps the promise of every resolver.
-/

namespace Discovery.Dns

open Discovery.Net

/-- A table of names. -/
structure Zone where
  hosts : List (String × Except LookupError (List IpAddr)) := []
  cnames : List (String × Except LookupError String) := []

/-- The first entry of a table for a name. -/
def tableEntry {α : Type} (table : List (String × α)) (name : String) : Option α :=
  (table.find? (·.1 == name)).map (·.2)

/-- The resolver that answers from a zone. -/
def Zone.resolver (z : Zone) : Resolver where
  lookupHost name :=
    match tableEntry z.hosts name with
    | some (.ok addrs) => found addrs
    | some (.error e) => .error e
    | none => .error .notFound
  lookupCname name := (tableEntry z.cnames name).getD (.error .notFound)

theorem resolver_neverEmpty (z : Zone) : z.resolver.NeverEmpty := by
  intro name
  simp only [Zone.resolver]
  split
  · exact found_ne_nil _
  · simp
  · simp

end Discovery.Dns
