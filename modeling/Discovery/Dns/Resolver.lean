import Discovery.Error
import Discovery.Net.Ip
/-!
# Resolvers

A resolver looks up the addresses of a name and its canonical name. Either lookup may
find nothing, which is not a failure of the scan, or fail outright. A lookup of
addresses that succeeds never gives an empty list: a name without addresses is a name
that was not found.
-/

namespace Discovery.Dns

open Discovery.Net

/-- The two lookups of a resolver. -/
structure Resolver where
  lookupHost : String → Except LookupError (List IpAddr)
  lookupCname : String → Except LookupError String

/-- A resolver keeps its promise that found names have addresses. -/
def Resolver.NeverEmpty (r : Resolver) : Prop := ∀ name, r.lookupHost name ≠ .ok []

/-- A list of addresses, where an empty one means that the name was not found. -/
def found (addrs : List IpAddr) : Except LookupError (List IpAddr) :=
  if addrs.isEmpty then .error .notFound else .ok addrs

theorem found_ne_nil (addrs : List IpAddr) : found addrs ≠ .ok [] := by
  unfold found
  cases addrs <;> simp

end Discovery.Dns
