import Discovery.Error
/-!
# Transports

A transport fetches one address and gives back a reply or a failure. A transport may
keep state from one request to the next (a scripted site hands out its queued replies
in turn and logs every address it is asked for), so it is a function from an address
and a state to an outcome and the next state. Everything that probes a site takes the
transport and its state as parameters and hands the final state back.
-/

namespace Discovery

/-- What one request returned: the status, the size when it is known, the decoded body
and the absolute target of a redirect. -/
structure Reply where
  status : Nat
  size : Option Nat := none
  body : String := ""
  redirect : Option String := none
  deriving DecidableEq, Repr

/-- A transport whose state between requests has type `σ`. -/
abbrev Transport (σ : Type) := String → σ → Except TransportError Reply × σ

end Discovery
