import Discovery.Transport
import Discovery.Text.Search
/-!
# Scripted sites

A scripted site answers requests from a script: first the replies queued for the next
requests, in turn; when the queue is empty, the reply fixed for the exact address;
otherwise a default reply. Every `{url}` in a scripted body stands for the requested
address. A reply may also ask to cancel the scan that sent the request. The site logs
every address it was asked for, so a test can see what was probed and in which order.

`answer_log` says that every request is logged, whatever the reply.
-/

namespace Discovery.Transport

open Discovery.Text

/-- How a scripted reply states its size. -/
inductive SizeRule where
  /-- The number of characters of the body, as a transport counts a decoded body. -/
  | counted
  /-- No size. -/
  | unknown
  /-- A size given outright. -/
  | given (n : Nat)
  deriving DecidableEq, Repr

/-- One scripted reply. -/
inductive Script where
  /-- A reply with a status, a body template, a size rule and a redirect target; when
  `cancels` is set, the scan that sent the request is cancelled while it is in flight. -/
  | reply (status : Nat) (body : String) (size : SizeRule) (redirect : Option String)
      (cancels : Bool)
  /-- A failed request. -/
  | fail (e : TransportError)
  deriving DecidableEq, Repr

/-- The reply that a site without a script for an address gives. -/
def Script.notFound : Script := .reply 404 "" .counted none false

/-- A scripted site and what it has seen so far. -/
structure Site where
  queue : List Script := []
  routes : List (String × Script) := []
  fallback : Script := Script.notFound
  /-- Every requested address, oldest first. -/
  log : List String := []
  /-- Some reply asked to cancel the scan. -/
  cancelled : Bool := false
  deriving Repr

/-- The script for a request, and the queue left afterwards. -/
def Site.next (site : Site) (url : String) : Script × List Script :=
  match site.queue with
  | s :: rest => (s, rest)
  | [] =>
    match site.routes.find? (·.1 == url) with
    | some (_, s) => (s, [])
    | none => (site.fallback, [])

/-- The reply a script gives to a request for `url`. -/
def Script.play (url : String) : Script → Except TransportError Reply
  | .reply status body size redirect _ =>
    let body := replace body "\x7burl\x7d" url
    let size := match size with
      | .counted => some body.length
      | .unknown => none
      | .given n => some n
    .ok { status, size, body, redirect }
  | .fail e => .error e

/-- A script asks to cancel the scan. -/
def Script.cancels : Script → Bool
  | .reply _ _ _ _ c => c
  | .fail _ => false

/-- Answer one request. -/
def Site.answer : Transport Site := fun url site =>
  let (script, queue) := site.next url
  (script.play url,
    { site with queue, log := site.log ++ [url], cancelled := site.cancelled || script.cancels })

/-- Every request is logged, whatever the reply. -/
theorem answer_log (site : Site) (url : String) : (Site.answer url site).2.log = site.log ++ [url] :=
  rfl

end Discovery.Transport
