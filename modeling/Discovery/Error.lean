/-!
# Errors of a scan

A scan stops before any probe for a target it cannot reach, for invalid options and for
a corpus it cannot read; every other error belongs to one candidate and is reported
beside the findings. A transport error is the failure of one request before it is tied
to the address it was for; a lookup error is the failure of one name lookup.
-/

namespace Discovery

/-- Errors of a scan. -/
inductive ScanError where
  | connectivity (url reason : String)
  | invalidOptions (problems : List String)
  | corpus (path reason : String)
  | probe (url reason : String)
  | invalidCertificate (url reason : String)
  | malformedResponse (url reason : String)
  | resolve (name reason : String)
  | notCalibrated
  | io (reason : String)
  deriving DecidableEq, Repr

/-- How an error reads. -/
def ScanError.message : ScanError → String
  | .connectivity url reason => "unable to connect to " ++ url ++ ": " ++ reason
  | .invalidOptions problems => "invalid options:\n" ++ "\n".intercalate problems
  | .corpus path reason => "failed to read " ++ path ++ ": " ++ reason
  | .probe url reason => "request to " ++ url ++ " failed: " ++ reason
  | .invalidCertificate url reason => "invalid certificate for " ++ url ++ ": " ++ reason
  | .malformedResponse url reason => "malformed response from " ++ url ++ ": " ++ reason
  | .resolve name reason => "lookup of " ++ name ++ " failed: " ++ reason
  | .notCalibrated => "wildcard calibration has not been run"
  | .io reason => reason

/-- The name of each kind of error. -/
def ScanError.kind : ScanError → String
  | .connectivity .. => "Connectivity"
  | .invalidOptions .. => "InvalidOptions"
  | .corpus .. => "Corpus"
  | .probe .. => "Probe"
  | .invalidCertificate .. => "InvalidCertificate"
  | .malformedResponse .. => "MalformedResponse"
  | .resolve .. => "Resolve"
  | .notCalibrated => "NotCalibrated"
  | .io .. => "Io"

/-- The failure of one request. -/
inductive TransportError where
  | invalidCertificate (reason : String)
  | badLocation (reason : String)
  | request (reason : String)
  deriving DecidableEq, Repr

/-- How a transport error reads. -/
def TransportError.message : TransportError → String
  | .invalidCertificate reason => "invalid certificate: " ++ reason
  | .badLocation reason => "missing or invalid redirect location: " ++ reason
  | .request reason => reason

/-- The scan error of a failed request to `url`. -/
def TransportError.at (e : TransportError) (url : String) : ScanError :=
  match e with
  | .invalidCertificate reason => .invalidCertificate url reason
  | .badLocation reason => .malformedResponse url reason
  | .request reason => .probe url reason

/-- The failure of one name lookup. -/
inductive LookupError where
  | notFound
  | failed (reason : String)
  deriving DecidableEq, Repr

/-- How a lookup error reads. -/
def LookupError.message : LookupError → String
  | .notFound => "no records found"
  | .failed reason => reason

end Discovery
