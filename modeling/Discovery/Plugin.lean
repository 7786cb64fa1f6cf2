import Discovery.Dir.Scanner
import Discovery.Dns.Scanner
/-!
# Plugins

A scan probes with one of two plugins: the path scanner of a web site or the name
scanner of a domain. Both turn a candidate into findings or an error, and render a
finding into its lines; only the path scanner talks to a transport, and only it can
fail to render (before calibration).
-/

namespace Discovery

open Discovery.Time

/-- What a scan probes with. -/
inductive Plugin where
  | dir (sc : Dir.Scanner)
  | dns (sc : Dns.Scanner)

/-- Render a finding at a time. -/
def Plugin.render (p : Plugin) (now : DateTime) (r : Finding) : Except ScanError Rendered :=
  match p with
  | .dir sc => sc.render now r
  | .dns _ => .ok (Dns.render now r)

/-- Probe one candidate; a path scan asks the transport, a name scan leaves its state
as it is. -/
def Plugin.process {σ : Type} (t : Transport σ) (p : Plugin) (c : Candidate) (s : σ) :
    Except ScanError (List Finding) × σ :=
  match p with
  | .dir sc => sc.process t c s
  | .dns sc => (sc.process c, s)

end Discovery
