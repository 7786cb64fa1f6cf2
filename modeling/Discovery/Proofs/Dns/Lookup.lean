import Mathlib
import Discovery.Dns.Scanner
import Discovery.Dns.Zone
/-!
# What looking up a name gives

The name scanner looks up one name per candidate. A failed lookup of its addresses is an
error of the scan naming the name and the reason, and it is the only error
(`process_eq_error_iff`); a name that is not found gives nothing; a found name gives at
least one finding, since a resolver never finds a name without addresses
(`findingsOf_ne_nil`). When addresses are shown, each address family present gives one
finding, IPv4 first, listing that family's addresses in the resolver's order
(`map_extra_findingsOf`), so every address is listed once, in its own family. Otherwise a
found name gives one finding, which carries the canonical name exactly when that is asked
for and known; a failed lookup of the canonical name is no error
(`findingsOf_of_not_showIps`). Which names are found and which fail thus does not depend on
what is shown.

Main statement: `lookup_outcomes`.
-/

namespace Discovery.Dns

open Discovery.Net

variable {sc : Scanner} {c : Candidate}

/-- A lookup fails exactly when the resolver fails to look up the addresses of the name,
and then with its reason. -/
theorem process_eq_error_iff (sc : Scanner) (c : Candidate) (e : ScanError) :
    sc.process c = .error e ↔ ∃ reason,
      sc.resolver.lookupHost (sc.hostname c) = .error (.failed reason) ∧
        e = .resolve (sc.hostname c) reason := by
  unfold Scanner.process
  dsimp only
  cases h : sc.resolver.lookupHost (sc.hostname c) with
  | error le => cases le <;> simp [eq_comm]
  | ok addrs => simp

/-- Some family is present among addresses that are there. -/
theorem families_ne_nil {addrs : List IpAddr} (h : addrs ≠ []) : families addrs ≠ [] := by
  obtain ⟨a, ha⟩ := List.exists_mem_of_ne_nil addrs h
  intro hf
  rw [families, List.filter_eq_nil_iff] at hf
  -- both families are empty, yet the address belongs to one of them
  have h4 : addrs.filter IpAddr.isV4 = [] := by simpa using hf _ (List.mem_cons_self ..)
  have h6 : addrs.filter (!·.isV4) = [] := by
    simpa using hf _ (List.mem_cons_of_mem _ (List.mem_singleton_self _))
  rw [List.filter_eq_nil_iff] at h4 h6
  cases hv : a.isV4
  · exact h6 a ha (by simp [hv])
  · exact h4 a ha hv

theorem findingsOf_ne_nil (sc : Scanner) (name : String) {addrs : List IpAddr}
    (h : addrs ≠ []) : sc.findingsOf name addrs ≠ [] := by
  unfold Scanner.findingsOf
  split
  · simpa using families_ne_nil h
  · simp

/-- A name that the resolver finds gives no finding only if its addresses are none, which a
resolver that keeps its promise never answers. -/
theorem process_eq_nil_iff (sc : Scanner) (c : Candidate) (hne : sc.resolver.NeverEmpty) :
    sc.process c = .ok [] ↔ sc.resolver.lookupHost (sc.hostname c) = .error .notFound := by
  unfold Scanner.process
  dsimp only
  cases h : sc.resolver.lookupHost (sc.hostname c) with
  | error le => cases le <;> simp
  | ok addrs =>
    have hnil : addrs ≠ [] := fun hnil => hne _ (hnil ▸ h)
    simp [findingsOf_ne_nil sc _ hnil]

/-- With addresses shown, one finding per family present, IPv4 first, each listing the
addresses of its family. -/
theorem map_extra_findingsOf (sc : Scanner) (name : String) (addrs : List IpAddr)
    (h : sc.options.showIps = true) :
    (sc.findingsOf name addrs).map (·.extra) =
      ([addrs.filter IpAddr.isV4, addrs.filter (!·.isV4)].filter (!·.isEmpty)).map
        (fun fam => some (joinAddrs fam)) := by
  simp [Scanner.findingsOf, h, families]

/-- Without addresses shown, one finding, with the canonical name when it is asked for and
known. -/
theorem findingsOf_of_not_showIps (sc : Scanner) (name : String) (addrs : List IpAddr)
    (h : sc.options.showIps = false) :
    ∃ r, sc.findingsOf name addrs = [r] ∧ ∀ cname, r.extra = some cname ↔
      sc.options.showCname = true ∧ sc.resolver.lookupCname name = .ok cname := by
  simp only [Scanner.findingsOf, h, Bool.false_eq_true, if_false]
  refine ⟨_, rfl, fun cname => ?_⟩
  cases sc.options.showCname <;> cases sc.resolver.lookupCname name <;> simp [eq_comm]

/-- Looking up a candidate's name, given a resolver that never finds a name without
addresses: the lookup fails exactly when the resolver fails to look up its addresses, with
the name and the reason, and gives nothing exactly when the name is not found. A found name
gives findings of that name with status zero. With addresses shown there is one per family
present, IPv4 first, each listing its family's addresses in the resolver's order, so each
address is listed once and in its own family; otherwise there is one, which carries the
canonical name exactly when that is asked for and known. Which names fail and which give
nothing is the same whatever is shown. -/
theorem lookup_outcomes (sc : Scanner) (c : Candidate) (hne : sc.resolver.NeverEmpty) :
    let name := if c.preResolved then c.value else c.value ++ "." ++ sc.options.url
    (∀ reason, sc.process c = .error (.resolve name reason) ↔
      sc.resolver.lookupHost name = .error (.failed reason)) ∧
    (∀ e, sc.process c = .error e → ∃ reason, e = .resolve name reason) ∧
    (sc.process c = .ok [] ↔ sc.resolver.lookupHost name = .error .notFound) ∧
    (∀ addrs, sc.resolver.lookupHost name = .ok addrs →
      ∃ rs, sc.process c = .ok rs ∧ rs ≠ [] ∧ (∀ r ∈ rs, r.entity = name ∧ r.status = 0) ∧
        (sc.options.showIps = true →
          let v4 := addrs.filter IpAddr.isV4
          let v6 := addrs.filter (!·.isV4)
          rs.map (·.extra) = ([v4, v6].filter (!·.isEmpty)).map (fun fam => some (joinAddrs fam)) ∧
          (v4 ++ v6).Perm addrs ∧ (∀ a ∈ v4, a.isV4 = true) ∧ ∀ a ∈ v6, a.isV4 = false) ∧
        (sc.options.showIps = false → ∃ r, rs = [r] ∧
          ∀ cname, r.extra = some cname ↔
            sc.options.showCname = true ∧ sc.resolver.lookupCname name = .ok cname)) ∧
    ∀ ips cname : Bool,
      let other : Scanner := { sc with options := { sc.options with showIps := ips, showCname := cname } }
      (∀ e, other.process c = .error e ↔ sc.process c = .error e) ∧
      (other.process c = .ok [] ↔ sc.process c = .ok []) := by
  intro name
  have hname : sc.hostname c = name := rfl
  refine ⟨fun reason => ?_, fun e he => ?_, ?_, fun addrs haddrs => ?_, fun ips cname => ?_⟩
  · rw [process_eq_error_iff, hname]
    simp
  · obtain ⟨reason, -, rfl⟩ := (process_eq_error_iff sc c e).mp he
    exact ⟨reason, rfl⟩
  · exact process_eq_nil_iff sc c hne
  -- a found name: the findings of its addresses
  · have hproc : sc.process c = .ok (sc.findingsOf name addrs) := by
      simp [Scanner.process, hname, haddrs]
    have hnil : addrs ≠ [] := fun hnil => hne name (hnil ▸ haddrs)
    refine ⟨_, hproc, findingsOf_ne_nil sc name hnil, process_ok_entity sc c _ hproc,
      fun hips => ⟨map_extra_findingsOf sc name addrs hips, List.filter_append_perm _ _,
        fun a ha => (List.mem_filter.mp ha).2,
        fun a ha => by simpa using (List.mem_filter.mp ha).2⟩,
      findingsOf_of_not_showIps sc name addrs⟩
  -- what is shown changes neither the name looked up nor the resolver
  · intro other
    have hne' : other.resolver.NeverEmpty := hne
    exact ⟨fun e => by rw [process_eq_error_iff, process_eq_error_iff]; rfl,
      by rw [process_eq_nil_iff other c hne', process_eq_nil_iff sc c hne]; rfl⟩

/-- A zone where `www.example.com` has an IPv4, an IPv6 and another IPv4 address: with
addresses shown, the word `www` gives two findings, the two IPv4 addresses first and in
their order, then the IPv6 one. -/
theorem lookup_outcomes_www :
    let v4a : IpAddr := .v4 ⟨0x01020304⟩
    let v4b : IpAddr := .v4 ⟨0x05060708⟩
    let v6 : IpAddr := .v6 ⟨[0x2001, 0xdb8, 0, 0, 0, 0, 0, 2]⟩
    let zone : Zone := { hosts := [("www.example.com", .ok [v4a, v6, v4b])] }
    let sc : Scanner :=
      { options := { mode := .dns, url := "example.com", showIps := true }, resolver := zone.resolver }
    sc.resolver.NeverEmpty ∧ ∃ rs, sc.process (Candidate.word "www") = .ok rs ∧
      rs.map (·.extra) = [some "1.2.3.4, 5.6.7.8", some "2001:db8::2"] := by
  intro v4a v4b v6 zone sc
  have hne : sc.resolver.NeverEmpty := resolver_neverEmpty zone
  have haddrs : sc.resolver.lookupHost "www.example.com" = .ok [v4a, v6, v4b] := by
    simp [sc, zone, Zone.resolver, tableEntry, found]
  obtain ⟨-, -, -, hfound, -⟩ := lookup_outcomes sc (Candidate.word "www") hne
  obtain ⟨rs, hrs, -, -, hips, -⟩ := hfound _ haddrs
  refine ⟨hne, rs, hrs, ?_⟩
  rw [(hips rfl).1]
  decide +kernel

end Discovery.Dns
