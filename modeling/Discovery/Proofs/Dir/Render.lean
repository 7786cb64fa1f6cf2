import Discovery.Proofs.Wildcard.Suppression
/-!
# The lines of a path finding

A path scanner renders a finding only once it knows the site's wildcard signature. The
verdict comes first: a finding that the signature of its scope takes for the wildcard at
the address that was asked for is a false positive; failing that, one with an excluded
status, or whose body holds the non-empty excluded text, is missed; every other one is
found (`verdict_cases`, `isExcluded_iff`). Rendering then follows the verdict alone
(`render_of_signature`): a found finding gets a shown line and an archive line, any other
one only a shown line and only when the scan is verbose. The shown line ends with the
address asked for and the redirect (`displayLine_eq`, `displayLine_parts`), and a verbose one
starts with the verdict; the archive line is never empty (`archiveLine_ne_empty`).

Main statement: `render_follows_verdict`.
-/

namespace Discovery.Dir

open Discovery.Text Discovery.Time Discovery.Wildcard

variable {sc : Scanner} {sig : Signature} {r : Finding} {now : DateTime}

/-- The three verdicts, each exactly when its test holds and the ones before it fail. -/
theorem verdict_cases (sc : Scanner) (sig : Signature) (r : Finding) :
    let fp := sig.isFalsePositive (Scope.of r.entity) r.status (r.content.getD "") (sc.probedUrl r)
    (sc.verdict sig r = .falsePositive ↔ fp = true) ∧
    (sc.verdict sig r = .missed ↔ fp = false ∧ sc.isExcluded r = true) ∧
    (sc.verdict sig r = .found ↔ fp = false ∧ sc.isExcluded r = false) := by
  intro fp
  unfold Scanner.verdict
  cases hfp : fp <;> cases sc.isExcluded r <;> simp [fp, hfp]

/-- A finding is excluded by its status or by the non-empty excluded text in its body. -/
theorem isExcluded_iff (sc : Scanner) (r : Finding) :
    sc.isExcluded r = true ↔ r.status ∈ sc.options.excludedStatusParsed ∨
      ∃ needle, sc.options.excludeString = some needle ∧ needle ≠ "" ∧
        contains (r.content.getD "") needle = true := by
  unfold Scanner.isExcluded
  cases sc.options.excludeString <;> simp

/-- With a signature, the rendered lines follow the verdict: both lines for a found finding,
the shown line alone for another one when the scan is verbose, and neither otherwise. -/
theorem render_of_signature (hs : sc.signature = some sig) :
    sc.render now r = .ok
      { display := if sc.verdict sig r = .found ∨ sc.options.verbose = true then
            sc.displayLine (sc.verdict sig r) now r else "",
        archive := if sc.verdict sig r = .found then archiveLine now r else "",
        status := r.status } := by
  unfold Scanner.render
  rw [hs]
  dsimp only
  by_cases hv : sc.verdict sig r = .found <;> cases hverb : sc.options.verbose <;> simp [hv]

theorem archiveLine_ne_empty (now : DateTime) (r : Finding) : archiveLine now r ≠ "" := by
  intro h
  have := congrArg String.length h
  simp [archiveLine, String.length_append] at this

/-- The shown line ends with the address that was asked for and the redirect. -/
theorem displayLine_eq (sc : Scanner) (v : Verdict) (now : DateTime) (r : Finding) :
    ∃ front, sc.displayLine v now r = front ++ sc.probedUrl r ++ redirectText r :=
  ⟨_, rfl⟩

/-- A verbose shown line starts with the verdict, padded to 16 characters. -/
theorem displayLine_of_verbose (hverb : sc.options.verbose = true) (v : Verdict) (now : DateTime)
    (r : Finding) :
    ∃ rest, sc.displayLine v now r = alignLeft 16 v.label ++ rest := by
  simp only [Scanner.displayLine, hverb, if_true, String.append_assoc]
  exact ⟨_, rfl⟩

theorem redirectText_of_some {t : String} (h : r.redirect = some t) (ht : t ≠ "") :
    redirectText r = "  ->  " ++ t := by
  simp [redirectText, h, String.isEmpty_iff, ht]

/-- A shown line holds the address that was asked for and, after it, a non-empty redirect. -/
theorem displayLine_parts (sc : Scanner) (v : Verdict) (now : DateTime) (r : Finding) :
    (∃ front back, sc.displayLine v now r = front ++ sc.probedUrl r ++ back) ∧
    ∀ t, r.redirect = some t → t ≠ "" → ∃ front, sc.displayLine v now r = front ++ t := by
  obtain ⟨front, hline⟩ := displayLine_eq sc v now r
  refine ⟨⟨front, redirectText r, hline⟩, fun t ht hne => ⟨front ++ sc.probedUrl r ++ "  ->  ", ?_⟩⟩
  rw [hline, redirectText_of_some ht hne]
  simp [String.append_assoc]

/-- The verdict and the archive line do not read whether the scan is verbose. -/
theorem verdict_verbose (v : Bool) :
    ({ sc with options := { sc.options with verbose := v } } : Scanner).verdict sig r =
      sc.verdict sig r := rfl

/-- Rendering fails exactly before calibration, and then with that error; once the scanner
has a signature, the finding is a false positive when the signature of its scope takes it
for the wildcard at the address asked for (the corpus address, or the base with the entity
after it), else missed when its status or body is excluded, else found. The rendered status
is the finding's. Only a found finding is archived; the shown line is there for a found one
and, when the scan is verbose, for every one: it then holds the address asked for and the
redirect, and a verbose one starts with the verdict. Turning verbose on or off changes
neither the verdict nor the archive line. -/
theorem render_follows_verdict (sc : Scanner) (now : DateTime) (r : Finding) :
    let probed := if r.isEntityUrl then r.entity else sc.options.url ++ r.entity
    let content := r.content.getD ""
    (∀ e, sc.render now r = .error e ↔ sc.signature = none ∧ e = .notCalibrated) ∧
    ∀ sig, sc.signature = some sig →
      let fp := sig.isFalsePositive (Scope.of r.entity) r.status content probed
      let excluded := r.status ∈ sc.options.excludedStatusParsed ∨
        ∃ needle, sc.options.excludeString = some needle ∧ needle ≠ "" ∧
          contains content needle = true
      (sc.verdict sig r = .falsePositive ↔ fp = true) ∧
      (sc.verdict sig r = .missed ↔ fp = false ∧ excluded) ∧
      (sc.verdict sig r = .found ↔ fp = false ∧ ¬ excluded) ∧
      ∃ rd, sc.render now r = .ok rd ∧ rd.status = r.status ∧
        (rd.archive ≠ "" ↔ sc.verdict sig r = .found) ∧
        (rd.display ≠ "" ↔ sc.verdict sig r = .found ∨ sc.options.verbose = true) ∧
        (rd.display ≠ "" → (∃ front back, rd.display = front ++ probed ++ back) ∧
          ∀ t, r.redirect = some t → t ≠ "" → ∃ front, rd.display = front ++ t) ∧
        (sc.options.verbose = true →
          ∃ rest, rd.display = alignLeft 16 (sc.verdict sig r).label ++ rest) ∧
        ∀ v : Bool,
          let quiet := ({ sc with options := { sc.options with verbose := v } } : Scanner)
          quiet.verdict sig r = sc.verdict sig r ∧
            ∃ rd', quiet.render now r = .ok rd' ∧ rd'.archive = rd.archive := by
  intro probed content
  refine ⟨fun e => ?_, fun sig hs => ?_⟩
  -- before calibration rendering fails, and only then
  · cases hs : sc.signature with
    | none => simp [Scanner.render, hs, eq_comm]
    | some sig => simp [render_of_signature hs]
  obtain ⟨hfp, hmiss, hfound⟩ := verdict_cases sc sig r
  have hex := isExcluded_iff sc r
  -- the address and body the verdict reads are the ones the statement names
  have hprobed : sc.probedUrl r = probed := rfl
  have hcontent : r.content.getD "" = content := rfl
  rw [hprobed, hcontent] at hfp hmiss hfound
  rw [hcontent] at hex
  refine ⟨hfp, ?_, ?_, _, render_of_signature hs, rfl, ?_, ?_, ?_, ?_, fun v => ?_⟩
  · rw [hmiss, hex]
  · rw [hfound, ← hex]
    simp
  -- the archive line is written for a found finding only, and is never empty
  · by_cases hv : sc.verdict sig r = .found <;> simp [hv, archiveLine_ne_empty]
  · by_cases hshown : sc.verdict sig r = .found ∨ sc.options.verbose = true <;>
      simp [hshown, displayLine_ne_empty]
  -- a shown line is the full line, which ends with the address and the redirect
  · intro hne
    have hshown : sc.verdict sig r = .found ∨ sc.options.verbose = true := by
      by_contra hno
      simp [hno] at hne
    simp only [hshown, if_true]
    exact displayLine_parts sc (sc.verdict sig r) now r
  · intro hverb
    obtain ⟨rest, hrest⟩ := displayLine_of_verbose hverb (sc.verdict sig r) now r
    exact ⟨rest, by simp [hverb, hrest]⟩
  · exact ⟨verdict_verbose v, _, render_of_signature hs, rfl⟩

/-- A verbose scan with an empty signature finds `admin`, moved to `admin/`: the finding is
archived, and its shown line starts with `FOUND` and ends with the address and the
redirect. -/
theorem render_follows_verdict_admin :
    let sc : Scanner := { options := { url := "http://h/", verbose := true }, signature := some {} }
    let r : Finding :=
      { entity := "admin", status := 301, content := some "moved", redirect := some "http://h/admin/" }
    sc.signature = some {} ∧ sc.verdict {} r = .found ∧
      ∃ rd, sc.render (DateTime.ofSeconds 0) r = .ok rd ∧ rd.archive ≠ "" ∧
        (∃ rest, rd.display = alignLeft 16 "FOUND" ++ rest) ∧
        ∃ front, rd.display = front ++ "http://h/admin/" := by
  intro sc r
  have hsig : sc.signature = some {} := rfl
  obtain ⟨-, -, hfound, rd, hrd, -, harch, hdisp, hshown, hlabel, -⟩ :=
    (render_follows_verdict sc (DateTime.ofSeconds 0) r).2 {} hsig
  have hv : sc.verdict {} r = .found := hfound.mpr ⟨by decide, by simp [sc]⟩
  have hne : rd.display ≠ "" := hdisp.mpr (.inl hv)
  refine ⟨hsig, hv, rd, hrd, harch.mpr hv, ?_, (hshown hne).2 "http://h/admin/" rfl (by decide)⟩
  obtain ⟨rest, hrest⟩ := hlabel rfl
  exact ⟨rest, by rw [hrest, hv]; rfl⟩

end Discovery.Dir
