import Discovery.Proofs.Wildcard.Template
import Discovery.Dir.Scanner
import Discovery.Target
import Discovery.Transport.Scripted
import Discovery.Wildcard.Token
/-!
# Soft 404 pages are suppressed

A site that answers every address it does not have with one page, under one status, is a
wildcard site, and the path scanner must not report what such a site gives for a word.
Calibration asks the site for its base and for four made-up names of hexadecimal digits,
and keeps for each scope what the two answers share: a title, a cut length, or only the
status. For a site that fills one template with the address it was asked for, the title
carries over to every address that starts like the base and has no `<`. The cut length
carries over only when cutting the address out of its page leaves the template's own
text, for the address and for the long made-up one: a page whose fixed text holds a copy
of the address loses that copy too, and is then reported (`echoed_word_is_reported`).

Main statement: `wildcard_suppresses_clean_lookalikes`: every word whose address is cut
cleanly out of its page is a false positive, never archived and shown only when verbose.
-/

namespace Discovery.Target

open Discovery.Text

theorem schemeOf_ok {u s : String} (h : schemeOf u = .ok s) :
    (s = "" ∧ startsWith u "http" = true) ∨ s = "http://" ∨ s = "https://" := by
  unfold schemeOf at h
  split at h
  · cases h
    exact .inl ⟨rfl, ‹_›⟩
  · split at h
    · cases h
      exact .inr (.inl rfl)
    · split at h <;> first | (cases h; simp) | cases h

/-- Every base address starts with `h`: with the `http` it had, or with the scheme it got. -/
theorem baseUrl_head {raw base : String} (h : baseUrl raw = .ok base) :
    base.toList.head? = some 'h' := by
  unfold baseUrl at h
  cases hs : schemeOf (withSlash raw) with
  | error e => rw [hs] at h; cases h
  | ok scheme =>
    rw [hs] at h
    cases h
    rcases schemeOf_ok hs with ⟨rfl, hhttp⟩ | rfl | rfl
    · simp only [startsWith, List.isPrefixOf_iff_prefix] at hhttp
      obtain ⟨rest, hrest⟩ := hhttp
      simp [← hrest]
    · simp [String.toList_append]
    · simp [String.toList_append]

end Discovery.Target

namespace Discovery.Wildcard

open Discovery.Text

/-! ## The made-up names -/

/-- The made-up names that calibration draws from four random numbers: long and short ones,
for files and for directories. -/
def Tokens.draw (r₁ r₂ r₃ r₄ : Nat) : Tokens :=
  ⟨token r₁ 16, token r₂ 8, token r₃ 15, token r₄ 7⟩

/-- The long and the short made-up address that calibration asks for in a scope. -/
def Tokens.probesOf (t : Tokens) (base : String) : Scope → String × String
  | .file => (base ++ t.fileLong, base ++ t.fileShort)
  | .directory => (base ++ t.directoryLong ++ "/", base ++ t.directoryShort ++ "/")

/-- Text that neither opens a tag nor is trimmed away at its end: no `<` and no blank. -/
def Plain (l : List Char) : Prop := l ≠ [] ∧ ∀ c ∈ l, c ≠ '<' ∧ isBlank c = false

theorem plain_lowerHexDigit : ∀ n < 16, lowerHexDigit n ≠ '<' ∧ isBlank (lowerHexDigit n) = false := by
  decide

theorem mem_hexDigits : ∀ (k r : Nat) {c : Char}, c ∈ hexDigits k r → ∃ n < 16, c = lowerHexDigit n
  | 0, _, _, h => by simp [hexDigits] at h
  | k + 1, r, c, h => by
    rw [hexDigits, List.mem_append, List.mem_singleton] at h
    rcases h with h | rfl
    · exact mem_hexDigits k (r / 16) h
    · exact ⟨r % 16, Nat.mod_lt _ (by decide), rfl⟩

theorem plain_token (r : Nat) {len : Nat} (hlen : 0 < len) : Plain (token r len).toList := by
  refine ⟨?_, fun c hc => ?_⟩
  · intro h
    have := congrArg List.length h
    rw [String.length_toList, length_token] at this
    simp at this
    omega
  · rw [token, String.toList_ofList] at hc
    obtain ⟨n, hn, rfl⟩ := mem_hexDigits 32 r (List.mem_of_mem_take hc)
    exact plain_lowerHexDigit n hn

theorem plain_append_slash {l : List Char} (hl : Plain l) : Plain (l ++ ['/']) := by
  refine ⟨by simp, fun c hc => ?_⟩
  rcases List.mem_append.mp hc with hc | hc
  · exact hl.2 c hc
  · rw [List.mem_singleton.mp hc]
    decide

/-! ## The made-up addresses -/

/-- Two made-up addresses of a scope, as carrying a signature over needs them: of different
lengths, and such that no tag meets them and trimming stops at them. -/
structure ProbePair (long short : String) : Prop where
  long_filling : Filling long.toList
  short_filling : Filling short.toList
  long_solid : Solid long.toList
  short_solid : Solid short.toList
  length_ne : long.length ≠ short.length

section Probes

variable {base : String}

theorem filling_append (hb : base.toList.head? = some 'h') (hno : '<' ∉ base.toList)
    {w : List Char} (hw : Plain w) : Filling (base.toList ++ w) := by
  refine ⟨?_, fun h => ?_⟩
  · obtain ⟨b, hb'⟩ := List.head?_eq_some_iff.mp hb
    simp [hb']
  · rcases List.mem_append.mp h with h | h
    · exact hno h
    · exact (hw.2 _ h).1 rfl

theorem solid_append (hb : base.toList.head? = some 'h') {w : List Char} (hw : Plain w) :
    Solid (base.toList ++ w) := by
  obtain ⟨b, hb'⟩ := List.head?_eq_some_iff.mp hb
  obtain ⟨c, hc⟩ := List.exists_mem_of_ne_nil w hw.1
  refine ⟨⟨'h', by simp [hb'], by decide⟩, ?_⟩
  obtain ⟨d, hd⟩ := List.getLast?_isSome.mpr hw.1 |> Option.isSome_iff_exists.mp
  refine ⟨d, by rw [List.getLast?_append, hd]; rfl, (hw.2 d (List.mem_of_getLast? hd)).2⟩

theorem ne_of_length_lt {s t : String} (h : s.length < t.length) : t ≠ s :=
  fun heq => by rw [heq] at h; exact lt_irrefl _ h

/-- The made-up addresses that calibration draws differ from the base: they are longer. -/
theorem probesOf_draw_ne (r₁ r₂ r₃ r₄ : Nat) (scope : Scope) :
    ((Tokens.draw r₁ r₂ r₃ r₄).probesOf base scope).1 ≠ base ∧
      ((Tokens.draw r₁ r₂ r₃ r₄).probesOf base scope).2 ≠ base := by
  have hslash : "/".length = 1 := rfl
  cases scope <;>
  · simp only [Tokens.probesOf, Tokens.draw]
    exact ⟨ne_of_length_lt (by simp [String.length_append, length_token, hslash]),
      ne_of_length_lt (by simp [String.length_append, length_token, hslash])⟩

/-- The base followed by two plain names of different lengths. -/
theorem probePair_append (hb : base.toList.head? = some 'h') (hno : '<' ∉ base.toList)
    {l s : String} (hl : Plain l.toList) (hs : Plain s.toList) (hlen : l.length ≠ s.length) :
    ProbePair (base ++ l) (base ++ s) where
  long_filling := by rw [String.toList_append]; exact filling_append hb hno hl
  short_filling := by rw [String.toList_append]; exact filling_append hb hno hs
  long_solid := by rw [String.toList_append]; exact solid_append hb hl
  short_solid := by rw [String.toList_append]; exact solid_append hb hs
  length_ne := by simpa [String.length_append] using hlen

/-- The made-up addresses that calibration draws are as carrying a signature over needs
them, in each scope, for a base without `<`. -/
theorem probePair_draw (hb : base.toList.head? = some 'h') (hno : '<' ∉ base.toList)
    (r₁ r₂ r₃ r₄ : Nat) (scope : Scope) :
    ProbePair ((Tokens.draw r₁ r₂ r₃ r₄).probesOf base scope).1
      ((Tokens.draw r₁ r₂ r₃ r₄).probesOf base scope).2 := by
  cases scope with
  | file =>
    exact probePair_append hb hno (plain_token _ (by decide)) (plain_token _ (by decide))
      (by simp [Tokens.draw, length_token])
  | directory =>
    -- a directory name is a token and a slash
    have hslash : "/".length = 1 := rfl
    have hs : ∀ r len, 0 < len → Plain (token r len ++ "/").toList := fun r len h => by
      rw [String.toList_append]
      exact plain_append_slash (plain_token r h)
    simp only [Tokens.probesOf, Tokens.draw, String.append_assoc]
    exact probePair_append hb hno (hs _ _ (by decide)) (hs _ _ (by decide))
      (by simp [String.length_append, length_token, hslash])

end Probes

/-! ## Calibrating against a template site -/

/-- A site that answers its base address, and every other address with one template filled
with that address, under one status. -/
structure ServesTemplate {σ : Type} (t : Transport σ) (base : String) (code : Nat)
    (T : Template) : Prop where
  answers_base : ∀ s, ∃ rp, (t base s).1 = .ok rp
  answers_other : ∀ url s, url ≠ base → ∃ rp, (t url s).1 = .ok rp ∧ rp.status = code ∧
    rp.body = T.fill url

/-- The signature that calibration finds for a scope of a template site, from its long and
its short made-up address. -/
def templateSignature (code : Nat) (T : Template) (long short : String) : ScopeSignature :=
  ⟨code, discriminate (Sample.of long code (T.fill long)) (Sample.of short code (T.fill short))⟩

/-- The signatures that calibration finds on a template site with these made-up names. -/
def templateSignatures (code : Nat) (T : Template) (tokens : Tokens) (base : String) :
    Signature :=
  ⟨some (templateSignature code T (tokens.probesOf base .file).1 (tokens.probesOf base .file).2),
    some (templateSignature code T (tokens.probesOf base .directory).1
      (tokens.probesOf base .directory).2)⟩

theorem templateSignatures_scope (code : Nat) (T : Template) (tokens : Tokens) (base : String)
    (scope : Scope) :
    (templateSignatures code T tokens base).scope scope =
      some (templateSignature code T (tokens.probesOf base scope).1
        (tokens.probesOf base scope).2) := by
  cases scope <;> rfl

section Serves

variable {σ : Type} {t : Transport σ} {base : String} {code : Nat} {T : Template}

theorem sample_of_serves (h : ServesTemplate t base code T) {url : String} (hurl : url ≠ base)
    (s : σ) : ∃ s', sample t url s = (.ok (Sample.of url code (T.fill url)), s') := by
  obtain ⟨rp, hrp, hst, hbody⟩ := h.answers_other url s hurl
  have hts : t url s = (.ok rp, (t url s).2) := Prod.ext hrp rfl
  unfold sample
  rw [hts]
  exact ⟨(t url s).2, by simp [hst, hbody]⟩

theorem calibrateScope_of_serves (h : ServesTemplate t base code T) {long short : String}
    (hl : long ≠ base) (hs : short ≠ base) (s : σ) :
    ∃ s', calibrateScope t long short s = (.ok (some (templateSignature code T long short)), s') := by
  obtain ⟨s₁, h₁⟩ := sample_of_serves h hl s
  obtain ⟨s₂, h₂⟩ := sample_of_serves h hs s₁
  refine ⟨s₂, ?_⟩
  simp [calibrateScope, h₁, h₂, classify, Sample.of, templateSignature]

/-- Calibration against a template site finds, in each scope, the signature of its two
made-up addresses. -/
theorem calibrate_of_serves (h : ServesTemplate t base code T) (tokens : Tokens)
    (hne : ∀ scope, (tokens.probesOf base scope).1 ≠ base ∧ (tokens.probesOf base scope).2 ≠ base)
    (s : σ) :
    ∃ s', calibrate t tokens base s = (.ok (templateSignatures code T tokens base), s') := by
  obtain ⟨rp, hrp⟩ := h.answers_base s
  have hts : t base s = (.ok rp, (t base s).2) := Prod.ext hrp rfl
  obtain ⟨s₁, h₁⟩ := calibrateScope_of_serves h (hne .file).1 (hne .file).2 (t base s).2
  obtain ⟨s₂, h₂⟩ := calibrateScope_of_serves h (hne .directory).1 (hne .directory).2 s₁
  simp only [Tokens.probesOf] at h₁ h₂
  unfold calibrate
  rw [hts]
  exact ⟨s₂, by simp [h₁, h₂, templateSignatures, Tokens.probesOf]⟩

end Serves

/-- Under the signature of a scope of a template site, the page of an address that no tag
meets is the wildcard's, when the address and the long made-up address are both cut
cleanly out of their pages. -/
theorem templateSignature_matches (code : Nat) {T : Template} {long short u : String}
    (hp : ProbePair long short) (hu : Filling u.toList) (hu0 : u ≠ "")
    (hcl : T.CutsCleanly long) (hcu : T.CutsCleanly u) :
    (templateSignature code T long short).matches code (T.fill u) u = true := by
  have hl0 : long ≠ "" := fun h => by simpa [h] using hp.long_filling.head
  simp only [templateSignature, discriminate, ScopeSignature.matches, beq_self_eq_true,
    Bool.true_and]
  cases hsh : sharedTitle? (Sample.of long code (T.fill long)).title
      (Sample.of short code (T.fill short)).title with
  | some t =>
    -- a shared title has no hole in it, so the page of `u` has it too
    obtain ⟨h₁, h₂⟩ := sharedTitle?_eq_some hsh
    simp only [Sample.of] at h₁ h₂
    simp [title?_fill_of_shared hp.long_filling hp.short_filling hp.long_solid hp.short_solid
      hu hp.length_ne h₁ h₂]
  | none =>
    by_cases hlen : (Sample.of long code (T.fill long)).strippedLength =
        (Sample.of short code (T.fill short)).strippedLength
    · -- both pages are cut down to the template's own text
      dsimp only
      rw [if_pos hlen]
      simp [Sample.of, strippedLength_fill hcl hl0, strippedLength_fill hcu hu0]
    · dsimp only
      rw [if_neg hlen]

end Discovery.Wildcard

namespace Discovery.Dir

open Discovery.Text Discovery.Wildcard

/-! ## The verdict on a word -/

theorem target_snd {sc : Scanner} {c : Candidate} (hc : c.preResolved = false) :
    (sc.target c).2 = sc.options.url ++ (sc.target c).1 := by
  simp [Scanner.target, hc]

theorem displayLine_ne_empty (sc : Scanner) (v : Verdict) (now : Time.DateTime) (r : Finding) :
    sc.displayLine v now r ≠ "" := by
  intro h
  have := congrArg String.length h
  simp [Scanner.displayLine, String.length_append] at this

/-- What probing a candidate gives when the site answers its address. -/
theorem process_of_reply {σ : Type} {t : Transport σ} (sc : Scanner) {c : Candidate} {s s' : σ}
    {rp : Reply} (h : t (sc.target c).2 s = (.ok rp, s')) :
    sc.process t c s =
      (.ok [{ entity := (sc.target c).1, status := rp.status, size := rp.size,
              content := some rp.body, isEntityUrl := c.preResolved,
              redirect := rp.redirect }], s') := by
  unfold Scanner.process
  cases htg : sc.target c with
  | mk entity url =>
    rw [htg] at h
    simp [h]

/-- A false positive is never archived, and it is shown only when the scan is verbose. -/
theorem render_falsePositive {sc : Scanner} {sig : Signature} {r : Finding} (now : Time.DateTime)
    (hs : sc.signature = some sig) (hv : sc.verdict sig r = .falsePositive) :
    ∃ rd, sc.render now r = .ok rd ∧ rd.archive = "" ∧
      (rd.display = "" ↔ sc.options.verbose = false) := by
  unfold Scanner.render
  rw [hs]
  dsimp only
  rw [hv]
  cases hverb : sc.options.verbose
  · simp
  · simp [displayLine_ne_empty]

/-- On a site that fills one template with every address but its base, calibrated with
drawn names, every word whose address has no `<` and is cut cleanly out of its page, as is
the long made-up address of its scope, is a false positive: shown only when the scan is
verbose, and never archived. -/
theorem wildcard_suppresses_clean_lookalikes {σ : Type} (t : Transport σ) (o : Options)
    (raw : String) (hbase : Target.baseUrl raw = .ok o.url) (code : Nat) (T : Template)
    (hsite : ServesTemplate t o.url code T) (r₁ r₂ r₃ r₄ : Nat) (s : σ) :
    ∃ sc s', ({ options := o } : Scanner).setup t (Tokens.draw r₁ r₂ r₃ r₄) s = (.ok sc, s') ∧
      ∀ (c : Candidate) (s₁ : σ) (now : Time.DateTime), c.preResolved = false →
        let target := ({ options := o } : Scanner).target c
        target.2 ≠ o.url → '<' ∉ target.2.toList → T.CutsCleanly target.2 →
        T.CutsCleanly ((Tokens.draw r₁ r₂ r₃ r₄).probesOf o.url (Scope.of target.1)).1 →
        ∃ r s₂ rd, sc.process t c s₁ = (.ok [r], s₂) ∧ sc.render now r = .ok rd ∧
          (∃ sig, sc.signature = some sig ∧ sc.verdict sig r = .falsePositive) ∧
          rd.archive = "" ∧ (rd.display = "" ↔ o.verbose = false) := by
  have hb := Target.baseUrl_head hbase
  let sig := templateSignatures code T (Tokens.draw r₁ r₂ r₃ r₄) o.url
  obtain ⟨s', hcal⟩ := calibrate_of_serves hsite (Tokens.draw r₁ r₂ r₃ r₄)
    (probesOf_draw_ne r₁ r₂ r₃ r₄) s
  refine ⟨{ options := o, signature := some sig }, s', by simp [Scanner.setup, hcal, sig], ?_⟩
  intro c s₁ now hc target hne hlt hcu hcl
  -- the address is the base with the entity after it, and no tag meets it
  have hu : target.2 = o.url ++ target.1 := target_snd hc
  have hno : '<' ∉ o.url.toList := fun h =>
    hlt (by rw [hu, String.toList_append]; exact List.mem_append_left _ h)
  have hfill : Filling target.2.toList := by
    refine ⟨?_, hlt⟩
    obtain ⟨b, hb'⟩ := List.head?_eq_some_iff.mp hb
    rw [hu, String.toList_append, hb']
    rfl
  have hne0 : target.2 ≠ "" := fun h => by
    have := hfill.head
    rw [h] at this
    simp at this
  -- the site answers with the template filled with the address
  obtain ⟨rp, hrp, hst, hbody⟩ := hsite.answers_other target.2 s₁ hne
  have hts : t target.2 s₁ = (.ok rp, (t target.2 s₁).2) := Prod.ext hrp rfl
  have hproc := process_of_reply { options := o, signature := some sig } hts
  have hv : Scanner.verdict { options := o, signature := some sig } sig
      { entity := target.1, status := rp.status, size := rp.size, content := some rp.body,
        isEntityUrl := c.preResolved, redirect := rp.redirect } = .falsePositive := by
    have hm := templateSignature_matches code (probePair_draw hb hno r₁ r₂ r₃ r₄
      (Scope.of target.1)) hfill hne0 hcl hcu
    simp only [Scanner.verdict, Signature.isFalsePositive, templateSignatures_scope, sig,
      Scanner.probedUrl, hc, hst, hbody, Option.getD_some]
    rw [if_pos]
    rw [← hu]
    exact hm
  obtain ⟨rd, hrd, harch, hdisp⟩ := render_falsePositive now rfl hv
  exact ⟨_, _, rd, hproc, hrd, ⟨sig, rfl, hv⟩, harch, hdisp⟩

/-- A site that tells every address but its base that it does not exist: the word `admin`
is a false positive, neither shown nor archived. -/
theorem wildcard_suppresses_clean_lookalikes_admin :
    let T : Template := ⟨["Sorry, ", " does not exist."]⟩
    let site : Transport Unit := fun url s =>
      (.ok (if url = "http://h/" then { status := 200 } else { status := 200, body := T.fill url }), s)
    let o : Options := { url := "http://h/" }
    ∃ sc, (({ options := o } : Scanner).setup site (Tokens.draw 1 2 3 4) ()).1 = .ok sc ∧
      ∃ r rd, (sc.process site (.word "admin") ()).1 = .ok [r] ∧
        sc.render ⟨1970, 1, 1, 0, 0, 0⟩ r = .ok rd ∧ rd.display = "" ∧ rd.archive = "" := by
  intro T site o
  have hsite : ServesTemplate site o.url 200 T :=
    ⟨fun _ => ⟨_, rfl⟩, fun url _ h =>
      ⟨{ status := 200, body := T.fill url }, by simp [site, show url ≠ "http://h/" from h], rfl,
        rfl⟩⟩
  obtain ⟨sc, _, hsetup, hall⟩ := wildcard_suppresses_clean_lookalikes site o "http://h/"
    (by decide +kernel) 200 T hsite 1 2 3 4 ()
  obtain ⟨r, _, rd, hproc, hrd, -, harch, hdisp⟩ := hall (.word "admin") () ⟨1970, 1, 1, 0, 0, 0⟩
    rfl (by decide +kernel) (by decide +kernel)
    (by unfold Template.CutsCleanly; decide +kernel) (by unfold Template.CutsCleanly; decide +kernel)
  exact ⟨sc, by rw [hsetup], r, rd, by rw [hproc], hrd, hdisp.mpr rfl, harch⟩

/-- A page whose fixed text already holds the address of the word `zzz`: cutting the address
out of the page takes that copy too, the cut length no longer matches the signature's, and
the word is found. -/
theorem echoed_word_is_reported :
    let site : Transport.Site :=
      { fallback := .reply 200 "see http://h/zzz and \x7burl\x7d" .counted none false }
    let o : Options := { url := "http://h/", wordlist := "-" }
    ∃ sc site₁, ({ options := o } : Scanner).setup Transport.Site.answer (Tokens.draw 1 2 3 4) site =
        (.ok sc, site₁) ∧
      ∃ r site₂ sig, sc.process Transport.Site.answer (.word "zzz") site₁ = (.ok [r], site₂) ∧
        sc.signature = some sig ∧ sc.verdict sig r = .found ∧
        ¬ (⟨["see http://h/zzz and ", ""]⟩ : Template).CutsCleanly "http://h/zzz" := by
  intro site o
  refine ⟨_, _, rfl, _, _, _, rfl, rfl, by decide +kernel, ?_⟩
  unfold Template.CutsCleanly
  decide +kernel

end Discovery.Dir
