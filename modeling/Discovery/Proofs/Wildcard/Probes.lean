import Discovery.Proofs.Wildcard.Calibration
/-!
# Calibration asks in order and stops at the first failure

Calibration asks the site for five addresses, in this order: the base, the long and the
short made-up file name, the long and the short made-up directory name. Asking a list of
addresses in turn either gets every one answered or meets a first failure
(`askAll_first_failure`). Calibration stops right there: it fails with the address that
failed and the transport's reason, and leaves the transport as it was right after that
request (`calibrate_of_failure`); when every probe is answered it classifies each scope from
its two answers (`calibrate_of_answered`). A scripted site logs every address it is asked
for (`askAll_answer_log`), so calibrating against it logs the probes up to the failing one,
or all five (`calibrate_answer_log`). The path scanner fails its setup as calibration fails
and otherwise keeps the signature calibration found (`setup_outcome`).

The made-up names are drawn as lowercase hexadecimal of 16, 8, 15 and 7 digits
(`draw_names`).

Main statement: `calibration_probes_in_order`.
-/

namespace Discovery.Wildcard

open Discovery.Transport

section Asking

variable {σ : Type} {t : Transport σ}

theorem askAll_cons_eq {url : String} {rest : List String} {s s' : σ}
    {r : Except TransportError Reply} {rs : List (Except TransportError Reply)}
    (h : askAll t (url :: rest) s = (r :: rs, s')) :
    ∃ s₁, t url s = (r, s₁) ∧ askAll t rest s₁ = (rs, s') := by
  simp only [askAll, Prod.mk.injEq, List.cons.injEq] at h
  obtain ⟨⟨hr, hrs⟩, hs⟩ := h
  exact ⟨(t url s).2, by rw [← hr], by rw [← hrs, ← hs]⟩

theorem askAll_nil_ok {s s₁ : σ} {answers : List Reply}
    (h : askAll t [] s = (answers.map .ok, s₁)) : s₁ = s := by
  simp only [askAll, Prod.mk.injEq] at h
  exact h.2.symm

/-- When every address was answered, so was the first, and then every other. -/
theorem askAll_cons_ok {url : String} {rest : List String} {s s₁ : σ} {answers : List Reply}
    (h : askAll t (url :: rest) s = (answers.map .ok, s₁)) :
    ∃ a s', t url s = (.ok a, s') ∧ ∃ answers' : List Reply,
      askAll t rest s' = (answers'.map .ok, s₁) := by
  cases answers with
  | nil => simp [askAll] at h
  | cons a answers =>
    obtain ⟨s', hfirst, hrest⟩ := askAll_cons_eq h
    exact ⟨a, s', hfirst, answers, hrest⟩

/-- Asking in turn either gets every address answered or meets a first failure, after the
addresses before it were answered. -/
theorem askAll_first_failure (t : Transport σ) : ∀ (urls : List String) (s : σ),
    (∃ (answers : List Reply) (s' : σ), askAll t urls s = (answers.map .ok, s')) ∨
    ∃ (pre : List String) (url : String) (post : List String) (answers : List Reply)
      (e : TransportError) (s₁ s₂ : σ), urls = pre ++ url :: post ∧
      askAll t pre s = (answers.map .ok, s₁) ∧ t url s₁ = (.error e, s₂)
  | [], s => .inl ⟨[], s, rfl⟩
  | url :: rest, s => by
    cases h : t url s with
    | mk r s₁ =>
      cases r with
      | error e => exact .inr ⟨[], url, rest, [], e, s, s₁, rfl, rfl, h⟩
      | ok a =>
        rcases askAll_first_failure t rest s₁ with
          ⟨answers, s', hrest⟩ | ⟨pre, bad, post, answers, e, s₂, s₃, rfl, hpre, hbad⟩
        · exact .inl ⟨a :: answers, s', by rw [askAll_cons _ _ _ h, hrest]; rfl⟩
        · exact .inr ⟨url :: pre, bad, post, a :: answers, e, s₂, s₃, rfl,
            by rw [askAll_cons _ _ _ h, hpre]; rfl, hbad⟩

theorem sample_of_error {url : String} {s s' : σ} {e : TransportError}
    (h : t url s = (.error e, s')) :
    sample t url s = (.error (.connectivity url e.message), s') := by
  simp [sample, h]

theorem sample_of_ok {url : String} {s s' : σ} {a : Reply} (h : t url s = (.ok a, s')) :
    sample t url s = (.ok (Sample.of url a.status a.body), s') := by
  simp [sample, h]

theorem calibrateScope_of_long_error {long short : String} {s s' : σ} {e : TransportError}
    (h : t long s = (.error e, s')) :
    calibrateScope t long short s = (.error (.connectivity long e.message), s') := by
  simp [calibrateScope, sample_of_error h]

theorem calibrateScope_of_short_error {long short : String} {s s₁ s' : σ} {a : Reply}
    {e : TransportError} (hl : t long s = (.ok a, s₁)) (hs : t short s₁ = (.error e, s')) :
    calibrateScope t long short s = (.error (.connectivity short e.message), s') := by
  simp [calibrateScope, sample_of_ok hl, sample_of_error hs]

theorem calibrateScope_of_ok {long short : String} {s s₁ s' : σ} {a b : Reply}
    (hl : t long s = (.ok a, s₁)) (hs : t short s₁ = (.ok b, s')) :
    calibrateScope t long short s =
      (.ok (classify (Sample.of long a.status a.body) (Sample.of short b.status b.body)), s') := by
  simp [calibrateScope, sample_of_ok hl, sample_of_ok hs]

variable {tokens : Tokens} {base : String}

/-- A probe that fails after the ones before it were answered ends calibration with that
probe's address and the transport's reason, right after that request. -/
theorem calibrate_of_failure {s s₁ s₂ : σ} {pre post : List String} {url : String}
    {answers : List Reply} {e : TransportError}
    (hsplit : tokens.probes base = pre ++ url :: post)
    (hpre : askAll t pre s = (answers.map .ok, s₁)) (hfail : t url s₁ = (.error e, s₂)) :
    calibrate t tokens base s = (.error (.connectivity url e.message), s₂) := by
  rw [Tokens.probes] at hsplit
  -- the failing probe is one of the five; the ones before it were answered in turn
  rcases pre with _ | ⟨_, _ | ⟨_, _ | ⟨_, _ | ⟨_, _ | ⟨_, _⟩⟩⟩⟩⟩
  · obtain ⟨rfl, -⟩ := List.cons.inj hsplit
    obtain rfl := askAll_nil_ok hpre
    simp [calibrate, hfail]
  · obtain ⟨rfl, rfl, -⟩ : _ ∧ _ ∧ _ := by simpa using hsplit
    obtain ⟨_, _, h₀, _, hpre⟩ := askAll_cons_ok hpre
    obtain rfl := askAll_nil_ok hpre
    simp [calibrate, h₀, calibrateScope_of_long_error hfail]
  · obtain ⟨rfl, rfl, rfl, -⟩ : _ ∧ _ ∧ _ ∧ _ := by simpa using hsplit
    obtain ⟨_, _, h₀, _, hpre⟩ := askAll_cons_ok hpre
    obtain ⟨_, _, h₁, _, hpre⟩ := askAll_cons_ok hpre
    obtain rfl := askAll_nil_ok hpre
    simp [calibrate, h₀, calibrateScope_of_short_error h₁ hfail]
  · obtain ⟨rfl, rfl, rfl, rfl, -⟩ : _ ∧ _ ∧ _ ∧ _ ∧ _ := by simpa using hsplit
    obtain ⟨_, _, h₀, _, hpre⟩ := askAll_cons_ok hpre
    obtain ⟨_, _, h₁, _, hpre⟩ := askAll_cons_ok hpre
    obtain ⟨_, _, h₂, _, hpre⟩ := askAll_cons_ok hpre
    obtain rfl := askAll_nil_ok hpre
    simp [calibrate, h₀, calibrateScope_of_ok h₁ h₂, calibrateScope_of_long_error hfail]
  · obtain ⟨rfl, rfl, rfl, rfl, rfl, -⟩ : _ ∧ _ ∧ _ ∧ _ ∧ _ ∧ _ := by
      simpa using hsplit
    obtain ⟨_, _, h₀, _, hpre⟩ := askAll_cons_ok hpre
    obtain ⟨_, _, h₁, _, hpre⟩ := askAll_cons_ok hpre
    obtain ⟨_, _, h₂, _, hpre⟩ := askAll_cons_ok hpre
    obtain ⟨_, _, h₃, _, hpre⟩ := askAll_cons_ok hpre
    obtain rfl := askAll_nil_ok hpre
    simp [calibrate, h₀, calibrateScope_of_ok h₁ h₂, calibrateScope_of_short_error h₃ hfail]
  · -- there are only five probes
    have := congrArg List.length hsplit
    simp at this

/-- When all five probes are answered, each scope is classified from its two answers. -/
theorem calibrate_of_answered {s s' : σ} {a₀ a₁ a₂ a₃ a₄ : Reply}
    (h : askAll t (tokens.probes base) s =
      ([.ok a₀, .ok a₁, .ok a₂, .ok a₃, .ok a₄], s')) :
    calibrate t tokens base s =
      (.ok ⟨classify (Sample.of (base ++ tokens.fileLong) a₁.status a₁.body)
          (Sample.of (base ++ tokens.fileShort) a₂.status a₂.body),
        classify (Sample.of (base ++ tokens.directoryLong ++ "/") a₃.status a₃.body)
          (Sample.of (base ++ tokens.directoryShort ++ "/") a₄.status a₄.body)⟩, s') := by
  obtain ⟨_, h₀, h⟩ := askAll_cons_eq h
  obtain ⟨_, h₁, h⟩ := askAll_cons_eq h
  obtain ⟨_, h₂, h⟩ := askAll_cons_eq h
  obtain ⟨_, h₃, h⟩ := askAll_cons_eq h
  obtain ⟨_, h₄, h⟩ := askAll_cons_eq h
  simp only [askAll, Prod.mk.injEq] at h
  obtain ⟨-, rfl⟩ := h
  simp [calibrate, h₀, calibrateScope_of_ok h₁ h₂, calibrateScope_of_ok h₃ h₄]

/-- When every probe is answered, calibration succeeds in the state after the last one. -/
theorem calibrate_of_all_answered {s s' : σ} {answers : List Reply}
    (h : askAll t (tokens.probes base) s = (answers.map .ok, s')) :
    ∃ sig, calibrate t tokens base s = (.ok sig, s') := by
  rw [Tokens.probes] at h
  obtain ⟨_, _, h₀, _, h⟩ := askAll_cons_ok h
  obtain ⟨_, _, h₁, _, h⟩ := askAll_cons_ok h
  obtain ⟨_, _, h₂, _, h⟩ := askAll_cons_ok h
  obtain ⟨_, _, h₃, _, h⟩ := askAll_cons_ok h
  obtain ⟨_, _, h₄, _, h⟩ := askAll_cons_ok h
  obtain rfl := askAll_nil_ok h
  simp [calibrate, h₀, calibrateScope_of_ok h₁ h₂, calibrateScope_of_ok h₃ h₄]

end Asking

/-- A scripted site logs every address it was asked for, in order. -/
theorem askAll_answer_log : ∀ (urls : List String) (site : Site),
    (askAll Site.answer urls site).2.log = site.log ++ urls
  | [], _ => by simp [askAll]
  | url :: rest, site => by simp [askAll, askAll_answer_log rest, answer_log]

/-- Calibrating against a scripted site logs the probes up to the first failing one, which is
the last it logs, or all five. -/
theorem calibrate_answer_log (tokens : Tokens) (base : String) (site : Site) :
    let probes := tokens.probes base
    ∃ n ≤ 5, (calibrate Site.answer tokens base site).2.log = site.log ++ probes.take n ∧
      ((∃ sig, (calibrate Site.answer tokens base site).1 = .ok sig) → n = 5) ∧
      ∀ url reason,
        (calibrate Site.answer tokens base site).1 = .error (.connectivity url reason) →
        (probes.take n).getLast? = some url := by
  intro probes
  rcases askAll_first_failure Site.answer probes site with
    ⟨answers, s', hall⟩ | ⟨pre, url, post, answers, e, s₁, s₂, hsplit, hpre, hfail⟩
  -- every probe answered: all five are logged and calibration succeeds
  · obtain ⟨sig, hsig⟩ := calibrate_of_all_answered hall
    have hlog := askAll_answer_log probes site
    rw [hall] at hlog
    refine ⟨5, le_rfl, ?_, fun _ => rfl, fun url reason herr => ?_⟩
    · rw [hsig, List.take_of_length_le (by simp [probes, Tokens.probes])]
      exact hlog
    · rw [hsig] at herr
      cases herr
  -- a first failure: the probes before it and the failing one are logged
  · have hcal := calibrate_of_failure hsplit hpre hfail
    have hlog := askAll_answer_log pre site
    rw [hpre] at hlog
    have hanswer := answer_log s₁ url
    rw [hfail] at hanswer
    have hlen : pre.length < 5 := by
      have := congrArg List.length hsplit
      simp [probes, Tokens.probes] at this
      omega
    have htake : probes.take (pre.length + 1) = pre ++ [url] := by
      rw [hsplit, List.take_length_add_append]
      rfl
    refine ⟨pre.length + 1, hlen, ?_, fun hok => ?_, fun url' reason herr => ?_⟩
    · rw [hcal, htake]
      dsimp only at hanswer hlog ⊢
      rw [hanswer, hlog, List.append_assoc]
    · obtain ⟨sig, hsig⟩ := hok
      rw [hcal] at hsig
      cases hsig
    · rw [hcal] at herr
      cases herr
      simp [htake]

/-- Setup fails exactly as calibration against the scanner's base does, giving no scanner;
otherwise it gives the scanner with the signature calibration found. -/
theorem setup_outcome {σ : Type} (t : Transport σ) (tokens : Tokens) (sc : Dir.Scanner) (s : σ) :
    let cal := calibrate t tokens sc.options.url s
    (sc.setup t tokens s).2 = cal.2 ∧
    (∀ e, (sc.setup t tokens s).1 = .error e ↔ cal.1 = .error e) ∧
    ∀ sc', (sc.setup t tokens s).1 = .ok sc' ↔
      ∃ sig, cal.1 = .ok sig ∧ sc' = { sc with signature := some sig } := by
  intro cal
  unfold Dir.Scanner.setup
  cases hcal : calibrate t tokens sc.options.url s with
  | mk r s' => cases r <;> simp [cal, hcal, eq_comm]

/-- The made-up names are lowercase hexadecimal of 16, 8, 15 and 7 digits. -/
theorem draw_names (r₁ r₂ r₃ r₄ : Nat) :
    let tokens := Tokens.draw r₁ r₂ r₃ r₄
    [tokens.fileLong.length, tokens.fileShort.length, tokens.directoryLong.length,
      tokens.directoryShort.length] = [16, 8, 15, 7] ∧
    ∀ name ∈ [tokens.fileLong, tokens.fileShort, tokens.directoryLong, tokens.directoryShort],
      ∀ c ∈ name.toList, c ∈ "0123456789abcdef".toList := by
  refine ⟨by simp [Tokens.draw, length_token], fun name hname c hc => ?_⟩
  have hdigit : ∀ n < 16, lowerHexDigit n ∈ "0123456789abcdef".toList := by decide
  simp only [Tokens.draw, List.mem_cons, List.not_mem_nil, or_false] at hname
  rcases hname with rfl | rfl | rfl | rfl <;>
  · rw [token, String.toList_ofList] at hc
    obtain ⟨n, hn, rfl⟩ := mem_hexDigits 32 _ (List.mem_of_mem_take hc)
    exact hdigit n hn

/-- Calibration with drawn names against any site asks for the base, then the long and the
short file name, then the long and the short directory name, each after the base; the names
are lowercase hexadecimal of 16, 8, 15 and 7 digits. When a probe fails after the ones
before it were answered, calibration fails with that probe's address and the transport's
reason and asks nothing more; when all are answered, each scope is classified from its two
answers. A scripted site's log therefore grows by the probes up to the failing one, which is
the last it logs, or by all five. The path scanner's setup calibrates against its base: it
fails exactly as calibration does, giving no scanner, so the one it was given keeps the
signature it had; it succeeds exactly when calibration does, with the same scanner but for
the signature. -/
theorem calibration_probes_in_order {σ : Type} (t : Transport σ) (base : String)
    (r₁ r₂ r₃ r₄ : Nat) (s : σ) :
    let tokens := Tokens.draw r₁ r₂ r₃ r₄
    let probes := [base, base ++ tokens.fileLong, base ++ tokens.fileShort,
      base ++ tokens.directoryLong ++ "/", base ++ tokens.directoryShort ++ "/"]
    tokens.probes base = probes ∧
    [tokens.fileLong.length, tokens.fileShort.length, tokens.directoryLong.length,
      tokens.directoryShort.length] = [16, 8, 15, 7] ∧
    (∀ name ∈ [tokens.fileLong, tokens.fileShort, tokens.directoryLong, tokens.directoryShort],
      ∀ c ∈ name.toList, c ∈ "0123456789abcdef".toList) ∧
    (∀ pre url post (answers : List Reply) (e : TransportError) (s₁ s₂ : σ),
      probes = pre ++ url :: post → askAll t pre s = (answers.map .ok, s₁) →
      t url s₁ = (.error e, s₂) →
      calibrate t tokens base s = (.error (.connectivity url e.message), s₂)) ∧
    (∀ (a₀ a₁ a₂ a₃ a₄ : Reply) (s' : σ),
      askAll t probes s = ([.ok a₀, .ok a₁, .ok a₂, .ok a₃, .ok a₄], s') →
      calibrate t tokens base s =
        (.ok ⟨classify (Sample.of (base ++ tokens.fileLong) a₁.status a₁.body)
            (Sample.of (base ++ tokens.fileShort) a₂.status a₂.body),
          classify (Sample.of (base ++ tokens.directoryLong ++ "/") a₃.status a₃.body)
            (Sample.of (base ++ tokens.directoryShort ++ "/") a₄.status a₄.body)⟩, s')) ∧
    (∀ site : Site, ∃ n ≤ 5,
      (calibrate Site.answer tokens base site).2.log = site.log ++ probes.take n ∧
      ((∃ sig, (calibrate Site.answer tokens base site).1 = .ok sig) → n = 5) ∧
      ∀ url reason, (calibrate Site.answer tokens base site).1 = .error (.connectivity url reason) →
        (probes.take n).getLast? = some url) ∧
    ∀ sc : Dir.Scanner, sc.options.url = base →
      (sc.setup t tokens s).2 = (calibrate t tokens base s).2 ∧
      (∀ e, (sc.setup t tokens s).1 = .error e ↔ (calibrate t tokens base s).1 = .error e) ∧
      ∀ sc', (sc.setup t tokens s).1 = .ok sc' ↔
        ∃ sig, (calibrate t tokens base s).1 = .ok sig ∧ sc' = { sc with signature := some sig } := by
  intro tokens probes
  obtain ⟨hlen, hhex⟩ := draw_names r₁ r₂ r₃ r₄
  have hprobes : tokens.probes base = probes := rfl
  refine ⟨hprobes, hlen, hhex, fun pre url post answers e s₁ s₂ hsplit hpre hfail =>
    calibrate_of_failure hsplit hpre hfail,
    fun a₀ a₁ a₂ a₃ a₄ s' h => calibrate_of_answered h,
    fun site => calibrate_answer_log tokens base site, fun sc hurl => ?_⟩
  subst hurl
  exact setup_outcome t tokens sc s

/-- A scanner that already has a signature, against a site that answers the base and the long
file name but fails the short file name on its certificate: setup fails with that address and
the certificate error, and the site saw three requests, the last being the failing one. -/
theorem calibration_probes_in_order_certificate :
    let tokens := Tokens.draw 1 2 3 4
    let site : Site := { queue := [.reply 200 "" .counted none false,
      .reply 404 "" .counted none false, .fail (.invalidCertificate "expired")] }
    let sc : Dir.Scanner := { options := { url := "http://h/" }, signature := some {} }
    (sc.setup Site.answer tokens site).1 =
        .error (.connectivity ("http://h/" ++ tokens.fileShort) "invalid certificate: expired") ∧
      (calibrate Site.answer tokens "http://h/" site).2.log =
        ["http://h/", "http://h/" ++ tokens.fileLong, "http://h/" ++ tokens.fileShort] := by
  intro tokens site sc
  obtain ⟨-, -, -, hfail, -, -, hsetup⟩ :=
    calibration_probes_in_order Site.answer "http://h/" 1 2 3 4 site
  let logged := ["http://h/", "http://h/" ++ tokens.fileLong]
  let after : Site := { site with queue := [.fail (.invalidCertificate "expired")], log := logged }
  have hpre : askAll Site.answer ["http://h/", "http://h/" ++ tokens.fileLong] site =
      ([{ status := 200, size := some 0 }, { status := 404, size := some 0 }].map .ok, after) := by
    simp [askAll, site, after, logged, Site.answer, Site.next, Script.play, Script.cancels,
      Text.replace, Text.replaceAll, Text.replaceCons]
  have hcal := hfail ["http://h/", "http://h/" ++ tokens.fileLong] ("http://h/" ++ tokens.fileShort)
    _ _ (.invalidCertificate "expired") _ _ rfl hpre rfl
  refine ⟨((hsetup sc rfl).2.1 _).mpr (by rw [hcal]; rfl), ?_⟩
  rw [hcal]
  rfl

end Discovery.Wildcard
