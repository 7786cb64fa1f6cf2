import Discovery.Proofs.Wildcard.Suppression
/-!
# Calibration recognizes its own probes

Calibration asks the site for its base and then for two made-up names in each scope, and keeps
a signature for a scope exactly when the two answers of that scope share their status. The
signature is drawn from those two answers, and it takes each of them for the wildcard: a drawn
file name is in the file scope and a drawn directory name in the directory scope, and the
answer each got, given again at the same address, matches the signature of that scope. So the
path scanner, once calibrated, takes a word equal to a made-up name, answered as during
calibration, for a false positive.

A successful calibration is read back (`calibrate_eq_ok`) as the five answers the site gave, in
the order they were asked for (`askAll`), and the two signatures classified from them.

Main statement: `calibration_recognizes_its_probes`.
-/

namespace Discovery.Wildcard

open Discovery.Text

section Asking

variable {σ : Type}

/-- Ask a transport for each address in turn: the outcomes in order, and its state after. -/
def askAll (t : Transport σ) : List String → σ → List (Except TransportError Reply) × σ
  | [], s => ([], s)
  | url :: rest, s =>
    let first := t url s
    let others := askAll t rest first.2
    (first.1 :: others.1, others.2)

theorem askAll_cons (t : Transport σ) (url : String) (rest : List String) {s s₁ : σ}
    {r : Except TransportError Reply} (h : t url s = (r, s₁)) :
    askAll t (url :: rest) s = (r :: (askAll t rest s₁).1, (askAll t rest s₁).2) := by
  simp [askAll, h]

/-- A probe that was answered gives the sample of its answer. -/
theorem sample_eq_ok {t : Transport σ} {url : String} {s s' : σ} {x : Sample}
    (h : sample t url s = (.ok x, s')) :
    ∃ a, t url s = (.ok a, s') ∧ x = Sample.of url a.status a.body := by
  unfold sample at h
  split at h
  · next a s₁ heq =>
    simp only [Prod.mk.injEq, Except.ok.injEq] at h
    obtain ⟨rfl, rfl⟩ := h
    exact ⟨a, heq, rfl⟩
  · simp at h

/-- A scope that was calibrated had both of its made-up names answered, one after the other,
and its signature is classified from the two answers. -/
theorem calibrateScope_eq_ok {t : Transport σ} {long short : String} {s s' : σ}
    {o : Option ScopeSignature} (h : calibrateScope t long short s = (.ok o, s')) :
    ∃ a b s₁, t long s = (.ok a, s₁) ∧ t short s₁ = (.ok b, s') ∧
      o = classify (Sample.of long a.status a.body) (Sample.of short b.status b.body) := by
  unfold calibrateScope at h
  split at h
  · simp at h
  · next x s₁ hx =>
    obtain ⟨a, ha, rfl⟩ := sample_eq_ok hx
    split at h
    · simp at h
    · next y s₂ hy =>
      obtain ⟨b, hb, rfl⟩ := sample_eq_ok hy
      simp only [Prod.mk.injEq, Except.ok.injEq] at h
      obtain ⟨rfl, rfl⟩ := h
      exact ⟨a, b, s₁, ha, hb, rfl⟩

/-- A successful calibration is the five answers of the site, in the order asked, with each
scope's signature classified from the two answers of its made-up names. -/
theorem calibrate_eq_ok {t : Transport σ} {tokens : Tokens} {base : String} {s s' : σ}
    {sig : Signature} (h : calibrate t tokens base s = (.ok sig, s')) :
    ∃ a₀ a₁ a₂ a₃ a₄ : Reply,
      askAll t (tokens.probes base) s = ([.ok a₀, .ok a₁, .ok a₂, .ok a₃, .ok a₄], s') ∧
      sig.file = classify (Sample.of (base ++ tokens.fileLong) a₁.status a₁.body)
        (Sample.of (base ++ tokens.fileShort) a₂.status a₂.body) ∧
      sig.directory = classify (Sample.of (base ++ tokens.directoryLong ++ "/") a₃.status a₃.body)
        (Sample.of (base ++ tokens.directoryShort ++ "/") a₄.status a₄.body) := by
  unfold calibrate at h
  split at h
  · simp at h
  · next a₀ s₀ h₀ =>
    split at h
    · simp at h
    · next file s₁ hfile =>
      obtain ⟨a₁, a₂, s₁', h₁, h₂, rfl⟩ := calibrateScope_eq_ok hfile
      split at h
      · simp at h
      · next directory s₂ hdir =>
        obtain ⟨a₃, a₄, s₃, h₃, h₄, rfl⟩ := calibrateScope_eq_ok hdir
        simp only [Prod.mk.injEq, Except.ok.injEq] at h
        obtain ⟨rfl, rfl⟩ := h
        refine ⟨a₀, a₁, a₂, a₃, a₄, ?_, rfl, rfl⟩
        rw [Tokens.probes, askAll_cons _ _ _ h₀, askAll_cons _ _ _ h₁, askAll_cons _ _ _ h₂,
          askAll_cons _ _ _ h₃, askAll_cons _ _ _ h₄]
        rfl

end Asking

/-! ## The made-up names and their scopes -/

/-- The two made-up names calibration asks for in a scope, long one first; a directory name
ends with a slash. -/
def Tokens.namesOf (t : Tokens) : Scope → String × String
  | .file => (t.fileLong, t.fileShort)
  | .directory => (t.directoryLong ++ "/", t.directoryShort ++ "/")

theorem lowerHexDigit_ne_slash : ∀ n < 16, lowerHexDigit n ≠ '/' := by decide

/-- A drawn name is hexadecimal digits, none of them a slash, so it names a file. -/
theorem scope_of_token (r len : Nat) : Scope.of (token r len) = .file := by
  have hno : '/' ∉ (token r len).toList := fun h => by
    rw [token, String.toList_ofList] at h
    obtain ⟨n, hn, hc⟩ := mem_hexDigits 32 r (List.mem_of_mem_take h)
    exact lowerHexDigit_ne_slash n hn hc.symm
  unfold Scope.of endsWith
  cases hrev : (token r len).toList.reverse with
  | nil => rfl
  | cons c rest =>
    have hc : '/' ≠ c := fun hc =>
      hno (List.mem_reverse.mp (hc ▸ hrev ▸ List.mem_cons_self ..))
    simp [hc]

/-- Each drawn made-up name is in the scope it is asked for in. -/
theorem scope_of_namesOf_draw (r₁ r₂ r₃ r₄ : Nat) (scope : Scope) :
    Scope.of ((Tokens.draw r₁ r₂ r₃ r₄).namesOf scope).1 = scope ∧
      Scope.of ((Tokens.draw r₁ r₂ r₃ r₄).namesOf scope).2 = scope := by
  cases scope with
  | file => exact ⟨scope_of_token _ _, scope_of_token _ _⟩
  | directory =>
    simp [Tokens.namesOf, Tokens.draw, Scope.of, Target.endsWith_append]

/-! ## Each probe is taken for the wildcard -/

/-- The signature of a scope that two answers gave, if there is one, takes each of them for the
wildcard at the address it answered. -/
theorem isFalsePositive_of_classify {sig : Signature} {scope : Scope} {long short : String}
    {a b : Reply}
    (hsig : sig.scope scope = classify (Sample.of long a.status a.body)
      (Sample.of short b.status b.body)) (hs : sig.scope scope ≠ none) :
    sig.isFalsePositive scope a.status a.body long = true ∧
      sig.isFalsePositive scope b.status b.body short = true := by
  obtain ⟨s, hs⟩ := Option.ne_none_iff_exists'.mp hs
  obtain ⟨hl, hr⟩ := classify_matches long short a.body b.body a.status b.status s (hsig ▸ hs)
  simp [Signature.isFalsePositive, hs, hl, hr]

/-- An answer taken for the wildcard of its scope gives the path scanner's verdict on a word
with that answer: a false positive. -/
theorem verdict_of_isFalsePositive {sc : Dir.Scanner} {sig : Signature} {r : Finding}
    {a : Reply} (hr : r.isEntityUrl = false) (hstatus : r.status = a.status)
    (hbody : r.content = some a.body)
    (h : sig.isFalsePositive (Scope.of r.entity) a.status a.body (sc.options.url ++ r.entity) =
      true) :
    sc.verdict sig r = .falsePositive := by
  simp [Dir.Scanner.verdict, Dir.Scanner.probedUrl, hr, hstatus, hbody, h]

/-- A made-up name of a scope whose answer the scope's signature, when there is one, takes for
the wildcard at its address: the path scanner on that base takes a word equal to the name,
answered alike, for a false positive. -/
theorem probe_recognized {sig : Signature} {scope : Scope} {base name : String} {a : Reply}
    (hname : Scope.of name = scope)
    (hfp : sig.scope scope ≠ none →
      sig.isFalsePositive scope a.status a.body (base ++ name) = true) :
    Scope.of name = scope ∧
      (sig.scope scope ≠ none →
        sig.isFalsePositive (Scope.of name) a.status a.body (base ++ name) = true ∧
        ∀ (sc : Dir.Scanner) (r : Finding), sc.options.url = base → r.isEntityUrl = false →
          r.entity = name → r.status = a.status → r.content = some a.body →
          sc.verdict sig r = .falsePositive) := by
  refine ⟨hname, fun hsome => ?_⟩
  have h : sig.isFalsePositive (Scope.of name) a.status a.body (base ++ name) = true := by
    rw [hname]
    exact hfp hsome
  refine ⟨h, fun sc r hurl hentity hnamed hstatus hbody => ?_⟩
  subst hnamed hurl
  exact verdict_of_isFalsePositive hentity hstatus hbody h

/-- Calibration with drawn names that succeeds had all five probes answered, and keeps a
signature for a scope exactly when the two answers of its made-up names share their status.
When it keeps one, each made-up name is in that scope, its answer at its address is taken for
the wildcard, and so the path scanner on that base takes a word equal to the name, answered as
during calibration, for a false positive. -/
theorem calibration_recognizes_its_probes {σ : Type} (t : Transport σ) (base : String)
    (r₁ r₂ r₃ r₄ : Nat) (s s' : σ) (sig : Signature)
    (h : calibrate t (Tokens.draw r₁ r₂ r₃ r₄) base s = (.ok sig, s')) :
    let tokens := Tokens.draw r₁ r₂ r₃ r₄
    ∃ (home : Reply) (answers : Scope → Reply × Reply),
      askAll t (tokens.probes base) s = ([.ok home, .ok (answers .file).1,
        .ok (answers .file).2, .ok (answers .directory).1, .ok (answers .directory).2], s') ∧
      ∀ scope, (sig.scope scope = none ↔ (answers scope).1.status ≠ (answers scope).2.status) ∧
        ∀ name a, (name, a) ∈ [((tokens.namesOf scope).1, (answers scope).1),
            ((tokens.namesOf scope).2, (answers scope).2)] →
          Scope.of name = scope ∧
          (sig.scope scope ≠ none →
            sig.isFalsePositive (Scope.of name) a.status a.body (base ++ name) = true ∧
            ∀ (sc : Dir.Scanner) (r : Finding), sc.options.url = base → r.isEntityUrl = false →
              r.entity = name → r.status = a.status → r.content = some a.body →
              sc.verdict sig r = .falsePositive) := by
  intro tokens
  obtain ⟨a₀, a₁, a₂, a₃, a₄, hask, hfile, hdir⟩ := calibrate_eq_ok h
  let answers : Scope → Reply × Reply
    | .file => (a₁, a₂)
    | .directory => (a₃, a₄)
  -- each scope's signature is classified from its two answers at its two addresses
  have hsig : ∀ scope, sig.scope scope =
      classify (Sample.of (base ++ (tokens.namesOf scope).1) (answers scope).1.status
        (answers scope).1.body)
      (Sample.of (base ++ (tokens.namesOf scope).2) (answers scope).2.status
        (answers scope).2.body) := by
    intro scope
    cases scope with
    | file => exact hfile
    | directory => simpa [Signature.scope, Tokens.namesOf, String.append_assoc] using hdir
  refine ⟨a₀, answers, hask, fun scope => ⟨?_, fun name a hmem => ?_⟩⟩
  · rw [hsig scope, classify_eq_none_iff]
    rfl
  -- a kept signature takes both answers of its scope for the wildcard
  have hboth := isFalsePositive_of_classify (hsig scope)
  obtain ⟨hs₁, hs₂⟩ := scope_of_namesOf_draw r₁ r₂ r₃ r₄ scope
  rcases List.mem_pair.mp hmem with heq | heq <;> obtain ⟨rfl, rfl⟩ := Prod.mk.inj heq
  · exact probe_recognized hs₁ fun hsome => (hboth hsome).1
  · exact probe_recognized hs₂ fun hsome => (hboth hsome).2

/-- A site that answers every address but its base with one page titled "Oops": calibrated with
drawn names, the file scope gets the title as its signature, and a word equal to the long
made-up file name, answered again with that page, is a false positive. -/
theorem calibration_recognizes_its_probes_oops :
    let oops : Reply := { status := 200, body := "<title>Oops</title>" }
    let site : Transport Unit := fun url _ =>
      (.ok (if url = "http://h/" then { status := 200, body := "home" } else oops), ())
    let tokens := Tokens.draw 1 2 3 4
    ∃ sig, calibrate site tokens "http://h/" () = (.ok sig, ()) ∧
      sig.file = some ⟨200, .title "Oops"⟩ ∧
      ∀ (sc : Dir.Scanner) (r : Finding), sc.options.url = "http://h/" → r.isEntityUrl = false →
        r.entity = tokens.fileLong → r.status = 200 → r.content = some "<title>Oops</title>" →
        sc.verdict sig r = .falsePositive := by
  intro oops site tokens
  have hcal : calibrate site tokens "http://h/" () =
      (.ok ⟨some ⟨200, .title "Oops"⟩, some ⟨200, .title "Oops"⟩⟩, ()) := by decide +kernel
  obtain ⟨home, answers, hask, hscope⟩ :=
    calibration_recognizes_its_probes site "http://h/" 1 2 3 4 () () _ hcal
  -- the site gave the page to the long made-up file name
  have hasked : (askAll site (tokens.probes "http://h/") ()).1 =
      [.ok { status := 200, body := "home" }, .ok oops, .ok oops, .ok oops, .ok oops] := by
    decide +kernel
  rw [hask] at hasked
  have hlong : (answers .file).1 = oops := by
    simp only [List.cons.injEq, Except.ok.injEq] at hasked
    exact hasked.2.1
  obtain ⟨-, hfp⟩ := (hscope .file).2 tokens.fileLong oops
    (by rw [← hlong]; exact List.mem_cons_self ..)
  refine ⟨_, hcal, rfl, fun sc r hurl hentity hname hstatus hbody => ?_⟩
  exact (hfp (by simp [Signature.scope])).2 sc r hurl hentity hname hstatus hbody

end Discovery.Wildcard
