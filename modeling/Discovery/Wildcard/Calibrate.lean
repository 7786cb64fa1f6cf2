import Discovery.Wildcard.Signature
import Discovery.Transport
/-!
# Calibration

Before a scan, the site is asked for its base address and then for four made-up
names: two file names (one long, one short) and two directory names (one long, one
short, each ending in a slash). The base must answer, which shows that the site can be
reached. For each scope, two answers with the same status show a wildcard: the site
answers paths it cannot have. What else the two answers share tells later wildcard
answers apart: a common non-empty title, else a common stripped length, else nothing
but the status.

Main statements: `classify_eq_none_iff` (a scope has no signature exactly when its two
probes disagree on the status) and `classify_matches` (each of the two probes matches
the signature that they gave).
-/

namespace Discovery.Wildcard

open Discovery.Text

/-- One calibration answer, reduced to what classification needs. -/
structure Sample where
  url : String
  status : Nat
  title : Option String
  strippedLength : Nat
  deriving DecidableEq, Repr

/-- The sample of an answer with this status and body to a request for `url`. -/
def Sample.of (url : String) (status : Nat) (body : String) : Sample :=
  ⟨url, status, title? body, Wildcard.strippedLength body url⟩

/-- The title two answers share, when both have the same non-empty one. -/
def sharedTitle? : Option String → Option String → Option String
  | some a, some b => if !a.isEmpty && a == b then some a else none
  | _, _ => none

/-- What tells two wildcard answers of one scope apart from real ones. -/
def discriminate (long short : Sample) : Discriminator :=
  match sharedTitle? long.title short.title with
  | some t => .title t
  | none =>
    if long.strippedLength = short.strippedLength then .contentLength long.strippedLength
    else .statusOnly

/-- The signature of a scope from its two probes: none when their statuses differ. -/
def classify (long short : Sample) : Option ScopeSignature :=
  if long.status = short.status then some ⟨long.status, discriminate long short⟩ else none

/-- The made-up names that calibration asks for, without the directory slash. -/
structure Tokens where
  fileLong : String
  fileShort : String
  directoryLong : String
  directoryShort : String
  deriving DecidableEq, Repr

/-- The addresses calibration asks for, in order: the base, the two file names and the
two directory names. -/
def Tokens.probes (t : Tokens) (base : String) : List String :=
  [base, base ++ t.fileLong, base ++ t.fileShort, base ++ t.directoryLong ++ "/",
    base ++ t.directoryShort ++ "/"]

section Probing

variable {σ : Type}

/-- Ask the site for `url`; a failure means the site cannot be reached. -/
def sample (t : Transport σ) (url : String) (s : σ) : Except ScanError Sample × σ :=
  match t url s with
  | (.ok r, s) => (.ok (Sample.of url r.status r.body), s)
  | (.error e, s) => (.error (.connectivity url e.message), s)

/-- Ask for two made-up names of one scope and classify the answers. -/
def calibrateScope (t : Transport σ) (long short : String) (s : σ) :
    Except ScanError (Option ScopeSignature) × σ :=
  match sample t long s with
  | (.error e, s) => (.error e, s)
  | (.ok a, s) =>
    match sample t short s with
    | (.error e, s) => (.error e, s)
    | (.ok b, s) => (.ok (classify a b), s)

/-- Check that the base answers, then calibrate files and directories. -/
def calibrate (t : Transport σ) (tokens : Tokens) (base : String) (s : σ) :
    Except ScanError Signature × σ :=
  match t base s with
  | (.error e, s) => (.error (.connectivity base e.message), s)
  | (.ok _, s) =>
    match calibrateScope t (base ++ tokens.fileLong) (base ++ tokens.fileShort) s with
    | (.error e, s) => (.error e, s)
    | (.ok file, s) =>
      match calibrateScope t (base ++ tokens.directoryLong ++ "/")
          (base ++ tokens.directoryShort ++ "/") s with
      | (.error e, s) => (.error e, s)
      | (.ok directory, s) => (.ok ⟨file, directory⟩, s)

end Probing

/-- A scope has no signature exactly when its two probes disagree on the status. -/
theorem classify_eq_none_iff (long short : Sample) :
    classify long short = none ↔ long.status ≠ short.status := by
  unfold classify
  split <;> simp_all

theorem sharedTitle?_eq_some {a b : Option String} {t : String} (h : sharedTitle? a b = some t) :
    a = some t ∧ b = some t := by
  unfold sharedTitle? at h
  split at h
  · split at h
    · next x y hxy =>
      simp only [Option.some.injEq] at h
      subst h
      simp only [Bool.and_eq_true, beq_iff_eq] at hxy
      rw [hxy.2]
      exact ⟨rfl, rfl⟩
    · cases h
  · cases h

/-- Each of the two probes of a scope matches the signature that they gave. -/
theorem classify_matches (u v x y : String) (s t : Nat) (sig : ScopeSignature)
    (h : classify (Sample.of u s x) (Sample.of v t y) = some sig) :
    sig.matches s x u = true ∧ sig.matches t y v = true := by
  unfold classify at h
  split at h
  · next hst =>
    simp only [Option.some.injEq] at h
    subst h
    simp only [Sample.of] at hst
    subst hst
    unfold discriminate
    split
    · next title ht =>
      obtain ⟨h1, h2⟩ := sharedTitle?_eq_some ht
      simp only [Sample.of] at h1 h2
      simp [ScopeSignature.matches, Sample.of, h1, h2]
    · split
      · next hl =>
        simp only [Sample.of] at hl ⊢
        simp [ScopeSignature.matches, hl]
      · simp [ScopeSignature.matches, Sample.of]
  · cases h

end Discovery.Wildcard
