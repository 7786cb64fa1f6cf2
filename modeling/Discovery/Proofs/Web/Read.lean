import Discovery.Proofs.Wildcard.Template
import Discovery.Web.Parse
/-!
# What reading an address gives

An address read on its own has a scheme that starts with a small letter, and no segment of
its path holds `?` or `#`: a path escapes both, so that they can only end it
(`parse_readable`). The readers are taken one by one: each keeps the scheme it is given and
builds its path from `readPath`, whose segments are made of escaped characters.

Setting a segment path that ends with a slash leaves an empty last segment
(`withPath_segments_of_slash`), so that the written path ends with that slash.

An address reads back (`Url.ReadsBack`) when its written form is read as an address with the
same host, port, path and query, as the address standard promises of every address it
writes.
-/

namespace Discovery.Web

open Discovery.Text

/-! ## Characters that cannot end a path -/

/-- Text with neither `?` nor `#`, the characters that end a path. -/
def Plain (cs : List Char) : Prop := ∀ c ∈ cs, c ≠ '?' ∧ c ≠ '#'

@[simp] theorem plain_nil : Plain [] := by simp [Plain]

@[simp] theorem plain_append {a b : List Char} : Plain (a ++ b) ↔ Plain a ∧ Plain b :=
  List.forall_mem_append

/-- The path segments, if any, hold no character that ends a path. -/
def UrlPath.Clean : UrlPath → Prop
  | .whole _ => True
  | .segments segs => ∀ s ∈ segs, Plain s.toList

theorem upperHexDigit_plain {n : Nat} (h : n < 16) :
    upperHexDigit n ≠ '?' ∧ upperHexDigit n ≠ '#' := by
  interval_cases n <;> decide

/-- A path escapes `?` and `#`, and writes every escape with digits. -/
theorem encodeChar_path_plain (c : Char) : Plain (encodeChar .path c) := by
  intro d hd
  obtain ⟨b, -, hd⟩ := List.mem_flatMap.mp hd
  have hb : b.toNat < 256 := b.toNat_lt
  split at hd
  · simp only [escapeByte, List.mem_cons, List.not_mem_nil, or_false] at hd
    rcases hd with rfl | rfl | rfl
    · decide
    · exact upperHexDigit_plain (by omega)
    · exact upperHexDigit_plain (by omega)
  · next hkeep =>
    -- a byte written as itself is none of the path's extra characters
    rw [List.mem_singleton] at hd
    subst hd
    simp only [EncodeSet.escapes, Bool.or_eq_true, not_or] at hkeep
    constructor <;> intro h <;> exact hkeep.2 (by rw [h]; decide)

/-! ## Segment paths -/

section Segments

variable (sp isFile : Bool)

theorem shorten_subset (path : List String) : ∀ s ∈ shorten isFile path, s ∈ path := by
  unfold shorten
  split
  · split
    · exact fun _ h => h
    · simp
  · exact fun _ h => List.dropLast_subset _ h

theorem plain_append_empty {path : List String} (hp : ∀ s ∈ path, Plain s.toList) :
    ∀ s ∈ path ++ [""], Plain s.toList := by
  intro s hs
  rcases List.mem_append.mp hs with hs | hs
  · exact hp s hs
  · rw [List.mem_singleton] at hs
    simp [hs]

/-- A segment added to a path of plain segments is plain when its characters are. -/
theorem pathStep_plain {path : List String} {buf : List Char} (slash : Bool)
    (hp : ∀ s ∈ path, Plain s.toList) (hb : Plain buf) :
    ∀ s ∈ pathStep isFile path buf slash, Plain s.toList := by
  -- a step keeps segments of the path, adds the empty one, or adds the buffer
  have hshort : ∀ s ∈ shorten isFile path, Plain s.toList :=
    fun s hs => hp s (shorten_subset isFile path s hs)
  have hdrive : Plain (buf.take 1 ++ [':']) :=
    plain_append.mpr ⟨fun c hc => hb c (List.mem_of_mem_take hc), by simp [Plain]⟩
  unfold pathStep
  split
  · split
    · exact hshort
    · exact plain_append_empty hshort
  · split
    · split
      · exact hp
      · exact plain_append_empty hp
    · intro s hs
      rcases List.mem_append.mp hs with hs | hs
      · exact hp s hs
      · rw [List.mem_singleton] at hs
        subst hs
        split
        · simpa using hdrive
        · simpa using hb

/-- An empty segment that ends the text is added as it is. -/
theorem pathStep_nil_end (path : List String) : pathStep isFile path [] false = path ++ [""] := by
  simp [pathStep, isDoubleDot, isSingleDot, isDriveLetter]

/-- Every segment that `readPath` makes is plain: the characters between slashes are escaped,
and it stops at `?` and `#`. -/
theorem readPath_plain (cs : List Char) (path : List String) (buf : List Char)
    (hp : ∀ s ∈ path, Plain s.toList) (hb : Plain buf) :
    ∀ s ∈ (readPath sp isFile cs path buf).1, Plain s.toList := by
  induction cs generalizing path buf with
  | nil => exact pathStep_plain isFile false hp hb
  | cons c rest ih =>
    rw [readPath]
    split
    · exact ih _ [] (pathStep_plain isFile true hp hb) plain_nil
    · split
      · exact pathStep_plain isFile false hp hb
      · exact ih path _ hp (plain_append.mpr ⟨hb, encodeChar_path_plain c⟩)

/-- Plain text that ends with a slash is read to its end, and leaves an empty last segment. -/
theorem readPath_append_slash (cs : List Char) (hcs : Plain cs) (path : List String)
    (buf : List Char) : ∃ p, readPath sp isFile (cs ++ ['/']) path buf = (p ++ [""], []) := by
  induction cs generalizing path buf with
  | nil =>
    refine ⟨pathStep isFile path buf true, ?_⟩
    simp [readPath, pathStep_nil_end]
  | cons c rest ih =>
    have hc := hcs c List.mem_cons_self
    have hrest : Plain rest := fun d hd => hcs d (List.mem_cons_of_mem c hd)
    rw [List.cons_append, readPath]
    split
    · exact ih hrest _ _
    · rw [if_neg (by simp [hc.1, hc.2])]
      exact ih hrest _ _

end Segments

/-! ## The readers -/

section Readers

variable (sp : Bool) (u : Url) (cs : List Char)

@[simp] theorem readTail_scheme : (readTail sp u cs).scheme = u.scheme := by
  unfold readTail
  split
  · dsimp only
    split <;> rfl
  · rfl
  · rfl

@[simp] theorem readTail_path : (readTail sp u cs).path = u.path := by
  unfold readTail
  split
  · dsimp only
    split <;> rfl
  · rfl
  · rfl

@[simp] theorem readPathFrom_scheme (init : List String) :
    (readPathFrom u init cs).scheme = u.scheme := by
  simp [readPathFrom]

theorem readPathFrom_path (init : List String) :
    (readPathFrom u init cs).path =
      .segments (readPath u.isSpecial (u.scheme = "file") cs init []).1 := by
  simp [readPathFrom]

theorem readPathFrom_clean : (readPathFrom u [] cs).path.Clean := by
  rw [readPathFrom_path]
  exact readPath_plain _ _ cs [] [] (by simp) plain_nil

@[simp] theorem readWholePath_scheme : (readWholePath u cs).scheme = u.scheme := by
  simp [readWholePath]

theorem readWholePath_clean : (readWholePath u cs).path.Clean := by
  simp [readWholePath, UrlPath.Clean]

/-- After a slash, a path is read from what follows it, whatever the scheme. -/
theorem readPathStart_slash (r : List Char) : readPathStart u ('/' :: r) = readPathFrom u [] r := by
  unfold readPathStart
  split <;> rfl

@[simp] theorem readPathStart_scheme : (readPathStart u cs).scheme = u.scheme := by
  unfold readPathStart
  split <;> split <;> simp

theorem readPathStart_clean : (readPathStart u cs).path.Clean := by
  unfold readPathStart
  split
  · split <;> exact readPathFrom_clean _ _
  · split
    · simp [UrlPath.Clean]
    · simp [UrlPath.Clean]
    · simp [UrlPath.Clean]
    · exact readPathFrom_clean _ _
    · exact readPathFrom_clean _ _

/-- What an authority is followed by is read by `readPathStart`. -/
theorem readAuthority_ok {v : Url} (h : readAuthority u cs = .ok v) :
    v.scheme = u.scheme ∧ v.path.Clean := by
  unfold readAuthority at h
  simp only at h
  split at h
  · cases h
  · split at h
    · cases h
    · split at h
      · cases h
      · split at h
        · cases h
        · cases h
          refine ⟨?_, readPathStart_clean _ _⟩
          rw [readPathStart_scheme]
          split <;> rfl

theorem readFileHost_ok {v : Url} (h : readFileHost u cs = .ok v) :
    v.scheme = u.scheme ∧ v.path.Clean := by
  unfold readFileHost at h
  simp only at h
  split at h
  · cases h
    exact ⟨readPathFrom_scheme _ _ _, readPathFrom_clean _ _⟩
  · split at h
    · cases h
      exact ⟨readPathStart_scheme _ _, readPathStart_clean _ _⟩
    · split at h
      · cases h
      · cases h
        exact ⟨readPathStart_scheme _ _, readPathStart_clean _ _⟩

/-- A file address read on its own. -/
theorem readFile_ok {v : Url} (h : readFile none cs = .ok v) :
    v.scheme = "file" ∧ v.path.Clean := by
  unfold readFile readFile.readFileSlashOther readFile.readFileOther at h
  split at h
  · split at h
    · split at h
      · split at h
        · exact readFileHost_ok _ _ h
        · cases h
          exact ⟨readPathFrom_scheme _ _ _, readPathFrom_clean _ _⟩
      · cases h
        exact ⟨readPathFrom_scheme _ _ _, readPathFrom_clean _ _⟩
    · cases h
      exact ⟨readPathFrom_scheme _ _ _, readPathFrom_clean _ _⟩
  · cases h
    exact ⟨readPathFrom_scheme _ _ _, readPathFrom_clean _ _⟩

end Readers

/-! ## Addresses read on their own -/

/-- What every address read on its own has: a scheme that starts with a small letter, and
path segments that hold no character that ends a path. -/
structure Url.Readable (u : Url) : Prop where
  scheme : ∃ c r, u.scheme.toList = c :: r ∧ c.isLower
  path : u.path.Clean

theorem isLower_toLower {c : Char} (h : c.isAlpha) : c.toLower.isLower := by
  have hl := Discovery.Wildcard.toNat_toLower c
  simp only [Char.isAlpha, Char.isUpper, Char.isLower, Bool.or_eq_true, Bool.and_eq_true,
    decide_eq_true_eq, UInt32.le_iff_toNat_le] at h ⊢
  change 97 ≤ c.toLower.toNat ∧ c.toLower.toNat ≤ 122
  change (65 ≤ c.toNat ∧ c.toNat ≤ 90) ∨ (97 ≤ c.toNat ∧ c.toNat ≤ 122) at h
  rw [hl]
  split <;> omega

/-- A scheme is kept in small letters, and its first letter stays one. -/
theorem splitScheme_lower {cs : List Char} {scheme : String} {rest : List Char}
    (h : splitScheme cs = some (scheme, rest)) : ∃ c r, scheme.toList = c :: r ∧ c.isLower := by
  unfold splitScheme at h
  split at h
  · next c tail =>
    split at h
    · next halpha =>
      dsimp only at h
      split at h
      · cases h
        exact ⟨c.toLower, _, String.toList_ofList, isLower_toLower halpha⟩
      · cases h
    · cases h
  · cases h

/-- **Every address read on its own is readable**: its scheme starts with a small letter and
no segment of its path holds `?` or `#`. -/
theorem parse_readable {s : String} {u : Url} (h : parse s = .ok u) : u.Readable := by
  unfold parse parseWith at h
  simp only at h
  split at h
  · next scheme rest hsplit =>
    have hlow := splitScheme_lower hsplit
    -- every reader keeps the scheme it starts from
    have hkeep : u.scheme = scheme ∧ u.path.Clean := by
      split at h
      · next hfile =>
        obtain ⟨hs, hp⟩ := readFile_ok _ h
        exact ⟨hs.trans hfile.symm, hp⟩
      · split at h
        · exact readAuthority_ok _ _ h
        · split at h
          · exact readAuthority_ok _ _ h
          · cases h
            exact ⟨readPathFrom_scheme _ _ _, readPathFrom_clean _ _⟩
          · cases h
            exact ⟨readWholePath_scheme _ _, readWholePath_clean _ _⟩
    exact ⟨hkeep.1 ▸ hlow, hkeep.2⟩
  · cases h

/-- The written form of the address reads back as an address with the same host, port, path
and query. -/
def Url.ReadsBack (u : Url) : Prop :=
  ∃ w ∈ (parse u.render).toOption, w.host = u.host ∧ w.port = u.port ∧ w.path = u.path ∧
    w.query = u.query

instance (u : Url) : Decidable u.ReadsBack :=
  inferInstanceAs (Decidable (∃ w ∈ (parse u.render).toOption, _))

theorem Url.readsBack_iff {u : Url} : u.ReadsBack ↔ ∃ w, parse u.render = .ok w ∧
    w.host = u.host ∧ w.port = u.port ∧ w.path = u.path ∧ w.query = u.query := by
  unfold Url.ReadsBack
  cases parse u.render <;> simp [Except.toOption]

/-! ## Setting a path -/

@[simp] theorem withPath_scheme (u : Url) (p : String) : (u.withPath p).scheme = u.scheme := by
  unfold Url.withPath
  split <;> rfl

/-- A plain segment path set anew with a text that ends with a slash ends with an empty
segment. -/
theorem withPath_segments_of_slash {u : Url} {segs : List String} (hu : u.path = .segments segs)
    {r : List Char} (hr : Plain r) (hend : r = [] ∨ r.getLast? = some '/') :
    ∃ p, (u.withPath (String.ofList ('/' :: r))).path = .segments (p ++ [""]) := by
  unfold Url.withPath
  rw [hu]
  simp only [String.toList_ofList, readPathStart_slash, readPathFrom_path]
  rcases hend with rfl | hlast
  · exact ⟨[], by simp [readPath, pathStep_nil_end]⟩
  · obtain ⟨r', rfl⟩ := List.getLast?_eq_some_iff.mp hlast
    obtain ⟨p, hp⟩ := readPath_append_slash _ _ r' (plain_append.mp hr).1 [] []
    exact ⟨p, by rw [hp]⟩

end Discovery.Web
