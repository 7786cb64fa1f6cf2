import Discovery.Target
/-!
# What a base address looks like

A directory target becomes its base address by a slash at its end and a scheme in front.
The slash changes nothing that decides the scheme: a target starts with `http` exactly
when it does with the slash (`startsWith_withSlash`), and its explicit port is the same
(`explicitPort?_withSlash`), since the port is read before the first slash. So the scheme
is the target's own (`schemeOf_withSlash`).

Main statement: `baseUrl_scheme_and_slash`. An accepted base address ends with a slash and
starts with `http`; it is the target with the slash when the target starts with `http`, and
the target with the slash behind `http://` or `https://` otherwise; and it is its own base
address. A target is refused, with `url scheme not specified`, exactly when it does not
start with `http` and has an explicit port that reads as neither 80 nor 443.

The test for a scheme is the four letters `http` only, so a host whose name starts with
them gets no scheme at all (`http_named_host_gets_no_scheme`).
-/

namespace Discovery.Target

open Discovery.Text

/-! ## The slash at the end -/

theorem isDecimal_slash : isDecimal '/' = false := by decide

/-- The text before the first slash does not change when a slash is added at the end. -/
theorem takeWhile_concat_slash (l : List Char) :
    (l ++ ['/']).takeWhile (· ≠ '/') = l.takeWhile (· ≠ '/') := by
  induction l with
  | nil => simp
  | cons d t ih =>
    rw [List.cons_append, List.takeWhile_cons, List.takeWhile_cons, ih]

/-- The port is read before the first slash, so a slash at the end finds the same port. -/
theorem portDigits_append_slash (cs : List Char) (seen : Bool) (found : Option (List Char)) :
    portDigits (cs ++ ['/']) seen found = portDigits cs seen found := by
  induction cs generalizing seen found with
  | nil => simp [portDigits]
  | cons c rest ih =>
    simp only [List.cons_append, portDigits, ih]
    split
    · rfl
    · congr 1
      -- a colon at the very end is followed by the new slash, which is no digit
      cases rest with
      | nil => simp [isDecimal_slash]
      | cons d t =>
        simp only [List.cons_append]
        rw [← List.cons_append, takeWhile_concat_slash]

theorem isPrefixOf_http_concat_slash (l : List Char) :
    "http".toList.isPrefixOf (l ++ ['/']) = "http".toList.isPrefixOf l := by
  rw [Bool.eq_iff_iff]
  simp only [List.isPrefixOf_iff_prefix, List.prefix_concat_iff]
  constructor
  · rintro (h | h)
    · have : '/' ∈ "http".toList := by rw [h]; simp
      simp at this
    · exact h
  · exact .inr

theorem startsWith_withSlash (raw : String) :
    startsWith (withSlash raw) "http" = startsWith raw "http" := by
  unfold withSlash
  split
  · rfl
  · simp only [startsWith, String.toList_append]
    exact isPrefixOf_http_concat_slash raw.toList

theorem explicitPort?_withSlash (raw : String) :
    explicitPort? (withSlash raw) = explicitPort? raw := by
  unfold withSlash
  split
  · rfl
  · simp [explicitPort?, String.toList_append, portDigits_append_slash]

/-- The scheme a target gets is decided by the target alone. -/
theorem schemeOf_withSlash (raw : String) : schemeOf (withSlash raw) = schemeOf raw := by
  rw [schemeOf, schemeOf, startsWith_withSlash, explicitPort?_withSlash]

theorem withSlash_of_endsWith {url : String} (h : endsWith url "/" = true) :
    withSlash url = url := by
  simp [withSlash, h]

/-! ## The scheme in front -/

theorem startsWith_http_append (s : String) : startsWith ("http://" ++ s) "http" = true := by
  simp only [startsWith, String.toList_append, List.isPrefixOf_iff_prefix]
  exact List.IsPrefix.trans (by decide) (List.prefix_append _ _)

theorem startsWith_https_append (s : String) : startsWith ("https://" ++ s) "http" = true := by
  simp only [startsWith, String.toList_append, List.isPrefixOf_iff_prefix]
  exact List.IsPrefix.trans (by decide) (List.prefix_append _ _)

/-- A target that starts with `http` keeps it; any other gets `http://` or `https://`. -/
theorem schemeOf_eq_ok {url s : String} (h : schemeOf url = .ok s) :
    (startsWith url "http" = true ∧ s = "") ∨
      (startsWith url "http" = false ∧ (s = "http://" ∨ s = "https://")) := by
  unfold schemeOf at h
  split at h
  · next hs => exact .inl ⟨hs, by cases h; rfl⟩
  · next hs =>
    refine .inr ⟨by simpa using hs, ?_⟩
    split at h
    · cases h; exact .inl rfl
    · split at h <;> cases h <;> simp

/-- The scheme is unknown exactly for a target without `http` in front whose explicit port
reads as neither 80 nor 443, digits beyond sixteen bits included. -/
theorem schemeOf_eq_error_iff (url e : String) :
    schemeOf url = .error e ↔ e = schemeUnknown ∧ startsWith url "http" = false ∧
      ∃ port, explicitPort? url = some port ∧
        readUnsigned 16 port ≠ .ok 80 ∧ readUnsigned 16 port ≠ .ok 443 := by
  unfold schemeOf
  cases hs : startsWith url "http" with
  | true => simp
  | false =>
    cases hp : explicitPort? url with
    | none => simp
    | some port =>
      simp only [if_false, Bool.false_eq_true, true_and, Option.some.injEq, exists_eq_left']
      split
      · next h80 => simp [h80]
      · next h443 => simp [h443]
      · next _ h80 h443 =>
        simp only [Except.error.injEq]
        exact ⟨fun h => ⟨h.symm, h80, h443⟩, fun h => h.1.symm⟩

/-! ## Base addresses -/

theorem baseUrl_eq (raw : String) : baseUrl raw = (schemeOf raw).map (· ++ withSlash raw) := by
  rw [baseUrl, schemeOf_withSlash]

/-- An address with `http` in front and a slash at the end is its own base address. -/
theorem baseUrl_of_http {url : String} (hs : startsWith url "http" = true)
    (he : endsWith url "/" = true) : baseUrl url = .ok url := by
  rw [baseUrl_eq, withSlash_of_endsWith he, schemeOf, if_pos hs]
  rfl

/-- **Base addresses.** An accepted target gives an address that ends with a slash and
starts with `http`: the target with the slash, behind `http://` or `https://` exactly when
the target does not start with `http`; that address is its own base address. A target is
refused, as `url scheme not specified`, exactly when it does not start with `http` and its
explicit port reads as neither 80 nor 443. -/
theorem baseUrl_scheme_and_slash (raw : String) :
    (∀ url, baseUrl raw = .ok url →
      endsWith url "/" = true ∧ startsWith url "http" = true ∧
      (startsWith raw "http" = true → url = withSlash raw) ∧
      (startsWith raw "http" = false →
        url = "http://" ++ withSlash raw ∨ url = "https://" ++ withSlash raw) ∧
      baseUrl url = .ok url) ∧
    ∀ e, baseUrl raw = .error e ↔ e = schemeUnknown ∧ startsWith raw "http" = false ∧
      ∃ port, explicitPort? raw = some port ∧
        readUnsigned 16 port ≠ .ok 80 ∧ readUnsigned 16 port ≠ .ok 443 := by
  refine ⟨fun url h => ?_, fun e => ?_⟩
  · have hslash := baseUrl_endsWith_slash raw url h
    rw [baseUrl_eq] at h
    cases hsch : schemeOf raw with
    | error e => rw [hsch] at h; cases h
    | ok s =>
      rw [hsch] at h
      cases h
      have hhttp : startsWith (s ++ withSlash raw) "http" = true := by
        rcases schemeOf_eq_ok hsch with ⟨hs, rfl⟩ | ⟨-, rfl | rfl⟩
        · simpa [startsWith_withSlash] using hs
        · exact startsWith_http_append _
        · exact startsWith_https_append _
      refine ⟨hslash, hhttp, fun hs => ?_, fun hs => ?_, baseUrl_of_http hhttp hslash⟩
      · rcases schemeOf_eq_ok hsch with ⟨-, rfl⟩ | ⟨hs', -⟩
        · simp
        · simp [hs] at hs'
      · rcases schemeOf_eq_ok hsch with ⟨hs', -⟩ | ⟨-, rfl | rfl⟩
        · simp [hs] at hs'
        · exact .inl rfl
        · exact .inr rfl
  · rw [baseUrl_eq, ← schemeOf_eq_error_iff]
    cases schemeOf raw <;> simp [Except.map]

/-- A target on port 443 gets `https://`, and the address it gives is its own base. -/
theorem baseUrl_scheme_and_slash_https :
    baseUrl "example.com:443" = .ok "https://example.com:443/" ∧
      baseUrl "https://example.com:443/" = .ok "https://example.com:443/" := by
  have h : baseUrl "example.com:443" = .ok "https://example.com:443/" := rfl
  exact ⟨h, ((baseUrl_scheme_and_slash _).1 _ h).2.2.2.2⟩

/-- A host named `httpbin.org` has no scheme, but starts with `http`: its base address has
neither `http://` nor `https://` in front. -/
theorem http_named_host_gets_no_scheme :
    baseUrl "httpbin.org" = .ok "httpbin.org/" ∧
      startsWith "httpbin.org/" "http://" = false ∧
      startsWith "httpbin.org/" "https://" = false :=
  ⟨rfl, by decide, by decide⟩

end Discovery.Target
