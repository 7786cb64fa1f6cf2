import Discovery.Proofs.Dir.Render
/-!
# The path field of archive lines

The archive keeps one line per found finding: the time, the path field, the status and the
redirect. For a word the path field is a slash and the word. For a corpus address it is a
slash and what is left of the address once its scheme, `://`, its host, the port that is not
the default, and one slash are cut from its front, as the address reader writes these; an
address that does not start with them is kept whole.

So the cut works on an address written the way the reader writes it back: a small-letter
scheme, the host as the reader spells it, no credentials, and no port that is the default.
For such an address the path field is its path, query and fragment, and the address is its
scheme and authority in front of the path field (`archive_holds_path`).

An address written otherwise keeps its scheme and host in the archive: the address
`http://h:80/x` names its default port, which the reader drops, and is archived whole
(`archive_keeps_written_default_port`).
-/

namespace Discovery.Text

theorem stripPrefix?_append (p s : String) : stripPrefix? (p ++ s) p = some s := by
  have hstart : startsWith (p ++ s) p = true := by
    simp [startsWith, String.toList_append, List.isPrefixOf_iff_prefix]
  simp only [stripPrefix?, hstart, if_true, String.toList_append]
  rw [← String.length_toList, List.drop_left, String.ofList_toList]

end Discovery.Text

namespace Discovery.Web

/-- The port as written after the host: a colon and the number, or nothing. -/
def Url.portText (u : Url) : String :=
  match u.port with
  | some p => ":" ++ toString p
  | none => ""

/-- The query and the fragment as written at the end of an address. -/
def Url.tailText (u : Url) : String :=
  (match u.query with | some q => "?" ++ q | none => "") ++
    (match u.fragment with | some f => "#" ++ f | none => "")

/-- The written form of an address with a host, part by part. -/
theorem Url.render_of_host {u : Url} {h : Host} (hh : u.host = some h) :
    u.render = u.scheme ++ "://" ++ u.userinfoText ++ h.render ++ u.portText ++ u.pathText ++
      u.tailText := by
  simp only [Url.render, hh, Url.portText, Url.tailText, String.append_assoc]
  rfl

/-- The empty host is written as nothing, like every other host is written as itself. -/
theorem Url.hostText?_getD {u : Url} {h : Host} (hh : u.host = some h) :
    u.hostText?.getD "" = h.render := by
  unfold Url.hostText?
  rw [hh]
  split
  · next hd => cases hd; rfl
  · next hd => cases hd; rfl
  · cases ‹some h = none›

theorem Url.hostWithPort_of_host {u : Url} {h : Host} (hh : u.host = some h) :
    u.hostWithPort = h.render ++ u.portText := by
  unfold Url.hostWithPort Url.portText
  rw [Url.hostText?_getD hh]
  cases u.port <;> simp [String.append_assoc]

end Discovery.Web

namespace Discovery.Dir

open Discovery.Text Discovery.Time Discovery.Web Discovery.Wildcard

theorem archivePath_of_word {r : Finding} (h : r.isEntityUrl = false) :
    archivePath r = r.entity := by
  simp [archivePath, h]

/-- A corpus address written as the reader writes it back, without credentials and with a
path from a slash, loses exactly its scheme, authority and first slash. -/
theorem archivePath_of_written {r : Finding} {u : Url} {h : Host} {rest : String}
    (he : r.isEntityUrl = true) (hp : parse r.entity = .ok u) (hh : u.host = some h)
    (hr : u.render = r.entity) (hui : u.userinfoText = "") (hpath : u.pathText = "/" ++ rest) :
    archivePath r = rest ++ u.tailText := by
  have hentity : r.entity =
      (u.scheme ++ "://" ++ u.hostWithPort ++ "/") ++ (rest ++ u.tailText) := by
    rw [← hr, Url.render_of_host hh, Url.hostWithPort_of_host hh, hui, hpath]
    simp only [String.append_assoc, String.empty_append]
  simp only [archivePath, he, Bool.not_true, Bool.false_eq_true, if_false, hp]
  rw [hentity, stripPrefix?_append]
  rfl

/-- **Archive lines hold paths.** A found finding is rendered with an archive line whose path
field is a slash and the word, for a word. For a corpus address written as the reader writes
it back, with a host, no credentials and a path from a slash, the path field is the address's
path, query and fragment, and the address is its scheme and authority in front of that field. -/
theorem archive_holds_path (sc : Scanner) (sig : Signature) (now : DateTime) (r : Finding)
    (hs : sc.signature = some sig) (hfound : sc.verdict sig r = .found) :
    ∃ rd, sc.render now r = .ok rd ∧
      (r.isEntityUrl = false → rd.archive =
        "[" ++ now.stamp ++ "] - /" ++ r.entity ++ " - " ++ toString r.status ++ redirectText r) ∧
      ∀ u h, r.isEntityUrl = true → parse r.entity = .ok u → u.host = some h →
        u.render = r.entity → u.userinfoText = "" → (∃ rest, u.pathText = "/" ++ rest) →
        rd.archive = "[" ++ now.stamp ++ "] - " ++ (u.pathText ++ u.tailText) ++ " - " ++
          toString r.status ++ redirectText r ∧
        r.entity = u.scheme ++ "://" ++ u.hostWithPort ++ (u.pathText ++ u.tailText) := by
  refine ⟨_, render_of_signature hs, fun hw => ?_, fun u h he hp hh hr hui hrest => ?_⟩
  · simp [hfound, archiveLine, archivePath_of_word hw]
  obtain ⟨rest, hpath⟩ := hrest
  refine ⟨?_, ?_⟩
  · -- the slash the cut takes off is the one in front of the path field
    have hsep (t : String) : "] - /" ++ t = "] - " ++ ("/" ++ t) := by
      rw [← String.append_assoc]
      rfl
    simp only [hfound, if_true, archiveLine, archivePath_of_written he hp hh hr hui hpath, hpath,
      String.append_assoc, hsep]
  · rw [← hr, Url.render_of_host hh, Url.hostWithPort_of_host hh, hui]
    simp only [String.append_assoc, String.empty_append]

/-- An address on port 8080 with a query is archived as its path and query. -/
theorem archive_holds_path_api :
    let sc : Scanner := { options := { url := "http://h/" }, signature := some {} }
    let r : Finding := { entity := "http://h:8080/api/v1?x=1", status := 200, isEntityUrl := true }
    ∃ rd, sc.render (DateTime.ofSeconds 0) r = .ok rd ∧
      rd.archive = "[1970-01-01 00:00:00] - /api/v1?x=1 - 200" := by
  intro sc r
  let u : Url :=
    { scheme := "http", host := some (.domain "h"), port := some 8080,
      path := .segments ["api", "v1"], query := some "x=1" }
  have hp : parse r.entity = .ok u := by decide +kernel
  obtain ⟨rd, hrd, -, hurl⟩ := archive_holds_path sc {} (DateTime.ofSeconds 0) r rfl (by decide)
  obtain ⟨harch, -⟩ := hurl _ _ rfl hp rfl (by decide +kernel) rfl ⟨"api/v1", rfl⟩
  exact ⟨rd, hrd, by rw [harch]; decide +kernel⟩

/-- The address `http://h:80/x` is read with host `h` and path `/x`, and found; but the reader
drops the default port it names, so the cut does not match and the archive keeps the
scheme and the host. -/
theorem archive_keeps_written_default_port :
    let sc : Scanner := { options := { url := "http://h/" }, signature := some {} }
    let r : Finding := { entity := "http://h:80/x", status := 200, isEntityUrl := true }
    (∃ u, parse r.entity = .ok u ∧ u.host = some (.domain "h") ∧ u.pathText = "/x") ∧
      sc.verdict {} r = .found ∧
      ∃ rd, sc.render (DateTime.ofSeconds 0) r = .ok rd ∧
        rd.archive = "[1970-01-01 00:00:00] - /http://h:80/x - 200" := by
  intro sc r
  let u : Url := { scheme := "http", host := some (.domain "h"), path := .segments ["x"] }
  have hp : parse r.entity = .ok u := by decide +kernel
  exact ⟨⟨u, hp, rfl, rfl⟩, by decide, _, render_of_signature rfl, by decide +kernel⟩

end Discovery.Dir
