import Discovery.Output.Writer
import Discovery.Proofs.Files.Frame
import Discovery.Proofs.Json.Readback
import Discovery.Proofs.Text.LineFeed
/-!
# The output files stay aligned

A run writes each finding it shows to three files: its shown line to the matches file, its
archive line (when there is one) to the archive, and its JSON line to the findings file.
Which findings are shown is a matter of rendering alone (`shown`); what the files gain is a
matter of those findings alone (`writeFindings_eq`): the findings are written in order, one
`record` each.

Once the files are open, and they are three different files, every append succeeds and
touches its own file only (`Holds`, `record_holds`). Opening empties the matches file and
keeps what the others held (`open_holds`).

Main statement: `outputs_stay_aligned`. After a run the count of reported findings and the
printed lines are those of the shown findings; the matches file holds exactly their shown
lines; the archive holds what it held before and then their archive lines that are not empty;
the findings file holds what it held before and then one JSON line for each, and each of
these lines reads back as its finding without the body.
-/

namespace Discovery.Text

@[simp] theorem encode_empty : encode "" = [] := rfl

theorem encode_append (s t : String) : encode (s ++ t) = encode s ++ encode t := by
  simp only [encode, String.toList_append, List.flatMap_append]

end Discovery.Text

namespace Discovery.Output

open Discovery.Files Discovery.Json Discovery.Text Discovery.Time

/-! ## Which findings are shown -/

/-- The findings of a run that are shown, with their rendered forms, in order: those that
render, with a shown line that is not empty. -/
def shown (p : Plugin) (now : DateTime) (rs : List Finding) : List (Finding × Rendered) :=
  rs.filterMap fun r =>
    match p.render now r with
    | .ok rd => if rd.isReported then some (r, rd) else none
    | .error _ => none

theorem shown_cons (p : Plugin) (now : DateTime) (r : Finding) (rs : List Finding) :
    shown p now (r :: rs) = shown p now [r] ++ shown p now rs := by
  rw [shown, ← List.singleton_append, List.filterMap_append]
  rfl

/-- Record shown findings one after another. -/
def recordAll (f : OutputFiles) (fs : Tree) (sh : List (Finding × Rendered)) : Tree :=
  sh.foldl (fun fs s => (record fs f s.2 s.1).1) fs

theorem recordAll_append (f : OutputFiles) (fs : Tree) (sh sh' : List (Finding × Rendered)) :
    recordAll f fs (sh ++ sh') = recordAll f (recordAll f fs sh) sh' :=
  List.foldl_append

/-- One finding is counted, printed and recorded exactly when it is shown. -/
theorem writeFinding_eq (p : Plugin) (now : DateTime) (f : OutputFiles) (w : Written)
    (r : Finding) :
    (writeFinding p now f w r).reported = w.reported + (shown p now [r]).length ∧
      (writeFinding p now f w r).printed = w.printed ++ (shown p now [r]).map (·.2.display) ∧
      (writeFinding p now f w r).tree = recordAll f w.tree (shown p now [r]) := by
  unfold writeFinding
  simp only [shown, List.filterMap_cons, List.filterMap_nil]
  cases hr : p.render now r with
  | error e => simp [recordAll]
  | ok rd =>
    by_cases hrep : rd.isReported = true
    · -- counted and printed whether the record fails or not
      rcases hrec : record w.tree f rd r with ⟨fs, _ | e⟩ <;> simp [hrep, recordAll, hrec]
    · simp [hrep, recordAll]

/-- **A run writes what it shows.** The reported count grows by the number of shown
findings, their shown lines are printed, and they are recorded in order. -/
theorem writeFindings_eq (p : Plugin) (now : DateTime) (f : OutputFiles) (rs : List Finding) :
    ∀ w : Written,
      (writeFindings p now f w rs).reported = w.reported + (shown p now rs).length ∧
      (writeFindings p now f w rs).printed = w.printed ++ (shown p now rs).map (·.2.display) ∧
      (writeFindings p now f w rs).tree = recordAll f w.tree (shown p now rs) := by
  induction rs with
  | nil => simp [writeFindings, shown, recordAll]
  | cons r rs ih =>
    intro w
    obtain ⟨h1, h2, h3⟩ := writeFinding_eq p now f w r
    obtain ⟨i1, i2, i3⟩ := ih (writeFinding p now f w r)
    simp only [writeFindings, List.foldl_cons] at i1 i2 i3 ⊢
    rw [shown_cons, List.length_append, List.map_append, recordAll_append, i1, i2, i3, h1, h2, h3]
    exact ⟨by omega, List.append_assoc .., rfl⟩

/-! ## Appending to separate files -/

/-- The three files of a scan are three different files of the tree. -/
def OutputFiles.Separate (f : OutputFiles) (cwd : List String) : Prop :=
  resolveParts cwd f.matchFile ≠ resolveParts cwd f.archive ∧
    ∀ path ∈ f.json, resolveParts cwd path ≠ resolveParts cwd f.matchFile ∧
      resolveParts cwd path ≠ resolveParts cwd f.archive

instance (f : OutputFiles) (cwd : List String) : Decidable (f.Separate cwd) :=
  inferInstanceAs (Decidable (_ ∧ _))

/-- The output files can be read and hold `m`, `a` and, when there is a findings file, `j`. -/
structure Holds (fs : Tree) (f : OutputFiles) (m a j : List UInt8) : Prop where
  matchFile : fs.read f.matchFile = .ok m
  archive : fs.read f.archive = .ok a
  json : ∀ path ∈ f.json, fs.read path = .ok j

section Holds

variable {fs : Tree} {f : OutputFiles} {m a j : List UInt8}

theorem Holds.appendLine_matchFile (hh : Holds fs f m a j) (hsep : f.Separate fs.cwd)
    (line : String) :
    ∃ fs', appendLine fs f.matchFile line = .ok fs' ∧ fs'.cwd = fs.cwd ∧
      Holds fs' f (m ++ encode (line ++ "\n")) a j := by
  obtain ⟨fs', happ, hw⟩ := Tree.append_of_read hh.matchFile (encode (line ++ "\n"))
  exact ⟨fs', happ, hw.cwd, hw.read_self, hw.read_other _ _ (Ne.symm hsep.1) hh.archive,
    fun path hp => hw.read_other _ _ (hsep.2 path hp).1 (hh.json path hp)⟩

/-- An archive line is added when it is not empty. -/
theorem Holds.addArchiveLine (hh : Holds fs f m a j) (hsep : f.Separate fs.cwd) (line : String) :
    ∃ fs', (if line.isEmpty then .ok fs else appendLine fs f.archive line) = .ok fs' ∧
      fs'.cwd = fs.cwd ∧ Holds fs' f m (a ++ encode (unlines ([line].filter (!·.isEmpty)))) j := by
  cases he : line.isEmpty with
  | true => exact ⟨fs, rfl, rfl, by simpa [he, unlines] using hh⟩
  | false =>
    obtain ⟨fs', happ, hw⟩ := Tree.append_of_read hh.archive (encode (line ++ "\n"))
    have hh' : Holds fs' f m (a ++ encode (line ++ "\n")) j :=
      ⟨hw.read_other _ _ hsep.1 hh.matchFile, hw.read_self,
        fun path hp => hw.read_other _ _ (hsep.2 path hp).2 (hh.json path hp)⟩
    exact ⟨fs', happ, hw.cwd, by simpa [he, unlines] using hh'⟩

theorem Holds.append_json (hh : Holds fs f m a j) (hsep : f.Separate fs.cwd) {path : String}
    (hp : path ∈ f.json) (bs : List UInt8) :
    ∃ fs', fs.append path bs = .ok fs' ∧ fs'.cwd = fs.cwd ∧ Holds fs' f m a (j ++ bs) := by
  obtain ⟨fs', happ, hw⟩ := Tree.append_of_read (hh.json path hp) bs
  refine ⟨fs', happ, hw.cwd, hw.read_other _ _ (Ne.symm (hsep.2 path hp).1) hh.matchFile,
    hw.read_other _ _ (Ne.symm (hsep.2 path hp).2) hh.archive, fun path' hp' => ?_⟩
  -- there is one findings file
  obtain rfl : path' = path := Option.mem_unique hp' hp
  exact hw.read_self

/-- **One record.** Recording a shown finding succeeds: it adds its shown line to the matches
file, its archive line, when not empty, to the archive, and its JSON line to the findings
file. -/
theorem record_holds (hh : Holds fs f m a j) (hsep : f.Separate fs.cwd) (rd : Rendered)
    (r : Finding) :
    ∃ fs', record fs f rd r = (fs', none) ∧ fs'.cwd = fs.cwd ∧
      Holds fs' f (m ++ encode (rd.display ++ "\n"))
        (a ++ encode (unlines ([rd.archive].filter (!·.isEmpty)))) (j ++ encode r.jsonLine) := by
  obtain ⟨fs1, h1, hcwd1, hh1⟩ := hh.appendLine_matchFile hsep rd.display
  obtain ⟨fs2, h2, hcwd2, hh2⟩ := hh1.addArchiveLine (hcwd1 ▸ hsep) rd.archive
  simp only [record, h1, h2]
  cases hj : f.json with
  | none => exact ⟨fs2, rfl, hcwd2.trans hcwd1, hh2.1, hh2.2, fun path hp => by simp [hj] at hp⟩
  | some path =>
    obtain ⟨fs3, h3, hcwd3, hh3⟩ :=
      hh2.append_json (hcwd2 ▸ hcwd1 ▸ hsep) (Option.mem_def.mpr hj) (encode r.jsonLine)
    exact ⟨fs3, by simp [h3], hcwd3.trans (hcwd2.trans hcwd1), hh3⟩

@[simp] theorem unlines_singleton (l : String) : unlines [l] = l ++ "\n" := by
  simp [unlines]

theorem unlines_append (ls ls' : List String) : unlines (ls ++ ls') = unlines ls ++ unlines ls' := by
  simp only [unlines, List.map_append, String.join_append]

@[simp] theorem recordAll_singleton (f : OutputFiles) (fs : Tree) (s : Finding × Rendered) :
    recordAll f fs [s] = (record fs f s.2 s.1).1 := rfl

/-- **All records.** Recording shown findings in order adds their shown lines to the matches
file, their archive lines that are not empty to the archive, and their JSON lines to the
findings file, in order. -/
theorem recordAll_holds (sh : List (Finding × Rendered)) :
    ∀ {fs : Tree} {m a j : List UInt8}, Holds fs f m a j → f.Separate fs.cwd →
      (recordAll f fs sh).cwd = fs.cwd ∧
      Holds (recordAll f fs sh) f (m ++ encode (unlines (sh.map (·.2.display))))
        (a ++ encode (unlines ((sh.map (·.2.archive)).filter (!·.isEmpty))))
        (j ++ encode (String.join (sh.map (·.1.jsonLine)))) := by
  induction sh with
  | nil =>
    intro fs m a j hh _
    simpa [recordAll, unlines] using hh
  | cons s sh ih =>
    intro fs m a j hh hsep
    obtain ⟨fs1, hrec, hcwd1, hh1⟩ := record_holds hh hsep s.2 s.1
    obtain ⟨hcwd2, hh2⟩ := ih hh1 (hcwd1 ▸ hsep)
    -- the first record, then the others
    rw [← List.singleton_append, recordAll_append, recordAll_singleton, hrec]
    refine ⟨hcwd2.trans hcwd1, ?_⟩
    simpa only [List.map_append, List.filter_append, unlines_append, String.join_append,
      encode_append, List.append_assoc, List.map_cons, List.map_nil, unlines_singleton,
      String.join_cons, String.join_nil, String.append_empty] using hh2

/-- **Opening.** When opening succeeds and the files are three different files, the matches
file is empty, and the archive and the findings file hold what they held before. -/
theorem open_holds {fs₀ fs : Tree} (hopen : f.open fs₀ = (fs, none))
    (hsep : f.Separate fs₀.cwd) :
    fs.cwd = fs₀.cwd ∧
      Holds fs f [] (fs₀.bytesAt f.archive) ((f.json.map fs₀.bytesAt).getD []) := by
  unfold OutputFiles.open at hopen
  -- each stage of opening succeeded
  cases h1 : fs₀.write f.matchFile [] with
  | error e => simp [h1] at hopen
  | ok fs1 =>
    cases h2 : fs1.append f.archive [] with
    | error e => simp [h1, h2] at hopen
    | ok fs2 =>
      have w1 := Tree.wrote_of_write h1
      have w2 := Tree.wrote_of_append h2
      have hcwd : fs2.cwd = fs₀.cwd := w2.cwd.trans w1.cwd
      have hm2 : fs2.read f.matchFile = .ok [] :=
        w2.read_other _ _ (w1.cwd ▸ hsep.1) w1.read_self
      have ha2 : fs2.read f.archive = .ok (fs₀.bytesAt f.archive) := by
        rw [w2.read_self, List.append_nil, w1.bytesAt_other _ (Ne.symm hsep.1)]
      cases hj : f.json with
      | none =>
        simp only [h1, h2, hj, Prod.mk.injEq, and_true] at hopen
        subst hopen
        exact ⟨hcwd, hm2, ha2, fun path hp => by simp [hj] at hp⟩
      | some path =>
        have hsp := hsep.2 path (Option.mem_def.mpr hj)
        cases h3 : fs2.append path [] with
        | error e => simp [h1, h2, hj, h3] at hopen
        | ok fs3 =>
          simp only [h1, h2, hj, h3, Prod.mk.injEq, and_true] at hopen
          subst hopen
          have w3 := Tree.wrote_of_append h3
          refine ⟨w3.cwd.trans hcwd, w3.read_other _ _ (hcwd ▸ Ne.symm hsp.1) hm2,
            w3.read_other _ _ (hcwd ▸ Ne.symm hsp.2) ha2, fun path' hp' => ?_⟩
          obtain rfl : path' = path := Option.mem_unique hp' (Option.mem_def.mpr hj)
          -- the findings file was not touched by the two writes before
          rw [w3.read_self, List.append_nil, Option.map_some, Option.getD_some,
            w2.bytesAt_other _ (w1.cwd ▸ hsp.2), w1.bytesAt_other _ hsp.1]

end Holds

/-! ## JSON lines read back -/

/-- Every member of a finding's object is a single value. -/
theorem scalar_toJson_members (r : Finding) :
    ∃ fs, r.toJson = .obj fs ∧ ∀ m ∈ fs, Scalar m.2 := by
  refine ⟨_, rfl, fun m hm => ?_⟩
  simp only [List.mem_cons, List.mem_nil_iff, or_false] at hm
  rcases hm with rfl | rfl | rfl | rfl | rfl | rfl
  · trivial
  · trivial
  · cases r.size <;> trivial
  · trivial
  · cases r.redirect <;> trivial
  · cases r.extra <;> trivial

theorem getLast?_render_obj (fs : List (String × Json)) :
    (render (.obj fs)).toList.getLast? = some '}' := by
  rw [toList_render_obj, ← List.cons_append, List.getLast?_concat]

/-- **JSON lines read back.** The text of the JSON lines of findings has one line for each,
and each line reads back as its finding without the body. -/
theorem lines_jsonLines (rs : List Finding) :
    (lines (String.join (rs.map Finding.jsonLine))).map (fun l => (parse? l).bind Finding.ofJson?) =
      rs.map fun r => some { r with content := none } := by
  have hjoin : String.join (rs.map Finding.jsonLine) = unlines (rs.map fun r => render r.toJson) := by
    simp only [unlines, List.map_map]
    rfl
  -- a rendered object holds no line feed and ends with a brace
  have hline : ∀ l ∈ rs.map fun r => render r.toJson,
      '\n' ∉ l.toList ∧ l.toList.getLast? ≠ some '\r' := by
    intro l hl
    obtain ⟨r, -, rfl⟩ := List.mem_map.mp hl
    obtain ⟨fs, hfs, hs⟩ := scalar_toJson_members r
    rw [hfs, getLast?_render_obj]
    exact ⟨newline_not_mem_render_obj hs, by decide⟩
  rw [hjoin, lines_unlines _ hline, List.map_map]
  apply List.map_congr_left
  intro r _
  obtain ⟨fs, hfs, hs⟩ := scalar_toJson_members r
  simp only [Function.comp_apply]
  rw [hfs, parse?_render_obj hs, ← hfs, Option.bind_some, ofJson_toJson]

/-! ## A whole run -/

/-- **The output files stay aligned.** Take files that open, and that are three different
files. After a run, the reported count and the printed lines are those of the findings
shown. The matches file holds exactly their shown lines, in order. The archive holds what it
held before, then their archive lines that are not empty, in order. The findings file holds
what it held before, then their JSON lines, in order; these lines are one for each finding
shown, and each reads back as its finding without the body. -/
theorem outputs_stay_aligned (p : Plugin) (now : DateTime) (f : OutputFiles) (fs₀ fs : Tree)
    (log : Log) (rs : List Finding) (hopen : f.open fs₀ = (fs, none))
    (hsep : f.Separate fs₀.cwd) :
    let w := writeFindings p now f { tree := fs, log } rs
    let sh := shown p now rs
    w.reported = sh.length ∧ w.printed = sh.map (·.2.display) ∧
      w.tree.read f.matchFile = .ok (encode (unlines (sh.map (·.2.display)))) ∧
      w.tree.read f.archive = .ok (fs₀.bytesAt f.archive ++
        encode (unlines ((sh.map (·.2.archive)).filter (!·.isEmpty)))) ∧
      ∀ path ∈ f.json,
        w.tree.read path =
          .ok (fs₀.bytesAt path ++ encode (String.join (sh.map (·.1.jsonLine)))) ∧
        (lines (String.join (sh.map (·.1.jsonLine)))).map
            (fun l => (parse? l).bind Finding.ofJson?) =
          sh.map fun s => some { s.1 with content := none } := by
  intro w sh
  obtain ⟨hrep, hprint, htree⟩ := writeFindings_eq p now f rs { tree := fs, log }
  obtain ⟨hcwd, hopened⟩ := open_holds hopen hsep
  obtain ⟨-, hfinal⟩ := recordAll_holds sh hopened (hcwd ▸ hsep)
  refine ⟨by simpa using hrep, by simpa using hprint, ?_, ?_, fun path hp => ⟨?_, ?_⟩⟩
  · rw [htree]
    simpa using hfinal.matchFile
  · rw [htree]
    exact hfinal.archive
  · rw [htree, hfinal.json path hp, Option.mem_def.mp hp]
    rfl
  · have := lines_jsonLines (sh.map (·.1))
    simpa only [List.map_map, Function.comp_def] using this

/-- A verbose path scan writes into files of the working directory, with an archive that
already holds a line, a found finding and a missed one: both are shown, and only the found
one adds an archive line. -/
theorem outputs_stay_aligned_verbose_scan :
    let f : OutputFiles := { matchFile := "m", archive := "a", json := some "j" }
    let fs₀ : Tree := { nodes := [(["a"], .file [65, 10])] }
    let p : Plugin := .dir
      { options := { url := "http://h/", verbose := true, excludedStatusParsed := [404] },
        signature := some {} }
    let rs : List Finding := [{ entity := "admin", status := 200 }, { entity := "x", status := 404 }]
    let now := DateTime.ofSeconds 0
    let w := writeFindings p now f { tree := (f.open fs₀).1, log := { shown := .warn, now } } rs
    f.open fs₀ = ((f.open fs₀).1, none) ∧ f.Separate fs₀.cwd ∧ w.reported = 2 ∧
      w.tree.read f.archive =
        .ok ([65, 10] ++ encode (unlines ["[1970-01-01 00:00:00] - /admin - 200"])) := by
  intro f fs₀ p rs now w
  have hopen : f.open fs₀ = ((f.open fs₀).1, none) := Prod.ext rfl (by cbv)
  have hsep : f.Separate fs₀.cwd := by
    refine ⟨by cbv; decide, fun path hp => ?_⟩
    cases hp
    exact ⟨by cbv; decide, by cbv; decide⟩
  have hprev : fs₀.bytesAt f.archive = [65, 10] := by cbv
  -- both findings are shown; the missed one has no archive line
  have hshown : (shown p now rs).length = 2 ∧
      ((shown p now rs).map (·.2.archive)).filter (!·.isEmpty) =
        ["[1970-01-01 00:00:00] - /admin - 200"] := by decide +kernel
  obtain ⟨hrep, -, -, harch, -⟩ := outputs_stay_aligned p now f fs₀ _ _ rs hopen hsep
  exact ⟨hopen, hsep, hrep.trans hshown.1, by rw [harch, hprev, hshown.2]⟩

end Discovery.Output
