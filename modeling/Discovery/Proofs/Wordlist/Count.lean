import Discovery.Program
import Discovery.Proofs.Files.Frame
import Discovery.Proofs.Text.LineFeed
/-!
# Word lists are counted before they are read

A word list is read line by line, each line cut at line feeds and decoded on its own;
before the scan, the same list is read whole, decoded, cut into lines and counted. The two
readings agree for every list of bytes, also for bytes that are no UTF-8, for carriage
returns and for a missing final line feed: the words of the bytes are the meaningful lines
of the decoded text (`wordsOfBytes_eq_meaningfulLines`), so the candidates are these lines
expanded, and their number is the count made in advance. A line without the placeholder
gives one candidate; one with it gives one per extension, and one more for the blank
extension (`sum_length_expand`).

The scan chains the archived addresses ahead of the word list and counts both, so with a
word list file its counters expect exactly the candidates it will take
(`candidateSources_expected`).

Main statement: `candidates_match_expected_count`.
-/

namespace Discovery.Wordlist

open Discovery.Text

/-! ## The words of a list of bytes -/

theorem splitLines_eq_splitOn (bs : List UInt8) : splitLines bs = bs.splitOn 0x0A := by
  induction bs with
  | nil => rfl
  | cons b bs ih =>
    rw [splitLines, List.splitOn, List.splitOnP_cons_eq_if_modifyHead, ← List.splitOn, ← ih]
    by_cases hb : b = 0x0A
    · simp [hb]
    · cases h : splitLines bs with
      | nil => exact absurd (ih ▸ h) (List.splitOnP_ne_nil _ _)
      | cons l ls => simp [hb]

theorem splitLines_ne_nil (bs : List UInt8) : splitLines bs ≠ [] := by
  rw [splitLines_eq_splitOn]
  exact List.splitOnP_ne_nil _ _

/-- No line holds a line feed. -/
theorem newline_not_mem_of_mem_splitLines :
    ∀ {bs l : List UInt8}, l ∈ splitLines bs → 0x0A ∉ l
  | [], l, h => by simp [splitLines] at h; simp [h]
  | b :: bs, l, h => by
    rw [splitLines] at h
    split at h
    · rcases List.mem_cons.mp h with rfl | h
      · simp
      · exact newline_not_mem_of_mem_splitLines h
    · next hb =>
      split at h
      · next hs => exact absurd hs (splitLines_ne_nil bs)
      · next l' ls hs =>
        -- the first line gained the byte in front, which is no line feed
        rcases List.mem_cons.mp h with rfl | h
        · have hl' : l' ∈ splitLines bs := hs ▸ List.mem_cons_self ..
          simp [Ne.symm hb, newline_not_mem_of_mem_splitLines hl']
        · exact newline_not_mem_of_mem_splitLines (hs ▸ List.mem_cons_of_mem _ h)

/-- Cutting the decoded text at line feeds gives the decoded lines of the bytes. -/
theorem splitNewline_decodeLossy (bs : List UInt8) :
    splitNewline (decodeLossy bs) = (splitLines bs).map decodeLossy := by
  have hbs : bs = [0x0A].intercalate (splitLines bs) := by
    rw [splitLines_eq_splitOn, List.intercalate_splitOn]
  conv => lhs; rw [hbs]
  rw [decodeLossy_intercalate, splitNewline_eq_splitOn, List.splitOn_intercalate]
  · intro l hl
    obtain ⟨p, hp, rfl⟩ := List.mem_map.mp hl
    exact newline_not_mem_decodeLossy p (newline_not_mem_of_mem_splitLines hp)
  · rw [ne_eq, List.map_eq_nil_iff]
    exact splitLines_ne_nil bs

/-- The words read line by line are the meaningful lines of the text decoded whole. -/
theorem wordsOfBytes_eq_meaningfulLines (bs : List UInt8) :
    wordsOfBytes bs = meaningfulLines (decodeLossyString bs) := by
  rw [decodeLossyString, meaningfulLines_ofList, splitNewline_decodeLossy, List.map_map]
  rfl

/-! ## Counting candidates -/

/-- The candidates of a list of lines: one for a line without the placeholder, one per
extension for a line with it, and one more for each such line when the blank extension is
on. -/
theorem sum_length_expand (e : Expansion) (ws : List String) :
    (ws.map fun w => (e.expand w).length).sum =
      ws.length + ws.countP (contains · placeholder) * e.extensions.length -
        (if e.blank then 0 else ws.countP (contains · placeholder)) := by
  induction ws with
  | nil => simp
  | cons w ws ih =>
    have hle : ws.countP (contains · placeholder) ≤ ws.length := List.countP_le_length
    rw [List.map_cons, List.sum_cons, ih, length_expand, List.countP_cons, List.length_cons]
    -- a marked line adds its extensions and, with the blank extension on, the bare word
    cases e.blank <;> by_cases hw : contains w placeholder = true <;> simp [hw, Nat.add_mul] <;>
      omega

theorem expectedCount_eq_sum (e : Expansion) (s : String) :
    e.expectedCount s = ((meaningfulLines s).map fun w => (e.expand w).length).sum := by
  rw [Expansion.expectedCount, List.sum_eq_foldl]

theorem length_candidates (e : Expansion) (bs : List UInt8) :
    (e.candidates bs).length = ((wordsOfBytes bs).map fun w => (e.expand w).length).sum := by
  simp [Expansion.candidates, List.length_flatMap]

/-- The candidates read line by line are as many as the count of the text decoded whole. -/
theorem length_candidates_eq_expectedCount (e : Expansion) (bs : List UInt8) :
    (e.candidates bs).length = e.expectedCount (decodeLossyString bs) := by
  rw [length_candidates, expectedCount_eq_sum, wordsOfBytes_eq_meaningfulLines]

/-! ## Reading a word list file -/

section Files

open Discovery.Files

variable {fs : Tree} {path : String}

theorem countExpected_eq_ok {e : Expansion} {n : Option Nat} (hp : path ≠ "-")
    (h : countExpected fs path e = .ok n) :
    ∃ bs, fs.read path = .ok bs ∧ n = some (e.expectedCount (decodeLossyString bs)) := by
  unfold countExpected at h
  rw [if_neg hp] at h
  split at h
  · next bs hbs =>
    cases h
    exact ⟨bs, hbs, rfl⟩
  · cases h

/-- A word list file opens on the bytes that counting read. -/
theorem open_of_read {bs : List UInt8} (hp : path ≠ "-") (h : fs.read path = .ok bs) :
    Source.open fs path = .ok (.bytes bs) := by
  simp [Source.open, hp, Tree.lookup_of_read h, h]

end Files

end Discovery.Wordlist

namespace Discovery.Program

open Discovery.Files Discovery.Output

/-- With a word list file, a scan chains the archived addresses ahead of the candidates of
the file, and its counters expect the addresses and the count of the file. -/
theorem candidateSources_of_file {w : World} {o : Options} {fs fs' : Tree} {log log' : Log}
    {urls : List String} {bs : List UInt8}
    (hcorpus : corpusCandidates w o fs log = .ok (fs', log', urls)) (hfile : o.wordlist ≠ "-")
    (hread : fs'.read o.wordlist = .ok bs) :
    let e : Wordlist.Expansion := { extensions := o.extensionsParsed, blank := o.blankExtension }
    candidateSources w o fs log = (fs', log', .ok (urls.map Candidate.address ++ e.candidates bs,
      { expected := urls.length + e.expectedCount (Text.decodeLossyString bs) })) := by
  simp [candidateSources, hcorpus, Wordlist.countExpected, hfile, hread,
    Wordlist.open_of_read hfile hread, Tally.addExpected]

/-- With a word list file, the counters of a scan expect exactly the candidates it chains:
the archived addresses and the candidates of the file. -/
theorem candidateSources_expected {w : World} {o : Options} {fs : Tree} {log : Log}
    {cands : List Candidate} {tally : Tally} (hfile : o.wordlist ≠ "-")
    (h : (candidateSources w o fs log).2.2 = .ok (cands, tally)) :
    tally.expected = cands.length := by
  unfold candidateSources at h
  split at h
  · cases h
  · dsimp only at h
    split at h
    · cases h
    · cases h
    · next expected source hcount hopen =>
      obtain ⟨bs, hread, rfl⟩ := Wordlist.countExpected_eq_ok hfile hcount
      rw [Wordlist.open_of_read hfile hread] at hopen
      cases hopen
      cases h
      simp [Tally.addExpected, Wordlist.length_candidates_eq_expectedCount]

end Discovery.Program

namespace Discovery.Wordlist

open Discovery.Text

/-- For every list of bytes, the candidates of the list read line by line are the meaningful
lines of the list decoded whole, each expanded into words; their number is the count made
before the scan, the number of lines plus, for each line with the placeholder, one per
extension less the bare word when the blank extension is off. So a scan over a word list
file expects exactly the candidates it takes. -/
theorem candidates_match_expected_count (e : Expansion) (bs : List UInt8) :
    let lines := meaningfulLines (decodeLossyString bs)
    let marked := lines.countP (contains · placeholder)
    e.candidates bs = lines.flatMap (fun w => (e.expand w).map Candidate.word) ∧
    (e.candidates bs).length = e.expectedCount (decodeLossyString bs) ∧
    e.expectedCount (decodeLossyString bs) =
      lines.length + marked * e.extensions.length - (if e.blank then 0 else marked) ∧
    ∀ (w : Program.World) (o : Options) (fs : Files.Tree) (log : Output.Log)
      (cands : List Candidate) (tally : Tally), o.wordlist ≠ "-" →
      (Program.candidateSources w o fs log).2.2 = .ok (cands, tally) →
      tally.expected = cands.length := by
  intro lines marked
  refine ⟨by rw [Expansion.candidates, wordsOfBytes_eq_meaningfulLines],
    length_candidates_eq_expectedCount e bs, ?_, ?_⟩
  · rw [expectedCount_eq_sum, sum_length_expand]
  · intro w o fs log cands tally hfile h
    exact Program.candidateSources_expected hfile h

/-- A list with a Latin-1 byte, a carriage return and no final line feed: the bad byte
becomes a replacement character, the placeholder line gives the bare word and one word per
extension, and a scan over it as a file expects the three candidates it takes. -/
theorem candidates_match_expected_count_latin1 :
    let e : Expansion := { extensions := ["php"], blank := true }
    let bytes : List UInt8 := [0x63, 0xE9, 0x0D, 0x0A, 0x23, 0x0A, 0x69, 0x2E, 0x25, 0x45, 0x58, 0x54, 0x25]
    let o : Options := { wordlist := "w", extensionsParsed := ["php"], blankExtension := true }
    let fs : Files.Tree := { nodes := [(["w"], .file bytes)] }
    let log : Output.Log := { shown := .warn, now := Time.DateTime.ofSeconds 0 }
    let w : Program.World := { files := fs, tokens := ⟨"", "", "", ""⟩ }
    let cands := [Candidate.word "c�", Candidate.word "i", Candidate.word "i.php"]
    e.candidates bytes = cands ∧ o.wordlist ≠ "-" ∧
      (Program.candidateSources w o fs log).2.2 = .ok (cands, { expected := 3 }) ∧
      ({ expected := 3 } : Tally).expected = cands.length := by
  intro e bytes o fs log w cands
  have hcands : e.candidates bytes = cands := by decide +kernel
  have hcount : e.expectedCount (decodeLossyString bytes) = 3 := by decide +kernel
  have hfile : o.wordlist ≠ "-" := by decide
  have hread : fs.read o.wordlist = .ok bytes := by cbv
  have hsources : (Program.candidateSources w o fs log).2.2 = .ok (cands, { expected := 3 }) := by
    rw [Program.candidateSources_of_file rfl hfile hread]
    simpa using ⟨hcands, hcount⟩
  exact ⟨hcands, hfile, hsources, (candidates_match_expected_count e bytes).2.2.2 w o fs log
    cands { expected := 3 } hfile hsources⟩

end Discovery.Wordlist
