import Discovery.Proofs.Corpus.Classes
import Discovery.Proofs.Web.Read
/-!
# Normalizing a normalized corpus

A line whose path names an asset is written anew as the address of its directory; any other
line is kept as it is. The directory's address is cut to a path that ends with a slash
(`pathText_stripAsset`), so it names no asset and is never cut again
(`stripAsset_eq_none_of_end`), and its written form starts with the scheme's letter and
ends with that slash, so trimming leaves it whole (`solid_stripAsset_render`). When that address reads back as the same host, port, path and
query, as the address standard promises, reading the written line again gives the same entry
(`Entry.parse_url_parse`).

Normalizing a normalized corpus therefore keeps every one of its lines, one per class, and only
sorts them: the first pass does not leave them in order, since writing a directory's address
anew lowers its host (**`normalize_normalize_eq_sort`**).
-/

namespace Discovery.Corpus

open Discovery.Text Discovery.Web Discovery.Wildcard

/-- An archived line whose address, if cut back to the directory of an asset, reads back. -/
def CutReadsBack (raw : String) : Prop :=
  ∀ v ∈ (Web.parse raw).toOption.bind stripAsset, v.ReadsBack

instance : DecidablePred CutReadsBack := fun raw =>
  inferInstanceAs (Decidable (∀ v ∈ (Web.parse raw).toOption.bind stripAsset, _))

/-! ## The cut back to a directory -/

/-- Cutting the last segment off a text that holds a slash leaves that slash at its end. -/
theorem getLast?_take_of_lastSegment {path : List Char}
    (h : (path.reverse.takeWhile (· ≠ '/')).reverse.length ≠ path.length) :
    (path.take (path.length - (path.reverse.takeWhile (· ≠ '/')).reverse.length)).getLast? =
      some '/' := by
  -- the text is what lies before its last segment, then that segment
  have hsplit := congrArg List.reverse
    (List.takeWhile_append_dropWhile (p := fun c : Char => decide (c ≠ '/')) (l := path.reverse))
  rw [List.reverse_append, List.reverse_reverse] at hsplit
  set tw := path.reverse.takeWhile (· ≠ '/')
  set dw := path.reverse.dropWhile (· ≠ '/')
  have hlen : path.length = dw.length + tw.length := by
    rw [← hsplit]
    simp
  have hne : dw ≠ [] := by
    rintro hdw
    simp [hdw] at hlen
    exact h (by simp [hlen])
  have hhead := List.head_dropWhile_not (fun c : Char => decide (c ≠ '/')) hne
  simp only [decide_eq_false_iff_not, not_not] at hhead
  rw [List.length_reverse, hlen, Nat.add_sub_cancel, ← hsplit, List.take_left' (by simp),
    List.getLast?_reverse, List.head?_eq_some_head hne, hhead]

/-- The address cut back to a directory: the path up to its last slash, set anew, with no query
and no fragment. -/
theorem stripAsset_eq_some {u v : Url} (h : stripAsset u = some v) :
    ∃ dir : List Char, dir <+: u.pathText.toList ∧ dir.getLast? = some '/' ∧
      v = { u.withPath (String.ofList dir) with query := none, fragment := none } := by
  unfold stripAsset at h
  simp only at h
  split at h
  · cases h
  · next hcut =>
    split at h
    · cases h
      exact ⟨_, List.take_prefix _ _, getLast?_take_of_lastSegment hcut, rfl⟩
    · cases h

theorem isAssetName_nil : isAssetName [] = false := rfl

/-- A path that ends with a slash, or holds none, names no asset. -/
theorem stripAsset_eq_none_of_end {w : Url}
    (h : w.pathText.toList = ['%', '2', 'F'] ∨ w.pathText.toList.getLast? = some '/') :
    stripAsset w = none := by
  unfold stripAsset
  simp only
  rcases h with h | h
  · rw [h, if_pos (by decide)]
  · obtain ⟨p, hp⟩ := List.getLast?_eq_some_iff.mp h
    rw [hp, if_neg (by simp), List.reverse_append]
    simp [isAssetName_nil]

theorem getLast?_encodeChars_control {cs : List Char} (h : cs.getLast? = some '/') :
    (encodeChars .control cs).getLast? = some '/' := by
  obtain ⟨c, rfl⟩ := List.getLast?_eq_some_iff.mp h
  rw [encodeChars, List.flatMap_append, List.flatMap_singleton,
    show encodeChar .control '/' = ['/'] from rfl, List.getLast?_append_of_ne_nil _ (by simp)]
  rfl

theorem toList_render_segments (segs : List String) :
    (UrlPath.segments segs).render.toList = segs.flatMap fun s => '/' :: s.toList := by
  simp [UrlPath.render, String.toList_join, List.flatMap_map]

theorem plain_render_segments {segs : List String} (h : (UrlPath.segments segs).Clean) :
    Plain (UrlPath.segments segs).render.toList := by
  rw [toList_render_segments]
  intro c hc
  obtain ⟨s, hs, hc⟩ := List.mem_flatMap.mp hc
  rcases List.mem_cons.mp hc with rfl | hc
  · decide
  · exact h s hs c hc

/-- The directory of an asset in a whole path: its escaped text, after `%2F` when it starts
with a slash. -/
theorem pathText_withPath_whole {u : Url} {t : String} (hu : u.path = .whole t)
    {dir : List Char} (hdir : dir.getLast? = some '/') :
    (u.withPath (String.ofList dir)).pathText.toList = ['%', '2', 'F'] ∨
      (u.withPath (String.ofList dir)).pathText.toList.getLast? = some '/' := by
  unfold Url.withPath
  rw [hu]
  simp only [Url.pathText, UrlPath.render, String.toList_ofList]
  split
  · -- a directory at the root of the path is written as an escaped slash
    rename_i r
    cases r with
    | nil => exact .inl rfl
    | cons c r =>
      have hlast : (c :: r).getLast? = some '/' := by simpa using hdir
      right
      rw [List.getLast?_append, getLast?_encodeChars_control hlast]
      rfl
  · exact .inr (getLast?_encodeChars_control hdir)

/-- The directory of an asset is written with a slash at its end, or, at the root of a whole
path, as the escaped slash. -/
theorem pathText_stripAsset {u v : Url} (hu : u.path.Clean) (h : stripAsset u = some v) :
    v.pathText.toList = ['%', '2', 'F'] ∨ v.pathText.toList.getLast? = some '/' := by
  obtain ⟨dir, hpre, hdir, rfl⟩ := stripAsset_eq_some h
  change (u.withPath (String.ofList dir)).pathText.toList = _ ∨
    (u.withPath (String.ofList dir)).pathText.toList.getLast? = _
  cases hp : u.path with
  | whole t => exact pathText_withPath_whole hp hdir
  | segments segs =>
    rw [hp] at hu
    obtain ⟨t, ht⟩ := hpre
    rw [Url.pathText, hp, toList_render_segments] at ht
    -- a segment path starts with a slash, and so does the directory
    obtain ⟨r, rfl⟩ : ∃ r, dir = '/' :: r := by
      cases dir with
      | nil => cases hdir
      | cons d r =>
        cases segs with
        | nil => cases ht
        | cons s rest =>
          simp only [List.cons_append, List.flatMap_cons, List.cons.injEq] at ht
          exact ⟨r, by rw [ht.1]⟩
    have hr : Plain r := fun c hc => plain_render_segments hu c (by
      rw [toList_render_segments, ← ht]
      simp [hc])
    have hend : r = [] ∨ r.getLast? = some '/' := by
      cases r with
      | nil => exact .inl rfl
      | cons c r => exact .inr (by simpa using hdir)
    obtain ⟨p, hq⟩ := withPath_segments_of_slash hp hr hend
    right
    rw [Url.pathText, hq, toList_render_segments, List.flatMap_append]
    simp

/-! ## The written directory -/

theorem isBlank_of_isLower {c : Char} (h : c.isLower) : isBlank c = false := by
  simp only [Char.isLower, Bool.and_eq_true, decide_eq_true_eq, UInt32.le_iff_toNat_le] at h
  change 97 ≤ c.toNat ∧ c.toNat ≤ 122 at h
  simp only [isBlank, Bool.or_eq_false_iff, Bool.and_eq_false_iff, decide_eq_false_iff_not,
    beq_eq_false_iff_ne]
  omega

/-- An address with neither query nor fragment, whose scheme starts with a small letter, is
written from that letter to the last character of its path. -/
theorem solid_render {v : Url} (hs : ∃ c r, v.scheme.toList = c :: r ∧ c.isLower)
    (hq : v.query = none) (hf : v.fragment = none) {d : Char}
    (hd : v.pathText.toList.getLast? = some d) (hb : isBlank d = false) :
    Solid v.render.toList := by
  obtain ⟨c, r, hc, hlow⟩ := hs
  constructor
  · exact ⟨c, by simp [Url.render, hc], isBlank_of_isLower hlow⟩
  · refine ⟨d, ?_, hb⟩
    simp only [Url.render, hq, hf, String.append_empty, String.toList_append]
    rw [List.getLast?_append, hd]
    rfl

/-- The directory of an asset is written as a solid text: trimming leaves it whole. -/
theorem solid_stripAsset_render {u v : Url} (hu : u.Readable) (h : stripAsset u = some v) :
    Solid v.render.toList := by
  obtain ⟨dir, -, -, hv⟩ := stripAsset_eq_some h
  have hs : v.scheme = u.scheme := by rw [hv]; exact withPath_scheme u _
  have hf : v.fragment = none := by rw [hv]
  rcases pathText_stripAsset hu.path h with hend | hend
  · exact solid_render (hs ▸ hu.scheme) (stripAsset_query h) hf (by rw [hend]; rfl) (by decide)
  · exact solid_render (hs ▸ hu.scheme) (stripAsset_query h) hf hend (by decide)

/-! ## Reading a written line again -/

theorem Entry.parse_of_strip {raw : String} {u v : Url} (hu : Web.parse raw = .ok u)
    (hv : stripAsset u = some v) : Entry.parse raw = ⟨v.hostWithPort, v.pathText, [], v.render⟩ := by
  simp [Entry.parse, hu, hv, stripAsset_query hv, formNames_nil, sortedSet, dedupAdjacent]

theorem Entry.parse_of_keep {raw : String} {u : Url} (hu : Web.parse raw = .ok u)
    (hv : stripAsset u = none) :
    Entry.parse raw = ⟨u.hostWithPort, u.pathText, sortedSet (formNames (u.query.getD "")), raw⟩ := by
  simp [Entry.parse, hu, hv]

/-- A line is written as itself, or, when its path names an asset, as the address of the
asset's directory. -/
theorem Entry.parse_cases (raw : String) :
    (Entry.parse raw).url = raw ∨ ∃ u v, Web.parse raw = .ok u ∧ stripAsset u = some v ∧
      Entry.parse raw = ⟨v.hostWithPort, v.pathText, [], v.render⟩ := by
  cases hp : Web.parse raw with
  | error e => exact .inl (by simp [Entry.parse, hp])
  | ok u =>
    cases hs : stripAsset u with
    | none => exact .inl (by rw [Entry.parse_of_keep hp hs])
    | some v => exact .inr ⟨u, v, rfl, hs, Entry.parse_of_strip hp hs⟩

/-- **Reading a line's written address again gives the same entry**, when the line's cut
address reads back: the same class, and the same address. -/
theorem Entry.parse_url_parse {raw : String} (h : CutReadsBack raw) :
    Entry.parse (Entry.parse raw).url = Entry.parse raw := by
  rcases Entry.parse_cases raw with hkeep | ⟨u, v, hp, hs, hparse⟩
  · rw [hkeep]
  · -- the directory's address reads back, and the path it reads names no asset
    obtain ⟨w, hw, hhost, hport, hpath, hquery⟩ :=
      Url.readsBack_iff.mp (h v (by simp [hp, hs, Except.toOption]))
    have hsw : stripAsset w = none := stripAsset_eq_none_of_end (by
      rw [Url.pathText, hpath]
      exact pathText_stripAsset (parse_readable hp).path hs)
    rw [hparse]
    dsimp only
    rw [Entry.parse_of_keep hw hsw]
    simp [Url.hostWithPort, Url.hostText?, Url.pathText, hhost, hport, hpath, hquery,
      stripAsset_query hs, formNames_nil, sortedSet, dedupAdjacent]

/-! ## Normalizing twice -/

/-- A normalized corpus is the address of the first of each class among its sorted lines. -/
theorem normalize_eq (raw : List String) :
    normalize raw = (firstByKey (fun l => (Entry.parse l).key)
      (((raw.map trim).filter (!·.isEmpty)).mergeSort fun a b => decide (a ≤ b))).map
        fun l => (Entry.parse l).url := by
  simp only [normalize, firstOfEachClass_eq, firstByKey_map, List.map_map]
  rfl

theorem trim_of_solid {s : String} (h : Solid s.toList) : trim s = s := by
  rw [trim, trimChars_of_solid h, String.ofList_toList]

theorem solid_trim {s : String} (h : (trim s).isEmpty = false) : Solid (trim s).toList := by
  rw [trim, String.toList_ofList]
  apply solid_trimChars
  intro hnil
  rw [trim, hnil] at h
  cases h

/-- Solid lines are their own trimmed, non-empty lines. -/
theorem lines_of_solid {N : List String} (h : ∀ n ∈ N, Solid n.toList) :
    (N.map trim).filter (!·.isEmpty) = N := by
  have hmap : N.map trim = N :=
    (List.map_congr_left fun n hn => trim_of_solid (h n hn)).trans (List.map_id N)
  rw [hmap, List.filter_eq_self]
  intro n hn
  obtain ⟨c, hc, -⟩ := (h n hn).head
  have hne : n ≠ "" := by
    rintro rfl
    cases hc
  simpa [String.isEmpty_iff] using hne

/-- The address a solid line is written as is solid. -/
theorem solid_url {raw : String} (h : Solid raw.toList) : Solid (Entry.parse raw).url.toList := by
  rcases Entry.parse_cases raw with hkeep | ⟨u, v, hp, hs, hparse⟩
  · rwa [hkeep]
  · rw [hparse]
    exact solid_stripAsset_render (parse_readable hp) hs

/-- Normalizing a corpus whose cut addresses read back leaves lines that each read as the entry
they were written from, with no two of one class; normalizing them again keeps them all and
only sorts them. -/
theorem normalize_normalize_eq_sort (xs : List String) (h : ∀ x ∈ xs, CutReadsBack (trim x)) :
    (∀ r, CutReadsBack r → Entry.parse (Entry.parse r).url = Entry.parse r) ∧
    normalize (normalize xs) = (normalize xs).mergeSort (fun a b => decide (a ≤ b)) ∧
    (normalize (normalize xs)).Perm (normalize xs) ∧
    ((normalize xs).map fun l => (Entry.parse l).key).Nodup := by
  let key := fun l : String => (Entry.parse l).key
  let url := fun l : String => (Entry.parse l).url
  let L := ((xs.map trim).filter (!·.isEmpty)).mergeSort fun a b => decide (a ≤ b)
  have hN : normalize xs = (firstByKey key L).map url := normalize_eq xs
  -- every kept line is a solid trimmed line of the corpus, whose cut address reads back
  have hK : ∀ l ∈ firstByKey key L, Solid l.toList ∧ CutReadsBack l := by
    intro l hl
    have hl' := List.mem_filter.mp
      ((List.mergeSort_perm _ _).subset ((firstByKey_sublist key L).subset hl))
    obtain ⟨x, hx, rfl⟩ := List.mem_map.mp hl'.1
    exact ⟨solid_trim (by simpa using hl'.2), h x hx⟩
  have hstable : ∀ l ∈ firstByKey key L, Entry.parse (url l) = Entry.parse l :=
    fun l hl => Entry.parse_url_parse (hK l hl).2
  -- so each normalized line has the class of the line it was written from, and reads as itself
  have hkeys : (normalize xs).map key = (firstByKey key L).map key := by
    rw [hN, List.map_map]
    exact List.map_congr_left fun l hl => congrArg Entry.key (hstable l hl)
  have hnodup : ((normalize xs).map key).Nodup := hkeys ▸ nodup_map_firstByKey key L
  have hfix : ∀ n ∈ normalize xs, url n = n := by
    rw [hN]
    intro n hn
    obtain ⟨l, hl, rfl⟩ := List.mem_map.mp hn
    exact congrArg Entry.url (hstable l hl)
  have hsolid : ∀ n ∈ normalize xs, Solid n.toList := by
    rw [hN]
    intro n hn
    obtain ⟨l, hl, rfl⟩ := List.mem_map.mp hn
    exact solid_url (hK l hl).1
  -- the second pass sorts lines of different classes and writes each as itself
  have hsorted := List.mergeSort_perm (normalize xs) fun a b => decide (a ≤ b)
  have htwice : normalize (normalize xs) =
      (normalize xs).mergeSort fun a b => decide (a ≤ b) := by
    rw [normalize_eq (normalize xs), lines_of_solid hsolid,
      firstByKey_of_nodup key ((hsorted.map key).nodup_iff.mpr hnodup)]
    exact (List.map_congr_left fun n hn => hfix n (hsorted.subset hn)).trans (List.map_id _)
  refine ⟨fun r hr => Entry.parse_url_parse hr, htwice, ?_, hnodup⟩
  rw [htwice]
  exact hsorted

/-- A picture on a host written in capitals, and a page on a host that sorts between the two
spellings: the picture's directory is written anew with its host in small letters, so the
corpus normalized once is out of order, and normalizing it again sorts it. -/
theorem normalize_normalize_eq_sort_host :
    let xs := ["http://H/x.png", "http://a/"]
    (∀ x ∈ xs, CutReadsBack (trim x)) ∧ normalize xs = ["http://h/", "http://a/"] ∧
      normalize (normalize xs) = ["http://a/", "http://h/"] := by
  intro xs
  have hback : ∀ x ∈ xs, CutReadsBack (trim x) := by decide +kernel
  obtain ⟨-, htwice, -, -⟩ := normalize_normalize_eq_sort xs hback
  -- the kernel sorts through the structural insertion sort
  have hone : normalize xs = ["http://h/", "http://a/"] := by
    simp only [normalize, List.mergeSort_eq_insertionSort]
    decide +kernel
  refine ⟨hback, hone, ?_⟩
  rw [htwice, hone, List.mergeSort_eq_insertionSort]
  decide +kernel

end Discovery.Corpus
