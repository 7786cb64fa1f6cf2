import Mathlib
import Discovery.Wildcard.Calibrate
/-!
# Pages made from a template

A site that answers every address it does not have with one page, with the address written
into each hole of the page, is described by a template: the pieces of fixed text between
the holes (`Template.fill`). Two facts about such pages carry a wildcard signature from the
calibration probes over to other addresses.

The title of a filled page is the title of the template with its holes filled
(`title?_fill`), for every address that starts with `h` and has no `<`: no tag can start
inside a copy of such an address, nor run on into one. So either no hole lies in the
title and every such address gives the same title, or one does and addresses of different
lengths give titles of different lengths; two addresses of different lengths that give
the same title therefore give the title of every other address (`title?_fill_of_shared`).

Cutting the address out of its page leaves the template's own text when no copy of the
address stands in that text or runs across a hole (`Template.CutsCleanly`), and then the
length that a signature compares is the same for every such address
(`strippedLength_fill`).
-/

namespace Discovery.Wildcard

open Discovery.Text

/-- The pieces of fixed text of a page, with a hole between each two. -/
structure Template where
  pieces : List String
  deriving DecidableEq, Repr

namespace Template

/-- The page with every hole filled with `x`. -/
def fill (T : Template) (x : String) : String := x.intercalate T.pieces

/-- The fixed text of a template, without its holes. -/
def text (T : Template) : String := String.join T.pieces

/-- Cutting every copy of `x` out of the page filled with `x` leaves the template's own
text: no copy of `x` stands in that text or runs across a hole. -/
def CutsCleanly (T : Template) (x : String) : Prop := replace (T.fill x) x "" = T.text

theorem toList_fill (T : Template) (x : String) :
    (T.fill x).toList = x.toList.intercalate (T.pieces.map String.toList) :=
  String.toList_intercalate

end Template

/-! ## Letters without case -/

section Case

theorem toNat_toLower (c : Char) :
    c.toLower.toNat = if 65 ≤ c.toNat ∧ c.toNat ≤ 90 then c.toNat + 32 else c.toNat := by
  have hv : c.toNat = c.val.toNat := rfl
  unfold Char.toLower
  by_cases hc : c.val ≥ 'A'.val ∧ c.val ≤ 'Z'.val
  · rw [dif_pos hc]
    have h1 : 65 ≤ c.toNat ∧ c.toNat ≤ 90 := by
      rw [hv]
      exact ⟨UInt32.le_iff_toNat_le.mp hc.1, UInt32.le_iff_toNat_le.mp hc.2⟩
    rw [if_pos h1]
    show (c.val + ('a'.val - 'A'.val)).toNat = c.toNat + 32
    rw [UInt32.toNat_add, hv]
    have : ('a'.val - 'A'.val).toNat = 32 := by decide
    rw [this]
    omega
  · rw [dif_neg hc]
    have h1 : ¬ (65 ≤ c.toNat ∧ c.toNat ≤ 90) := by
      rw [hv]
      intro h
      exact hc ⟨UInt32.le_iff_toNat_le.mpr h.1, UInt32.le_iff_toNat_le.mpr h.2⟩
    rw [if_neg h1]

/-- Only `<` is `<` without case. -/
theorem toLower_ne_open {c : Char} (h : c ≠ '<') : c.toLower ≠ '<' := by
  intro heq
  have hn := congrArg Char.toNat heq
  have hc : c.toNat ≠ 60 := fun h' => h (Char.toNat_inj.mp h')
  rw [toNat_toLower] at hn
  have : ('<' : Char).toNat = 60 := rfl
  split at hn <;> omega

theorem toLower_of_not_upper {c : Char} (h : c.toNat < 65 ∨ 90 < c.toNat) : c.toLower = c := by
  apply Char.toNat_inj.mp
  rw [toNat_toLower, if_neg]
  omega

end Case

/-! ## Tags never meet a filling -/

section Tags

theorem startsWithCaseless_of_length_lt :
    ∀ (P l : List Char), l.length < P.length → startsWithCaseless P l = false
  | [], _, h => by simp at h
  | _ :: _, [], _ => rfl
  | p :: ps, c :: cs, h => by
    simp only [startsWithCaseless, Bool.and_eq_false_iff]
    exact .inr (startsWithCaseless_of_length_lt ps cs (by simpa using h))

/-- A text that starts with a tag is at least as long as the tag. -/
theorem length_le_of_startsWithCaseless {P l : List Char} (h : startsWithCaseless P l = true) :
    P.length ≤ l.length := by
  by_contra hlt
  rw [startsWithCaseless_of_length_lt P l (by omega)] at h
  cases h

theorem startsWithCaseless_append_of_le :
    ∀ (P l y : List Char), P.length ≤ l.length →
      startsWithCaseless P (l ++ y) = startsWithCaseless P l
  | [], _, _, _ => by simp [startsWithCaseless]
  | _ :: _, [], _, h => by simp at h
  | p :: ps, c :: cs, y, h => by
    simp only [List.cons_append, startsWithCaseless]
    rw [startsWithCaseless_append_of_le ps cs y (by simpa using h)]

/-- A tag that starts inside `l` and does not fit in it cannot run on into a text whose first
letter does not continue the tag. -/
theorem startsWithCaseless_append_of_lt {c : Char} :
    ∀ (P l y : List Char), l ≠ [] → l.length < P.length → y.head? = some c →
      (∀ q ∈ P.tail, q.toLower ≠ c.toLower) → startsWithCaseless P (l ++ y) = false
  | [], _, _, _, h, _, _ => by simp at h
  | _ :: _, [], _, hl, _, _, _ => absurd rfl hl
  | p :: ps, a :: l, y, _, hlt, hy, hq => by
    simp only [List.cons_append, startsWithCaseless, Bool.and_eq_false_iff]
    right
    cases l with
    | nil =>
      -- the tag goes on past `a`, into the first letter of `y`
      obtain ⟨y', rfl⟩ := List.head?_eq_some_iff.mp hy
      cases ps with
      | nil => simp at hlt
      | cons q qs =>
        simp only [List.nil_append, startsWithCaseless, Bool.and_eq_false_iff, beq_eq_false_iff_ne]
        exact .inl (hq q (by simp))
    | cons b l =>
      exact startsWithCaseless_append_of_lt ps (b :: l) y (by simp) (by simpa using hlt) hy
        fun q hq' => hq q (List.mem_of_mem_tail hq')

/-- A text that no tag runs on into: empty, or starting with `h`. -/
def Unmet (y : List Char) : Prop := y = [] ∨ y.head? = some 'h'

theorem Unmet.append {x : List Char} (hx : x.head? = some 'h') (y : List Char) :
    Unmet (x ++ y) := by
  obtain ⟨x', rfl⟩ := List.head?_eq_some_iff.mp hx
  exact .inr rfl

theorem openTag_toList : "<title>".toList = ['<', 't', 'i', 't', 'l', 'e', '>'] := rfl

theorem closeTag_toList : "</title>".toList = ['<', '/', 't', 'i', 't', 'l', 'e', '>'] := rfl

/-- No letter after the first of a tag is `h`, in any case. -/
theorem tag_tail_ne_h {P : List Char}
    (hP : P = "<title>".toList ∨ P = "</title>".toList) :
    ∀ q ∈ P.tail, q.toLower ≠ ('h' : Char).toLower := by
  have hh : ('h' : Char).toLower = 'h' := toLower_of_not_upper (by decide)
  rw [hh]
  rcases hP with rfl | rfl <;> intro q hq <;>
    simp only [openTag_toList, closeTag_toList, List.tail_cons, List.mem_cons,
      List.not_mem_nil, or_false] at hq <;>
    rcases hq with rfl | rfl | rfl | rfl | rfl | rfl | rfl <;>
    rw [toLower_of_not_upper (by decide)] <;> decide

/-- A tag starting at a letter other than `<` is no tag. -/
theorem startsWithCaseless_tag_of_ne {P : List Char}
    (hP : P = "<title>".toList ∨ P = "</title>".toList) {a : Char} (ha : a ≠ '<')
    (l : List Char) : startsWithCaseless P (a :: l) = false := by
  have hlt : ('<' : Char).toLower = '<' := toLower_of_not_upper (by decide)
  rcases hP with rfl | rfl <;>
    simp [openTag_toList, closeTag_toList, startsWithCaseless, hlt, Ne.symm (toLower_ne_open ha)]

/-- A tag found in `f ++ y` lies in `f`, or in `y`: none runs from one into the other. -/
theorem startsWithCaseless_tag_append {P : List Char}
    (hP : P = "<title>".toList ∨ P = "</title>".toList) (a : Char) (f : List Char)
    {y : List Char} (hy : Unmet y) :
    startsWithCaseless P (a :: f ++ y) = startsWithCaseless P (a :: f) := by
  by_cases hlen : P.length ≤ (a :: f).length
  · exact startsWithCaseless_append_of_le P (a :: f) y hlen
  · have hshort := startsWithCaseless_of_length_lt P (a :: f) (by omega)
    rw [hshort]
    rcases hy with rfl | hy
    · rw [List.append_nil, hshort]
    · exact startsWithCaseless_append_of_lt P (a :: f) y (by simp) (by omega) hy (tag_tail_ne_h hP)

theorem afterTitleOpen_append_of_no_open {x : List Char} (hx : '<' ∉ x) (rest : List Char) :
    afterTitleOpen (x ++ rest) = afterTitleOpen rest := by
  induction x with
  | nil => rfl
  | cons a x ih =>
    have ha : a ≠ '<' := fun h => hx (h ▸ List.mem_cons_self ..)
    rw [List.cons_append, afterTitleOpen,
      startsWithCaseless_tag_of_ne (.inl rfl) ha, if_neg Bool.false_ne_true,
      ih fun h => hx (List.mem_cons_of_mem _ h)]

/-- The opening tag of `f ++ y` is that of `f`, or else that of `y`. -/
theorem afterTitleOpen_append (f : List Char) {y : List Char} (hy : Unmet y) :
    afterTitleOpen (f ++ y) =
      (afterTitleOpen f).elim (afterTitleOpen y) fun r => some (r ++ y) := by
  induction f with
  | nil => rfl
  | cons a f ih =>
    rw [List.cons_append, afterTitleOpen, afterTitleOpen,
      ← List.cons_append, startsWithCaseless_tag_append (.inl rfl) a f hy]
    split
    · next hs =>
      -- the tag is at the front: what follows it is what follows it in `f`, then `y`
      have hlen : 7 ≤ (a :: f).length := length_le_of_startsWithCaseless hs
      rw [List.drop_append_of_le_length hlen]
      rfl
    · exact ih

theorem beforeTitleClose_append_of_no_open {x : List Char} (hx : '<' ∉ x) (rest : List Char) :
    beforeTitleClose (x ++ rest) = (beforeTitleClose rest).map (x ++ ·) := by
  induction x with
  | nil => simp
  | cons a x ih =>
    have ha : a ≠ '<' := fun h => hx (h ▸ List.mem_cons_self ..)
    rw [List.cons_append, beforeTitleClose,
      startsWithCaseless_tag_of_ne (.inr rfl) ha, if_neg Bool.false_ne_true,
      ih fun h => hx (List.mem_cons_of_mem _ h), Option.map_map]
    rfl

/-- The closing tag of `f ++ y` is that of `f`, or else that of `y`. -/
theorem beforeTitleClose_append (f : List Char) {y : List Char} (hy : Unmet y) :
    beforeTitleClose (f ++ y) =
      (beforeTitleClose f).elim ((beforeTitleClose y).map (f ++ ·)) some := by
  induction f with
  | nil => simp [beforeTitleClose]
  | cons a f ih =>
    rw [List.cons_append, beforeTitleClose, beforeTitleClose,
      ← List.cons_append, startsWithCaseless_tag_append (.inr rfl) a f hy]
    split
    · rfl
    · rw [ih]
      cases beforeTitleClose f with
      | some b => rfl
      | none =>
        simp only [Option.elim, Option.map_map]
        rfl

end Tags

/-! ## The title of a filled page -/

section Title

/-- The pieces of a title that starts in the text `r` and may run on through the pieces
`rest`, a hole before each, up to the first closing tag. -/
def closeTitle : List Char → List (List Char) → Option (List (List Char))
  | r, [] => (beforeTitleClose r).map ([·])
  | r, g :: rest =>
    match beforeTitleClose r with
    | some b => some [b]
    | none => (closeTitle g rest).map (r :: ·)

/-- The pieces of the title of every page filled from the pieces of a template, holes kept:
from the first opening tag up to the first closing tag after it. -/
def titlePieces : List (List Char) → Option (List (List Char))
  | [] => none
  | f :: rest =>
    match afterTitleOpen f with
    | some r => closeTitle r rest
    | none => titlePieces rest

theorem closeTitle_ne_nil : ∀ (r : List Char) (rest : List (List Char)) {Q : List (List Char)},
    closeTitle r rest = some Q → Q ≠ []
  | r, [], Q, h => by
    obtain ⟨b, -, rfl⟩ := Option.map_eq_some_iff.mp h
    simp
  | r, g :: rest, Q, h => by
    simp only [closeTitle] at h
    split at h
    · cases h
      simp
    · obtain ⟨Q', -, rfl⟩ := Option.map_eq_some_iff.mp h
      simp

/-- A filling of a hole that no tag can meet: it starts with `h` and has no `<`. -/
structure Filling (x : List Char) : Prop where
  head : x.head? = some 'h'
  no_open : '<' ∉ x

variable {x : List Char}

theorem beforeTitleClose_fill (hx : Filling x) :
    ∀ (r : List Char) (rest : List (List Char)),
      beforeTitleClose (x.intercalate (r :: rest)) = (closeTitle r rest).map (x.intercalate ·)
  | r, [] => by
    rw [List.intercalate_singleton, closeTitle, Option.map_map]
    cases beforeTitleClose r <;> simp
  | r, g :: rest => by
    rw [List.intercalate_cons_cons, List.append_assoc,
      beforeTitleClose_append r (Unmet.append hx.head _),
      beforeTitleClose_append_of_no_open hx.no_open, beforeTitleClose_fill hx g rest, closeTitle]
    cases beforeTitleClose r with
    | some b => simp
    | none =>
      -- the title runs on through the hole after `r`
      cases hQ : closeTitle g rest with
      | none => simp
      | some Q =>
        obtain ⟨q, Q', rfl⟩ := List.exists_cons_of_ne_nil (closeTitle_ne_nil g rest hQ)
        simp [List.intercalate_cons_cons]

/-- The title text of a filled page is the title pieces of the template, filled. -/
theorem title_fill (hx : Filling x) :
    ∀ P : List (List Char),
      (afterTitleOpen (x.intercalate P)).bind beforeTitleClose =
        (titlePieces P).map (x.intercalate ·)
  | [] => rfl
  | [f] => by
    rw [List.intercalate_singleton]
    unfold titlePieces
    cases afterTitleOpen f with
    | none => rfl
    | some r =>
      have := beforeTitleClose_fill hx r []
      rw [List.intercalate_singleton] at this
      exact this
  | f :: g :: rest => by
    rw [List.intercalate_cons_cons, List.append_assoc,
      afterTitleOpen_append f (Unmet.append hx.head _)]
    unfold titlePieces
    cases afterTitleOpen f with
    | some r =>
      have := beforeTitleClose_fill hx r (g :: rest)
      rw [List.intercalate_cons_cons, List.append_assoc] at this
      exact this
    | none =>
      rw [Option.elim, afterTitleOpen_append_of_no_open hx.no_open]
      exact title_fill hx (g :: rest)

/-- The title of a page filled with `x`. -/
theorem title?_fill (T : Template) {x : String} (hx : Filling x.toList) :
    title? (T.fill x) = (titlePieces (T.pieces.map String.toList)).map
      fun Q => String.ofList (trimChars (x.toList.intercalate Q)) := by
  rw [title?, Template.toList_fill, title_fill hx, Option.map_map]
  rfl

end Title

/-! ## Trimming around a filling -/

section Trim

/-- A text that trimming stops at: not empty, with no blank at either end. -/
structure Solid (x : List Char) : Prop where
  head : ∃ c, x.head? = some c ∧ isBlank c = false
  last : ∃ c, x.getLast? = some c ∧ isBlank c = false

variable {x y : List Char}

theorem trimStartChars_append (hx : Solid x) (a b : List Char) :
    trimStartChars (a ++ x ++ b) = trimStartChars a ++ x ++ b := by
  obtain ⟨c, hc, hcb⟩ := hx.head
  obtain ⟨x', rfl⟩ := List.head?_eq_some_iff.mp hc
  unfold trimStartChars
  rw [List.append_assoc, List.dropWhile_append]
  split
  · next he =>
    rw [List.isEmpty_iff.mp he, List.cons_append, List.dropWhile_cons, if_neg (by simp [hcb])]
    rfl
  · simp

theorem trimEndChars_append (hx : Solid x) (a b : List Char) :
    trimEndChars (a ++ x ++ b) = a ++ x ++ trimEndChars b := by
  obtain ⟨c, hc, hcb⟩ := hx.last
  have hr : x.reverse.head? = some c := by rw [List.head?_reverse, hc]
  obtain ⟨x', hx'⟩ := List.head?_eq_some_iff.mp hr
  unfold trimEndChars
  rw [List.reverse_append, List.reverse_append, List.dropWhile_append]
  split
  · next he =>
    rw [List.isEmpty_iff.mp he, hx', List.cons_append, List.dropWhile_cons,
      if_neg (by simp [hcb]), ← List.cons_append, ← hx']
    simp
  · simp

theorem trimChars_append (hx : Solid x) (a b : List Char) :
    trimChars (a ++ x ++ b) = trimStartChars a ++ x ++ trimEndChars b := by
  rw [trimChars, trimStartChars_append hx, trimEndChars_append hx]

/-- Trimming leaves a solid text as it is. -/
theorem trimChars_of_solid (hx : Solid x) : trimChars x = x := by
  simpa [trimStartChars, trimEndChars] using trimChars_append hx [] []

/-- What trimming leaves, when it leaves anything, is solid. -/
theorem solid_trimChars {cs : List Char} (h : trimChars cs ≠ []) : Solid (trimChars cs) := by
  -- the trimmed text is the trimmed front less the blanks at its end
  set t := trimStartChars cs
  have hsplit : t = trimEndChars t ++ (t.reverse.takeWhile isBlank).reverse := by
    have h := congrArg List.reverse (List.takeWhile_append_dropWhile (p := isBlank) (l := t.reverse))
    rw [List.reverse_append, List.reverse_reverse] at h
    rw [trimEndChars]
    exact h.symm
  have hne : t.reverse.dropWhile isBlank ≠ [] := by
    simpa [trimChars, trimEndChars] using h
  constructor
  · obtain ⟨c, hc⟩ := Option.ne_none_iff_exists'.mp (mt List.head?_eq_none_iff.mp h)
    refine ⟨c, hc, ?_⟩
    have ht : t.head? = some c := by
      rw [hsplit, List.head?_append, show (trimEndChars t).head? = some c from hc]
      rfl
    obtain ⟨r, hr⟩ := List.head?_eq_some_iff.mp ht
    exact trimStartChars_head cs c r hr
  · refine ⟨(t.reverse.dropWhile isBlank).head hne, ?_, ?_⟩
    · simp [trimChars, trimEndChars, List.getLast?_reverse, List.head?_eq_some_head hne, t]
    · simpa using List.head_dropWhile_not isBlank hne

/-- Trimming the end of a page filled with a longer text leaves no less. -/
theorem length_trimEnd_intercalate_le (hx : Solid x) (hy : Solid y)
    (hxy : x.length ≤ y.length) :
    ∀ Q : List (List Char),
      (trimEndChars (x.intercalate Q)).length ≤ (trimEndChars (y.intercalate Q)).length
  | [] => le_rfl
  | [q] => by simp
  | q :: q' :: Q => by
    have ih := length_trimEnd_intercalate_le hx hy hxy (q' :: Q)
    rw [List.intercalate_cons_cons, List.intercalate_cons_cons,
      trimEndChars_append hx, trimEndChars_append hy]
    simp only [List.length_append]
    omega

/-- A title with a hole in it is longer when the hole is filled with a longer text. -/
theorem length_trimChars_intercalate_lt (hx : Solid x) (hy : Solid y)
    (hxy : x.length < y.length) (q q' : List Char) (Q : List (List Char)) :
    (trimChars (x.intercalate (q :: q' :: Q))).length <
      (trimChars (y.intercalate (q :: q' :: Q))).length := by
  have hle := length_trimEnd_intercalate_le hx hy hxy.le (q' :: Q)
  rw [List.intercalate_cons_cons, List.intercalate_cons_cons,
    trimChars_append hx, trimChars_append hy]
  simp only [List.length_append]
  omega

end Trim

/-! ## What calibration keeps of a template site -/

section Carry

variable {T : Template} {x y u : String}

/-- Two fillings of different lengths that give a page the same title leave every other
filling that title: the title has no hole in it. -/
theorem title?_fill_of_shared (hx : Filling x.toList) (hy : Filling y.toList)
    (hxs : Solid x.toList) (hys : Solid y.toList) (hu : Filling u.toList)
    (hlen : x.length ≠ y.length) {t : String} (htx : title? (T.fill x) = some t)
    (hty : title? (T.fill y) = some t) : title? (T.fill u) = some t := by
  rw [title?_fill T hx] at htx
  rw [title?_fill T hy] at hty
  rw [title?_fill T hu]
  cases hP : titlePieces (T.pieces.map String.toList) with
  | none => simp [hP] at htx
  | some Q =>
    simp only [hP, Option.map_some, Option.some.injEq] at htx hty ⊢
    match Q, htx, hty with
    | [], htx, _ => simpa using htx
    | [q], htx, _ => simpa using htx
    | q :: q' :: Q, htx, hty =>
      -- a hole in the title: the two titles would differ in length
      have heq := String.ofList_inj.mp (htx.trans hty.symm)
      rw [← String.length_toList, ← String.length_toList] at hlen
      rcases Nat.lt_or_gt_of_ne hlen with hlt | hlt
      · exact absurd (congrArg List.length heq)
          (length_trimChars_intercalate_lt hxs hys hlt q q' Q).ne
      · exact absurd (congrArg List.length heq)
          (length_trimChars_intercalate_lt hys hxs hlt q q' Q).ne'

/-- The length that a length signature compares, for an address cut cleanly out of its
page: the template's own text. -/
theorem strippedLength_fill (hclean : T.CutsCleanly x) (hx : x ≠ "") :
    strippedLength (T.fill x) x = T.text.utf8ByteSize := by
  rw [strippedLength, if_neg (by simpa using hx), hclean]

end Carry

end Discovery.Wildcard
