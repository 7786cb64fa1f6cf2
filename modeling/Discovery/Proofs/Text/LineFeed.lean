import Mathlib
import Discovery.Text.Lines
import Discovery.Text.Utf8
/-!
# Line feeds in decoded bytes

A line feed is a byte of its own in UTF-8: it never continues a character, so a character
that is still owed bytes is broken off by a line feed exactly as by the end of the bytes
(`readScalar_append_newline`), and a character of several bytes lies beyond ASCII
(`readScalar_ge`). Hence decoding and cutting at line feeds can be done in either order:
decoding bytes joined by line feeds decodes each piece and joins them with line feeds
(`decodeLossy_intercalate`), and no piece without a line feed decodes to text with one
(`newline_not_mem_decodeLossy`).

On the side of text, the meaningful lines of a text are its pieces between line feeds,
trimmed and filtered (`meaningfulLines_ofList`): the carriage return that ends a line, kept
or not, and the empty piece after a final line feed are trimmed or filtered away anyway. Lines written
one after another, each ended by a line feed, are read back as they were written
(`lines_unlines`), as long as none holds a line feed or ends with a carriage return.
-/

namespace Discovery.Text

/-! ## Decoding across a line feed -/

/-- A line feed breaks off a character that is still owed bytes, as the end of the bytes
does. -/
theorem readContinuation_append_newline (ys : List UInt8) :
    ∀ (need : Nat) (lo hi : UInt8) (v : Nat) (xs : List UInt8), 0x80 ≤ lo →
      readContinuation need lo hi v (xs ++ 0x0A :: ys) = readContinuation need lo hi v xs
  | 0, _, _, _, _, _ => by simp [readContinuation]
  | n + 1, lo, hi, v, [], hlo => by
    rw [List.nil_append, readContinuation_newline n lo hi v ys hlo]
    rfl
  | n + 1, lo, hi, v, c :: cs, _ => by
    simp only [List.cons_append, readContinuation,
      readContinuation_append_newline ys n 0x80 0xBF _ cs (by decide)]

theorem readScalar_append_newline (b : UInt8) (xs ys : List UInt8) :
    readScalar b (xs ++ 0x0A :: ys) = readScalar b xs := by
  unfold readScalar
  -- every continuation byte a lead byte asks for is at least `0x80`
  simp (disch := decide) only [readContinuation_append_newline]

/-- Decoding reads the bytes before a line feed as if they ended there. -/
theorem decodeLossy_append_newline (ys xs : List UInt8) :
    decodeLossy (xs ++ 0x0A :: ys) = decodeLossy xs ++ '\n' :: decodeLossy ys := by
  induction xs using decodeLossy.induct with
  | case1 =>
    rw [List.nil_append, decodeLossy.eq_2]
    simp [readScalar, decodeLossy.eq_1]
  | case2 b bs r ih =>
    rw [List.cons_append, decodeLossy.eq_2, decodeLossy.eq_2, readScalar_append_newline,
      List.drop_append_of_le_length (readScalar_le b bs), ih]
    rfl

/-- Decoding lines joined by line feeds decodes each line and joins them alike. -/
theorem decodeLossy_intercalate : ∀ ls : List (List UInt8),
    decodeLossy ([0x0A].intercalate ls) = ['\n'].intercalate (ls.map decodeLossy)
  | [] => by simp [decodeLossy.eq_1]
  | [l] => by simp
  | l :: l' :: ls => by
    rw [List.intercalate_cons_cons, List.map_cons, List.map_cons, List.intercalate_cons_cons,
      List.append_assoc, List.singleton_append, decodeLossy_append_newline,
      decodeLossy_intercalate (l' :: ls), List.map_cons]
    simp

/-! ## No line feed is made up -/

/-- Reading continuation bytes only ever multiplies the value read so far by 64 and adds. -/
theorem readContinuation_ge : ∀ (need : Nat) (lo hi : UInt8) (v : Nat) (bs : List UInt8)
    (r : Nat), (readContinuation need lo hi v bs).1 = some r → v * 64 ^ need ≤ r
  | 0, _, _, v, _, r, h => by simp [readContinuation] at h; omega
  | n + 1, _, _, _, [], _, h => by simp [readContinuation] at h
  | n + 1, lo, hi, v, c :: cs, r, h => by
    simp only [readContinuation] at h
    split at h
    · have hrest := readContinuation_ge n 0x80 0xBF _ cs r h
      calc v * 64 ^ (n + 1) = (v * 64) * 64 ^ n := by
            rw [Nat.pow_succ, Nat.mul_comm (64 ^ n), Nat.mul_assoc]
        _ ≤ (v * 64 + c.toNat % 64) * 64 ^ n := Nat.mul_le_mul_right _ (Nat.le_add_right _ _)
        _ ≤ r := hrest
    · simp at h

/-- The first continuation byte adds at least what its least allowed value adds. -/
theorem readContinuation_first_ge {n : Nat} {lo hi : UInt8} {v : Nat} {bs : List UInt8}
    {r : Nat} (h : (readContinuation (n + 1) lo hi v bs).1 = some r) (hlo : 0x80 ≤ lo)
    (hhi : hi ≤ 0xBF) : (v * 64 + (lo.toNat - 0x80)) * 64 ^ n ≤ r := by
  cases bs with
  | nil => simp [readContinuation] at h
  | cons c cs =>
    simp only [readContinuation] at h
    split at h
    · next hc =>
      have hrest := readContinuation_ge n 0x80 0xBF _ cs r h
      simp only [Bool.and_eq_true, decide_eq_true_eq, UInt8.le_iff_toNat_le] at hc hlo hhi
      -- the byte lies in `lo ..= 0xBF`, inside one block of 64
      have hmod : lo.toNat - 0x80 ≤ c.toNat % 64 := by simp at hlo hhi; omega
      exact Nat.le_trans (Nat.mul_le_mul_right _ (by omega)) hrest
    · simp at h

/-- A character of several bytes lies beyond ASCII. -/
theorem readScalar_ge {b : UInt8} {bs : List UInt8} {r : Nat} (hb : ¬ b < 0x80)
    (h : (readScalar b bs).1 = some r) : 0x80 ≤ r := by
  unfold readScalar at h
  rw [if_neg hb] at h
  split_ifs at h
  -- one case per range of lead bytes; its value and least continuation byte bound the read
  all_goals
    have hge := readContinuation_first_ge h (by decide) (by decide)
    simp_all only [Bool.and_eq_true, decide_eq_true_eq, UInt8.le_iff_toNat_le,
      UInt8.lt_iff_toNat_lt, UInt8.toNat_ofNat]
    omega

theorem readScalar_ne_newline {b : UInt8} {bs : List UInt8} {r : Nat} (hb : b ≠ 0x0A)
    (h : (readScalar b bs).1 = some r) : r ≠ 10 := by
  by_cases hlow : b < 0x80
  · simp only [readScalar, if_pos hlow, Option.some.injEq] at h
    subst h
    exact fun h => hb (UInt8.toNat_inj.mp h)
  · have := readScalar_ge hlow h
    omega

/-- Only the code point of a line feed makes one; an invalid code point makes a NUL. -/
theorem eq_of_ofNat_eq_newline {v : Nat} (h : Char.ofNat v = '\n') : v = 10 := by
  unfold Char.ofNat at h
  split at h
  · next hv =>
    have hval : (Char.ofNatAux v hv).toNat = v := by simp [Char.ofNatAux, Char.toNat]
    rw [← hval, h]
    rfl
  · cases h

/-- The character that a byte other than a line feed starts is no line feed. -/
theorem decoded_ne_newline {b : UInt8} {bs : List UInt8} (hb : b ≠ 0x0A) :
    (match (readScalar b bs).1 with
      | some v => Char.ofNat v
      | none => replacementChar) ≠ '\n' := by
  split
  · next v hv => exact fun h => readScalar_ne_newline hb hv (eq_of_ofNat_eq_newline h)
  · decide

/-- Bytes without a line feed decode to a text without one. -/
theorem newline_not_mem_decodeLossy (bs : List UInt8) (h : 0x0A ∉ bs) :
    '\n' ∉ decodeLossy bs := by
  induction bs using decodeLossy.induct with
  | case1 => simp [decodeLossy.eq_1]
  | case2 b bs r ih =>
    rw [decodeLossy.eq_2, List.mem_cons, not_or]
    refine ⟨(decoded_ne_newline fun hb => h (hb ▸ List.mem_cons_self ..)).symm, ih ?_⟩
    exact fun hm => h (List.mem_cons_of_mem _ (List.mem_of_mem_drop hm))

/-! ## Lines of a text -/

theorem splitNewline_eq_splitOn (cs : List Char) : splitNewline cs = cs.splitOn '\n' := by
  induction cs with
  | nil => rfl
  | cons c cs ih =>
    rw [splitNewline, List.splitOn, List.splitOnP_cons_eq_if_modifyHead, ← List.splitOn, ← ih]
    by_cases hc : c = '\n'
    · simp [hc]
    · cases h : splitNewline cs with
      | nil => exact absurd h (splitNewline_ne_nil cs)
      | cons l ls => simp [hc]

/-- A blank at the end is trimmed away. -/
theorem trimChars_append_blank {c : Char} (hc : isBlank c = true) (l : List Char) :
    trimChars (l ++ [c]) = trimChars l := by
  unfold trimChars trimStartChars trimEndChars
  rw [List.dropWhile_append]
  split
  · next h =>
    rw [List.isEmpty_iff.mp h]
    simp [hc]
  · simp [hc]

theorem trimChars_dropCarriageReturn (l : List Char) :
    trimChars (dropCarriageReturn l) = trimChars l := by
  unfold dropCarriageReturn
  split
  · next h =>
    obtain ⟨l', rfl⟩ := List.getLast?_eq_some_iff.mp h
    rw [List.dropLast_concat, trimChars_append_blank (by decide)]
  · rfl

/-- The meaningful lines of a text are its pieces between line feeds, trimmed, without the
empty ones and the comments. -/
theorem meaningfulLines_ofList (cs : List Char) :
    meaningfulLines (String.ofList cs) =
      ((splitNewline cs).map fun l => trim (String.ofList l)).filter isMeaningful := by
  -- trimmed, a piece reads the same with or without the carriage return that ends it
  have hcr : ∀ l, trim (String.ofList (dropCarriageReturn l)) = trim (String.ofList l) := by
    intro l
    simp only [trim, String.toList_ofList, trimChars_dropCarriageReturn]
  have htrim : ∀ ps : List (List Char), ((ps.map dropCarriageReturn).map String.ofList).map trim =
      ps.map fun l => trim (String.ofList l) := by
    intro ps
    simp only [List.map_map]
    exact List.map_congr_left fun l _ => hcr l
  unfold meaningfulLines lines linesChars
  rw [String.toList_ofList]
  split
  · next hend =>
    -- the piece after a final line feed, or of an empty text, is empty and not meaningful
    have hlast : splitNewline cs = (splitNewline cs).dropLast ++ [[]] := by
      rcases Bool.or_eq_true_iff.mp hend with h | h
      · obtain ⟨cs', rfl⟩ := List.getLast?_eq_some_iff.mp (by simpa using h)
        rw [splitNewline_append_newline, List.dropLast_concat]
      · rw [List.isEmpty_iff.mp h]
        rfl
    rw [htrim]
    conv => rhs; rw [hlast]
    rw [List.map_append, List.filter_append]
    simp [trim, trimChars, trimStartChars, trimEndChars, isMeaningful]
  · -- the last piece, with no line feed after it, is kept whole
    have hsplit : splitNewline cs =
        (splitNewline cs).dropLast ++ [(splitNewline cs).getLastD []] := by
      rw [List.getLastD_eq_getLast?, List.getLast?_eq_some_getLast (splitNewline_ne_nil cs),
        Option.getD_some, List.dropLast_append_getLast]
    rw [List.map_append, List.map_append, htrim]
    conv => rhs; rw [hsplit]
    rw [List.map_append]
    rfl

/-! ## Lines ended by line feeds -/

/-- Lines, each ended by a line feed. -/
def unlines (ls : List String) : String := String.join (ls.map (· ++ "\n"))

theorem toList_unlines (ls : List String) :
    (unlines ls).toList = (ls.map String.toList).flatMap (· ++ ['\n']) := by
  simp [unlines, String.toList_join, List.flatMap_map]

/-- A piece without a line feed is cut off whole at the line feed behind it. -/
theorem splitNewline_append_cons {l : List Char} (hl : '\n' ∉ l) (rest : List Char) :
    splitNewline (l ++ '\n' :: rest) = l :: splitNewline rest := by
  induction l with
  | nil => simp [splitNewline]
  | cons c l ih =>
    rw [List.mem_cons, not_or] at hl
    rw [List.cons_append, splitNewline, if_neg (Ne.symm hl.1), ih hl.2]

theorem splitNewline_flatMap_newline (ls : List (List Char)) (h : ∀ l ∈ ls, '\n' ∉ l) :
    splitNewline (ls.flatMap (· ++ ['\n'])) = ls ++ [[]] := by
  induction ls with
  | nil => rfl
  | cons l ls ih =>
    rw [List.flatMap_cons, List.append_assoc, List.singleton_append,
      splitNewline_append_cons (h l List.mem_cons_self),
      ih fun l' hl' => h l' (List.mem_cons_of_mem _ hl')]
    rfl

theorem getLast?_flatMap_newline (ls : List (List Char)) :
    (ls.flatMap (· ++ ['\n'])).getLast? = some '\n' ∨ ls = [] := by
  induction ls with
  | nil => exact .inr rfl
  | cons l ls ih =>
    refine .inl ?_
    rw [List.flatMap_cons, List.getLast?_append]
    rcases ih with h | rfl
    · simp [h]
    · simp

theorem dropCarriageReturn_of_getLast? {l : List Char} (h : l.getLast? ≠ some '\r') :
    dropCarriageReturn l = l := by
  unfold dropCarriageReturn
  split
  · next hl => exact absurd hl h
  · rfl

/-- **Lines read back.** Lines without a line feed, and without a carriage return at their
end, are the lines of the text that ends each of them with a line feed. -/
theorem lines_unlines (ls : List String)
    (h : ∀ l ∈ ls, '\n' ∉ l.toList ∧ l.toList.getLast? ≠ some '\r') :
    lines (unlines ls) = ls := by
  have hnl : ∀ l ∈ ls.map String.toList, '\n' ∉ l := by
    intro l hl
    obtain ⟨s, hs, rfl⟩ := List.mem_map.mp hl
    exact (h s hs).1
  -- the text ends with a line feed, or is empty: its last piece is dropped either way
  have hend : ((ls.map String.toList).flatMap (· ++ ['\n'])).getLast? = some '\n' ||
      ((ls.map String.toList).flatMap (· ++ ['\n'])).isEmpty := by
    rcases getLast?_flatMap_newline (ls.map String.toList) with hl | hl
    · simp [hl]
    · simp [hl]
  have hcr : ∀ l ∈ ls, dropCarriageReturn l.toList = l.toList :=
    fun l hl => dropCarriageReturn_of_getLast? (h l hl).2
  unfold lines linesChars
  rw [toList_unlines, splitNewline_flatMap_newline _ hnl]
  simp only [hend, if_true, List.dropLast_concat, List.map_map]
  refine (List.map_congr_left fun l hl => ?_).trans (List.map_id ls)
  simp [hcr l hl]

end Discovery.Text
