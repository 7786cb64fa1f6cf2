import Discovery.Json.Read
import Discovery.Json.Write
/-!
# Reading back what is written

A value written as one token (null, a truth value, an integer, a text) is read back as
itself, whatever follows it that cannot continue a number (`readValue_render_scalar`). A text
reads back character by character: each escape the writer makes is one the reader undoes
(`readString_escapeChar`), the `\u00XX` form of a control character included. An integer is
its decimal digits, with a minus in front when negative, and the digits read back as the
number (`digitsValue_toDigits`).

An object whose members are each one token reads back member by member
(`readMembers_scalars`), so the whole text of such an object parses as the object
(`parse?_render_obj`). Its text holds no line feed (`newline_not_mem_render_obj`): a line
feed in a key or a text is written as `\n`.
-/

namespace Discovery.Json

/-! ## Texts -/

theorem hexValue?_hexDigit : ∀ n < 16, hexValue? (hexDigit n) = some n := by decide

/-- What the writer makes of one character, the reader takes back to that character. -/
theorem readString_escapeChar (c : Char) (r : List Char) :
    readString (escapeChar c ++ r) = (readString r).map fun p => (c :: p.1, p.2) := by
  rw [escapeChar]
  -- the seven short escapes first, then the `\u00XX` form, then a character as itself
  split
  · next h => subst h; simp [readString, shortEscape?]
  split
  · next h => subst h; simp [readString, shortEscape?]
  split
  · next h => subst h; simp [readString, shortEscape?]
  split
  · next h => subst h; simp [readString, shortEscape?]
  split
  · next h => subst h; simp [readString, shortEscape?]
  split
  · next h => subst h; simp [readString, shortEscape?]
  split
  · next h => subst h; simp [readString, shortEscape?]
  split
  · next hlow =>
    -- four hexadecimal digits of a value below 0x20, which is no surrogate
    have ha := hexValue?_hexDigit (c.toNat / 16) (by omega)
    have hb := hexValue?_hexDigit (c.toNat % 16) (by omega)
    have hv : c.toNat / 16 * 16 + c.toNat % 16 = c.toNat := by omega
    have h0 : hexValue? '0' = some 0 := by decide
    have hlt : ¬ 0xD800 ≤ c.toNat := by omega
    have hlt' : ¬ 0xDC00 ≤ c.toNat := by omega
    simp [readString, shortEscape?, unicodeEscape?, hex4?, ha, hb, h0, hv, hlt, hlt', Char.ofNat_toNat]
  · next h1 h2 _ _ _ _ _ _ =>
    rw [List.singleton_append, readString]
    · exact h1
    · exact fun _ _ h => absurd h h2

/-- A written text is read up to its closing quote, and gives the text back. -/
theorem readString_escaped (s rest : List Char) :
    readString (s.flatMap escapeChar ++ '"' :: rest) = some (s, rest) := by
  induction s with
  | nil => simp [readString]
  | cons c cs ih => rw [List.flatMap_cons, List.append_assoc, readString_escapeChar, ih]; rfl

theorem toList_quote (s : String) :
    (quote s).toList = '"' :: (s.toList.flatMap escapeChar ++ ['"']) := by
  simp [quote, String.toList_append]

/-! ## Numbers -/

/-- What may follow a number: nothing, or a character that cannot continue it. -/
def EndsNumber : List Char → Prop
  | [] => True
  | c :: _ => c.isDigit = false ∧ c ≠ '.' ∧ c ≠ 'e' ∧ c ≠ 'E'

theorem digits_append {ds rest : List Char} (hds : ∀ c ∈ ds, c.isDigit = true)
    (hend : EndsNumber rest) : digits (ds ++ rest) = (ds, rest) := by
  have htake : rest.takeWhile Char.isDigit = [] := by
    cases rest with
    | nil => rfl
    | cons c r => simp [hend.1]
  have hdrop : rest.dropWhile Char.isDigit = rest := by
    cases rest with
    | nil => rfl
    | cons c r => simp [hend.1]
  simp [digits, List.takeWhile_append_of_pos hds, List.dropWhile_append_of_pos hds, htake, hdrop]

theorem digitValue_digitChar : ∀ d < 10, digitValue (Nat.digitChar d) = d := by decide

theorem digitsValue_concat (ds : List Char) (d : Char) :
    digitsValue (ds ++ [d]) = digitsValue ds * 10 + digitValue d := by
  simp [digitsValue, List.foldl_append]

/-- The decimal digits of a number read back as the number. -/
theorem digitsValue_toDigits (m : Nat) : digitsValue (Nat.toDigits 10 m) = m := by
  -- the last digit is split off, as `Nat.toDigits` builds it
  induction m using Nat.strongRecOn with
  | _ m ih =>
    by_cases hm : m < 10
    · rw [Nat.toDigits_of_lt_base hm, ← List.nil_append [_], digitsValue_concat,
        digitValue_digitChar m hm]
      simp [digitsValue]
    · have hsplit := Nat.toDigits_append_toDigits (by decide : 1 < 10) (by omega : 0 < m / 10)
        (by omega : m % 10 < 10)
      rw [Nat.toDigits_of_lt_base (by omega : m % 10 < 10)] at hsplit
      rw [show m = 10 * (m / 10) + m % 10 by omega, ← hsplit, digitsValue_concat,
        ih _ (by omega), digitValue_digitChar _ (by omega)]
      omega

theorem isDigit_of_mem_toDigits {m : Nat} : ∀ c ∈ Nat.toDigits 10 m, c.isDigit = true :=
  fun _ hc => Nat.isDigit_of_mem_toDigits (by decide) (by decide) hc

/-- Digits followed by what cannot continue a number are read as a whole number. -/
theorem readNumber_digits {ds rest : List Char} (hds : ∀ c ∈ ds, c.isDigit = true) (hne : ds ≠ [])
    (hend : EndsNumber rest) :
    readNumber (ds ++ rest) = some (.num (digitsValue ds), rest) := by
  obtain ⟨d, ds', rfl⟩ := List.exists_cons_of_ne_nil hne
  have hd : d ≠ '-' := by
    intro h
    have := hds d (by simp)
    rw [h] at this
    exact absurd this (by decide)
  -- the sign and the fraction are matched on characters not known here: `simp` passes the
  -- catch-all patterns with these two facts
  have hsign : ∀ r, d :: ds' ++ rest = '-' :: r → False := fun r h => hd (List.cons.inj h).1
  have hdot : ∀ r, rest = '.' :: r → False := fun r h => by subst h; exact hend.2.1 rfl
  unfold readNumber
  simp only [digits_append hds hend]
  cases rest with
  | nil => simp
  | cons c r =>
    obtain ⟨-, -, he, hE⟩ := hend
    simp [he, hE]

theorem readNumber_minus_digits {ds rest : List Char} (hds : ∀ c ∈ ds, c.isDigit = true)
    (hpos : digitsValue ds ≠ 0) (hend : EndsNumber rest) :
    readNumber ('-' :: (ds ++ rest)) = some (.num (-(digitsValue ds : Int)), rest) := by
  have hne : ds ≠ [] := by rintro rfl; exact hpos rfl
  have hdot : ∀ r, rest = '.' :: r → False := fun r h => by subst h; exact hend.2.1 rfl
  unfold readNumber
  simp only [digits_append hds hend]
  cases rest with
  | nil => simp [hne, hpos]
  | cons c r =>
    obtain ⟨-, -, he, hE⟩ := hend
    simp [he, hE, hne, hpos]

/-! ## Values -/

/-- A value written as one token: null, a truth value, an integer or a text. -/
def Scalar : Json → Prop
  | .null | .bool _ | .num _ | .str _ => True
  | .dec .. | .arr _ | .obj _ => False

theorem isJsonBlank_of_isDigit {c : Char} (h : c.isDigit = true) : isJsonBlank c = false := by
  simp only [Char.isDigit, Bool.and_eq_true, decide_eq_true_eq] at h
  have h1 : 48 ≤ c.toNat := h.1
  have h2 : c.toNat ≤ 57 := h.2
  simp only [isJsonBlank, Bool.or_eq_false_iff, decide_eq_false_iff_not]
  refine ⟨⟨⟨?_, ?_⟩, ?_⟩, ?_⟩ <;> intro hc <;> subst hc <;> simp at h1 h2

theorem readValue_digits {ds rest : List Char} (hds : ∀ c ∈ ds, c.isDigit = true) (hne : ds ≠ [])
    (hend : EndsNumber rest) (fuel : Nat) :
    readValue (fuel + 1) (ds ++ rest) = some (.num (digitsValue ds), rest) := by
  obtain ⟨d, ds', rfl⟩ := List.exists_cons_of_ne_nil hne
  have hd := hds d (by simp)
  have hhead : ∀ {c r}, d :: (ds' ++ rest) = c :: r → c.isDigit = true := fun h =>
    (List.cons.inj h).1 ▸ hd
  rw [readValue, List.cons_append, List.dropWhile_cons_of_neg (by simp [isJsonBlank_of_isDigit hd])]
  -- a digit starts none of the other tokens
  split
  · next heq => exact absurd (hhead heq) (by decide)
  · next heq => exact absurd (hhead heq) (by decide)
  · next heq => exact absurd (hhead heq) (by decide)
  · next heq => exact absurd (hhead heq) (by decide)
  · next heq => exact absurd (hhead heq) (by decide)
  · next heq => exact absurd (hhead heq) (by decide)
  · rw [← List.cons_append, readNumber_digits hds hne hend]

theorem toList_render_nat (m : Nat) : (render (.num (m : Int))).toList = Nat.toDigits 10 m := by
  simp [render, Int.repr, Nat.repr_eq_ofList_toDigits]

theorem toList_render_negSucc (m : Nat) :
    (render (.num (Int.negSucc m))).toList = '-' :: Nat.toDigits 10 (m + 1) := by
  simp [render, Int.repr, Nat.repr_eq_ofList_toDigits]

/-- **A single-token value reads back as itself.** -/
theorem readValue_render_scalar {v : Json} (hv : Scalar v) (fuel : Nat) {rest : List Char}
    (hend : EndsNumber rest) : readValue (fuel + 1) ((render v).toList ++ rest) = some (v, rest) := by
  cases v with
  | null => simp [render, readValue, isJsonBlank]
  | bool b => cases b <;> simp [render, readValue, isJsonBlank]
  | num n =>
    cases n with
    | ofNat m =>
      rw [Int.ofNat_eq_natCast, toList_render_nat,
        readValue_digits isDigit_of_mem_toDigits Nat.toDigits_ne_nil hend, digitsValue_toDigits]
    | negSucc m =>
      rw [toList_render_negSucc, List.cons_append]
      have hpos : digitsValue (Nat.toDigits 10 (m + 1)) ≠ 0 := by
        rw [digitsValue_toDigits]
        omega
      simp only [readValue, List.dropWhile_cons, show isJsonBlank '-' = false by decide,
        Bool.false_eq_true, if_false]
      -- a minus sign starts none of the other tokens
      split
      · next heq => simp at heq
      · next heq => simp at heq
      · next heq => simp at heq
      · next heq => simp at heq
      · next heq => simp at heq
      · next heq => simp at heq
      · rw [readNumber_minus_digits isDigit_of_mem_toDigits hpos hend, digitsValue_toDigits,
          Int.negSucc_eq]
        simp
  | str s =>
    simp [render, readValue, isJsonBlank, toList_quote, readString_escaped]
  | dec => exact hv.elim
  | arr => exact hv.elim
  | obj => exact hv.elim

/-! ## Objects of single-token members -/

/-- The characters of a member of an object: its quoted key, a colon and its value. -/
def memberText (f : String × Json) : List Char :=
  '"' :: (f.1.toList.flatMap escapeChar ++ '"' :: ':' :: (render f.2).toList)

/-- The characters of an object: its members between commas, inside braces. -/
theorem toList_render_obj (fs : List (String × Json)) :
    (render (.obj fs)).toList = '{' :: ([','].intercalate (fs.map memberText) ++ ['}']) := by
  have hmembers : (fs.attach.map fun x => quote x.val.1 ++ ":" ++ render x.val.2).map
      String.toList = fs.map memberText := by
    simp only [List.map_attach_eq_pmap, List.pmap_eq_map, List.map_map]
    simp [memberText, toList_quote, String.toList_append]
  rw [render]
  simp only [String.toList_append, String.toList_intercalate, hmembers]
  rfl

/-- The members of an object, each of one token, are read back in order onto those read
before them. -/
theorem readMembers_scalars : ∀ (fs : List (String × Json)) (acc : List (String × Json))
    (fuel : Nat) (rest : List Char), (∀ m ∈ fs, Scalar m.2) → fs ≠ [] → fs.length < fuel →
    readMembers fuel ([','].intercalate (fs.map memberText) ++ '}' :: rest) acc =
      some (acc.reverse ++ fs, rest)
  | [], _, _, _, _, hne, _ => absurd rfl hne
  | [m], acc, fuel, rest, hs, _, hlen => by
    obtain ⟨k, rfl⟩ : ∃ k, fuel = k + 2 := ⟨fuel - 2, by simp at hlen; omega⟩
    have hend : EndsNumber ('}' :: rest) := ⟨by decide, by decide, by decide, by decide⟩
    simp [memberText, readMembers, isJsonBlank, readString_escaped,
      readValue_render_scalar (hs m (by simp)) k hend]
  | m :: m' :: ms, acc, fuel, rest, hs, _, hlen => by
    obtain ⟨k, rfl⟩ : ∃ k, fuel = k + 1 := ⟨fuel - 1, by simp at hlen; omega⟩
    have hend : EndsNumber (',' :: ([','].intercalate ((m' :: ms).map memberText) ++ '}' :: rest)) :=
      ⟨by decide, by decide, by decide, by decide⟩
    have ih := readMembers_scalars (m' :: ms) ((m.1, m.2) :: acc) k rest
      (fun x hx => hs x (List.mem_cons_of_mem _ hx)) (by simp) (by simp at hlen ⊢; omega)
    obtain ⟨j, rfl⟩ : ∃ j, k = j + 1 := ⟨k - 1, by simp at hlen; omega⟩
    rw [List.map_cons, List.map_cons, List.intercalate_cons_cons, ← List.map_cons, readMembers]
    -- the members after the first are read by the induction hypothesis, whatever they are
    generalize [','].intercalate (List.map memberText (m' :: ms)) = later at ih hend ⊢
    simp only [memberText, List.cons_append, List.nil_append, List.append_assoc]
    simp [isJsonBlank, readString_escaped, readValue_render_scalar (hs m (by simp)) j hend, ih]

theorem readValue_render_obj {fs : List (String × Json)} (hs : ∀ m ∈ fs, Scalar m.2) {fuel : Nat}
    (hlen : fs.length < fuel) (rest : List Char) :
    readValue (fuel + 1) ((render (.obj fs)).toList ++ rest) = some (.obj fs, rest) := by
  rw [toList_render_obj]
  cases fs with
  | nil => simp [readValue, isJsonBlank]
  | cons m ms =>
    have hm := readMembers_scalars (m :: ms) [] fuel rest hs (by simp) hlen
    -- the members start with the quote of the first key, so the object is not read as empty
    obtain ⟨tail, ht⟩ : ∃ tail, [','].intercalate ((m :: ms).map memberText) = '"' :: tail := by
      cases ms with
      | nil => exact ⟨_, rfl⟩
      | cons m' ms => exact ⟨_, by rw [List.map_cons, List.map_cons, List.intercalate_cons_cons]; rfl⟩
    rw [ht, List.cons_append] at hm ⊢
    simpa [readValue, isJsonBlank] using hm

theorem length_le_intercalate (sep : List Char) :
    ∀ ls : List (List Char), (∀ l ∈ ls, l ≠ []) → ls.length ≤ (sep.intercalate ls).length
  | [], _ => by simp
  | [l], h => by
    have hl := h l (by simp)
    rw [List.intercalate_singleton]
    exact List.length_pos_iff.mpr hl
  | l :: l' :: ls, h => by
    have ih := length_le_intercalate sep (l' :: ls) (fun x hx => h x (List.mem_cons_of_mem _ hx))
    have hl : 0 < l.length := List.length_pos_iff.mpr (h l (by simp))
    rw [List.intercalate_cons_cons]
    simp only [List.length_append, List.length_cons] at ih ⊢
    omega

/-- **Reading back an object of single-token members** gives the object itself. -/
theorem parse?_render_obj {fs : List (String × Json)} (hs : ∀ m ∈ fs, Scalar m.2) :
    parse? (render (.obj fs)) = some (.obj fs) := by
  have hlen : fs.length < 2 * (render (.obj fs)).toList.length + 1 := by
    have hle := length_le_intercalate [','] (fs.map memberText) (by
      intro l hl
      obtain ⟨f, -, rfl⟩ := List.mem_map.mp hl
      simp [memberText])
    rw [toList_render_obj]
    simp only [List.length_map, List.length_cons, List.length_append] at hle ⊢
    omega
  have hread := readValue_render_obj hs hlen []
  rw [List.append_nil] at hread
  simp [parse?, hread]

/-! ## No line feed is written -/

theorem hexDigit_ne_newline : ∀ n < 16, hexDigit n ≠ '\n' := by decide

/-- Every character is written without a line feed; a line feed itself as `\n`. -/
theorem newline_not_mem_escapeChar (c : Char) : '\n' ∉ escapeChar c := by
  rw [escapeChar]
  split
  · simp
  split
  · simp
  split
  · simp
  split
  · simp
  split
  · simp
  split
  · simp
  split
  · simp
  split
  · next hlow =>
    simp only [List.mem_cons, List.not_mem_nil, or_false, not_or]
    exact ⟨by decide, by decide, by decide, by decide,
      (hexDigit_ne_newline _ (by omega)).symm, (hexDigit_ne_newline _ (by omega)).symm⟩
  · next hlow =>
    simp only [List.mem_singleton]
    intro h
    rw [← h] at hlow
    exact hlow (by decide)

theorem not_mem_intercalate {c : Char} {sep : List Char} (hsep : c ∉ sep) :
    ∀ ls : List (List Char), (∀ l ∈ ls, c ∉ l) → c ∉ sep.intercalate ls
  | [], _ => by simp
  | [l], h => by simpa using h l (by simp)
  | l :: l' :: ls, h => by
    have ih := not_mem_intercalate hsep (l' :: ls) (fun x hx => h x (List.mem_cons_of_mem _ hx))
    rw [List.intercalate_cons_cons]
    simp only [List.mem_append, not_or]
    exact ⟨⟨h l (by simp), hsep⟩, ih⟩

theorem newline_not_mem_render_scalar {v : Json} (hv : Scalar v) : '\n' ∉ (render v).toList := by
  cases v with
  | null => simp [render]
  | bool b => cases b <;> simp [render]
  | num n =>
    intro h
    cases n with
    | ofNat m =>
      rw [Int.ofNat_eq_natCast, toList_render_nat] at h
      exact absurd (isDigit_of_mem_toDigits _ h) (by decide)
    | negSucc m =>
      rw [toList_render_negSucc, List.mem_cons] at h
      rcases h with h | h
      · exact absurd h (by decide)
      · exact absurd (isDigit_of_mem_toDigits _ h) (by decide)
  | str s =>
    simp only [render, toList_quote, List.mem_cons, List.mem_append, List.mem_flatMap, not_or]
    refine ⟨by decide, fun hmem => ?_, by decide, by simp⟩
    obtain ⟨c, -, hc⟩ := hmem
    exact newline_not_mem_escapeChar c hc
  | dec => exact hv.elim
  | arr => exact hv.elim
  | obj => exact hv.elim

/-- An object of single-token members is written on one line. -/
theorem newline_not_mem_render_obj {fs : List (String × Json)} (hs : ∀ m ∈ fs, Scalar m.2) :
    '\n' ∉ (render (.obj fs)).toList := by
  rw [toList_render_obj]
  simp only [List.mem_cons, List.mem_append, not_or]
  refine ⟨by decide, not_mem_intercalate (by decide) _ ?_, by simp⟩
  intro l hl
  obtain ⟨f, hf, rfl⟩ := List.mem_map.mp hl
  simp only [memberText, List.mem_cons, List.mem_append, List.mem_flatMap, not_or]
  refine ⟨by decide, fun hmem => ?_, by decide, by decide, newline_not_mem_render_scalar (hs f hf)⟩
  obtain ⟨c, -, hc⟩ := hmem
  exact newline_not_mem_escapeChar c hc

end Discovery.Json