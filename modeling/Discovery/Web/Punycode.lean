/-!
# Punycode

Punycode writes a label of any characters with ASCII letters, digits and hyphens: the
plain ASCII characters first, then a hyphen if there were any, then each other
character as a variable-length number in base 36 saying where and what to insert, with
a bias that adapts after each insertion. The parameters are those of internationalized
domain names: base 36, thresholds 1 and 26, skew 38, damping 700, initial bias 72 and
initial character 128.
-/

namespace Discovery.Web.Punycode

/-- The base of the digits. -/
def base : Nat := 36

/-- The threshold of the `k`-th digit for a bias. -/
def threshold (k bias : Nat) : Nat :=
  if k ≤ bias then 1 else if k ≥ bias + 26 then 26 else k - bias

/-- Divide `delta` down while it is large, counting the steps in `k`. -/
def adaptLoop : Nat → Nat → Nat → Nat × Nat
  | 0, delta, k => (delta, k)
  | fuel + 1, delta, k => if delta > 35 * 26 / 2 then adaptLoop fuel (delta / 35) (k + base) else (delta, k)

/-- The new bias after an insertion. -/
def adapt (delta numPoints : Nat) (first : Bool) : Nat :=
  let delta := if first then delta / 700 else delta / 2
  let delta := delta + delta / numPoints
  let (delta, k) := adaptLoop 64 delta 0
  k + 36 * delta / (delta + 38)

/-- The character of a digit. -/
def digitChar (d : Nat) : Char := if d < 26 then Char.ofNat (97 + d) else Char.ofNat (22 + d)

/-- The value of a digit character, in either case. -/
def digitValue? (c : Char) : Option Nat :=
  if 'a' ≤ c && c ≤ 'z' then some (c.toNat - 97)
  else if 'A' ≤ c && c ≤ 'Z' then some (c.toNat - 65)
  else if '0' ≤ c && c ≤ '9' then some (c.toNat - 22)
  else none

/-- The digits of `q` from position `k` on. -/
def encodeNumber : Nat → Nat → Nat → Nat → List Char
  | 0, _, _, _ => []
  | fuel + 1, q, k, bias =>
    let t := threshold k bias
    if q < t then [digitChar q]
    else digitChar (t + (q - t) % (base - t)) :: encodeNumber fuel ((q - t) / (base - t)) (k + base) bias

/-- Insert every character equal to `n`, walking the label; returns the digits, the new
`delta`, bias and handled count. -/
def encodeRound (n : Nat) (basicCount : Nat) :
    List Nat → Nat → Nat → Nat → List Char → List Char × Nat × Nat × Nat
  | [], delta, bias, h, out => (out, delta, bias, h)
  | c :: cs, delta, bias, h, out =>
    if c < n then encodeRound n basicCount cs (delta + 1) bias h out
    else if c = n then
      let digits := encodeNumber 64 delta base bias
      let bias := adapt delta (h + 1) (h == basicCount)
      encodeRound n basicCount cs 0 bias (h + 1) (out ++ digits)
    else encodeRound n basicCount cs delta bias h out

/-- The rounds of the encoder, one per distinct character above the plain ones. -/
def encodeRounds : Nat → List Nat → Nat → Nat → Nat → Nat → List Char → List Char
  | 0, _, _, _, _, _, out => out
  | fuel + 1, cps, basicCount, n, delta, bias, out =>
    let h := (cps.filter (· < n)).length
    if h ≥ cps.length then out
    else
      let m := ((cps.filter (· ≥ n)).foldl min (cps.foldl max 0))
      let delta := delta + (m - n) * (h + 1)
      let (out, delta, bias, _) := encodeRound m basicCount cps delta bias h out
      encodeRounds fuel cps basicCount (m + 1) (delta + 1) bias out

/-- The Punycode text of a label. -/
def encode (label : List Char) : List Char :=
  let cps := label.map Char.toNat
  let basic := label.filter fun c => c.toNat < 128
  let out := if basic.isEmpty then [] else basic ++ ['-']
  encodeRounds (cps.length + 1) cps basic.length 128 0 72 out

/-- Read one variable-length number; returns the new `i` and the rest. -/
def decodeNumber : Nat → List Char → Nat → Nat → Nat → Nat → Option (Nat × List Char)
  | 0, _, _, _, _, _ => none
  | _ + 1, [], _, _, _, _ => none
  | fuel + 1, c :: cs, i, w, k, bias =>
    match digitValue? c with
    | none => none
    | some d =>
      let i := i + d * w
      let t := threshold k bias
      if d < t then some (i, cs)
      else decodeNumber fuel cs i (w * (base - t)) (k + base) bias

/-- Insert the characters that the digits describe. -/
def decodeLoop : Nat → List Char → List Nat → Nat → Nat → Nat → Option (List Nat)
  | 0, _, _, _, _, _ => none
  | _ + 1, [], out, _, _, _ => some out
  | fuel + 1, cs, out, n, i, bias =>
    match decodeNumber (cs.length + 1) cs i 1 base bias with
    | none => none
    | some (i', rest) =>
      let len := out.length + 1
      let bias := adapt (i' - i) len (i == 0)
      let n := n + i' / len
      let pos := i' % len
      if n > 0x10FFFF || (0xD800 ≤ n && n < 0xE000) then none
      else decodeLoop fuel rest (out.take pos ++ [n] ++ out.drop pos) n (pos + 1) bias

/-- The label that a Punycode text writes, if it is well formed. -/
def decode (text : List Char) : Option (List Char) :=
  let (basic, rest) :=
    match text.reverse.dropWhile (· ≠ '-') with
    | [] => ([], text)
    | _ :: before => (before.reverse, text.drop (before.length + 1))
  if basic.any (fun c => c.toNat ≥ 128) then none
  else
    (decodeLoop (rest.length + 1) rest (basic.map Char.toNat) 128 0 72).map
      (·.map Char.ofNat)

end Discovery.Web.Punycode
