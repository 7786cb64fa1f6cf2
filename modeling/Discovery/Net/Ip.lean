/-!
# IP addresses

An IPv4 address is a 32-bit number written as four dotted decimal bytes. An IPv6
address is eight 16-bit pieces written in lowercase hexadecimal, where the first
longest run of two or more zero pieces is written `::`. An address display may also
show an IPv4-mapped address (`::ffff:` followed by four bytes) with its IPv4 part
dotted.

Two readers are given: the lenient one of web addresses, where IPv4 numbers may be
octal or hexadecimal and have fewer than four parts, and the strict one of address
lists, which wants four plain decimal bytes or eight pieces.
-/

namespace Discovery.Net

/-- An IPv4 address. -/
structure Ipv4 where
  bits : Nat
  deriving DecidableEq, Repr

/-- An IPv6 address: eight pieces. -/
structure Ipv6 where
  pieces : List Nat
  deriving DecidableEq, Repr

/-- An address of either family. -/
inductive IpAddr where
  | v4 (a : Ipv4)
  | v6 (a : Ipv6)
  deriving DecidableEq, Repr

/-- Dotted decimal. -/
def Ipv4.render (a : Ipv4) : String :=
  ".".intercalate ([24, 16, 8, 0].map fun s => toString (a.bits / Nat.pow 2 s % 256))

/-- Lowercase hexadecimal digits of a number, without leading zeros. -/
def hexText (n : Nat) : String :=
  String.ofList (Nat.toDigits 16 n)

/-- The first longest run of zero pieces: its start and length. -/
def longestZeroRun (ps : List Nat) : Nat × Nat :=
  let step := fun (acc : (Nat × Nat) × (Nat × Nat) × Nat) (p : Nat) =>
    let (best, cur, i) := acc
    let cur := if p = 0 then (if cur.2 = 0 then (i, 1) else (cur.1, cur.2 + 1)) else (0, 0)
    let best := if cur.2 > best.2 then cur else best
    (best, cur, i + 1)
  (ps.foldl step ((0, 0), (0, 0), 0)).1

/-- Eight pieces, a run of two or more zeros written as `::`. -/
def Ipv6.render (a : Ipv6) : String :=
  let (start, len) := longestZeroRun a.pieces
  let hex := fun (ps : List Nat) => ":".intercalate (ps.map hexText)
  if len > 1 then hex (a.pieces.take start) ++ "::" ++ hex (a.pieces.drop (start + len))
  else hex a.pieces

/-- An address of the IPv4 family. -/
def IpAddr.isV4 : IpAddr → Bool
  | .v4 _ => true
  | .v6 _ => false

/-- The display of an address, showing an IPv4-mapped address with its IPv4 part. -/
def IpAddr.display : IpAddr → String
  | .v4 a => a.render
  | .v6 a =>
    match a.pieces with
    | [0, 0, 0, 0, 0, 0xFFFF, hi, lo] => "::ffff:" ++ (Ipv4.mk (hi * 65536 + lo)).render
    | _ => a.render

/-! ## The lenient reader of web addresses -/

/-- One number of a web IPv4 address: hexadecimal after `0x`, octal after a leading
zero, decimal otherwise; `none` for a malformed part, `some none` for one too large. -/
def readIpv4Number (cs : List Char) : Option (Option Nat) :=
  if cs.isEmpty then none
  else
    let (radix, ds) : Nat × List Char :=
      match cs with
      | '0' :: 'x' :: r => (16, r)
      | '0' :: 'X' :: r => (16, r)
      | '0' :: r@(_ :: _) => (8, r)
      | r => (10, r)
    if ds.isEmpty then some (some 0)
    else
      let digit := fun (c : Char) =>
        if '0' ≤ c && c ≤ '9' then c.toNat - 48
        else if 'a' ≤ c && c ≤ 'f' then c.toNat - 87
        else if 'A' ≤ c && c ≤ 'F' then c.toNat - 55
        else 99
      if ds.all (fun c => digit c < radix) then
        let n := ds.foldl (fun n c => n * radix + digit c) 0
        some (if n < 4294967296 then some n else none)
      else none

/-- The last dotted part of a host names a number: all decimal digits, or a number as
the web reader reads it. A final empty part is passed over. -/
def endsInNumber (host : List Char) : Bool :=
  let parts := (host.splitOn '.').reverse
  let last := match parts with
    | [] :: p :: _ => some p
    | [] :: [] => none
    | p :: _ => some p
    | [] => none
  match last with
  | none => false
  | some p =>
    (!p.isEmpty && p.all Char.isDigit) ||
      match readIpv4Number p with
      | some _ => true
      | none => false

/-- A web IPv4 address: one to four numbers, the last filling the remaining bytes. -/
def readWebIpv4 (host : List Char) : Option Ipv4 :=
  let parts := host.splitOn '.'
  let parts := if parts.getLast? = some [] && parts.length > 1 then parts.dropLast else parts
  if parts.length > 4 then none
  else
    match parts.mapM readIpv4Number with
    | none => none
    | some nums =>
      match nums.mapM id with
      | none => none
      | some ns =>
        match ns.reverse with
        | [] => none
        | last :: before =>
          let before := before.reverse
          if last ≥ Nat.pow 256 (4 - before.length) then none
          else if before.any (· > 255) then none
          else
            some ⟨(before.zipIdx.foldl (fun acc (n, i) => acc + n * Nat.pow 256 (3 - i)) 0) + last⟩

/-- The state of reading a web IPv6 address: pieces, next piece, compression point. -/
structure Ipv6Reader where
  pieces : List Nat := [0, 0, 0, 0, 0, 0, 0, 0]
  pointer : Nat := 0
  compress : Option Nat := none

/-- Up to four hexadecimal digits and their value. -/
def hexPiece (cs : List Char) : Nat × Nat × List Char :=
  let ds := (cs.take 4).takeWhile fun c => c.isDigit || ('a' ≤ c && c ≤ 'f') || ('A' ≤ c && c ≤ 'F')
  let v := ds.foldl (fun n c =>
    n * 16 + (if c.isDigit then c.toNat - 48 else if 'a' ≤ c then c.toNat - 87 else c.toNat - 55)) 0
  (v, ds.length, cs.drop ds.length)

/-- The dotted IPv4 tail of a web IPv6 address, written into two pieces. -/
def readIpv4Tail : Nat → List Char → Ipv6Reader → Nat → Option (Ipv6Reader × Nat)
  | 0, _, _, _ => none
  | fuel + 1, cs, r, seen =>
    if cs.isEmpty then some (r, seen)
    else
      let cs? : Option (List Char) :=
        if seen > 0 then
          match cs with
          | '.' :: rest => if seen < 4 then some rest else none
          | _ => none
        else some cs
      match cs? with
      | none => none
      | some cs =>
        let ds := cs.takeWhile Char.isDigit
        let rest := cs.dropWhile Char.isDigit
        if ds.isEmpty then none
        else if ds.length > 1 && ds.head? = some '0' then none
        else
          let v := ds.foldl (fun (n : Nat) (c : Char) => n * 10 + (c.toNat - 48)) 0
          if v > 255 then none
          else
            let p := r.pieces.getD r.pointer 0
            let r := { r with pieces := r.pieces.set r.pointer (p * 256 + v) }
            let seen := seen + 1
            let r := if seen = 2 || seen = 4 then { r with pointer := r.pointer + 1 } else r
            readIpv4Tail fuel rest r seen

/-- The pieces and separators of a web IPv6 address. -/
def readIpv6Body : Nat → List Char → Ipv6Reader → Option Ipv6Reader
  | 0, _, _ => none
  | fuel + 1, cs, r =>
    match cs with
    | [] => some r
    | c :: rest =>
      if r.pointer = 8 then none
      else if c = ':' then
        if r.compress.isSome then none
        else readIpv6Body fuel rest { r with pointer := r.pointer + 1, compress := some (r.pointer + 1) }
      else
        let (v, n, after) := hexPiece cs
        match after with
        | '.' :: _ =>
          if n = 0 || r.pointer > 6 then none
          else
            match readIpv4Tail (cs.length + 1) cs r 0 with
            | some (r, 4) => some r
            | _ => none
        | ':' :: more =>
          if more.isEmpty then none
          else readIpv6Body fuel more
            { r with pieces := r.pieces.set r.pointer v, pointer := r.pointer + 1 }
        | [] => some { r with pieces := r.pieces.set r.pointer v, pointer := r.pointer + 1 }
        | _ => none

/-- A web IPv6 address, between the brackets. -/
def readWebIpv6 (cs : List Char) : Option Ipv6 :=
  if cs.length < 2 then none
  else
    let start : Option (List Char × Ipv6Reader) :=
      match cs with
      | ':' :: ':' :: rest => some (rest, { pointer := 1, compress := some 1 })
      | ':' :: _ => none
      | _ => some (cs, {})
    match start with
    | none => none
    | some (body, r) =>
      match readIpv6Body (body.length + 1) body r with
      | none => none
      | some r =>
        match r.compress with
        | some c =>
          let moved := r.pieces.extract c r.pointer
          let ps := r.pieces.take c
          some ⟨ps ++ List.replicate (8 - c - moved.length) 0 ++ moved⟩
        | none => if r.pointer = 8 then some ⟨r.pieces⟩ else none

/-! ## The strict reader of address lists -/

/-- Four plain decimal bytes without leading zeros. -/
def readIpv4 (cs : List Char) : Option Ipv4 :=
  let parts := cs.splitOn '.'
  if parts.length ≠ 4 then none
  else
    let byte := fun (p : List Char) =>
      if p.isEmpty || p.length > 3 || !p.all Char.isDigit || (p.length > 1 && p.head? = some '0')
      then none
      else
        let v := p.foldl (fun (n : Nat) (c : Char) => n * 10 + (c.toNat - 48)) 0
        if v > 255 then none else some v
    match parts.mapM byte with
    | some [a, b, c, d] => some ⟨((a * 256 + b) * 256 + c) * 256 + d⟩
    | _ => none

/-- Groups of one to four hexadecimal digits. -/
def readGroups (groups : List (List Char)) : Option (List Nat) :=
  groups.mapM fun g =>
    if g.isEmpty || g.length > 4 then none
    else
      let (v, n, _) := hexPiece g
      if n = g.length then some v else none

/-- Groups, possibly ending with a dotted IPv4 address that counts as two. -/
def readGroupsTail (groups : List (List Char)) : Option (List Nat) :=
  match groups.reverse with
  | last :: before =>
    if last.contains '.' then
      match readIpv4 last, readGroups before.reverse with
      | some a, some ps => some (ps ++ [a.bits / 65536, a.bits % 65536])
      | _, _ => none
    else readGroups groups
  | [] => some []

/-- Eight pieces, or fewer around one `::`, possibly ending in a dotted IPv4 address. -/
def readIpv6 (cs : List Char) : Option Ipv6 :=
  let halves := (String.ofList cs).splitOn "::"
  match halves with
  | [whole] =>
    match readGroupsTail (whole.toList.splitOn ':') with
    | some ps => if ps.length = 8 then some ⟨ps⟩ else none
    | none => none
  | [front, back] =>
    let fr := if front.isEmpty then some [] else readGroups (front.toList.splitOn ':')
    let bk := if back.isEmpty then some [] else readGroupsTail (back.toList.splitOn ':')
    match fr, bk with
    | some f, some b =>
      if f.length + b.length ≤ 7 then some ⟨f ++ List.replicate (8 - f.length - b.length) 0 ++ b⟩
      else none
    | _, _ => none
  | _ => none

/-- An address of an address list. -/
def IpAddr.read? (s : String) : Option IpAddr :=
  match readIpv4 s.toList with
  | some a => some (.v4 a)
  | none => (readIpv6 s.toList).map .v6

end Discovery.Net
