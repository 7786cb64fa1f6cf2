import Discovery.Web.Punycode
/-!
# Domain names to ASCII

A domain name is brought to its ASCII form label by label. First each character is
mapped: ASCII capitals become small letters; the capitals of Latin-1, Latin
Extended-A, Greek and Cyrillic their small letters; fullwidth ASCII its ASCII form;
the ideographic and fullwidth full stops a dot; a few compatibility characters their
plain form; soft hyphens, zero-width spaces, word joiners, byte order marks and
variation selectors vanish. Controls, spaces and the characters that cannot stand in
a host (`# % / : < > ? @ [ \ ] ^ |`) are refused. Then every label with a character
beyond ASCII is written in Punycode after `xn--`, and a label already in that form must
decode to one that is not plain ASCII.
-/

namespace Discovery.Web.Idna

/-- What a character becomes. -/
inductive Mapping where
  | keep
  | drop
  | to (cs : List Char)
  | deny
  deriving DecidableEq, Repr

/-- ASCII characters that cannot stand in a host. -/
def deniedAscii (c : Char) : Bool :=
  c.toNat < 0x21 || c.toNat = 0x7F ||
    ['#', '%', '/', ':', '<', '>', '?', '@', '[', '\\', ']', '^', '|'].contains c

/-- What a character becomes in a domain name. -/
def map (c : Char) : Mapping :=
  let n := c.toNat
  if n < 0x80 then
    if deniedAscii c then .deny
    else if 'A' ≤ c && c ≤ 'Z' then .to [Char.ofNat (n + 32)]
    else .keep
  else if n < 0xA0 then .deny
  else if n = 0xA0 then .deny
  else if n = 0xAD then .drop
  else if n = 0xAA then .to ['a']
  else if n = 0xBA then .to ['o']
  else if n = 0xB2 then .to ['2']
  else if n = 0xB3 then .to ['3']
  else if n = 0xB9 then .to ['1']
  else if n = 0xB5 then .to [Char.ofNat 0x3BC]
  else if (0xC0 ≤ n && n ≤ 0xD6) || (0xD8 ≤ n && n ≤ 0xDE) then .to [Char.ofNat (n + 32)]
  else if 0x100 ≤ n && n ≤ 0x17F then
    if n = 0x130 then .to ['i', Char.ofNat 0x307]
    else if n = 0x131 || n = 0x138 then .keep
    else if n = 0x132 || n = 0x133 then .to ['i', 'j']
    else if n = 0x13F || n = 0x140 then .to ['l', Char.ofNat 0xB7]
    else if n = 0x149 then .to [Char.ofNat 0x2BC, 'n']
    else if n = 0x178 then .to [Char.ofNat 0xFF]
    else if n = 0x17F then .to ['s']
    else if (0x139 ≤ n && n ≤ 0x148) || (0x179 ≤ n && n ≤ 0x17E) then
      if n % 2 = 1 then .to [Char.ofNat (n + 1)] else .keep
    else if n % 2 = 0 then .to [Char.ofNat (n + 1)] else .keep
  else if n = 0x386 then .to [Char.ofNat 0x3AC]
  else if 0x388 ≤ n && n ≤ 0x38A then .to [Char.ofNat (n + 37)]
  else if n = 0x38C then .to [Char.ofNat 0x3CC]
  else if n = 0x38E || n = 0x38F then .to [Char.ofNat (n + 63)]
  else if (0x391 ≤ n && n ≤ 0x3A1) || (0x3A3 ≤ n && n ≤ 0x3AB) then .to [Char.ofNat (n + 32)]
  else if 0x400 ≤ n && n ≤ 0x40F then .to [Char.ofNat (n + 80)]
  else if 0x410 ≤ n && n ≤ 0x42F then .to [Char.ofNat (n + 32)]
  else if n = 0x200B || n = 0x2060 || n = 0xFEFF || (0xFE00 ≤ n && n ≤ 0xFE0F) then .drop
  else if n = 0x200C || n = 0x200D || n = 0x2028 || n = 0x2029 || (0x2000 ≤ n && n ≤ 0x200A) ||
      n = 0x3000 || n = 0x202F || n = 0x205F || n = 0x1680 then .deny
  else if n = 0xFFFD || n = 0xFFFC then .deny
  else if n = 0x3002 || n = 0xFF0E || n = 0xFF61 then .to ['.']
  else if 0xFF01 ≤ n && n ≤ 0xFF5E then
    let a := n - 0xFEE0
    if deniedAscii (Char.ofNat a) then .deny
    else if 0x41 ≤ a && a ≤ 0x5A then .to [Char.ofNat (a + 32)]
    else .to [Char.ofNat a]
  else .keep

/-- Map every character; `none` when one is refused. -/
def mapChars : List Char → Option (List Char)
  | [] => some []
  | c :: cs =>
    match map c, mapChars cs with
    | .deny, _ => none
    | _, none => none
    | .keep, some rest => some (c :: rest)
    | .drop, some rest => some rest
    | .to ds, some rest => some (ds ++ rest)

/-- A label in its ASCII form, or `none` when it cannot be one. -/
def labelToAscii (label : List Char) : Option (List Char) :=
  match label with
  | 'x' :: 'n' :: '-' :: '-' :: rest =>
    if label.any (fun c => c.toNat ≥ 128) then none
    else
      match Punycode.decode rest with
      | some decoded =>
        if rest.isEmpty || decoded.all (fun c => c.toNat < 128) then none
        else if mapChars decoded = some decoded then some label
        else none
      | none => none
  | _ =>
    if label.all (fun c => c.toNat < 128) then some label
    else some ("xn--".toList ++ Punycode.encode label)

/-- The ASCII form of a domain name, or `none` when it has none. -/
def toAscii (name : List Char) : Option (List Char) :=
  match mapChars name with
  | none => none
  | some mapped =>
    match (mapped.splitOn '.').mapM labelToAscii with
    | some labels => some (".".toList.intercalate labels)
    | none => none

end Discovery.Web.Idna
