import UriRouting.Text

/-!
# UriRouting.ValueRule.IpAddress

Internet addresses and their textual form.

* `IPv4.read?` reads four decimal octets; `IPv6.read?` reads groups of hexadecimal
  digits, where two colons stand for the groups of zeros left out and the last two groups
  may be written as an IPv4 address.
* `IPv4.isSpecial` and `IPv6.isSpecial` tell the addresses that are not public: private,
  loopback, link-local, reserved and the like.
-/

namespace UriRouting.ValueRule

/-- An IPv4 address by its octets. -/
structure IPv4 where
  /-- The first octet. -/
  a : UInt8
  /-- The second octet. -/
  b : UInt8
  /-- The third octet. -/
  c : UInt8
  /-- The last octet. -/
  d : UInt8
  deriving DecidableEq, Repr

/-- An IPv6 address by its groups of 16 bits. -/
structure IPv6 where
  /-- The groups. -/
  groups : List UInt16
  /-- There are eight of them. -/
  length_eq : groups.length = 8
  deriving DecidableEq, Repr

/-- An internet address. -/
inductive IpAddress where
  /-- An IPv4 address. -/
  | v4 (address : IPv4)
  /-- An IPv6 address. -/
  | v6 (address : IPv6)
  deriving DecidableEq, Repr

/-! ### Numbers -/

/-- The value of a digit in a base up to 16. -/
def digitValue? (base : Nat) (c : Char) : Option Nat :=
  let value? :=
    if c.isDigit then some (c.toNat - '0'.toNat)
    else if 'a' ≤ c && c ≤ 'f' then some (c.toNat - 'a'.toNat + 10)
    else if 'A' ≤ c && c ≤ 'F' then some (c.toNat - 'A'.toNat + 10)
    else none
  value?.filter (· < base)

/-- Reads a number of at least one and at most `most` digits in a base. It ends where no
digit follows, and its first digit is no zero unless it is the only one or
`zerosFirst`. -/
def readNumber? (base most : Nat) (zerosFirst : Bool) (t : Text) : Option (Nat × Text) :=
  let (digits, rest) := t.span fun c => (digitValue? base c).isSome
  if digits.isEmpty || most < digits.length then none
  else if !zerosFirst && 1 < digits.length && digits.head? == some '0' then none
  else some (digits.foldl (fun n c => base * n + (digitValue? base c).getD 0) 0, rest)

/-- Reads a character that has to be there. -/
def expect? (c : Char) : Text → Option Text
  | d :: t => if c == d then some t else none
  | [] => none

/-! ### IPv4 -/

/-- Reads an octet in decimal. -/
def readOctet? (t : Text) : Option (UInt8 × Text) :=
  (readNumber? 10 3 false t).bind fun r =>
    if r.1 < 256 then some (UInt8.ofNat r.1, r.2) else none

/-- Reads four octets with dots between them. -/
def IPv4.read? (t : Text) : Option (IPv4 × Text) := do
  let (a, t) ← readOctet? t
  let (b, t) ← readOctet? (← expect? '.' t)
  let (c, t) ← readOctet? (← expect? '.' t)
  let (d, t) ← readOctet? (← expect? '.' t)
  return (⟨a, b, c, d⟩, t)

/-- Whether the address is private (10/8, 172.16/12, 192.168/16) or reserved (0/8, 127/8,
169.254/16, 240/4). -/
def IPv4.isSpecial (ip : IPv4) : Bool :=
  let a := ip.a.toNat
  let b := ip.b.toNat
  a == 10 || (a == 172 && 16 ≤ b && b ≤ 31) || (a == 192 && b == 168) ||
    a == 0 || a == 127 || (a == 169 && b == 254) || 240 ≤ a

/-! ### IPv6 -/

/-- Reads a group of up to four hexadecimal digits. -/
def readGroup? (t : Text) : Option (UInt16 × Text) :=
  (readNumber? 16 4 true t).map fun r => (UInt16.ofNat r.1, r.2)

/-- Reads at most `room` groups with colons between them, as many as there are. An IPv4
address ends them and counts for two. The result tells whether there was one. -/
def readGroups : (room : Nat) → (first : Bool) → Text → List UInt16 × Bool × Text
  | 0, _, t => ([], false, t)
  | room + 1, first, t =>
    let start? := if first then some t else expect? ':' t
    let ipv4? := if room = 0 then none else start?.bind IPv4.read?
    match ipv4? with
    | some (ip, rest) =>
      let pair (x y : UInt8) : UInt16 := UInt16.ofNat (256 * x.toNat + y.toNat)
      ([pair ip.a ip.b, pair ip.c ip.d], true, rest)
    | none =>
      match start?.bind readGroup? with
      | some (group, rest) =>
        let more := readGroups room false rest
        (group :: more.1, more.2)
      | none => ([], false, t)

/-- The address with the given groups. -/
def IPv6.ofGroups? (groups : List UInt16) : Option IPv6 :=
  if h : groups.length = 8 then some ⟨groups, h⟩ else none

/-- Reads eight groups, or fewer with two colons for those left out, at least one. -/
def IPv6.read? (t : Text) : Option (IPv6 × Text) := do
  let (head, mixed, rest) := readGroups 8 true t
  if head.length = 8 then return (← ofGroups? head, rest)
  if mixed then none
  let rest ← expect? ':' (← expect? ':' rest)
  let (tail, _, rest) := readGroups (7 - head.length) true rest
  let zeros := List.replicate (8 - head.length - tail.length) 0
  return (← ofGroups? (head ++ zeros ++ tail), rest)

/-- Whether the address is unspecified (`::`), loopback (`::1`), mapped from IPv4
(`::ffff:0:0/96`), unique local (`fc00::/7`), link-local (`fe80::/10`) or for
documentation (`2001:db8::/32`). -/
def IPv6.isSpecial (ip : IPv6) : Bool :=
  match ip.groups.map UInt16.toNat with
  | [g0, g1, g2, g3, g4, g5, g6, g7] =>
    let zeroTo4 := g0 == 0 && g1 == 0 && g2 == 0 && g3 == 0 && g4 == 0
    (zeroTo4 && g5 == 0 && g6 == 0 && g7 ≤ 1) || (zeroTo4 && g5 == 0xFFFF) ||
      (0xFC00 ≤ g0 && g0 ≤ 0xFDFF) || (0xFE80 ≤ g0 && g0 ≤ 0xFEBF) ||
      (g0 == 0x2001 && g1 == 0x0DB8)
  | _ => false

/-! ### Both -/

/-- The address that a text is the form of. -/
def IpAddress.parse? (t : Text) : Option IpAddress :=
  let whole {α : Type} (r : α × Text) : Option α := if r.2.isEmpty then some r.1 else none
  match IPv4.read? t with
  | some r => (whole r).map .v4
  | none => ((IPv6.read? t).bind whole).map .v6

/-- Whether a text is an IPv4 address or, with `ipv6`, an IPv6 address; addresses that are
not public count only with `special`. -/
def isValidIp (t : Text) (ipv6 special : Bool) : Bool :=
  match IpAddress.parse? t with
  | some (.v4 ip) => special || !ip.isSpecial
  | some (.v6 ip) => ipv6 && (special || !ip.isSpecial)
  | none => false

end UriRouting.ValueRule
