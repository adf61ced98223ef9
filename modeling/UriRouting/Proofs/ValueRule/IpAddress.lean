import Mathlib.Data.Nat.Digits.Defs
import UriRouting.ValueRule.IpAddress

/-!
# UriRouting.Proofs.ValueRule.IpAddress

Which addresses are not public, and which texts are accepted as addresses.

* `Block` — a block of addresses: the numbers that agree in their first bits
  (`Block.contains_iff_div`), as a mask tells (`Block.contains_iff_mask`);
* `Block.contains_numberOf_iff` — a block is told by the first digits of a number (`numberOf`);
* `IPv4.isSpecial_iff`, `IPv6.isSpecial_iff` — the addresses that are not public are those with a
  number in one of a few blocks;
* `IPv6.isSpecialByMasks_eq` — masks for the first group tell them as bounds do;
* `IpAddress.parse?_eq_some_iff` — no text is a form of addresses of both kinds;
* `isValidIp_iff` — an address is accepted by its kind and by its block;
* `isValidIp_byBlocks` — all of it.
-/

namespace UriRouting.ValueRule

/-! ### Blocks -/

/-- A block of numbers of some width, those that have their first bits in common. -/
structure Block (width : Nat) where
  /-- The least number. -/
  first : Nat
  /-- How many bits the numbers have in common. -/
  length : Nat
  /-- The numbers have this many bits. -/
  length_le : length ≤ width := by decide
  /-- The least number has the width. -/
  first_lt : first < 2 ^ width := by decide
  /-- The bits that the numbers do not have in common are zero in the least one. -/
  aligned : 2 ^ (width - length) ∣ first := by decide

namespace Block

variable {width : Nat}

/-- How many numbers there are in the block. -/
def size (block : Block width) : Nat :=
  2 ^ (width - block.length)

/-- The bits that the numbers of the block have in common, as a number. -/
def mask (block : Block width) : Nat :=
  2 ^ width - block.size

/-- The number is in the block. -/
def Contains (block : Block width) (n : Nat) : Prop :=
  block.first ≤ n ∧ n < block.first + block.size

theorem size_pos (block : Block width) : 0 < block.size :=
  Nat.two_pow_pos _

/-- The numbers of a block are those that agree with its least one in the first bits. -/
theorem contains_iff_div {block : Block width} {n : Nat} :
    block.Contains n ↔ n / block.size = block.first / block.size := by
  obtain ⟨k, hk⟩ := block.aligned
  have hfirst : block.first = block.size * k := hk
  rw [Contains, hfirst, Nat.mul_div_cancel_left k block.size_pos, Nat.div_eq_iff block.size_pos,
    Nat.mul_comm k]
  have hpos := block.size_pos
  omega

/-- What a mask for the bits from some place on keeps. -/
theorem and_two_pow_sub {k n : Nat} (hk : k ≤ width) (hn : n < 2 ^ width) :
    n &&& (2 ^ width - 2 ^ k) = n / 2 ^ k * 2 ^ k := by
  have hmask : 2 ^ width - 2 ^ k = (2 ^ (width - k) - 1) * 2 ^ k := by
    rw [Nat.sub_mul, Nat.one_mul, ← Nat.pow_add, Nat.sub_add_cancel hk]
  apply Nat.eq_of_testBit_eq
  intro i
  rw [hmask, Nat.testBit_and, Nat.testBit_mul_two_pow, Nat.testBit_mul_two_pow,
    Nat.testBit_two_pow_sub_one, Nat.testBit_div_two_pow]
  by_cases hi : k ≤ i
  · have hplace : i - k + k = i := by omega
    by_cases hwidth : i < width
    · have hlt : i - k < width - k := by omega
      simp [hi, hplace, hlt]
    · have hbit : n.testBit i = false := by
        apply Nat.testBit_lt_two_pow
        exact Nat.lt_of_lt_of_le hn (Nat.pow_le_pow_right (by decide) (by omega))
      simp [hplace, hbit]
  · simp [hi]

/-- **A mask tells the numbers of a block.** -/
theorem contains_iff_mask {block : Block width} {n : Nat} (hn : n < 2 ^ width) :
    block.Contains n ↔ n &&& block.mask = block.first := by
  obtain ⟨k, hk⟩ := block.aligned
  have hfirst : block.first = block.size * k := hk
  have hand : n &&& block.mask = n / block.size * block.size :=
    and_two_pow_sub (Nat.sub_le _ _) hn
  rw [contains_iff_div, hand, hfirst, Nat.mul_div_cancel_left k block.size_pos, Nat.mul_comm,
    Nat.mul_right_inj (Nat.pos_iff_ne_zero.mp block.size_pos)]

end Block

/-! ### Numbers by their digits -/

/-- The number that digits of some bits make, the highest one first. -/
def numberOf (bits : Nat) (digits : List Nat) : Nat :=
  Nat.ofDigits (2 ^ bits) digits.reverse

/-- A number without its last digits is the one that the first ones make. -/
theorem numberOf_div {bits : Nat} {digits : List Nat}
    (hdigits : ∀ digit ∈ digits, digit < 2 ^ bits) (n : Nat) :
    numberOf bits digits / 2 ^ (bits * n) = numberOf bits (digits.take (digits.length - n)) := by
  have hreverse : ∀ digit ∈ digits.reverse, digit < 2 ^ bits := by simpa using hdigits
  rw [numberOf, Nat.pow_mul,
    Nat.ofDigits_div_pow_eq_ofDigits_drop n (Nat.two_pow_pos bits) _ hreverse, List.drop_reverse,
    numberOf]

theorem numberOf_lt {bits : Nat} {digits : List Nat}
    (hdigits : ∀ digit ∈ digits, digit < 2 ^ bits) :
    numberOf bits digits < 2 ^ (bits * digits.length) := by
  have hdiv := numberOf_div hdigits digits.length
  rw [Nat.sub_self, List.take_zero] at hdiv
  exact Nat.lt_of_div_eq_zero (Nat.two_pow_pos _) hdiv

/-- Numbers are equal if their digits are. -/
theorem numberOf_inj {bits : Nat} {digits digits' : List Nat} (hbits : bits ≠ 0)
    (hdigits : ∀ digit ∈ digits, digit < 2 ^ bits) (hdigits' : ∀ digit ∈ digits', digit < 2 ^ bits)
    (hsame : digits.length = digits'.length) :
    numberOf bits digits = numberOf bits digits' ↔ digits = digits' := by
  constructor
  · intro h
    have hreverse : digits.reverse = digits'.reverse :=
      Nat.ofDigits_inj_of_len_eq (Nat.one_lt_two_pow hbits) (by simpa using hsame)
        (by simpa using hdigits) (by simpa using hdigits') h
    exact List.reverse_inj.mp hreverse
  · intro h
    rw [h]

/-- **A block is told by the first digits of a number**, of the last of which only a part may
count. -/
theorem Block.contains_numberOf_iff {width length bits k : Nat} {digits digits' : List Nat}
    (hdigits : ∀ digit ∈ digits, digit < 2 ^ bits) (hdigits' : ∀ digit ∈ digits', digit < 2 ^ bits)
    (hwidth : bits * digits.length = width) (hsame : digits'.length = digits.length)
    (hk : k ≤ digits.length) (hlength : length ≤ bits * k)
    {h : length ≤ width} {h' : numberOf bits digits' < 2 ^ width}
    {h'' : 2 ^ (width - length) ∣ numberOf bits digits'} :
    Block.Contains ⟨numberOf bits digits', length, h, h', h''⟩ (numberOf bits digits) ↔
      numberOf bits (digits.take k) / 2 ^ (bits * k - length) =
        numberOf bits (digits'.take k) / 2 ^ (bits * k - length) := by
  have hsplit : bits * digits.length = bits * (digits.length - k) + bits * k := by
    rw [← Nat.mul_add, Nat.sub_add_cancel hk]
  have hsize : width - length = bits * (digits.length - k) + (bits * k - length) := by omega
  have hrest : digits.length - (digits.length - k) = k := by omega
  rw [contains_iff_div, size, hsize, Nat.pow_add, ← Nat.div_div_eq_div_mul,
    ← Nat.div_div_eq_div_mul, numberOf_div hdigits, numberOf_div hdigits', hsame, hrest]

/-! ### IPv4 -/

namespace IPv4

/-- The octets as numbers. -/
def octets (ip : IPv4) : List Nat :=
  [ip.a.toNat, ip.b.toNat, ip.c.toNat, ip.d.toNat]

/-- The address as a number of 32 bits. -/
def number (ip : IPv4) : Nat :=
  numberOf 8 ip.octets

/-- The blocks of addresses that are not public. -/
def specialBlocks : List (Block 32) :=
  [{ first := number ⟨0, 0, 0, 0⟩, length := 8 },
   { first := number ⟨10, 0, 0, 0⟩, length := 8 },
   { first := number ⟨127, 0, 0, 0⟩, length := 8 },
   { first := number ⟨169, 254, 0, 0⟩, length := 16 },
   { first := number ⟨172, 16, 0, 0⟩, length := 12 },
   { first := number ⟨192, 168, 0, 0⟩, length := 16 },
   { first := number ⟨240, 0, 0, 0⟩, length := 4 }]

/-- The number of the address is in one of these blocks. -/
def InSpecialBlock (ip : IPv4) : Prop :=
  ∃ block ∈ specialBlocks, block.Contains ip.number

theorem octet_lt (ip : IPv4) : ∀ octet ∈ ip.octets, octet < 2 ^ 8 := by
  simpa [octets] using ⟨ip.a.toNat_lt, ip.b.toNat_lt, ip.c.toNat_lt, ip.d.toNat_lt⟩

theorem number_lt (ip : IPv4) : ip.number < 2 ^ 32 :=
  numberOf_lt ip.octet_lt

example : number ⟨192, 168, 0, 1⟩ = 0xC0A80001 := by decide

/-- A block is told by the octets that the addresses in it have in common, be it in part. -/
theorem contains_iff {net ip : IPv4} (k : Nat) {length : Nat} (hk : k ≤ 4)
    (hlength : length ≤ 8 * k) {h h' h''} :
    (⟨net.number, length, h, h', h''⟩ : Block 32).Contains ip.number ↔
      numberOf 8 (ip.octets.take k) / 2 ^ (8 * k - length) =
        numberOf 8 (net.octets.take k) / 2 ^ (8 * k - length) :=
  Block.contains_numberOf_iff ip.octet_lt net.octet_lt rfl rfl hk hlength

/-- **The addresses that are not public are those of a few blocks.** -/
theorem isSpecial_iff (ip : IPv4) : ip.isSpecial = true ↔ ip.InSpecialBlock := by
  have ha := ip.a.toNat_lt
  have hb := ip.b.toNat_lt
  simp only [InSpecialBlock, specialBlocks, List.mem_cons, List.not_mem_nil, or_false,
    exists_eq_or_imp, exists_eq_left]
  rw [contains_iff 1, contains_iff 1, contains_iff 1, contains_iff 2, contains_iff 2,
    contains_iff 2, contains_iff 1]
  · simp [isSpecial, octets, numberOf, Nat.ofDigits_cons]
    omega
  all_goals decide

end IPv4

/-! ### IPv6 -/

namespace IPv6

/-- The address as a number of 128 bits. -/
def number (ip : IPv6) : Nat :=
  numberOf 16 (ip.groups.map UInt16.toNat)

/-- The blocks of addresses that are not public. -/
def specialBlocks : List (Block 128) :=
  [{ first := number ⟨[0, 0, 0, 0, 0, 0, 0, 0], rfl⟩, length := 128 },
   { first := number ⟨[0, 0, 0, 0, 0, 0, 0, 1], rfl⟩, length := 128 },
   { first := number ⟨[0, 0, 0, 0, 0, 0xFFFF, 0, 0], rfl⟩, length := 96 },
   { first := number ⟨[0xFC00, 0, 0, 0, 0, 0, 0, 0], rfl⟩, length := 7 },
   { first := number ⟨[0xFE80, 0, 0, 0, 0, 0, 0, 0], rfl⟩, length := 10 },
   { first := number ⟨[0x2001, 0x0DB8, 0, 0, 0, 0, 0, 0], rfl⟩, length := 32 }]

/-- The number of the address is in one of these blocks. -/
def InSpecialBlock (ip : IPv6) : Prop :=
  ∃ block ∈ specialBlocks, block.Contains ip.number

theorem group_lt (ip : IPv6) : ∀ group ∈ ip.groups.map UInt16.toNat, group < 2 ^ 16 := by
  simpa using fun group _ => UInt16.toNat_lt group

theorem length_groups (ip : IPv6) : (ip.groups.map UInt16.toNat).length = 8 := by
  rw [List.length_map, ip.length_eq]

theorem number_lt (ip : IPv6) : ip.number < 2 ^ 128 := by
  have hlt := numberOf_lt ip.group_lt
  rwa [length_groups] at hlt

/-- A block is told by the groups that the addresses in it have in common, be it in part. -/
theorem contains_iff {net ip : IPv6} (k : Nat) {length : Nat} (hk : k ≤ 8)
    (hlength : length ≤ 16 * k) {h h' h''} :
    (⟨net.number, length, h, h', h''⟩ : Block 128).Contains ip.number ↔
      numberOf 16 ((ip.groups.map UInt16.toNat).take k) / 2 ^ (16 * k - length) =
        numberOf 16 ((net.groups.map UInt16.toNat).take k) / 2 ^ (16 * k - length) := by
  refine Block.contains_numberOf_iff ip.group_lt net.group_lt ?_ ?_ ?_ hlength
  · rw [length_groups]
  · rw [length_groups, length_groups]
  · rwa [length_groups]

/-- A block that has whole groups in common is told by these. -/
theorem contains_iff_take {net ip : IPv6} (k : Nat) {length : Nat} (hk : k ≤ 8)
    (hlength : length = 16 * k) {h h' h''} :
    (⟨net.number, length, h, h', h''⟩ : Block 128).Contains ip.number ↔
      (ip.groups.map UInt16.toNat).take k = (net.groups.map UInt16.toNat).take k := by
  rw [contains_iff k hk (Nat.le_of_eq hlength), hlength, Nat.sub_self, Nat.pow_zero, Nat.div_one,
    Nat.div_one, numberOf_inj (by decide)]
  · intro group hmem
    exact ip.group_lt group (List.mem_of_mem_take hmem)
  · intro group hmem
    exact net.group_lt group (List.mem_of_mem_take hmem)
  · rw [List.length_take, List.length_take, length_groups, length_groups]

/-- **The addresses that are not public are those of a few blocks.** -/
theorem isSpecial_iff (ip : IPv6) : ip.isSpecial = true ↔ ip.InSpecialBlock := by
  simp only [InSpecialBlock, specialBlocks, List.mem_cons, List.not_mem_nil, or_false,
    exists_eq_or_imp, exists_eq_left]
  rw [contains_iff_take 8, contains_iff_take 8, contains_iff_take 6, contains_iff 1, contains_iff 1,
    contains_iff_take 2]
  · obtain ⟨groups, hlength⟩ := ip
    match groups, hlength with
    | [g0, g1, g2, g3, g4, g5, g6, g7], _ =>
      have h0 := g0.toNat_lt
      have hlocal : g0.toNat / 512 = 126 ↔ 0xFC00 ≤ g0.toNat ∧ g0.toNat ≤ 0xFDFF := by omega
      have hlink : g0.toNat / 64 = 1018 ↔ 0xFE80 ≤ g0.toNat ∧ g0.toNat ≤ 0xFEBF := by omega
      simp [isSpecial, numberOf, hlocal, hlink, Nat.le_one_iff_eq_zero_or_eq_one, and_or_left,
        and_assoc, or_assoc]
  all_goals decide

/-- The same test with masks in place of bounds for the first group. -/
def isSpecialByMasks (ip : IPv6) : Bool :=
  match ip.groups with
  | [g0, g1, g2, g3, g4, g5, g6, g7] =>
    let zeroTo4 := g0 == 0 && g1 == 0 && g2 == 0 && g3 == 0 && g4 == 0
    (zeroTo4 && g5 == 0 && g6 == 0 && (g7 == 0 || g7 == 1)) || (zeroTo4 && g5 == 0xFFFF) ||
      g0 &&& 0xFE00 == 0xFC00 || g0 &&& 0xFFC0 == 0xFE80 || (g0 == 0x2001 && g1 == 0x0DB8)
  | _ => false

/-- A mask for a group tells a block of groups. -/
theorem and_eq_iff_contains (block : Block 16) {mask first : UInt16} (g : UInt16)
    (hmask : block.mask = mask.toNat) (hfirst : block.first = first.toNat) :
    g &&& mask = first ↔ block.Contains g.toNat := by
  rw [Block.contains_iff_mask g.toNat_lt, hmask, hfirst, ← UInt16.toNat_and, UInt16.toNat_inj]

theorem isSpecialByMasks_eq (ip : IPv6) : ip.isSpecialByMasks = ip.isSpecial := by
  obtain ⟨groups, hlength⟩ := ip
  match groups, hlength with
  | [g0, g1, g2, g3, g4, g5, g6, g7], _ =>
    have hlocal : g0 &&& 0xFE00 = 0xFC00 ↔ 0xFC00 ≤ g0.toNat ∧ g0.toNat < 0xFC00 + 2 ^ 9 :=
      and_eq_iff_contains { first := 0xFC00, length := 7 } g0 rfl rfl
    have hlink : g0 &&& 0xFFC0 = 0xFE80 ↔ 0xFE80 ≤ g0.toNat ∧ g0.toNat < 0xFE80 + 2 ^ 6 :=
      and_eq_iff_contains { first := 0xFE80, length := 10 } g0 rfl rfl
    rw [Bool.eq_iff_iff]
    simp [isSpecialByMasks, isSpecial, hlocal, hlink, ← UInt16.toNat_inj,
      Nat.le_one_iff_eq_zero_or_eq_one, Nat.lt_succ_iff]

end IPv6

/-! ### Texts -/

/-- A text that starts with an IPv4 address does not start with an IPv6 address: where groups are
read, an IPv4 address would end them, and two of them are not enough. -/
theorem IPv6.read?_of_ipv4 {t : Text} {r : IPv4 × Text} (h : IPv4.read? t = some r) :
    IPv6.read? t = none := by
  obtain ⟨ip, rest⟩ := r
  simp [IPv6.read?, readGroups, h]

namespace IpAddress

/-- The text is a form of the address. -/
def IsForm (t : Text) : IpAddress → Prop
  | v4 ip => IPv4.read? t = some (ip, [])
  | v6 ip => IPv6.read? t = some (ip, [])

/-- **A text is read as the address that it is a form of.** No text is a form of addresses of both
kinds. -/
theorem parse?_eq_some_iff {t : Text} {address : IpAddress} :
    parse? t = some address ↔ address.IsForm t := by
  unfold parse?
  cases hv4 : IPv4.read? t with
  | some r =>
      obtain ⟨ip, rest⟩ := r
      have hv6 := IPv6.read?_of_ipv4 hv4
      cases address with
      | v4 ip' => cases rest <;> simp [IsForm, hv4]
      | v6 ip' => cases rest <;> simp [IsForm, hv6]
  | none =>
      cases hv6 : IPv6.read? t with
      | none => cases address <;> simp [IsForm, hv4, hv6]
      | some r =>
          obtain ⟨ip, rest⟩ := r
          cases address with
          | v4 ip' => cases rest <;> simp [IsForm, hv4]
          | v6 ip' => cases rest <;> simp [IsForm, hv6]

/-- The number of the address is in a block of addresses that are not public. -/
def InSpecialBlock : IpAddress → Prop
  | v4 ip => ip.InSpecialBlock
  | v6 ip => ip.InSpecialBlock

/-- Addresses of this kind count. -/
def KindCounts (ipv6 : Bool) : IpAddress → Prop
  | v4 _ => True
  | v6 _ => ipv6 = true

theorem KindCounts.mono {ipv6 ipv6' : Bool} (hipv6 : ipv6 = true → ipv6' = true)
    {address : IpAddress} (h : address.KindCounts ipv6) : address.KindCounts ipv6' := by
  cases address with
  | v4 ip => trivial
  | v6 ip => exact hipv6 h

end IpAddress

/-- **An address is accepted by its kind and by its block.** -/
theorem isValidIp_iff {t : Text} {ipv6 special : Bool} :
    isValidIp t ipv6 special = true ↔
      ∃ address : IpAddress, address.IsForm t ∧ address.KindCounts ipv6 ∧
        (address.InSpecialBlock → special = true) := by
  simp only [← IpAddress.parse?_eq_some_iff]
  unfold isValidIp
  cases IpAddress.parse? t with
  | none => simp
  | some address =>
      cases address with
      | v4 ip =>
          cases special <;>
            simp [IpAddress.KindCounts, IpAddress.InSpecialBlock, ← IPv4.isSpecial_iff]
      | v6 ip =>
          cases special <;>
            simp [IpAddress.KindCounts, IpAddress.InSpecialBlock, ← IPv6.isSpecial_iff]

/-- What the number of an IPv4 address tells. -/
structure IPv4.Classified (ip : IPv4) : Prop where
  /-- It is a number of 32 bits. -/
  number_lt : ip.number < 2 ^ 32
  /-- The addresses that are not public are those with a number in one of the blocks. -/
  special : ip.isSpecial = true ↔ ip.InSpecialBlock

/-- What the number of an IPv6 address tells. -/
structure IPv6.Classified (ip : IPv6) : Prop where
  /-- It is a number of 128 bits. -/
  number_lt : ip.number < 2 ^ 128
  /-- The addresses that are not public are those with a number in one of the blocks. -/
  special : ip.isSpecial = true ↔ ip.InSpecialBlock
  /-- Masks for the first group tell the same. -/
  masks : ip.isSpecialByMasks = ip.isSpecial

/-- Which settings accept a text as an address. -/
structure Judged (t : Text) : Prop where
  /-- It has to be a form of an address that counts, and of one in no special block unless these
  count, too. -/
  accepts : ∀ ipv6 special, isValidIp t ipv6 special = true ↔
    ∃ address : IpAddress, address.IsForm t ∧ address.KindCounts ipv6 ∧
      (address.InSpecialBlock → special = true)
  /-- A setting that lets more count takes nothing away. -/
  monotone : ∀ ipv6 special ipv6' special', (ipv6 = true → ipv6' = true) →
    (special = true → special' = true) → isValidIp t ipv6 special = true →
      isValidIp t ipv6' special' = true
  /-- No form of an IPv6 address is accepted if these do not count. -/
  ipv6 : ∀ ip : IPv6, (IpAddress.v6 ip).IsForm t → ∀ special, isValidIp t false special = false
  /-- Only forms of addresses in no special block are accepted if these do not count. -/
  outside : ∀ ipv6, isValidIp t ipv6 false = true →
    ∃ address : IpAddress, address.IsForm t ∧ ¬address.InSpecialBlock

theorem judged (t : Text) : Judged t where
  accepts := fun _ _ => isValidIp_iff
  monotone := by
    intro ipv6 special ipv6' special' hipv6 hspecial h
    obtain ⟨address, hform, hkind, hblock⟩ := isValidIp_iff.mp h
    exact isValidIp_iff.mpr ⟨address, hform, hkind.mono hipv6, fun hin => hspecial (hblock hin)⟩
  ipv6 := by
    intro ip hip special
    rw [Bool.eq_false_iff]
    intro h
    obtain ⟨address, hform, hkind, -⟩ := isValidIp_iff.mp h
    -- a text is a form of one address at most
    have hparse := IpAddress.parse?_eq_some_iff.mpr hip
    rw [IpAddress.parse?_eq_some_iff.mpr hform, Option.some.injEq] at hparse
    rw [hparse] at hkind
    cases hkind
  outside := by
    intro ipv6 h
    obtain ⟨address, hform, -, hblock⟩ := isValidIp_iff.mp h
    exact ⟨address, hform, fun hin => Bool.false_ne_true (hblock hin)⟩

/-- **The addresses that are not public are those of a few blocks**, and texts are accepted
accordingly. -/
theorem isValidIp_byBlocks :
    (∀ ip : IPv4, ip.Classified) ∧ (∀ ip : IPv6, ip.Classified) ∧ ∀ t, Judged t := by
  refine ⟨?_, ?_, judged⟩
  · intro ip
    exact ⟨ip.number_lt, ip.isSpecial_iff⟩
  · intro ip
    exact ⟨ip.number_lt, ip.isSpecial_iff, ip.isSpecialByMasks_eq⟩

end UriRouting.ValueRule
