import NffNat.Config.Unmarshal

/-!
# Printing a subnet

`ipv4Subnet.String` and `ipv6Subnet.String` print a subnet in CIDR notation, for the log and for
the error messages of `checkPortForwarding`.  Neither keeps the prefix length it was decoded
with: each counts it off the mask again, with a loop that walks down from the most significant
bit while the bits are set.

## What is here

* `leadingOnes bit w` — the specification: the number of leading ones of a `w`-bit word whose
  bits, most significant first, are `bit 0, bit 1, …`.  `IsLeadingOnes` says the same thing as a
  property, which is what a loop establishes (`IsLeadingOnes.eq_leadingOnes`).
* `ipv4MaskLoop_eq_leadingOnes` — the IPv4 loop returns the number of leading ones of every
  32-bit mask.  It always leaves by its `break`, at `i = 32` at the latest, so the bound
  `i <= 32` of its `for` is never what stops it.
* `ipv6MaskLoop_eq_leadingOnes` — the IPv6 loop returns the number of leading ones of every
  16-byte mask, and never panics: it tests `i == 128` before it could read `Mask[16]`.
* For a decoded subnet the printed length is the `n` of the CIDR it was decoded from
  (`ipv4Subnet_String_of_UnmarshalJSON`, `ipv6Subnet_String_of_UnmarshalJSON`, which also says
  that the IPv6 subnet holds the decoded address).  The IPv4
  address, however, comes out with its four octets reversed: `convertIPv4` stored them reversed
  and `IPv4Address.String` prints the lowest byte first (`ipv4Subnet_String_octets_reversed`).
-/

set_option autoImplicit false

namespace NffNat

/-! ## Leading ones -/

/-- The number of leading ones of a word of `w` bits, whose bits, most significant first, are
`bit 0, bit 1, …`. -/
def leadingOnes (bit : Nat → Bool) : Nat → Nat
  | 0 => 0
  | w + 1 => if bit 0 then leadingOnes (fun j ↦ bit (j + 1)) w + 1 else 0

/-- `k` is the number of leading ones of the `w` bits `bit 0, bit 1, …`: the bits before `k`
are ones, and bit `k` is a zero unless `k = w`. -/
structure IsLeadingOnes (bit : Nat → Bool) (w k : Nat) : Prop where
  le : k ≤ w
  ones : ∀ j < k, bit j = true
  stop : k < w → bit k = false

/-- The property determines the count. -/
theorem IsLeadingOnes.eq_leadingOnes {bit : Nat → Bool} {w k : Nat}
    (h : IsLeadingOnes bit w k) : k = leadingOnes bit w := by
  induction w generalizing bit k with
  | zero => exact Nat.le_zero.1 h.le
  | succ w ih =>
    cases k with
    | zero => simp [leadingOnes, h.stop (Nat.succ_pos w)]
    | succ k =>
      have tail : IsLeadingOnes (fun j ↦ bit (j + 1)) w k :=
        ⟨Nat.le_of_succ_le_succ h.le, fun j hj ↦ h.ones (j + 1) (by omega),
          fun hk ↦ h.stop (by omega)⟩
      rw [leadingOnes, if_pos (h.ones 0 (Nat.succ_pos k)), ← ih tail]

/-- A word whose first `n` bits are ones and the rest zeros has `min n w` leading ones. -/
theorem leadingOnes_of_prefix {bit : Nat → Bool} {w n : Nat}
    (h : ∀ j < w, bit j = decide (j < n)) : leadingOnes bit w = min n w :=
  (IsLeadingOnes.eq_leadingOnes ⟨Nat.min_le_right n w,
    fun j hj ↦ by rw [h j (by omega), decide_eq_true_iff]; omega,
    fun hk ↦ by rw [h _ hk, decide_eq_false_iff_not]; omega⟩).symm

/-! ## The IPv4 loop -/

/-- At step `i` the IPv4 loop's `mask` holds bit `31 - i` alone (nothing, once `i = 32`), so
`Mask & mask` is zero exactly when bit `i` of `Mask`, from the top, is not set. -/
theorem and_eq_zero_iff_getMsbD {Mask mask : IPv4Address} {i : Nat}
    (hmask : ∀ j, mask.toBitVec.getLsbD j = decide (i + j = 31)) :
    Mask &&& mask = 0 ↔ (i < 32 → Mask.toBitVec.getMsbD i = false) := by
  have bits : Mask &&& mask = 0 ↔
      ∀ j, (Mask.toBitVec.getLsbD j && mask.toBitVec.getLsbD j) = false := by
    constructor
    · rintro h j
      rw [← BitVec.getLsbD_and]
      exact (congrArg (fun x : IPv4Address ↦ x.toBitVec.getLsbD j) h).trans BitVec.getLsbD_zero
    · intro h
      exact UInt32.eq_of_toBitVec_eq (BitVec.eq_of_getLsbD_eq fun j ↦
        ((BitVec.getLsbD_and ..).trans (h j)).trans BitVec.getLsbD_zero.symm)
  simp only [hmask] at bits
  rw [bits, BitVec.getMsbD_eq_getLsbD]
  constructor
  · intro h hi
    simpa [hi, show i + (31 - i) = 31 by omega] using h (31 - i)
  · intro h j
    by_cases hj : i + j = 31
    · simpa [hj, show 31 - i = j by omega, show i < 32 by omega] using h (by omega)
    · simp [hj]

/-- The IPv4 loop from step `i`, where the bits of `Mask` above bit `i` are ones, stops at the
number of leading ones of `Mask`, provided the loop bound has not yet been passed. -/
theorem ipv4MaskLoop_isLeadingOnes (Mask : IPv4Address) (fuel i : Nat) (mask : IPv4Address)
    (hfuel : 32 < i + fuel) (hi : i ≤ 32)
    (hmask : ∀ j, mask.toBitVec.getLsbD j = decide (i + j = 31))
    (hones : ∀ j < i, Mask.toBitVec.getMsbD j = true) :
    IsLeadingOnes Mask.toBitVec.getMsbD 32 (ipv4MaskLoop Mask fuel mask i) := by
  induction fuel generalizing i mask with
  | zero => omega
  | succ fuel ih =>
    rw [ipv4MaskLoop]
    split
    · exact ⟨hi, hones, (and_eq_zero_iff_getMsbD hmask).1 ‹_›⟩
    · rename_i hne
      rw [and_eq_zero_iff_getMsbD hmask, Classical.not_imp, Bool.not_eq_false] at hne
      refine ih (i + 1) (mask >>> 1) (by omega) hne.1 (fun j ↦ ?_) (fun j hj ↦ ?_)
      · rw [show (mask >>> 1).toBitVec = mask.toBitVec >>> 1 from rfl,
          BitVec.getLsbD_ushiftRight, hmask, decide_eq_decide]
        omega
      · rcases Nat.lt_succ_iff_lt_or_eq.1 hj with hj | rfl
        exacts [hones j hj, hne.2]

/-- **The IPv4 prefix length is the number of leading ones of the mask**, for every mask. -/
theorem ipv4MaskLoop_eq_leadingOnes (Mask : IPv4Address) :
    ipv4MaskLoop Mask 33 ((1 : IPv4Address) <<< 31) 0 = leadingOnes Mask.toBitVec.getMsbD 32 := by
  have init : ((1 : IPv4Address) <<< 31).toBitVec = BitVec.twoPow 32 31 := by decide
  refine (ipv4MaskLoop_isLeadingOnes Mask 33 0 _ (by omega) (by omega) (fun j ↦ ?_)
    (fun j hj ↦ absurd hj (Nat.not_lt_zero j))).eq_leadingOnes
  rw [init, BitVec.getLsbD_twoPow, Nat.zero_add]
  simp [eq_comm]

/-! ## The IPv6 loop -/

/-- The bit test of the IPv6 loop, `b & (1 << (7 - i&7)) == 0`, is bit `7 - i % 8` of `b`. -/
theorem and_shiftLeft_eq_zero_iff (b : UInt8) (i : Nat) :
    b &&& (1 : UInt8) <<< (7 - (i &&& 7)).toUInt8 = 0 ↔ b.toNat.testBit (7 - i % 8) = false := by
  rw [show i &&& 7 = i % 8 from Nat.and_pow_two_sub_one_eq_mod i 3]
  have hs : 7 - i % 8 < 8 := by omega
  generalize 7 - i % 8 = s at hs ⊢
  have pow : (1 : UInt8) <<< s.toUInt8 = ⟨BitVec.twoPow 8 s⟩ := by revert s; decide
  have ne : BitVec.twoPow 8 s ≠ 0#8 := by revert s; decide
  rw [pow, show b &&& ⟨BitVec.twoPow 8 s⟩ = ⟨b.toBitVec &&& BitVec.twoPow 8 s⟩ from rfl,
    BitVec.and_twoPow]
  split
  · rename_i hb
    simp only [show b.toNat.testBit s = b.toBitVec.getLsbD s from rfl, hb, Bool.true_eq_false,
      iff_false]
    exact fun h ↦ ne (congrArg UInt8.toBitVec h)
  · simp_all [show b.toNat.testBit s = b.toBitVec.getLsbD s from rfl]

/-- The IPv6 loop from step `i`, where the bits of `Mask` before `i` are ones, neither panics
nor runs out: it returns the number of leading ones of `Mask`. -/
theorem ipv6MaskLoop_isLeadingOnes (Mask : IPv6Address) (fuel i : Nat) (hfuel : 128 < i + fuel)
    (hi : i ≤ 128) (hones : ∀ j < i, bitAt Mask.toList j = true) :
    ∃ k, ipv6MaskLoop Mask fuel i = .ok k ∧ IsLeadingOnes (bitAt Mask.toList) 128 k := by
  induction fuel generalizing i with
  | zero => omega
  | succ fuel ih =>
    rw [ipv6MaskLoop]
    split
    · exact ⟨i, rfl, hi, hones, fun h ↦ absurd ‹i = 128› (by omega)⟩
    · have hidx : i >>> 3 < Mask.toList.length := by
        rw [Nat.shiftRight_eq_div_pow, Mask.length_toList]; omega
      have hbit : bitAt Mask.toList i = Mask.toList[i >>> 3].toNat.testBit (7 - i % 8) := by
        simp only [bitAt, Nat.shiftRight_eq_div_pow, List.getD_eq_getElem?_getD,
          List.getElem?_eq_getElem (by simpa [Nat.shiftRight_eq_div_pow] using hidx)]
        rfl
      rw [sliceGet_of_lt hidx]
      dsimp only
      split
      · rename_i hz
        exact ⟨i, rfl, hi, hones, fun _ ↦ hbit ▸ (and_shiftLeft_eq_zero_iff _ i).1 hz⟩
      · rename_i hnz
        rw [and_shiftLeft_eq_zero_iff, Bool.not_eq_false, ← hbit] at hnz
        refine ih (i + 1) (by omega) (by omega) fun j hj ↦ ?_
        rcases Nat.lt_succ_iff_lt_or_eq.1 hj with hj | rfl
        exacts [hones j hj, hnz]

/-- **The IPv6 prefix length is the number of leading ones of the mask**, for every mask, and
the loop never reads past `Mask[15]`. -/
theorem ipv6MaskLoop_eq_leadingOnes (Mask : IPv6Address) :
    ipv6MaskLoop Mask 129 0 = .ok (leadingOnes (bitAt Mask.toList) 128) := by
  obtain ⟨k, hk, hlo⟩ := ipv6MaskLoop_isLeadingOnes Mask 129 0 (by omega) (by omega)
    (fun j hj ↦ absurd hj (Nat.not_lt_zero j))
  rw [hk, hlo.eq_leadingOnes]

/-! ## Decoded subnets, printed -/

/-- `convertIPv4` keeps the order of the bits, most significant first: bit `j` of the packed
word from the top is bit `j` of the bytes as written. -/
theorem getMsbD_convertIPv4 {l : List UInt8} {x : IPv4Address} (h : convertIPv4 l = .ok x)
    {j : Nat} (hj : j < 32) : x.toBitVec.getMsbD j = bitAt l j := by
  obtain ⟨a0, a1, a2, a3, rfl, rfl⟩ := convertIPv4_eq_ok h
  obtain ⟨q, r, hr, rfl⟩ : ∃ q r, r < 8 ∧ j = 8 * q + r :=
    ⟨j / 8, j % 8, Nat.mod_lt _ (by omega), (Nat.div_add_mod j 8).symm⟩
  rw [BitVec.getMsbD_eq_getLsbD, decide_eq_true hj, Bool.true_and,
    show 32 - 1 - (8 * q + r) = 8 * (3 - q) + (7 - r) by omega,
    getLsbD_BytesToIPv4_byte _ _ _ _ _ (by omega), bitAt,
    show (8 * q + r) / 8 = q by omega, show (8 * q + r) % 8 = r by omega]
  rcases (by omega : q = 0 ∨ q = 1 ∨ q = 2 ∨ q = 3) with rfl | rfl | rfl | rfl <;> rfl

/-- The IPv4 mask of a decoded subnet, `/n`, is printed as `/n`. -/
theorem ipv4MaskLoop_convertIPv4_cidrMaskBytes {n : Nat} (hn : n ≤ 32) {Mask : IPv4Address}
    (hM : convertIPv4 (cidrMaskBytes 4 n) = .ok Mask) :
    ipv4MaskLoop Mask 33 ((1 : IPv4Address) <<< 31) 0 = n := by
  rw [ipv4MaskLoop_eq_leadingOnes, leadingOnes_of_prefix (n := n) fun j hj ↦ ?_,
    Nat.min_eq_left hn]
  rw [getMsbD_convertIPv4 hM hj, bitAt_cidrMaskBytes 4 n (by omega)]

/-- **Parsing then printing an IPv4 subnet.**  For every subnet string other than `"dhcp"` that
the decoder accepts, read by Go as the network `a/n`, `String` prints the prefix length `n`
but the four octets of `a` last to first. -/
theorem ipv4Subnet_String_of_UnmarshalJSON {out sub : ipv4Subnet} {s : String}
    (hs : ipv4Subnet.UnmarshalJSON out (.string s) = .ok sub) (hdhcp : s ≠ "dhcp") :
    ∃ a0 a1 a2 a3 n, ipv4CIDR s [a0, a1, a2, a3] n ∧
      sub.String = toString a3.toNat ++ "." ++ toString a2.toNat ++ "." ++ toString a1.toNat ++
        "." ++ toString a0.toNat ++ "/" ++ toString n := by
  obtain ⟨a, n, hn, hcidr, hA, hM, hacq⟩ := UnmarshalJSON_ipv4Subnet_eq_ok hs hdhcp
  obtain ⟨a0, a1, a2, a3, rfl, hAddr⟩ := convertIPv4_eq_ok hA
  refine ⟨a0, a1, a2, a3, n, hcidr, ?_⟩
  rw [ipv4Subnet.String, if_pos hacq, ipv4MaskLoop_convertIPv4_cidrMaskBytes hn hM, hAddr,
    String_BytesToIPv4]

/-- `"10.1.2.0/24"` is the network `10.1.2.0/24`, printed `0.2.1.10/24`. -/
theorem ipv4Subnet_String_of_UnmarshalJSON_10_1_2_0 :
    ∃ a0 a1 a2 a3 n, ipv4CIDR "10.1.2.0/24" [a0, a1, a2, a3] n ∧
      ipv4Subnet.String ⟨BytesToIPv4 0 2 1 10, BytesToIPv4 0 255 255 255, true⟩ =
        toString a3.toNat ++ "." ++ toString a2.toNat ++ "." ++ toString a1.toNat ++
          "." ++ toString a0.toNat ++ "/" ++ toString n :=
  @ipv4Subnet_String_of_UnmarshalJSON ipv4Subnet.zero _ "10.1.2.0/24" (by decide) (by decide)

/-- The subnet `"10.1.2.0/24"` is printed as `0.2.1.10/24`. -/
theorem ipv4Subnet_String_octets_reversed :
    ∃ sub, ipv4Subnet.UnmarshalJSON ipv4Subnet.zero (.string "10.1.2.0/24") = .ok sub ∧
      sub.String = "0.2.1.10/24" :=
  ⟨_, rfl, by decide⟩

/-- **Parsing then printing an IPv6 subnet.**  For every IPv6 CIDR `a/n` or single address the
decoder accepts, the subnet holds the 16 bytes of `a`, and `String` prints them followed by
`/n`. -/
theorem ipv6Subnet_String_of_UnmarshalJSON {out sub : ipv6Subnet} {s : String}
    {a : List UInt8} {n : Nat} (hs : ipv6Subnet.UnmarshalJSON out (.string s) = .ok sub)
    (ha : ipv6CIDR s a n) :
    sub.Addr.toList = a ∧ sub.String = .ok (IPv6Address.String sub.Addr ++ "/" ++ toString n) := by
  obtain ⟨hn, hA, hM, hacq⟩ := UnmarshalJSON_ipv6Subnet_of_ipv6CIDR hs ha
  have hlen : leadingOnes (bitAt sub.Mask.toList) 128 = n := by
    rw [hM, leadingOnes_of_prefix fun j hj ↦ bitAt_cidrMaskBytes 16 n (by omega),
      Nat.min_eq_left hn]
  refine ⟨hA, ?_⟩
  simp only [ipv6Subnet.String, hacq, if_true, ipv6MaskLoop_eq_leadingOnes, hlen, Except.map]

/-- `"2001:db8::/32"` holds the address `2001:db8::` and is printed with `/32`. -/
theorem ipv6Subnet_String_of_UnmarshalJSON_2001_db8 :
    ∃ sub, ipv6Subnet.UnmarshalJSON ipv6Subnet.zero (.string "2001:db8::/32") = .ok sub ∧
      sub.Addr.toList = ParseIP "2001:db8::".toList ∧
      sub.String = .ok (IPv6Address.String sub.Addr ++ "/" ++ toString 32) :=
  ⟨_, rfl, @ipv6Subnet_String_of_UnmarshalJSON ipv6Subnet.zero _ "2001:db8::/32"
    (ParseIP "2001:db8::".toList) 32 rfl (.inl ⟨⟨CIDRMask 32 128⟩, by decide, rfl⟩)⟩

end NffNat
