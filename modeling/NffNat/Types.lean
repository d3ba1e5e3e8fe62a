import NffNat.Go.Net

/-!
# The address types of nff-go

`nat/config.go` keeps addresses in the types of nff-go's `types` package.  An IPv4 address is a
`uint32`, an IPv6 address and a MAC address are byte arrays, and the protocol numbers are
constants.  The packing of four bytes into a `uint32` is the one fact about these types that
the subnet checks depend on, so it gets the lemmas here:

* `BytesToIPv4 a b c d` puts `a` in the lowest byte and `d` in the highest: bit `i` of the
  result is bit `i % 8` of byte `i / 8` (`getLsbD_BytesToIPv4`), and everything else is read
  off that;
* it is injective and commutes with `&&&` byte by byte (`BytesToIPv4_inj`, `BytesToIPv4_and`);
* `IPv4Address.String` prints the lowest byte first, so it prints `BytesToIPv4 a b c d` as
  `a.b.c.d` (`String_BytesToIPv4`): the library's constructor and printer agree.

The translation tables also need the two key types `Tuple` and `Tuple6`, which are declared in
another file of the repository: they are an address and a port, as their uses in `config.go`
show.
-/

set_option autoImplicit false

namespace NffNat

/-- `types.IPv4Address`: an IPv4 address in a `uint32`. -/
abbrev IPv4Address := UInt32

/-- `types.IPv6Address`: `[16]uint8`. -/
abbrev IPv6Address := GoBytes 16

/-- `types.MACAddress`: `[6]uint8`. -/
abbrev MACAddress := GoBytes 6

/-- `types.ICMPNumber`. -/
def ICMPNumber : UInt8 := 1
/-- `types.TCPNumber`. -/
def TCPNumber : UInt8 := 6
/-- `types.UDPNumber`. -/
def UDPNumber : UInt8 := 17
/-- `types.ICMPv6Number`. -/
def ICMPv6Number : UInt8 := 58

/-! ## Packing four bytes -/

/-- `types.BytesToIPv4(a, b, c, d)`: `d<<24 | c<<16 | b<<8 | a`. -/
def BytesToIPv4 (a b c d : UInt8) : IPv4Address :=
  d.toUInt32 <<< 24 ||| c.toUInt32 <<< 16 ||| b.toUInt32 <<< 8 ||| a.toUInt32

/-- `IPv4Address.String()`: the four bytes in decimal, lowest first. -/
def IPv4Address.String (addr : IPv4Address) : String :=
  toString addr.toUInt8.toNat ++ "." ++ toString (addr >>> 8).toUInt8.toNat ++ "." ++
    toString (addr >>> 16).toUInt8.toNat ++ "." ++ toString (addr >>> 24).toUInt8.toNat

theorem toBitVec_toUInt32 (a : UInt8) : a.toUInt32.toBitVec = a.toBitVec.setWidth 32 := by
  apply BitVec.eq_of_toNat_eq
  have := a.toBitVec.isLt
  show a.toBitVec.toNat = _
  simp only [BitVec.toNat_setWidth]
  omega

/-- Bit `i` of `BytesToIPv4 a b c d` is bit `i mod 8` of byte `i / 8`, `a` being byte 0. -/
theorem getLsbD_BytesToIPv4 (a b c d : UInt8) (i : Nat) :
    (BytesToIPv4 a b c d).toBitVec.getLsbD i =
      if i < 8 then a.toBitVec.getLsbD i else if i < 16 then b.toBitVec.getLsbD (i - 8)
      else if i < 24 then c.toBitVec.getLsbD (i - 16) else d.toBitVec.getLsbD (i - 24) := by
  have e : (BytesToIPv4 a b c d).toBitVec = d.toBitVec.setWidth 32 <<< 24 |||
      c.toBitVec.setWidth 32 <<< 16 ||| b.toBitVec.setWidth 32 <<< 8 |||
      a.toBitVec.setWidth 32 := by
    simp only [BytesToIPv4, ← toBitVec_toUInt32]; rfl
  rw [e]
  simp only [BitVec.getLsbD_or, BitVec.getLsbD_shiftLeft, BitVec.getLsbD_setWidth]
  rcases (by omega : i < 8 ∨ (8 ≤ i ∧ i < 16) ∨ (16 ≤ i ∧ i < 24) ∨ (24 ≤ i ∧ i < 32) ∨ 32 ≤ i)
    with h | h | h | h | h <;>
  simp (disch := omega) only [BitVec.getLsbD_ge, decide_eq_true, decide_eq_false, if_pos, if_neg,
    Bool.true_and, Bool.false_and, Bool.and_false, Bool.and_true, Bool.not_true, Bool.not_false,
    Bool.or_false, Bool.false_or]

/-- The same, a byte at a time: bit `t` of byte `p`. -/
theorem getLsbD_BytesToIPv4_byte (a b c d : UInt8) (p : Nat) {t : Nat} (ht : t < 8) :
    (BytesToIPv4 a b c d).toBitVec.getLsbD (8 * p + t) = ([a, b, c, d].getD p 0).toBitVec.getLsbD t := by
  rw [getLsbD_BytesToIPv4]
  rcases p with _ | _ | _ | _ | p <;>
  simp (disch := omega) [if_pos, if_neg, Nat.add_sub_cancel_left, Nat.mul_add,
    -List.getD_eq_getElem?_getD, BitVec.getLsbD_ge]

theorem BytesToIPv4_and (a b c d a' b' c' d' : UInt8) :
    BytesToIPv4 a b c d &&& BytesToIPv4 a' b' c' d' =
      BytesToIPv4 (a &&& a') (b &&& b') (c &&& c') (d &&& d') := by
  apply UInt32.eq_of_toBitVec_eq
  ext ⟨i, hi⟩
  show ((BytesToIPv4 a b c d).toBitVec &&& (BytesToIPv4 a' b' c' d').toBitVec).getLsbD i = _
  rw [BitVec.getLsbD_and, getLsbD_BytesToIPv4, getLsbD_BytesToIPv4, getLsbD_BytesToIPv4]
  split_ifs <;> exact BitVec.getLsbD_and.symm

theorem toUInt8_shiftRight_BytesToIPv4 (a b c d : UInt8) :
    (BytesToIPv4 a b c d).toUInt8 = a ∧ (BytesToIPv4 a b c d >>> 8).toUInt8 = b ∧
      (BytesToIPv4 a b c d >>> 16).toUInt8 = c ∧ (BytesToIPv4 a b c d >>> 24).toUInt8 = d := by
  have low : ∀ x : UInt32, x.toUInt8.toBitVec = x.toBitVec.setWidth 8 := fun x ↦ by
    apply BitVec.eq_of_toNat_eq; simp only [BitVec.toNat_setWidth]; rfl
  have s8 : (BytesToIPv4 a b c d >>> 8).toBitVec = (BytesToIPv4 a b c d).toBitVec >>> 8 := rfl
  have s16 : (BytesToIPv4 a b c d >>> 16).toBitVec = (BytesToIPv4 a b c d).toBitVec >>> 16 := rfl
  have s24 : (BytesToIPv4 a b c d >>> 24).toBitVec = (BytesToIPv4 a b c d).toBitVec >>> 24 := rfl
  refine ⟨?_, ?_, ?_, ?_⟩ <;> apply UInt8.eq_of_toBitVec_eq <;> rw [low] <;> ext ⟨j, hj⟩ <;>
  simp (disch := omega) [s8, s16, s24, getLsbD_BytesToIPv4, hj, decide_eq_true, decide_eq_false]

/-- `BytesToIPv4` loses nothing: each byte is read back by a shift and a truncation. -/
theorem BytesToIPv4_inj {a b c d a' b' c' d' : UInt8} :
    BytesToIPv4 a b c d = BytesToIPv4 a' b' c' d' ↔ a = a' ∧ b = b' ∧ c = c' ∧ d = d' := by
  refine ⟨fun h ↦ ?_, by rintro ⟨rfl, rfl, rfl, rfl⟩; rfl⟩
  obtain ⟨ha, hb, hc, hd⟩ := toUInt8_shiftRight_BytesToIPv4 a b c d
  obtain ⟨ha', hb', hc', hd'⟩ := toUInt8_shiftRight_BytesToIPv4 a' b' c' d'
  rw [h] at ha hb hc hd
  exact ⟨ha.symm.trans ha', hb.symm.trans hb', hc.symm.trans hc', hd.symm.trans hd'⟩

/-- The printer and the constructor of the library agree: `BytesToIPv4 a b c d` prints as
`a.b.c.d`. -/
theorem String_BytesToIPv4 (a b c d : UInt8) :
    IPv4Address.String (BytesToIPv4 a b c d) =
      toString a.toNat ++ "." ++ toString b.toNat ++ "." ++ toString c.toNat ++ "." ++
        toString d.toNat := by
  obtain ⟨ha, hb, hc, hd⟩ := toUInt8_shiftRight_BytesToIPv4 a b c d
  rw [IPv4Address.String, ha, hb, hc, hd]

/-! ## Translation-table keys -/

/-- `Tuple`: an IPv4 address and a port, the key and value type of the IPv4 entries of a
translation table. -/
structure Tuple where
  addr : IPv4Address
  port : UInt16
deriving DecidableEq, Repr

/-- `Tuple6`: the same for IPv6. -/
structure Tuple6 where
  addr : IPv6Address
  port : UInt16
deriving DecidableEq, Repr

/-- Pairs of bytes as groups of four lowercase hexadecimal digits, Go's `%02x%02x`. -/
def hexGroups : List UInt8 → List String
  | x :: y :: rest =>
    String.mk ([x.toNat / 16, x.toNat % 16, y.toNat / 16, y.toNat % 16].map Nat.digitChar) ::
      hexGroups rest
  | _ => []

/-- `IPv6Address.String()`: the 16 bytes as eight groups of four hexadecimal digits, between
brackets. -/
def IPv6Address.String (addr : IPv6Address) : String :=
  "[" ++ ":".intercalate (hexGroups addr.toList) ++ "]"

end NffNat
