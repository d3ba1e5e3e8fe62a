import NffNat.Config.Defs

/-!
# Decoding the configuration

The JSON configuration names addresses, subnets and protocols as strings, and four
`UnmarshalJSON` methods turn them into the records of `NffNat.Config.Defs`.  Each method is
called on a field that already holds a value (the zero value, for a fresh decode), and writes
only some of its fields; the models take that value as `out` and return the updated one.

The IPv4 ones go through `convertIPv4`, which packs the four bytes of an address *reversed*
into a `uint32` (its comment says the result "needs swap before assigning to IPv4 header
fields").  The reversal is harmless for the subnet check, because the subnet address, its mask
and every destination are packed the same way:

* `checkAddrWithingSubnet_iff_prefixEq`: for every accepted subnet string `a/n` (or plain `a`)
  and every IPv4 destination, the masked comparison of `ipv4Subnet.checkAddrWithingSubnet` is
  exactly membership of the destination in the network `a/n`.
* `ipv6Subnet_checkAddrWithingSubnet_iff_prefixEq`: the same for `ipv6Subnet` and every IPv6
  CIDR or single address.

Two things go wrong, each shown at an input: an IPv4 CIDR given as an IPv6 subnet gets its
mask in the wrong bytes (`ipv6Subnet_UnmarshalJSON_ipv4_mask_misplaced`); a destination port is
read as a 32-bit number and wrapped to 16 bits (`hostPort_UnmarshalJSON_port_wraps`, after
`hostPort.setPort_eq_ok`, which says so for every port).
-/

set_option autoImplicit false

namespace NffNat

/-! ## Protocols -/

/-- `protocolIdLookup`: the protocol names a forwarding rule may give. -/
def protocolIdLookup : List (String × protocolId) :=
  [("TCP", ⟨TCPNumber, false⟩), ("UDP", ⟨UDPNumber, false⟩),
   ("TCP6", ⟨TCPNumber, true⟩), ("UDP6", ⟨UDPNumber, true⟩)]

/-- `protocolId.UnmarshalJSON`: one of the names of `protocolIdLookup`. -/
def protocolId.UnmarshalJSON (b : JsonValue) : Except GoFailure protocolId :=
  match unmarshalString b with
  | .error e => .error (.error e)
  | .ok s =>
    match protocolIdLookup.lookup s with
    | none => .error (.error ("Bad protocol name: " ++ s))
    | some result => .ok result

/-! ## IPv4 addresses -/

/-- `convertIPv4`: four bytes packed last to first, so that the first byte is the most
significant.  A slice of one to three bytes would make Go panic on `in[3]`. -/
def convertIPv4 (input : List UInt8) : Except GoFailure IPv4Address :=
  match input with
  | [a0, a1, a2, a3] => .ok (BytesToIPv4 a3 a2 a1 a0)
  | l =>
    if l.isEmpty ∨ 4 < l.length then
      .error (.error ("Only IPv4 addresses are supported now while your address has " ++
        toString l.length ++ " bytes"))
    else .error (.panic ⟨3, l.length⟩)

theorem convertIPv4_eq_ok {l : List UInt8} {x : IPv4Address} (h : convertIPv4 l = .ok x) :
    ∃ a0 a1 a2 a3, l = [a0, a1, a2, a3] ∧ x = BytesToIPv4 a3 a2 a1 a0 := by
  unfold convertIPv4 at h
  split at h
  · cases h; exact ⟨_, _, _, _, rfl, rfl⟩
  · split at h <;> cases h

/-! ## Subnets -/

/-- `ipv4Subnet.UnmarshalJSON`: `"dhcp"`, an IPv4 CIDR `a/n`, or a plain address `a` taken as
`a/32`.  The address is kept as written, not masked. -/
def ipv4Subnet.UnmarshalJSON (out : ipv4Subnet) (b : JsonValue) : Except GoFailure ipv4Subnet :=
  match unmarshalString b with
  | .error e => .error (.error e)
  | .ok s =>
    if s = "dhcp" then .ok { out with Addr := 0, Mask := 0, addressAcquired := false }
    else
      match ParseCIDR s.toList with
      | .ok (ip, ipnet) =>
        match convertIPv4 ip.To4 with
        | .error err => .error err
        | .ok addr =>
          match convertIPv4 ipnet.Mask with
          | .error err => .error err
          | .ok mask => .ok { out with Addr := addr, Mask := mask, addressAcquired := true }
      | .error _ =>
        if ParseIP s.toList = [] then .error (.error ("Failed to parse address " ++ s))
        else
          match convertIPv4 (ParseIP s.toList).To4 with
          | .error err => .error err
          | .ok addr => .ok { out with Addr := addr, Mask := 0xffffffff, addressAcquired := true }

/-- `ipv6Subnet.UnmarshalJSON`: `"dhcp"`, a CIDR or a plain address, copied into the 16-byte
address and mask.  `To16` never fails on what `ParseCIDR` and `ParseIP` return, so an IPv4
CIDR gets through too, with its 4-byte mask copied into the first 4 bytes of `Mask`. -/
def ipv6Subnet.UnmarshalJSON (out : ipv6Subnet) (b : JsonValue) : Except GoFailure ipv6Subnet :=
  match unmarshalString b with
  | .error e => .error (.error e)
  | .ok s =>
    if s = "dhcp" then
      .ok { out with Addr := GoBytes.zero 16, Mask := GoBytes.zero 16, addressAcquired := false }
    else
      match ParseCIDR s.toList with
      | .ok (ip, ipnet) =>
        if ip.To16 = [] then .error (.error ("Bad IPv6 address: " ++ s))
        else .ok { out with Addr := out.Addr.copy ip.To16, Mask := out.Mask.copy ipnet.Mask,
                            addressAcquired := true }
      | .error _ =>
        if ParseIP s.toList = [] then .error (.error ("Failed to parse address " ++ s))
        else if (ParseIP s.toList).To16 = [] then .error (.error ("Bad IPv6 address: " ++ s))
        else .ok { out with Addr := out.Addr.copy (ParseIP s.toList).To16,
                            Mask := ⟨List.replicate 16 0xff, rfl⟩, addressAcquired := true }

/-! ## Destinations -/

/-- The address half of `hostPort.UnmarshalJSON`: an IPv4 host sets `Addr4`; for any other,
`Addr4` gets the zero `convertIPv4` returned with its error, and `Addr6` and `ipv6` are set. -/
def hostPort.setAddr (out : hostPort) (ip : IP) : Except GoFailure hostPort :=
  match convertIPv4 ip.To4 with
  | .ok addr => .ok { out with Addr4 := addr }
  | .error (.panic p) => .error (.panic p)
  | .error (.error err) =>
    if ip.To16 = [] then .error (.error err)
    else .ok { out with Addr4 := 0, Addr6 := out.Addr6.copy ip.To16, ipv6 := true }

/-- The port half of `hostPort.UnmarshalJSON`: no port is port 0; otherwise
`strconv.ParseInt(port, 10, 32)`, converted to `uint16`, which keeps it modulo `2^16`. -/
def hostPort.setPort (out : hostPort) (portStr : List Char) : Except GoFailure hostPort :=
  if portStr.isEmpty then .ok { out with Port := 0 }
  else
    match ParseInt portStr 32 with
    | .error e => .error (.error e.Error)
    | .ok port => .ok { out with Port := (port % 65536).toNat.toUInt16 }

/-- `hostPort.UnmarshalJSON`: `host:port`, the port optional. -/
def hostPort.UnmarshalJSON (out : hostPort) (b : JsonValue) : Except GoFailure hostPort :=
  match unmarshalString b with
  | .error e => .error (.error e)
  | .ok s =>
    match SplitHostPort s.toList with
    | .error e => .error (.error e)
    | .ok (hostStr, portStr) =>
      if ParseIP hostStr = [] then
        .error (.error ("Bad IP address specified: " ++ String.mk hostStr))
      else
        match out.setAddr (ParseIP hostStr) with
        | .error e => .error e
        | .ok out => out.setPort portStr

/-- The port half touches nothing but the port, which is 0 for an empty port part and what
`ParseInt` read, modulo `2^16`, for any other. -/
theorem hostPort.setPort_eq_ok {out hp : hostPort} {portStr : List Char}
    (h : out.setPort portStr = .ok hp) :
    hp.Addr4 = out.Addr4 ∧ hp.Addr6 = out.Addr6 ∧ hp.ipv6 = out.ipv6 ∧
      ((portStr = [] ∧ hp.Port = 0) ∨
        ∃ v, ParseInt portStr 32 = .ok v ∧ hp.Port = (v % 65536).toNat.toUInt16) := by
  unfold hostPort.setPort at h
  split at h
  · cases h; exact ⟨rfl, rfl, rfl, .inl ⟨List.isEmpty_iff.1 ‹_›, rfl⟩⟩
  · split at h
    · cases h
    · cases h; exact ⟨rfl, rfl, rfl, .inr ⟨_, ‹_›, rfl⟩⟩

/-- A port past 65535 is accepted and wrapped by the conversion to `uint16`: `65616` becomes
port 80. -/
theorem hostPort_UnmarshalJSON_port_wraps :
    hostPort.UnmarshalJSON hostPort.zero (.string "10.0.0.1:65616") =
      .ok { hostPort.zero with Addr4 := BytesToIPv4 1 0 0 10, Port := 80 } := by
  decide

/-- After the address half, `ipv6` is false only for an IPv4 host, whose four bytes
`convertIPv4` packed into `Addr4`. -/
theorem hostPort.setAddr_eq_ok {out hp : hostPort} {ip : IP} (h : out.setAddr ip = .ok hp)
    (hv4 : hp.ipv6 = false) : convertIPv4 ip.To4 = .ok hp.Addr4 := by
  unfold hostPort.setAddr at h
  split at h
  · cases h; assumption
  · cases h
  · split at h
    · cases h
    · cases h; cases hv4

/-- How Go reads the host of a destination `h:p` that is an IPv4 address: as its four
bytes. -/
def ipv4Host (d : String) (h : List UInt8) : Prop :=
  ∃ host port, SplitHostPort d.toList = .ok (host, port) ∧ (ParseIP host).To4 = h

/-- What a decoded destination went through: the split into host and port, the address half on
the parsed host, and the port half on the port part. -/
theorem hostPort.UnmarshalJSON_eq_ok {out hp : hostPort} {d : String}
    (hd : hostPort.UnmarshalJSON out (.string d) = .ok hp) :
    ∃ host port out', SplitHostPort d.toList = .ok (host, port) ∧
      out.setAddr (ParseIP host) = .ok out' ∧ out'.setPort port = .ok hp := by
  simp only [hostPort.UnmarshalJSON, unmarshalString] at hd
  split at hd
  · cases hd
  rename_i host port hsplit
  split at hd
  · cases hd
  split at hd
  · cases hd
  exact ⟨host, port, _, hsplit, ‹_›, hd⟩

/-- A decoded destination with `ipv6` false carries the packed bytes of its IPv4 host. -/
theorem hostPort.UnmarshalJSON_ipv4 {out hp : hostPort} {d : String}
    (hd : hostPort.UnmarshalJSON out (.string d) = .ok hp) (hv4 : hp.ipv6 = false) :
    ∃ h, ipv4Host d h ∧ convertIPv4 h = .ok hp.Addr4 := by
  obtain ⟨host, port, _, hsplit, haddr, hport⟩ := hostPort.UnmarshalJSON_eq_ok hd
  obtain ⟨h4, -, h6, -⟩ := hostPort.setPort_eq_ok hport
  exact ⟨_, ⟨host, port, hsplit, rfl⟩, h4 ▸ hostPort.setAddr_eq_ok haddr (h6 ▸ hv4)⟩

/-! ## IPv4 subnet membership -/

/-- How Go reads an IPv4 subnet string other than `"dhcp"`: as the network `a/n` of a CIDR
whose mask `ParseCIDR` made 4 bytes long, or as the single address `a/32`. -/
def ipv4CIDR (s : String) (a : List UInt8) (n : Nat) : Prop :=
  (∃ ip, ParseCIDR s.toList = .ok (ip, ⟨CIDRMask n 32⟩) ∧ ip.To4 = a) ∨
    ((∃ e, ParseCIDR s.toList = .error e) ∧ (ParseIP s.toList).To4 = a ∧ n = 32)

theorem CIDRMask_32 {n : Nat} (hn : n ≤ 32) : CIDRMask n 32 = cidrMaskBytes 4 n := by
  simp [CIDRMask, show ¬32 < n by omega]

theorem CIDRMask_128 {n : Nat} (hn : n ≤ 128) : CIDRMask n 128 = cidrMaskBytes 16 n := by
  simp [CIDRMask, show ¬128 < n by omega]

/-- A decoded IPv4 subnet is the packed address and packed `CIDRMask` of the network its
string denotes. -/
theorem UnmarshalJSON_ipv4Subnet_eq_ok {out sub : ipv4Subnet} {s : String}
    (hs : ipv4Subnet.UnmarshalJSON out (.string s) = .ok sub) (hdhcp : s ≠ "dhcp") :
    ∃ a n, n ≤ 32 ∧ ipv4CIDR s a n ∧ convertIPv4 a = .ok sub.Addr ∧
      convertIPv4 (cidrMaskBytes 4 n) = .ok sub.Mask ∧ sub.addressAcquired = true := by
  simp only [ipv4Subnet.UnmarshalJSON, unmarshalString, hdhcp, if_false] at hs
  split at hs
  · rename_i ip ipnet hcidr
    obtain ⟨-, iplen, n, hlen, hn, hmask⟩ := ParseCIDR_eq_ok hcidr
    split at hs
    · cases hs
    rename_i addr haddr
    split at hs
    · cases hs
    rename_i mask hmk
    cases hs
    obtain ⟨m0, m1, m2, m3, hm4, -⟩ := convertIPv4_eq_ok hmk
    rcases hlen with rfl | rfl
    · simp only [Nat.reduceMul] at hn hmask
      rw [hmask, CIDRMask_32 hn] at hmk
      refine ⟨ip.To4, n, hn, .inl ⟨ip, ?_, rfl⟩, haddr, hmk, rfl⟩
      obtain ⟨m⟩ := ipnet
      simp only at hmask
      rw [hcidr, hmask]
    · have h16 := congrArg List.length hm4
      rw [hmask, CIDRMask_128 hn] at h16
      simp at h16
  · rename_i e hcidr
    split at hs
    · cases hs
    split at hs
    · cases hs
    rename_i addr haddr
    cases hs
    exact ⟨_, 32, le_rfl, .inr ⟨⟨e, hcidr⟩, rfl, rfl⟩, haddr, rfl, rfl⟩

/-- The masked comparison on packed addresses is the prefix comparison on their bytes, since
`convertIPv4` packs the address, the mask and the destination in the same order. -/
theorem checkAddrWithingSubnet_convertIPv4 {sub : ipv4Subnet} {h a : List UInt8} {n : Nat}
    {H : IPv4Address} (hH : convertIPv4 h = .ok H) (hA : convertIPv4 a = .ok sub.Addr)
    (hM : convertIPv4 (cidrMaskBytes 4 n) = .ok sub.Mask) :
    sub.checkAddrWithingSubnet H = true ↔ prefixEq (min n 32) h a := by
  obtain ⟨h0, h1, h2, h3, rfl, rfl⟩ := convertIPv4_eq_ok hH
  obtain ⟨a0, a1, a2, a3, rfl, hAddr⟩ := convertIPv4_eq_ok hA
  obtain ⟨m0, m1, m2, m3, hm, hMask⟩ := convertIPv4_eq_ok hM
  have key := @zipWith_and_cidrMaskBytes_iff 4 n [h0, h1, h2, h3] [a0, a1, a2, a3] rfl rfl
  rw [hm] at key
  rw [← key]
  simp only [ipv4Subnet.checkAddrWithingSubnet, hAddr, hMask, beq_iff_eq, BytesToIPv4_and,
    BytesToIPv4_inj, List.zipWith_cons_cons, List.zipWith_nil_left, List.cons.injEq, and_true]
  -- `BytesToIPv4` takes the bytes last to first, so the two sides list them in opposite orders.
  constructor <;> rintro ⟨e0, e1, e2, e3⟩ <;> exact ⟨e3, e2, e1, e0⟩

/-- **The IPv4 subnet check is CIDR membership.**  For every subnet string the decoder accepts
other than `"dhcp"`, and every destination it decodes as IPv4, `checkAddrWithingSubnet` holds
exactly when the first `n` bits of the destination host are those of the subnet address `a`,
where `a/n` is the network Go reads the string as. -/
theorem checkAddrWithingSubnet_iff_prefixEq {out sub : ipv4Subnet} {s : String}
    (hs : ipv4Subnet.UnmarshalJSON out (.string s) = .ok sub) (hdhcp : s ≠ "dhcp")
    {out' hp : hostPort} {d : String} (hd : hostPort.UnmarshalJSON out' (.string d) = .ok hp)
    (hv4 : hp.ipv6 = false) :
    ∃ a n h, n ≤ 32 ∧ ipv4CIDR s a n ∧ ipv4Host d h ∧
      (sub.checkAddrWithingSubnet hp.Addr4 = true ↔ prefixEq n h a) := by
  obtain ⟨a, n, hn, hcidr, hA, hM, -⟩ := UnmarshalJSON_ipv4Subnet_eq_ok hs hdhcp
  obtain ⟨h, hhost, hH⟩ := hostPort.UnmarshalJSON_ipv4 hd hv4
  refine ⟨a, n, h, hn, hcidr, hhost, ?_⟩
  rw [checkAddrWithingSubnet_convertIPv4 hH hA hM, Nat.min_eq_left hn]

/-- The spec's example: `192.168.1.200` is in the subnet `"192.168.1.0/24"`. -/
theorem checkAddrWithingSubnet_iff_prefixEq_192_168_1_0 :
    ∃ a n h, n ≤ 32 ∧ ipv4CIDR "192.168.1.0/24" a n ∧ ipv4Host "192.168.1.200:80" h ∧
      (ipv4Subnet.checkAddrWithingSubnet ⟨BytesToIPv4 0 1 168 192, BytesToIPv4 0 255 255 255, true⟩
          (BytesToIPv4 200 1 168 192) = true ↔ prefixEq n h a) :=
  @checkAddrWithingSubnet_iff_prefixEq ipv4Subnet.zero _ "192.168.1.0/24" (by decide)
    (by decide) hostPort.zero { hostPort.zero with Addr4 := BytesToIPv4 200 1 168 192, Port := 80 }
    "192.168.1.200:80" (by decide) rfl

/-! ## IPv6 subnet membership -/

/-- How Go reads an IPv6 subnet string that is an IPv6 CIDR `a/n`, one whose mask `ParseCIDR`
made 16 bytes long, or a single address `a/128`. -/
def ipv6CIDR (s : String) (a : List UInt8) (n : Nat) : Prop :=
  (∃ ipnet, ParseCIDR s.toList = .ok (a, ipnet) ∧ ipnet.Mask = CIDRMask n 128) ∨
    ((∃ e, ParseCIDR s.toList = .error e) ∧ ParseIP s.toList = a ∧ a ≠ [] ∧ n = 128)

/-- A subnet decoded from an IPv6 CIDR `a/n` or a single address holds the 16 bytes of `a` and
of `CIDRMask`'s mask for `n`, whatever `out` held before. -/
theorem UnmarshalJSON_ipv6Subnet_of_ipv6CIDR {out sub : ipv6Subnet} {s : String}
    {a : List UInt8} {n : Nat} (hs : ipv6Subnet.UnmarshalJSON out (.string s) = .ok sub)
    (ha : ipv6CIDR s a n) :
    n ≤ 128 ∧ sub.Addr.toList = a ∧ sub.Mask.toList = cidrMaskBytes 16 n ∧
      sub.addressAcquired = true := by
  have hdhcp : s ≠ "dhcp" := by
    rintro rfl
    have hcidr : ParseCIDR "dhcp".toList = .error "invalid CIDR address: dhcp" := by decide
    rcases ha with ⟨_, h, _⟩ | ⟨-, h, hne, -⟩
    · rw [hcidr] at h; cases h
    · exact hne (h ▸ by decide)
  simp only [ipv6Subnet.UnmarshalJSON, unmarshalString, hdhcp, if_false] at hs
  rcases ha with ⟨ipnet, hcidr, hmask⟩ | ⟨⟨e, hcidr⟩, rfl, hne, rfl⟩
  · obtain ⟨hlen, iplen, n', hiplen, hn', hmask'⟩ := ParseCIDR_eq_ok hcidr
    have hn : n ≤ 128 := by
      have hlenM : ipnet.Mask.length = iplen := by
        rcases hiplen with rfl | rfl
        · simp [hmask', CIDRMask, show ¬32 < n' by omega]
        · simp [hmask', CIDRMask, show ¬128 < n' by omega]
      by_contra hn
      simp [hmask, CIDRMask, show 128 < n by omega] at hlenM
      omega
    rw [hcidr] at hs
    simp only [IP.To16_of_length hlen] at hs
    split at hs
    · cases hs
    · cases hs
      refine ⟨hn, GoBytes.copy_toList_of_length hlen, ?_, rfl⟩
      rw [hmask, CIDRMask_128 hn]
      exact GoBytes.copy_toList_of_length (cidrMaskBytes_length 16 n)
  · rw [hcidr] at hs
    simp only [hne, if_false, IP.To16_of_length (ParseIP_length hne)] at hs
    cases hs
    exact ⟨le_rfl, GoBytes.copy_toList_of_length (ParseIP_length hne), rfl, rfl⟩

/-- **The IPv6 subnet check is CIDR membership, for IPv6 subnets.**  For every subnet string
that is an IPv6 CIDR `a/n` or a single address, `checkAddrWithingSubnet x` holds exactly when
the first `n` bits of `x` are those of `a`. -/
theorem ipv6Subnet_checkAddrWithingSubnet_iff_prefixEq {out sub : ipv6Subnet} {s : String}
    {a : List UInt8} {n : Nat} (hs : ipv6Subnet.UnmarshalJSON out (.string s) = .ok sub)
    (ha : ipv6CIDR s a n) (x : IPv6Address) :
    sub.checkAddrWithingSubnet x = true ↔ prefixEq n x.toList a := by
  obtain ⟨hn, hA, hM, -⟩ := UnmarshalJSON_ipv6Subnet_of_ipv6CIDR hs ha
  have key := @zipWith_and_cidrMaskBytes_iff 16 n x.toList a x.length_toList
    (hA ▸ sub.Addr.length_toList)
  rw [Nat.min_eq_left hn] at key
  rw [← key]
  simp [ipv6Subnet.checkAddrWithingSubnet, ipv6Subnet.andMask, hA, hM]

/-- `2001:db8::1` is in the subnet `"2001:db8::/32"`. -/
theorem ipv6Subnet_checkAddrWithingSubnet_iff_prefixEq_2001_db8 :
    ∃ sub, ipv6Subnet.UnmarshalJSON ipv6Subnet.zero (.string "2001:db8::/32") = .ok sub ∧
      (sub.checkAddrWithingSubnet ((GoBytes.zero 16).copy (ParseIP "2001:db8::1".toList)) = true ↔
        prefixEq 32 (ParseIP "2001:db8::1".toList) (ParseIP "2001:db8::".toList)) :=
  ⟨_, rfl, @ipv6Subnet_checkAddrWithingSubnet_iff_prefixEq ipv6Subnet.zero _ "2001:db8::/32"
    (ParseIP "2001:db8::".toList) 32 rfl (.inl ⟨⟨CIDRMask 32 128⟩, by decide, rfl⟩) _⟩

/-- An IPv4 CIDR given as `subnet6` is accepted, with its address in IPv4-mapped form in bytes
12 to 15 but its 4-byte mask in bytes 0 to 3.  The check then accepts any address whose first
four bytes are zero: `::ffff:11.0.0.1` is "within" `10.0.0.0/8`, although it is not in the
IPv4-mapped network `::ffff:10.0.0.0/104`. -/
theorem ipv6Subnet_UnmarshalJSON_ipv4_mask_misplaced :
    ∃ sub, ipv6Subnet.UnmarshalJSON ipv6Subnet.zero (.string "10.0.0.0/8") = .ok sub ∧
      sub.checkAddrWithingSubnet ⟨IPv4 11 0 0 1, rfl⟩ = true ∧
      ¬prefixEq (96 + 8) (IPv4 11 0 0 1) (IPv4 10 0 0 0) :=
  ⟨_, rfl, by decide, by decide⟩

end NffNat
