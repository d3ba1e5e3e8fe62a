import NffNat.Prefix

/-!
# The configuration of the NAT

This file is the data model of `nat/config.go`: the records the JSON configuration decodes into,
the run-time state InitFlows adds to them (translation tables and port maps), and the small
methods the rest of the file calls on them.

Two things are modelled differently from how Go writes them, without changing what the code
computes.

* An `ipPort` in Go points to its `opposite`.  Here the pair owns both interfaces, and the
  opposite of an interface is looked up in the pair by its side (`portPair.port`,
  `interfaceType.opposite`); `ReadConfig` sets the pointers to exactly that.
* A `sync.Map` is modelled by what the configuration code does with one: `Store`, and `Load` to
  read it back.  `SyncMap.Load_Store` is its whole specification.

Fields that none of the modelled functions reads or writes are left out: the DHCP state of a
subnet, the link-local and multicast addresses of an IPv6 subnet, the source MAC address, the
ARP table, the debug dump files and the pair's mutex.
-/

set_option autoImplicit false

namespace NffNat

/-! ## Addresses, ports and protocols -/

/-- `hostPort`: a destination `host:port`, with the family flag `ipv6` telling which of the
two addresses is meant. -/
structure hostPort where
  Addr4 : IPv4Address
  Addr6 : IPv6Address
  Port : UInt16
  ipv6 : Bool
deriving DecidableEq, Repr

/-- `protocolId`: a protocol number and its address family. -/
structure protocolId where
  id : UInt8
  ipv6 : Bool
deriving DecidableEq, Repr

/-- `forwardedPort`: a static forwarding rule, `Port` of this interface to `Destination`. -/
structure forwardedPort where
  Port : UInt16
  Destination : hostPort
  Protocol : protocolId
deriving DecidableEq, Repr

/-- The zero value of `hostPort`, which JSON decoding starts from. -/
def hostPort.zero : hostPort := ⟨0, GoBytes.zero 16, 0, false⟩

/-- `ipv4Subnet`: an address and a mask, and whether they are known yet (they are not until
DHCP has run, for a subnet given as `"dhcp"`). -/
structure ipv4Subnet where
  Addr : IPv4Address
  Mask : IPv4Address
  addressAcquired : Bool
deriving DecidableEq, Repr

/-- `ipv6Subnet`: the same for IPv6. -/
structure ipv6Subnet where
  Addr : IPv6Address
  Mask : IPv6Address
  addressAcquired : Bool
deriving DecidableEq, Repr

/-- `zeroIPv6Addr`, the address `::`. -/
def zeroIPv6Addr : IPv6Address := GoBytes.zero 16

/-- The zero value of `ipv4Subnet`. -/
def ipv4Subnet.zero : ipv4Subnet := ⟨0, 0, false⟩

/-- The zero value of `ipv6Subnet`. -/
def ipv6Subnet.zero : ipv6Subnet := ⟨GoBytes.zero 16, GoBytes.zero 16, false⟩

/-- `ipv4Subnet.checkAddrWithingSubnet`: `addr` and the subnet address agree under the mask. -/
def ipv4Subnet.checkAddrWithingSubnet (subnet : ipv4Subnet) (addr : IPv4Address) : Bool :=
  addr &&& subnet.Mask == subnet.Addr &&& subnet.Mask

/-- `ipv6Subnet.andMask`: `addr` masked byte by byte. -/
def ipv6Subnet.andMask (subnet : ipv6Subnet) (addr : IPv6Address) : IPv6Address :=
  ⟨List.zipWith (· &&& ·) addr.toList subnet.Mask.toList, by
    simp [addr.length_toList, subnet.Mask.length_toList]⟩

/-- `ipv6Subnet.checkAddrWithingSubnet`: `addr` and the subnet address agree under the mask. -/
def ipv6Subnet.checkAddrWithingSubnet (subnet : ipv6Subnet) (addr : IPv6Address) : Bool :=
  subnet.andMask addr == subnet.andMask subnet.Addr

/-! ## Printing a subnet -/

/-- The loop of `ipv4Subnet.String`: `mask` walks down from bit 31 while `Mask` has that bit
set, and `i` counts the bits passed.  `fuel` is what the loop condition `i <= 32` allows. -/
def ipv4MaskLoop (Mask : IPv4Address) : Nat → IPv4Address → Nat → Nat
  | 0, _, i => i
  | fuel + 1, mask, i =>
    if Mask &&& mask = 0 then i else ipv4MaskLoop Mask fuel (mask >>> 1) (i + 1)

/-- `ipv4Subnet.String`: CIDR notation, the prefix length counted off the mask. -/
def ipv4Subnet.String (subnet : ipv4Subnet) : String :=
  if subnet.addressAcquired then
    IPv4Address.String subnet.Addr ++ "/" ++
      toString (ipv4MaskLoop subnet.Mask 33 ((1 : IPv4Address) <<< 31) 0)
  else "DHCP address not acquired"

/-- The loop of `ipv6Subnet.String`: bit `7 - i % 8` of byte `Mask[i >> 3]` is tested, unless
`i` has reached 128.  The index is checked as Go checks it, so a read past the end is a
panic. -/
def ipv6MaskLoop (Mask : IPv6Address) : Nat → Nat → Except GoPanic Nat
  | 0, i => .ok i
  | fuel + 1, i =>
    if i = 128 then .ok i
    else
      match sliceGet Mask.toList (i >>> 3) with
      | .error p => .error p
      | .ok b =>
        if b &&& (1 : UInt8) <<< (7 - (i &&& 7)).toUInt8 = 0 then .ok i
        else ipv6MaskLoop Mask fuel (i + 1)

/-- `ipv6Subnet.String`: CIDR notation, the prefix length counted off the mask. -/
def ipv6Subnet.String (subnet : ipv6Subnet) : Except GoPanic String :=
  if subnet.addressAcquired then
    (ipv6MaskLoop subnet.Mask 129 0).map fun i ↦
      IPv6Address.String subnet.Addr ++ "/" ++ toString i
  else .ok "DHCP address not acquired"

/-! ## Run-time state: translation tables and port maps -/

/-- A key or value of a translation table: a `Tuple` or a `Tuple6`.  A `sync.Map` compares its
keys by dynamic type as well as by value, so the two never collide. -/
inductive Endpoint
  | tuple (t : Tuple)
  | tuple6 (t : Tuple6)
deriving DecidableEq, Repr

/-- A `sync.Map` from endpoints to endpoints.  The newest entry for a key comes first. -/
structure SyncMap where
  entries : List (Endpoint × Endpoint)
deriving DecidableEq, Repr

/-- `new(sync.Map)`. -/
def SyncMap.empty : SyncMap := ⟨[]⟩

/-- `m.Store(k, v)`. -/
def SyncMap.Store (m : SyncMap) (k v : Endpoint) : SyncMap := ⟨(k, v) :: m.entries⟩

/-- `m.Load(k)`, `none` where Go's `ok` is false. -/
def SyncMap.Load (m : SyncMap) (k : Endpoint) : Option Endpoint := m.entries.lookup k

@[simp] theorem SyncMap.Load_empty (k : Endpoint) : SyncMap.empty.Load k = none := rfl

/-- A `Store` changes the value of its own key and of no other. -/
@[simp] theorem SyncMap.Load_Store (m : SyncMap) (k v k' : Endpoint) :
    (m.Store k v).Load k' = if k' = k then some v else m.Load k' := by
  simp only [SyncMap.Load, SyncMap.Store, List.lookup_cons]
  by_cases h : k' = k
  · simp [h]
  · simp [h, beq_eq_false_iff_ne.2 h]

/-- `time.Time`, as the nanoseconds a clock reading stands for. -/
abbrev Time := Nat

/-- `terminationDirection`: which directions of a connection have been seen closing. -/
abbrev terminationDirection := UInt8

/-- `portMapEntry`: the state of one port of the public interface. -/
structure portMapEntry where
  lastused : Time
  finCount : UInt8
  terminationDirection : terminationDirection
  static : Bool
deriving DecidableEq, Repr

/-! ## Interfaces, pairs and the whole configuration -/

/-- `interfaceType`: `iPUBLIC` is the zero value, `iPRIVATE` the other one. -/
inductive interfaceType
  | iPUBLIC
  | iPRIVATE
deriving DecidableEq, Repr

/-- The other side of a pair. -/
def interfaceType.opposite : interfaceType → interfaceType
  | .iPUBLIC => .iPRIVATE
  | .iPRIVATE => .iPUBLIC

@[simp] theorem interfaceType.opposite_opposite (t : interfaceType) : t.opposite.opposite = t := by
  cases t <;> rfl

/-- `ipPort`: one network interface.  The first seven fields come from the JSON configuration;
`staticArpMode` and `«Type»` are set by `ReadConfig`, the rest by `InitFlows`. -/
structure ipPort where
  Index : UInt16
  Subnet : ipv4Subnet
  Subnet6 : ipv6Subnet
  Vlan : UInt16
  KNIName : String
  ForwardPorts : List forwardedPort
  DstMACAddress : MACAddress
  staticArpMode : Bool
  «Type» : interfaceType
  /-- Allocated ports of the public interface, per IPv4 protocol. -/
  portmap : List (List portMapEntry)
  /-- The same for IPv6 protocols. -/
  portmap6 : List (List portMapEntry)
  /-- The table for packets coming in at this interface, per protocol number. -/
  translationTable : List SyncMap
deriving DecidableEq, Repr

/-- The zero value of `ipPort`, which JSON decoding starts from. -/
def ipPort.zero : ipPort :=
  ⟨0, ipv4Subnet.zero, ipv6Subnet.zero, 0, "", [], GoBytes.zero 6, false, .iPUBLIC, [], [], []⟩

/-- `portPair`: a private and a public interface, and the port allocated last. -/
structure portPair where
  PrivatePort : ipPort
  PublicPort : ipPort
  lastport : Int
deriving DecidableEq, Repr

/-- `Config`: the whole configuration. -/
structure Config where
  HostName : String
  PortPairs : List portPair
  setKniIP : Bool
  bringUpKniInterfaces : Bool
deriving DecidableEq, Repr

/-- The interface of a pair on a given side. -/
def portPair.port (pp : portPair) : interfaceType → ipPort
  | .iPUBLIC => pp.PublicPort
  | .iPRIVATE => pp.PrivatePort

/-- The pair with the interface on side `t` replaced. -/
def portPair.setPort (pp : portPair) : interfaceType → ipPort → portPair
  | .iPUBLIC, p => { pp with PublicPort := p }
  | .iPRIVATE, p => { pp with PrivatePort := p }

@[simp] theorem portPair.port_setPort (pp : portPair) (t u : interfaceType) (p : ipPort) :
    (pp.setPort t p).port u = if u = t then p else pp.port u := by
  cases t <;> cases u <;> rfl

@[simp] theorem portPair.lastport_setPort (pp : portPair) (t : interfaceType) (p : ipPort) :
    (pp.setPort t p).lastport = pp.lastport := by
  cases t <;> rfl

@[simp] theorem interfaceType.opposite_ne (t : interfaceType) : t.opposite ≠ t := by
  cases t <;> decide

@[simp] theorem interfaceType.ne_opposite (t : interfaceType) : t ≠ t.opposite := by
  cases t <;> decide

end NffNat
