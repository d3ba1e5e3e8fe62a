import Mathlib.Data.List.Forall2
import Mathlib.Data.List.Nodup
import NffNat.Config.Read
import NffNat.Config.Unmarshal

/-!
# The static forwarding tables

`InitFlows` prepares every pair for traffic.  Besides the flow graph and the addresses it asks
the nff-go library for, it builds the pair's run-time state: an empty translation table per
protocol number on both interfaces, the port-slot arrays of the public interface, and, for
every forwarding rule, the rule's entries in the translation tables and, on the public
interface, its port slot marked static.  This file models that state and what the static rules
leave in it.

`portEnd` and `portStart`, the bounds of the port range, are declared in another file of the
repository; they are parameters here.  So is the clock: every static slot is stamped by a call of
`time.Now()` of its own, and `now i j` is what that call returns for rule `j` of the public
interface of pair `i`.  The MAC and link-local addresses that `initLocalMACs` and
`initIPv6LLAddresses` ask the library for are not modelled: nothing here reads them.

## What is here

* `portPair.tableLoad` reads a table; `pairStores pp` is the list of stores the rules of `pp`
  make, in order, and `applyStores` what a list of stores leaves at a key: the value of the last
  store to it.  `staticSlots` is what the slot arrays hold once the public rules are in.
* `enableStaticPortForward_eq` — the one spec lemma of a rule: its stores, then on a public
  interface the slot write.  Every later proof goes through it, a step lemma per state component
  (`enableStaticPortForward_tables`, `enableStaticPortForward_slots`) and a run lemma by induction
  over the rules of an interface.
* `InitFlows_state` — after `ReadConfig` and `InitFlows`, every table of every pair holds the value
  of the last rule that stored to a key and nothing at a key no rule stored to, and the slot
  arrays are exactly `staticSlots` of the public rules: each rule's slot static, with the clock
  reading of the last rule to it.
* `InitFlows_ok_iff` — `InitFlows` panics exactly when a public rule has a protocol without slot
  arrays or a port not below `portEnd`; `InitFlows_panics_without_protocol` is such a rule, one
  whose `protocol` was left out, which `ReadConfig` accepts.
* `InitFlows_static_entries` — the tables hold the last store to every key; so when no two stores
  of a pair go to the same key of the same table, every rule's entry is in its interface's table,
  and its reverse entry, when its destination address is not zero, in the other interface's table.
* `InitFlows_overwrites_reverse_entry` — without that condition an entry is lost: two public rules
  to the same destination leave only the later one's reverse entry.
-/

set_option autoImplicit false

namespace NffNat

/-! ## Allocation -/

/-- The zero `portMapEntry`, of which `make` makes a slot array. -/
def portMapEntry.zero : portMapEntry := ⟨0, 0, 0, false⟩

/-- `ipPort.allocateLookupMap`: one empty table per protocol number. -/
def ipPort.allocateLookupMap (port : ipPort) : ipPort :=
  { port with translationTable := List.replicate 256 SyncMap.empty }

/-- `ipPort.allocatePublicPortPortMap`: a nil slot array per protocol number, except `portEnd`
slots for ICMP, TCP and UDP among the IPv4 protocols and for TCP, UDP and ICMPv6 among the IPv6
ones. -/
def ipPort.allocatePublicPortPortMap (portEnd : Nat) (port : ipPort) : ipPort :=
  let slots := List.replicate portEnd portMapEntry.zero
  { port with
    portmap := (((List.replicate 256 []).set ICMPNumber.toNat slots).set TCPNumber.toNat
      slots).set UDPNumber.toNat slots,
    portmap6 := (((List.replicate 256 []).set TCPNumber.toNat slots).set UDPNumber.toNat
      slots).set ICMPv6Number.toNat slots }

/-- `ipPort.getPortmap`: the slot array of a protocol of one family.  Indexing a slice of slot
arrays that was never allocated panics. -/
def ipPort.getPortmap (port : ipPort) (ipv6 : Bool) (protocol : UInt8) :
    Except GoPanic (List portMapEntry) :=
  if ipv6 then sliceGet port.portmap6 protocol.toNat else sliceGet port.portmap protocol.toNat

/-- `port.getPortmap(ipv6, protocol)[i] = e`.  The slot array is shared with `port`, so the
write lands in its `portmap` or `portmap6`. -/
def ipPort.setPortmapSlot (port : ipPort) (ipv6 : Bool) (protocol : UInt8) (i : Nat)
    (e : portMapEntry) : Except GoPanic ipPort :=
  port.getPortmap ipv6 protocol >>= fun slots ↦ sliceSet slots i e >>= fun slots ↦
    .ok (if ipv6 then { port with portmap6 := port.portmap6.set protocol.toNat slots }
      else { port with portmap := port.portmap.set protocol.toNat slots })

/-- `port.translationTable[id].Store(k, v)`.  A table is a pointer to a `sync.Map`, so the
store is seen through every copy of the slice. -/
def ipPort.storeEntry (port : ipPort) (id : UInt8) (k v : Endpoint) : Except GoPanic ipPort :=
  sliceGet port.translationTable id.toNat >>= fun m ↦
    .ok { port with translationTable := port.translationTable.set id.toNat (m.Store k v) }

/-! ## The static rules -/

/-- The two entries `enableStaticPortForward` makes for a rule `fp` of `port`, in the rule's
family: the key, `port`'s own address and the forwarded port, and the value, the destination
address and port. -/
def staticEntries (port : ipPort) (fp : forwardedPort) : Endpoint × Endpoint :=
  if fp.Protocol.ipv6 then
    (.tuple6 ⟨port.Subnet6.Addr, fp.Port⟩, .tuple6 ⟨fp.Destination.Addr6, fp.Destination.Port⟩)
  else (.tuple ⟨port.Subnet.Addr, fp.Port⟩, .tuple ⟨fp.Destination.Addr4, fp.Destination.Port⟩)

/-- The destination is an address, not `0.0.0.0` or `::` (read in the rule's family): only then
is the reverse entry stored. -/
def forwardedPort.destinationSet (fp : forwardedPort) : Bool :=
  if fp.Protocol.ipv6 then fp.Destination.Addr6 != zeroIPv6Addr else fp.Destination.Addr4 != 0

/-- `ipPort.enableStaticPortForward` for a rule `fp` of the interface on side `t` of `pp`: the
rule's entry in this interface's table, its reverse in the other interface's table unless the
destination is the unspecified address, and on a public interface the rule's port slot marked
static, stamped with `now`, what this call's `time.Now()` returned.  The Go code writes this
twice, for IPv6 and for IPv4; the two copies differ only in `staticEntries` and
`destinationSet`. -/
def enableStaticPortForward (now : Time) (pp : portPair) (t : interfaceType)
    (fp : forwardedPort) : Except GoPanic portPair :=
  let keyEntry := (staticEntries (pp.port t) fp).1
  let valEntry := (staticEntries (pp.port t) fp).2
  (pp.port t).storeEntry fp.Protocol.id keyEntry valEntry >>= fun port ↦
  let pp := pp.setPort t port
  (if fp.destinationSet then
      (pp.port t.opposite).storeEntry fp.Protocol.id valEntry keyEntry >>= fun opp ↦
        .ok (pp.setPort t.opposite opp)
    else .ok pp) >>= fun pp ↦
  if (pp.port t).Type = .iPUBLIC then
    (pp.port t).setPortmapSlot fp.Protocol.ipv6 fp.Protocol.id fp.Port.toNat ⟨now, 0, 0, true⟩ >>=
      fun port ↦ .ok (pp.setPort t port)
  else .ok pp

/-- `ipPort.initPortPortForwardingEntries` on side `t`: every rule of that interface, in order,
rule `j` with the clock reading `now j`. -/
def initPortPortForwardingEntries (now : Nat → Time) (pp : portPair) (t : interfaceType) :
    Except GoPanic portPair :=
  (pp.port t).ForwardPorts.enum.foldlM (fun pp r ↦ enableStaticPortForward (now r.1) pp t r.2) pp

/-- The first steps `InitFlows` takes on a pair: the tables of both interfaces, the slot arrays
of the public one, and the port cursor. -/
def portPair.allocate (portEnd : Nat) (portStart : Int) (pp : portPair) : portPair :=
  let pp := { pp with PrivatePort := pp.PrivatePort.allocateLookupMap,
                      PublicPort := pp.PublicPort.allocateLookupMap }
  let pp := { pp with PublicPort := pp.PublicPort.allocatePublicPortPortMap portEnd }
  { pp with lastport := portStart }

/-- What `InitFlows` does to the state of one pair: allocation, then the rules of the private and
of the public interface.  Only the public interface's rules read the clock. -/
def initPair (portEnd : Nat) (portStart : Int) (now : Nat → Time) (pp : portPair) :
    Except GoPanic portPair :=
  initPortPortForwardingEntries now (pp.allocate portEnd portStart) .iPRIVATE >>= fun pp ↦
    initPortPortForwardingEntries now pp .iPUBLIC

/-- `InitFlows`, as far as it concerns the pairs' state: every pair in order, pair `i` with the
clock readings `now i`.  A panic stops the program. -/
def InitFlows (portEnd : Nat) (portStart : Int) (now : Nat → Nat → Time) (Natconfig : Config) :
    Except GoPanic Config :=
  Natconfig.PortPairs.enum.mapM (fun p ↦ initPair portEnd portStart (now p.1) p.2) >>= fun pps ↦
    .ok { Natconfig with PortPairs := pps }

/-! ## What the tables hold -/

/-- What the table of protocol `id` on side `s` of the pair holds at key `k`, for the place
`(s, id, k)`. -/
def portPair.tableLoad (pp : portPair) (place : interfaceType × UInt8 × Endpoint) :
    Option Endpoint :=
  ((pp.port place.1).translationTable.getD place.2.1.toNat SyncMap.empty).Load place.2.2

/-- One store into a translation table of a pair. -/
structure TableStore where
  side : interfaceType
  id : UInt8
  key : Endpoint
  val : Endpoint
deriving DecidableEq, Repr

/-- Where a store writes: its side, protocol number and key. -/
def TableStore.place (w : TableStore) : interfaceType × UInt8 × Endpoint := (w.side, w.id, w.key)

/-- What a list of stores leaves at `place`, where `acc` was before: the value of the last store
to it. -/
def applyStores (place : interfaceType × UInt8 × Endpoint) (acc : Option Endpoint)
    (ws : List TableStore) : Option Endpoint :=
  ws.foldl (fun acc w ↦ if w.place = place then some w.val else acc) acc

/-- An address of one family and a port: a key or a value of that family's tables. -/
def familyEndpoint (ipv6 : Bool) (addr4 : IPv4Address) (addr6 : IPv6Address) (port : UInt16) :
    Endpoint :=
  if ipv6 then .tuple6 ⟨addr6, port⟩ else .tuple ⟨addr4, port⟩

/-- The stores a rule `fp` of `port` on side `t` is to make: in the table of its protocol on this
side, from `port`'s address of the rule's family and the forwarded port to the destination's
address and port; and, when the destination's address is not zero, the reverse in the table of
the other side. -/
def ruleStores (port : ipPort) (t : interfaceType) (fp : forwardedPort) : List TableStore :=
  let key := familyEndpoint fp.Protocol.ipv6 port.Subnet.Addr port.Subnet6.Addr fp.Port
  let val := familyEndpoint fp.Protocol.ipv6 fp.Destination.Addr4 fp.Destination.Addr6
    fp.Destination.Port
  ⟨t, fp.Protocol.id, key, val⟩ ::
    if fp.Protocol.ipv6 = true ∧ fp.Destination.Addr6 ≠ zeroIPv6Addr ∨
        fp.Protocol.ipv6 = false ∧ fp.Destination.Addr4 ≠ 0 then
      [⟨t.opposite, fp.Protocol.id, val, key⟩]
    else []

/-- These are the stores of `enableStaticPortForward`: `staticEntries` forward, and back exactly
when `destinationSet`. -/
theorem ruleStores_eq (port : ipPort) (t : interfaceType) (fp : forwardedPort) :
    ruleStores port t fp =
      ⟨t, fp.Protocol.id, (staticEntries port fp).1, (staticEntries port fp).2⟩ ::
        if fp.destinationSet then
          [⟨t.opposite, fp.Protocol.id, (staticEntries port fp).2, (staticEntries port fp).1⟩]
        else [] := by
  unfold ruleStores staticEntries forwardedPort.destinationSet familyEndpoint
  cases fp.Protocol.ipv6 <;> simp

/-- All the stores the rules of a pair make, those of the private interface first. -/
def pairStores (pp : portPair) : List TableStore :=
  pp.PrivatePort.ForwardPorts.flatMap (ruleStores pp.PrivatePort .iPRIVATE) ++
    pp.PublicPort.ForwardPorts.flatMap (ruleStores pp.PublicPort .iPUBLIC)

theorem applyStores_append (place : interfaceType × UInt8 × Endpoint) (acc : Option Endpoint)
    (ws ws' : List TableStore) :
    applyStores place acc (ws ++ ws') = applyStores place (applyStores place acc ws) ws' :=
  List.foldl_append _ _ _ _

/-- Stores to other places leave a place alone. -/
theorem applyStores_of_not_mem {place : interfaceType × UInt8 × Endpoint} {ws : List TableStore}
    (h : place ∉ ws.map TableStore.place) (acc : Option Endpoint) :
    applyStores place acc ws = acc := by
  induction ws generalizing acc with
  | nil => rfl
  | cons w ws ih =>
    simp only [List.map_cons, List.mem_cons, not_or] at h
    simp only [applyStores, List.foldl_cons, if_neg (Ne.symm h.1)]
    exact ih h.2 acc

/-- When no two stores go to the same place, every store's value is what is left at its
place. -/
theorem applyStores_of_mem {ws : List TableStore} (hws : (ws.map TableStore.place).Nodup)
    {w : TableStore} (hw : w ∈ ws) (acc : Option Endpoint) :
    applyStores w.place acc ws = some w.val := by
  induction ws generalizing acc with
  | nil => cases hw
  | cons w' ws ih =>
    rw [List.map_cons, List.nodup_cons] at hws
    simp only [applyStores, List.foldl_cons]
    rcases List.mem_cons.1 hw with rfl | hw
    · rw [if_pos rfl]
      exact applyStores_of_not_mem hws.1 _
    · exact ih hws.2 hw _

/-! ## One store, one rule -/

/-- An interface without the state `InitFlows` builds: what `ReadConfig` left. -/
def ipPort.withoutState (port : ipPort) : ipPort :=
  { port with portmap := [], portmap6 := [], translationTable := [] }

/-- The stores of a rule read only what `ReadConfig` left. -/
theorem ruleStores_withoutState (port : ipPort) (t : interfaceType) (fp : forwardedPort) :
    ruleStores port.withoutState t fp = ruleStores port t fp := rfl

/-- Both interfaces of the pair have their 256 tables. -/
def portPair.tablesAllocated (pp : portPair) : Prop :=
  ∀ s, (pp.port s).translationTable.length = 256

/-- The pair after one store into one of its tables. -/
def portPair.store (pp : portPair) (w : TableStore) : portPair :=
  pp.setPort w.side { pp.port w.side with translationTable :=
    ((pp.port w.side).translationTable.set w.id.toNat
      (((pp.port w.side).translationTable.getD w.id.toNat SyncMap.empty).Store w.key w.val)) }

theorem getD_set_of_lt {α : Type} {l : List α} {i : Nat} (hi : i < l.length) (x d : α) (j : Nat) :
    (l.set i x).getD j d = if i = j then x else l.getD j d := by
  simp only [List.getD_eq_getElem?_getD, List.getElem?_set, hi, if_true]
  split <;> rfl

/-- With its tables allocated, a store of `enableStaticPortForward` is `portPair.store`. -/
theorem storeEntry_eq_ok {pp : portPair} (hpp : pp.tablesAllocated) (s : interfaceType)
    (id : UInt8) (k v : Endpoint) :
    (pp.port s).storeEntry id k v = .ok ((pp.store ⟨s, id, k, v⟩).port s) := by
  have hid : id.toNat < (pp.port s).translationTable.length := hpp s ▸ id.toNat_lt_size
  simp only [ipPort.storeEntry, sliceGet_of_lt hid, portPair.store, portPair.port_setPort,
    if_true, List.getD_eq_getElem?_getD, List.getElem?_eq_getElem hid, Option.getD_some]
  rfl

theorem setPort_store (pp : portPair) (s : interfaceType) (id : UInt8) (k v : Endpoint) :
    pp.setPort s ((pp.store ⟨s, id, k, v⟩).port s) = pp.store ⟨s, id, k, v⟩ := by
  cases s <;> rfl

/-- Stores change the tables of the pair and nothing else. -/
theorem port_foldl_store (ws : List TableStore) (pp : portPair) (u : interfaceType) :
    ∃ tt, (ws.foldl portPair.store pp).port u = { pp.port u with translationTable := tt } := by
  induction ws generalizing pp with
  | nil => exact ⟨_, rfl⟩
  | cons w ws ih =>
    obtain ⟨tt, h⟩ := ih (pp.store w)
    refine ⟨tt, h.trans ?_⟩
    by_cases hu : u = w.side <;> simp [portPair.store, hu]

theorem lastport_foldl_store (ws : List TableStore) (pp : portPair) :
    (ws.foldl portPair.store pp).lastport = pp.lastport := by
  induction ws generalizing pp with
  | nil => rfl
  | cons w ws ih => exact (ih _).trans (portPair.lastport_setPort _ _ _)

theorem tablesAllocated_store {pp : portPair} (hpp : pp.tablesAllocated) (w : TableStore) :
    (pp.store w).tablesAllocated := fun u ↦ by
  by_cases hu : u = w.side
  · subst hu; simp [portPair.store, hpp _]
  · simp [portPair.store, hu, hpp u]

/-- A store changes one place of the pair's tables, and nothing else. -/
theorem tableLoad_store {pp : portPair} (hpp : pp.tablesAllocated) (w : TableStore)
    (place : interfaceType × UInt8 × Endpoint) :
    (pp.store w).tableLoad place = if w.place = place then some w.val else pp.tableLoad place := by
  obtain ⟨s', id', k'⟩ := place
  have hid : w.id.toNat < (pp.port w.side).translationTable.length :=
    hpp w.side ▸ w.id.toNat_lt_size
  unfold portPair.tableLoad portPair.store TableStore.place
  by_cases hs : s' = w.side
  · subst hs
    simp only [portPair.port_setPort, if_true, getD_set_of_lt hid]
    by_cases hid : w.id = id'
    · subst hid
      simp [SyncMap.Load_Store, eq_comm]
    · have : w.id.toNat ≠ id'.toNat := fun e ↦ hid (UInt8.toNat.inj e)
      simp [this, hid]
  · simp [portPair.port_setPort, hs, Ne.symm hs]

/-- The tables after a list of stores hold what `applyStores` says. -/
theorem tableLoad_foldl_store {pp : portPair} (hpp : pp.tablesAllocated) (ws : List TableStore)
    (place : interfaceType × UInt8 × Endpoint) :
    (ws.foldl portPair.store pp).tableLoad place = applyStores place (pp.tableLoad place) ws := by
  induction ws generalizing pp with
  | nil => rfl
  | cons w ws ih =>
    rw [List.foldl_cons, ih (tablesAllocated_store hpp w), tableLoad_store hpp]
    rfl

theorem tablesAllocated_foldl_store {pp : portPair} (hpp : pp.tablesAllocated)
    (ws : List TableStore) : (ws.foldl portPair.store pp).tablesAllocated := by
  induction ws generalizing pp with
  | nil => exact hpp
  | cons w ws ih => exact ih (tablesAllocated_store hpp w)

/-- The spec of `enableStaticPortForward` on a pair with its tables allocated: the rule's stores,
then on a public interface the slot write. -/
theorem enableStaticPortForward_eq {pp : portPair} (hpp : pp.tablesAllocated) (now : Time)
    (t : interfaceType) (fp : forwardedPort) :
    enableStaticPortForward now pp t fp =
      let pp' := (ruleStores (pp.port t) t fp).foldl portPair.store pp
      if (pp.port t).Type = .iPUBLIC then
        (pp'.port t).setPortmapSlot fp.Protocol.ipv6 fp.Protocol.id fp.Port.toNat
          ⟨now, 0, 0, true⟩ >>= fun port ↦ .ok (pp'.setPort t port)
      else .ok pp' := by
  obtain ⟨tt, htt⟩ := port_foldl_store (ruleStores (pp.port t) t fp) pp t
  have htype : (((ruleStores (pp.port t) t fp).foldl portPair.store pp).port t).Type =
      (pp.port t).Type := by rw [htt]
  unfold enableStaticPortForward
  dsimp only
  rw [storeEntry_eq_ok hpp, ok_bind]
  cases hd : fp.destinationSet
  · simp only [ruleStores_eq, hd, List.foldl_cons, List.foldl_nil, Bool.false_eq_true,
      ↓reduceIte] at htype ⊢
    rw [setPort_store, ok_bind, htype]
  · simp only [ruleStores_eq, hd, List.foldl_cons, List.foldl_nil, ↓reduceIte] at htype ⊢
    rw [setPort_store, storeEntry_eq_ok (tablesAllocated_store hpp _), ok_bind, setPort_store,
      ok_bind, htype]

/-- The slot write changes the slot arrays of the interface and nothing else. -/
theorem setPortmapSlot_frame {port port' : ipPort} {ipv6 : Bool} {protocol : UInt8} {i : Nat}
    {e : portMapEntry} (h : port.setPortmapSlot ipv6 protocol i e = .ok port') :
    ∃ pm pm6, port' = { port with portmap := pm, portmap6 := pm6 } := by
  obtain ⟨_, -, h⟩ := bind_eq_ok_iff.1 h
  obtain ⟨_, -, h⟩ := bind_eq_ok_iff.1 h
  cases h
  split <;> exact ⟨_, _, rfl⟩

theorem port_setPort_portmaps (pp : portPair) (t u : interfaceType)
    (pm pm6 : List (List portMapEntry)) :
    ∃ pm' pm6', (pp.setPort t { pp.port t with portmap := pm, portmap6 := pm6 }).port u =
      { pp.port u with portmap := pm', portmap6 := pm6' } := by
  by_cases hu : u = t
  · subst hu; exact ⟨pm, pm6, by simp⟩
  · exact ⟨(pp.port u).portmap, (pp.port u).portmap6, by simp [hu]⟩

theorem tableLoad_congr {pp pp' : portPair}
    (h : ∀ u, (pp.port u).translationTable = (pp'.port u).translationTable) :
    pp.tableLoad = pp'.tableLoad :=
  funext fun place ↦ by unfold portPair.tableLoad; rw [h]

/-- One rule, as far as the tables are concerned: its stores, whatever the interface. -/
theorem enableStaticPortForward_tables {now : Time} {pp pp' : portPair} {t : interfaceType}
    {fp : forwardedPort} (hpp : pp.tablesAllocated)
    (h : enableStaticPortForward now pp t fp = .ok pp') :
    pp'.tablesAllocated ∧ (∀ u, (pp'.port u).withoutState = (pp.port u).withoutState) ∧
      pp'.lastport = pp.lastport ∧
      ∀ place, pp'.tableLoad place =
        applyStores place (pp.tableLoad place) (ruleStores (pp.port t) t fp) := by
  rw [enableStaticPortForward_eq hpp] at h
  have hA := tablesAllocated_foldl_store hpp (ruleStores (pp.port t) t fp)
  have hW : ∀ u, (((ruleStores (pp.port t) t fp).foldl portPair.store pp).port u).withoutState =
      (pp.port u).withoutState := fun u ↦ by
    obtain ⟨tt, htt⟩ := port_foldl_store (ruleStores (pp.port t) t fp) pp u
    rw [htt]; rfl
  have hL := tableLoad_foldl_store hpp (ruleStores (pp.port t) t fp)
  have hP := lastport_foldl_store (ruleStores (pp.port t) t fp) pp
  dsimp only at h
  generalize (ruleStores (pp.port t) t fp).foldl portPair.store pp = pp₁ at hA hW hL hP h
  split at h
  · obtain ⟨port, hs, h⟩ := bind_eq_ok_iff.1 h
    cases h
    obtain ⟨pm, pm6, rfl⟩ := setPortmapSlot_frame hs
    have hu := fun u ↦ port_setPort_portmaps pp₁ t u pm pm6
    refine ⟨fun u ↦ ?_, fun u ↦ ?_, by rw [portPair.lastport_setPort, hP], fun place ↦ ?_⟩
    · obtain ⟨_, _, h⟩ := hu u; rw [h]; exact hA u
    · obtain ⟨_, _, h⟩ := hu u; rw [h, ← hW u]; rfl
    · rw [← hL, @tableLoad_congr _ pp₁ fun u ↦ by obtain ⟨_, _, h⟩ := hu u; rw [h]]
  · cases h
    exact ⟨hA, hW, hP, hL⟩

/-- The rules of one interface, as far as the tables are concerned: all their stores, in
order. -/
theorem foldlM_enableStaticPortForward_tables (now : Nat → Time) (t : interfaceType) :
    ∀ (rules : List (Nat × forwardedPort)) {pp pp' : portPair}, pp.tablesAllocated →
      rules.foldlM (fun pp r ↦ enableStaticPortForward (now r.1) pp t r.2) pp = .ok pp' →
      pp'.tablesAllocated ∧ (∀ u, (pp'.port u).withoutState = (pp.port u).withoutState) ∧
        pp'.lastport = pp.lastport ∧
        ∀ place, pp'.tableLoad place = applyStores place (pp.tableLoad place)
          ((rules.map Prod.snd).flatMap (ruleStores (pp.port t) t))
  | [], pp, pp', hpp, h => by
    cases h
    exact ⟨hpp, fun _ ↦ rfl, rfl, fun _ ↦ rfl⟩
  | r :: rules, pp, pp', hpp, h => by
    rw [List.foldlM_cons] at h
    obtain ⟨pp₁, h₁, h⟩ := bind_eq_ok_iff.1 h
    obtain ⟨hA₁, hW₁, hP₁, hL₁⟩ := enableStaticPortForward_tables hpp h₁
    obtain ⟨hA, hW, hP, hL⟩ := foldlM_enableStaticPortForward_tables now t rules hA₁ h
    have hrules : ruleStores (pp₁.port t) t = ruleStores (pp.port t) t := by
      funext fp
      rw [← ruleStores_withoutState, hW₁ t, ruleStores_withoutState]
    refine ⟨hA, fun u ↦ (hW u).trans (hW₁ u), hP.trans hP₁, fun place ↦ ?_⟩
    rw [hL, hL₁, hrules, List.map_cons, List.flatMap_cons, applyStores_append]

/-! ## One rule, the slot arrays -/

/-- The protocols `allocatePublicPortPortMap` gives `portEnd` slots: ICMP, TCP and UDP over IPv4,
TCP, UDP and ICMPv6 over IPv6. -/
def protocolId.allocated (p : protocolId) : Bool :=
  if p.ipv6 then p.id == TCPNumber || p.id == UDPNumber || p.id == ICMPv6Number
  else p.id == ICMPNumber || p.id == TCPNumber || p.id == UDPNumber

/-- What slot `i` of the slot array of protocol `p` holds once the rules `rules` are in, rule `j`
stamped with the clock reading `now j`: static, with the reading of the last rule of protocol `p`
to port `i`, or zero if none went there. -/
def staticSlot (now : Nat → Time) (rules : List (Nat × forwardedPort)) (p : protocolId) (i : Nat) :
    portMapEntry :=
  rules.foldl (fun e r ↦ if r.2.Protocol = p ∧ r.2.Port.toNat = i then ⟨now r.1, 0, 0, true⟩ else e)
    portMapEntry.zero

/-- The slot array of protocol `p` once the public rules `rules` are in: `portEnd` slots, each
`staticSlot`, for a protocol that has slots; nil for any other. -/
def staticSlots (portEnd : Nat) (now : Nat → Time) (rules : List (Nat × forwardedPort))
    (p : protocolId) : List portMapEntry :=
  if p.allocated then (List.range portEnd).map (staticSlot now rules p) else []

theorem staticSlot_nil (now : Nat → Time) (p : protocolId) :
    staticSlot now [] p = fun _ ↦ portMapEntry.zero := rfl

theorem staticSlot_concat (now : Nat → Time) (rules : List (Nat × forwardedPort))
    (r : Nat × forwardedPort) (p : protocolId) (i : Nat) :
    staticSlot now (rules ++ [r]) p i =
      if r.2.Protocol = p ∧ r.2.Port.toNat = i then ⟨now r.1, 0, 0, true⟩
      else staticSlot now rules p i := by
  rw [staticSlot, List.foldl_append]
  rfl

theorem protocolId.eq_iff {q p : protocolId} : q = p ↔ q.id = p.id ∧ q.ipv6 = p.ipv6 := by
  cases q; cases p; simp

theorem getPortmap_eq_sliceGet (port : ipPort) (ipv6 : Bool) (protocol : UInt8) :
    port.getPortmap ipv6 protocol =
      sliceGet (if ipv6 then port.portmap6 else port.portmap) protocol.toNat := by
  unfold ipPort.getPortmap; split <;> rfl

theorem toNat_eq_toNat_iff {a b : UInt8} : a.toNat = b.toNat ↔ a = b :=
  ⟨UInt8.toNat.inj, congrArg _⟩

/-- Freshly allocated slot arrays are `staticSlots` of no rule. -/
theorem getPortmap_allocatePublicPortPortMap (portEnd : Nat) (now : Nat → Time) (port : ipPort)
    (p : protocolId) :
    (port.allocatePublicPortPortMap portEnd).getPortmap p.ipv6 p.id =
      .ok (staticSlots portEnd now [] p) := by
  obtain ⟨id, ipv6⟩ := p
  have hnil : sliceGet (List.replicate 256 ([] : List portMapEntry)) id.toNat = .ok [] := by
    rw [sliceGet_of_lt (by rw [List.length_replicate]; exact id.toNat_lt_size),
      List.getElem_replicate]
  have hlt : ∀ q : UInt8, q.toNat < 256 := fun q ↦ q.toNat_lt_size
  cases ipv6 <;>
  · simp only [getPortmap_eq_sliceGet, ipPort.allocatePublicPortPortMap, Bool.false_eq_true,
      ↓reduceIte]
    rw [sliceGet_set, sliceGet_set, sliceGet_set, hnil]
    simp only [staticSlots, staticSlot_nil, protocolId.allocated, List.length_set,
      List.length_replicate, hlt, and_true, toNat_eq_toNat_iff, Bool.false_eq_true, ↓reduceIte,
      List.map_const', List.length_range, Bool.or_eq_true, beq_iff_eq]
    clear hnil hlt
    split_ifs <;> first | rfl | simp_all [eq_comm]

theorem staticSlots_length (portEnd : Nat) (now : Nat → Time) (rules : List (Nat × forwardedPort))
    (p : protocolId) :
    (staticSlots portEnd now rules p).length = if p.allocated then portEnd else 0 := by
  unfold staticSlots
  split <;> simp

/-- One more rule marks its own slot static; a rule whose protocol has no slots, or whose port is
not below `portEnd`, changes nothing. -/
theorem staticSlots_concat (portEnd : Nat) (now : Nat → Time) (rules : List (Nat × forwardedPort))
    (r : Nat × forwardedPort) (p : protocolId) :
    staticSlots portEnd now (rules ++ [r]) p =
      if r.2.Protocol = p then
        (staticSlots portEnd now rules p).set r.2.Port.toNat ⟨now r.1, 0, 0, true⟩
      else staticSlots portEnd now rules p := by
  unfold staticSlots
  by_cases ha : p.allocated
  · by_cases hp : r.2.Protocol = p
    · refine List.ext_getElem (by simp [ha, hp]) fun i h₁ h₂ ↦ ?_
      by_cases hi : r.2.Port.toNat = i <;> simp [ha, hp, hi, List.getElem_set, staticSlot_concat]
    · simp only [ha, hp, if_true, if_false]
      exact List.map_congr_left fun i _ ↦ by rw [staticSlot_concat, if_neg fun h ↦ hp h.1]
  · simp [ha]

/-- The slot write of `enableStaticPortForward`, on slot arrays as `staticSlots` describes them:
it succeeds exactly when the rule's protocol has slots and its port is below `portEnd`, and then
leaves the slot arrays with the rule added. -/
theorem setPortmapSlot_staticSlots {port : ipPort} {portEnd : Nat} {now : Nat → Time}
    {rules : List (Nat × forwardedPort)}
    (hslots : ∀ p : protocolId, port.getPortmap p.ipv6 p.id = .ok (staticSlots portEnd now rules p))
    (r : Nat × forwardedPort) :
    ((∃ port', port.setPortmapSlot r.2.Protocol.ipv6 r.2.Protocol.id r.2.Port.toNat
        ⟨now r.1, 0, 0, true⟩ = .ok port') ↔ r.2.Protocol.allocated ∧ r.2.Port.toNat < portEnd) ∧
      ∀ port', port.setPortmapSlot r.2.Protocol.ipv6 r.2.Protocol.id r.2.Port.toNat
        ⟨now r.1, 0, 0, true⟩ = .ok port' →
        ∀ p : protocolId, port'.getPortmap p.ipv6 p.id =
          .ok (staticSlots portEnd now (rules ++ [r]) p) := by
  obtain ⟨j, fp⟩ := r
  unfold ipPort.setPortmapSlot
  rw [hslots fp.Protocol, ok_bind]
  constructor
  · rw [exists_bind_eq_ok_iff fun _ ↦ ⟨_, rfl⟩, exists_sliceSet_eq_ok_iff, staticSlots_length]
    split <;> simp_all
  · intro port' h p
    obtain ⟨slots, hset, h⟩ := bind_eq_ok_iff.1 h
    obtain ⟨-, rfl⟩ := sliceSet_eq_ok hset
    cases h
    have hlt : fp.Protocol.id.toNat <
        (if fp.Protocol.ipv6 then port.portmap6 else port.portmap).length := by
      have h := hslots fp.Protocol
      rw [getPortmap_eq_sliceGet, sliceGet_eq_ok_iff] at h
      exact (List.getElem?_eq_some_iff.1 h).1
    rw [staticSlots_concat]
    by_cases heq : fp.Protocol = p
    · subst heq
      cases hv : fp.Protocol.ipv6 <;>
        simp only [hv, getPortmap_eq_sliceGet, Bool.false_eq_true, ↓reduceIte] at hlt ⊢ <;>
        rw [sliceGet_set, if_pos ⟨rfl, hlt⟩]
    · rw [if_neg heq, ← hslots p, getPortmap_eq_sliceGet, getPortmap_eq_sliceGet]
      have hne : fp.Protocol.ipv6 = p.ipv6 → fp.Protocol.id.toNat ≠ p.id.toNat :=
        fun hv hid ↦ heq (protocolId.eq_iff.2 ⟨UInt8.toNat.inj hid, hv⟩)
      cases hv : fp.Protocol.ipv6 <;> cases hp : p.ipv6 <;> simp_all [sliceGet_set]

/-- One rule, as far as the slot arrays are concerned: a rule of the public interface succeeds
exactly when its protocol has slots and its port is below `portEnd`, and adds its slot; a rule
of the private interface always succeeds and leaves the slots alone. -/
theorem enableStaticPortForward_slots {now : Nat → Time} {pp : portPair} {t : interfaceType}
    {portEnd : Nat} {done : List (Nat × forwardedPort)} (hpp : pp.tablesAllocated)
    (htype : (pp.port t).Type = t)
    (hslots : ∀ p : protocolId,
      pp.PublicPort.getPortmap p.ipv6 p.id = .ok (staticSlots portEnd now done p))
    (r : Nat × forwardedPort) :
    ((∃ pp', enableStaticPortForward (now r.1) pp t r.2 = .ok pp') ↔
        (t = .iPUBLIC → r.2.Protocol.allocated ∧ r.2.Port.toNat < portEnd)) ∧
      ∀ pp', enableStaticPortForward (now r.1) pp t r.2 = .ok pp' →
        ∀ p : protocolId, pp'.PublicPort.getPortmap p.ipv6 p.id =
          .ok (staticSlots portEnd now (if t = .iPUBLIC then done ++ [r] else done) p) := by
  rw [enableStaticPortForward_eq hpp, htype]
  obtain ⟨tt, htt⟩ := port_foldl_store (ruleStores (pp.port t) t r.2) pp .iPUBLIC
  generalize (ruleStores (pp.port t) t r.2).foldl portPair.store pp = pp₁ at htt
  have hslots₁ : ∀ p : protocolId,
      (pp₁.port .iPUBLIC).getPortmap p.ipv6 p.id = .ok (staticSlots portEnd now done p) := by
    rw [htt]; exact hslots
  cases t
  · obtain ⟨hok, hput⟩ := setPortmapSlot_staticSlots hslots₁ r
    simp only [↓reduceIte, forall_const]
    rw [exists_bind_eq_ok_iff fun _ ↦ ⟨_, rfl⟩]
    refine ⟨hok, fun pp' h ↦ ?_⟩
    obtain ⟨port, hs, h⟩ := bind_eq_ok_iff.1 h
    cases h
    exact hput port hs
  · simp only [reduceCtorEq, ↓reduceIte, false_implies, iff_true]
    refine ⟨⟨_, rfl⟩, fun pp' h ↦ ?_⟩
    cases h
    exact hslots₁

/-- The rules of one interface, as far as the slot arrays are concerned. -/
theorem foldlM_enableStaticPortForward_slots (now : Nat → Time) (t : interfaceType)
    (portEnd : Nat) :
    ∀ (rules : List (Nat × forwardedPort)) {pp : portPair} {done : List (Nat × forwardedPort)},
      pp.tablesAllocated → (pp.port t).Type = t →
      (∀ p : protocolId,
        pp.PublicPort.getPortmap p.ipv6 p.id = .ok (staticSlots portEnd now done p)) →
      ((∃ pp', rules.foldlM (fun pp r ↦ enableStaticPortForward (now r.1) pp t r.2) pp = .ok pp') ↔
          (t = .iPUBLIC →
            ∀ fp ∈ rules.map Prod.snd, fp.Protocol.allocated ∧ fp.Port.toNat < portEnd)) ∧
        ∀ pp', rules.foldlM (fun pp r ↦ enableStaticPortForward (now r.1) pp t r.2) pp = .ok pp' →
          ∀ p : protocolId, pp'.PublicPort.getPortmap p.ipv6 p.id =
            .ok (staticSlots portEnd now (if t = .iPUBLIC then done ++ rules else done) p)
  | [], pp, done, _, _, hslots => by
    refine ⟨iff_of_true ⟨_, rfl⟩ fun _ _ h ↦ (List.not_mem_nil _ h).elim, fun pp' h ↦ ?_⟩
    cases h
    simpa using hslots
  | r :: rules, pp, done, hpp, htype, hslots => by
    obtain ⟨hok, hput⟩ := enableStaticPortForward_slots hpp htype hslots r
    have hrest : ∀ pp₁, enableStaticPortForward (now r.1) pp t r.2 = .ok pp₁ → _ := fun pp₁ h₁ ↦
      have hW := (enableStaticPortForward_tables hpp h₁).2.1 t
      foldlM_enableStaticPortForward_slots now t portEnd rules
        (enableStaticPortForward_tables hpp h₁).1
        ((congrArg ipPort.Type hW).trans htype) (hput pp₁ h₁)
    simp only [List.foldlM_cons]
    constructor
    · rw [exists_bind_eq_ok_iff_and, List.map_cons, List.forall_mem_cons]
      constructor
      · rintro ⟨pp₁, h₁, h⟩
        have hfp := hok.1 ⟨pp₁, h₁⟩
        exact fun ht ↦ ⟨hfp ht, (hrest pp₁ h₁).1.1 h ht⟩
      · intro h
        obtain ⟨pp₁, h₁⟩ := hok.2 fun ht ↦ (h ht).1
        exact ⟨pp₁, h₁, (hrest pp₁ h₁).1.2 fun ht ↦ (h ht).2⟩
    · intro pp' h p
      obtain ⟨pp₁, h₁, h⟩ := bind_eq_ok_iff.1 h
      rw [(hrest pp₁ h₁).2 pp' h p]
      cases t <;> simp

/-! ## A pair, and every pair -/

theorem getD_replicate_empty (i : Nat) :
    (List.replicate 256 SyncMap.empty).getD i SyncMap.empty = SyncMap.empty := by
  rw [List.getD_eq_getElem?_getD, List.getElem?_replicate]
  split <;> rfl

section allocate

variable (portEnd : Nat) (portStart : Int) (pp : portPair)

theorem tablesAllocated_allocate : (pp.allocate portEnd portStart).tablesAllocated := fun s ↦ by
  cases s <;> exact List.length_replicate _ _

theorem tableLoad_allocate (place : interfaceType × UInt8 × Endpoint) :
    (pp.allocate portEnd portStart).tableLoad place = none := by
  obtain ⟨s, id, k⟩ := place
  cases s <;> simp only [portPair.tableLoad, portPair.allocate, portPair.port,
    ipPort.allocateLookupMap, ipPort.allocatePublicPortPortMap, getD_replicate_empty,
    SyncMap.Load_empty]

theorem withoutState_allocate (u : interfaceType) :
    ((pp.allocate portEnd portStart).port u).withoutState = (pp.port u).withoutState := by
  cases u <;> rfl

theorem getPortmap_allocate (now : Nat → Time) (p : protocolId) :
    (pp.allocate portEnd portStart).PublicPort.getPortmap p.ipv6 p.id =
      .ok (staticSlots portEnd now [] p) :=
  getPortmap_allocatePublicPortPortMap portEnd now _ p

end allocate

/-- What `InitFlows` leaves in the tables of a pair: the last store of its rules to each place,
and nothing where none stored. -/
theorem initPair_tables {portEnd : Nat} {portStart : Int} {now : Nat → Time} {pp pp' : portPair}
    (h : initPair portEnd portStart now pp = .ok pp') :
    pp'.tablesAllocated ∧ (∀ u, (pp'.port u).withoutState = (pp.port u).withoutState) ∧
      pp'.lastport = portStart ∧
      ∀ place, pp'.tableLoad place = applyStores place none (pairStores pp) := by
  obtain ⟨pp₁, h₁, h⟩ := bind_eq_ok_iff.1 h
  obtain ⟨hA₁, hW₁, hP₁, hL₁⟩ := foldlM_enableStaticPortForward_tables now .iPRIVATE _
    (tablesAllocated_allocate portEnd portStart pp) h₁
  obtain ⟨hA, hW, hP, hL⟩ := foldlM_enableStaticPortForward_tables now .iPUBLIC _ hA₁ h
  have hpub : (pp₁.port .iPUBLIC).withoutState = pp.PublicPort.withoutState :=
    (hW₁ .iPUBLIC).trans (withoutState_allocate portEnd portStart pp .iPUBLIC)
  have hfp : (pp₁.port .iPUBLIC).ForwardPorts = pp.PublicPort.ForwardPorts := by
    have := congrArg ipPort.ForwardPorts hpub; exact this
  refine ⟨hA, fun u ↦ (hW u).trans ((hW₁ u).trans (withoutState_allocate _ _ _ u)),
    hP.trans hP₁, fun place ↦ ?_⟩
  rw [hL, hL₁, tableLoad_allocate, pairStores, applyStores_append, List.enum_map_snd,
    List.enum_map_snd, hfp]
  congr 2
  funext fp
  rw [← ruleStores_withoutState, hpub, ruleStores_withoutState]

/-- What `InitFlows` leaves in the slot arrays of a pair whose sides are recorded, and when it
panics: exactly when a rule of the public interface has a protocol without slots, or a port not
below `portEnd`. -/
theorem initPair_slots {portEnd : Nat} {portStart : Int} {now : Nat → Time} {pp : portPair}
    (htype : ∀ t, (pp.port t).Type = t) :
    ((∃ pp', initPair portEnd portStart now pp = .ok pp') ↔
        ∀ fp ∈ pp.PublicPort.ForwardPorts, fp.Protocol.allocated ∧ fp.Port.toNat < portEnd) ∧
      ∀ pp', initPair portEnd portStart now pp = .ok pp' →
        ∀ p : protocolId, pp'.PublicPort.getPortmap p.ipv6 p.id =
          .ok (staticSlots portEnd now pp.PublicPort.ForwardPorts.enum p) := by
  have hA₀ := tablesAllocated_allocate portEnd portStart pp
  obtain ⟨hok₁, hput₁⟩ := foldlM_enableStaticPortForward_slots now .iPRIVATE portEnd
    pp.PrivatePort.ForwardPorts.enum hA₀ (htype .iPRIVATE) (getPortmap_allocate portEnd portStart pp now)
  have hrest : ∀ pp₁, initPortPortForwardingEntries now (pp.allocate portEnd portStart) .iPRIVATE =
      .ok pp₁ → (pp₁.port .iPUBLIC).ForwardPorts = pp.PublicPort.ForwardPorts ∧ _ :=
    fun pp₁ h₁ ↦
    have hW := ((foldlM_enableStaticPortForward_tables now .iPRIVATE _ hA₀ h₁).2.1 .iPUBLIC).trans
      (withoutState_allocate portEnd portStart pp .iPUBLIC)
    ⟨by have := congrArg ipPort.ForwardPorts hW; exact this,
      foldlM_enableStaticPortForward_slots now .iPUBLIC portEnd (pp₁.port .iPUBLIC).ForwardPorts.enum
        (foldlM_enableStaticPortForward_tables now .iPRIVATE _ hA₀ h₁).1
        ((congrArg ipPort.Type hW).trans (htype .iPUBLIC)) (by simpa using hput₁ pp₁ h₁)⟩
  constructor
  · rw [initPair, exists_bind_eq_ok_iff_and]
    constructor
    · rintro ⟨pp₁, h₁, h⟩
      obtain ⟨hfp, hok, -⟩ := hrest pp₁ h₁
      rw [← hfp, ← List.enum_map_snd (pp₁.port .iPUBLIC).ForwardPorts]
      exact hok.1 h rfl
    · intro h
      obtain ⟨pp₁, h₁⟩ := hok₁.2 fun ht ↦ nomatch ht
      obtain ⟨hfp, hok, -⟩ := hrest pp₁ h₁
      exact ⟨pp₁, h₁, hok.2 fun _ ↦ by rw [List.enum_map_snd, hfp]; exact h⟩
  · intro pp' h p
    obtain ⟨pp₁, h₁, h⟩ := bind_eq_ok_iff.1 h
    obtain ⟨hfp, -, hput⟩ := hrest pp₁ h₁
    rw [hput pp' h p, hfp]
    rfl

/-- `InitFlows` changes nothing but the pairs, and pair `i` as `initPair` does with the clock
readings `now i`. -/
theorem InitFlows_eq_ok {portEnd : Nat} {portStart : Int} {now : Nat → Nat → Time}
    {c c' : Config} (h : InitFlows portEnd portStart now c = .ok c') :
    { c' with PortPairs := c.PortPairs } = c ∧
      List.Forall₂ (fun (ipp : Nat × portPair) pp' ↦
          initPair portEnd portStart (now ipp.1) ipp.2 = .ok pp')
        c.PortPairs.enum c'.PortPairs := by
  obtain ⟨pps, hpps, h⟩ := bind_eq_ok_iff.1 h
  cases h
  exact ⟨rfl, forall₂_of_mapM_eq_ok hpps⟩

/-- Every pair goes through `initPair`, with some clock. -/
theorem forall₂_initPair_of_InitFlows {portEnd : Nat} {portStart : Int}
    {now : Nat → Nat → Time} {c c' : Config} (h : InitFlows portEnd portStart now c = .ok c') :
    List.Forall₂ (fun pp pp' ↦ ∃ now', initPair portEnd portStart now' pp = .ok pp')
      c.PortPairs c'.PortPairs := by
  rw [← List.enum_map_snd c.PortPairs, List.forall₂_map_left_iff]
  exact (InitFlows_eq_ok h).2.imp fun _ _ h ↦ ⟨_, h⟩

theorem exists_InitFlows_eq_ok_iff {portEnd : Nat} {portStart : Int} {now : Nat → Nat → Time}
    {c : Config} :
    (∃ c', InitFlows portEnd portStart now c = .ok c') ↔
      ∀ ipp ∈ c.PortPairs.enum, ∃ pp', initPair portEnd portStart (now ipp.1) ipp.2 = .ok pp' := by
  unfold InitFlows
  rw [exists_bind_eq_ok_iff fun _ ↦ ⟨_, rfl⟩, exists_mapM_eq_ok_iff]

theorem forall_mem_enum_iff {α : Type} {l : List α} {P : α → Prop} :
    (∀ ipp ∈ l.enum, P ipp.2) ↔ ∀ a ∈ l, P a := by
  conv_rhs => rw [← List.enum_map_snd l]
  exact List.forall_mem_map.symm

/-- **When `InitFlows` panics.**  On a configuration `ReadConfig` accepted, `InitFlows` gets
through every pair exactly when every rule of every public interface has a protocol with slots
and a port below `portEnd`. -/
theorem InitFlows_ok_iff {Natconfig c : Config} {setKniIP bringUpKniInterfaces : Bool}
    {g g' : Globals} (hread : ReadConfig Natconfig setKniIP bringUpKniInterfaces g = .ok (c, g'))
    (portEnd : Nat) (portStart : Int) (now : Nat → Nat → Time) :
    (∃ c', InitFlows portEnd portStart now c = .ok c') ↔
      ∀ pp ∈ c.PortPairs, ∀ fp ∈ pp.PublicPort.ForwardPorts,
        fp.Protocol.allocated ∧ fp.Port.toNat < portEnd := by
  refine exists_InitFlows_eq_ok_iff.trans (Iff.trans ?_ forall_mem_enum_iff)
  exact forall₂_congr fun ipp hipp ↦
    (initPair_slots (ReadConfig_eq_ok_types hread ipp.2 (List.snd_mem_of_mem_enum hipp))).1

theorem ruleStores_subset_pairStores {pp : portPair} {t : interfaceType} {fp : forwardedPort}
    (hfp : fp ∈ (pp.port t).ForwardPorts) : ∀ w ∈ ruleStores (pp.port t) t fp, w ∈ pairStores pp :=
  fun w hw ↦ by
  cases t
  · exact List.mem_append_right _ (List.mem_flatMap.2 ⟨fp, hfp, hw⟩)
  · exact List.mem_append_left _ (List.mem_flatMap.2 ⟨fp, hfp, hw⟩)

/-- **Every rule's entries, when no two stores collide.**  After `InitFlows`, every table of every
pair holds at each key the value of the last store its rules made there, and nothing where none
did.  So when no two stores of a pair go to the same key of the same table, every rule of every
interface has its entry in that interface's table, from the interface's address of the rule's
family and the forwarded port to the destination's address and port; and, when the destination's
address is not zero, the entry back in the other interface's table. -/
theorem InitFlows_static_entries {portEnd : Nat} {portStart : Int} {now : Nat → Nat → Time}
    {c c' : Config} (h : InitFlows portEnd portStart now c = .ok c') :
    List.Forall₂ (fun pp pp' ↦
        (∀ place, pp'.tableLoad place = applyStores place none (pairStores pp)) ∧
        (((pairStores pp).map TableStore.place).Nodup → ∀ t, ∀ fp ∈ (pp.port t).ForwardPorts,
          pp'.tableLoad (t, fp.Protocol.id, familyEndpoint fp.Protocol.ipv6
              (pp.port t).Subnet.Addr (pp.port t).Subnet6.Addr fp.Port) =
            some (familyEndpoint fp.Protocol.ipv6 fp.Destination.Addr4 fp.Destination.Addr6
              fp.Destination.Port) ∧
          (fp.Protocol.ipv6 = true ∧ fp.Destination.Addr6 ≠ zeroIPv6Addr ∨
              fp.Protocol.ipv6 = false ∧ fp.Destination.Addr4 ≠ 0 →
            pp'.tableLoad (t.opposite, fp.Protocol.id, familyEndpoint fp.Protocol.ipv6
                fp.Destination.Addr4 fp.Destination.Addr6 fp.Destination.Port) =
              some (familyEndpoint fp.Protocol.ipv6 (pp.port t).Subnet.Addr
                (pp.port t).Subnet6.Addr fp.Port))))
      c.PortPairs c'.PortPairs := by
  refine (forall₂_initPair_of_InitFlows h).imp fun pp pp' ⟨_, hinit⟩ ↦ ?_
  have hL := (initPair_tables hinit).2.2.2
  refine ⟨hL, fun hn t fp hfp ↦ ?_⟩
  have hsub := ruleStores_subset_pairStores hfp
  dsimp only [ruleStores] at hsub
  refine ⟨(hL _).trans (applyStores_of_mem hn (hsub _ (List.mem_cons_self _ _)) none), fun hd ↦ ?_⟩
  rw [if_pos hd] at hsub
  exact (hL _).trans
    (applyStores_of_mem hn (hsub _ (List.mem_cons_of_mem _ (List.mem_singleton_self _))) none)

/-! ## Configurations -/

theorem withDefaultPort_Protocol_Port (fp : forwardedPort) :
    fp.withDefaultPort.Protocol = fp.Protocol ∧ fp.withDefaultPort.Port = fp.Port := by
  unfold forwardedPort.withDefaultPort; split <;> exact ⟨rfl, rfl⟩

/-- `InitFlows` gets through a configuration `ReadConfig` accepted when the public rules as
written have protocols with slots and ports below `portEnd`. -/
theorem exists_InitFlows_of_ReadConfig {Natconfig c : Config}
    {setKniIP bringUpKniInterfaces : Bool} {g g' : Globals}
    (hread : ReadConfig Natconfig setKniIP bringUpKniInterfaces g = .ok (c, g')) {portEnd : Nat}
    (hrules : ∀ pp ∈ Natconfig.PortPairs, ∀ fp ∈ pp.PublicPort.ForwardPorts,
      fp.Protocol.allocated ∧ fp.Port.toNat < portEnd) (portStart : Int)
    (now : Nat → Nat → Time) :
    ∃ c', InitFlows portEnd portStart now c = .ok c' := by
  refine exists_InitFlows_eq_ok_iff.2 fun ⟨i, pp⟩ hipp ↦ ?_
  have hpp : pp ∈ c.PortPairs := List.snd_mem_of_mem_enum hipp
  refine (initPair_slots (ReadConfig_eq_ok_types hread pp hpp)).1.2 fun fp hfp ↦ ?_
  rw [ReadConfig_eq_ok hread] at hpp
  obtain ⟨pp₀, hpp₀, rfl⟩ := List.mem_map.1 hpp
  obtain ⟨fp₀, hfp₀, rfl⟩ := List.mem_map.1 hfp
  rw [(withDefaultPort_Protocol_Port fp₀).1, (withDefaultPort_Protocol_Port fp₀).2]
  exact hrules pp₀ hpp₀ fp₀ hfp₀

theorem InitFlows_ok_iff_forwardingConfig :
    ∃ c g', ReadConfig forwardingConfig false false ⟨false, false⟩ = .ok (c, g') ∧
      ((∃ c', InitFlows 65535 1024 (fun _ _ ↦ 0) c = .ok c') ↔
        ∀ pp ∈ c.PortPairs, ∀ fp ∈ pp.PublicPort.ForwardPorts,
          fp.Protocol.allocated ∧ fp.Port.toNat < 65535) :=
  let ⟨⟨c, g'⟩, hread⟩ : ∃ r, ReadConfig forwardingConfig false false ⟨false, false⟩ = .ok r :=
    ⟨_, rfl⟩
  ⟨c, g', hread, InitFlows_ok_iff hread 65535 1024 fun _ _ ↦ 0⟩

theorem InitFlows_static_entries_forwardingConfig :
    ∃ c g', ReadConfig forwardingConfig false false ⟨false, false⟩ = .ok (c, g') ∧
      ∃ c', InitFlows 65535 1024 (fun _ _ ↦ 0) c = .ok c' ∧
        (∀ pp ∈ c.PortPairs, ((pairStores pp).map TableStore.place).Nodup) ∧
        List.Forall₂ (fun pp pp' ↦
            (∀ place, pp'.tableLoad place = applyStores place none (pairStores pp)) ∧
            (((pairStores pp).map TableStore.place).Nodup → ∀ t, ∀ fp ∈ (pp.port t).ForwardPorts,
              pp'.tableLoad (t, fp.Protocol.id, familyEndpoint fp.Protocol.ipv6
                  (pp.port t).Subnet.Addr (pp.port t).Subnet6.Addr fp.Port) =
                some (familyEndpoint fp.Protocol.ipv6 fp.Destination.Addr4 fp.Destination.Addr6
                  fp.Destination.Port) ∧
              (fp.Protocol.ipv6 = true ∧ fp.Destination.Addr6 ≠ zeroIPv6Addr ∨
                  fp.Protocol.ipv6 = false ∧ fp.Destination.Addr4 ≠ 0 →
                pp'.tableLoad (t.opposite, fp.Protocol.id, familyEndpoint fp.Protocol.ipv6
                    fp.Destination.Addr4 fp.Destination.Addr6 fp.Destination.Port) =
                  some (familyEndpoint fp.Protocol.ipv6 (pp.port t).Subnet.Addr
                    (pp.port t).Subnet6.Addr fp.Port))))
          c.PortPairs c'.PortPairs :=
  let ⟨⟨c, g'⟩, hread⟩ : ∃ r, ReadConfig forwardingConfig false false ⟨false, false⟩ = .ok r :=
    ⟨_, rfl⟩
  let ⟨c', h⟩ := exists_InitFlows_of_ReadConfig hread (by decide) 1024 fun _ _ ↦ 0
  have hnodup : ∀ pp ∈ c.PortPairs, ((pairStores pp).map TableStore.place).Nodup := by
    rw [ReadConfig_eq_ok hread]; decide
  ⟨c, g', hread, c', h, hnodup, InitFlows_static_entries h⟩

/-- `forwardingPair` with two public rules to the same destination `10.0.0.5:80`: TCP ports 80
and 8080. -/
def sameDestinationPair : portPair :=
  { forwardingPair with PublicPort := { forwardingPair.PublicPort with ForwardPorts :=
    [⟨80, { hostPort.zero with Addr4 := BytesToIPv4 5 0 0 10, Port := 80 }, ⟨TCPNumber, false⟩⟩,
     ⟨8080, { hostPort.zero with Addr4 := BytesToIPv4 5 0 0 10, Port := 80 },
      ⟨TCPNumber, false⟩⟩] } }

/-- Two public rules to one destination store their reverse entries at the same key of the
private table: after `InitFlows` it maps `10.0.0.5:80` back to port 8080 only, and the reverse
entry of the rule for port 80 is gone. -/
theorem InitFlows_overwrites_reverse_entry :
    ∃ c g', ReadConfig { forwardingConfig with PortPairs := [sameDestinationPair] } false false
        ⟨false, false⟩ = .ok (c, g') ∧
      ∃ c', InitFlows 65535 1024 (fun _ _ ↦ 0) c = .ok c' ∧
        ∃ pp pp', c.PortPairs = [pp] ∧ c'.PortPairs = [pp'] ∧
          ∃ fp ∈ pp.PublicPort.ForwardPorts,
            (fp.Protocol.ipv6 = true ∧ fp.Destination.Addr6 ≠ zeroIPv6Addr ∨
              fp.Protocol.ipv6 = false ∧ fp.Destination.Addr4 ≠ 0) ∧
            pp'.tableLoad (.iPRIVATE, fp.Protocol.id, familyEndpoint fp.Protocol.ipv6
                fp.Destination.Addr4 fp.Destination.Addr6 fp.Destination.Port) ≠
              some (familyEndpoint fp.Protocol.ipv6 pp.PublicPort.Subnet.Addr
                pp.PublicPort.Subnet6.Addr fp.Port) := by
  obtain ⟨⟨c, g'⟩, hread⟩ : ∃ r, ReadConfig { forwardingConfig with
      PortPairs := [sameDestinationPair] } false false ⟨false, false⟩ = .ok r := ⟨_, rfl⟩
  obtain ⟨c', h⟩ :=
    @exists_InitFlows_of_ReadConfig _ _ _ _ _ _ hread 65535 (by decide) 1024 fun _ _ ↦ 0
  have hpairs : c.PortPairs = [sameDestinationPair.configured] := ReadConfig_eq_ok hread
  obtain ⟨pp', _, ⟨_, hinit⟩, hnil, hc'⟩ :=
    List.forall₂_cons_left_iff.1 (hpairs ▸ forall₂_initPair_of_InitFlows h)
  rw [List.forall₂_nil_left_iff.1 hnil] at hc'
  refine ⟨c, g', hread, c', h, _, pp', hpairs, hc', _, List.mem_cons_self _ _, by decide, ?_⟩
  rw [(initPair_tables hinit).2.2.2]
  decide

/-- `forwardingPair` with its rule's `protocol` left out: the rule keeps the zero `protocolId`,
protocol number 0 over IPv4. -/
def noProtocolPair : portPair :=
  { forwardingPair with PublicPort := { forwardingPair.PublicPort with ForwardPorts :=
    [⟨8080, { hostPort.zero with Addr4 := BytesToIPv4 5 0 0 10, Port := 80 }, ⟨0, false⟩⟩] } }

set_option maxRecDepth 4000 in
/-- A rule without a protocol is accepted by `ReadConfig`, and `InitFlows` then writes its slot
into the slot array of protocol 0, which `allocatePublicPortPortMap` never made: index 8080 of a
nil slice, whatever `portEnd` is. -/
theorem InitFlows_panics_without_protocol :
    ∃ c g', ReadConfig { forwardingConfig with PortPairs := [noProtocolPair] } false false
        ⟨false, false⟩ = .ok (c, g') ∧
      ∀ portEnd portStart now, InitFlows portEnd portStart now c = .error ⟨8080, 0⟩ :=
  ⟨_, _, rfl, fun _ _ _ ↦ rfl⟩

end NffNat
