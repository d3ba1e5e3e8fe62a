import NffNat.Config.Defs

/-!
# Reading the configuration

`ReadConfig` decodes the JSON configuration into `Natconfig` and then checks it a pair at a
time: the two interfaces of a pair must agree on VLAN tagging, a VLAN tag excludes a KNI device,
a `"dhcp"` subnet needs a host name, and every forwarding rule must pass
`checkPortForwarding`, which also fills in a rule's missing destination port.  The model starts
from the decoded `Natconfig`; opening and decoding the file are `os` and `encoding/json`.  What
a failing `ReadConfig` leaves in `Natconfig` is not modelled: the error is the result.

## What is here

* `ruleAccepted` and `crossChecked` are the spec's conditions on a forwarding rule and on a
  pair, written from the spec and not from the code.
* `ReadConfig_ok_iff` — for every configuration whose pairs pass the cross-checks, `ReadConfig`
  accepts exactly when every rule satisfies `ruleAccepted`; and whatever it accepts comes back
  with each pair `portPair.configured`: sides recorded, destination ports filled in
  (`forwardedPort.withDefaultPort`), static ARP mode set.
* `ReadConfig_ok_pairChecks` — the cross-checks an accepted configuration does pass.
* `ReadConfig_accepts_public_vlan_with_kni` — the one it does not: the test meant to exclude a
  VLAN tag together with a kni-name looks at the private interface twice, so a public interface
  with both is accepted.
* `ReadConfig_globals` — everything `ReadConfig` returns: the configuration with its flags and
  pairs set, and the package variables `NeedKNI` and `NeedDHCP`.  Each loop body has one spec
  lemma (`checkPortForwarding_eq_ok`, `readPort_eq_ok`, `readPair_eq_ok`), folded over the slices
  by `forRange_eq_map` and `forRange_state`.
* `getPortAndPairByID_spec` — the lookup of an interface by its index finds the first pair that
  has one, public side first.
-/

set_option autoImplicit false

namespace NffNat

/-- The package variables `ReadConfig` sets besides `Natconfig`. -/
structure Globals where
  NeedKNI : Bool
  NeedDHCP : Bool
deriving DecidableEq, Repr

/-! ## One forwarding rule -/

/-- `isAddrZero` of `checkPortForwarding`: the destination is `0.0.0.0` or `::`, read in the
destination's own family. -/
def hostPort.isAddrZero (d : hostPort) : Bool :=
  if d.ipv6 then d.Addr6 == zeroIPv6Addr else d.Addr4 == 0

theorem hostPort.isAddrZero_iff (d : hostPort) : d.isAddrZero = true ↔
    d.ipv6 = true ∧ d.Addr6 = zeroIPv6Addr ∨ d.ipv6 = false ∧ d.Addr4 = 0 := by
  unfold hostPort.isAddrZero; cases d.ipv6 <;> simp

/-- The subnet test of `checkPortForwarding`: a destination must lie in the subnet of its family
of the other interface of the pair. -/
def ipPort.checkDestinationSubnet (opposite : ipPort) (d : hostPort) : Except GoFailure Unit :=
  if d.ipv6 then
    if opposite.Subnet6.checkAddrWithingSubnet d.Addr6 then .ok ()
    else
      match opposite.Subnet6.String with
      | .error p => .error (.panic p)
      | .ok subnet => .error (.error ("Destination address " ++ IPv6Address.String d.Addr6 ++
          " should be within subnet " ++ subnet))
  else if opposite.Subnet.checkAddrWithingSubnet d.Addr4 then .ok ()
  else .error (.error ("Destination address " ++ IPv4Address.String d.Addr4 ++
    " should be within subnet " ++ opposite.Subnet.String))

/-- `ipPort.checkPortForwarding`: the checks on a rule `fp` of `port`, whose pair's other
interface is `opposite` (Go's `port.opposite`).  An accepted rule to a real destination that
gave no port gets the forwarded port. -/
def ipPort.checkPortForwarding (port opposite : ipPort) (fp : forwardedPort) (g : Globals) :
    Except GoFailure (forwardedPort × Globals) :=
  if fp.Destination.ipv6 ≠ fp.Protocol.ipv6 then
    .error (.error ("Port forwarding protocol should be TCP or UDP for IPv4 addresses and " ++
      "TCP6 or UDP6 for IPv6 addresses"))
  else if fp.Destination.isAddrZero then
    if port.KNIName = "" then
      .error (.error ("Port with index " ++ toString port.Index ++ " should have \"kni-name\" " ++
        "setting if you want to forward packets to KNI address 0.0.0.0 or [::]"))
    else if fp.Destination.Port ≠ fp.Port then
      .error (.error ("When address 0.0.0.0 or [::] is specified, it means that packets are " ++
        "forwarded to KNI interface. In this case destination port should be equal to " ++
        "forwarded port. You have different values: " ++ toString fp.Port ++ " and " ++
        toString fp.Destination.Port))
    else .ok (fp, { g with NeedKNI := true })
  else if port.Type = .iPRIVATE then
    .error (.error ("Only KNI port forwarding is allowed on private port. All translated " ++
      "connections from private to public network can be initiated without any forwarding " ++
      "rules."))
  else
    match opposite.checkDestinationSubnet fp.Destination with
    | .error e => .error e
    | .ok () =>
      .ok (if fp.Destination.Port = 0 then
          { fp with Destination := { fp.Destination with Port := fp.Port } }
        else fp, g)

theorem checkDestinationSubnet_eq_ok_iff (opposite : ipPort) (d : hostPort) :
    opposite.checkDestinationSubnet d = .ok () ↔
      (if d.ipv6 then opposite.Subnet6.checkAddrWithingSubnet d.Addr6
        else opposite.Subnet.checkAddrWithingSubnet d.Addr4) = true := by
  unfold ipPort.checkDestinationSubnet
  split_ifs <;> (try split) <;> simp_all

/-- The spec's conditions on a rule `fp` of the interface on side `t` of a pair: the
destination's family is the protocol's; a rule to the unspecified address needs a kni-name and
equal ports; any other rule must be on the public side and point into the private interface's
subnet of its family. -/
def ruleAccepted (pp : portPair) (t : interfaceType) (fp : forwardedPort) : Prop :=
  fp.Destination.ipv6 = fp.Protocol.ipv6 ∧
    if fp.Destination.ipv6 = true ∧ fp.Destination.Addr6 = zeroIPv6Addr ∨
        fp.Destination.ipv6 = false ∧ fp.Destination.Addr4 = 0 then
      (pp.port t).KNIName ≠ "" ∧ fp.Destination.Port = fp.Port
    else t = .iPUBLIC ∧
      (if fp.Destination.ipv6 then pp.PrivatePort.Subnet6.checkAddrWithingSubnet fp.Destination.Addr6
        else pp.PrivatePort.Subnet.checkAddrWithingSubnet fp.Destination.Addr4) = true

/-- A rule as the spec says an accepted one is stored: a rule to a real destination that gave
no port gets the forwarded port; any other rule is kept as written. -/
def forwardedPort.withDefaultPort (fp : forwardedPort) : forwardedPort :=
  if ¬(fp.Destination.ipv6 = true ∧ fp.Destination.Addr6 = zeroIPv6Addr ∨
      fp.Destination.ipv6 = false ∧ fp.Destination.Addr4 = 0) ∧ fp.Destination.Port = 0 then
    { fp with Destination := { fp.Destination with Port := fp.Port } }
  else fp

theorem forwardedPort.withDefaultPort_eq (fp : forwardedPort) : fp.withDefaultPort =
    if fp.Destination.isAddrZero = false ∧ fp.Destination.Port = 0 then
      { fp with Destination := { fp.Destination with Port := fp.Port } }
    else fp := by
  simp only [forwardedPort.withDefaultPort, ← Bool.not_eq_true, hostPort.isAddrZero_iff]

/-- What `checkPortForwarding` accepts, for an interface whose `Type` is its side `t`: the
spec's conditions, with `opposite` in the place of the private interface. -/
theorem checkPortForwarding_ok_iff {pp : portPair} {t : interfaceType} {opposite : ipPort}
    (htype : (pp.port t).Type = t) (hsub : t = .iPUBLIC → opposite.Subnet = pp.PrivatePort.Subnet ∧
      opposite.Subnet6 = pp.PrivatePort.Subnet6) (fp : forwardedPort) (g : Globals) :
    (∃ r, (pp.port t).checkPortForwarding opposite fp g = .ok r) ↔ ruleAccepted pp t fp := by
  unfold ipPort.checkPortForwarding ruleAccepted
  simp only [← hostPort.isAddrZero_iff]
  by_cases hfam : fp.Destination.ipv6 = fp.Protocol.ipv6
  · by_cases hz : fp.Destination.isAddrZero
    · by_cases hk : (pp.port t).KNIName = "" <;> by_cases hp : fp.Destination.Port = fp.Port <;>
        simp [hfam, hz, hk, hp]
    · rw [htype]
      cases t
      · obtain ⟨h4, h6⟩ := hsub rfl
        have hw := checkDestinationSubnet_eq_ok_iff opposite fp.Destination
        rw [h4, h6] at hw
        cases hr : opposite.checkDestinationSubnet fp.Destination <;> simp_all
      · simp [hfam, hz]
  · simp [hfam]

/-- What an accepted rule did: its destination port is filled in, and `NeedKNI` is set exactly
when it forwards to the unspecified address, which it may only do from an interface with a
kni-name. -/
theorem checkPortForwarding_eq_ok {port opposite : ipPort} {fp fp' : forwardedPort}
    {g g' : Globals} (h : port.checkPortForwarding opposite fp g = .ok (fp', g')) :
    fp' = fp.withDefaultPort ∧
      g' = { g with NeedKNI := g.NeedKNI || fp.Destination.isAddrZero } ∧
      (fp.Destination.isAddrZero = true → port.KNIName ≠ "") := by
  unfold ipPort.checkPortForwarding at h
  by_cases hfam : fp.Destination.ipv6 ≠ fp.Protocol.ipv6
  · rw [if_pos hfam] at h; cases h
  rw [if_neg hfam] at h
  by_cases hz : fp.Destination.isAddrZero = true
  · rw [if_pos hz] at h
    by_cases hk : port.KNIName = ""
    · rw [if_pos hk] at h; cases h
    rw [if_neg hk] at h
    by_cases hp : fp.Destination.Port ≠ fp.Port
    · rw [if_pos hp] at h; cases h
    rw [if_neg hp] at h
    cases h
    exact ⟨by simp [forwardedPort.withDefaultPort_eq, hz], by simp [hz], fun _ ↦ hk⟩
  · rw [if_neg hz] at h
    by_cases ht : port.Type = .iPRIVATE
    · rw [if_pos ht] at h; cases h
    rw [if_neg ht] at h
    split at h
    · cases h
    cases h
    exact ⟨by simp [forwardedPort.withDefaultPort_eq, hz], by simp [hz], fun h ↦ absurd h hz⟩

/-! ## One interface, one pair -/

/-- One pass of the `pi` loop of `ReadConfig`, over the interface on side `t` of the pair. -/
def readPort (HostName : String) (pp : portPair) (t : interfaceType) (g : Globals) :
    Except GoFailure (portPair × Globals) :=
  let port := pp.port t
  if port.Subnet.addressAcquired = false ∧ HostName = "" then
    .error (.error ("DHCP option for port " ++ toString port.Index ++
      " requires that you set host-name configuration option"))
  else
    let g := if port.Subnet.addressAcquired = false then { g with NeedDHCP := true } else g
    let g := if port.KNIName ≠ "" then { g with NeedKNI := true } else g
    forRange (port.checkPortForwarding (pp.port t.opposite)) port.ForwardPorts g >>= fun (fps, g) ↦
      let port := { port with ForwardPorts := fps }
      let port := if port.DstMACAddress ≠ GoBytes.zero 6 then { port with staticArpMode := true }
        else port
      .ok (pp.setPort t port, g)

/-- The first statements of the pair loop of `ReadConfig`: each interface is told its side.
(They also set the `opposite` pointers, which the model reads off the pair.) -/
def portPair.setTypes (pp : portPair) : portPair :=
  { pp with PrivatePort := { pp.PrivatePort with «Type» := .iPRIVATE },
            PublicPort := { pp.PublicPort with «Type» := .iPUBLIC } }

/-- The body of the pair loop of `ReadConfig`: record the sides, check the VLAN settings, then
run the `pi` loop over the private and then the public interface. -/
def readPair (HostName : String) (pp : portPair) (g : Globals) :
    Except GoFailure (portPair × Globals) :=
  let pp := pp.setTypes
  if pp.PrivatePort.Vlan = 0 ∧ pp.PublicPort.Vlan ≠ 0 then
    .error (.error ("Private port with index " ++ toString pp.PrivatePort.Index ++
      " has zero vlan tag while public port with index " ++ toString pp.PublicPort.Index ++
      " has non-zero vlan tag. Transition between VLAN-enabled and VLAN-disabled networks is " ++
      "not supported yet."))
  else if pp.PrivatePort.Vlan ≠ 0 ∧ pp.PublicPort.Vlan = 0 then
    .error (.error ("Private port with index " ++ toString pp.PrivatePort.Index ++
      " has non-zero vlan tag while public port with index " ++ toString pp.PublicPort.Index ++
      " has zero vlan tag. Transition between VLAN-enabled and VLAN-disabled networks is " ++
      "not supported yet."))
  else if (pp.PrivatePort.Vlan ≠ 0 ∧ pp.PrivatePort.KNIName ≠ "") ∨
      (pp.PrivatePort.Vlan ≠ 0 ∧ pp.PrivatePort.KNIName ≠ "") then
    .error (.error "Using VLANs together with KNI is not supported yet.")
  else
    readPort HostName pp .iPRIVATE g >>= fun (pp, g) ↦ readPort HostName pp .iPUBLIC g

/-- `ReadConfig`, from the decoded `Natconfig` and the package variables `g` on.  Its two flags
are switched on by the arguments, never off. -/
def ReadConfig (Natconfig : Config) (setKniIP bringUpKniInterfaces : Bool) (g : Globals) :
    Except GoFailure (Config × Globals) :=
  let Natconfig := { Natconfig with
    setKniIP := Natconfig.setKniIP || setKniIP,
    bringUpKniInterfaces := Natconfig.bringUpKniInterfaces || bringUpKniInterfaces }
  forRange (readPair Natconfig.HostName) Natconfig.PortPairs g >>= fun (pps, g) ↦
    .ok ({ Natconfig with PortPairs := pps }, g)

/-- An interface as the `pi` loop leaves it: its rules' destination ports filled in, and static
ARP mode on if a destination MAC is given. -/
def ipPort.checked (port : ipPort) : ipPort :=
  { port with ForwardPorts := port.ForwardPorts.map forwardedPort.withDefaultPort,
              staticArpMode := if port.DstMACAddress ≠ GoBytes.zero 6 then true
                else port.staticArpMode }

/-- A pair as an accepting `ReadConfig` leaves it: the sides recorded, each interface
`checked`. -/
def portPair.configured (pp : portPair) : portPair :=
  { pp with PrivatePort := pp.setTypes.PrivatePort.checked,
            PublicPort := pp.setTypes.PublicPort.checked }

/-- What the `pi` loop accepts on an interface whose `Type` is its side. -/
theorem readPort_ok_iff (HostName : String) (pp : portPair) (t : interfaceType)
    (htype : (pp.port t).Type = t) (g : Globals) :
    (∃ r, readPort HostName pp t g = .ok r) ↔
      ((pp.port t).Subnet.addressAcquired = false → HostName ≠ "") ∧
        ∀ fp ∈ (pp.port t).ForwardPorts, ruleAccepted pp t fp := by
  have hsub : t = .iPUBLIC → (pp.port t.opposite).Subnet = pp.PrivatePort.Subnet ∧
      (pp.port t.opposite).Subnet6 = pp.PrivatePort.Subnet6 := by
    rintro rfl; exact ⟨rfl, rfl⟩
  have loop := @forRange_ok_iff _ _ _ ((pp.port t).checkPortForwarding (pp.port t.opposite)) _
    (pp.port t).ForwardPorts fun fp _ g ↦ checkPortForwarding_ok_iff htype hsub fp g
  unfold readPort
  by_cases hdhcp : (pp.port t).Subnet.addressAcquired = false ∧ HostName = ""
  · simp [hdhcp]
  · rw [if_neg hdhcp, exists_bind_eq_ok_iff fun ⟨_, _⟩ ↦ ⟨_, rfl⟩, loop]
    simp only [not_and] at hdhcp
    exact ⟨fun h ↦ ⟨hdhcp, h⟩, fun h ↦ h.2⟩

/-- What the `pi` loop does to the package variables on an interface: `NeedKNI` once it has a
kni-name, `NeedDHCP` once its subnet is `"dhcp"`. -/
def Globals.afterPort (g : Globals) (port : ipPort) : Globals :=
  ⟨g.NeedKNI || port.KNIName != "", g.NeedDHCP || !port.Subnet.addressAcquired⟩

theorem foldl_NeedKNI (rules : List forwardedPort) (g : Globals) :
    rules.foldl (fun g fp ↦ { g with NeedKNI := g.NeedKNI || fp.Destination.isAddrZero }) g =
      { g with NeedKNI := g.NeedKNI || rules.any (·.Destination.isAddrZero) } := by
  induction rules generalizing g with
  | nil => simp
  | cons fp rules ih => simp [ih, Bool.or_assoc]

/-- The `pi` loop changes nothing but the interface it is run on, and that one as
`ipPort.checked` says; it moves the package variables by `Globals.afterPort`, since the rules to
the unspecified address it accepts set `NeedKNI` only on an interface that has a kni-name, and
that one sets it anyway. -/
theorem readPort_eq_ok {HostName : String} {pp pp' : portPair} {t : interfaceType}
    {g g' : Globals} (h : readPort HostName pp t g = .ok (pp', g')) :
    pp' = pp.setPort t (pp.port t).checked ∧ g' = g.afterPort (pp.port t) := by
  unfold readPort at h
  dsimp only at h
  split at h
  · cases h
  obtain ⟨⟨fps, g₁⟩, hloop, h⟩ := bind_eq_ok_iff.1 h
  obtain ⟨rfl, rfl⟩ := Prod.mk.inj (Except.ok.inj h)
  constructor
  · rw [@forRange_eq_map _ _ _ _ forwardedPort.withDefaultPort
      (fun _ _ _ _ h ↦ (checkPortForwarding_eq_ok h).1) _ _ _ _ hloop]
    unfold ipPort.checked
    split <;> simp_all
  have hkni : (pp.port t).ForwardPorts.any (·.Destination.isAddrZero) = true →
      (pp.port t).KNIName ≠ "" := by
    rw [List.any_eq_true]
    rintro ⟨fp, hfp, hz⟩
    obtain ⟨_, ⟨_, _⟩, hok⟩ := forRange_ok_mem hloop fp hfp
    exact (checkPortForwarding_eq_ok hok).2.2 hz
  rw [forRange_state (fun _ _ _ _ h ↦ (checkPortForwarding_eq_ok h).2.1) hloop, foldl_NeedKNI]
  unfold Globals.afterPort
  by_cases hk : (pp.port t).KNIName = ""
  · have hany : (pp.port t).ForwardPorts.any (·.Destination.isAddrZero) = false :=
      Bool.eq_false_iff.2 fun h ↦ hkni h hk
    by_cases ha : (pp.port t).Subnet.addressAcquired <;> simp [hk, ha, hany]
  · by_cases ha : (pp.port t).Subnet.addressAcquired <;> simp [hk, ha]

/-- The spec's cross-checks on a pair: VLAN tags both zero or both non-zero; no interface with
both a VLAN tag and a kni-name; a host name whenever an interface's IPv4 subnet is `"dhcp"`. -/
def crossChecked (HostName : String) (pp : portPair) : Prop :=
  (pp.PrivatePort.Vlan = 0 ↔ pp.PublicPort.Vlan = 0) ∧
    (pp.PrivatePort.Vlan = 0 ∨ pp.PrivatePort.KNIName = "") ∧
    (pp.PublicPort.Vlan = 0 ∨ pp.PublicPort.KNIName = "") ∧
    (pp.PrivatePort.Subnet.addressAcquired = false → HostName ≠ "") ∧
    (pp.PublicPort.Subnet.addressAcquired = false → HostName ≠ "")

instance (HostName : String) (pp : portPair) : Decidable (crossChecked HostName pp) :=
  inferInstanceAs (Decidable ((pp.PrivatePort.Vlan = 0 ↔ pp.PublicPort.Vlan = 0) ∧
    (pp.PrivatePort.Vlan = 0 ∨ pp.PrivatePort.KNIName = "") ∧
    (pp.PublicPort.Vlan = 0 ∨ pp.PublicPort.KNIName = "") ∧
    (pp.PrivatePort.Subnet.addressAcquired = false → HostName ≠ "") ∧
    (pp.PublicPort.Subnet.addressAcquired = false → HostName ≠ "")))

/-- An accepted pair comes back `configured`, and moves the package variables by both of its
interfaces. -/
theorem readPair_eq_ok {HostName : String} {pp pp' : portPair} {g g' : Globals}
    (h : readPair HostName pp g = .ok (pp', g')) :
    pp' = pp.configured ∧ g' = (g.afterPort pp.PrivatePort).afterPort pp.PublicPort := by
  unfold readPair at h
  dsimp only at h
  split_ifs at h
  obtain ⟨⟨pp₁, g₁⟩, h₁, h₂⟩ := bind_eq_ok_iff.1 h
  obtain ⟨rfl, rfl⟩ := readPort_eq_ok h₁
  obtain ⟨rfl, rfl⟩ := readPort_eq_ok h₂
  exact ⟨rfl, rfl⟩

/-- What an accepted pair passed: the VLAN tests as the code makes them, and the host-name test
on both interfaces. -/
theorem readPair_ok_checks {HostName : String} {pp : portPair} {g : Globals}
    (h : ∃ r, readPair HostName pp g = .ok r) :
    (pp.PrivatePort.Vlan = 0 ↔ pp.PublicPort.Vlan = 0) ∧
      (pp.PrivatePort.Vlan = 0 ∨ pp.PrivatePort.KNIName = "") ∧
      (pp.PrivatePort.Subnet.addressAcquired = false → HostName ≠ "") ∧
      (pp.PublicPort.Subnet.addressAcquired = false → HostName ≠ "") := by
  obtain ⟨⟨pp', g'⟩, h⟩ := h
  unfold readPair at h
  dsimp only at h
  split_ifs at h with h₁ h₂ h₃
  obtain ⟨⟨pp₁, g₁⟩, hPriv, hPub⟩ := bind_eq_ok_iff.1 h
  have dPriv := ((readPort_ok_iff HostName pp.setTypes .iPRIVATE rfl g).1 ⟨_, hPriv⟩).1
  rw [(readPort_eq_ok hPriv).1] at hPub
  have dPub := ((readPort_ok_iff HostName
    (pp.setTypes.setPort .iPRIVATE pp.setTypes.PrivatePort.checked) .iPUBLIC rfl g₁).1 ⟨_, hPub⟩).1
  simp only [not_and, not_or, not_not] at h₁ h₂ h₃
  exact ⟨⟨h₁, fun h ↦ by_contra fun h' ↦ h₂ h' h⟩,
    by_contra fun h ↦ (not_or.1 h).2 (h₃.1 (not_or.1 h).1), dPriv, dPub⟩

/-- A pair that passes the cross-checks is accepted exactly when all its rules are. -/
theorem readPair_ok_iff {HostName : String} {pp : portPair} (hcross : crossChecked HostName pp)
    (g : Globals) :
    (∃ r, readPair HostName pp g = .ok r) ↔
      ∀ t, ∀ fp ∈ (pp.port t).ForwardPorts, ruleAccepted pp t fp := by
  obtain ⟨hvlan, hpriv, -, hdPriv, hdPub⟩ := hcross
  unfold readPair
  rw [if_neg fun h ↦ h.2 (hvlan.1 h.1), if_neg fun h ↦ h.1 (hvlan.2 h.2),
    if_neg (by rcases hpriv with h | h <;> simp [portPair.setTypes, h])]
  have okPriv := readPort_ok_iff HostName pp.setTypes .iPRIVATE rfl g
  have okPub := fun g₁ ↦ readPort_ok_iff HostName
    (pp.setTypes.setPort .iPRIVATE pp.setTypes.PrivatePort.checked) .iPUBLIC rfl g₁
  constructor
  · rintro ⟨r, h⟩ t
    obtain ⟨⟨pp₁, g₁⟩, hPriv, hPub⟩ := bind_eq_ok_iff.1 h
    rw [(readPort_eq_ok hPriv).1] at hPub
    cases t
    exacts [((okPub g₁).1 ⟨_, hPub⟩).2, (okPriv.1 ⟨_, hPriv⟩).2]
  · intro hall
    obtain ⟨⟨pp₁, g₁⟩, hPriv⟩ := okPriv.2 ⟨hdPriv, hall .iPRIVATE⟩
    obtain ⟨r, hPub⟩ := (okPub g₁).2 ⟨hdPub, hall .iPUBLIC⟩
    obtain rfl := (readPort_eq_ok hPriv).1
    exact ⟨r, bind_eq_ok_iff.2 ⟨_, hPriv, hPub⟩⟩

/-! ## The whole configuration -/

/-- An accepted configuration comes back with every pair `configured`. -/
theorem ReadConfig_eq_ok {Natconfig c : Config} {setKniIP bringUpKniInterfaces : Bool}
    {g g' : Globals} (h : ReadConfig Natconfig setKniIP bringUpKniInterfaces g = .ok (c, g')) :
    c.PortPairs = Natconfig.PortPairs.map portPair.configured := by
  obtain ⟨⟨pps, g₁⟩, hloop, h⟩ := bind_eq_ok_iff.1 h
  obtain ⟨rfl, -⟩ := Prod.mk.inj (Except.ok.inj h)
  exact @forRange_eq_map _ _ _ _ portPair.configured (fun _ _ _ _ h ↦ (readPair_eq_ok h).1) _ _ _ _ hloop

/-- Every pair `ReadConfig` returns has its sides recorded. -/
theorem ReadConfig_eq_ok_types {Natconfig c : Config} {setKniIP bringUpKniInterfaces : Bool}
    {g g' : Globals} (h : ReadConfig Natconfig setKniIP bringUpKniInterfaces g = .ok (c, g')) :
    ∀ pp ∈ c.PortPairs, ∀ t, (pp.port t).Type = t := by
  rw [ReadConfig_eq_ok h]
  rintro _ hpp t
  obtain ⟨pp, -, rfl⟩ := List.mem_map.1 hpp
  cases t <;> rfl

/-- **`ReadConfig` accepts exactly the rules the spec allows.**  For every configuration whose
pairs pass the cross-checks, `ReadConfig` returns `nil` exactly when every forwarding rule of
every interface satisfies `ruleAccepted`; and what it accepts, it returns with every pair
`configured`: in particular every rule with a real destination and no port has been given the
forwarded port, and every other rule is as written. -/
theorem ReadConfig_ok_iff (Natconfig : Config) (setKniIP bringUpKniInterfaces : Bool)
    (g : Globals) (hcross : ∀ pp ∈ Natconfig.PortPairs, crossChecked Natconfig.HostName pp) :
    ((∃ r, ReadConfig Natconfig setKniIP bringUpKniInterfaces g = .ok r) ↔
      ∀ pp ∈ Natconfig.PortPairs, ∀ t, ∀ fp ∈ (pp.port t).ForwardPorts, ruleAccepted pp t fp) ∧
    ∀ c g', ReadConfig Natconfig setKniIP bringUpKniInterfaces g = .ok (c, g') →
      c.PortPairs = Natconfig.PortPairs.map portPair.configured := by
  refine ⟨?_, fun c g' h ↦ ReadConfig_eq_ok h⟩
  unfold ReadConfig
  rw [exists_bind_eq_ok_iff fun ⟨_, _⟩ ↦ ⟨_, rfl⟩]
  exact forRange_ok_iff (fun pp hpp g ↦ readPair_ok_iff (hcross pp hpp) g) g

/-- A pair, private `10.0.0.0/24`, public `192.0.2.1`, and one public rule: TCP port 8080 to
`10.0.0.5:80`.  Addresses are packed as `convertIPv4` packs them. -/
def forwardingPair : portPair :=
  ⟨{ ipPort.zero with
      Index := 0, Subnet := ⟨BytesToIPv4 0 0 0 10, BytesToIPv4 0 255 255 255, true⟩ },
    { ipPort.zero with
      Index := 1, Subnet := ⟨BytesToIPv4 1 2 0 192, 0xffffffff, true⟩,
      ForwardPorts := [⟨8080, { hostPort.zero with Addr4 := BytesToIPv4 5 0 0 10, Port := 80 },
        ⟨TCPNumber, false⟩⟩] }, 0⟩

/-- `forwardingPair` alone. -/
def forwardingConfig : Config where
  HostName := ""
  PortPairs := [forwardingPair]
  setKniIP := false
  bringUpKniInterfaces := false

theorem ReadConfig_ok_iff_forwardingConfig :
    ((∃ r, ReadConfig forwardingConfig false false ⟨false, false⟩ = .ok r) ↔
      ∀ pp ∈ forwardingConfig.PortPairs, ∀ t, ∀ fp ∈ (pp.port t).ForwardPorts,
        ruleAccepted pp t fp) ∧
    ∀ c g', ReadConfig forwardingConfig false false ⟨false, false⟩ = .ok (c, g') →
      c.PortPairs = forwardingConfig.PortPairs.map portPair.configured :=
  ReadConfig_ok_iff forwardingConfig false false ⟨false, false⟩ (by decide)

/-- **What an accepted configuration passed.**  Every pair of a configuration `ReadConfig`
accepts has its VLAN tags both zero or both non-zero, no VLAN tag together with a kni-name on
its private interface, and a host name if either interface's subnet is `"dhcp"`. -/
theorem ReadConfig_ok_pairChecks {Natconfig : Config} {setKniIP bringUpKniInterfaces : Bool}
    {g : Globals} (h : ∃ r, ReadConfig Natconfig setKniIP bringUpKniInterfaces g = .ok r)
    {pp : portPair} (hpp : pp ∈ Natconfig.PortPairs) :
    (pp.PrivatePort.Vlan = 0 ↔ pp.PublicPort.Vlan = 0) ∧
      (pp.PrivatePort.Vlan = 0 ∨ pp.PrivatePort.KNIName = "") ∧
      (pp.PrivatePort.Subnet.addressAcquired = false → Natconfig.HostName ≠ "") ∧
      (pp.PublicPort.Subnet.addressAcquired = false → Natconfig.HostName ≠ "") := by
  obtain ⟨r, h⟩ := h
  obtain ⟨⟨pps, g₁⟩, hloop, -⟩ := bind_eq_ok_iff.1 h
  obtain ⟨s, r, hr⟩ := forRange_ok_mem hloop pp hpp
  exact readPair_ok_checks ⟨r, hr⟩

theorem ReadConfig_ok_pairChecks_forwardingPair :
    (forwardingPair.PrivatePort.Vlan = 0 ↔ forwardingPair.PublicPort.Vlan = 0) ∧
      (forwardingPair.PrivatePort.Vlan = 0 ∨ forwardingPair.PrivatePort.KNIName = "") ∧
      (forwardingPair.PrivatePort.Subnet.addressAcquired = false →
        forwardingConfig.HostName ≠ "") ∧
      (forwardingPair.PublicPort.Subnet.addressAcquired = false →
        forwardingConfig.HostName ≠ "") :=
  @ReadConfig_ok_pairChecks forwardingConfig false false ⟨false, false⟩ ⟨_, rfl⟩ _
    (List.mem_singleton_self _)

/-- A pair whose public interface has both a VLAN tag and a kni-name. -/
def publicVlanKniConfig : Config where
  HostName := "nat"
  PortPairs := [⟨{ ipPort.zero with Index := 0, Vlan := 10 },
    { ipPort.zero with Index := 1, Vlan := 10, KNIName := "kni0" }, 0⟩]
  setKniIP := false
  bringUpKniInterfaces := false

/-- `ReadConfig` accepts a public interface with both a VLAN tag and a kni-name. -/
theorem ReadConfig_accepts_public_vlan_with_kni :
    (∃ r, ReadConfig publicVlanKniConfig false false ⟨false, false⟩ = .ok r) ∧
      ¬∀ pp ∈ publicVlanKniConfig.PortPairs, crossChecked publicVlanKniConfig.HostName pp :=
  ⟨⟨_, rfl⟩, by decide⟩

/-! ## The package variables -/

theorem foldl_afterPort (pps : List portPair) (g : Globals) :
    pps.foldl (fun g pp ↦ (g.afterPort pp.PrivatePort).afterPort pp.PublicPort) g =
      ⟨g.NeedKNI || pps.any (fun pp ↦ pp.PrivatePort.KNIName != "" || pp.PublicPort.KNIName != ""),
        g.NeedDHCP || pps.any (fun pp ↦
          !pp.PrivatePort.Subnet.addressAcquired || !pp.PublicPort.Subnet.addressAcquired)⟩ := by
  induction pps generalizing g with
  | nil => simp
  | cons pp pps ih =>
    rw [List.foldl_cons, ih]
    simp [Globals.afterPort, Bool.or_assoc]

/-- **Everything `ReadConfig` returns.**  On acceptance the configuration comes back with its two
flags switched on by the arguments, every pair `configured`, and nothing else changed; and the
package variables come back with `NeedKNI` set if some interface has a kni-name and `NeedDHCP`
set if some interface's subnet is `"dhcp"`, and otherwise as they were. -/
theorem ReadConfig_globals {Natconfig c : Config} {setKniIP bringUpKniInterfaces : Bool}
    {g g' : Globals} (h : ReadConfig Natconfig setKniIP bringUpKniInterfaces g = .ok (c, g')) :
    c = { Natconfig with
      setKniIP := Natconfig.setKniIP || setKniIP,
      bringUpKniInterfaces := Natconfig.bringUpKniInterfaces || bringUpKniInterfaces,
      PortPairs := Natconfig.PortPairs.map portPair.configured } ∧
    g' = ⟨g.NeedKNI || Natconfig.PortPairs.any (fun pp ↦
            pp.PrivatePort.KNIName != "" || pp.PublicPort.KNIName != ""),
          g.NeedDHCP || Natconfig.PortPairs.any (fun pp ↦
            !pp.PrivatePort.Subnet.addressAcquired || !pp.PublicPort.Subnet.addressAcquired)⟩ := by
  obtain ⟨⟨pps, g₁⟩, hloop, h'⟩ := bind_eq_ok_iff.1 h
  obtain ⟨rfl, rfl⟩ := Prod.mk.inj (Except.ok.inj h')
  refine ⟨by rw [← ReadConfig_eq_ok h], ?_⟩
  rw [forRange_state (fun _ _ _ _ h ↦ (readPair_eq_ok h).2) hloop, foldl_afterPort]

theorem ReadConfig_globals_publicVlanKniConfig :
    ∃ c g', ReadConfig publicVlanKniConfig false false ⟨false, false⟩ = .ok (c, g') ∧
      c = { publicVlanKniConfig with
        setKniIP := publicVlanKniConfig.setKniIP || false,
        bringUpKniInterfaces := publicVlanKniConfig.bringUpKniInterfaces || false,
        PortPairs := publicVlanKniConfig.PortPairs.map portPair.configured } ∧
      g' = ⟨false || publicVlanKniConfig.PortPairs.any (fun pp ↦
              pp.PrivatePort.KNIName != "" || pp.PublicPort.KNIName != ""),
            false || publicVlanKniConfig.PortPairs.any (fun pp ↦
              !pp.PrivatePort.Subnet.addressAcquired || !pp.PublicPort.Subnet.addressAcquired)⟩ :=
  let ⟨⟨c, g'⟩, hread⟩ : ∃ r, ReadConfig publicVlanKniConfig false false ⟨false, false⟩ = .ok r :=
    ⟨_, rfl⟩
  ⟨c, g', hread, ReadConfig_globals hread⟩

/-! ## Finding an interface by its index -/

/-- The loop of `Config.getPortAndPairByID`, from the pair with index `i` on.  The pointers Go
returns are modelled by the place they point to: the index of the pair in `PortPairs`, and the
side of the interface in it. -/
def getPortAndPairByIDLoop (portId : UInt32) : Nat → List portPair → Option (Nat × interfaceType)
  | _, [] => none
  | i, pp :: pps =>
    if pp.PublicPort.Index.toUInt32 = portId then some (i, .iPUBLIC)
    else if pp.PrivatePort.Index.toUInt32 = portId then some (i, .iPRIVATE)
    else getPortAndPairByIDLoop portId (i + 1) pps

/-- `Config.getPortAndPairByID`; `none` is Go's `(nil, nil)`. -/
def Config.getPortAndPairByID (c : Config) (portId : UInt32) : Option (Nat × interfaceType) :=
  getPortAndPairByIDLoop portId 0 c.PortPairs

theorem getPortAndPairByIDLoop_eq_none (portId : UInt32) (i : Nat) (pps : List portPair) :
    getPortAndPairByIDLoop portId i pps = none ↔
      ∀ pp ∈ pps, ∀ t, (pp.port t).Index.toUInt32 ≠ portId := by
  induction pps generalizing i with
  | nil => simp [getPortAndPairByIDLoop]
  | cons pp pps ih =>
    have sides : (∀ t, (pp.port t).Index.toUInt32 ≠ portId) ↔
        pp.PublicPort.Index.toUInt32 ≠ portId ∧ pp.PrivatePort.Index.toUInt32 ≠ portId :=
      ⟨fun h ↦ ⟨h .iPUBLIC, h .iPRIVATE⟩, fun h t ↦ by cases t; exacts [h.1, h.2]⟩
    rw [List.forall_mem_cons, sides, getPortAndPairByIDLoop]
    split_ifs with hpub hpriv
    · simp [hpub]
    · simp [hpriv]
    · rw [ih]; simp [hpub, hpriv]

/-- The loop from pair `i` on returns no index below `i`. -/
theorem le_of_getPortAndPairByIDLoop_eq_some {portId : UInt32} {i j : Nat} {pps : List portPair}
    {t : interfaceType} (h : getPortAndPairByIDLoop portId i pps = some (j, t)) : i ≤ j := by
  induction pps generalizing i with
  | nil => cases h
  | cons pp pps ih =>
    rw [getPortAndPairByIDLoop] at h
    split_ifs at h
    · cases h; exact le_rfl
    · cases h; exact le_rfl
    · exact Nat.le_of_succ_le (ih h)

theorem getPortAndPairByIDLoop_eq_some (portId : UInt32) (i : Nat) (pps : List portPair)
    (k : Nat) (t : interfaceType) :
    getPortAndPairByIDLoop portId i pps = some (i + k, t) ↔
      ∃ pp, pps[k]? = some pp ∧
        (∀ pp' ∈ pps.take k, ∀ t', (pp'.port t').Index.toUInt32 ≠ portId) ∧
        t = (if pp.PublicPort.Index.toUInt32 = portId then .iPUBLIC else .iPRIVATE) ∧
        (pp.port t).Index.toUInt32 = portId := by
  induction pps generalizing i k with
  | nil => simp [getPortAndPairByIDLoop]
  | cons pp pps ih =>
    have none_here : (∀ t', (pp.port t').Index.toUInt32 ≠ portId) ↔
        pp.PublicPort.Index.toUInt32 ≠ portId ∧ pp.PrivatePort.Index.toUInt32 ≠ portId :=
      ⟨fun h ↦ ⟨h .iPUBLIC, h .iPRIVATE⟩, fun h t ↦ by cases t; exacts [h.1, h.2]⟩
    rw [getPortAndPairByIDLoop]
    cases k with
    | zero =>
      simp only [Nat.add_zero, List.getElem?_cons_zero, Option.some.injEq, exists_eq_left',
        List.take_zero, List.not_mem_nil, false_implies, implies_true, true_and]
      split_ifs with hpub hpriv
      · simp only [Option.some.injEq, Prod.mk.injEq, true_and]
        exact ⟨fun h ↦ ⟨h.symm, h ▸ hpub⟩, fun h ↦ h.1.symm⟩
      · simp only [Option.some.injEq, Prod.mk.injEq, true_and]
        exact ⟨fun h ↦ ⟨h.symm, h ▸ hpriv⟩, fun h ↦ h.1.symm⟩
      · exact ⟨fun h ↦ absurd (le_of_getPortAndPairByIDLoop_eq_some h) (by omega),
          fun ⟨ht, hi⟩ ↦ absurd (by subst ht; exact hi) hpriv⟩
    | succ k =>
      simp only [List.getElem?_cons_succ, List.take_succ_cons, List.forall_mem_cons, none_here]
      split_ifs with hpub hpriv
      · simp only [Option.some.injEq, Prod.mk.injEq]
        exact ⟨fun h ↦ absurd h.1 (by omega), fun ⟨_, _, ⟨⟨h, _⟩, _⟩, _⟩ ↦ absurd hpub h⟩
      · simp only [Option.some.injEq, Prod.mk.injEq]
        exact ⟨fun h ↦ absurd h.1 (by omega), fun ⟨_, _, ⟨⟨_, h⟩, _⟩, _⟩ ↦ absurd hpriv h⟩
      · rw [show i + (k + 1) = i + 1 + k by omega, ih]
        simp only [hpub, hpriv, ne_eq, not_false_eq_true, and_self, true_and]

/-- **The lookup finds the first pair with an interface of that index, public side first.**
`getPortAndPairByID` returns `(nil, nil)` exactly when no interface has index `portId`.
Otherwise it points to pair `k` and its interface on side `t` exactly when pair `k` is the first
pair with an interface of that index, and `t` is the public side if the public interface's index
matches and the private side if not. -/
theorem getPortAndPairByID_spec (c : Config) (portId : UInt32) :
    (c.getPortAndPairByID portId = none ↔
      ∀ pp ∈ c.PortPairs, ∀ t, (pp.port t).Index.toUInt32 ≠ portId) ∧
    ∀ k t, c.getPortAndPairByID portId = some (k, t) ↔
      ∃ pp, c.PortPairs[k]? = some pp ∧
        (∀ pp' ∈ c.PortPairs.take k, ∀ t', (pp'.port t').Index.toUInt32 ≠ portId) ∧
        t = (if pp.PublicPort.Index.toUInt32 = portId then .iPUBLIC else .iPRIVATE) ∧
        (pp.port t).Index.toUInt32 = portId := by
  refine ⟨getPortAndPairByIDLoop_eq_none portId 0 c.PortPairs, fun k t ↦ ?_⟩
  have h := getPortAndPairByIDLoop_eq_some portId 0 c.PortPairs k t
  rwa [Nat.zero_add] at h

end NffNat
