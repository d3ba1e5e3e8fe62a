import NffNat.Go.Flow
import NffNat.Config.InitFlows

/-!
# The packet pipeline of every pair

After a pair's state, `InitFlows` builds the pair's part of the nff-go flow graph.  Each
interface gets a receiver, and a splitter that runs the interface's translation function with
the pair's index as context.  The splitter has an output for what the translation drops
(`DirDROP`), one for what it translates (`DirSEND`) and, if the interface has a KNI device, one
for what goes to the device (`DirKNI`).  The dropped packets are stopped, the translated ones
sent out of the other interface, merged with what that interface's KNI device sends.

This file models that half of the loop (`sideFlows`, `mergeKNI`, `initPairFlows`), and the whole
loop with both halves (`InitFlowsGraph`).

## What is here

* `initPairFlows_spec` — the one spec lemma of a pair's graph: it always gets built, it reads
  exactly the flows it makes, and its sources go where `pairDesign` says.
* `InitFlowsGraph_ok_iff` — the graph half never fails and leaves the pairs' state alone:
  both halves together, `InitFlowsGraph`, succeed exactly when the state half `InitFlows` does,
  with the same configuration.
* `InitFlowsGraph_flows_closed` — in the finished graph every flow is read by exactly one node
  and none is left open, so the library accepts it.
* `InitFlowsGraph_paths` — where the finished graph sends packets is, source by source, the
  design of every pair in order.
* `InitFlowsGraph_knis` — the KNI devices are those of the interfaces with a kni-name, and
  `ReadConfig` asks for KNI support exactly when there is one.

That the graph stays valid is not checked on the finished graph: it follows call by call from
the lemmas of `NffNat.Go.Flow` on each flow function.
-/

set_option autoImplicit false

namespace NffNat

/-! ## The graph half of `InitFlows` -/

/-- The two translation functions of the package, which the splitters run.  They are defined in
another file of the repository; here only which one a splitter runs matters. -/
inductive TranslationHandler
  | PublicToPrivateTranslation
  | PrivateToPublicTranslation
deriving DecidableEq, Repr

/-- `pairIndex`: the context a translation function is handed, the index of its pair in
`Natconfig.PortPairs`. -/
structure pairIndex where
  index : Nat
deriving DecidableEq, Repr

/-- `pairIndex.Copy`: the library copies the context for every instance of the splitter. -/
def pairIndex.Copy (pi : pairIndex) : pairIndex := ⟨pi.index⟩

/-- Every copy of a context names the same pair. -/
@[simp] theorem pairIndex.Copy_eq (pi : pairIndex) : pi.Copy = pi := rfl

/-- `DirDROP`, `DirSEND` and `DirKNI`: the outputs of a translation splitter, numbered as the
trace types `DUMP_DROP`, `DUMP_TRANSLATE` and `DUMP_KNI` of the `updatecfg` package. -/
def DirDROP : Nat := 0

@[inherit_doc DirDROP] def DirSEND : Nat := 1

@[inherit_doc DirDROP] def DirKNI : Nat := 2

/-- The flow graph of the NAT: splitters run translation functions, with pair indices as
contexts. -/
abbrev PairGraph := FlowGraph TranslationHandler pairIndex

/-- One interface's part of the pair's graph, the same code for the public and the private
side: a receiver on the interface, a splitter running `handler`, a stopper on its `DirDROP`
output and, for an interface with a KNI device, the device, fed by the `DirKNI` output, and a
receiver on it.  Returns the splitter's outputs and the flow of the KNI receiver, if any. -/
def sideFlows (context : pairIndex) (handler : TranslationHandler) (port : ipPort)
    (g : PairGraph) : Except GoFailure ((List Nat × Option Nat) × PairGraph) := do
  let (fromPort, g) ← g.SetReceiver port.Index
  let outs := if port.KNIName ≠ "" then 3 else 2
  let (translationOut, g) ← g.SetSplitter fromPort handler outs context
  let g ← g.SetStopper (← GoPanic.lift (sliceGet translationOut DirDROP))
  if port.KNIName ≠ "" then
    let (kni, g) := g.CreateKniDevice port.Index port.KNIName
    let g ← g.SetSenderKNI (← GoPanic.lift (sliceGet translationOut DirKNI)) kni
    let (fromKNI, g) ← g.SetReceiverKNI kni
    pure ((translationOut, some fromKNI), g)
  else pure ((translationOut, none), g)

/-- The traffic for one interface: what its KNI device sends merged with what the other side
translated, or the latter alone. -/
def mergeKNI (fromKNI : Option Nat) (translated : Nat) (g : PairGraph) :
    Except GoFailure (Nat × PairGraph) :=
  match fromKNI with
  | some f => g.SetMerger [f, translated]
  | none => .ok (translated, g)

/-- The graph half of the loop body of `InitFlows`, for pair `i`: both sides, the merges, and
the senders. -/
def initPairFlows (i : Nat) (pp : portPair) (g : PairGraph) : Except GoFailure PairGraph := do
  let context : pairIndex := ⟨i⟩
  let ((pubTranslationOut, fromPubKNI), g) ←
    sideFlows context .PublicToPrivateTranslation pp.PublicPort g
  let ((privTranslationOut, fromPrivKNI), g) ←
    sideFlows context .PrivateToPublicTranslation pp.PrivatePort g
  let (toPub, g) ← mergeKNI fromPubKNI (← GoPanic.lift (sliceGet privTranslationOut DirSEND)) g
  let (toPriv, g) ← mergeKNI fromPrivKNI (← GoPanic.lift (sliceGet pubTranslationOut DirSEND)) g
  let g ← g.SetSender toPriv pp.PrivatePort.Index
  g.SetSender toPub pp.PublicPort.Index

/-- The loop of `InitFlows` from the pair with index `i` on: each pair's state, then its part of
the graph. -/
def initFlowsLoop (portEnd : Nat) (portStart : Int) (now : Nat → Nat → Time) :
    Nat → List portPair → PairGraph → Except GoFailure (List portPair × PairGraph)
  | _, [], g => .ok ([], g)
  | i, pp :: pps, g =>
    GoPanic.lift (initPair portEnd portStart (now i) pp) >>= fun pp ↦
    initPairFlows i pp g >>= fun g ↦
    initFlowsLoop portEnd portStart now (i + 1) pps g >>= fun (pps, g) ↦
    .ok (pp :: pps, g)

/-- `InitFlows` in full, from the empty graph: the pairs' state and the flow graph. -/
def InitFlowsGraph (portEnd : Nat) (portStart : Int) (now : Nat → Nat → Time)
    (Natconfig : Config) :
    Except GoFailure (Config × PairGraph) :=
  initFlowsLoop portEnd portStart now 0 Natconfig.PortPairs .empty >>= fun (pps, g) ↦
    .ok ({ Natconfig with PortPairs := pps }, g)

/-! ## The design -/

/-- Where the design sends the packets of one side of pair `i`, in the order of the splitter's
outputs `DirDROP`, `DirSEND`, `DirKNI`: packets arriving at the interface go through its
translation function with context `i`, which drops them, sends them out of the other
interface, or, on an interface with a KNI device, hands them to the device; and what the device
sends goes out of its interface. -/
def sideDesign (i : Nat) (handler : TranslationHandler) (port opposite : ipPort) :
    List (FlowSource × FlowPath TranslationHandler pairIndex) :=
  if port.KNIName ≠ "" then
    [(.port port.Index, .split handler ⟨i⟩
        [.stopped, .sent opposite.Index, .toKni port.Index port.KNIName]),
      (.kni port.Index port.KNIName, .sent port.Index)]
  else [(.port port.Index, .split handler ⟨i⟩ [.stopped, .sent opposite.Index])]

/-- The design of pair `i`: its public side, then its private side. -/
def pairDesign (i : Nat) (pp : portPair) : List (FlowSource × FlowPath TranslationHandler pairIndex) :=
  sideDesign i .PublicToPrivateTranslation pp.PublicPort pp.PrivatePort ++
    sideDesign i .PrivateToPublicTranslation pp.PrivatePort pp.PublicPort

/-- The KNI devices of the design of pair `pp`: one for each of its interfaces with a kni-name,
the public one first, on the interface's port and under its name. -/
def pairKnis (pp : portPair) : List (UInt16 × String) :=
  [pp.PublicPort, pp.PrivatePort].filterMap fun port ↦
    if port.KNIName ≠ "" then some (port.Index, port.KNIName) else none

/-! ## One pair -/

section side

variable (context : pairIndex) (handler : TranslationHandler) {port : ipPort} (g : PairGraph)

/-- A side without a KNI device: a receiver, a splitter with two outputs, a stopper on the
first; the second, `DirSEND`, is left open for the other side's sender. -/
theorem sideFlows_of_KNIName_eq (hk : port.KNIName = "") :
    sideFlows context handler port g =
      .ok (([g.flowCount + 1, g.flowCount + 2], none), { g with
        flowCount := g.flowCount + 3
        openFlows := (g.flowCount + 2) :: g.openFlows
        nodes := g.nodes ++ [.receiver port.Index g.flowCount,
          .splitter g.flowCount handler [g.flowCount + 1, g.flowCount + 2] context,
          .stopper (g.flowCount + 1)] }) := by
  simp [sideFlows, hk, FlowGraph.SetReceiver_eq, FlowGraph.SetSplitter_eq,
    FlowGraph.SetStopper_eq, List.range'_succ, sliceGet, GoPanic.lift, DirDROP, ok_bind,
    Nat.add_assoc]

/-- A side with a KNI device: the splitter has a third output, which feeds the device, and the
device's receiver makes one more flow; the `DirSEND` output and that flow are left open. -/
theorem sideFlows_of_KNIName_ne (hk : port.KNIName ≠ "") :
    sideFlows context handler port g =
      .ok (([g.flowCount + 1, g.flowCount + 2, g.flowCount + 3], some (g.flowCount + 4)), { g with
        flowCount := g.flowCount + 5
        openFlows := (g.flowCount + 4) :: (g.flowCount + 2) :: g.openFlows
        nodes := g.nodes ++ [.receiver port.Index g.flowCount,
          .splitter g.flowCount handler [g.flowCount + 1, g.flowCount + 2, g.flowCount + 3] context,
          .stopper (g.flowCount + 1), .senderKNI (g.flowCount + 3) g.knis.length,
          .receiverKNI g.knis.length (g.flowCount + 4)]
        knis := g.knis ++ [(port.Index, port.KNIName)] }) := by
  simp [sideFlows, hk, FlowGraph.SetReceiver_eq, FlowGraph.SetSplitter_eq,
    FlowGraph.SetStopper_eq, FlowGraph.CreateKniDevice, FlowGraph.SetSenderKNI_eq,
    FlowGraph.SetReceiverKNI_eq, List.range'_succ, sliceGet, GoPanic.lift, DirDROP, DirKNI, ok_bind,
    Nat.add_assoc]

end side

/-- The graph half reads nothing of an interface but its index and its KNI name. -/
theorem initPairFlows_congr {i : Nat} {pp pp' : portPair}
    (h : ∀ t, (pp'.port t).withoutState = (pp.port t).withoutState) (g : PairGraph) :
    initPairFlows i pp' g = initPairFlows i pp g := by
  have hpub : pp'.PublicPort.withoutState = pp.PublicPort.withoutState := h .iPUBLIC
  have hpriv : pp'.PrivatePort.withoutState = pp.PrivatePort.withoutState := h .iPRIVATE
  calc initPairFlows i pp' g
    _ = initPairFlows i ⟨pp'.PrivatePort.withoutState, pp'.PublicPort.withoutState, 0⟩ g := rfl
    _ = initPairFlows i ⟨pp.PrivatePort.withoutState, pp.PublicPort.withoutState, 0⟩ g := by
        rw [hpub, hpriv]
    _ = initPairFlows i pp g := rfl

/-! ## The graph stays valid -/

section valid

variable {g g' : PairGraph}

theorem FlowGraph.Valid.sideFlows (hv : g.Valid) {context : pairIndex}
    {handler : TranslationHandler} {port : ipPort} {r : List Nat × Option Nat}
    (h : sideFlows context handler port g = .ok (r, g')) : g'.Valid := by
  obtain ⟨⟨_, g₁⟩, h₁, h⟩ := bind_eq_ok_iff.1 h
  obtain ⟨⟨outs, g₂⟩, h₂, h⟩ := bind_eq_ok_iff.1 h
  obtain ⟨_, -, h⟩ := bind_eq_ok_iff.1 h
  obtain ⟨g₃, h₃, h⟩ := bind_eq_ok_iff.1 h
  have hv₃ := ((hv.SetReceiver h₁).SetSplitter h₂).SetStopper h₃
  split_ifs at h
  · obtain ⟨_, -, h⟩ := bind_eq_ok_iff.1 h
    obtain ⟨g₄, h₄, h⟩ := bind_eq_ok_iff.1 h
    obtain ⟨⟨_, g₅⟩, h₅, h⟩ := bind_eq_ok_iff.1 h
    cases h
    have hk : g₃.knis.length < (g₃.CreateKniDevice port.Index port.KNIName).2.knis.length := by
      simp [FlowGraph.CreateKniDevice]
    exact ((hv₃.CreateKniDevice _ _).SetSenderKNI hk h₄).SetReceiverKNI
      (by rw [FlowGraph.addNode_knis h₄]; exact hk) h₅
  · cases h
    exact hv₃

theorem FlowGraph.Valid.mergeKNI (hv : g.Valid) {fromKNI : Option Nat} {translated f : Nat}
    (h : mergeKNI fromKNI translated g = .ok (f, g')) : g'.Valid := by
  cases fromKNI with
  | some _ => exact hv.SetMerger h
  | none => cases h; exact hv

theorem FlowGraph.Valid.initPairFlows (hv : g.Valid) {i : Nat} {pp : portPair}
    (h : initPairFlows i pp g = .ok g') : g'.Valid := by
  obtain ⟨⟨⟨_, _⟩, g₁⟩, h₁, h⟩ := bind_eq_ok_iff.1 h
  obtain ⟨⟨⟨_, _⟩, g₂⟩, h₂, h⟩ := bind_eq_ok_iff.1 h
  obtain ⟨_, -, h⟩ := bind_eq_ok_iff.1 h
  obtain ⟨⟨_, g₃⟩, h₃, h⟩ := bind_eq_ok_iff.1 h
  obtain ⟨_, -, h⟩ := bind_eq_ok_iff.1 h
  obtain ⟨⟨_, g₄⟩, h₄, h⟩ := bind_eq_ok_iff.1 h
  obtain ⟨g₅, h₅, h⟩ := bind_eq_ok_iff.1 h
  exact (((((hv.sideFlows h₁).sideFlows h₂).mergeKNI h₃).mergeKNI h₄).SetSender h₅).SetSender h

end valid

/-- **The spec lemma of a pair's graph.**  On a valid graph, the graph half of a pair always
succeeds, keeps the graph valid and its open flows as they were (the pair reads exactly the
flows it makes), and adds as sources exactly the pair's design. -/
theorem initPairFlows_spec {g : PairGraph} (hv : g.Valid) (i : Nat) (pp : portPair) :
    ∃ g', initPairFlows i pp g = .ok g' ∧ g'.Valid ∧ g'.openFlows = g.openFlows ∧
      g'.knis = g.knis ++ pairKnis pp ∧ g'.paths = g.paths ++ pairDesign i pp := by
  suffices ∃ g', initPairFlows i pp g = .ok g' ∧ g'.openFlows = g.openFlows ∧
      g'.knis = g.knis ++ pairKnis pp ∧ g'.paths = g.paths ++ pairDesign i pp from
    let ⟨g', h, hopen, hknis, hpaths⟩ := this
    ⟨g', h, hv.initPairFlows h, hopen, hknis, hpaths⟩
  rcases eq_or_ne pp.PublicPort.KNIName "" with h1 | h1 <;>
    rcases eq_or_ne pp.PrivatePort.KNIName "" with h2 | h2 <;>
  · simp [initPairFlows, h1, h2, sideFlows_of_KNIName_eq, sideFlows_of_KNIName_ne, mergeKNI,
      FlowGraph.SetMerger_eq, FlowGraph.SetSender_eq, sliceGet, GoPanic.lift, DirSEND, ok_bind,
      pairKnis, Nat.add_assoc]
    refine (hv.paths_append rfl ?_ fun f hf ↦ ?_).trans ?_
    · simp
    · simp [FlowNode.inputs] at hf
      omega
    · simp [sourcePaths, pathFrom, FlowNode.path, FlowNode.source, FlowNode.inputs, pairDesign,
        sideDesign, h1, h2, List.getElem_append_right]

/-! ## Every pair -/

section loop

variable {portEnd : Nat} {portStart : Int} {now : Nat → Nat → Time}

/-- The loop fails exactly where the state half fails: the graph half never does. -/
theorem initFlowsLoop_ok_iff {pps pps' : List portPair} {i : Nat} {g : PairGraph} (hv : g.Valid) :
    (∃ g', initFlowsLoop portEnd portStart now i pps g = .ok (pps', g')) ↔
      (pps.enumFrom i).mapM (fun p ↦ initPair portEnd portStart (now p.1) p.2) = .ok pps' := by
  induction pps generalizing pps' i g with
  | nil => exact ⟨fun ⟨_, h⟩ ↦ by cases h; rfl, fun h ↦ by cases h; exact ⟨g, rfl⟩⟩
  | cons pp pps ih =>
    rw [List.enumFrom_cons, List.mapM_cons]
    constructor
    · rintro ⟨g', h⟩
      obtain ⟨pp₁, hpp, h⟩ := bind_eq_ok_iff.1 h
      obtain ⟨g₁, hg₁, h⟩ := bind_eq_ok_iff.1 h
      obtain ⟨⟨pps₁, g₂⟩, hrest, h⟩ := bind_eq_ok_iff.1 h
      cases h
      rw [GoPanic.lift_eq_ok_iff] at hpp
      obtain ⟨g₁', hg₁', hv₁, -⟩ := initPairFlows_spec hv i pp
      rw [← initPairFlows_congr (initPair_tables hpp).2.1, hg₁] at hg₁'
      cases hg₁'
      rw [hpp, ok_bind, (ih hv₁).1 ⟨_, hrest⟩, ok_bind]
      rfl
    · intro h
      obtain ⟨pp₁, hpp, h⟩ := bind_eq_ok_iff.1 h
      obtain ⟨pps₁, hrest, h⟩ := bind_eq_ok_iff.1 h
      cases h
      obtain ⟨g₁, hg₁, hv₁, -⟩ := initPairFlows_spec hv i pp
      rw [← initPairFlows_congr (initPair_tables hpp).2.1] at hg₁
      obtain ⟨g₂, hg₂⟩ := (ih hv₁).2 hrest
      exact ⟨g₂, by rw [initFlowsLoop, hpp, GoPanic.lift, ok_bind, hg₁, ok_bind, hg₂, ok_bind]⟩

/-- What the loop leaves in the graph: still valid, the same open flows, and the sources of the
pairs' designs, in order. -/
theorem initFlowsLoop_eq_ok {pps pps' : List portPair} {i : Nat} {g g' : PairGraph}
    (hv : g.Valid) (h : initFlowsLoop portEnd portStart now i pps g = .ok (pps', g')) :
    g'.Valid ∧ g'.openFlows = g.openFlows ∧ g'.knis = g.knis ++ pps.flatMap pairKnis ∧
      g'.paths = g.paths ++ (pps.enumFrom i).flatMap fun p ↦ pairDesign p.1 p.2 := by
  induction pps generalizing pps' i g with
  | nil =>
    cases h
    exact ⟨hv, rfl, by simp, by simp⟩
  | cons pp pps ih =>
    obtain ⟨pp₁, hpp, h⟩ := bind_eq_ok_iff.1 h
    rw [GoPanic.lift_eq_ok_iff] at hpp
    obtain ⟨g₁, hg₁, hv₁, hopen₁, hknis₁, hpaths₁⟩ := initPairFlows_spec hv i pp
    rw [← initPairFlows_congr (initPair_tables hpp).2.1] at hg₁
    rw [hg₁, ok_bind] at h
    obtain ⟨⟨pps₁, g₂⟩, hrest, h⟩ := bind_eq_ok_iff.1 h
    cases h
    obtain ⟨hv₂, hopen₂, hknis₂, hpaths₂⟩ := ih hv₁ hrest
    refine ⟨hv₂, hopen₂.trans hopen₁, ?_, ?_⟩
    · rw [hknis₂, hknis₁, List.flatMap_cons, List.append_assoc]
    · rw [hpaths₂, hpaths₁, List.enumFrom_cons, List.flatMap_cons, List.append_assoc]

end loop

/-- `InitFlows` in full gets through a configuration whose state half does. -/
theorem exists_InitFlowsGraph_of_InitFlows {portEnd : Nat} {portStart : Int} {now : Nat → Nat → Time}
    {Natconfig c : Config} (h : InitFlows portEnd portStart now Natconfig = .ok c) :
    ∃ g, InitFlowsGraph portEnd portStart now Natconfig = .ok (c, g) := by
  obtain ⟨pps, hpps, h⟩ := bind_eq_ok_iff.1 h
  cases h
  obtain ⟨g, hg⟩ := (initFlowsLoop_ok_iff FlowGraph.valid_empty).2 hpps
  exact ⟨g, by rw [InitFlowsGraph, hg, ok_bind]⟩

/-- **The flow graph changes nothing else, and never fails.**  `InitFlows` in full, graph
included, succeeds on a configuration exactly when its state half `InitFlows` does, and then
returns the same configuration. -/
theorem InitFlowsGraph_ok_iff (portEnd : Nat) (portStart : Int) (now : Nat → Nat → Time)
    (Natconfig c : Config) :
    (∃ g, InitFlowsGraph portEnd portStart now Natconfig = .ok (c, g)) ↔
      InitFlows portEnd portStart now Natconfig = .ok c := by
  refine ⟨fun ⟨g, h⟩ ↦ ?_, exists_InitFlowsGraph_of_InitFlows⟩
  obtain ⟨⟨pps, g'⟩, hloop, h⟩ := bind_eq_ok_iff.1 h
  cases h
  rw [InitFlows, List.enum_eq_enumFrom, (initFlowsLoop_ok_iff FlowGraph.valid_empty).1 ⟨_, hloop⟩,
    ok_bind]

/-- **No flow is misused.**  In the graph `InitFlows` builds for any configuration, no flow is
left open, which the library checks before it starts, and every flow that was made is read by
exactly one node, and no other flow by any. -/
theorem InitFlowsGraph_flows_closed {portEnd : Nat} {portStart : Int} {now : Nat → Nat → Time}
    {Natconfig c : Config} {g : PairGraph}
    (h : InitFlowsGraph portEnd portStart now Natconfig = .ok (c, g)) :
    g.openFlows = [] ∧
      ∀ f, (g.nodes.flatMap FlowNode.inputs).count f = if f < g.flowCount then 1 else 0 := by
  obtain ⟨⟨pps, g'⟩, hloop, h⟩ := bind_eq_ok_iff.1 h
  cases h
  obtain ⟨hv, hopen, -⟩ := initFlowsLoop_eq_ok FlowGraph.valid_empty hloop
  refine ⟨hopen, fun f ↦ ?_⟩
  split_ifs with hf
  · have hread : f ∈ g.nodes.flatMap FlowNode.inputs := by
      by_contra hnot
      have := (hv.mem_openFlows f).2 ⟨hf, hnot⟩
      rw [hopen] at this
      exact List.not_mem_nil f this
    exact List.count_eq_one_of_mem hv.read_once hread
  · exact List.count_eq_zero_of_not_mem fun hread ↦ hf (hv.inputs_lt f hread)

theorem InitFlowsGraph_flows_closed_forwardingConfig :
    ∃ c g' c' g, ReadConfig forwardingConfig false false ⟨false, false⟩ = .ok (c, g') ∧
      InitFlowsGraph 65535 1024 (fun _ _ ↦ 0) c = .ok (c', g) ∧ g.openFlows = [] ∧
      ∀ f, (g.nodes.flatMap FlowNode.inputs).count f = if f < g.flowCount then 1 else 0 :=
  let ⟨⟨c, g'⟩, hread⟩ : ∃ r, ReadConfig forwardingConfig false false ⟨false, false⟩ = .ok r :=
    ⟨_, rfl⟩
  let ⟨c', h⟩ := exists_InitFlows_of_ReadConfig hread (by decide) 1024 fun _ _ ↦ 0
  let ⟨g, hg⟩ := exists_InitFlowsGraph_of_InitFlows h
  ⟨c, g', c', g, hread, hg, InitFlowsGraph_flows_closed hg⟩

/-- **Packets go where the design sends them.**  In the graph `InitFlows` builds for any
configuration, the sources are, in order, those of every pair's design: the receivers of the
public and the private interface, and those of their KNI devices; and the packets of each go
exactly where `pairDesign` says: through the translation function of their side with the
pair's index, then dropped, sent out of the other interface, or handed to the interface's KNI
device; and what a KNI device sends, out of its interface. -/
theorem InitFlowsGraph_paths {portEnd : Nat} {portStart : Int} {now : Nat → Nat → Time}
    {Natconfig c : Config} {g : PairGraph}
    (h : InitFlowsGraph portEnd portStart now Natconfig = .ok (c, g)) :
    g.paths = Natconfig.PortPairs.enum.flatMap fun p ↦ pairDesign p.1 p.2 := by
  obtain ⟨⟨pps, g'⟩, hloop, h⟩ := bind_eq_ok_iff.1 h
  cases h
  exact (initFlowsLoop_eq_ok FlowGraph.valid_empty hloop).2.2.2

theorem InitFlowsGraph_paths_forwardingConfig :
    ∃ c g' c' g, ReadConfig forwardingConfig false false ⟨false, false⟩ = .ok (c, g') ∧
      InitFlowsGraph 65535 1024 (fun _ _ ↦ 0) c = .ok (c', g) ∧
      g.paths = c.PortPairs.enum.flatMap fun p ↦ pairDesign p.1 p.2 :=
  let ⟨⟨c, g'⟩, hread⟩ : ∃ r, ReadConfig forwardingConfig false false ⟨false, false⟩ = .ok r :=
    ⟨_, rfl⟩
  let ⟨c', h⟩ := exists_InitFlows_of_ReadConfig hread (by decide) 1024 fun _ _ ↦ 0
  let ⟨g, hg⟩ := exists_InitFlowsGraph_of_InitFlows h
  ⟨c, g', c', g, hread, hg, InitFlowsGraph_paths hg⟩

/-! ## KNI devices -/

/-- The `NeedKNI` half of what `ReadConfig` does to the package variables. -/
theorem ReadConfig_NeedKNI {Natconfig c : Config} {setKniIP bringUpKniInterfaces : Bool}
    {g g' : Globals} (h : ReadConfig Natconfig setKniIP bringUpKniInterfaces g = .ok (c, g')) :
    g'.NeedKNI = (g.NeedKNI || Natconfig.PortPairs.any fun pp ↦
      pp.PrivatePort.KNIName != "" || pp.PublicPort.KNIName != "") := by
  obtain ⟨⟨pps, g₁⟩, hloop, h'⟩ := bind_eq_ok_iff.1 h
  obtain ⟨-, rfl⟩ := Prod.mk.inj (Except.ok.inj h')
  rw [forRange_state (fun _ _ _ _ h ↦ (readPair_eq_ok h).2) hloop, foldl_afterPort]

/-- The design has a KNI device exactly when some interface has a kni-name. -/
theorem isEmpty_flatMap_pairKnis (pps : List portPair) :
    (pps.flatMap pairKnis).isEmpty =
      !pps.any fun pp ↦ pp.PrivatePort.KNIName != "" || pp.PublicPort.KNIName != "" := by
  induction pps with
  | nil => rfl
  | cons pp pps ih =>
    rw [List.flatMap_cons, List.any_cons]
    by_cases h1 : pp.PublicPort.KNIName = "" <;> by_cases h2 : pp.PrivatePort.KNIName = "" <;>
      simp [pairKnis, h1, h2, ih]

/-- **KNI support is asked for exactly when it is used.**  For a configuration `ReadConfig`
accepts, `InitFlows` makes one KNI device for each interface with a kni-name, pair by pair and
the public interface first, on the interface's port and under its name; and `ReadConfig` has
set `NeedKNI`, with which the library is started with KNI support, exactly when `InitFlows`
makes a device, or when it was set already. -/
theorem InitFlowsGraph_knis {Natconfig c c' : Config} {setKniIP bringUpKniInterfaces : Bool}
    {g g' : Globals} (hread : ReadConfig Natconfig setKniIP bringUpKniInterfaces g = .ok (c, g'))
    {portEnd : Nat} {portStart : Int} {now : Nat → Nat → Time} {gr : PairGraph}
    (h : InitFlowsGraph portEnd portStart now c = .ok (c', gr)) :
    gr.knis = c.PortPairs.flatMap pairKnis ∧ g'.NeedKNI = (g.NeedKNI || !gr.knis.isEmpty) := by
  obtain ⟨⟨pps, g₁⟩, hloop, h⟩ := bind_eq_ok_iff.1 h
  cases h
  have hknis : gr.knis = c.PortPairs.flatMap pairKnis :=
    (initFlowsLoop_eq_ok FlowGraph.valid_empty hloop).2.2.1
  have hconf : c.PortPairs.flatMap pairKnis = Natconfig.PortPairs.flatMap pairKnis := by
    rw [ReadConfig_eq_ok hread, List.flatMap_map]
    rfl
  refine ⟨hknis, ?_⟩
  rw [ReadConfig_NeedKNI hread, hknis, hconf, isEmpty_flatMap_pairKnis, Bool.not_not]

theorem InitFlowsGraph_knis_publicVlanKniConfig :
    ∃ c g' c' gr, ReadConfig publicVlanKniConfig false false ⟨false, false⟩ = .ok (c, g') ∧
      InitFlowsGraph 65535 1024 (fun _ _ ↦ 0) c = .ok (c', gr) ∧
      gr.knis = c.PortPairs.flatMap pairKnis ∧ g'.NeedKNI = (false || !gr.knis.isEmpty) :=
  let ⟨⟨c, g'⟩, hread⟩ : ∃ r, ReadConfig publicVlanKniConfig false false ⟨false, false⟩ = .ok r :=
    ⟨_, rfl⟩
  let ⟨c', h⟩ := exists_InitFlows_of_ReadConfig hread (by decide) 1024 fun _ _ ↦ 0
  let ⟨gr, hg⟩ := exists_InitFlowsGraph_of_InitFlows h
  ⟨c, g', c', gr, hread, hg, InitFlowsGraph_knis hread hg⟩

/-! ## Checksum offloading -/

/-- `CheckHWOffloading`, given what `flow.CheckHWCapability(flow.HWTXChecksumCapability, ports)`
answers for a list of ports: the ports of every pair, public then private, are asked at once,
and every answer must be yes. -/
def CheckHWOffloading (CheckHWCapability : List UInt16 → List Bool) (Natconfig : Config) : Bool :=
  let ports := Natconfig.PortPairs.foldl
    (fun ports pp ↦ ports ++ [pp.PublicPort.Index, pp.PrivatePort.Index]) []
  (CheckHWCapability ports).all id

/-- When the library answers port by port, offloading is used exactly when every interface of
every pair can do it. -/
theorem CheckHWOffloading_iff (cap : UInt16 → Bool) (Natconfig : Config) :
    CheckHWOffloading (List.map cap) Natconfig = true ↔
      ∀ pp ∈ Natconfig.PortPairs, ∀ t, cap (pp.port t).Index = true := by
  have hports : ∀ (pps : List portPair) (acc : List UInt16),
      pps.foldl (fun ports pp ↦ ports ++ [pp.PublicPort.Index, pp.PrivatePort.Index]) acc =
        acc ++ pps.flatMap fun pp ↦ [pp.PublicPort.Index, pp.PrivatePort.Index] := by
    intro pps
    induction pps with
    | nil => simp
    | cons pp pps ih => intro acc; simp [ih]
  dsimp only [CheckHWOffloading]
  rw [hports, List.nil_append, List.all_eq_true]
  constructor
  · intro h pp hpp t
    refine h _ (List.mem_map.2 ⟨_, List.mem_flatMap.2 ⟨pp, hpp, ?_⟩, rfl⟩)
    cases t
    exacts [List.mem_cons_self _ _, List.mem_cons_of_mem _ (List.mem_singleton_self _)]
  · intro h x hx
    obtain ⟨p, hp, rfl⟩ := List.mem_map.1 hx
    obtain ⟨pp, hpp, hp⟩ := List.mem_flatMap.1 hp
    rcases List.mem_pair.1 hp with rfl | rfl
    exacts [h pp hpp .iPUBLIC, h pp hpp .iPRIVATE]

end NffNat
