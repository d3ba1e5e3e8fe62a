import Mathlib.Data.List.Nodup
import NffNat.Go.Basic

/-!
# The flow graph of nff-go

`InitFlows` ends by wiring every pair into the packet pipeline of the nff-go library: a receiver
on each interface, a splitter that runs the translation, a stopper for what it drops, KNI
devices, mergers and senders.  The graph is the library's, and this file models it as far as
the configuration code uses it.

* A **flow** is a stream of packets from one node to the next.  The calls that make a flow (a
  receiver, the outputs of a splitter, a merger) return a new one; the calls that take a flow (a
  splitter, a stopper, a sender, a merger) close it.  The library refuses a flow that is already
  closed, and refuses to start while a flow is left open.  Flows are numbered in the order they
  are made, which is all of their identity the code relies on.
* `FlowGraph.addNode` is the step every call takes: close the node's inputs, each of which must
  be open, and open its outputs.
* `FlowGraph.Valid` is the invariant of a graph built by these calls: no flow is read twice, and
  a flow is open exactly when it has been made and nothing reads it yet.  The step keeps it
  (`FlowGraph.Valid.addNode`), hence so does every flow function.  Nodes that read only new
  flows do not change where earlier packets go (`FlowGraph.Valid.paths_append`).
* `FlowGraph.paths` is what the graph does with packets: for every source (a port's receiver,
  or a KNI device's), where its packets end up, through mergers and splitters.

The checks the library makes against the hardware (that a port exists, that a KNI device can be
made) are not modelled: here a call fails only when it is given a closed flow.
-/

set_option autoImplicit false

namespace NffNat

/-- A node of the graph, with the flows it reads and makes.  `H` is the type of the split
functions and `C` that of their contexts. -/
inductive FlowNode (H C : Type)
  /-- `flow.SetReceiver(port)`: the packets arriving at a port, into flow `out`. -/
  | receiver (port : UInt16) (out : Nat)
  /-- `flow.SetSplitter(input, handler, len(outs), context)`: `handler` sends each packet of
  `input` to one of `outs`. -/
  | splitter (input : Nat) (handler : H) (outs : List Nat) (context : C)
  /-- `flow.SetStopper(input)`: the packets are freed. -/
  | stopper (input : Nat)
  /-- `flow.SetSenderKNI(input, kni)`: the packets go to a KNI device. -/
  | senderKNI (input : Nat) (kni : Nat)
  /-- `flow.SetReceiverKNI(kni)`: the packets a KNI device sends, into flow `out`. -/
  | receiverKNI (kni : Nat) (out : Nat)
  /-- `flow.SetMerger(inputs...)`: the packets of all `inputs`, into flow `out`. -/
  | merger (inputs : List Nat) (out : Nat)
  /-- `flow.SetSender(input, port)`: the packets are sent out of a port. -/
  | sender (input : Nat) (port : UInt16)
deriving DecidableEq, Repr

namespace FlowNode

variable {H C : Type}

/-- The flows a node reads. -/
def inputs : FlowNode H C → List Nat
  | receiver .. | receiverKNI .. => []
  | splitter input .. | stopper input | senderKNI input _ | sender input _ => [input]
  | merger inputs _ => inputs

/-- The flows a node makes. -/
def outputs : FlowNode H C → List Nat
  | receiver _ out | receiverKNI _ out | merger _ out => [out]
  | splitter _ _ outs _ => outs
  | stopper _ | senderKNI .. | sender .. => []

/-- The KNI devices a node names. -/
def knis : FlowNode H C → List Nat
  | senderKNI _ kni | receiverKNI kni _ => [kni]
  | _ => []

end FlowNode

/-- The graph as the flow functions leave it. -/
structure FlowGraph (H C : Type) where
  /-- How many flows have been made: the next one is `flowCount`. -/
  flowCount : Nat
  /-- The flows made and not yet closed. -/
  openFlows : List Nat
  /-- The nodes, in the order they were set. -/
  nodes : List (FlowNode H C)
  /-- The KNI devices made, in order: the port and the name of each. -/
  knis : List (UInt16 × String)
deriving DecidableEq, Repr

variable {H C : Type}

/-- The graph before any flow function has run. -/
def FlowGraph.empty : FlowGraph H C := ⟨0, [], [], []⟩

/-- The error a flow function returns when it is given a flow that was already closed. -/
def UseClosedFlow : GoFailure := .error "One of the flows is used after it was closed!"

/-- Closing flow `f`: it must be open. -/
def closeFlow (openFlows : List Nat) (f : Nat) : Except GoFailure (List Nat) :=
  if f ∈ openFlows then .ok (openFlows.erase f) else .error UseClosedFlow

namespace FlowGraph

/-- The step of every flow function: the inputs of `node` are closed in order, and its outputs,
which the caller numbers from `flowCount` on, are opened. -/
def addNode (g : FlowGraph H C) (node : FlowNode H C) : Except GoFailure (FlowGraph H C) :=
  node.inputs.foldlM closeFlow g.openFlows >>= fun openFlows ↦
    .ok { g with
      flowCount := g.flowCount + node.outputs.length
      openFlows := node.outputs ++ openFlows
      nodes := g.nodes ++ [node] }

/-- `flow.SetReceiver`. -/
def SetReceiver (g : FlowGraph H C) (port : UInt16) : Except GoFailure (Nat × FlowGraph H C) :=
  (g.addNode (.receiver port g.flowCount)).map (g.flowCount, ·)

/-- `flow.SetSplitter`, with `outsNumber` outputs. -/
def SetSplitter (g : FlowGraph H C) (input : Nat) (handler : H) (outsNumber : Nat)
    (context : C) : Except GoFailure (List Nat × FlowGraph H C) :=
  let outs := List.range' g.flowCount outsNumber
  (g.addNode (.splitter input handler outs context)).map (outs, ·)

/-- `flow.SetStopper`. -/
def SetStopper (g : FlowGraph H C) (input : Nat) : Except GoFailure (FlowGraph H C) :=
  g.addNode (.stopper input)

/-- `flow.CreateKniDevice`. -/
def CreateKniDevice (g : FlowGraph H C) (port : UInt16) (name : String) : Nat × FlowGraph H C :=
  (g.knis.length, { g with knis := g.knis ++ [(port, name)] })

/-- `flow.SetSenderKNI`. -/
def SetSenderKNI (g : FlowGraph H C) (input kni : Nat) : Except GoFailure (FlowGraph H C) :=
  g.addNode (.senderKNI input kni)

/-- `flow.SetReceiverKNI`. -/
def SetReceiverKNI (g : FlowGraph H C) (kni : Nat) : Except GoFailure (Nat × FlowGraph H C) :=
  (g.addNode (.receiverKNI kni g.flowCount)).map (g.flowCount, ·)

/-- `flow.SetMerger`. -/
def SetMerger (g : FlowGraph H C) (inputs : List Nat) : Except GoFailure (Nat × FlowGraph H C) :=
  (g.addNode (.merger inputs g.flowCount)).map (g.flowCount, ·)

/-- `flow.SetSender`. -/
def SetSender (g : FlowGraph H C) (input : Nat) (port : UInt16) :
    Except GoFailure (FlowGraph H C) :=
  g.addNode (.sender input port)

end FlowGraph

/-! ## Where packets go -/

/-- Where the packets that enter the graph at a source end up. -/
inductive FlowPath (H C : Type)
  /-- Nothing reads the flow: it was left open. -/
  | dangling
  /-- A stopper frees them. -/
  | stopped
  /-- They are sent out of a port. -/
  | sent (port : UInt16)
  /-- They go to the KNI device with this port and name. -/
  | toKni (port : UInt16) (name : String)
  /-- A splitter running `handler` with `context` sends each to one of its outputs, which go on
  as `outs` say. -/
  | split (handler : H) (context : C) (outs : List (FlowPath H C))
deriving Repr

/-- Where packets enter the graph: a port, or the KNI device with this port and name. -/
inductive FlowSource
  | port (index : UInt16)
  | kni (port : UInt16) (name : String)
deriving DecidableEq, Repr

/-- What `node` does with the packets it reads, given where the packets of each flow it makes
go: a splitter hands them to its outputs, a merger to its output, and a stopper, a sender or a
KNI sender is where they leave. -/
def FlowNode.path (knis : List (UInt16 × String)) (node : FlowNode H C)
    (next : Nat → FlowPath H C) : FlowPath H C :=
  match node with
  | .splitter _ handler outs context => .split handler context (outs.map next)
  | .merger _ out => next out
  | .stopper _ => .stopped
  | .sender _ port => .sent port
  | .senderKNI _ kni =>
    match knis[kni]? with
    | some (port, name) => .toKni port name
    | none => .dangling
  | .receiver .. | .receiverKNI .. => .dangling

/-- Where the packets of flow `f` go, among the nodes set after it was made: the first node that
reads `f` takes them.  A flow is made before anything reads it, so nothing before it matters. -/
def pathFrom (knis : List (UInt16 × String)) : List (FlowNode H C) → Nat → FlowPath H C
  | [], _ => .dangling
  | node :: rest, f =>
    if f ∈ node.inputs then node.path knis (pathFrom knis rest) else pathFrom knis rest f

/-- The source a node is, if it is one, and the flow it puts its packets into. -/
def FlowNode.source (knis : List (UInt16 × String)) : FlowNode H C → Option (FlowSource × Nat)
  | .receiver port f => some (.port port, f)
  | .receiverKNI kni f => knis[kni]?.map fun (port, name) ↦ (.kni port name, f)
  | _ => none

/-- Every source among `nodes`, with where its packets go. -/
def sourcePaths (knis : List (UInt16 × String)) :
    List (FlowNode H C) → List (FlowSource × FlowPath H C)
  | [] => []
  | node :: rest =>
    (node.source knis).toList.map (fun (s, f) ↦ (s, pathFrom knis rest f)) ++
      sourcePaths knis rest

/-- What the graph does with packets: each source, in the order the sources were set, with
where its packets go. -/
def FlowGraph.paths (g : FlowGraph H C) : List (FlowSource × FlowPath H C) :=
  sourcePaths g.knis g.nodes

/-! ## The invariant of a graph built by the flow functions -/

/-- What every graph built by the flow functions satisfies. -/
structure FlowGraph.Valid (g : FlowGraph H C) : Prop where
  /-- No flow is read by two nodes, nor twice by one. -/
  read_once : (g.nodes.flatMap FlowNode.inputs).Nodup
  /-- No flow is open twice. -/
  openFlows_nodup : g.openFlows.Nodup
  /-- A flow is open exactly when it has been made and nothing reads it. -/
  mem_openFlows : ∀ f, f ∈ g.openFlows ↔ f < g.flowCount ∧ f ∉ g.nodes.flatMap FlowNode.inputs
  /-- Nodes read only flows that have been made. -/
  inputs_lt : ∀ f ∈ g.nodes.flatMap FlowNode.inputs, f < g.flowCount
  /-- Nodes make only flows that are counted. -/
  outputs_lt : ∀ f ∈ g.nodes.flatMap FlowNode.outputs, f < g.flowCount
  /-- Nodes name only KNI devices that have been made. -/
  knis_lt : ∀ node ∈ g.nodes, ∀ kni ∈ node.knis, kni < g.knis.length

theorem FlowGraph.valid_empty : (FlowGraph.empty : FlowGraph H C).Valid :=
  ⟨List.nodup_nil, List.nodup_nil, fun _ ↦ by simp [FlowGraph.empty], by simp [FlowGraph.empty],
    by simp [FlowGraph.empty], by simp [FlowGraph.empty]⟩

/-- Closing flows one by one from a list of distinct open flows succeeds only if each was open
and none is closed twice, and leaves open the others. -/
theorem foldlM_closeFlow_eq_ok {O O' : List Nat} {inputs : List Nat} (hO : O.Nodup)
    (h : inputs.foldlM closeFlow O = .ok O') :
    inputs.Nodup ∧ (∀ f ∈ inputs, f ∈ O) ∧ O'.Nodup ∧ ∀ f, f ∈ O' ↔ f ∈ O ∧ f ∉ inputs := by
  induction inputs generalizing O with
  | nil =>
    cases h
    exact ⟨List.nodup_nil, fun _ h ↦ absurd h (List.not_mem_nil _), hO, by simp⟩
  | cons f rest ih =>
    obtain ⟨O₁, h₁, h⟩ := bind_eq_ok_iff.1 h
    rw [closeFlow] at h₁
    split_ifs at h₁ with hf
    cases h₁
    obtain ⟨hnd, hin, hnd', hmem⟩ := ih (hO.erase f) h
    have hin' : ∀ x ∈ rest, x ≠ f ∧ x ∈ O := fun x hx ↦ hO.mem_erase_iff.1 (hin x hx)
    refine ⟨List.nodup_cons.2 ⟨fun hr ↦ (hin' f hr).1 rfl, hnd⟩,
      List.forall_mem_cons.2 ⟨hf, fun x hx ↦ (hin' x hx).2⟩, hnd', fun x ↦ ?_⟩
    rw [hmem, hO.mem_erase_iff, List.mem_cons, not_or]
    exact ⟨fun ⟨⟨hne, hx⟩, hr⟩ ↦ ⟨hx, hne, hr⟩, fun ⟨hx, hne, hr⟩ ↦ ⟨⟨hne, hx⟩, hr⟩⟩

/-- A graph stays valid through a step whose node makes the next flows and names KNI devices
that exist: this is all the flow functions do. -/
theorem FlowGraph.Valid.addNode {g g' : FlowGraph H C} {node : FlowNode H C} (hv : g.Valid)
    (h : g.addNode node = .ok g')
    (hout : node.outputs = List.range' g.flowCount node.outputs.length)
    (hknis : ∀ kni ∈ node.knis, kni < g.knis.length) : g'.Valid := by
  obtain ⟨O', hO', h⟩ := bind_eq_ok_iff.1 h
  cases h
  obtain ⟨hnd, hin, hnd', hmem⟩ := foldlM_closeFlow_eq_ok hv.openFlows_nodup hO'
  have hin_lt f (hf : f ∈ node.inputs) : f < g.flowCount := ((hv.mem_openFlows f).1 (hin f hf)).1
  have hout_mem f : f ∈ node.outputs ↔ g.flowCount ≤ f ∧ f < g.flowCount + node.outputs.length := by
    conv_lhs => rw [hout]
    exact List.mem_range'_1
  have hO'_lt f (hf : f ∈ O') : f < g.flowCount := ((hv.mem_openFlows f).1 ((hmem f).1 hf).1).1
  refine ⟨?_, ?_, fun f ↦ ?_, fun f hf ↦ ?_, fun f hf ↦ ?_, fun n hn kni hk ↦ ?_⟩ <;>
    simp only [List.flatMap_append, List.flatMap_singleton, List.mem_append, List.mem_singleton] at *
  · refine List.nodup_append.2 ⟨hv.read_once, hnd, fun f hr hi ↦ ?_⟩
    exact ((hv.mem_openFlows f).1 (hin f hi)).2 hr
  · refine List.nodup_append.2 ⟨hout ▸ List.nodup_range' _ _, hnd', fun f ho hO ↦ ?_⟩
    have := hO'_lt f hO
    have := ((hout_mem f).1 ho).1
    omega
  · rw [hout_mem, hmem, hv.mem_openFlows, not_or]
    constructor
    · rintro (⟨hle, hlt⟩ | ⟨⟨hlt, hr⟩, hi⟩)
      · exact ⟨hlt, fun hr ↦ absurd (hv.inputs_lt f hr) (by omega),
          fun hi ↦ absurd (hin_lt f hi) (by omega)⟩
      · exact ⟨by omega, hr, hi⟩
    · rintro ⟨hlt, hr, hi⟩
      by_cases hf : f < g.flowCount
      exacts [.inr ⟨⟨hf, hr⟩, hi⟩, .inl ⟨by omega, hlt⟩]
  · rcases hf with hf | hf
    exacts [Nat.lt_add_right _ (hv.inputs_lt f hf), Nat.lt_add_right _ (hin_lt f hf)]
  · rcases hf with hf | hf
    exacts [Nat.lt_add_right _ (hv.outputs_lt f hf), ((hout_mem f).1 hf).2]
  · rcases hn with hn | rfl
    exacts [hv.knis_lt n hn kni hk, hknis kni hk]

/-- The step leaves the KNI devices alone. -/
theorem FlowGraph.addNode_knis {g g' : FlowGraph H C} {node : FlowNode H C}
    (h : g.addNode node = .ok g') : g'.knis = g.knis := by
  obtain ⟨O', -, h⟩ := bind_eq_ok_iff.1 h
  cases h
  rfl

/-! ### Every flow function keeps a graph valid -/

section api

variable {g g' : FlowGraph H C}

theorem FlowGraph.Valid.SetReceiver (hv : g.Valid) {port : UInt16} {f : Nat}
    (h : g.SetReceiver port = .ok (f, g')) : g'.Valid := by
  obtain ⟨g₁, h₁, he⟩ := map_eq_ok_iff.1 h
  cases he
  exact hv.addNode h₁ rfl fun _ h ↦ absurd h (List.not_mem_nil _)

theorem FlowGraph.Valid.SetSplitter (hv : g.Valid) {input : Nat} {handler : H} {k : Nat}
    {context : C} {outs : List Nat} (h : g.SetSplitter input handler k context = .ok (outs, g')) :
    g'.Valid := by
  obtain ⟨g₁, h₁, he⟩ := map_eq_ok_iff.1 h
  cases he
  exact hv.addNode h₁ (by rw [FlowNode.outputs, List.length_range'])
    fun _ h ↦ absurd h (List.not_mem_nil _)

theorem FlowGraph.Valid.SetStopper (hv : g.Valid) {input : Nat} (h : g.SetStopper input = .ok g') :
    g'.Valid :=
  hv.addNode h rfl fun _ h ↦ absurd h (List.not_mem_nil _)

theorem FlowGraph.Valid.CreateKniDevice (hv : g.Valid) (port : UInt16) (name : String) :
    (g.CreateKniDevice port name).2.Valid :=
  { hv with
    knis_lt := fun node hn kni hk ↦ by
      have := hv.knis_lt node hn kni hk
      simp only [FlowGraph.CreateKniDevice, List.length_append]
      omega }

theorem FlowGraph.Valid.SetSenderKNI (hv : g.Valid) {input kni : Nat}
    (hk : kni < g.knis.length) (h : g.SetSenderKNI input kni = .ok g') : g'.Valid :=
  hv.addNode h rfl fun _ h ↦ List.mem_singleton.1 h ▸ hk

theorem FlowGraph.Valid.SetReceiverKNI (hv : g.Valid) {kni f : Nat}
    (hk : kni < g.knis.length) (h : g.SetReceiverKNI kni = .ok (f, g')) : g'.Valid := by
  obtain ⟨g₁, h₁, he⟩ := map_eq_ok_iff.1 h
  cases he
  exact hv.addNode h₁ rfl fun _ h ↦ List.mem_singleton.1 h ▸ hk

theorem FlowGraph.Valid.SetMerger (hv : g.Valid) {inputs : List Nat} {f : Nat}
    (h : g.SetMerger inputs = .ok (f, g')) : g'.Valid := by
  obtain ⟨g₁, h₁, he⟩ := map_eq_ok_iff.1 h
  cases he
  exact hv.addNode h₁ rfl fun _ h ↦ absurd h (List.not_mem_nil _)

theorem FlowGraph.Valid.SetSender (hv : g.Valid) {input : Nat} {port : UInt16}
    (h : g.SetSender input port = .ok g') : g'.Valid :=
  hv.addNode h rfl fun _ h ↦ absurd h (List.not_mem_nil _)

end api

/-! ### One equation per flow function

On a graph whose inputs are open, every flow function succeeds and leaves the graph with its node
appended, its inputs closed and its outputs, numbered from `flowCount` on, open in front.  The
graph of a pair is built by composing these. -/

section calls

variable (g : FlowGraph H C)

theorem closeFlow_of_mem {O : List Nat} {f : Nat} (h : f ∈ O) : closeFlow O f = .ok (O.erase f) :=
  if_pos h

/-- The step, once closing the node's inputs has left `O` open. -/
theorem FlowGraph.addNode_eq {node : FlowNode H C} (O : List Nat)
    (h : node.inputs.foldlM closeFlow g.openFlows = .ok O) :
    g.addNode node = .ok { g with
      flowCount := g.flowCount + node.outputs.length
      openFlows := node.outputs ++ O
      nodes := g.nodes ++ [node] } := by
  rw [FlowGraph.addNode, h, ok_bind]

theorem FlowGraph.SetReceiver_eq (port : UInt16) :
    g.SetReceiver port = .ok (g.flowCount, { g with
      flowCount := g.flowCount + 1
      openFlows := g.flowCount :: g.openFlows
      nodes := g.nodes ++ [.receiver port g.flowCount] }) := rfl

theorem FlowGraph.SetSplitter_eq {input : Nat} (hin : input ∈ g.openFlows) (handler : H)
    (k : Nat) (context : C) :
    g.SetSplitter input handler k context = .ok (List.range' g.flowCount k, { g with
      flowCount := g.flowCount + k
      openFlows := List.range' g.flowCount k ++ g.openFlows.erase input
      nodes := g.nodes ++ [.splitter input handler (List.range' g.flowCount k) context] }) := by
  rw [FlowGraph.SetSplitter,
    g.addNode_eq (g.openFlows.erase input) (by simp [FlowNode.inputs, closeFlow_of_mem hin])]
  simp [FlowNode.outputs]

theorem FlowGraph.SetStopper_eq {input : Nat} (hin : input ∈ g.openFlows) :
    g.SetStopper input = .ok { g with
      openFlows := g.openFlows.erase input
      nodes := g.nodes ++ [.stopper input] } :=
  g.addNode_eq _ (by simp [FlowNode.inputs, closeFlow_of_mem hin])

theorem FlowGraph.SetSenderKNI_eq {input : Nat} (hin : input ∈ g.openFlows) (kni : Nat) :
    g.SetSenderKNI input kni = .ok { g with
      openFlows := g.openFlows.erase input
      nodes := g.nodes ++ [.senderKNI input kni] } :=
  g.addNode_eq _ (by simp [FlowNode.inputs, closeFlow_of_mem hin])

theorem FlowGraph.SetReceiverKNI_eq (kni : Nat) :
    g.SetReceiverKNI kni = .ok (g.flowCount, { g with
      flowCount := g.flowCount + 1
      openFlows := g.flowCount :: g.openFlows
      nodes := g.nodes ++ [.receiverKNI kni g.flowCount] }) := rfl

/-- A merger of two flows, as `InitFlows` makes them: the first must be open, and the second
open once the first is closed. -/
theorem FlowGraph.SetMerger_eq {f f' : Nat} (hf : f ∈ g.openFlows)
    (hf' : f' ∈ g.openFlows.erase f) :
    g.SetMerger [f, f'] = .ok (g.flowCount, { g with
      flowCount := g.flowCount + 1
      openFlows := g.flowCount :: (g.openFlows.erase f).erase f'
      nodes := g.nodes ++ [.merger [f, f'] g.flowCount] }) := by
  rw [FlowGraph.SetMerger, g.addNode_eq ((g.openFlows.erase f).erase f')
    (by simp [FlowNode.inputs, closeFlow_of_mem hf, closeFlow_of_mem hf', ok_bind])]
  rfl

theorem FlowGraph.SetSender_eq {input : Nat} (hin : input ∈ g.openFlows) (port : UInt16) :
    g.SetSender input port = .ok { g with
      openFlows := g.openFlows.erase input
      nodes := g.nodes ++ [.sender input port] } :=
  g.addNode_eq _ (by simp [FlowNode.inputs, closeFlow_of_mem hin])

end calls

/-! ## Earlier packets do not see later nodes -/

section append

variable {knis knis' : List (UInt16 × String)} {n : Nat}

/-- A flow no node reads is left dangling. -/
theorem pathFrom_of_forall_not_mem {nodes : List (FlowNode H C)} {f : Nat}
    (h : ∀ node ∈ nodes, f ∉ node.inputs) : pathFrom knis nodes f = .dangling := by
  induction nodes with
  | nil => rfl
  | cons node rest ih =>
    rw [pathFrom, if_neg (h node (List.mem_cons_self _ _))]
    exact ih fun node hn ↦ h node (List.mem_cons_of_mem _ hn)

/-- A node does the same with its packets under two lists of KNI devices that agree on the
devices it names, and two continuations that agree on the flows it makes. -/
theorem FlowNode.path_congr {node : FlowNode H C} {next next' : Nat → FlowPath H C}
    (hnext : ∀ f ∈ node.outputs, next f = next' f)
    (hknis : ∀ kni ∈ node.knis, knis[kni]? = knis'[kni]?) :
    node.path knis next = node.path knis' next' := by
  cases node with
  | splitter _ handler outs context =>
    simp only [FlowNode.path, FlowPath.split.injEq, true_and]
    exact List.map_congr_left hnext
  | merger _ out => exact hnext out (List.mem_singleton_self _)
  | senderKNI _ kni => simp only [FlowNode.path, hknis kni (List.mem_singleton_self _)]
  | _ => rfl

/-- The source a node is, under two lists of KNI devices that agree on the devices it names. -/
theorem FlowNode.source_congr {node : FlowNode H C}
    (hknis : ∀ kni ∈ node.knis, knis[kni]? = knis'[kni]?) : node.source knis = node.source knis' := by
  cases node with
  | receiverKNI kni f => simp only [FlowNode.source, hknis kni (List.mem_singleton_self _)]
  | _ => rfl

/-- A source puts its packets into a flow it makes. -/
theorem FlowNode.mem_outputs_of_source {node : FlowNode H C} {s : FlowSource} {f : Nat}
    (h : (s, f) ∈ (node.source knis).toList) : f ∈ node.outputs := by
  rw [Option.mem_toList, Option.mem_def] at h
  cases node with
  | receiver port out => cases h; exact List.mem_singleton_self _
  | receiverKNI kni out =>
    obtain ⟨⟨port, name⟩, -, h⟩ := Option.map_eq_some'.1 h
    cases h; exact List.mem_singleton_self _
  | _ => cases h

/-- Appending nodes that read only flows from `n` on, and KNI devices, changes nothing for a
flow below `n` of nodes whose flows and KNI devices were already there. -/
theorem pathFrom_append {nodes block : List (FlowNode H C)}
    (hout : ∀ f ∈ nodes.flatMap FlowNode.outputs, f < n)
    (hknis : ∀ node ∈ nodes, ∀ kni ∈ node.knis, kni < knis.length)
    (hblock : ∀ f ∈ block.flatMap FlowNode.inputs, n ≤ f) {f : Nat} (hf : f < n) :
    pathFrom (knis ++ knis') (nodes ++ block) f = pathFrom knis nodes f := by
  induction nodes generalizing f with
  | nil =>
    refine pathFrom_of_forall_not_mem fun node hn hmem ↦ ?_
    have := hblock f (List.mem_flatMap.2 ⟨node, hn, hmem⟩)
    omega
  | cons node rest ih =>
    simp only [List.flatMap_cons, List.mem_append, List.forall_mem_cons] at hout hknis
    have ih' := @ih (fun f hf ↦ hout f (.inr hf)) hknis.2
    rw [List.cons_append, pathFrom, pathFrom]
    split_ifs
    · exact FlowNode.path_congr (fun x hx ↦ ih' (hout x (.inl hx)))
        fun kni hk ↦ List.getElem?_append_left (hknis.1 kni hk)
    · exact ih' hf

/-- The sources of a graph keep their paths when a block that reads only new flows is
appended, and the block's sources follow. -/
theorem sourcePaths_append {nodes block : List (FlowNode H C)}
    (hout : ∀ f ∈ nodes.flatMap FlowNode.outputs, f < n)
    (hknis : ∀ node ∈ nodes, ∀ kni ∈ node.knis, kni < knis.length)
    (hblock : ∀ f ∈ block.flatMap FlowNode.inputs, n ≤ f) :
    sourcePaths (knis ++ knis') (nodes ++ block) =
      sourcePaths knis nodes ++ sourcePaths (knis ++ knis') block := by
  induction nodes with
  | nil => rfl
  | cons node rest ih =>
    have hout' : ∀ f ∈ rest.flatMap FlowNode.outputs, f < n := fun f hf ↦
      hout f (by rw [List.flatMap_cons]; exact List.mem_append_right _ hf)
    have hknis' := fun node hn ↦ hknis node (List.mem_cons_of_mem _ hn)
    rw [List.cons_append, sourcePaths, sourcePaths, ih hout' hknis', List.append_assoc,
      (FlowNode.source_congr fun kni hk ↦
        List.getElem?_append_left (hknis node (List.mem_cons_self _ _) kni hk) :
        node.source (knis ++ knis') = node.source knis)]
    congr 1
    refine List.map_congr_left fun ⟨s, f⟩ hsf ↦ ?_
    have hf := hout f (by
      rw [List.flatMap_cons]
      exact List.mem_append_left _ (FlowNode.mem_outputs_of_source hsf))
    simp only [pathFrom_append hout' hknis' hblock hf]

end append

/-- After a valid graph, a block that reads only flows made after it adds its own sources and
leaves the others' paths as they were. -/
theorem FlowGraph.Valid.paths_append {g g' : FlowGraph H C} (hv : g.Valid)
    {block : List (FlowNode H C)} (hnodes : g'.nodes = g.nodes ++ block) (hknis : g.knis <+: g'.knis)
    (hblock : ∀ f ∈ block.flatMap FlowNode.inputs, g.flowCount ≤ f) :
    g'.paths = g.paths ++ sourcePaths g'.knis block := by
  obtain ⟨knis, hk⟩ := hknis
  rw [FlowGraph.paths, FlowGraph.paths, hnodes, ← hk]
  exact sourcePaths_append hv.outputs_lt (fun node hn ↦ hv.knis_lt node hn) hblock

end NffNat
