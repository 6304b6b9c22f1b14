import ASFireWire.LabelAllocator
import ASFireWire.TopologyNormalizer

/-! Two views of the bus generation. The async subsystem extends the eight-bit Self-ID counter
with two more bits in the label allocator (`Bus/GenerationTracker`); the topology snapshot keeps
the eight-bit value it was built from. `HasCurrentGeneration` and the bus-manager election
compare the two. -/
namespace ASFireWire.Async

open ASFireWire.Topology

structure BusState where
  generation16 : ℕ
  generation8 : ℕ
  localNodeID : ℕ
  deriving DecidableEq, Repr

structure GenerationTracker where
  labelAllocator : LabelAllocator := {}
  busGeneration8bit : UInt8 := 0
  localNodeID : ℕ := 0
  deriving DecidableEq

namespace GenerationTracker

def reset (t : GenerationTracker) : GenerationTracker :=
  { labelAllocator := t.labelAllocator.reset, busGeneration8bit := 0, localNodeID := 0 }

def getCurrentState (t : GenerationTracker) : BusState :=
  let gen16 := t.labelAllocator.currentGeneration
  { generation16 := gen16, generation8 := gen16 % 256, localNodeID := t.localNodeID }

def applyBusGeneration (t : GenerationTracker) (generation8bit : UInt8) : GenerationTracker :=
  let current16bit := t.labelAllocator.currentGeneration
  let currentLow8bit := current16bit % 256
  let high := current16bit / 256 * 256
  let newHigh := if generation8bit.toNat < currentLow8bit then (high + 0x100) % 65536 else high
  { t with
    busGeneration8bit := generation8bit
    labelAllocator := t.labelAllocator.setGeneration (newHigh + generation8bit.toNat) }

/-- One increment of the eight-bit counter is one increment of the ten-bit extension. -/
lemma applyBusGeneration_succ {t : GenerationTracker} {c : ℕ} {g : UInt8}
    (hc : t.labelAllocator.currentGeneration = c % 1024) (hg : g.toNat = (c + 1) % 256) :
    (t.applyBusGeneration g).labelAllocator.currentGeneration = (c + 1) % 1024 := by
  simp only [applyBusGeneration, LabelAllocator.setGeneration_currentGeneration,
    kGenerationModulus, hc, hg]
  rcases Nat.lt_or_ge (c % 256) 255 with hlow | hlow
  · have hs : (c + 1) % 256 = c % 256 + 1 := by omega
    rw [hs, if_neg (by omega)]
    omega
  · have hs : (c + 1) % 256 = 0 := by omega
    rw [hs, if_pos (by omega)]
    omega

lemma applyBusGeneration_first {t : GenerationTracker} {g : UInt8}
    (hc : t.labelAllocator.currentGeneration = 0) :
    (t.applyBusGeneration g).labelAllocator.currentGeneration = g.toNat := by
  have hg := g.toNat_lt
  simp only [applyBusGeneration, LabelAllocator.setGeneration_currentGeneration,
    kGenerationModulus, hc]
  rw [if_neg (by omega)]
  omega

def onConfirmedBusGeneration (t : GenerationTracker) (confirmedGeneration : UInt8) :
    GenerationTracker :=
  { t with localNodeID := 0 }.applyBusGeneration confirmedGeneration

def onSelfIDComplete (t : GenerationTracker) (newNodeID : ℕ) : GenerationTracker :=
  { t with localNodeID := newNodeID }

end GenerationTracker

/-- `FireWireBusImpl::HasCurrentGeneration`. -/
def hasCurrentGeneration (busState : BusState) (generation : ℕ) : Bool :=
  generation = busState.generation16

/-- How far `BusManagerElectionDriver::Contend` gets: it gives up when elections are no longer
allowed or the generation is stale, otherwise it issues the compare-swap on BUS_MANAGER_ID. -/
inductive ContendOutcome
  | notAllowed | staleGeneration | localCompareSwap (swapValue : ℕ)
  | remoteCompareSwap (destinationID swapValue : ℕ)
  deriving DecidableEq, Repr

/-- `ComposeNodeID`: bus number bits with the six-bit physical ID. -/
def composeNodeID (busBase16 node : ℕ) : ℕ := busBase16 / 64 * 64 + node % 64

def contend (electionStillAllowed hasController : Bool) (state : BusState)
    (generation localNodeId irmNodeId busBase16 : ℕ) : ContendOutcome :=
  if !electionStillAllowed || !hasController then .notAllowed
  else if state.generation16 ≠ generation then .staleGeneration
  else if irmNodeId = localNodeId then .localCompareSwap localNodeId
  else .remoteCompareSwap (composeNodeID busBase16 irmNodeId) localNodeId

/-! ### The topology snapshot -/

/-- `SelfIDCapture::Result`. -/
structure SelfIDCaptureResult where
  quads : List ℕ
  sequences : List (ℕ × ℕ)
  generation : ℕ
  valid : Bool
  timedOut : Bool
  deriving DecidableEq, Repr

structure NormalizedPortLink where
  connected : Bool := false
  remotePhysicalId : ℕ := kInvalidPhysicalId
  remotePort : ℕ := kInvalidPhysicalId
  normalizedState : PortState := .notPresent
  deriving DecidableEq, Repr

structure NormalizedNode where
  physicalId : ℕ := kInvalidPhysicalId
  isObserver : Bool := false
  ports : Port → NormalizedPortLink := fun _ => {}
  deriving DecidableEq

structure NormalizedTopologyGraph where
  observerPhysicalId : ℕ := kInvalidPhysicalId
  nodes : List NormalizedNode := []
  deriving DecidableEq

structure TopologySnapshot where
  generation : ℕ
  capturedAt : ℕ
  busBase16 : ℕ
  busNumber : Option ℕ
  localNodeId : ℕ
  rootNodeId : ℕ
  irmNodeId : ℕ
  nodeCount : ℕ
  gapCount : ℕ
  gapCountConsistent : Bool
  betaRepeatersPresent : Bool
  rawSelfIdQuadlets : List ℕ
  selfIdSequenceCount : ℕ
  physical : PhysicalTopologyGraph
  normalizedFromLocal : NormalizedTopologyGraph
  deriving DecidableEq

structure NodeIDRegisterInfo where
  localNodeId : Option ℕ := none
  busNumber : Option ℕ := none
  busBase16 : ℕ := 0
  deriving DecidableEq, Repr

/-- Bit 31 of the NodeID register is `iDValid`; node number 63 is not assigned. -/
def decodeNodeIDRegister (nodeIDReg : ℕ) : NodeIDRegisterInfo :=
  if nodeIDReg / 0x80000000 % 2 = 0 then {}
  else
    let nodeID := nodeIDReg % 65536
    { localNodeId := if nodeID % 64 ≠ 63 then some (nodeID % 64) else none
      busNumber := some (nodeID / 64)
      busBase16 := nodeID / 64 * 64 }

def observedGapCount (records : List SelfIDNodeRecord) : ℕ :=
  min (records.foldl (fun maxGap record => max maxGap record.gapCount) 0) 63

/-- Gap counts of the Self-ID packet-zero quadlets (tag 10, not extended). -/
def extractGapCounts (selfIDs : List ℕ) : List ℕ :=
  (selfIDs.filter fun q => q / 2 ^ 30 % 4 = 2 ∧ q / 2 ^ 23 % 2 = 0).map fun q => q / 2 ^ 16 % 64

def calculateGapConsistency (quads : List ℕ) : Bool :=
  match extractGapCounts quads with
  | [] => true
  | first :: rest => rest.all (· = first)

section Snapshot
variable (parse : SelfIDCaptureResult → Except TopologyBuildError (List SelfIDNodeRecord))
  (normalizeFromLocal : PhysicalTopologyGraph → ℕ →
    Except TopologyBuildError NormalizedTopologyGraph)

/-- `TopologyManager::UpdateFromSelfID` over any Self-ID parser and any normalisation. -/
def updateFromSelfID (result : SelfIDCaptureResult) (timestamp nodeIDReg : ℕ) :
    Except TopologyBuildError TopologySnapshot :=
  if !result.valid || result.quads.isEmpty then
    .error ⟨.invalidSelfID, "Self-ID stream is invalid or empty"⟩
  else do
    let nodeInfo := decodeNodeIDRegister nodeIDReg
    let localNodeId := nodeInfo.localNodeId.getD kInvalidPhysicalId
    let records ← parse result
    let physical ← buildPhysicalGraph records localNodeId
    let normalized ← normalizeFromLocal physical localNodeId
    return {
      generation := result.generation
      capturedAt := timestamp
      busBase16 := nodeInfo.busBase16
      busNumber := nodeInfo.busNumber
      localNodeId := localNodeId
      rootNodeId := physical.rootId
      irmNodeId := physical.irmId
      nodeCount := physical.nodeCount
      gapCount := observedGapCount records
      gapCountConsistent := calculateGapConsistency result.quads
      betaRepeatersPresent := physical.betaRepeatersPresent
      rawSelfIdQuadlets := result.quads
      selfIdSequenceCount := result.sequences.length
      physical := physical
      normalizedFromLocal := normalized }

lemma updateFromSelfID_generation {result : SelfIDCaptureResult} {timestamp nodeIDReg : ℕ}
    {snapshot : TopologySnapshot}
    (h : updateFromSelfID parse normalizeFromLocal result timestamp nodeIDReg = .ok snapshot) :
    snapshot.generation = result.generation := by
  unfold updateFromSelfID at h
  split at h
  · cases h
  · cases hparse : parse result with
    | error e => simp [hparse, Bind.bind, Except.bind] at h
    | ok records =>
      cases hbuild : buildPhysicalGraph records
          ((decodeNodeIDRegister nodeIDReg).localNodeId.getD kInvalidPhysicalId) with
      | error e => simp [hparse, hbuild, Bind.bind, Except.bind] at h
      | ok physical =>
        cases hnorm : normalizeFromLocal physical
            ((decodeNodeIDRegister nodeIDReg).localNodeId.getD kInvalidPhysicalId) with
        | error e => simp [hparse, hbuild, hnorm, Bind.bind, Except.bind] at h
        | ok normalized =>
          simp only [hparse, hbuild, hnorm, Bind.bind, Except.bind, pure, Except.pure,
            Except.ok.injEq] at h
          rw [← h]

/-! ### Runs of bus resets -/

/-- The Self-ID counter of the controller, the tracker, and the latest snapshot. -/
structure BusRun where
  selfIDGeneration : UInt8
  tracker : GenerationTracker := {}
  latest : Option TopologySnapshot := none
  deriving DecidableEq

/-- A confirmed bus reset brings the captured Self-ID stream; between resets the local node ID
is stored and labels come and go. -/
inductive BusEvent
  | busReset (capture : SelfIDCaptureResult) (timestamp nodeIDReg : ℕ)
  | selfIDComplete (newNodeID : ℕ)
  | allocateLabel
  | freeLabel (label : Label)
  | clearLabels
  deriving DecidableEq

/-- On a reset the controller counts up, `DecodeSelfID` reads that count, confirms it and hands
it to `BuildTopology`. -/
def BusRun.step (s : BusRun) : BusEvent → BusRun
  | .busReset capture timestamp nodeIDReg =>
      let generation := s.selfIDGeneration + 1
      { selfIDGeneration := generation
        tracker := s.tracker.onConfirmedBusGeneration generation
        latest := (updateFromSelfID parse normalizeFromLocal
          { capture with generation := generation.toNat } timestamp nodeIDReg).toOption }
  | .selfIDComplete newNodeID => { s with tracker := s.tracker.onSelfIDComplete newNodeID }
  | .allocateLabel => { s with tracker :=
      { s.tracker with labelAllocator := s.tracker.labelAllocator.allocate.1 } }
  | .freeLabel label => { s with tracker :=
      { s.tracker with labelAllocator := s.tracker.labelAllocator.free label } }
  | .clearLabels => { s with tracker :=
      { s.tracker with labelAllocator := s.tracker.labelAllocator.clearBitmap } }

def BusRun.run (s : BusRun) (events : List BusEvent) : BusRun :=
  events.foldl (BusRun.step parse normalizeFromLocal) s

def BusEvent.isReset : BusEvent → Bool
  | .busReset .. => true
  | _ => false

/-- Number of confirmed bus resets. -/
def resets (events : List BusEvent) : ℕ := events.countP BusEvent.isReset

/-- The snapshot's generation passes both checks, whatever the election's other inputs are. -/
def BusRun.AcceptsSnapshot (s : BusRun) (snapshot : TopologySnapshot) : Prop :=
  hasCurrentGeneration s.tracker.getCurrentState snapshot.generation = true ∧
    ∀ localNodeId irmNodeId busBase16, contend true true s.tracker.getCurrentState
      snapshot.generation localNodeId irmNodeId busBase16 ≠ .staleGeneration

lemma BusRun.acceptsSnapshot_iff (s : BusRun) (snapshot : TopologySnapshot) :
    s.AcceptsSnapshot snapshot ↔
      snapshot.generation = s.tracker.getCurrentState.generation16 := by
  constructor
  · intro h
    simpa [hasCurrentGeneration] using h.1
  · intro h
    refine ⟨by simp [hasCurrentGeneration, h], fun localNodeId irmNodeId busBase16 => ?_⟩
    unfold contend
    rw [if_neg (by simp), if_neg (by simp [h])]
    split <;> simp

/-- Ten-bit extension of a counter that started at `first` and was confirmed `n` times. -/
def confirmedGeneration (first n : ℕ) : ℕ := if n = 0 then 0 else (first + (n - 1)) % 1024

/-- State after `n` confirmed resets of a counter whose first confirmed value was `first`. -/
structure BusRun.Tracks (s : BusRun) (first n : ℕ) : Prop where
  counter : (s.selfIDGeneration + 1).toNat = (first + n) % 256
  tracker : s.tracker.labelAllocator.currentGeneration = confirmedGeneration first n
  snapshot : ∀ snapshot ∈ s.latest, 0 < n ∧ snapshot.generation = (first + (n - 1)) % 256

lemma BusRun.tracks_step {s : BusRun} {first n : ℕ} (hfirst : first < 256)
    (h : s.Tracks first n) (event : BusEvent) :
    (s.step parse normalizeFromLocal event).Tracks first
      (n + if event.isReset then 1 else 0) := by
  cases event with
  | busReset capture timestamp nodeIDReg =>
    have hc := h.counter
    have ht := h.tracker
    refine ⟨?_, ?_, ?_⟩
    · change (s.selfIDGeneration + 1 + 1).toNat = (first + (n + 1)) % 256
      rw [UInt8.toNat_add, hc]
      simp only [UInt8.reduceToNat]
      omega
    · change (GenerationTracker.applyBusGeneration _ _).labelAllocator.currentGeneration =
        confirmedGeneration first (n + 1)
      cases n with
      | zero =>
        refine (GenerationTracker.applyBusGeneration_first ht).trans (hc.trans ?_)
        rw [confirmedGeneration, if_neg (Nat.succ_ne_zero 0)]
        omega
      | succ m =>
        exact GenerationTracker.applyBusGeneration_succ ht hc
    · intro snapshot hs
      refine ⟨by simp [BusEvent.isReset], ?_⟩
      simp only [BusRun.step, Option.mem_def] at hs
      cases hok : updateFromSelfID parse normalizeFromLocal
          { capture with generation := (s.selfIDGeneration + 1).toNat } timestamp nodeIDReg with
      | error e => simp only [hok, Except.toOption, reduceCtorEq] at hs
      | ok built =>
        simp only [hok, Except.toOption, Option.some.injEq] at hs
        rw [← hs, updateFromSelfID_generation parse normalizeFromLocal hok]
        exact hc
  | selfIDComplete newNodeID => exact ⟨h.counter, h.tracker, h.snapshot⟩
  | allocateLabel =>
    exact ⟨h.counter, (LabelAllocator.allocate_currentGeneration _).trans h.tracker, h.snapshot⟩
  | freeLabel label => exact ⟨h.counter, h.tracker, h.snapshot⟩
  | clearLabels => exact ⟨h.counter, h.tracker, h.snapshot⟩

lemma BusRun.tracks_run {s : BusRun} {first n : ℕ} (hfirst : first < 256) (h : s.Tracks first n)
    (events : List BusEvent) :
    (s.run parse normalizeFromLocal events).Tracks first (n + resets events) := by
  induction events generalizing s n with
  | nil => exact h
  | cons event events ih =>
    have hnext := ih (BusRun.tracks_step parse normalizeFromLocal hfirst h event)
    have hcount : resets (event :: events) = (if event.isReset then 1 else 0) + resets events := by
      rw [resets, List.countP_cons, Nat.add_comm]
      rfl
    rw [hcount, ← Nat.add_assoc]
    exact hnext

lemma BusRun.tracks_start (counter : UInt8) :
    BusRun.Tracks ⟨counter, {}, none⟩ (counter + 1).toNat 0 := by
  refine ⟨?_, rfl, by simp⟩
  have := (counter + 1).toNat_lt
  dsimp only
  omega

/-- The snapshot of the latest reset passes both currency checks exactly while the ten-bit
extension of its generation still fits in eight bits. -/
theorem BusRun.acceptsSnapshot_iff_lowGeneration (counter : UInt8) (events : List BusEvent)
    (snapshot : TopologySnapshot)
    (hs : snapshot ∈ (BusRun.run parse normalizeFromLocal ⟨counter, {}, none⟩ events).latest) :
    (BusRun.run parse normalizeFromLocal ⟨counter, {}, none⟩ events).AcceptsSnapshot snapshot ↔
      ((counter + 1).toNat + (resets events - 1)) % 1024 < 256 := by
  have ht := BusRun.tracks_run parse normalizeFromLocal (counter + 1).toNat_lt
    (BusRun.tracks_start counter) events
  rw [Nat.zero_add] at ht
  obtain ⟨hpos, hgen⟩ := ht.snapshot snapshot hs
  have htracker := ht.tracker
  rw [confirmedGeneration, if_neg hpos.ne'] at htracker
  rw [BusRun.acceptsSnapshot_iff, hgen, GenerationTracker.getCurrentState]
  dsimp only
  rw [htracker]
  omega

end Snapshot

/-- A one-node bus whose Self-ID stream always parses. -/
def singleNodeParse (_ : SelfIDCaptureResult) : Except TopologyBuildError (List SelfIDNodeRecord) :=
  .ok [{ physicalId := 0 }]

def singleNodeNormalize (_ : PhysicalTopologyGraph) (localId : ℕ) :
    Except TopologyBuildError NormalizedTopologyGraph :=
  .ok ⟨localId, [{ physicalId := 0, isObserver := true }]⟩

def singleNodeReset : BusEvent := .busReset ⟨[0x80000000], [(0, 1)], 0, true, false⟩ 0 0x80000000

/-- Every reset of the one-node bus yields a snapshot. -/
lemma singleNodeReset_latest (s : BusRun) :
    ∃ snapshot, snapshot ∈
      (s.step singleNodeParse singleNodeNormalize singleNodeReset).latest := by
  exact ⟨_, rfl⟩

lemma singleNodeRun_latest (s : BusRun) (n : ℕ) :
    ∃ snapshot, snapshot ∈ (s.run singleNodeParse singleNodeNormalize
      (List.replicate (n + 1) singleNodeReset)).latest := by
  rw [List.replicate_succ', BusRun.run, List.foldl_append]
  exact singleNodeReset_latest _

lemma resets_singleNode (n : ℕ) : resets (List.replicate n singleNodeReset) = n := by
  simp [resets, List.countP_replicate, BusEvent.isReset, singleNodeReset]

theorem acceptsSnapshot_first_reset : ∃ snapshot,
    (BusRun.run singleNodeParse singleNodeNormalize ⟨255, {}, none⟩
      [singleNodeReset]).AcceptsSnapshot snapshot := by
  obtain ⟨snapshot, hs⟩ := singleNodeRun_latest ⟨255, {}, none⟩ 0
  exact ⟨snapshot, (BusRun.acceptsSnapshot_iff_lowGeneration singleNodeParse singleNodeNormalize
    255 [singleNodeReset] snapshot hs).mpr (by decide)⟩

/-- After the counter has wrapped once, the current snapshot is taken for a stale one. -/
theorem snapshot_stale_after_wrap : ∃ snapshot ∈
    (BusRun.run singleNodeParse singleNodeNormalize ⟨255, {}, none⟩
      (List.replicate 257 singleNodeReset)).latest,
    hasCurrentGeneration (BusRun.run singleNodeParse singleNodeNormalize ⟨255, {}, none⟩
      (List.replicate 257 singleNodeReset)).tracker.getCurrentState snapshot.generation = false ∧
    contend true true (BusRun.run singleNodeParse singleNodeNormalize ⟨255, {}, none⟩
      (List.replicate 257 singleNodeReset)).tracker.getCurrentState snapshot.generation 0 0 0 =
        .staleGeneration := by
  obtain ⟨snapshot, hs⟩ := singleNodeRun_latest ⟨255, {}, none⟩ 256
  have ht := BusRun.tracks_run singleNodeParse singleNodeNormalize (255 + 1 : UInt8).toNat_lt
    (BusRun.tracks_start 255) (List.replicate 257 singleNodeReset)
  rw [resets_singleNode] at ht
  have hgen : snapshot.generation = 0 := (ht.snapshot snapshot hs).2
  have hstate : (BusRun.run singleNodeParse singleNodeNormalize ⟨255, {}, none⟩
      (List.replicate 257 singleNodeReset)).tracker.getCurrentState.generation16 = 256 :=
    ht.tracker
  generalize (BusRun.run singleNodeParse singleNodeNormalize ⟨255, {}, none⟩
    (List.replicate 257 singleNodeReset)).tracker.getCurrentState = state at hstate ⊢
  refine ⟨snapshot, hs, ?_, ?_⟩
  · simp [hasCurrentGeneration, hgen, hstate]
  · simp [contend, hgen, hstate]

end ASFireWire.Async
