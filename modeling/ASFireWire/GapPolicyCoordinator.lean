import ASFireWire.ElectionRuns

/-! The gap-count policy (`Bus/BusManager/GapPolicyCoordinator.cpp`): it plans a reset from the
topology, asks an executor for it, and counts what was accepted per stable topology. The topology
is recognised by a hash that is recomputed on every call. -/
namespace ASFireWire.Bus

open ASFireWire.Async ASFireWire.Topology Runs

inductive GapPolicyDecision
  | none
  | suppressedByRoleMode | suppressedByActivityLevel | suppressedByTopology
  | suppressedNotBMOrFallbackIRM | suppressedSingleNodeBus
  | deferMaxHopsUnavailable | deferBetaRepeaterUnknown
  | alreadyOptimal | gapMismatchRequiresLongReset | gapOptimizationRequired
  | failedRetryLimit | failedExecutorUnavailable | failedGenerationStale
  deriving DecidableEq, Repr

/-- The decisions below `AlreadyOptimal` in the enumeration, `None` apart. -/
def GapPolicyDecision.isSuppression : GapPolicyDecision → Bool
  | .suppressedByRoleMode | .suppressedByActivityLevel | .suppressedByTopology
  | .suppressedNotBMOrFallbackIRM | .suppressedSingleNodeBus
  | .deferMaxHopsUnavailable | .deferBetaRepeaterUnknown => true
  | _ => false

inductive GapPolicyAction
  | none | reportOnly | forceRootWithGapAndShortReset | forceRootWithGapAndLongReset
  | gapOnlyShortReset | gapOnlyLongReset
  deriving DecidableEq, Repr

inductive GapComputationSource | none | table1394a | defaultSafe63 | existingGapPreserved
  deriving DecidableEq, Repr

structure GapPolicyConfig where
  enable1394aTable : Bool := true
  optimizeWhenBetaRepeatersUnknown : Bool := false
  useShortResetForPureOptimization : Bool := true
  maxOptimizationAttemptsPerStableTopology : ℕ := 5
  maxMismatchRepairsPerStableTopology : ℕ := 2
  deriving DecidableEq, Repr

structure GapPolicyInputs where
  generation : ℕ := 0
  roleMode : RoleMode := .clientOnly
  activityLevel : FullBMActivityLevel := .observeOnly
  topologyValid : Bool := false
  rootNodeId : ℕ := 0x3F
  localIsBM : Bool := false
  localIsIRM : Bool := false
  irmFallbackGateOpen : Bool := false
  irmFallbackNoBMDetected : Bool := false
  currentGapCount : ℕ := 63
  gapCountConsistent : Bool := true
  maxHopsKnown : Bool := false
  maxHopsFromRoot : ℕ := 0
  betaRepeatersKnown : Bool := false
  betaRepeatersPresent : Bool := false
  rootSelectionRequired : Bool := false
  selectedRootForRootPolicy : ℕ := 0x3F
  topology : Option TopologySnapshot := none
  deriving DecidableEq

structure GapPolicySnapshot where
  generation : ℕ := 0
  lastDecision : GapPolicyDecision := .none
  lastAction : GapPolicyAction := .none
  computationSource : GapComputationSource := .none
  currentGapCount : ℕ := 63
  expectedGapCount : ℕ := 63
  requestedGapCount : ℕ := 0
  maxHopsFromRoot : ℕ := 0
  maxHopsKnown : Bool := false
  gapCountConsistent : Bool := true
  betaRepeatersKnown : Bool := false
  betaRepeatersPresent : Bool := false
  resetRequested : Bool := false
  combinedWithRootSelection : Bool := false
  targetRoot : ℕ := 0x3F
  attemptsThisTopology : ℕ := 0
  totalAttempts : ℕ := 0
  mismatchRepairsThisTopology : ℕ := 0
  retryLimitHit : ℕ := 0
  suppressedCount : ℕ := 0
  deriving DecidableEq, Repr

/-- The arguments of `ForceRootAndGapResetForBMPolicy`. -/
structure GapResetRequest where
  generation : ℕ
  targetRoot : ℕ
  longReset : Bool
  gapCount : ℕ
  deriving DecidableEq, Repr

def kGapCount1394aByMaxHops : List ℕ :=
  [63, 5, 7, 8, 10, 13, 16, 18, 21, 24, 26, 29, 32, 35, 37, 40]

/-! ### The topology key -/

def mix (h : UInt32) (v : ℕ) : UInt32 := (h ^^^ UInt32.ofNat v) * 16777619

/-- The ports a node reports, in order. -/
def portsOf (node : TopologyNodeRecord) : List Port :=
  (List.finRange kMaxPhyPorts).filter fun port => port.val < node.portCount

def mixLink (node : TopologyNodeRecord) (h : UInt32) (port : Port) : UInt32 :=
  let link := node.links port
  if link.connected then
    mix h ((node.physicalId <<< 16) ||| (port.val <<< 8) ||| link.remoteNodeId)
  else h

def mixNode (h : UInt32) (node : TopologyNodeRecord) : UInt32 :=
  let h := mix (mix (mix h node.physicalId) node.portCount) (if node.linkActive then 1 else 0)
  (portsOf node).foldl (mixLink node) h

def stableTopologyKey : Option TopologySnapshot → UInt32
  | none => 0
  | some topology =>
    let h := mix (mix (mix 2166136261 topology.nodeCount) topology.localNodeId) topology.irmNodeId
    topology.physical.nodes.foldl mixNode h

/-- What the key reads of a node: its ID, its ports and the links of those ports. -/
def linksOf (node : TopologyNodeRecord) : List (ℕ × Bool × ℕ) :=
  (portsOf node).map fun port =>
    (port.val, (node.links port).connected, (node.links port).remoteNodeId)

def nodeShape (node : TopologyNodeRecord) : ℕ × ℕ × Bool × List (ℕ × Bool × ℕ) :=
  (node.physicalId, node.portCount, node.linkActive, linksOf node)

/-- The same nodes, ports, links, local ID and IRM. -/
structure SameTopology (t t' : TopologySnapshot) : Prop where
  nodeCount : t.nodeCount = t'.nodeCount
  localNodeId : t.localNodeId = t'.localNodeId
  irmNodeId : t.irmNodeId = t'.irmNodeId
  nodes : t.physical.nodes.map nodeShape = t'.physical.nodes.map nodeShape

lemma mixLinks_congr {node node' : TopologyNodeRecord} (hid : node.physicalId = node'.physicalId)
    {ports ports' : List Port}
    (hlinks : ports.map (fun port =>
        (port.val, (node.links port).connected, (node.links port).remoteNodeId)) =
      ports'.map fun port =>
        (port.val, (node'.links port).connected, (node'.links port).remoteNodeId))
    (h : UInt32) : ports.foldl (mixLink node) h = ports'.foldl (mixLink node') h := by
  induction ports generalizing ports' h with
  | nil =>
    have hnil := List.map_eq_nil_iff.mp hlinks.symm
    rw [hnil, List.foldl_nil, List.foldl_nil]
  | cons port ports ih =>
    cases ports' with
    | nil => exact absurd hlinks (by simp)
    | cons port' ports' =>
      simp only [List.map_cons, List.cons.injEq, Prod.mk.injEq] at hlinks
      obtain ⟨⟨hport, hconnected, hremote⟩, hrest⟩ := hlinks
      have hhead : mixLink node h port = mixLink node' h port' := by
        simp only [mixLink, hid, hport, hconnected, hremote]
      rw [List.foldl_cons, List.foldl_cons, hhead]
      exact ih hrest _

lemma mixNode_congr {node node' : TopologyNodeRecord} (hshape : nodeShape node = nodeShape node')
    (h : UInt32) : mixNode h node = mixNode h node' := by
  simp only [nodeShape, Prod.mk.injEq] at hshape
  obtain ⟨hid, hports, hactive, hlinks⟩ := hshape
  simp only [mixNode, hid, hports, hactive]
  exact mixLinks_congr hid hlinks _

lemma mixNodes_congr {nodes nodes' : List TopologyNodeRecord}
    (hshape : nodes.map nodeShape = nodes'.map nodeShape) (h : UInt32) :
    nodes.foldl mixNode h = nodes'.foldl mixNode h := by
  induction nodes generalizing nodes' h with
  | nil =>
    have hnil := List.map_eq_nil_iff.mp hshape.symm
    rw [hnil]
  | cons node nodes ih =>
    cases nodes' with
    | nil => exact absurd hshape (by simp)
    | cons node' nodes' =>
      simp only [List.map_cons, List.cons.injEq] at hshape
      rw [List.foldl_cons, List.foldl_cons, mixNode_congr hshape.1]
      exact ih hshape.2 _

/-- The key is a function of the topology. -/
lemma stableTopologyKey_congr {t t' : TopologySnapshot} (h : SameTopology t t') :
    stableTopologyKey (some t) = stableTopologyKey (some t') := by
  simp only [stableTopologyKey, h.nodeCount, h.localNodeId, h.irmNodeId]
  exact mixNodes_congr h.nodes _

/-! ### The coordinator -/

structure GapPolicyCoordinator where
  config : GapPolicyConfig := {}
  snapshot : GapPolicySnapshot := {}
  stableTopologyKey : UInt32 := 0
  attemptsThisStableTopology : ℕ := 0
  mismatchRepairsThisStableTopology : ℕ := 0
  deriving DecidableEq, Repr

namespace GapPolicyCoordinator

/-- The reset wipes the generation-scoped part of the snapshot; the counters of the stable topology
are not touched. -/
def onBusResetStarted (c : GapPolicyCoordinator) (generation : ℕ) : GapPolicyCoordinator :=
  { c with
    snapshot :=
      { generation := generation
        totalAttempts := c.snapshot.totalAttempts
        suppressedCount := c.snapshot.suppressedCount } }

def computeExpectedGapCount (config : GapPolicyConfig) (inputs : GapPolicyInputs) :
    ℕ × GapComputationSource :=
  if !inputs.maxHopsKnown then (inputs.currentGapCount, .existingGapPreserved)
  else if !inputs.betaRepeatersKnown && !config.optimizeWhenBetaRepeatersUnknown then
    (63, .defaultSafe63)
  else if inputs.betaRepeatersKnown && inputs.betaRepeatersPresent then (63, .defaultSafe63)
  else if config.enable1394aTable && inputs.maxHopsFromRoot < kGapCount1394aByMaxHops.length then
    (kGapCount1394aByMaxHops.getD inputs.maxHopsFromRoot 63, .table1394a)
  else (63, .defaultSafe63)

def isAllowedActor (inputs : GapPolicyInputs) : Bool :=
  let activeBM := inputs.roleMode = .fullBusManager && inputs.localIsBM
  let fallbackIRM :=
    (inputs.roleMode = .irmResourceHost || inputs.roleMode = .fullBusManager) &&
      inputs.localIsIRM && inputs.irmFallbackGateOpen && inputs.irmFallbackNoBMDetected
  activeBM || fallbackIRM

/-- The part of `Plan` that looks at the gap counts and at the budget. -/
def planGap (c : GapPolicyCoordinator) (inputs : GapPolicyInputs) : GapPolicyDecision :=
  if !inputs.gapCountConsistent then
    if c.config.maxMismatchRepairsPerStableTopology ≤ c.mismatchRepairsThisStableTopology then
      .failedRetryLimit
    else .gapMismatchRequiresLongReset
  else if inputs.currentGapCount = (computeExpectedGapCount c.config inputs).1 then
    .alreadyOptimal
  else if c.config.maxOptimizationAttemptsPerStableTopology ≤ c.attemptsThisStableTopology then
    .failedRetryLimit
  else .gapOptimizationRequired

/-- The part of `Plan` that looks at the node count and at what is known of the bus. -/
def planBus (c : GapPolicyCoordinator) (inputs : GapPolicyInputs) (topology : TopologySnapshot) :
    GapPolicyDecision :=
  if topology.nodeCount ≤ 1 then .suppressedSingleNodeBus
  else if !inputs.maxHopsKnown then .deferMaxHopsUnavailable
  else if !inputs.betaRepeatersKnown && !c.config.optimizeWhenBetaRepeatersUnknown then
    .deferBetaRepeaterUnknown
  else c.planGap inputs

def plan (c : GapPolicyCoordinator) (inputs : GapPolicyInputs) : GapPolicyDecision :=
  match inputs.topology with
  | none => .suppressedByTopology
  | some topology =>
    if !inputs.topologyValid then .suppressedByTopology
    else if inputs.roleMode = .clientOnly then .suppressedByRoleMode
    else if inputs.activityLevel.level < FullBMActivityLevel.gapPolicyAllowed.level then
      .suppressedByActivityLevel
    else if !isAllowedActor inputs then .suppressedNotBMOrFallbackIRM
    else c.planBus inputs topology

/-- A key that is not the stored one starts a new budget. -/
def rekey (c : GapPolicyCoordinator) (key : UInt32) : GapPolicyCoordinator :=
  if key ≠ c.stableTopologyKey then
    { c with
      stableTopologyKey := key
      attemptsThisStableTopology := 0
      mismatchRepairsThisStableTopology := 0 }
  else c

/-- The snapshot as `Evaluate` fills it before it acts on the decision. -/
def planned (c : GapPolicyCoordinator) (inputs : GapPolicyInputs) : GapPolicySnapshot :=
  let expected := computeExpectedGapCount c.config inputs
  { c.snapshot with
    generation := inputs.generation
    currentGapCount := inputs.currentGapCount
    gapCountConsistent := inputs.gapCountConsistent
    maxHopsKnown := inputs.maxHopsKnown
    maxHopsFromRoot := inputs.maxHopsFromRoot
    betaRepeatersKnown := inputs.betaRepeatersKnown
    betaRepeatersPresent := inputs.betaRepeatersPresent
    expectedGapCount := expected.1
    requestedGapCount := expected.1
    computationSource := expected.2
    lastDecision := c.plan inputs
    lastAction := .none
    resetRequested := false
    combinedWithRootSelection := false
    targetRoot := inputs.rootNodeId }

def resetAction (rootSelectionRequired longReset : Bool) : GapPolicyAction :=
  match rootSelectionRequired, longReset with
  | true, true => .forceRootWithGapAndLongReset
  | true, false => .forceRootWithGapAndShortReset
  | false, true => .gapOnlyLongReset
  | false, false => .gapOnlyShortReset

/-- The reset branch: the executor is asked, and what it accepts is counted under the decision. -/
def requestReset (c : GapPolicyCoordinator) (inputs : GapPolicyInputs) (mismatch : Bool)
    (executor : GapResetRequest → Bool) : GapPolicyCoordinator × List GapResetRequest :=
  let longReset := mismatch || !c.config.useShortResetForPureOptimization
  let targetRoot :=
    if inputs.rootSelectionRequired && inputs.selectedRootForRootPolicy ≠ 0x3F then
      inputs.selectedRootForRootPolicy
    else inputs.rootNodeId
  let request : GapResetRequest :=
    ⟨inputs.generation, targetRoot, longReset, (computeExpectedGapCount c.config inputs).1⟩
  let snapshot := { c.planned inputs with
    targetRoot := targetRoot
    combinedWithRootSelection := inputs.rootSelectionRequired
    lastAction := resetAction inputs.rootSelectionRequired longReset }
  if !executor request then
    ({ c with snapshot := { snapshot with lastDecision := .failedExecutorUnavailable } }, [])
  else
    let snapshot := { snapshot with
      resetRequested := true
      totalAttempts := snapshot.totalAttempts + 1 }
    if mismatch then
      ({ c with
        mismatchRepairsThisStableTopology := c.mismatchRepairsThisStableTopology + 1
        snapshot := { snapshot with
          mismatchRepairsThisTopology := c.mismatchRepairsThisStableTopology + 1 } }, [request])
    else
      ({ c with
        attemptsThisStableTopology := c.attemptsThisStableTopology + 1
        snapshot := { snapshot with
          attemptsThisTopology := c.attemptsThisStableTopology + 1 } }, [request])

/-- What a reset request does to the counters: nothing unless it is accepted. -/
lemma requestReset_counters (c : GapPolicyCoordinator) (inputs : GapPolicyInputs)
    (mismatch : Bool) (executor : GapResetRequest → Bool) :
    (c.requestReset inputs mismatch executor).1.config = c.config ∧
      (c.requestReset inputs mismatch executor).1.stableTopologyKey = c.stableTopologyKey ∧
      (c.requestReset inputs mismatch executor).2.length ≤ 1 ∧
      (c.requestReset inputs mismatch executor).1.mismatchRepairsThisStableTopology =
        c.mismatchRepairsThisStableTopology +
          (if mismatch then (c.requestReset inputs mismatch executor).2.length else 0) ∧
      (c.requestReset inputs mismatch executor).1.attemptsThisStableTopology =
        c.attemptsThisStableTopology +
          (if mismatch then 0 else (c.requestReset inputs mismatch executor).2.length) := by
  unfold requestReset
  dsimp only
  split_ifs <;> simp

/-- `Evaluate`, with the resets the executor accepted. -/
def evaluate (c : GapPolicyCoordinator) (inputs : GapPolicyInputs)
    (executor : GapResetRequest → Bool) : GapPolicyCoordinator × List GapResetRequest :=
  let c := c.rekey (Bus.stableTopologyKey inputs.topology)
  let snapshot := c.planned inputs
  match c.plan inputs with
  | .gapMismatchRequiresLongReset => c.requestReset inputs true executor
  | .gapOptimizationRequired => c.requestReset inputs false executor
  | .failedRetryLimit => ({ c with snapshot := { snapshot with retryLimitHit := 1 } }, [])
  | decision =>
    if decision.isSuppression then
      ({ c with
        snapshot := { snapshot with suppressedCount := snapshot.suppressedCount + 1 } }, [])
    else ({ c with snapshot := snapshot }, [])

/-- A reset is planned by the last part alone. -/
lemma planGap_of_plan {c : GapPolicyCoordinator} {inputs : GapPolicyInputs}
    {decision : GapPolicyDecision} (h : c.plan inputs = decision)
    (hreset : decision = .gapMismatchRequiresLongReset ∨ decision = .gapOptimizationRequired) :
    c.planGap inputs = decision := by
  have hbus : ∀ topology, c.planBus inputs topology = decision → c.planGap inputs = decision := by
    intro topology hplan
    unfold planBus at hplan
    split_ifs at hplan
    · rcases hreset with rfl | rfl <;> cases hplan
    · rcases hreset with rfl | rfl <;> cases hplan
    · rcases hreset with rfl | rfl <;> cases hplan
    · exact hplan
  unfold plan at h
  split at h
  next => rcases hreset with rfl | rfl <;> cases h
  next topology _ =>
    split_ifs at h
    · rcases hreset with rfl | rfl <;> cases h
    · rcases hreset with rfl | rfl <;> cases h
    · rcases hreset with rfl | rfl <;> cases h
    · rcases hreset with rfl | rfl <;> cases h
    · exact hbus topology h

lemma plan_mismatch {c : GapPolicyCoordinator} {inputs : GapPolicyInputs}
    (h : c.plan inputs = .gapMismatchRequiresLongReset) :
    c.mismatchRepairsThisStableTopology < c.config.maxMismatchRepairsPerStableTopology := by
  have hgap := planGap_of_plan h (Or.inl rfl)
  unfold planGap at hgap
  split_ifs at hgap
  omega

lemma plan_optimization {c : GapPolicyCoordinator} {inputs : GapPolicyInputs}
    (h : c.plan inputs = .gapOptimizationRequired) :
    c.attemptsThisStableTopology < c.config.maxOptimizationAttemptsPerStableTopology := by
  have hgap := planGap_of_plan h (Or.inr rfl)
  unfold planGap at hgap
  split_ifs at hgap
  omega

/-! ### Runs -/

/-- Both counters are within their budget. -/
structure WithinBudget (c : GapPolicyCoordinator) : Prop where
  attempts : c.attemptsThisStableTopology ≤ c.config.maxOptimizationAttemptsPerStableTopology
  repairs : c.mismatchRepairsThisStableTopology ≤ c.config.maxMismatchRepairsPerStableTopology

def spent (c : GapPolicyCoordinator) : ℕ :=
  c.attemptsThisStableTopology + c.mismatchRepairsThisStableTopology

@[simp] lemma rekey_config (c : GapPolicyCoordinator) (key : UInt32) :
    (c.rekey key).config = c.config := by
  unfold rekey
  split_ifs <;> rfl

@[simp] lemma rekey_key (c : GapPolicyCoordinator) (key : UInt32) :
    (c.rekey key).stableTopologyKey = key := by
  unfold rekey
  split_ifs with h
  · rfl
  · exact (not_not.mp h).symm

lemma withinBudget_rekey {c : GapPolicyCoordinator} (h : c.WithinBudget) (key : UInt32) :
    (c.rekey key).WithinBudget := by
  unfold rekey
  split_ifs
  · exact ⟨Nat.zero_le _, Nat.zero_le _⟩
  · exact h

/-- Nothing is lost when the key stays, or when nothing was spent under the old one. -/
lemma spent_rekey {c : GapPolicyCoordinator} {key : UInt32}
    (h : c.stableTopologyKey = key ∨ c.spent = 0) : (c.rekey key).spent = c.spent := by
  unfold rekey
  split_ifs with hkey
  · rcases h with h | h
    · exact absurd h.symm hkey
    · rw [h]
      rfl
  · rfl

/-- `Evaluate` counts each accepted reset against the budget of the topology it was asked for. -/
theorem evaluate_spec {c : GapPolicyCoordinator} (hbudget : c.WithinBudget)
    (inputs : GapPolicyInputs) (executor : GapResetRequest → Bool) :
    (c.evaluate inputs executor).1.WithinBudget ∧
      (c.evaluate inputs executor).1.config = c.config ∧
      (c.evaluate inputs executor).1.stableTopologyKey = Bus.stableTopologyKey inputs.topology ∧
      (c.evaluate inputs executor).1.spent =
        (c.rekey (Bus.stableTopologyKey inputs.topology)).spent +
          (c.evaluate inputs executor).2.length := by
  have hrekey := withinBudget_rekey hbudget (Bus.stableTopologyKey inputs.topology)
  have hconfig := rekey_config c (Bus.stableTopologyKey inputs.topology)
  have hkey := rekey_key c (Bus.stableTopologyKey inputs.topology)
  unfold evaluate
  dsimp only
  generalize c.rekey (Bus.stableTopologyKey inputs.topology) = c' at hrekey hconfig hkey ⊢
  split
  next hplan =>
    have hlt := plan_mismatch hplan
    obtain ⟨hcfg, hk, hlen, hrepairs, hattempts⟩ := c'.requestReset_counters inputs true executor
    simp only [if_true] at hrepairs hattempts
    refine ⟨⟨?_, ?_⟩, hcfg.trans hconfig, hk.trans hkey, ?_⟩
    · rw [hattempts, hcfg]
      exact hrekey.attempts
    · rw [hrepairs, hcfg]
      omega
    · unfold spent
      omega
  next hplan =>
    have hlt := plan_optimization hplan
    obtain ⟨hcfg, hk, hlen, hrepairs, hattempts⟩ := c'.requestReset_counters inputs false executor
    simp only [Bool.false_eq_true, if_false] at hrepairs hattempts
    refine ⟨⟨?_, ?_⟩, hcfg.trans hconfig, hk.trans hkey, ?_⟩
    · rw [hattempts, hcfg]
      omega
    · rw [hrepairs, hcfg]
      exact hrekey.repairs
    · unfold spent
      omega
  next => exact ⟨⟨hrekey.attempts, hrekey.repairs⟩, hconfig, hkey, rfl⟩
  next =>
    split_ifs
    · exact ⟨⟨hrekey.attempts, hrekey.repairs⟩, hconfig, hkey, rfl⟩
    · exact ⟨⟨hrekey.attempts, hrekey.repairs⟩, hconfig, hkey, rfl⟩

/-- Without a snapshot no reset is asked for. -/
lemma evaluate_none (c : GapPolicyCoordinator) {inputs : GapPolicyInputs}
    (h : inputs.topology = none) (executor : GapResetRequest → Bool) :
    (c.evaluate inputs executor).2 = [] := by
  have hplan : ∀ c' : GapPolicyCoordinator, c'.plan inputs = .suppressedByTopology := by
    intro c'
    unfold plan
    rw [h]
  unfold evaluate
  dsimp only
  rw [hplan]
  rfl

end GapPolicyCoordinator

inductive GapPolicyEvent
  | busResetStarted (generation : ℕ)
  | evaluate (inputs : GapPolicyInputs) (executor : GapResetRequest → Bool)

structure GapPolicyRun where
  coordinator : GapPolicyCoordinator
  accepted : List GapResetRequest := []

namespace GapPolicyRun

def start (config : GapPolicyConfig) : GapPolicyRun := { coordinator := { config := config } }

def step (s : GapPolicyRun) : GapPolicyEvent → GapPolicyRun
  | .busResetStarted generation =>
    { s with coordinator := s.coordinator.onBusResetStarted generation }
  | .evaluate inputs executor =>
    let r := s.coordinator.evaluate inputs executor
    { coordinator := r.1, accepted := s.accepted ++ r.2 }

/-- Every snapshot the event carries shows the topology of `t`. -/
def OnTopology (t : TopologySnapshot) : GapPolicyEvent → Prop
  | .busResetStarted _ => True
  | .evaluate inputs _ => ∀ t' ∈ inputs.topology, SameTopology t' t

/-- A call without a snapshot finds nothing spent, or the key it stands for already stored. -/
def KeepsBudget (s : GapPolicyRun) : GapPolicyEvent → Prop
  | .busResetStarted _ => True
  | .evaluate inputs _ => inputs.topology = none →
    s.coordinator.stableTopologyKey = 0 ∨ s.coordinator.spent = 0

instance (s : GapPolicyRun) (e : GapPolicyEvent) : Decidable (s.KeepsBudget e) := by
  unfold KeepsBudget
  cases e <;> infer_instance

/-- The accepted resets are the ones on the counters, and the counters belong to the topology. -/
structure Budgeted (config : GapPolicyConfig) (key : UInt32) (s : GapPolicyRun) : Prop where
  config_eq : s.coordinator.config = config
  within : s.coordinator.WithinBudget
  accepted_eq : s.accepted.length = s.coordinator.spent
  keyed : s.coordinator.stableTopologyKey = key ∨ s.coordinator.spent = 0

lemma budgeted_start (config : GapPolicyConfig) (key : UInt32) :
    (start config).Budgeted config key where
  config_eq := rfl
  within := ⟨Nat.zero_le _, Nat.zero_le _⟩
  accepted_eq := rfl
  keyed := Or.inr rfl

/-- A call finds the key it computes already stored, or nothing spent. -/
lemma keyed_of_keepsBudget {config : GapPolicyConfig} {t : TopologySnapshot} {s : GapPolicyRun}
    (h : s.Budgeted config (stableTopologyKey (some t))) {inputs : GapPolicyInputs}
    {executor : GapResetRequest → Bool} (htopology : OnTopology t (.evaluate inputs executor))
    (hkeeps : s.KeepsBudget (.evaluate inputs executor)) :
    s.coordinator.stableTopologyKey = stableTopologyKey inputs.topology ∨
      s.coordinator.spent = 0 := by
  cases hcase : inputs.topology with
  | none => exact hkeeps hcase
  | some t' =>
    rw [stableTopologyKey_congr (htopology t' hcase)]
    exact h.keyed

theorem budgeted_step {config : GapPolicyConfig} {t : TopologySnapshot} {s : GapPolicyRun}
    {e : GapPolicyEvent} (h : s.Budgeted config (stableTopologyKey (some t)))
    (htopology : OnTopology t e) (hkeeps : s.KeepsBudget e) :
    (s.step e).Budgeted config (stableTopologyKey (some t)) := by
  cases e with
  | busResetStarted generation =>
    exact ⟨h.config_eq, ⟨h.within.attempts, h.within.repairs⟩, h.accepted_eq, h.keyed⟩
  | evaluate inputs executor =>
    have hkeyed := keyed_of_keepsBudget h htopology hkeeps
    obtain ⟨hwithin, hconfig, hkey, hspent⟩ :=
      GapPolicyCoordinator.evaluate_spec h.within inputs executor
    rw [GapPolicyCoordinator.spent_rekey hkeyed, ← h.accepted_eq] at hspent
    constructor
    · exact hconfig.trans h.config_eq
    · exact hwithin
    · exact (List.length_append).trans hspent.symm
    · cases hcase : inputs.topology with
      | none =>
        rw [GapPolicyCoordinator.evaluate_none _ hcase executor] at hspent
        have hspent' : (s.step (.evaluate inputs executor)).coordinator.spent =
          s.coordinator.spent := hspent.trans h.accepted_eq
        rcases hkeeps hcase with hzero | hzero
        · rcases h.keyed with hkeyed | hkeyed
          · left
            rw [← hkeyed, hzero]
            exact hkey.trans (by rw [hcase]; rfl)
          · exact Or.inr (hspent'.trans hkeyed)
        · exact Or.inr (hspent'.trans hzero)
      | some t' =>
        left
        rw [← stableTopologyKey_congr (htopology t' hcase), ← hcase]
        exact hkey

/-- On a stable topology, in a run that keeps its budget, no more resets are accepted than the
configuration allows. -/
theorem accepted_bounded (config : GapPolicyConfig) (t : TopologySnapshot)
    (events : List GapPolicyEvent) (htopology : ∀ e ∈ events, OnTopology t e)
    (hkeeps : Meets step KeepsBudget (start config) events) :
    (run step (start config) events).accepted.length ≤
      config.maxOptimizationAttemptsPerStableTopology +
        config.maxMismatchRepairsPerStableTopology := by
  have hrun : ∀ (s : GapPolicyRun) (events : List GapPolicyEvent),
      (∀ e ∈ events, OnTopology t e) → Meets step KeepsBudget s events →
      s.Budgeted config (stableTopologyKey (some t)) →
      (run step s events).Budgeted config (stableTopologyKey (some t)) := by
    intro s events
    induction events generalizing s with
    | nil =>
      intro _ _ h
      exact h
    | cons e events ih =>
      intro htop hmeets h
      apply ih (step s e) (fun e' he' => htop e' (List.mem_cons_of_mem e he')) hmeets.2
      exact budgeted_step h (htop e List.mem_cons_self) hmeets.1
  have hend := hrun _ events htopology hkeeps (budgeted_start config _)
  have hattempts := hend.within.attempts
  have hrepairs := hend.within.repairs
  rw [hend.config_eq] at hattempts hrepairs
  have haccepted := hend.accepted_eq
  unfold GapPolicyCoordinator.spent at haccepted
  omega

/-! ### A storm -/

/-- A bus manager on a two-node bus whose gap count is not the one of the table. -/
def unoptimisedInputs : GapPolicyInputs where
  roleMode := .fullBusManager
  activityLevel := .gapPolicyAllowed
  topologyValid := true
  rootNodeId := 1
  localIsBM := true
  maxHopsKnown := true
  maxHopsFromRoot := 1
  betaRepeatersKnown := true
  topology := some (ElectionWorld.remoteRootSnapshot 1)

def optimise : GapPolicyEvent := .evaluate unoptimisedInputs fun _ => true

/-- The reset in progress: the snapshot is not there yet. -/
def resetInProgress : List GapPolicyEvent :=
  [.busResetStarted 2, .evaluate { unoptimisedInputs with topology := none } fun _ => true]

def stormEvents : List GapPolicyEvent :=
  List.replicate 5 optimise ++ resetInProgress ++ List.replicate 5 optimise

lemma sameTopology_refl (t : TopologySnapshot) : SameTopology t t := ⟨rfl, rfl, rfl, rfl⟩

lemma onTopology_optimise : OnTopology (ElectionWorld.remoteRootSnapshot 1) optimise := by
  intro t' ht'
  obtain rfl : ElectionWorld.remoteRootSnapshot 1 = t' := Option.some.inj ht'
  exact sameTopology_refl _

lemma onTopology_resetInProgress :
    ∀ e ∈ resetInProgress, OnTopology (ElectionWorld.remoteRootSnapshot 1) e := by
  intro e he
  simp only [resetInProgress, List.mem_cons, List.not_mem_nil, or_false] at he
  rcases he with rfl | rfl
  · trivial
  · intro t' ht'
    exact absurd ht' (by simp)

/-- One call without a snapshot gives the whole budget back. -/
theorem budget_exceeded :
    (∀ e ∈ stormEvents, OnTopology (ElectionWorld.remoteRootSnapshot 1) e) ∧
      ¬(run step (start {}) stormEvents).accepted.length ≤
        ({} : GapPolicyConfig).maxOptimizationAttemptsPerStableTopology +
          ({} : GapPolicyConfig).maxMismatchRepairsPerStableTopology := by
  constructor
  · intro e he
    simp only [stormEvents, List.mem_append] at he
    rcases he with (he | he) | he
    · rw [List.eq_of_mem_replicate he]
      exact onTopology_optimise
    · exact onTopology_resetInProgress e he
    · rw [List.eq_of_mem_replicate he]
      exact onTopology_optimise
  · decide +kernel

/-- The calls without a snapshot come before the first reset is accepted. -/
def settledEvents : List GapPolicyEvent :=
  resetInProgress ++ List.replicate 5 optimise

theorem settledEvents_bounded :
    Meets step KeepsBudget (start {}) settledEvents ∧
      (run step (start {}) settledEvents).accepted.length = 5 ∧
      (run step (start {}) settledEvents).accepted.length ≤ 5 + 2 := by
  have hmeets : Meets step KeepsBudget (start {}) settledEvents := by
    decide +kernel
  have htopology : ∀ e ∈ settledEvents, OnTopology (ElectionWorld.remoteRootSnapshot 1) e := by
    intro e he
    rcases List.mem_append.mp he with he | he
    · exact onTopology_resetInProgress e he
    · rw [List.eq_of_mem_replicate he]
      exact onTopology_optimise
  exact ⟨hmeets, by decide +kernel, accepted_bounded {} _ settledEvents htopology hmeets⟩

end GapPolicyRun

end ASFireWire.Bus
