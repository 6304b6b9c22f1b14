import ASFireWire.ROMScanSession

/-! Runs of a scan session: what is out for which node, which ROMs are collected, how much work is
left, and that the completion handler is called exactly once. -/
namespace ASFireWire.Discovery

open ASFireWire.ConfigROM ASFireWire.Async Quadlets Resumptions Resumption Runs

namespace ROMScanNode

/-- A read, a lock or a timer is out for the node. -/
def awaits (node : ROMScanNode) : Bool :=
  match node.state with
  | .idle | .complete | .failed => false
  | _ => true

/-- The node owes a ROM to the completion handler. -/
def delivers (node : ROMScanNode) : Bool :=
  node.state = .complete && node.partialROM.bib.format ≠ .minimal1212

def key (node : ROMScanNode) : ℕ × ScanState := (node.nodeId, node.state)

/-- The bus information block was read and has a root directory behind it. -/
def pastBIB (node : ROMScanNode) : Bool :=
  node.state = .verifyingIRMRead || node.state = .verifyingIRMLock ||
    node.state = .readingRootDir || node.state = .readingDetails

structure Sound (params : ROMScannerParams) (node : ROMScanNode) : Prop where
  busy : node.bibInProgress = true → node.state = .readingBIB
  general : node.pastBIB = true → node.partialROM.bib.format ≠ .minimal1212
  romId : node.partialROM.nodeId = node.nodeId
  ready : node.configROMReadyRetriesLeft ≤ params.configROMReadyRetries
  retries : node.retriesLeft ≤ params.perStepRetries

end ROMScanNode

namespace PendingWork

/-- The node a work is for, in the state that waits for it. -/
def key : PendingWork → ℕ × ScanState
  | .startScan _ | .abortScan => (0, .idle)
  | .bibRead nodeId _ _ => (nodeId, .readingBIB)
  | .irmRead nodeId => (nodeId, .verifyingIRMRead)
  | .irmLock nodeId => (nodeId, .verifyingIRMLock)
  | .rootDirRead nodeId _ _ _ => (nodeId, .readingRootDir)
  | .prefixRead nodeId _ _ _ _ _ _ => (nodeId, .readingDetails)
  | .readyRetry nodeId => (nodeId, .waitingConfigROMReady)

/-- The works `inflight_` counts. -/
def isRead : PendingWork → Bool
  | .startScan _ | .abortScan | .readyRetry _ => false
  | _ => true

/-- The discovery a prefix read goes on with. -/
def suspended (nodeId required : ℕ) (next : Bool → ConfigROM → DetailsDiscovery) :
    DetailsDiscovery := .ask { nodeId := nodeId } required next

/-- The work belongs to the scan of the generation, and its discovery is bounded. -/
def OfScan (gen : ℕ) : PendingWork → Prop
  | .startScan _ | .abortScan => False
  | .bibRead _ generation _ => generation = gen
  | .rootDirRead _ generation _ _ => generation = gen
  | .prefixRead nodeId generation _ _ _ required next =>
    generation = gen ∧ ∃ n, Within (GeneralROM nodeId) n (suspended nodeId required next)
  | .irmRead _ | .irmLock _ | .readyRetry _ => True

/-- How many more prefix reads the work can lead to, itself included. -/
noncomputable def left : PendingWork → ℕ
  | .prefixRead nodeId _ _ _ _ required next =>
    depth (GeneralROM nodeId) (suspended nodeId required next)
  | _ => 0

end PendingWork

/-- What is left of the retries of a node: readiness waits, retries at this speed and at the lower
ones. -/
def ROMScanNode.attempts (params : ROMScannerParams) (node : ROMScanNode) : ℕ :=
  node.configROMReadyRetriesLeft + node.retriesLeft +
    node.currentSpeed.code * (params.perStepRetries + 1)

/-- A bound on the events a node still needs while no root directory read fails. -/
def ROMScanNode.left (params : ROMScannerParams) (node : ROMScanNode) : ℕ :=
  match node.state with
  | .idle | .readingBIB => 2 * node.attempts params + kDetailsBound + 4
  | .waitingConfigROMReady => 2 * node.attempts params + kDetailsBound + 5
  | .verifyingIRMRead => kDetailsBound + 3
  | .verifyingIRMLock => kDetailsBound + 2
  | .readingRootDir => kDetailsBound + 1
  | .readingDetails | .complete | .failed => 0

/-- What a call of the completion handler owes: the generation, every node of the scan at its end,
and one ROM for each node that delivers. -/
structure ScanCompletion.Accounts (gen : ℕ) (ids : List ℕ) (c : ScanCompletion) : Prop where
  gen : c.gen = gen
  ids : c.nodes.map (fun node => node.nodeId) = ids
  terminal : ∀ node ∈ c.nodes, node.isTerminal = true
  roms : (c.roms.map fun rom => rom.nodeId).Perm
    ((c.nodes.filter ROMScanNode.delivers).map fun node => node.nodeId)

namespace ROMScanSession

noncomputable def leftOf (s : ROMScanSession) (nodes : List ROMScanNode) : ℕ :=
  (nodes.map (ROMScanNode.left s.params)).sum + (s.pending.map PendingWork.left).sum

/-- The scan of `gen` goes on and accounts for `nodes`: what is pending is what they wait for, one
work a node, and the collected ROMs are theirs. -/
structure Scanning (params : ROMScannerParams) (gen : ℕ) (s : ROMScanSession)
    (nodes : List ROMScanNode) : Prop where
  sameParams : s.params = params
  notAborted : s.aborted = false
  atGen : s.gen = gen
  handler : s.completion = true
  notNotified : s.completionNotified = false
  notCalled : s.completions = []
  awaited : (s.pending.map PendingWork.key).Perm
    ((nodes.filter ROMScanNode.awaits).map ROMScanNode.key)
  current : ∀ work ∈ s.pending, work.OfScan gen
  inflight : s.inflight = s.pending.countP PendingWork.isRead
  roms : (s.completedROMs.map fun rom => rom.nodeId).Perm
    ((nodes.filter ROMScanNode.delivers).map fun node => node.nodeId)
  nodup : (nodes.map fun node => node.nodeId).Nodup
  sound : ∀ node ∈ nodes, node.Sound params

variable {params : ROMScannerParams} {gen N b : ℕ} {ids : List ℕ} {s : ROMScanSession}
  {node : ROMScanNode} {nodes others : List ROMScanNode} {work : PendingWork}

lemma Scanning.perm (h : Scanning params gen s nodes) (hperm : nodes.Perm others) :
    Scanning params gen s others :=
  { h with
    awaited := h.awaited.trans ((hperm.filter _).map _)
    roms := h.roms.trans ((hperm.filter _).map _)
    nodup := (hperm.map _).nodup h.nodup
    sound := fun node hmem => h.sound node (hperm.mem_iff.mpr hmem) }

lemma leftOf_perm (s : ROMScanSession) (hperm : nodes.Perm others) :
    s.leftOf nodes = s.leftOf others := by
  unfold leftOf
  rw [(hperm.map (ROMScanNode.left s.params)).sum_eq]

lemma leftOf_cons (s : ROMScanSession) (node : ROMScanNode) (nodes : List ROMScanNode) :
    s.leftOf (node :: nodes) = node.left s.params + s.leftOf nodes := by
  simp only [leftOf, List.map_cons, List.sum_cons]
  omega

/-! ### One node more in the account -/

lemma Scanning.add_quiet (h : Scanning params gen s nodes) (hsound : node.Sound params)
    (hnew : node.nodeId ∉ nodes.map fun node => node.nodeId) (hawaits : node.awaits = false)
    (hdelivers : node.delivers = false) : Scanning params gen s (node :: nodes) :=
  { h with
    awaited := by simpa [hawaits] using h.awaited
    roms := by simpa [hdelivers] using h.roms
    nodup := List.nodup_cons.mpr ⟨hnew, h.nodup⟩
    sound := List.forall_mem_cons.mpr ⟨hsound, h.sound⟩ }

lemma awaits_not_delivers (h : node.awaits = true) : node.delivers = false := by
  unfold ROMScanNode.awaits at h
  unfold ROMScanNode.delivers
  split at h <;> simp_all

lemma Scanning.add_awaiting (h : Scanning params gen s nodes) (hsound : node.Sound params)
    (hnew : node.nodeId ∉ nodes.map fun node => node.nodeId) (hawaits : node.awaits = true)
    (hkey : work.key = node.key) (hscan : work.OfScan gen) :
    Scanning params gen
      { s with inflight := s.inflight + if work.isRead then 1 else 0, pending := s.pending ++ [work] }
      (node :: nodes) :=
  { h with
    awaited := by
      simp only [List.map_append, List.map_cons, List.map_nil, List.filter_cons, hawaits, if_true,
        hkey]
      exact (List.perm_append_singleton _ _).trans (h.awaited.cons _)
    current := by
      intro w hw
      rcases List.mem_append.mp hw with hold | hnew
      · exact h.current w hold
      · exact List.mem_singleton.mp hnew ▸ hscan
    inflight := by
      simp only [List.countP_append, List.countP_singleton, h.inflight]
    roms := by simpa [awaits_not_delivers hawaits] using h.roms
    nodup := List.nodup_cons.mpr ⟨hnew, h.nodup⟩
    sound := List.forall_mem_cons.mpr ⟨hsound, h.sound⟩ }

lemma Scanning.add_delivering (h : Scanning params gen s nodes) (hsound : node.Sound params)
    (hnew : node.nodeId ∉ nodes.map fun node => node.nodeId) (hdelivers : node.delivers = true)
    {rom : ConfigROM} (hrom : rom.nodeId = node.nodeId) :
    Scanning params gen { s with completedROMs := s.completedROMs ++ [rom] } (node :: nodes) :=
  { h with
    awaited := by
      have hawaits : node.awaits = false := by
        by_contra hne
        simp [awaits_not_delivers (Bool.eq_true_of_not_eq_false hne)] at hdelivers
      simpa [hawaits] using h.awaited
    roms := by
      simp only [List.map_append, List.map_cons, List.map_nil, List.filter_cons, hdelivers,
        if_true, hrom]
      exact (List.perm_append_singleton _ _).trans (h.roms.cons _)
    nodup := List.nodup_cons.mpr ⟨hnew, h.nodup⟩
    sound := List.forall_mem_cons.mpr ⟨hsound, h.sound⟩ }

/-- What a pending work belongs to, once it is taken out of the list. -/
lemma Scanning.take (h : Scanning params gen s nodes) {index : ℕ}
    (hwork : s.pending[index]? = some work) :
    ∃ node others, nodes.Perm (node :: others) ∧ node.key = work.key ∧ node.awaits = true ∧
      node.Sound params ∧ (node.nodeId ∉ others.map fun node => node.nodeId) ∧
      work.OfScan gen ∧
      s.leftOf nodes = work.left + node.left params +
        { s with pending := s.pending.eraseIdx index }.leftOf others ∧
      Scanning params gen
        { s with
          pending := s.pending.eraseIdx index
          inflight := s.inflight - if work.isRead then 1 else 0 } others := by
  obtain ⟨hlt, hget⟩ := List.getElem?_eq_some_iff.mp hwork
  have hperm : (work :: s.pending.eraseIdx index).Perm s.pending := by
    rw [← hget]
    exact List.getElem_cons_eraseIdx_perm hlt
  have hmem : work ∈ s.pending := List.mem_of_getElem? hwork
  have hkeys : work.key ∈ (nodes.filter ROMScanNode.awaits).map ROMScanNode.key :=
    h.awaited.mem_iff.mp (List.mem_map_of_mem hmem)
  obtain ⟨node, hnode, hkey⟩ := List.mem_map.mp hkeys
  obtain ⟨hin, hawaits⟩ := List.mem_filter.mp hnode
  obtain ⟨pre, post, hsplit⟩ := List.append_of_mem hin
  have hnodes : nodes.Perm (node :: (pre ++ post)) := by
    rw [hsplit]
    exact List.perm_middle
  have h' := h.perm hnodes
  have hcount := hperm.countP_eq PendingWork.isRead
  refine ⟨node, pre ++ post, hnodes, hkey, hawaits, h.sound node hin,
    (List.nodup_cons.mp h'.nodup).1, h.current work hmem, ?_, ?_⟩
  · rw [leftOf_perm s hnodes, leftOf_cons]
    unfold leftOf
    rw [← (hperm.map PendingWork.left).sum_eq, List.map_cons, List.sum_cons]
    simp only [h.sameParams]
    omega
  · exact
      { h' with
        awaited := by
          have haw := (hperm.map PendingWork.key).trans h'.awaited
          simp only [List.map_cons, List.filter_cons, hawaits, if_true, hkey] at haw
          exact haw.cons_inv
        current := fun w hw => h.current w (List.mem_of_mem_eraseIdx hw)
        inflight := by
          simp only [h.inflight, ← hcount, List.countP_cons]
          omega
        roms := by simpa [awaits_not_delivers hawaits] using h'.roms
        nodup := (List.nodup_cons.mp h'.nodup).2
        sound := fun n hn => h'.sound n (List.mem_cons_of_mem _ hn) }

/-! ### The node in hand -/

/-- Between two tasks: the account is over all nodes of the session. -/
structure Ready (params : ROMScannerParams) (gen : ℕ) (ids : List ℕ) (N : ℕ) (s : ROMScanSession) :
    Prop where
  scanning : Scanning params gen s s.nodeScans
  ids : s.nodeScans.map (fun node => node.nodeId) = ids
  left : s.leftOf s.nodeScans ≤ N

/-- Within a task: the account leaves out one node, whose next stage may take `b` events. -/
structure Held (params : ROMScannerParams) (gen : ℕ) (ids : List ℕ) (N b : ℕ) (s : ROMScanSession)
    (node : ROMScanNode) : Prop where
  split : ∃ pre old post, s.nodeScans = pre ++ old :: post ∧ old.nodeId = node.nodeId ∧
    (node.nodeId ∉ (pre ++ post).map fun node => node.nodeId) ∧
    Scanning params gen s (pre ++ post) ∧ s.leftOf (pre ++ post) + b ≤ N
  ids : s.nodeScans.map (fun node => node.nodeId) = ids
  sound : node.Sound params

lemma replaceNode_split {pre post : List ROMScanNode} {old : ROMScanNode}
    (hold : old.nodeId = node.nodeId)
    (hnew : node.nodeId ∉ (pre ++ post).map fun node => node.nodeId) :
    replaceNode node (pre ++ old :: post) = pre ++ node :: post := by
  induction pre with
  | nil => simp [replaceNode, hold]
  | cons first pre ih =>
    simp only [List.cons_append, List.map_cons, List.mem_cons, not_or] at hnew
    simp only [List.cons_append, replaceNode, if_neg (Ne.symm hnew.1), ih hnew.2]

lemma Held.put (h : Held params gen ids N b s node) :
    ∃ pre post, (s.put node).nodeScans = pre ++ node :: post ∧
      (node.nodeId ∉ (pre ++ post).map fun node => node.nodeId) ∧
      Scanning params gen s (pre ++ post) ∧ s.leftOf (pre ++ post) + b ≤ N ∧
      (s.put node).nodeScans.map (fun node => node.nodeId) = ids := by
  obtain ⟨pre, old, post, hsplit, hold, hnew, hscan, hleft⟩ := h.split
  have hput : (s.put node).nodeScans = pre ++ node :: post := by
    simp only [ROMScanSession.put, hsplit, replaceNode_split hold hnew]
  refine ⟨pre, post, hput, hnew, hscan, hleft, ?_⟩
  rw [hput, ← h.ids, hsplit]
  simp [hold]

/-- The node may change in hand, as long as it stays the same node. -/
lemma Held.update (h : Held params gen ids N b s node) {node' : ROMScanNode}
    (hsound : node'.Sound params) (hid : node'.nodeId = node.nodeId) {b' : ℕ} (hb : b' ≤ b) :
    Held params gen ids N b' s node' := by
  obtain ⟨pre, old, post, hsplit, hold, hnew, hscan, hleft⟩ := h.split
  exact ⟨⟨pre, old, post, hsplit, hold.trans hid.symm, hid ▸ hnew, hscan, by omega⟩, h.ids,
    hsound⟩

/-- The node written back may still be in hand. -/
lemma Held.of_put (h : Held params gen ids N b s node) :
    Held params gen ids N b (s.put node) node := by
  obtain ⟨pre, post, hput, hnew, hscan, hleft, hids⟩ := h.put
  exact ⟨⟨pre, node, post, hput, rfl, hnew, { hscan with }, hleft⟩, hids, h.sound⟩

lemma Held.findNode (h : Held params gen ids N b s node) :
    (s.put node).findNode node.nodeId = some node := by
  obtain ⟨pre, post, hput, hnew, hscan, hleft, hids⟩ := h.put
  unfold ROMScanSession.findNode
  rw [hput, List.find?_append]
  have hpre : pre.find? (fun n => n.nodeId = node.nodeId) = none := by
    apply List.find?_eq_none.mpr
    intro n hn heq
    apply hnew
    simp only [List.map_append, List.mem_append, List.mem_map]
    exact Or.inl ⟨n, hn, by simpa using heq⟩
  simp [hpre]

/-- A node that waits for nothing goes back into the account. -/
lemma Held.settle_quiet (h : Held params gen ids N b s node) (hawaits : node.awaits = false)
    (hdelivers : node.delivers = false) (hb : node.left params ≤ b) :
    Ready params gen ids N (s.put node) := by
  obtain ⟨pre, post, hput, hnew, hscan, hleft, hids⟩ := h.put
  have hadd := hscan.add_quiet h.sound hnew hawaits hdelivers
  refine ⟨?_, hids, ?_⟩
  · rw [hput]
    exact { hadd.perm List.perm_middle.symm with }
  · rw [hput, leftOf_perm _ List.perm_middle, leftOf_cons]
    have hparams : (s.put node).params = params := hscan.sameParams
    rw [hparams]
    change _ + s.leftOf (pre ++ post) ≤ N
    omega

/-- A node goes back with the work it waits for. -/
lemma Held.settle_awaiting (h : Held params gen ids N b s node) (hawaits : node.awaits = true)
    (hscanOf : work.OfScan gen) (hkey : work.key = node.key)
    (hb : node.left params + work.left ≤ b) :
    Ready params gen ids N
      { s.put node with
        inflight := s.inflight + if work.isRead then 1 else 0
        pending := s.pending ++ [work] } := by
  obtain ⟨pre, post, hput, hnew, hscan, hleft, hids⟩ := h.put
  have hadd := hscan.add_awaiting h.sound hnew hawaits hkey hscanOf
  refine ⟨?_, hids, ?_⟩
  · dsimp only
    rw [hput]
    exact { hadd.perm List.perm_middle.symm with }
  · dsimp only
    rw [hput, leftOf_perm _ List.perm_middle, leftOf_cons]
    have hparams : s.params = params := hscan.sameParams
    simp only [leftOf, ROMScanSession.put, hparams, List.map_append, List.sum_append,
      List.map_cons, List.map_nil, List.sum_cons, List.sum_nil] at hleft ⊢
    omega

/-- A node goes back with its ROM. -/
lemma Held.settle_delivering (h : Held params gen ids N b s node)
    (hdelivers : node.delivers = true) (hb : node.left params ≤ b) :
    Ready params gen ids N
      ({ s with completedROMs := s.completedROMs ++ [node.partialROM] }.put node) := by
  obtain ⟨pre, post, hput, hnew, hscan, hleft, hids⟩ := h.put
  have hadd := hscan.add_delivering h.sound hnew hdelivers h.sound.romId
  refine ⟨?_, hids, ?_⟩
  · change Scanning params gen _ (s.put node).nodeScans
    rw [hput]
    exact { hadd.perm List.perm_middle.symm with }
  · change ROMScanSession.leftOf _ (s.put node).nodeScans ≤ N
    rw [hput, leftOf_perm _ List.perm_middle, leftOf_cons]
    have hparams : s.params = params := hscan.sameParams
    change node.left s.params + s.leftOf (pre ++ post) ≤ N
    rw [hparams]
    omega

/-! ### The end of a scan -/

/-- The handler was called once and nothing is left to do. -/
structure Finished (gen : ℕ) (ids : List ℕ) (s : ROMScanSession) : Prop where
  called : ∃ c, s.completions = [c] ∧ c.Accounts gen ids
  nothingLeft : s.pending = []
  notified : s.completionNotified = true
  inert : s.nodeScans = []

/-- After a task: the scan goes on and waits for something, or it is finished. -/
def Settled (params : ROMScannerParams) (gen : ℕ) (ids : List ℕ) (N : ℕ) (s : ROMScanSession) :
    Prop :=
  (Ready params gen ids N s ∧ s.pending ≠ []) ∨ Finished gen ids s

lemma Ready.maybeFinish (h : Ready params gen ids N s) (hgen : gen ≠ 0) :
    (s.maybeFinish = s ∧ ∃ node ∈ s.nodeScans, node.isTerminal = false) ∨
      Finished gen ids s.maybeFinish := by
  have hscan := h.scanning
  by_cases hall : s.nodeScans.all ROMScanNode.isTerminal
  · have hnone : s.nodeScans.filter ROMScanNode.awaits = [] := by
      apply List.filter_eq_nil_iff.mpr
      intro node hnode
      have hterminal := List.all_eq_true.mp hall node hnode
      unfold ROMScanNode.isTerminal at hterminal
      unfold ROMScanNode.awaits
      cases hstate : node.state <;> simp_all
    have hpending : s.pending = [] := by
      have hawaited := hscan.awaited
      rw [hnone] at hawaited
      exact List.map_eq_nil_iff.mp hawaited.eq_nil
    have hinflight : s.inflight = 0 := by simp [hscan.inflight, hpending]
    right
    have hfinish : s.maybeFinish =
        { s with
          completionNotified := true
          completion := false
          nodeScans := []
          completedROMs := []
          inflight := 0
          gen := 0
          hadBusyNodes := false
          completions := s.completions ++
            [⟨s.gen, s.completedROMs, s.hadBusyNodes, s.nodeScans⟩] } := by
      unfold ROMScanSession.maybeFinish
      simp [hscan.notAborted, hscan.notNotified, hscan.handler, hscan.atGen, hgen, hinflight, hall]
    rw [hfinish]
    refine ⟨⟨_, by rw [hscan.notCalled]; rfl, ?_⟩, hpending, rfl, rfl⟩
    exact ⟨hscan.atGen, h.ids, fun node hnode => List.all_eq_true.mp hall node hnode, hscan.roms⟩
  · left
    have hnonempty : s.nodeScans ≠ [] := by
      intro hnil
      simp [hnil] at hall
    obtain ⟨node, hnode, hterminal⟩ : ∃ node ∈ s.nodeScans, node.isTerminal = false := by
      simpa using hall
    refine ⟨?_, node, hnode, hterminal⟩
    unfold ROMScanSession.maybeFinish
    split_ifs with haborted hnotified hzero hbusy hopen
    · rfl
    · rfl
    · rfl
    · rfl
    · rfl
    · exact absurd ⟨hnonempty, hall⟩ hopen

/-! ### The pump -/

lemma notifyRootBIBPending_view (s : ROMScanSession) (nodeId : ℕ) :
    ∃ started terminal evidence, s.notifyRootBIBPending nodeId =
      { s with
        rootProbeStarted := started
        rootProbeTerminal := terminal
        rootEvidence := evidence } := by
  unfold notifyRootBIBPending report
  split_ifs
  · exact ⟨_, _, _, rfl⟩
  · exact ⟨_, _, _, rfl⟩

/-- The read an idle node starts with. -/
lemma startBIBRead_scanning (h : Scanning params gen s (node :: others))
    (hidle : node.state = .idle) :
    Scanning params gen (s.startBIBRead node).1 ((s.startBIBRead node).2 :: others) ∧
      (s.startBIBRead node).2.nodeId = node.nodeId ∧
      (s.startBIBRead node).2.state = .readingBIB ∧
      (s.startBIBRead node).1.leftOf ((s.startBIBRead node).2 :: others) =
        s.leftOf (node :: others) ∧
      0 < (s.startBIBRead node).1.inflight := by
  have hstart : s.startBIBRead node =
      ((s.notifyRootBIBPending node.nodeId).issue (.bibRead node.nodeId s.gen node.currentSpeed),
        { node with state := .readingBIB, bibInProgress := true }) := by
    simp [startBIBRead, transitionNodeState, ROMScanNode.canTransitionTo, hidle]
  obtain ⟨started, terminal, evidence, hview⟩ := notifyRootBIBPending_view s node.nodeId
  have hsound := h.sound node (by simp)
  have hrest : Scanning params gen s others :=
    { h with
      awaited := by simpa [ROMScanNode.awaits, hidle] using h.awaited
      roms := by simpa [ROMScanNode.delivers, hidle] using h.roms
      nodup := (List.nodup_cons.mp h.nodup).2
      sound := fun n hn => h.sound n (List.mem_cons_of_mem _ hn) }
  have hreading : ROMScanNode.Sound params
      { node with state := .readingBIB, bibInProgress := true } :=
    ⟨fun _ => rfl, fun hpast => by simp [ROMScanNode.pastBIB] at hpast, hsound.romId, hsound.ready,
      hsound.retries⟩
  have hread : (PendingWork.bibRead node.nodeId s.gen node.currentSpeed).OfScan gen := h.atGen
  have hadd := hrest.add_awaiting hreading (List.nodup_cons.mp h.nodup).1 rfl rfl hread
  rw [hstart, hview]
  refine ⟨{ hadd with }, rfl, rfl, ?_, Nat.succ_pos _⟩
  rw [leftOf_cons, leftOf_cons]
  simp [leftOf, issue, ROMScanNode.left, ROMScanNode.attempts, hidle, PendingWork.left]

lemma pumpNodes_scanning (rest : List ROMScanNode) {done : List ROMScanNode}
    (h : Scanning params gen s (done ++ rest)) (hmax : 0 < params.maxInflight) :
    Scanning params gen (s.pumpNodes rest).1 (done ++ (s.pumpNodes rest).2) ∧
      (s.pumpNodes rest).2.map (fun node => node.nodeId) = rest.map (fun node => node.nodeId) ∧
      (s.pumpNodes rest).1.leftOf (done ++ (s.pumpNodes rest).2) = s.leftOf (done ++ rest) ∧
      ((∃ node ∈ (s.pumpNodes rest).2, node.state = .idle) →
        0 < (s.pumpNodes rest).1.inflight) ∧
      (0 < s.inflight → 0 < (s.pumpNodes rest).1.inflight) := by
  induction rest generalizing s done with
  | nil => simpa [pumpNodes] using h
  | cons node rest ih =>
    unfold pumpNodes
    split_ifs with hfull hskip
    · have hpos : 0 < s.inflight := by
        have := h.sameParams
        rw [this] at hfull
        omega
      exact ⟨h, rfl, rfl, fun _ => hpos, fun _ => hpos⟩
    · have hassoc : done ++ node :: rest = (done ++ [node]) ++ rest := by simp
      rw [hassoc] at h
      obtain ⟨hscan, hids, hleft, hidle, hbusy⟩ := ih h
      have hback : (done ++ [node]) ++ (s.pumpNodes rest).2 = done ++ node :: (s.pumpNodes rest).2 := by
        simp
      rw [hback] at hscan hleft
      refine ⟨hscan, by simp [hids], by rw [hleft, hassoc], ?_, hbusy⟩
      rintro ⟨n, hn, hstate⟩
      rcases List.mem_cons.mp hn with rfl | hn
      · have hsound := h.sound n (by simp)
        simp only [Bool.or_eq_true, decide_eq_true_eq] at hskip
        rcases hskip with hne | hbib
        · exact absurd hstate hne
        · rw [hsound.busy hbib] at hstate
          cases hstate
      · exact hidle ⟨n, hn, hstate⟩
    · have hidleNode : node.state = .idle := by
        simp only [Bool.or_eq_true, decide_eq_true_eq, not_or, not_not] at hskip
        exact hskip.1
      have hperm : (done ++ node :: rest).Perm (node :: (done ++ rest)) := List.perm_middle
      obtain ⟨hscan, hid, hstate, hleft, hpos⟩ := startBIBRead_scanning (h.perm hperm) hidleNode
      have hperm' : ((s.startBIBRead node).2 :: (done ++ rest)).Perm
          ((done ++ [(s.startBIBRead node).2]) ++ rest) := by
        simpa using List.perm_middle.symm
      obtain ⟨hscan', hids', hleft', hidle', hbusy'⟩ := ih (hscan.perm hperm')
      have hback : (done ++ [(s.startBIBRead node).2]) ++
          ((s.startBIBRead node).1.pumpNodes rest).2 =
          done ++ (s.startBIBRead node).2 :: ((s.startBIBRead node).1.pumpNodes rest).2 := by simp
      rw [hback] at hscan' hleft'
      refine ⟨hscan', by simp [hids', hid], ?_, fun _ => hbusy' hpos, fun _ => hbusy' hpos⟩
      rw [hleft', ← leftOf_perm _ hperm', hleft, leftOf_perm s hperm]

lemma pump_eq (haborted : s.aborted = false) :
    s.pump = { (s.pumpNodes s.nodeScans).1 with
      nodeScans := (s.pumpNodes s.nodeScans).2 }.maybeFinish := by
  simp [pump, haborted]

/-- After a pump the scan is over or something is out. -/
lemma Ready.pump (h : Ready params gen ids N s) (hgen : gen ≠ 0) (hmax : 0 < params.maxInflight) :
    Settled params gen ids N s.pump := by
  have hall : Scanning params gen s ([] ++ s.nodeScans) := h.scanning
  obtain ⟨hscan, hids, hleft, hidle, -⟩ := pumpNodes_scanning s.nodeScans hall hmax
  rw [List.nil_append] at hscan hleft
  have hready : Ready params gen ids N
      { (s.pumpNodes s.nodeScans).1 with nodeScans := (s.pumpNodes s.nodeScans).2 } :=
    ⟨{ hscan with }, hids.trans h.ids, le_of_eq_of_le hleft h.left⟩
  rw [pump_eq h.scanning.notAborted]
  rcases hready.maybeFinish hgen with ⟨hsame, node, hnode, hterminal⟩ | hfinished
  · left
    rw [hsame]
    refine ⟨hready, fun hnil => ?_⟩
    have hnone := hready.scanning.awaited
    rw [hnil, List.map_nil] at hnone
    by_cases hstate : node.state = .idle
    · have hpos := hidle ⟨node, hnode, hstate⟩
      have hzero := hready.scanning.inflight
      rw [hnil] at hzero
      simp only [List.countP_nil] at hzero
      omega
    · have hawaits : node.awaits = true := by
        unfold ROMScanNode.isTerminal at hterminal
        unfold ROMScanNode.awaits
        cases hcase : node.state <;> simp_all
      have hmem : node.key ∈ ((s.pumpNodes s.nodeScans).2.filter ROMScanNode.awaits).map
          ROMScanNode.key := List.mem_map_of_mem (List.mem_filter.mpr ⟨hnode, hawaits⟩)
      have hin := hnone.mem_iff.mpr hmem
      simp at hin
  · exact Or.inr hfinished

lemma Finished.maybeFinish (h : Finished gen ids s) : s.maybeFinish = s := by
  unfold ROMScanSession.maybeFinish
  simp [h.notified]

lemma Finished.pump (h : Finished gen ids s) : s.pump = s := by
  by_cases haborted : s.aborted
  · simp [ROMScanSession.pump, haborted]
  · have hsame : { s with nodeScans := [] } = s := by rw [← h.inert]
    rw [pump_eq (by simpa using haborted), h.inert]
    change { s with nodeScans := [] }.maybeFinish = s
    rw [hsame]
    exact h.maybeFinish

lemma Settled.pump (h : Settled params gen ids N s) (hgen : gen ≠ 0)
    (hmax : 0 < params.maxInflight) : Settled params gen ids N s.pump := by
  rcases h with ⟨hready, -⟩ | hfinished
  · exact hready.pump hgen hmax
  · rw [hfinished.pump]
    exact Or.inr hfinished

lemma Ready.maybeFinish_pump (h : Ready params gen ids N s) (hgen : gen ≠ 0)
    (hmax : 0 < params.maxInflight) : Settled params gen ids N s.maybeFinish.pump := by
  rcases h.maybeFinish hgen with ⟨hsame, -⟩ | hfinished
  · rw [hsame]
    exact h.pump hgen hmax
  · rw [hfinished.pump]
    exact Or.inr hfinished

/-! ### What the handlers do to the node in hand -/

variable {answer : WorkAnswer}

/-- Fields outside the account may change while a node is in hand. -/
lemma Held.congr (h : Held params gen ids N b s node) (s' : ROMScanSession)
    (hparams : s'.params = s.params) (haborted : s'.aborted = s.aborted) (hgen : s'.gen = s.gen)
    (hcompletion : s'.completion = s.completion)
    (hnotified : s'.completionNotified = s.completionNotified)
    (hcompletions : s'.completions = s.completions) (hpending : s'.pending = s.pending)
    (hinflight : s'.inflight = s.inflight) (hroms : s'.completedROMs = s.completedROMs)
    (hnodes : s'.nodeScans = s.nodeScans) : Held params gen ids N b s' node := by
  obtain ⟨pre, old, post, hsplit, hold, hnew, hscan, hleft⟩ := h.split
  refine ⟨⟨pre, old, post, hnodes.trans hsplit, hold, hnew, ?_, ?_⟩, hnodes ▸ h.ids, h.sound⟩
  · exact
      { hscan with
        sameParams := hparams.trans hscan.sameParams
        notAborted := haborted.trans hscan.notAborted
        atGen := hgen.trans hscan.atGen
        handler := hcompletion.trans hscan.handler
        notNotified := hnotified.trans hscan.notNotified
        notCalled := hcompletions.trans hscan.notCalled
        awaited := hpending ▸ hscan.awaited
        current := hpending ▸ hscan.current
        inflight := by rw [hinflight, hpending, hscan.inflight]
        roms := hroms ▸ hscan.roms }
  · have hsame : s'.leftOf (pre ++ post) = s.leftOf (pre ++ post) := by
      unfold leftOf
      rw [hparams, hpending]
    rw [hsame]
    exact hleft

lemma Held.scanningParams (h : Held params gen ids N b s node) : s.params = params := by
  obtain ⟨pre, old, post, hsplit, hold, hnew, hscan, hleft⟩ := h.split
  exact hscan.sameParams

lemma Held.scanningGen (h : Held params gen ids N b s node) : s.gen = gen := by
  obtain ⟨pre, old, post, hsplit, hold, hnew, hscan, hleft⟩ := h.split
  exact hscan.atGen

lemma Held.scanningAborted (h : Held params gen ids N b s node) : s.aborted = false := by
  obtain ⟨pre, old, post, hsplit, hold, hnew, hscan, hleft⟩ := h.split
  exact hscan.notAborted

/-- The node waits for its timer. -/
lemma Held.scheduleConfigROMReadyRetry (h : Held params gen ids N b s node)
    (hstate : node.state = .readingBIB ∨ node.state = .readingRootDir)
    (hbib : node.bibInProgress = false)
    (hretries : 0 < node.configROMReadyRetriesLeft)
    (hb : 2 * node.attempts params + kDetailsBound + 3 ≤ b) :
    Settled params gen ids N (s.scheduleConfigROMReadyRetry node) := by
  have hlegal : node.canTransitionTo .waitingConfigROMReady = true := by
    unfold ROMScanNode.canTransitionTo
    rcases hstate with hstate | hstate <;> simp [hstate]
  have hresult : s.scheduleConfigROMReadyRetry node =
      ({ s with hadBusyNodes := true }.put
        { node with
          state := .waitingConfigROMReady
          configROMReadyRetriesLeft := node.configROMReadyRetriesLeft - 1 }).await
        (.readyRetry node.nodeId) := by
    simp [ROMScanSession.scheduleConfigROMReadyRetry, transitionNodeState, hlegal]
  have hsound : ROMScanNode.Sound params
      { node with
        state := .waitingConfigROMReady
        configROMReadyRetriesLeft := node.configROMReadyRetriesLeft - 1 } := by
    refine ⟨?_, fun hpast => by simp [ROMScanNode.pastBIB] at hpast, h.sound.romId, ?_,
      h.sound.retries⟩
    · intro hbusy
      simp [hbib] at hbusy
    · have := h.sound.ready
      dsimp only
      omega
  have hbusy : Held params gen ids N b { s with hadBusyNodes := true } node :=
    h.congr _ rfl rfl rfl rfl rfl rfl rfl rfl rfl rfl
  have hheld : Held params gen ids N b { s with hadBusyNodes := true }
      { node with
        state := .waitingConfigROMReady
        configROMReadyRetriesLeft := node.configROMReadyRetriesLeft - 1 } :=
    hbusy.update hsound rfl le_rfl
  have hwork : (PendingWork.readyRetry node.nodeId).OfScan gen := trivial
  have hleft : 2 * ({ node with
      state := .waitingConfigROMReady
      configROMReadyRetriesLeft := node.configROMReadyRetriesLeft - 1 } : ROMScanNode).attempts
        params + kDetailsBound + 5 ≤ b := by
    simp only [ROMScanNode.attempts] at hb ⊢
    omega
  have hready := hheld.settle_awaiting rfl hwork rfl hleft
  rw [hresult]
  left
  exact ⟨hready, by simp [await]⟩

/-- Every retry spends an attempt; without one the node fails. -/
lemma retryWithFallback_spec (h : Held params gen ids N b s node)
    (hstate : node.state = .readingBIB ∨ node.state = .readingRootDir)
    (hbib : node.bibInProgress = false)
    (hb : 2 * node.attempts params + kDetailsBound + 2 ≤ b) :
    Ready params gen ids N ((s.retryWithFallback node).1.put (s.retryWithFallback node).2) := by
  have hidle : ∀ other : ROMScanNode, other.state = node.state → other.canTransitionTo .idle = true := by
    intro other hother
    unfold ROMScanNode.canTransitionTo
    rcases hstate with hstate | hstate <;> simp [hother, hstate]
  have hfail : node.canTransitionTo .failed = true := by
    unfold ROMScanNode.canTransitionTo
    rcases hstate with hstate | hstate <;> simp [hstate]
  unfold retryWithFallback
  dsimp only
  split_ifs with hretries hspeed
  · have hlegal := hidle { node with retriesLeft := node.retriesLeft - 1 } rfl
    simp only [transitionNodeState, hlegal, if_true]
    have hsound : ROMScanNode.Sound params
        { node with state := .idle, retriesLeft := node.retriesLeft - 1 } := by
      refine ⟨fun hbusy => by simp [hbib] at hbusy, fun hpast => by simp [ROMScanNode.pastBIB] at hpast,
        h.sound.romId, h.sound.ready, ?_⟩
      have := h.sound.retries
      dsimp only
      omega
    apply (h.update hsound rfl le_rfl).settle_quiet rfl (by simp [ROMScanNode.delivers])
    simp only [ROMScanNode.left, ROMScanNode.attempts] at hb ⊢
    omega
  · simp only [transitionNodeState, hfail, if_true]
    have hsound : ROMScanNode.Sound params { node with state := .failed } :=
      ⟨fun hbusy => by simp [hbib] at hbusy, fun hpast => by simp [ROMScanNode.pastBIB] at hpast,
        h.sound.romId, h.sound.ready, h.sound.retries⟩
    have hheld := (h.update hsound rfl (Nat.zero_le b)).congr
      { s with speedPolicy := s.speedPolicy.recordTimeout node.nodeId node.currentSpeed }
      rfl rfl rfl rfl rfl rfl rfl rfl rfl rfl
    exact hheld.settle_quiet rfl (by simp [ROMScanNode.delivers]) le_rfl
  · rw [SpeedPolicy.forNode_recordTimeout] at hspeed ⊢
    have hlegal := hidle
      { node with
        currentSpeed := downgradeSpeed node.currentSpeed, retriesLeft := s.params.perStepRetries }
      rfl
    simp only [transitionNodeState, hlegal, if_true]
    have hsound : ROMScanNode.Sound params
        { node with
          state := .idle
          currentSpeed := downgradeSpeed node.currentSpeed
          retriesLeft := s.params.perStepRetries } :=
      ⟨fun hbusy => by simp [hbib] at hbusy, fun hpast => by simp [ROMScanNode.pastBIB] at hpast,
        h.sound.romId, h.sound.ready, by dsimp only; rw [h.scanningParams]⟩
    have hheld := (h.update hsound rfl le_rfl).congr
      { s with speedPolicy := s.speedPolicy.recordTimeout node.nodeId node.currentSpeed }
      rfl rfl rfl rfl rfl rfl rfl rfl rfl rfl
    apply hheld.settle_quiet rfl (by simp [ROMScanNode.delivers])
    have hlower : (downgradeSpeed node.currentSpeed).code + 1 = node.currentSpeed.code := by
      cases hcase : node.currentSpeed <;> simp_all [downgradeSpeed, FwSpeed.code]
    have hparams := h.scanningParams
    simp only [ROMScanNode.left, ROMScanNode.attempts, ← hlower, hparams, Nat.add_mul] at hb ⊢
    omega

lemma Held.notifyRootBIBEnd (h : Held params gen ids N b s node) (nodeId : ℕ)
    (evidence : RootCapabilityEvidence) :
    Held params gen ids N b (s.notifyRootBIBEnd nodeId evidence) node := by
  unfold ROMScanSession.notifyRootBIBEnd report
  split_ifs
  · exact h
  · exact h.congr _ rfl rfl rfl rfl rfl rfl rfl rfl rfl rfl

lemma Ready.notifyRootBIBEnd (h : Ready params gen ids N s) (nodeId : ℕ)
    (evidence : RootCapabilityEvidence) :
    Ready params gen ids N (s.notifyRootBIBEnd nodeId evidence) := by
  unfold ROMScanSession.notifyRootBIBEnd report
  split_ifs
  · exact h
  · exact ⟨{ h.scanning with }, h.ids, h.left⟩

variable (hgen : gen ≠ 0) (hmax : 0 < params.maxInflight)

include hgen hmax

/-- A bus information block that is not there yet. -/
lemma Held.retryBIB (h : Held params gen ids N b s node) (hstate : node.state = .readingBIB)
    (hbib : node.bibInProgress = false) (hb : 2 * node.attempts params + kDetailsBound + 3 ≤ b)
    (status : RootBibReadStatus) : Settled params gen ids N (s.retryBIB node status) := by
  have hbusy : Held params gen ids N b { s with hadBusyNodes := true } node :=
    h.congr _ rfl rfl rfl rfl rfl rfl rfl rfl rfl rfl
  unfold ROMScanSession.retryBIB
  dsimp only
  split_ifs with hdelay hfailed
  · simp only [shouldDelayConfigROMReadyRetry, Bool.and_eq_true, decide_eq_true_eq] at hdelay
    exact hbusy.scheduleConfigROMReadyRetry (Or.inl hstate) hbib hdelay.2 hb
  · have hready := retryWithFallback_spec hbusy (Or.inl hstate) hbib (by omega)
    exact (hready.notifyRootBIBEnd _ _).pump hgen hmax
  · exact (retryWithFallback_spec hbusy (Or.inl hstate) hbib (by omega)).pump hgen hmax

omit hgen hmax in
/-- The root directory is asked for. -/
lemma Held.startRootDirRead (h : Held params gen ids N b s node)
    (hstate : node.state = .readingBIB ∨ node.state = .verifyingIRMRead ∨
      node.state = .verifyingIRMLock)
    (hbib : node.bibInProgress = false) (hformat : node.partialROM.bib.format ≠ .minimal1212)
    (hb : kDetailsBound + 1 ≤ b) : Settled params gen ids N (s.startRootDirRead node) := by
  have hlegal : node.canTransitionTo .readingRootDir = true := by
    unfold ROMScanNode.canTransitionTo
    rcases hstate with hstate | hstate | hstate <;> simp [hstate]
  have hsound : ROMScanNode.Sound params
      { node with state := .readingRootDir, retriesLeft := s.params.perStepRetries } :=
    ⟨fun hbusy => by simp [hbib] at hbusy, fun _ => hformat, h.sound.romId, h.sound.ready,
      by dsimp only; rw [h.scanningParams]⟩
  have hwork : (PendingWork.rootDirRead node.nodeId s.gen node.currentSpeed
      (rootDirStartBytes node.partialROM.bib)).OfScan gen := h.scanningGen
  have hready := (h.update hsound rfl le_rfl).settle_awaiting rfl hwork rfl hb
  left
  have hresult : s.startRootDirRead node =
      (s.put { node with state := .readingRootDir, retriesLeft := s.params.perStepRetries }).issue
        (.rootDirRead node.nodeId s.gen node.currentSpeed
          (rootDirStartBytes node.partialROM.bib)) := by
    simp [ROMScanSession.startRootDirRead, transitionNodeState, hlegal]
  rw [hresult]
  exact ⟨hready, by simp [issue]⟩

omit hgen hmax in
lemma Held.markBadIRM (h : Held params gen ids N b s node) (nodeId : ℕ) :
    Held params gen ids N b (s.markBadIRM nodeId) node := by
  unfold ROMScanSession.markBadIRM
  split_ifs
  · exact h.congr _ rfl rfl rfl rfl rfl rfl rfl rfl rfl rfl
  · exact h

omit hgen hmax in
/-- The IRM check is over, well or badly. -/
lemma Held.afterIRM (h : Held params gen ids N b s node)
    (hstate : node.state = .verifyingIRMRead ∨ node.state = .verifyingIRMLock)
    (hb : kDetailsBound + 1 ≤ b) {node' : ROMScanNode} (hsame : node'.nodeId = node.nodeId)
    (hstate' : node'.state = node.state) (hrom : node'.partialROM = node.partialROM)
    (hbib : node'.bibInProgress = node.bibInProgress)
    (hready : node'.configROMReadyRetriesLeft = node.configROMReadyRetriesLeft)
    (hretries : node'.retriesLeft = node.retriesLeft) :
    Settled params gen ids N (s.continueAfterIRMCheck node') := by
  have hidle : node.bibInProgress = false := by
    by_contra hbusy
    have hreading := h.sound.busy (Bool.eq_true_of_not_eq_false hbusy)
    rcases hstate with hstate | hstate <;> simp [hstate] at hreading
  have hpast : node.pastBIB = true := by
    unfold ROMScanNode.pastBIB
    rcases hstate with hstate | hstate <;> simp [hstate]
  have hsound : node'.Sound params := by
    refine ⟨fun hbusy => ?_, fun _ => ?_, ?_, ?_, ?_⟩
    · simp [hbib, hidle] at hbusy
    · rw [hrom]
      exact h.sound.general hpast
    · rw [hrom, hsame]
      exact h.sound.romId
    · rw [hready]
      exact h.sound.ready
    · rw [hretries]
      exact h.sound.retries
  apply (h.update hsound hsame le_rfl).startRootDirRead
  · rw [hstate']
    exact Or.inr hstate
  · rw [hbib, hidle]
  · rw [hrom]
    exact h.sound.general hpast
  · exact hb

variable {submit : SubmitOutcome}

omit hmax in
lemma Held.handleIRMLockComplete (h : Held params gen ids N b s.retire node)
    (hfind : s.retire.findNode node.nodeId = some node) (hstate : node.state = .verifyingIRMLock)
    (hb : kDetailsBound + 1 ≤ b) (success : Bool) :
    Settled params gen ids N (s.handleIRMLockComplete node.nodeId success) := by
  have haborted : s.aborted = false := h.scanningAborted
  have hsgen : s.gen = gen := h.scanningGen
  unfold ROMScanSession.handleIRMLockComplete
  dsimp only
  rw [haborted, hsgen, if_neg (by simp), if_neg hgen, hfind]
  dsimp only
  split_ifs
  · exact (h.markBadIRM _).afterIRM (Or.inr hstate) hb rfl rfl rfl rfl rfl rfl
  · exact h.afterIRM (Or.inr hstate) hb rfl rfl rfl rfl rfl rfl

omit hmax in
/-- A lock that is refused at once is a failed lock. -/
lemma Held.startIRMLock (h : Held params gen ids N b s node)
    (hstate : node.state = .verifyingIRMRead) (hb : kDetailsBound + 2 ≤ b)
    (hsubmit : submit ≠ .failedRegistered) :
    Settled params gen ids N (s.startIRMLock node submit) := by
  have hlegal : node.canTransitionTo .verifyingIRMLock = true := by
    unfold ROMScanNode.canTransitionTo
    simp [hstate]
  have hpast : node.pastBIB = true := by simp [ROMScanNode.pastBIB, hstate]
  have hsound : ROMScanNode.Sound params { node with state := .verifyingIRMLock } := by
    refine ⟨fun hbusy => ?_, fun _ => h.sound.general hpast, h.sound.romId, h.sound.ready,
      h.sound.retries⟩
    have hreading := h.sound.busy hbusy
    simp [hstate] at hreading
  have hheld := h.update hsound rfl le_rfl
  have hresult : s.startIRMLock node submit =
      (s.put { node with state := .verifyingIRMLock }).submitIRM (.irmLock node.nodeId) submit
        fun s => s.handleIRMLockComplete node.nodeId false := by
    simp [ROMScanSession.startIRMLock, transitionNodeState, hlegal]
  rw [hresult]
  cases submit with
  | accepted =>
    have hwork : (PendingWork.irmLock node.nodeId).OfScan gen := trivial
    exact Or.inl ⟨hheld.settle_awaiting rfl hwork rfl hb, by simp [submitIRM, issue]⟩
  | failed =>
    have hback : Held params gen ids N b
        (s.put { node with state := .verifyingIRMLock }).submitted.retire
        { node with state := .verifyingIRMLock } := hheld.of_put
    exact hback.handleIRMLockComplete hgen hheld.findNode rfl (by omega) false
  | failedRegistered => exact absurd rfl hsubmit

omit hmax in
lemma Held.handleIRMReadComplete (h : Held params gen ids N b s.retire node)
    (hfind : s.retire.findNode node.nodeId = some node) (hstate : node.state = .verifyingIRMRead)
    (hb : kDetailsBound + 2 ≤ b) (hsubmit : submit ≠ .failedRegistered) (success : Bool)
    (valueHostOrder : ℕ) :
    Settled params gen ids N
      (s.handleIRMReadComplete node.nodeId success valueHostOrder submit) := by
  have haborted : s.aborted = false := h.scanningAborted
  have hsgen : s.gen = gen := h.scanningGen
  unfold ROMScanSession.handleIRMReadComplete
  dsimp only
  rw [haborted, hsgen, if_neg (by simp), if_neg hgen, hfind]
  dsimp only
  split_ifs
  · exact (h.markBadIRM _).afterIRM (Or.inl hstate) (by omega) rfl rfl rfl rfl rfl rfl
  · have hsound : ROMScanNode.Sound params
        { node with irmBitBucket := valueHostOrder, irmCheckReadDone := true } :=
      ⟨h.sound.busy, h.sound.general, h.sound.romId, h.sound.ready, h.sound.retries⟩
    exact (h.update hsound rfl le_rfl).startIRMLock hgen hstate hb hsubmit

omit hmax in
lemma Held.startIRMRead (h : Held params gen ids N b s node) (hstate : node.state = .readingBIB)
    (hbib : node.bibInProgress = false) (hformat : node.partialROM.bib.format ≠ .minimal1212)
    (hb : kDetailsBound + 3 ≤ b) (hsubmit : submit ≠ .failedRegistered) :
    Settled params gen ids N (s.startIRMRead node submit) := by
  have hlegal : ({ node with needsIRMCheck := true } : ROMScanNode).canTransitionTo
      .verifyingIRMRead = true := by
    unfold ROMScanNode.canTransitionTo
    simp [hstate]
  have hsound : ROMScanNode.Sound params
      { node with needsIRMCheck := true, state := .verifyingIRMRead } :=
    ⟨fun hbusy => by simp [hbib] at hbusy, fun _ => hformat, h.sound.romId, h.sound.ready,
      h.sound.retries⟩
  have hheld := h.update hsound rfl le_rfl
  have hresult : s.startIRMRead node submit =
      (s.put { node with needsIRMCheck := true, state := .verifyingIRMRead }).submitIRM
        (.irmRead node.nodeId) submit
        fun s => s.handleIRMReadComplete node.nodeId false 0 submit := by
    simp [ROMScanSession.startIRMRead, transitionNodeState, hlegal]
  rw [hresult]
  cases submit with
  | accepted =>
    have hwork : (PendingWork.irmRead node.nodeId).OfScan gen := trivial
    exact Or.inl ⟨hheld.settle_awaiting rfl hwork rfl hb, by simp [submitIRM, issue]⟩
  | failed =>
    have hback : Held params gen ids N b
        (s.put { node with needsIRMCheck := true, state := .verifyingIRMRead }).submitted.retire
        { node with needsIRMCheck := true, state := .verifyingIRMRead } := hheld.of_put
    exact hback.handleIRMReadComplete hgen hheld.findNode rfl (by omega) hsubmit false 0
  | failedRegistered => exact absurd rfl hsubmit

/-- The last word of the details discovery. -/
lemma Held.finalizeNodeDiscovery (h : Held params gen ids N b s node)
    (hstate : node.state = .readingDetails) :
    Settled params gen ids N (s.finalizeNodeDiscovery node) := by
  have hlegal : node.canTransitionTo .complete = true := by
    unfold ROMScanNode.canTransitionTo
    simp [hstate]
  have hpast : node.pastBIB = true := by simp [ROMScanNode.pastBIB, hstate]
  have hformat := h.sound.general hpast
  have hsound : ROMScanNode.Sound params { node with state := .complete } := by
    refine ⟨fun hbusy => ?_, fun hpast => by simp [ROMScanNode.pastBIB] at hpast, h.sound.romId,
      h.sound.ready, h.sound.retries⟩
    have hreading := h.sound.busy hbusy
    simp [hstate] at hreading
  have hheld := (h.update hsound rfl (Nat.zero_le b)).congr
    { s with speedPolicy := s.speedPolicy.recordSuccess node.nodeId node.currentSpeed }
    rfl rfl rfl rfl rfl rfl rfl rfl rfl rfl
  have hready := hheld.settle_delivering (by simp [ROMScanNode.delivers, hformat]) le_rfl
  unfold ROMScanSession.finalizeNodeDiscovery
  simp only [transitionNodeState, hlegal, if_true]
  exact hready.maybeFinish_pump hgen hmax

/-- The discovery goes on until it has to read or is through, and gets shorter on the way. -/
lemma Held.continueDetails (p : DetailsDiscovery) {node : ROMScanNode} {n : ℕ}
    (h : Held params gen ids N b s node) (hstate : node.state = .readingDetails)
    (hp : Within (GeneralROM node.nodeId) n p) (hb : depth (GeneralROM node.nodeId) p ≤ b) :
    Settled params gen ids N (s.continueDetails node p) := by
  induction p generalizing n with
  | done rom =>
    have hrom : GeneralROM node.nodeId rom := within_done.mp hp
    have hsound : ROMScanNode.Sound params { node with partialROM := rom } :=
      ⟨h.sound.busy, fun _ => hrom.format, hrom.nodeId, h.sound.ready, h.sound.retries⟩
    exact (h.update hsound rfl le_rfl).finalizeNodeDiscovery hgen hmax hstate
  | ask rom required next ih =>
    obtain ⟨m, rfl⟩ : ∃ m, n = m + 1 := by
      cases n with
      | zero => exact hp.elim
      | succ m => exact ⟨m, rfl⟩
    have hrom : GeneralROM node.nodeId rom := hp.1
    have hnext : ∀ ok, depth (GeneralROM node.nodeId) (next ok rom) ≤ b := fun ok =>
      (depth_next_lt hp ok hrom).le.trans hb
    unfold ROMScanSession.continueDetails
    split_ifs
    · exact ih false rom (hp.2 false rom hrom) (hnext false)
    · exact ih true rom (hp.2 true rom hrom) (hnext true)
    · have hsound : ROMScanNode.Sound params { node with partialROM := rom } :=
        ⟨h.sound.busy, fun _ => hrom.format, hrom.nodeId, h.sound.ready, h.sound.retries⟩
      have hblank : GeneralROM node.nodeId { nodeId := node.nodeId } := ⟨rfl, fun hbad => by cases hbad⟩
      have hwithin : Within (GeneralROM node.nodeId) (m + 1)
          (PendingWork.suspended node.nodeId required next) := ⟨hblank, hp.2⟩
      have hwork : (PendingWork.prefixRead node.nodeId s.gen node.currentSpeed
          (rom.rawQuadlets.length * kQuadletBytes) (required - rom.rawQuadlets.length) required
          next).OfScan gen := ⟨h.scanningGen, m + 1, hwithin⟩
      have hdepth : depth (GeneralROM node.nodeId)
          (PendingWork.suspended node.nodeId required next) ≤ b := by
        unfold PendingWork.suspended
        rw [depth_ask_congr hblank hrom required required next]
        exact hb
      have hawaits : ({ node with partialROM := rom } : ROMScanNode).awaits = true := by
        simp [ROMScanNode.awaits, hstate]
      have hkey : (node.nodeId, ScanState.readingDetails) = (node.nodeId, node.state) := by
        rw [hstate]
      have hleft : ({ node with partialROM := rom } : ROMScanNode).left params = 0 := by
        simp [ROMScanNode.left, hstate]
      have hready := (h.update hsound rfl le_rfl).settle_awaiting hawaits hwork hkey
        (by rw [hleft, Nat.zero_add]; exact hdepth)
      exact Or.inl ⟨hready, by simp [issue]⟩

lemma Held.handlePrefixComplete (h : Held params gen ids N b s.retire node)
    (hfind : s.retire.findNode node.nodeId = some node) (hstate : node.state = .readingDetails)
    {required n : ℕ} {next : Bool → ConfigROM → DetailsDiscovery}
    (hnext : Within (GeneralROM node.nodeId) n (PendingWork.suspended node.nodeId required next))
    (hb : depth (GeneralROM node.nodeId) (PendingWork.suspended node.nodeId required next) ≤ b + 1)
    (result : ReadResult) (hresult : result.generation = gen) :
    Settled params gen ids N (s.handlePrefixComplete node.nodeId required next result) := by
  have haborted : s.aborted = false := h.scanningAborted
  have hsgen : s.gen = gen := h.scanningGen
  have hpast : node.pastBIB = true := by simp [ROMScanNode.pastBIB, hstate]
  obtain ⟨m, rfl⟩ : ∃ m, n = m + 1 := by
    cases n with
    | zero => exact hnext.elim
    | succ m => exact ⟨m, rfl⟩
  have hstep : ∀ ok rom, GeneralROM node.nodeId rom →
      Settled params gen ids N (s.retire.continueDetails node (next ok rom)).pump := by
    intro ok rom hrom
    have hlt := depth_next_lt hnext ok hrom
    have hdetails := h.continueDetails hgen hmax _ hstate (hnext.2 ok rom hrom)
      (Nat.le_of_lt_succ (hlt.trans_le hb))
    exact hdetails.pump hgen hmax
  unfold ROMScanSession.handlePrefixComplete
  dsimp only
  rw [haborted, hsgen, hresult, if_neg (by simp), hfind]
  dsimp only
  split_ifs
  · exact hstep false _ ⟨h.sound.romId, h.sound.general hpast⟩
  · exact hstep _ _ ⟨h.sound.romId, h.sound.general hpast⟩

/-- What a failed root directory read may cost: the node starts over. -/
def kRestart (params : ROMScannerParams) : ℕ :=
  2 * (params.configROMReadyRetries + params.perStepRetries +
    3 * (params.perStepRetries + 1)) + kDetailsBound + 5

omit hgen hmax in
lemma attempts_le (hsound : node.Sound params) :
    2 * node.attempts params + kDetailsBound + 5 ≤ kRestart params := by
  have hcode : node.currentSpeed.code ≤ 3 := by cases node.currentSpeed <;> decide
  have hmul := Nat.mul_le_mul_right (params.perStepRetries + 1) hcode
  have hready := hsound.ready
  have hretries := hsound.retries
  unfold ROMScanNode.attempts kRestart
  omega

lemma Held.handleRootDirComplete (h : Held params gen ids N b s.retire node)
    (hfind : s.retire.findNode node.nodeId = some node) (hstate : node.state = .readingRootDir)
    (result : ReadResult) (hresult : result.generation = gen)
    (hb : if result.success ∧ result.quadletsBE ≠ [] then kDetailsBound ≤ b
      else kRestart params ≤ b) :
    Settled params gen ids N (s.handleRootDirComplete node.nodeId result) := by
  have haborted : s.aborted = false := h.scanningAborted
  have hsgen : s.gen = gen := h.scanningGen
  have hpast : node.pastBIB = true := by simp [ROMScanNode.pastBIB, hstate]
  have hbib : node.bibInProgress = false := by
    by_contra hbusy
    have hreading := h.sound.busy (Bool.eq_true_of_not_eq_false hbusy)
    simp [hstate] at hreading
  unfold ROMScanSession.handleRootDirComplete
  dsimp only
  rw [haborted, hsgen, hresult, if_neg (by simp), if_neg (by simp), hfind]
  dsimp only
  by_cases hread : result.success ∧ result.quadletsBE ≠ []
  · rw [if_pos hread] at hb
    have hlegal : ({ node with partialROM := { node.partialROM with
        rootDirMinimal := rootEntriesOf result.quadletsBE } } : ROMScanNode).canTransitionTo
          .readingDetails = true := by
      unfold ROMScanNode.canTransitionTo
      simp [hstate]
    rw [if_neg (by simp [hread.1, hread.2])]
    simp only [transitionNodeState, hlegal, if_true, Bool.not_true, Bool.false_eq_true, if_false]
    have hsound : ROMScanNode.Sound params
        { node with
          state := .readingDetails
          partialROM := { node.partialROM with
            rootDirMinimal := rootEntriesOf result.quadletsBE } } :=
      ⟨fun hbusy => by simp [hbib] at hbusy, fun _ => h.sound.general hpast, h.sound.romId,
        h.sound.ready, h.sound.retries⟩
    have hrom : GeneralROM node.nodeId { node.partialROM with
        rootDirMinimal := rootEntriesOf result.quadletsBE } :=
      ⟨h.sound.romId, h.sound.general hpast⟩
    have hwithin := startDetailsDiscovery_within (rootDirStartQuadlet node.partialROM.bib)
      result.quadletsBE hrom
    apply (h.update hsound rfl le_rfl).continueDetails hgen hmax _ rfl hwithin
    exact (depth_le hwithin).trans hb
  · rw [if_neg hread] at hb
    rw [if_pos (by simpa [-not_and, not_and_or] using hread)]
    have hattempts := attempts_le h.sound
    have hbusy : Held params gen ids N b { s.retire with hadBusyNodes := true } node :=
      h.congr _ rfl rfl rfl rfl rfl rfl rfl rfl rfl rfl
    split_ifs with hdelay
    · simp only [shouldDelayConfigROMReadyRetry, Bool.and_eq_true, decide_eq_true_eq] at hdelay
      exact hbusy.scheduleConfigROMReadyRetry (Or.inr hstate) hbib hdelay.2 (by omega)
    · exact (retryWithFallback_spec hbusy (Or.inr hstate) hbib (by omega)).pump hgen hmax

omit hmax in
lemma Held.continueAfterBIBSuccess (h : Held params gen ids N b s node)
    (hstate : node.state = .readingBIB) (hbib : node.bibInProgress = false)
    (hformat : node.partialROM.bib.format ≠ .minimal1212) (hb : kDetailsBound + 3 ≤ b)
    (hsubmit : submit ≠ .failedRegistered) :
    Settled params gen ids N (s.continueAfterBIBSuccess node submit) := by
  unfold ROMScanSession.continueAfterBIBSuccess
  split_ifs
  · exact h.startIRMRead hgen hstate hbib hformat hb hsubmit
  · exact h.startRootDirRead (Or.inl hstate) hbib hformat (by omega)

/-- A node with a minimal ROM is complete without a ROM. -/
lemma Held.completeUnsupportedMinimalROM (h : Held params gen ids N b s node)
    (hstate : node.state = .readingBIB) (hbib : node.bibInProgress = false)
    (hformat : node.partialROM.bib.format = .minimal1212) :
    Settled params gen ids N (s.completeUnsupportedMinimalROM node) := by
  have hlegal : node.canTransitionTo .complete = true := by
    unfold ROMScanNode.canTransitionTo
    simp [hstate]
  have hsound : ROMScanNode.Sound params { node with state := .complete } :=
    ⟨fun hbusy => by simp [hbib] at hbusy, fun hpast => by simp [ROMScanNode.pastBIB] at hpast,
      h.sound.romId, h.sound.ready, h.sound.retries⟩
  have hready := (h.update hsound rfl (Nat.zero_le b)).settle_quiet rfl
    (by simp [ROMScanNode.delivers, hformat]) le_rfl
  unfold ROMScanSession.completeUnsupportedMinimalROM
  simp only [transitionNodeState, hlegal, if_true]
  exact hready.pump hgen hmax

lemma Held.handleBIBComplete (h : Held params gen ids N b s.retire node)
    (hfind : s.retire.findNode node.nodeId = some node) (hstate : node.state = .readingBIB)
    (hb : 2 * node.attempts params + kDetailsBound + 3 ≤ b) (hsubmit : submit ≠ .failedRegistered)
    (result : ReadResult) (hresult : result.generation = gen) :
    Settled params gen ids N (s.handleBIBComplete node.nodeId result submit) := by
  have haborted : s.aborted = false := h.scanningAborted
  have hsgen : s.gen = gen := h.scanningGen
  have hsound : ROMScanNode.Sound params { node with bibInProgress := false } :=
    ⟨fun hbusy => by simp at hbusy, h.sound.general, h.sound.romId, h.sound.ready,
      h.sound.retries⟩
  have hheld := h.update hsound rfl le_rfl
  unfold ROMScanSession.handleBIBComplete
  dsimp only
  rw [haborted, hsgen, hresult, if_neg (by simp), hfind]
  dsimp only
  split_ifs
  · exact hheld.retryBIB hgen hmax hstate rfl hb _
  · exact hheld.retryBIB hgen hmax hstate rfl hb _
  · cases hparsed : parseBIB result.quadletsBE with
    | error e =>
      have hlegal : ({ node with bibInProgress := false } : ROMScanNode).canTransitionTo
          .failed = true := by
        unfold ROMScanNode.canTransitionTo
        simp [hstate]
      have hfailed : ROMScanNode.Sound params
          { node with bibInProgress := false, state := .failed } :=
        ⟨fun hbusy => by simp at hbusy, fun hpast => by simp [ROMScanNode.pastBIB] at hpast,
          h.sound.romId, h.sound.ready, h.sound.retries⟩
      have hready := (h.update hfailed rfl (Nat.zero_le b)).settle_quiet rfl
        (by simp [ROMScanNode.delivers]) le_rfl
      simp only [transitionNodeState, hlegal, if_true]
      exact (hready.notifyRootBIBEnd _ _).pump hgen hmax
    | ok parsed =>
      have hparsedSound : ROMScanNode.Sound params
          { node with
            bibInProgress := false
            partialROM := { node.partialROM with
              rawQuadlets := result.quadletsBE
              bib := parsed.bib } } := by
        refine ⟨fun hbusy => by simp at hbusy, fun hpast => ?_, h.sound.romId, h.sound.ready,
          h.sound.retries⟩
        simp [ROMScanNode.pastBIB, hstate] at hpast
      have hread := (h.update hparsedSound rfl le_rfl).congr
        { s.retire with
          speedPolicy := s.retire.speedPolicy.recordSuccess node.nodeId node.currentSpeed }
        rfl rfl rfl rfl rfl rfl rfl rfl rfl rfl
      dsimp only
      split_ifs with hminimal
      · exact (hread.notifyRootBIBEnd _ _).completeUnsupportedMinimalROM hgen hmax hstate rfl
          hminimal
      · exact (hread.notifyRootBIBEnd _ _).continueAfterBIBSuccess hgen hstate rfl hminimal
          (by omega) hsubmit

/-- The timer of a node that was not ready. -/
lemma Held.handleReadyRetry (h : Held params gen ids N b s node)
    (hfind : s.findNode node.nodeId = some node) (hstate : node.state = .waitingConfigROMReady)
    (hb : 2 * node.attempts params + kDetailsBound + 4 ≤ b) :
    Settled params gen ids N (s.handleReadyRetry node.nodeId) := by
  have hlegal : node.canTransitionTo .idle = true := by
    unfold ROMScanNode.canTransitionTo
    simp [hstate]
  have hsound : ROMScanNode.Sound params { node with state := .idle } := by
    refine ⟨fun hbusy => ?_, fun hpast => by simp [ROMScanNode.pastBIB] at hpast, h.sound.romId,
      h.sound.ready, h.sound.retries⟩
    have hreading := h.sound.busy hbusy
    simp [hstate] at hreading
  have hready := (h.update hsound rfl le_rfl).settle_quiet rfl (by simp [ROMScanNode.delivers]) hb
  unfold ROMScanSession.handleReadyRetry
  rw [h.scanningAborted, hfind]
  simp only [Bool.false_eq_true, if_false, hstate, ne_eq, not_true_eq_false, transitionNodeState,
    hlegal, if_true]
  exact hready.pump hgen hmax

omit hgen hmax

/-! ### A step and a run -/

/-- The answer fails a read of a root directory. -/
def failsRootDir (answer : WorkAnswer) : PendingWork → Bool
  | .rootDirRead _ _ _ _ => !answer.success || answer.quadletsBE = []
  | _ => false

lemma findNode_of_perm (hperm : s.nodeScans.Perm (node :: others))
    (hnew : node.nodeId ∉ others.map fun node => node.nodeId) :
    s.findNode node.nodeId = some node := by
  have hmem : node ∈ s.nodeScans := hperm.mem_iff.mpr (by simp)
  obtain ⟨found, hfound⟩ : ∃ found, s.findNode node.nodeId = some found := by
    apply Option.isSome_iff_exists.mp
    exact List.find?_isSome.mpr ⟨node, hmem, by simp⟩
  have hid : found.nodeId = node.nodeId := by simpa using List.find?_some hfound
  have hin : found ∈ node :: others := hperm.mem_iff.mp (List.mem_of_find?_eq_some hfound)
  rcases List.mem_cons.mp hin with rfl | hother
  · exact hfound
  · exact absurd (hid ▸ List.mem_map_of_mem hother) hnew

/-- The node whose work was taken out is in hand. -/
lemma Ready.take (h : Ready params gen ids N s) {index : ℕ}
    (hwork : s.pending[index]? = some work) :
    ∃ node, s.findNode node.nodeId = some node ∧ node.key = work.key ∧ work.OfScan gen ∧
      work.left + node.left params ≤ N ∧
      ∀ N' b, N + b ≤ N' + (work.left + node.left params) →
        Held params gen ids N' b
          { s with
            pending := s.pending.eraseIdx index
            inflight := s.inflight - if work.isRead then 1 else 0 } node := by
  obtain ⟨node, others, hperm, hkey, hawaits, hsound, hnew, hscanOf, hleft, hscan⟩ :=
    h.scanning.take hwork
  have hbound := h.left
  refine ⟨node, findNode_of_perm hperm hnew, hkey, hscanOf, by omega, fun N' b hb => ?_⟩
  have hmem : node ∈ s.nodeScans := hperm.mem_iff.mpr (by simp)
  obtain ⟨pre, post, hsplit⟩ := List.append_of_mem hmem
  have hothers : others.Perm (pre ++ post) := by
    rw [hsplit] at hperm
    exact (hperm.symm.trans List.perm_middle).cons_inv
  refine ⟨⟨pre, node, post, hsplit, rfl, ?_, hscan.perm hothers, ?_⟩, h.ids, hsound⟩
  · rwa [(hothers.map _).mem_iff] at hnew
  · have hsame := leftOf_perm { s with pending := s.pending.eraseIdx index } hothers
    change ROMScanSession.leftOf { s with pending := s.pending.eraseIdx index } (pre ++ post) +
      b ≤ N'
    omega

/-- The step lemma: an answered work brings the scan nearer to its end, unless it was a root
directory read that failed. -/
lemma Ready.step_answer (h : Ready params gen ids N s) (hgen : gen ≠ 0)
    (hmax : 0 < params.maxInflight) {index : ℕ} (hwork : s.pending[index]? = some work)
    (hsubmit : answer.submit ≠ .failedRegistered) :
    ∃ N', N' + 1 = N + (if failsRootDir answer work then kRestart params + 1 else 0) ∧
      Settled params gen ids N' (s.step (.answer index answer false)) := by
  obtain ⟨node, hfind, hkey, hscanOf, hpos, hheld⟩ := h.take hwork
  have hstep : s.step (.answer index answer false) =
      ({ s with pending := s.pending.eraseIdx index }).perform answer work := by
    simp [step, hwork]
  rw [hstep]
  have hid : node.nodeId = work.key.1 := congrArg Prod.fst hkey
  have hstate : node.state = work.key.2 := congrArg Prod.snd hkey
  cases work with
  | startScan request => exact hscanOf.elim
  | abortScan => exact hscanOf.elim
  | bibRead nodeId generation speed =>
    change node.nodeId = nodeId at hid
    change node.state = .readingBIB at hstate
    subst hid
    simp only [PendingWork.left, ROMScanNode.left, hstate] at hpos hheld
    have htaken : Held params gen ids (N - 1) (2 * node.attempts params + kDetailsBound + 3)
        { s with pending := s.pending.eraseIdx index }.retire node := hheld _ _ (by omega)
    refine ⟨N - 1, by simp [failsRootDir]; omega, ?_⟩
    apply htaken.handleBIBComplete hgen hmax hfind hstate le_rfl hsubmit
    exact hscanOf
  | irmRead nodeId =>
    change node.nodeId = nodeId at hid
    change node.state = .verifyingIRMRead at hstate
    subst hid
    simp only [PendingWork.left, ROMScanNode.left, hstate] at hpos hheld
    have htaken : Held params gen ids (N - 1) (kDetailsBound + 2)
        { s with pending := s.pending.eraseIdx index }.retire node := hheld _ _ (by omega)
    refine ⟨N - 1, by simp [failsRootDir]; omega, ?_⟩
    exact htaken.handleIRMReadComplete hgen hfind hstate le_rfl hsubmit _ _
  | irmLock nodeId =>
    change node.nodeId = nodeId at hid
    change node.state = .verifyingIRMLock at hstate
    subst hid
    simp only [PendingWork.left, ROMScanNode.left, hstate] at hpos hheld
    have htaken : Held params gen ids (N - 1) (kDetailsBound + 1)
        { s with pending := s.pending.eraseIdx index }.retire node := hheld _ _ (by omega)
    refine ⟨N - 1, by simp [failsRootDir]; omega, ?_⟩
    exact htaken.handleIRMLockComplete hgen hfind hstate le_rfl _
  | rootDirRead nodeId generation speed offsetBytes =>
    change node.nodeId = nodeId at hid
    change node.state = .readingRootDir at hstate
    subst hid
    simp only [PendingWork.left, ROMScanNode.left, hstate] at hpos hheld
    by_cases hread : answer.success ∧ answer.quadletsBE ≠ []
    · have htaken : Held params gen ids (N - 1) kDetailsBound
          { s with pending := s.pending.eraseIdx index }.retire node := hheld _ _ (by omega)
      refine ⟨N - 1, by simp [failsRootDir, hread.1, hread.2]; omega, ?_⟩
      apply htaken.handleRootDirComplete hgen hmax hfind hstate
      · exact hscanOf
      · simp [readResult, hread.1, hread.2]
    · have hfails : failsRootDir answer (.rootDirRead node.nodeId generation speed offsetBytes) =
          true := by
        simpa [failsRootDir, -not_and, not_and_or] using hread
      have htaken : Held params gen ids (N + kRestart params) (kRestart params)
          { s with pending := s.pending.eraseIdx index }.retire node := hheld _ _ (by omega)
      refine ⟨N + kRestart params, by rw [hfails]; simp only [if_true]; omega, ?_⟩
      apply htaken.handleRootDirComplete hgen hmax hfind hstate
      · exact hscanOf
      · rw [if_neg (by simpa [readResult] using hread)]
  | prefixRead nodeId generation speed offsetBytes count required next =>
    change node.nodeId = nodeId at hid
    change node.state = .readingDetails at hstate
    subst hid
    obtain ⟨hgeneration, n, hwithin⟩ := hscanOf
    have hdepth := depth_ask_pos hwithin
    simp only [PendingWork.left, ROMScanNode.left, hstate] at hpos hheld
    change 0 < depth (GeneralROM node.nodeId) (PendingWork.suspended node.nodeId required next)
      at hdepth
    have htaken : Held params gen ids (N - 1)
        (depth (GeneralROM node.nodeId) (PendingWork.suspended node.nodeId required next) - 1)
        { s with pending := s.pending.eraseIdx index }.retire node := hheld _ _ (by omega)
    refine ⟨N - 1, by simp [failsRootDir]; omega, ?_⟩
    apply htaken.handlePrefixComplete hgen hmax hfind hstate hwithin (by omega)
    exact hgeneration
  | readyRetry nodeId =>
    change node.nodeId = nodeId at hid
    change node.state = .waitingConfigROMReady at hstate
    subst hid
    simp only [PendingWork.left, ROMScanNode.left, hstate] at hpos hheld
    have htaken : Held params gen ids (N - 1) (2 * node.attempts params + kDetailsBound + 4)
        { s with pending := s.pending.eraseIdx index } node := hheld _ _ (by omega)
    refine ⟨N - 1, by simp [failsRootDir]; omega, ?_⟩
    exact htaken.handleReadyRetry hgen hmax hfind hstate le_rfl

/-- How many root directory reads fail along a run. -/
def rootDirFailures : ROMScanSession → List ScanEvent → ℕ
  | _, [] => 0
  | s, e :: events =>
    (match e with
      | .answer index answer _ => if (s.pending[index]?).any (failsRootDir answer) then 1 else 0
      | .abort => 0) + rootDirFailures (s.step e) events

/-- The event answers something that is outstanding. -/
def Outstanding (s : ROMScanSession) : ScanEvent → Prop
  | .answer index _ _ => index < s.pending.length
  | .abort => False

/-- Every callback comes once: neither the reader nor a refused lock calls back twice. -/
def ScanEvent.Once : ScanEvent → Prop
  | .answer _ answer again => again = false ∧ answer.submit ≠ .failedRegistered
  | .abort => False

/-- A run keeps to the account, and its length is bounded by the failures of root directory
reads. -/
theorem settled_run (hgen : gen ≠ 0) (hmax : 0 < params.maxInflight) (events : List ScanEvent)
    (honce : ∀ e ∈ events, ScanEvent.Once e) (h : Settled params gen ids N s) :
    ∃ N', Settled params gen ids N' (run step s events) ∧
      (Meets step Outstanding s events →
        events.length + N' ≤ N + rootDirFailures s events * (kRestart params + 1)) := by
  induction events generalizing s N with
  | nil => exact ⟨N, h, fun _ => by simp [rootDirFailures]⟩
  | cons e events ih =>
    have honce' : ∀ e ∈ events, ScanEvent.Once e := fun e he => honce e (by simp [he])
    cases e with
    | abort => exact (honce .abort (by simp)).elim
    | answer index answer again =>
      obtain ⟨hagain, hsubmit⟩ := honce (.answer index answer again) (by simp)
      change again = false at hagain
      subst hagain
      cases hwork : s.pending[index]? with
      | none =>
        have hstay : s.step (.answer index answer false) = s := by simp [step, hwork]
        obtain ⟨N', hsettled, -⟩ := ih honce' h
        refine ⟨N', by rw [run_cons, hstay]; exact hsettled, fun hmeets => ?_⟩
        have hlt : index < s.pending.length := hmeets.1
        have hge := List.getElem?_eq_none_iff.mp hwork
        omega
      | some work =>
        rcases h with ⟨hready, -⟩ | hfinished
        · obtain ⟨N₁, hN₁, hstep⟩ := hready.step_answer hgen hmax hwork hsubmit
          obtain ⟨N', hsettled, hbound⟩ := ih honce' hstep
          refine ⟨N', hsettled, fun hmeets => ?_⟩
          have hrest := hbound hmeets.2
          simp only [rootDirFailures, hwork, Option.any_some, List.length_cons, Nat.add_mul]
          split_ifs at hN₁ ⊢ <;> omega
        · rw [hfinished.nothingLeft] at hwork
          cases hwork

/-- The posted start of a scan. -/
lemma startScan_settled (hgen : gen ≠ 0) (hmax : 0 < params.maxInflight) {request : ROMScanRequest}
    (hrequest : request.gen = gen) (hnodup : (scannedNodeIds request).Nodup)
    (hparams : s.params = params) (haborted : s.aborted = false) (hcompletions : s.completions = [])
    (hpending : s.pending = []) :
    Settled params gen (scannedNodeIds request)
      ((scannedNodeIds request).length * kRestart params) (s.startScan request) := by
  have hids : ((scannedNodeIds request).map (newNode params gen)).map
      (fun node => node.nodeId) = scannedNodeIds request := by
    rw [List.map_map]
    exact List.map_id _
  have hsound : ∀ node ∈ (scannedNodeIds request).map (newNode params gen),
      node.Sound params ∧ node.state = .idle := by
    intro node hnode
    obtain ⟨nodeId, -, rfl⟩ := List.mem_map.mp hnode
    exact ⟨⟨fun hbusy => by simp [newNode] at hbusy,
      fun hpast => by simp [ROMScanNode.pastBIB, newNode] at hpast, rfl, le_rfl, le_rfl⟩, rfl⟩
  have hready : Ready params gen (scannedNodeIds request)
      ((scannedNodeIds request).length * kRestart params)
      { s with
        gen := request.gen
        topology := request.topology
        localNodeId := request.localNodeId
        completion := true
        rootCapabilityCallback := request.rootCapabilityCallback
        completionNotified := false
        hadBusyNodes := false
        inflight := 0
        completedROMs := []
        nodeScans := (scannedNodeIds request).map (newNode s.params request.gen)
        rootProbeStarted := false
        rootProbeTerminal := false } := by
    rw [hparams, hrequest]
    refine ⟨⟨rfl, haborted, rfl, rfl, rfl, hcompletions, ?_, ?_, ?_, ?_, ?_, ?_⟩, hids, ?_⟩
    · have hnone : ((scannedNodeIds request).map (newNode params gen)).filter
          ROMScanNode.awaits = [] := by
        apply List.filter_eq_nil_iff.mpr
        intro node hnode
        simp [ROMScanNode.awaits, (hsound node hnode).2]
      simp [hpending, hnone]
    · simp [hpending]
    · simp [hpending]
    · have hnone : ((scannedNodeIds request).map (newNode params gen)).filter
          ROMScanNode.delivers = [] := by
        apply List.filter_eq_nil_iff.mpr
        intro node hnode
        simp [ROMScanNode.delivers, (hsound node hnode).2]
      simp [hnone]
    · dsimp only
      rw [hids]
      exact hnodup
    · exact fun node hnode => (hsound node hnode).1
    · simp only [leftOf, hpending, List.map_nil, List.sum_nil, Nat.add_zero]
      have hbound : ∀ x ∈ ((scannedNodeIds request).map (newNode params gen)).map
          (ROMScanNode.left params), x ≤ kRestart params := by
        intro x hx
        obtain ⟨node, hnode, rfl⟩ := List.mem_map.mp hx
        have hattempts := attempts_le (hsound node hnode).1
        simp only [ROMScanNode.left, (hsound node hnode).2]
        omega
      have hsum := List.sum_le_card_nsmul _ _ hbound
      simpa using hsum
  unfold startScan
  dsimp only
  split_ifs with hempty
  · rcases hready.maybeFinish hgen with ⟨-, node, hnode, -⟩ | hfinished
    · change node ∈ (scannedNodeIds request).map (newNode s.params request.gen) at hnode
      rw [hempty] at hnode
      cases hnode
    · exact Or.inr hfinished
  · exact hready.pump hgen hmax

/-- A scan before its posted start, or in the account ever since. -/
lemma started_run {request : ROMScanRequest} (topologyManager : Bool) (policy : SpeedPolicy)
    (hgen : request.gen ≠ 0) (hmax : 0 < params.maxInflight)
    (hnodup : (scannedNodeIds request).Nodup) (events : List ScanEvent)
    (honce : ∀ e ∈ events, ScanEvent.Once e) :
    (run step (started params topologyManager policy request) events =
        started params topologyManager policy request ∧
      (Meets step Outstanding (started params topologyManager policy request) events →
        events = [])) ∨
    ∃ N', Settled params request.gen (scannedNodeIds request) N'
        (run step (started params topologyManager policy request) events) ∧
      (Meets step Outstanding (started params topologyManager policy request) events →
        events.length + N' ≤ 1 + (scannedNodeIds request).length * kRestart params +
          rootDirFailures (started params topologyManager policy request) events *
            (kRestart params + 1)) := by
  induction events with
  | nil => exact Or.inl ⟨rfl, fun _ => rfl⟩
  | cons e events ih =>
    have honce' : ∀ e ∈ events, ScanEvent.Once e := fun e he => honce e (by simp [he])
    cases e with
    | abort => exact (honce .abort (by simp)).elim
    | answer index answer again =>
      have hagain : again = false := (honce (.answer index answer again) (by simp)).1
      subst hagain
      cases index with
      | zero =>
        have hstart : Settled params request.gen (scannedNodeIds request)
            ((scannedNodeIds request).length * kRestart params)
            ({ started params topologyManager policy request with pending := [] }.startScan
              request) :=
          startScan_settled hgen hmax rfl hnodup rfl rfl rfl rfl
        obtain ⟨N', hsettled, hbound⟩ := settled_run hgen hmax events honce' hstart
        refine Or.inr ⟨N', hsettled, fun hmeets => ?_⟩
        have hrest := hbound hmeets.2
        have hcount : rootDirFailures (started params topologyManager policy request)
            (.answer 0 answer false :: events) = rootDirFailures
              ({ started params topologyManager policy request with pending := [] }.startScan
                request) events := Nat.zero_add _
        rw [List.length_cons, hcount]
        omega
      | succ index =>
        have hstay : (started params topologyManager policy request).step
            (.answer (index + 1) answer false) =
            started params topologyManager policy request := rfl
        rw [run_cons, hstay]
        have hnever : ¬ Meets step Outstanding (started params topologyManager policy request)
            (.answer (index + 1) answer false :: events) := by
          intro hmeets
          have hlt : index + 1 < 1 := hmeets.1
          omega
        rcases ih honce' with ⟨hsame, -⟩ | ⟨N', hsettled, -⟩
        · exact Or.inl ⟨hsame, fun hmeets => absurd hmeets hnever⟩
        · exact Or.inr ⟨N', hsettled, fun hmeets => absurd hmeets hnever⟩

lemma scannedNodeIds_nodup {request : ROMScanRequest}
    (hnodes : (request.topology.nodes.map fun node => node.physicalId).Nodup) :
    (scannedNodeIds request).Nodup := by
  unfold scannedNodeIds
  split_ifs
  · exact hnodes.sublist (List.filter_sublist.map _)
  · exact (List.nodup_dedup _).filter _

/-! ### Abort -/

lemma aborted_notifyRootBIBEnd (s : ROMScanSession) (nodeId : ℕ)
    (evidence : RootCapabilityEvidence) :
    (s.notifyRootBIBEnd nodeId evidence).aborted = s.aborted ∧
      (s.notifyRootBIBEnd nodeId evidence).completions = s.completions := by
  unfold notifyRootBIBEnd report
  split_ifs <;> exact ⟨rfl, rfl⟩

lemma aborted_maybeFinish (haborted : s.aborted = true) :
    s.maybeFinish.aborted = true ∧ s.maybeFinish.completions = s.completions := by
  simp [maybeFinish, haborted]

lemma aborted_pump (haborted : s.aborted = true) :
    s.pump.aborted = true ∧ s.pump.completions = s.completions := by
  simp [pump, haborted]

lemma aborted_startScan (haborted : s.aborted = true) (request : ROMScanRequest) :
    (s.startScan request).aborted = true ∧ (s.startScan request).completions = s.completions := by
  unfold startScan
  dsimp only
  split_ifs
  · apply aborted_maybeFinish
    exact haborted
  · apply aborted_pump
    exact haborted

/-- An aborted session does not call the handler, whatever still comes in. -/
lemma aborted_step (haborted : s.aborted = true) (e : ScanEvent) :
    (s.step e).aborted = true ∧ (s.step e).completions = s.completions := by
  cases e with
  | abort => exact ⟨rfl, rfl⟩
  | answer index answer again =>
    simp only [step]
    cases hwork : s.pending[index]? with
    | none => exact ⟨haborted, rfl⟩
    | some work =>
      cases work with
      | startScan request =>
        apply aborted_startScan
        exact haborted
      | abortScan =>
        simp only [perform, abortScan, notifyRootBIBFailure]
        split
        · exact ⟨(aborted_notifyRootBIBEnd _ _ _).1.trans haborted,
            (aborted_notifyRootBIBEnd _ _ _).2⟩
        · exact ⟨haborted, rfl⟩
      | bibRead nodeId generation speed => simp [perform, handleBIBComplete, haborted]
      | irmRead nodeId => simp [perform, handleIRMReadComplete, haborted]
      | irmLock nodeId => simp [perform, handleIRMLockComplete, haborted]
      | rootDirRead nodeId generation speed offsetBytes =>
        simp [perform, handleRootDirComplete, haborted]
      | prefixRead nodeId generation speed offsetBytes count required next =>
        simp [perform, handlePrefixComplete, haborted]
      | readyRetry nodeId => simp [perform, handleReadyRetry, haborted]

lemma aborted_run (haborted : s.aborted = true) (events : List ScanEvent) :
    (run step s events).completions = s.completions := by
  induction events generalizing s with
  | nil => rfl
  | cons e events ih =>
    obtain ⟨hstill, hsame⟩ := aborted_step haborted e
    exact (ih hstill).trans hsame

/-! ### The completion handler -/

/-- A scan of a generation other than the sentinel calls its handler at most once, with every node
complete or failed and one ROM for each complete node that has more than a minimal ROM; when
nothing is outstanding it has called it, and that comes about unless root directory reads keep
failing. After an abort nothing is called any more. -/
theorem completion_once (params : ROMScannerParams) (topologyManager : Bool)
    (policy : SpeedPolicy) (request : ROMScanRequest) (hmax : 0 < params.maxInflight)
    (hgen : request.gen ≠ 0)
    (hnodes : (request.topology.nodes.map fun node => node.physicalId).Nodup) :
    (∀ events, (∀ e ∈ events, ScanEvent.Once e) →
      let first := started params topologyManager policy request
      let last := run step first events
      last.completions.length ≤ 1 ∧
      (∀ c ∈ last.completions, c.Accounts request.gen (scannedNodeIds request)) ∧
      (last.pending = [] → last.completions.length = 1) ∧
      (Meets step Outstanding first events →
        events.length ≤ 1 + (scannedNodeIds request).length * kRestart params +
          rootDirFailures first events * (kRestart params + 1))) ∧
    ∀ before after : List ScanEvent,
      (run step (started params topologyManager policy request)
        (before ++ .abort :: after)).completions =
      (run step (started params topologyManager policy request) before).completions := by
  constructor
  · intro events honce
    rcases started_run topologyManager policy hgen hmax (scannedNodeIds_nodup hnodes) events honce
      with ⟨hsame, hempty⟩ | ⟨N', hready | hfinished, hbound⟩
    · have hnone : (started params topologyManager policy request).completions = [] := rfl
      have hposted : (started params topologyManager policy request).pending ≠ [] := by
        simp [started]
      dsimp only
      rw [hsame, hnone]
      refine ⟨Nat.zero_le _, by simp, fun hnil => absurd hnil hposted, fun hmeets => ?_⟩
      rw [hempty hmeets]
      exact Nat.zero_le _
    · have hcalled := hready.1.scanning.notCalled
      dsimp only
      rw [hcalled]
      refine ⟨Nat.zero_le _, by simp, fun hnil => absurd hnil hready.2, fun hmeets => ?_⟩
      have hlength := hbound hmeets
      omega
    · obtain ⟨c, hcalled, haccounts⟩ := hfinished.called
      dsimp only
      rw [hcalled]
      refine ⟨le_rfl, fun c' hc' => List.mem_singleton.mp hc' ▸ haccounts, fun _ => rfl,
        fun hmeets => ?_⟩
      have hlength := hbound hmeets
      omega
  · intro before after
    rw [run_append, run_cons]
    exact aborted_run rfl after

/-- A scan of node 3. -/
def scanOfNode3 (gen : ℕ) : ROMScanRequest := { gen := gen, localNodeId := 0, targetNodes := [3] }

def startAnswered : ScanEvent := .answer 0 {} false

def quadletsRead (quadlets : List ℕ) : ScanEvent :=
  .answer 0 { success := true, status := .success, quadletsBE := quadlets.map swap32 } false

/-- A general ROM with an empty root directory. -/
theorem scanOfNode3_completes :
    let events := [startAnswered, quadletsRead [0x04040000, 0x31333934, 0, 1, 2], quadletsRead [0]]
    let last := run step (started {} true {} (scanOfNode3 1)) events
    (last.completions.map fun c => c.roms.map fun rom => (rom.nodeId, rom.bib.guid)) =
      [[(3, 2 ^ 32 + 2)]] ∧
    last.completions.length ≤ 1 ∧
    ∀ c ∈ last.completions, c.Accounts 1 (scannedNodeIds (scanOfNode3 1)) := by
  have honce : ∀ e ∈ [startAnswered, quadletsRead [0x04040000, 0x31333934, 0, 1, 2],
      quadletsRead [0]], ScanEvent.Once e := by
    simp [startAnswered, quadletsRead, ScanEvent.Once]
  have hscan := (completion_once {} true {} (scanOfNode3 1) (by decide) (by decide)
    List.nodup_nil).1 _ honce
  exact ⟨by decide +kernel, hscan.1, hscan.2.1⟩

/-- A node with a minimal ROM is complete and brings no ROM; and a scan of generation 0 with no
node to read comes to rest without calling its handler. -/
theorem minimalROM_without_rom :
    ((run step (started {} true {} (scanOfNode3 1))
        [startAnswered, quadletsRead [0x01010000]]).completions.map fun c =>
      (c.nodes.map fun node => node.state, c.roms)) = [([.complete], [])] ∧
    (run step (started {} true {} {}) [startAnswered]).completions = [] ∧
    (run step (started {} true {} {}) [startAnswered]).pending.length = 0 := by
  refine ⟨by decide +kernel, by decide +kernel, by decide +kernel⟩

end ROMScanSession

end ASFireWire.Discovery
