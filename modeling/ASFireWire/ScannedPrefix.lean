import ASFireWire.DirectoryCaps
import ASFireWire.ROMScanRuns

/-! The quadlets a scan has collected of a node are the first quadlets of the node's ROM, however the
reads of the block information, of the root directory and of the prefixes come out. -/
namespace ASFireWire.Discovery

open ASFireWire.ConfigROM ASFireWire.Async Quadlets Resumptions Resumption Runs

/-! ### The discovery leaves the quadlets to its reads -/

def rawOf (rom : ConfigROM) : List ℕ × ℕ := (rom.rawQuadlets, rom.nodeId)

variable {completion : List UInt8 → ConfigROM → DetailsDiscovery}

lemma fetchLeaf_preserves (h : ∀ text rom, Preserves rawOf (completion text rom) rom)
    (rom : ConfigROM) (absOffset : ℕ) :
    Preserves rawOf (fetchLeaf rom absOffset completion) rom := by
  apply preserves_ask
  intro ok header
  split_ifs
  · exact h [] header
  · exact h [] header
  · exact h [] header
  · apply preserves_ask
    intro ok rom
    split_ifs
    · exact h [] rom
    · cases parseTextDescriptorLeaf rom.rawQuadlets absOffset with
      | ok text => exact h text rom
      | error e => exact h [] rom

lemma fetchNextCandidate_preserves (h : ∀ text rom, Preserves rawOf (completion text rom) rom)
    (candidates : List ℕ) (rom : ConfigROM) :
    Preserves rawOf (fetchNextCandidate completion candidates rom) rom := by
  induction candidates generalizing rom with
  | nil => exact h [] rom
  | cons leafAbs candidates ih =>
    apply fetchLeaf_preserves
    intro text rom
    split_ifs
    · exact h text rom
    · exact ih rom

lemma fetchDescriptorDirectory_preserves
    (h : ∀ text rom, Preserves rawOf (completion text rom) rom) (rom : ConfigROM)
    (absOffset : ℕ) : Preserves rawOf (fetchDescriptorDirectory rom absOffset completion) rom := by
  apply preserves_ask
  intro ok header
  split_ifs
  · exact h [] header
  · exact h [] header
  · exact h [] header
  · apply preserves_ask
    intro ok rom
    split_ifs
    · exact h [] rom
    · exact fetchNextCandidate_preserves h _ rom

lemma fetchReferenced_preserves (h : ∀ text rom, Preserves rawOf (completion text rom) rom)
    (rom : ConfigROM) (base : ℕ) (ref : Option DescriptorRef) :
    Preserves rawOf (fetchReferenced rom base ref completion) rom := by
  cases ref with
  | none => exact h [] rom
  | some ref =>
    simp only [fetchReferenced, textDescriptorFetcher]
    split_ifs
    · exact fetchLeaf_preserves h rom _
    · exact fetchDescriptorDirectory_preserves h rom _
    · exact h [] rom

lemma startNextUnitDir_preserves (rootDirStart : ℕ) (units : List ℕ) (rom : ConfigROM) :
    Preserves rawOf (startNextUnitDir rootDirStart units rom) rom := by
  induction units generalizing rom with
  | nil => exact preserves_done rom
  | cons unitRel units ih =>
    apply preserves_ask
    intro ok header
    split_ifs
    · exact ih header
    · exact preserves_done header
    · exact ih header
    · apply preserves_ask
      intro ok rom
      split_ifs
      · exact ih rom
      · exact preserves_done rom
      · apply fetchReferenced_preserves
        intro text rom
        exact (ih (pushUnit rom _ text)).congr rfl

/-- Behind the prefix comes the root directory, and nothing else but prefix reads. -/
lemma appendRootDirAndParse_preserves (rootDirStart : ℕ) (rootDirBE : List ℕ) (rom : ConfigROM) :
    Preserves rawOf (appendRootDirAndParse rootDirStart rootDirBE rom)
      { rom with rawQuadlets := rom.rawQuadlets ++ rootDirBE } := by
  unfold appendRootDirAndParse
  dsimp only
  apply fetchReferenced_preserves
  intro text rom
  have hvendor : rawOf (if text ≠ [] then { rom with vendorName := text } else rom) = rawOf rom := by
    split_ifs <;> rfl
  apply (fetchReferenced_preserves _ _ _ _).congr hvendor
  intro text rom
  have hmodel : rawOf (if text ≠ [] then { rom with modelName := text } else rom) = rawOf rom := by
    split_ifs <;> rfl
  exact (startNextUnitDir_preserves _ _ _).congr hmodel

/-! ### What genuine reads bring -/

section Reads

variable {mem : ℕ → ℕ} {offsetBytes count : ℕ} {r : ReadResult}

lemma genuine_rootDir_slice (h : Genuine mem (.rootDir offsetBytes count) r)
    (hsuccess : r.success = true) : ∃ k, r.quadletsBE = slice mem offsetBytes k := by
  by_cases hcount : count = 0
  · subst hcount
    rw [RomReadWorld.genuine_rootDir_header] at h
    exact ⟨_, (h hsuccess).trans (slice_cons _ _ _).symm⟩
  · rw [RomReadWorld.genuine_rootDir_count hcount] at h
    obtain ⟨k, -, hread, -⟩ := h hsuccess
    exact ⟨k, hread⟩

/-- The bus name the reader puts in its place is the one of the ROM. -/
lemma genuine_bib_isPrefix (hname : mem (romAddress 4) = swap32 kBusNameQuadlet)
    (h : Genuine mem .bib r) (hsuccess : r.success = true) : IsPrefix mem r.quadletsBE := by
  rcases h hsuccess with ⟨-, hshort⟩ | ⟨-, hlong⟩
  · rw [hshort]
    rfl
  · rw [hlong, IsPrefix, List.length_cons, List.length_cons, length_slice, slice_cons, slice_cons,
      ← hname]
    rfl

lemma bib_checkBIBCRC (bib : BusInfoBlock) (quadletsBE : List ℕ) :
    (checkBIBCRC bib quadletsBE).bib = bib := by
  unfold checkBIBCRC
  dsimp only
  split_ifs <;> rfl

/-- A block that parses as more than the one-quadlet format has its length and all its quadlets. -/
lemma parseBIB_general {quadletsBE : List ℕ} {parsed : BIBParseResult}
    (hparsed : parseBIB quadletsBE = .ok parsed) (hgeneral : parsed.bib.format ≠ .minimal1212) :
    parsed.bib.busInfoLength = busInfoField (quadletsBE.getD 0 0) ∧
      4 ≤ parsed.bib.busInfoLength ∧ parsed.bib.busInfoLength < quadletsBE.length := by
  unfold parseBIB at hparsed
  dsimp only at hparsed
  split_ifs at hparsed with hempty hminimal hshort hcrc htrailing hname
  · cases hparsed
    exact absurd rfl hgeneral
  · cases hparsed
    rw [bib_checkBIBCRC]
    unfold generalBIB
    dsimp only
    refine ⟨rfl, ?_, ?_⟩
    · exact Nat.not_lt.mp hshort
    · exact Nat.not_lt.mp htrailing

lemma genuine_bib_length (h : Genuine mem .bib r) (hsuccess : r.success = true)
    {parsed : BIBParseResult} (hparsed : parseBIB r.quadletsBE = .ok parsed)
    (hgeneral : parsed.bib.format ≠ .minimal1212) :
    r.quadletsBE.length = ROMScanSession.rootDirStartQuadlet parsed.bib := by
  obtain ⟨hfield, hmin, hlength⟩ := parseBIB_general hparsed hgeneral
  rcases h hsuccess with ⟨-, hshort⟩ | ⟨hlong, hread⟩
  · rw [hshort] at hlength
    simp at hlength
    omega
  · rw [hread] at hfield ⊢
    simp only [List.getD_cons_zero] at hfield
    simp only [List.length_cons, length_slice, ROMScanSession.rootDirStartQuadlet, hfield]
    omega

end Reads

/-! ### Images -/

variable {mem : ℕ → ℕ → ℕ} {rom rom' : ConfigROM} {node : ROMScanNode} {work : PendingWork}

/-- The quadlets collected so far are the first ones of the node's memory. -/
def Scanned (mem : ℕ → ℕ → ℕ) (rom : ConfigROM) : Prop :=
  IsPrefix (mem rom.nodeId) rom.rawQuadlets

lemma Scanned.congr (h : Scanned mem rom) (heq : rawOf rom' = rawOf rom) : Scanned mem rom' := by
  obtain ⟨hraw, hid⟩ := Prod.mk.inj heq
  rw [Scanned, hraw, hid]
  exact h

/-- What is read right behind the quadlets goes with them. -/
lemma Scanned.append (h : Scanned mem rom) {more : List ℕ} {count : ℕ}
    (hmore : more = slice (mem rom.nodeId) (rom.rawQuadlets.length * kQuadletBytes) count) :
    Scanned mem { rom with rawQuadlets := rom.rawQuadlets ++ more } := by
  unfold Scanned IsPrefix at h ⊢
  dsimp only
  rw [List.length_append, hmore, length_slice, slice_add, Nat.zero_add, ← h]

/-- The bus information block is read and the root directory is not. -/
def ScanState.beforeRootDir (state : ScanState) : Bool :=
  state = .verifyingIRMRead || state = .verifyingIRMLock || state = .readingRootDir

/-- The ROM of the node is scanned; before the root directory, up to where that starts. -/
structure ROMScanNode.Image (mem : ℕ → ℕ → ℕ) (node : ROMScanNode) : Prop where
  romId : node.partialROM.nodeId = node.nodeId
  scanned : Scanned mem node.partialROM
  upToRootDir : node.state.beforeRootDir = true →
    node.partialROM.rawQuadlets.length =
      ROMScanSession.rootDirStartQuadlet node.partialROM.bib

/-- The read goes on where the quadlets of the node end. -/
def PendingWork.Fits (node : ROMScanNode) (work : PendingWork) : Prop :=
  work.key.2 = node.state ∧
    match work with
    | .rootDirRead _ _ _ offsetBytes =>
      offsetBytes = node.partialROM.rawQuadlets.length * kQuadletBytes
    | .prefixRead _ _ _ offsetBytes _ _ next =>
      offsetBytes = node.partialROM.rawQuadlets.length * kQuadletBytes ∧
        ∀ ok rom, Preserves rawOf (next ok rom) rom
    | _ => True

lemma ROMScanNode.Image.congr {node' : ROMScanNode} (h : node.Image mem)
    (hid : node'.nodeId = node.nodeId) (hstate : node'.state = node.state)
    (hrom : node'.partialROM = node.partialROM) : node'.Image mem := by
  refine ⟨?_, ?_, ?_⟩
  · rw [hid, hrom]
    exact h.romId
  · rw [hrom]
    exact h.scanned
  · rw [hstate, hrom]
    exact h.upToRootDir

lemma ROMScanNode.Image.move (h : node.Image mem) {state : ScanState}
    (hstate : state.beforeRootDir = true → node.partialROM.rawQuadlets.length =
      ROMScanSession.rootDirStartQuadlet node.partialROM.bib) :
    ({ node with state := state } : ROMScanNode).Image mem := ⟨h.romId, h.scanned, hstate⟩

lemma transitionNodeState_cases (node : ROMScanNode) (next : ScanState) :
    transitionNodeState node next = (true, { node with state := next }) ∨
      transitionNodeState node next = (false, { node with state := .failed }) := by
  unfold transitionNodeState
  split_ifs
  · exact Or.inl rfl
  · exact Or.inr rfl

/-- Away from the root directory a transition takes nothing for granted. -/
lemma ROMScanNode.Image.transition (h : node.Image mem) (next : ScanState)
    (hnext : next.beforeRootDir = false) : (transitionNodeState node next).2.Image mem := by
  have hfailed : ScanState.failed.beforeRootDir = false := rfl
  rcases transitionNodeState_cases node next with heq | heq
  · rw [heq]
    exact h.move fun hbefore => by simp [hnext] at hbefore
  · rw [heq]
    exact h.move fun hbefore => by simp [hfailed] at hbefore

@[simp] lemma nodeId_transitionNodeState (node : ROMScanNode) (next : ScanState) :
    (transitionNodeState node next).2.nodeId = node.nodeId := by
  rcases transitionNodeState_cases node next with heq | heq <;> rw [heq]

/-! ### The nodes and what is out for them -/

lemma map_nodeId_replaceNode (node : ROMScanNode) (nodes : List ROMScanNode) :
    (replaceNode node nodes).map (fun node => node.nodeId) =
      nodes.map fun node => node.nodeId := by
  induction nodes with
  | nil => rfl
  | cons old nodes ih =>
    unfold replaceNode
    split_ifs with hold
    · simp [hold]
    · simp [ih]

lemma mem_replaceNode {n : ROMScanNode} {nodes : List ROMScanNode}
    (hnodup : (nodes.map fun node => node.nodeId).Nodup) (h : n ∈ replaceNode node nodes) :
    n = node ∨ n ∈ nodes ∧ n.nodeId ≠ node.nodeId := by
  induction nodes with
  | nil => simp [replaceNode] at h
  | cons old nodes ih =>
    rw [List.map_cons, List.nodup_cons] at hnodup
    unfold replaceNode at h
    split_ifs at h with hold
    · rcases List.mem_cons.mp h with rfl | hin
      · exact Or.inl rfl
      · right
        refine ⟨List.mem_cons_of_mem _ hin, fun hid => hnodup.1 ?_⟩
        rw [hold, ← hid]
        exact List.mem_map_of_mem hin
    · rcases List.mem_cons.mp h with rfl | hin
      · exact Or.inr ⟨List.mem_cons_self, hold⟩
      · rcases ih hnodup.2 hin with rfl | ⟨hold, hne⟩
        · exact Or.inl rfl
        · exact Or.inr ⟨List.mem_cons_of_mem _ hold, hne⟩

namespace ROMScanSession

/-- Every node has a faithful image, and so has every ROM collected or handed over. -/
structure Images (mem : ℕ → ℕ → ℕ) (s : ROMScanSession) : Prop where
  nodes : ∀ node ∈ s.nodeScans, node.Image mem
  roms : ∀ rom ∈ s.completedROMs, Scanned mem rom
  handed : ∀ c ∈ s.completions, ∀ rom ∈ c.roms, Scanned mem rom

/-- One work at most is out for a node, and it fits what the node has. -/
structure Imaging (mem : ℕ → ℕ → ℕ) (s : ROMScanSession) : Prop where
  images : s.Images mem
  nodup : (s.nodeScans.map fun node => node.nodeId).Nodup
  single : (s.pending.map fun work => work.key.1).Nodup
  begun : ∀ work ∈ s.pending, work.key.2 ≠ .idle
  fits : ∀ work ∈ s.pending, ∀ node ∈ s.nodeScans, work.key.1 = node.nodeId → work.Fits node

/-- Nothing is out for the node. -/
def Quiet (s : ROMScanSession) (nodeId : ℕ) : Prop := nodeId ∉ s.pending.map fun work => work.key.1

variable {s s' : ROMScanSession}

lemma Images.congr (h : s.Images mem) (hnodes : s'.nodeScans = s.nodeScans)
    (hroms : s'.completedROMs = s.completedROMs) (hhanded : s'.completions = s.completions) :
    s'.Images mem := ⟨hnodes ▸ h.nodes, hroms ▸ h.roms, hhanded ▸ h.handed⟩

lemma Imaging.congr (h : s.Imaging mem) (hnodes : s'.nodeScans = s.nodeScans)
    (hroms : s'.completedROMs = s.completedROMs) (hhanded : s'.completions = s.completions)
    (hpending : s'.pending = s.pending) : s'.Imaging mem where
  images := h.images.congr hnodes hroms hhanded
  nodup := hnodes ▸ h.nodup
  single := hpending ▸ h.single
  begun := hpending ▸ h.begun
  fits := by
    rw [hnodes, hpending]
    exact h.fits

lemma Imaging.findNode (h : s.Imaging mem) {nodeId : ℕ} (hfind : s.findNode nodeId = some node) :
    node ∈ s.nodeScans ∧ node.nodeId = nodeId ∧ node.Image mem := by
  have hmem := List.mem_of_find?_eq_some hfind
  exact ⟨hmem, by simpa using List.find?_some hfind, h.images.nodes node hmem⟩

/-- The pending work that is taken out was the only one for its node. -/
lemma Imaging.take (h : s.Imaging mem) {index : ℕ} (hwork : s.pending[index]? = some work) :
    ({ s with pending := s.pending.eraseIdx index } : ROMScanSession).Imaging mem ∧
      ({ s with pending := s.pending.eraseIdx index } : ROMScanSession).Quiet work.key.1 := by
  obtain ⟨hlt, hget⟩ := List.getElem?_eq_some_iff.mp hwork
  have hperm : (work :: s.pending.eraseIdx index).Perm s.pending := by
    rw [← hget]
    exact List.getElem_cons_eraseIdx_perm hlt
  have hsingle := ((hperm.map fun work => work.key.1).nodup_iff).mpr h.single
  rw [List.map_cons, List.nodup_cons] at hsingle
  exact ⟨⟨h.images.congr rfl rfl rfl, h.nodup, hsingle.2, fun w hw => h.begun w (List.mem_of_mem_eraseIdx hw),
    fun w hw => h.fits w (List.mem_of_mem_eraseIdx hw)⟩, hsingle.1⟩

lemma Imaging.put (h : s.Imaging mem) (himage : node.Image mem) (hquiet : s.Quiet node.nodeId) :
    (s.put node).Imaging mem where
  images :=
    { h.images with
      nodes := by
        intro n hn
        rcases mem_replaceNode h.nodup hn with rfl | ⟨hold, -⟩
        · exact himage
        · exact h.images.nodes n hold }
  nodup := by
    simp only [ROMScanSession.put, map_nodeId_replaceNode]
    exact h.nodup
  single := h.single
  begun := h.begun
  fits := by
    intro w hw n hn hid
    rcases mem_replaceNode h.nodup hn with rfl | ⟨hold, -⟩
    · exact absurd (hid ▸ List.mem_map_of_mem hw) hquiet
    · exact h.fits w hw n hold hid

/-- A node goes back with the work it waits for. -/
lemma Imaging.settle (h : s.Imaging mem) (work : PendingWork) (himage : node.Image mem) (hquiet : s.Quiet node.nodeId)
    (hid : work.key.1 = node.nodeId) (hbegun : work.key.2 ≠ .idle) (hfits : work.Fits node) :
    ((s.put node).await work).Imaging mem where
  images := (h.put himage hquiet).images.congr rfl rfl rfl
  nodup := (h.put himage hquiet).nodup
  single := by
    have hperm : ((s.pending ++ [work]).map fun work => work.key.1).Perm
        (work.key.1 :: s.pending.map fun work => work.key.1) := by
      rw [List.map_append]
      exact List.perm_append_singleton _ _
    apply hperm.nodup_iff.mpr
    rw [List.nodup_cons, hid]
    exact ⟨hquiet, h.single⟩
  begun := by
    intro w hw
    rcases List.mem_append.mp hw with hold | hnew
    · exact h.begun w hold
    · exact List.mem_singleton.mp hnew ▸ hbegun
  fits := by
    intro w hw n hn hkey
    rcases List.mem_append.mp hw with hold | hnew
    · exact (h.put himage hquiet).fits w hold n hn hkey
    · rw [List.mem_singleton] at hnew
      subst hnew
      rcases mem_replaceNode h.nodup hn with rfl | ⟨-, hne⟩
      · exact hfits
      · exact absurd (hkey.symm.trans hid) hne

/-! ### Completion and pump -/

lemma Images.maybeFinish (h : s.Images mem) : s.maybeFinish.Images mem := by
  unfold ROMScanSession.maybeFinish
  split_ifs
  · exact h
  · exact h
  · exact h
  · exact h
  · exact h
  · refine ⟨by simp, by simp, fun c hc => ?_⟩
    rcases List.mem_append.mp hc with hold | hnew
    · exact h.handed c hold
    · rw [List.mem_singleton] at hnew
      rw [hnew]
      exact h.roms

lemma Imaging.maybeFinish (h : s.Imaging mem) : s.maybeFinish.Imaging mem := by
  have himages := h.images.maybeFinish
  unfold ROMScanSession.maybeFinish at himages ⊢
  split_ifs at himages ⊢
  · exact h
  · exact h
  · exact h
  · exact h
  · exact h
  · exact ⟨himages, List.nodup_nil, h.single, h.begun, by simp⟩

/-- The pump reads for idle nodes only, for which nothing is out. -/
lemma Imaging.pumpNodes (rest : List ROMScanNode) {done : List ROMScanNode}
    (h : ({ s with nodeScans := done ++ rest } : ROMScanSession).Imaging mem) :
    ({ (s.pumpNodes rest).1 with nodeScans := done ++ (s.pumpNodes rest).2 } :
      ROMScanSession).Imaging mem := by
  induction rest generalizing s done with
  | nil => exact h
  | cons node rest ih =>
    unfold ROMScanSession.pumpNodes
    split_ifs with hfull hskip
    · exact h
    · rw [← List.singleton_append, ← List.append_assoc] at h ⊢
      exact ih h
    · simp only [Bool.or_eq_true, decide_eq_true_eq, not_or, not_not] at hskip
      have hnode : node ∈ done ++ node :: rest := by simp
      have hquiet : ({ s with nodeScans := done ++ node :: rest } : ROMScanSession).Quiet
          node.nodeId := by
        intro hout
        obtain ⟨work, hwork, hid⟩ := List.mem_map.mp hout
        have hfits := h.fits work hwork node hnode hid
        exact h.begun work hwork (hfits.1.trans hskip.1)
      have himage : ({ node with state := .readingBIB, bibInProgress := true } :
          ROMScanNode).Image mem :=
        ⟨(h.images.nodes node hnode).romId, (h.images.nodes node hnode).scanned,
          fun hbefore => by simp [ScanState.beforeRootDir] at hbefore⟩
      have hsettled := h.settle (.bibRead node.nodeId s.gen node.currentSpeed) himage
        hquiet rfl (by simp [PendingWork.key]) ⟨rfl, trivial⟩
      have hnew : node.nodeId ∉ (done ++ rest).map fun node => node.nodeId := by
        have hnodup := (List.perm_middle.map fun node : ROMScanNode => node.nodeId).nodup_iff.mp
          h.nodup
        exact (List.nodup_cons.mp hnodup).1
      have hstart : s.startBIBRead node =
          ((s.notifyRootBIBPending node.nodeId).issue
            (.bibRead node.nodeId s.gen node.currentSpeed),
            { node with state := .readingBIB, bibInProgress := true }) := by
        simp [startBIBRead, transitionNodeState, ROMScanNode.canTransitionTo, hskip.1]
      have hsplit : replaceNode { node with state := .readingBIB, bibInProgress := true }
          (done ++ node :: rest) =
            done ++ { node with state := .readingBIB, bibInProgress := true } :: rest :=
        replaceNode_split rfl hnew
      obtain ⟨started, terminal, evidence, hview⟩ := notifyRootBIBPending_view s node.nodeId
      have hstarted : ({ (s.startBIBRead node).1 with
          nodeScans := (done ++ [(s.startBIBRead node).2]) ++ rest } :
            ROMScanSession).Imaging mem := by
        rw [hstart, hview]
        apply hsettled.congr
        · rw [List.append_assoc, List.singleton_append]
          exact hsplit.symm
        · rfl
        · rfl
        · rfl
      have hback := ih hstarted
      rw [List.append_assoc, List.singleton_append] at hback
      exact hback

lemma Imaging.pump (h : s.Imaging mem) : s.pump.Imaging mem := by
  unfold ROMScanSession.pump
  split_ifs
  · exact h
  · have hpumped : ({ (s.pumpNodes s.nodeScans).1 with
        nodeScans := [] ++ (s.pumpNodes s.nodeScans).2 } : ROMScanSession).Imaging mem :=
      Imaging.pumpNodes s.nodeScans h
    exact hpumped.maybeFinish

/-! ### Retries -/

lemma Imaging.notifyRootBIBEnd (h : s.Imaging mem) (nodeId : ℕ)
    (evidence : RootCapabilityEvidence) : (s.notifyRootBIBEnd nodeId evidence).Imaging mem := by
  unfold ROMScanSession.notifyRootBIBEnd report
  split_ifs
  · exact h
  · exact h.congr rfl rfl rfl rfl

lemma Quiet.notifyRootBIBEnd {nodeId : ℕ} (h : s.Quiet nodeId) (rootNodeId : ℕ)
    (evidence : RootCapabilityEvidence) :
    (s.notifyRootBIBEnd rootNodeId evidence).Quiet nodeId := by
  unfold ROMScanSession.notifyRootBIBEnd report
  split_ifs <;> exact h

lemma Imaging.scheduleConfigROMReadyRetry (h : s.Imaging mem) (himage : node.Image mem)
    (hquiet : s.Quiet node.nodeId) : (s.scheduleConfigROMReadyRetry node).Imaging mem := by
  unfold ROMScanSession.scheduleConfigROMReadyRetry
  dsimp only
  rcases transitionNodeState_cases node .waitingConfigROMReady with heq | heq
  · rw [heq]
    have hwaiting : ({ node with
        state := .waitingConfigROMReady
        configROMReadyRetriesLeft := node.configROMReadyRetriesLeft - 1 } :
          ROMScanNode).Image mem :=
      ⟨himage.romId, himage.scanned, fun hbefore => by simp [ScanState.beforeRootDir] at hbefore⟩
    have hbusy : ({ s with hadBusyNodes := true } : ROMScanSession).Imaging mem :=
      h.congr rfl rfl rfl rfl
    exact hbusy.settle (.readyRetry node.nodeId) hwaiting hquiet rfl
      (by simp [PendingWork.key]) ⟨rfl, trivial⟩
  · rw [heq]
    have hfailed : ({ node with state := .failed } : ROMScanNode).Image mem :=
      himage.move fun hbefore => by simp [ScanState.beforeRootDir] at hbefore
    exact (h.put hfailed hquiet).pump

lemma Imaging.retryWithFallback (h : s.Imaging mem) (himage : node.Image mem)
    (hquiet : s.Quiet node.nodeId) :
    ((s.retryWithFallback node).1.put (s.retryWithFallback node).2).Imaging mem := by
  have hpolicy : ∀ policy, ({ s with speedPolicy := policy } : ROMScanSession).Imaging mem :=
    fun policy => h.congr rfl rfl rfl rfl
  have hput : ∀ (policy : SpeedPolicy) (node' : ROMScanNode) (next : ScanState),
      node'.nodeId = node.nodeId → node'.Image mem → next.beforeRootDir = false →
      (({ s with speedPolicy := policy } : ROMScanSession).put
        (transitionNodeState node' next).2).Imaging mem := by
    intro policy node' next hid himage' hnext
    have hsame : (transitionNodeState node' next).2.nodeId = node.nodeId :=
      (nodeId_transitionNodeState node' next).trans hid
    apply (hpolicy policy).put (himage'.transition next hnext)
    rw [hsame]
    exact hquiet
  unfold ROMScanSession.retryWithFallback
  dsimp only
  split_ifs
  · exact hput s.speedPolicy { node with retriesLeft := node.retriesLeft - 1 } .idle rfl
      (himage.congr rfl rfl rfl) rfl
  · exact hput _ node .failed rfl himage rfl
  · apply hput
    · rfl
    · exact himage.congr rfl rfl rfl
    · rfl

lemma Imaging.retryBIB (h : s.Imaging mem) (himage : node.Image mem)
    (hquiet : s.Quiet node.nodeId) (status : RootBibReadStatus) :
    (s.retryBIB node status).Imaging mem := by
  have hbusy : ({ s with hadBusyNodes := true } : ROMScanSession).Imaging mem :=
    h.congr rfl rfl rfl rfl
  unfold ROMScanSession.retryBIB
  dsimp only
  split_ifs
  · exact hbusy.scheduleConfigROMReadyRetry himage hquiet
  · exact ((hbusy.retryWithFallback himage hquiet).notifyRootBIBEnd _ _).pump
  · exact (hbusy.retryWithFallback himage hquiet).pump

lemma Imaging.handleReadyRetry (h : s.Imaging mem) {nodeId : ℕ} (hquiet : s.Quiet nodeId) :
    (s.handleReadyRetry nodeId).Imaging mem := by
  unfold ROMScanSession.handleReadyRetry
  split_ifs
  · exact h
  · cases hfind : s.findNode nodeId with
    | none => exact h
    | some node =>
      obtain ⟨-, rfl, himage⟩ := h.findNode hfind
      dsimp only
      split_ifs
      · exact h
      · apply (h.put (himage.transition .idle rfl) _).pump
        rw [nodeId_transitionNodeState]
        exact hquiet

/-! ### The IRM check -/

/-- The root directory is asked for right behind the bus information block. -/
lemma Imaging.startRootDirRead (h : s.Imaging mem) (himage : node.Image mem)
    (hquiet : s.Quiet node.nodeId) (hlength : node.partialROM.rawQuadlets.length =
      rootDirStartQuadlet node.partialROM.bib) : (s.startRootDirRead node).Imaging mem := by
  unfold ROMScanSession.startRootDirRead
  dsimp only
  rcases transitionNodeState_cases node .readingRootDir with heq | heq
  · rw [heq]
    have hreading : ({ node with
        state := .readingRootDir
        retriesLeft := s.params.perStepRetries } : ROMScanNode).Image mem :=
      ⟨himage.romId, himage.scanned, fun _ => hlength⟩
    have hsettled := h.settle (.rootDirRead node.nodeId s.gen node.currentSpeed
      (rootDirStartBytes node.partialROM.bib)) hreading hquiet rfl (by simp [PendingWork.key])
      ⟨rfl, by simp [rootDirStartBytes, hlength]⟩
    exact hsettled.congr rfl rfl rfl rfl
  · rw [heq]
    have hfailed : ({ node with state := .failed } : ROMScanNode).Image mem :=
      himage.move fun hbefore => by simp [ScanState.beforeRootDir] at hbefore
    exact (h.put hfailed hquiet).pump

lemma Imaging.markBadIRM (h : s.Imaging mem) (nodeId : ℕ) : (s.markBadIRM nodeId).Imaging mem := by
  unfold ROMScanSession.markBadIRM
  split_ifs
  · exact h.congr rfl rfl rfl rfl
  · exact h

lemma Quiet.markBadIRM {nodeId : ℕ} (h : s.Quiet nodeId) (badId : ℕ) :
    (s.markBadIRM badId).Quiet nodeId := by
  unfold ROMScanSession.markBadIRM
  split_ifs <;> exact h

/-- The nodes with the ID are in the state. -/
def Found (s : ROMScanSession) (nodeId : ℕ) (state : ScanState) : Prop :=
  ∀ node ∈ s.nodeScans, node.nodeId = nodeId → node.state = state

lemma Imaging.found_put (h : s.Imaging mem) (node : ROMScanNode) :
    (s.put node).Found node.nodeId node.state := by
  intro n hn hid
  rcases mem_replaceNode h.nodup hn with rfl | ⟨-, hne⟩
  · rfl
  · exact absurd hid hne

lemma Imaging.handleIRMLockComplete (h : s.Imaging mem) {nodeId : ℕ} (hquiet : s.Quiet nodeId)
    (hfound : s.Found nodeId .verifyingIRMLock) (success : Bool) :
    (s.handleIRMLockComplete nodeId success).Imaging mem := by
  have hretired : s.retire.Imaging mem := h.congr rfl rfl rfl rfl
  unfold ROMScanSession.handleIRMLockComplete
  dsimp only
  cases hfind : s.retire.findNode nodeId with
  | none =>
    dsimp only
    split_ifs
    · exact h
    · exact h
    · exact hretired.pump
  | some node =>
    obtain ⟨hmem, rfl, himage⟩ := hretired.findNode hfind
    have hlength := himage.upToRootDir (by rw [hfound node hmem rfl]; rfl)
    have hretiredQuiet : s.retire.Quiet node.nodeId := hquiet
    dsimp only
    unfold continueAfterIRMCheck
    split_ifs
    · exact h
    · exact h
    · exact (hretired.markBadIRM _).startRootDirRead (himage.congr rfl rfl rfl)
        (hretiredQuiet.markBadIRM _) hlength
    · exact hretired.startRootDirRead (himage.congr rfl rfl rfl) hquiet hlength

variable {submit : SubmitOutcome}

/-- A lock that is refused at once is a failed lock. -/
lemma Imaging.startIRMLock (h : s.Imaging mem) (himage : node.Image mem)
    (hquiet : s.Quiet node.nodeId) (hlength : node.partialROM.rawQuadlets.length =
      rootDirStartQuadlet node.partialROM.bib) (hsubmit : submit ≠ .failedRegistered) :
    (s.startIRMLock node submit).Imaging mem := by
  unfold ROMScanSession.startIRMLock
  dsimp only
  rcases transitionNodeState_cases node .verifyingIRMLock with heq | heq
  · rw [heq]
    have hlocking : ({ node with state := .verifyingIRMLock } : ROMScanNode).Image mem :=
      himage.move fun _ => hlength
    cases submit with
    | accepted =>
      have hsettled := h.settle (.irmLock node.nodeId) hlocking hquiet rfl
        (by simp [PendingWork.key]) ⟨rfl, trivial⟩
      exact hsettled.congr rfl rfl rfl rfl
    | failed =>
      have hput := h.put hlocking hquiet
      have hback : (s.put { node with state := .verifyingIRMLock }).submitted.Imaging mem :=
        hput.congr rfl rfl rfl rfl
      exact hback.handleIRMLockComplete hquiet (h.found_put _) false
    | failedRegistered => exact absurd rfl hsubmit
  · rw [heq]
    have hfailed : ({ node with state := .failed } : ROMScanNode).Image mem :=
      himage.move fun hbefore => by simp [ScanState.beforeRootDir] at hbefore
    exact (h.put hfailed hquiet).pump

lemma Imaging.handleIRMReadComplete (h : s.Imaging mem) {nodeId : ℕ} (hquiet : s.Quiet nodeId)
    (hfound : s.Found nodeId .verifyingIRMRead) (hsubmit : submit ≠ .failedRegistered)
    (success : Bool) (valueHostOrder : ℕ) :
    (s.handleIRMReadComplete nodeId success valueHostOrder submit).Imaging mem := by
  have hretired : s.retire.Imaging mem := h.congr rfl rfl rfl rfl
  unfold ROMScanSession.handleIRMReadComplete
  dsimp only
  cases hfind : s.retire.findNode nodeId with
  | none =>
    dsimp only
    split_ifs
    · exact h
    · exact h
    · exact hretired.pump
  | some node =>
    obtain ⟨hmem, rfl, himage⟩ := hretired.findNode hfind
    have hlength := himage.upToRootDir (by rw [hfound node hmem rfl]; rfl)
    have hretiredQuiet : s.retire.Quiet node.nodeId := hquiet
    dsimp only
    split_ifs
    · exact h
    · exact h
    · exact (hretired.markBadIRM _).startRootDirRead (himage.congr rfl rfl rfl)
        (hretiredQuiet.markBadIRM _) hlength
    · exact hretired.startIRMLock (himage.congr rfl rfl rfl) hquiet hlength hsubmit

lemma Imaging.startIRMRead (h : s.Imaging mem) (himage : node.Image mem)
    (hquiet : s.Quiet node.nodeId) (hlength : node.partialROM.rawQuadlets.length =
      rootDirStartQuadlet node.partialROM.bib) (hsubmit : submit ≠ .failedRegistered) :
    (s.startIRMRead node submit).Imaging mem := by
  unfold ROMScanSession.startIRMRead
  dsimp only
  rcases transitionNodeState_cases { node with needsIRMCheck := true } .verifyingIRMRead with
    heq | heq
  · rw [heq]
    have hchecking : ({ node with
        needsIRMCheck := true
        state := .verifyingIRMRead } : ROMScanNode).Image mem :=
      ⟨himage.romId, himage.scanned, fun _ => hlength⟩
    cases submit with
    | accepted =>
      have hsettled := h.settle (.irmRead node.nodeId) hchecking hquiet rfl
        (by simp [PendingWork.key]) ⟨rfl, trivial⟩
      exact hsettled.congr rfl rfl rfl rfl
    | failed =>
      have hput := h.put hchecking hquiet
      have hback : (s.put { node with
          needsIRMCheck := true
          state := .verifyingIRMRead }).submitted.Imaging mem := hput.congr rfl rfl rfl rfl
      exact hback.handleIRMReadComplete hquiet (h.found_put _) (by decide) false 0
    | failedRegistered => exact absurd rfl hsubmit
  · rw [heq]
    have hfailed : ({ node with needsIRMCheck := true, state := .failed } :
        ROMScanNode).Image mem :=
      ⟨himage.romId, himage.scanned, fun hbefore => by simp [ScanState.beforeRootDir] at hbefore⟩
    exact (h.put hfailed hquiet).pump

/-! ### Details -/

/-- The ROM of a node that is through goes to the collected ones. -/
lemma Imaging.finalizeNodeDiscovery (h : s.Imaging mem) (hquiet : s.Quiet node.nodeId)
    (hid : node.partialROM.nodeId = node.nodeId) (hscanned : Scanned mem node.partialROM)
    (hstate : node.state = .readingDetails) : (s.finalizeNodeDiscovery node).Imaging mem := by
  have himage : node.Image mem :=
    ⟨hid, hscanned, fun hbefore => by simp [ScanState.beforeRootDir, hstate] at hbefore⟩
  unfold ROMScanSession.finalizeNodeDiscovery
  dsimp only
  have hdone := himage.transition .complete rfl
  have hsame := nodeId_transitionNodeState node .complete
  split_ifs
  · have hpolicy : ({ s with
        speedPolicy := s.speedPolicy.recordSuccess node.nodeId node.currentSpeed } :
          ROMScanSession).Imaging mem := h.congr rfl rfl rfl rfl
    exact (hpolicy.put hdone (by rw [hsame]; exact hquiet)).maybeFinish.pump
  · have hcollected : ({ s with
        speedPolicy := s.speedPolicy.recordSuccess node.nodeId node.currentSpeed
        completedROMs := s.completedROMs ++ [(transitionNodeState node .complete).2.partialROM] } :
          ROMScanSession).Imaging mem := by
      refine ⟨⟨h.images.nodes, fun rom hrom => ?_, h.images.handed⟩, h.nodup, h.single, h.begun,
        h.fits⟩
      rcases List.mem_append.mp hrom with hold | hnew
      · exact h.images.roms rom hold
      · exact List.mem_singleton.mp hnew ▸ hdone.scanned
    exact (hcollected.put hdone (by rw [hsame]; exact hquiet)).maybeFinish.pump

/-- The discovery adds no quadlets of its own until it has to read, and then reads on where they
end. -/
lemma Imaging.continueDetails (p : DetailsDiscovery) {found : ConfigROM} (h : s.Imaging mem)
    (hquiet : s.Quiet node.nodeId) (hstate : node.state = .readingDetails)
    (hp : Preserves rawOf p found) (hscanned : Scanned mem found)
    (hid : found.nodeId = node.nodeId) : (s.continueDetails node p).Imaging mem := by
  induction p generalizing found with
  | done rom =>
    have hraw : rawOf rom = rawOf found := hp
    have hromId : rom.nodeId = node.nodeId := (congrArg Prod.snd hraw).trans hid
    exact h.finalizeNodeDiscovery hquiet hromId (hscanned.congr hraw) hstate
  | ask rom required next ih =>
    have hraw : rawOf rom = rawOf found := hp.1
    have hromId : rom.nodeId = node.nodeId := (congrArg Prod.snd hraw).trans hid
    unfold ROMScanSession.continueDetails
    split_ifs
    · exact ih false rom (hp.2 false rom) (hscanned.congr hraw) hromId
    · exact ih true rom (hp.2 true rom) (hscanned.congr hraw) hromId
    · have hreading : ({ node with partialROM := rom } : ROMScanNode).Image mem :=
        ⟨hromId, hscanned.congr hraw,
          fun hbefore => by simp [ScanState.beforeRootDir, hstate] at hbefore⟩
      have hsettled := h.settle (.prefixRead node.nodeId s.gen node.currentSpeed
        (rom.rawQuadlets.length * kQuadletBytes) (required - rom.rawQuadlets.length) required next)
        hreading hquiet rfl (by simp [PendingWork.key]) ⟨hstate.symm, rfl, hp.2⟩
      exact hsettled.congr rfl rfl rfl rfl

lemma Imaging.handlePrefixComplete (h : s.Imaging mem) {nodeId offsetBytes count required : ℕ}
    {next : Bool → ConfigROM → DetailsDiscovery} {r : ReadResult} (hquiet : s.Quiet nodeId)
    (hfits : ∀ node ∈ s.nodeScans, node.nodeId = nodeId → node.state = .readingDetails ∧
      offsetBytes = node.partialROM.rawQuadlets.length * kQuadletBytes ∧
        ∀ ok rom, Preserves rawOf (next ok rom) rom)
    (hread : Genuine (mem nodeId) (.rootDir offsetBytes count) r) :
    (s.handlePrefixComplete nodeId required next r).Imaging mem := by
  have hretired : s.retire.Imaging mem := h.congr rfl rfl rfl rfl
  unfold ROMScanSession.handlePrefixComplete
  dsimp only
  cases hfind : s.retire.findNode nodeId with
  | none =>
    dsimp only
    split_ifs
    · exact h
    · exact hretired.maybeFinish.pump.pump
  | some node =>
    obtain ⟨hmem, rfl, himage⟩ := hretired.findNode hfind
    obtain ⟨hstate, hoffset, hnext⟩ := hfits node hmem rfl
    dsimp only
    split_ifs with hstale hfailed
    · exact h
    · exact (hretired.continueDetails _ hquiet hstate (hnext _ _) himage.scanned himage.romId).pump
    · have hsuccess : r.success = true := by
        by_contra hne
        simp [hne] at hfailed
      obtain ⟨k, hslice⟩ := genuine_rootDir_slice hread hsuccess
      rw [hoffset, ← himage.romId] at hslice
      have happended := himage.scanned.append hslice
      exact (hretired.continueDetails _ hquiet hstate (hnext _ _) happended himage.romId).pump

/-- `EnsurePrefix` finds the quadlets up to the root directory there. -/
lemma continueDetails_start (s : ROMScanSession) (node : ROMScanNode) (rootDirStart : ℕ)
    (rootDirBE : List ℕ) {rom : ConfigROM} (hlength : rootDirStart ≤ rom.rawQuadlets.length) :
    s.continueDetails node (startDetailsDiscovery rootDirStart rootDirBE rom) =
      s.continueDetails node (appendRootDirAndParse rootDirStart rootDirBE rom) := by
  rw [startDetailsDiscovery, ROMScanSession.continueDetails]
  split_ifs <;> rfl

lemma Imaging.handleRootDirComplete (h : s.Imaging mem) {nodeId offsetBytes : ℕ}
    {r : ReadResult} (hquiet : s.Quiet nodeId)
    (hfits : ∀ node ∈ s.nodeScans, node.nodeId = nodeId → node.state = .readingRootDir ∧
      offsetBytes = node.partialROM.rawQuadlets.length * kQuadletBytes)
    (hread : Genuine (mem nodeId) (.rootDir offsetBytes 0) r) :
    (s.handleRootDirComplete nodeId r).Imaging mem := by
  have hretired : s.retire.Imaging mem := h.congr rfl rfl rfl rfl
  unfold ROMScanSession.handleRootDirComplete
  dsimp only
  cases hfind : s.retire.findNode nodeId with
  | none =>
    dsimp only
    split_ifs
    · exact h
    · exact h
    · exact hretired.pump
  | some node =>
    obtain ⟨hmem, rfl, himage⟩ := hretired.findNode hfind
    obtain ⟨hstate, hoffset⟩ := hfits node hmem rfl
    have hlength := himage.upToRootDir (by rw [hstate]; rfl)
    have hbusy : ({ s.retire with hadBusyNodes := true } : ROMScanSession).Imaging mem :=
      h.congr rfl rfl rfl rfl
    have hparsed : ({ node with partialROM := { node.partialROM with
        rootDirMinimal := rootEntriesOf r.quadletsBE } } : ROMScanNode).Image mem :=
      ⟨himage.romId, himage.scanned, himage.upToRootDir⟩
    have hput := hretired.put (hparsed.transition .readingDetails rfl)
      (by rw [nodeId_transitionNodeState]; exact hquiet)
    dsimp only
    split_ifs with haborted hstale hfailed hdelay hillegal
    · exact h
    · exact h
    · exact hbusy.scheduleConfigROMReadyRetry himage hquiet
    · exact (hbusy.retryWithFallback himage hquiet).pump
    · exact hput.maybeFinish.pump
    · have hsuccess : r.success = true := by
        by_contra hne
        simp [hne] at hfailed
      obtain ⟨k, hslice⟩ := genuine_rootDir_slice hread hsuccess
      rw [hoffset, ← himage.romId] at hslice
      have happended := hparsed.scanned.append hslice
      rcases transitionNodeState_cases { node with partialROM := { node.partialROM with
        rootDirMinimal := rootEntriesOf r.quadletsBE } } .readingDetails with heq | heq
      · rw [heq]
        dsimp only
        rw [continueDetails_start]
        · exact hretired.continueDetails _ hquiet rfl (appendRootDirAndParse_preserves _ _ _)
            happended himage.romId
        · exact hlength.ge
      · rw [heq] at hillegal
        exact absurd rfl hillegal

/-- The bus information block is the first thing read, and ends where the root directory starts. -/
lemma Imaging.handleBIBComplete (h : s.Imaging mem) {nodeId : ℕ} {r : ReadResult}
    (hquiet : s.Quiet nodeId) (hfound : s.Found nodeId .readingBIB)
    (hname : mem nodeId (romAddress 4) = swap32 kBusNameQuadlet)
    (hread : Genuine (mem nodeId) .bib r) (hsubmit : submit ≠ .failedRegistered) :
    (s.handleBIBComplete nodeId r submit).Imaging mem := by
  have hretired : s.retire.Imaging mem := h.congr rfl rfl rfl rfl
  unfold ROMScanSession.handleBIBComplete
  dsimp only
  cases hfind : s.retire.findNode nodeId with
  | none =>
    dsimp only
    split_ifs
    · exact h
    · exact hretired.pump
  | some node =>
    obtain ⟨hmem, rfl, himage⟩ := hretired.findNode hfind
    have hretiredQuiet : s.retire.Quiet node.nodeId := hquiet
    have hidle : ({ node with bibInProgress := false } : ROMScanNode).Image mem :=
      himage.congr rfl rfl rfl
    dsimp only
    split_ifs with hstale hfailed hzero
    · exact h
    · exact hretired.retryBIB hidle hquiet _
    · exact hretired.retryBIB hidle hquiet _
    · have hsuccess : r.success = true := by
        by_contra hne
        simp [hne] at hfailed
      cases hparsed : parseBIB r.quadletsBE with
      | error e =>
        have hput := hretired.put (hidle.transition .failed rfl)
          (by rw [nodeId_transitionNodeState]; exact hquiet)
        exact (hput.notifyRootBIBEnd _ _).pump
      | ok parsed =>
        have hblock : ({ node with
            bibInProgress := false
            partialROM := { node.partialROM with
              rawQuadlets := r.quadletsBE
              bib := parsed.bib } } : ROMScanNode).Image mem := by
          refine ⟨himage.romId, ?_, fun hbefore => ?_⟩
          · rw [Scanned, himage.romId]
            exact genuine_bib_isPrefix hname hread hsuccess
          · rw [hfound node hmem rfl] at hbefore
            exact absurd hbefore (by decide)
        have hpolicy : ({ s.retire with
            speedPolicy := s.retire.speedPolicy.recordSuccess node.nodeId node.currentSpeed } :
              ROMScanSession).Imaging mem := h.congr rfl rfl rfl rfl
        have hpolicyQuiet : ({ s.retire with
            speedPolicy := s.retire.speedPolicy.recordSuccess node.nodeId node.currentSpeed } :
              ROMScanSession).Quiet node.nodeId := hquiet
        dsimp only
        split_ifs with hminimal
        · apply ((hpolicy.notifyRootBIBEnd _ _).put (hblock.transition .complete rfl) _).pump
          rw [nodeId_transitionNodeState]
          exact hpolicyQuiet.notifyRootBIBEnd _ _
        · have hlength := genuine_bib_length hread hsuccess hparsed hminimal
          unfold continueAfterBIBSuccess
          split_ifs
          · exact (hpolicy.notifyRootBIBEnd _ _).startIRMRead hblock
              (hpolicyQuiet.notifyRootBIBEnd _ _) hlength hsubmit
          · exact (hpolicy.notifyRootBIBEnd _ _).startRootDirRead hblock
              (hpolicyQuiet.notifyRootBIBEnd _ _) hlength

/-! ### Runs -/

/-- What the reader answers of the memory of the node. -/
def GenuineAnswer (mem : ℕ → ℕ → ℕ) (answer : WorkAnswer) : PendingWork → Prop
  | .bibRead nodeId generation _ =>
    Genuine (mem nodeId) .bib
      (readResult answer nodeId generation kConfigROMAddressLo)
  | .rootDirRead nodeId generation _ offsetBytes =>
    Genuine (mem nodeId) (.rootDir offsetBytes 0)
      (readResult answer nodeId generation (romAddress offsetBytes))
  | .prefixRead nodeId generation _ offsetBytes count _ _ =>
    Genuine (mem nodeId) (.rootDir offsetBytes count)
      (readResult answer nodeId generation (romAddress offsetBytes))
  | _ => True

/-- The devices answer from memories that do not change. -/
def FromDevices (mem : ℕ → ℕ → ℕ) (s : ROMScanSession) : ScanEvent → Prop
  | .answer index answer _ => ∀ work ∈ s.pending[index]?, GenuineAnswer mem answer work
  | .abort => True

instance (mem : ℕ → ℕ → ℕ) (answer : WorkAnswer) :
    ∀ work, Decidable (GenuineAnswer mem answer work)
  | .bibRead nodeId generation _ =>
    inferInstanceAs (Decidable (Genuine (mem nodeId) .bib
      (readResult answer nodeId generation kConfigROMAddressLo)))
  | .rootDirRead nodeId generation _ offsetBytes =>
    inferInstanceAs (Decidable (Genuine (mem nodeId) (.rootDir offsetBytes 0)
      (readResult answer nodeId generation (romAddress offsetBytes))))
  | .prefixRead nodeId generation _ offsetBytes count _ _ =>
    inferInstanceAs (Decidable (Genuine (mem nodeId) (.rootDir offsetBytes count)
      (readResult answer nodeId generation (romAddress offsetBytes))))
  | .startScan _ | .abortScan | .irmRead _ | .irmLock _ | .readyRetry _ => isTrue trivial

instance (mem : ℕ → ℕ → ℕ) (s : ROMScanSession) : ∀ e, Decidable (FromDevices mem s e)
  | .answer index answer _ =>
    inferInstanceAs (Decidable (∀ work ∈ s.pending[index]?, GenuineAnswer mem answer work))
  | .abort => isTrue trivial

/-- Every read, lock and timer calls back once, and the session may be aborted. -/
def CalledOnce (e : ScanEvent) : Prop :=
  match e with
  | .abort => True
  | .answer _ _ _ => ScanEvent.Once e

lemma Imaging.step_answer (h : s.Imaging mem)
    (hname : ∀ nodeId, mem nodeId (romAddress 4) = swap32 kBusNameQuadlet) {index : ℕ}
    {answer : WorkAnswer} (hsubmit : answer.submit ≠ .failedRegistered)
    (hread : s.FromDevices mem (.answer index answer false)) :
    (s.step (.answer index answer false)).Imaging mem := by
  cases hwork : s.pending[index]? with
  | none =>
    have hstay : s.step (.answer index answer false) = s := by simp [ROMScanSession.step, hwork]
    rwa [hstay]
  | some work =>
    have hstep : s.step (.answer index answer false) =
        ({ s with pending := s.pending.eraseIdx index }).perform answer work := by
      simp [ROMScanSession.step, hwork]
    have hin : work ∈ s.pending := List.mem_of_getElem? hwork
    have hgenuine : GenuineAnswer mem answer work := hread work hwork
    obtain ⟨htaken, hquiet⟩ := h.take hwork
    have hfits : ∀ node ∈ s.nodeScans, node.nodeId = work.key.1 → work.Fits node :=
      fun node hnode hid => h.fits work hin node hnode hid.symm
    have hfound : ({ s with pending := s.pending.eraseIdx index } : ROMScanSession).Found
        work.key.1 work.key.2 := fun node hnode hid => (hfits node hnode hid).1.symm
    rw [hstep]
    cases work with
    | startScan request => exact absurd rfl (h.begun _ hin)
    | abortScan => exact absurd rfl (h.begun _ hin)
    | bibRead nodeId generation speed =>
      exact htaken.handleBIBComplete hquiet hfound (hname nodeId) hgenuine hsubmit
    | irmRead nodeId => exact htaken.handleIRMReadComplete hquiet hfound hsubmit _ _
    | irmLock nodeId => exact htaken.handleIRMLockComplete hquiet hfound _
    | rootDirRead nodeId generation speed offsetBytes =>
      apply htaken.handleRootDirComplete hquiet _ hgenuine
      intro node hnode hid
      obtain ⟨hstate, hoffset⟩ := hfits node hnode hid
      exact ⟨hstate.symm, hoffset⟩
    | prefixRead nodeId generation speed offsetBytes count required next =>
      apply htaken.handlePrefixComplete hquiet _ hgenuine
      intro node hnode hid
      obtain ⟨hstate, hread⟩ := hfits node hnode hid
      exact ⟨hstate.symm, hread⟩
    | readyRetry nodeId => exact htaken.handleReadyRetry hquiet

lemma images_new (mem : ℕ → ℕ → ℕ) (params : ROMScannerParams) (gen : ℕ) (nodeIds : List ℕ) :
    ∀ node ∈ nodeIds.map (newNode params gen), node.Image mem := by
  intro node hnode
  obtain ⟨nodeId, -, rfl⟩ := List.mem_map.mp hnode
  exact ⟨rfl, rfl, fun hbefore => by simp [ScanState.beforeRootDir, newNode] at hbefore⟩

lemma Images.startScan (h : s.Images mem) (request : ROMScanRequest) (hpending : s.pending = [])
    (hnodup : (scannedNodeIds request).Nodup) : (s.startScan request).Imaging mem := by
  have hstarted : ∀ s' : ROMScanSession, s'.pending = [] →
      s'.nodeScans = (scannedNodeIds request).map (newNode s.params request.gen) →
      s'.completedROMs = [] → s'.completions = s.completions → s'.Imaging mem := by
    intro s' hnone hnodes hroms hhanded
    refine ⟨⟨?_, by simp [hroms], hhanded ▸ h.handed⟩, ?_, by simp [hnone], by simp [hnone],
      by simp [hnone]⟩
    · rw [hnodes]
      exact images_new _ _ _ _
    · rw [hnodes, List.map_map]
      change ((scannedNodeIds request).map id).Nodup
      rwa [List.map_id]
  unfold ROMScanSession.startScan
  dsimp only
  split_ifs
  · apply Imaging.maybeFinish
    apply hstarted
    · exact hpending
    · rfl
    · rfl
    · rfl
  · apply Imaging.pump
    apply hstarted
    · exact hpending
    · rfl
    · rfl
    · rfl

/-- An aborted session reads nothing into its nodes any more. -/
lemma Images.step_aborted (h : s.Images mem) (haborted : s.aborted = true) (e : ScanEvent) :
    (s.step e).Images mem := by
  cases e with
  | abort => exact h.congr rfl rfl rfl
  | answer index answer again =>
    simp only [ROMScanSession.step]
    cases hwork : s.pending[index]? with
    | none => exact h
    | some work =>
      dsimp only
      generalize (if again then s.pending else s.pending.eraseIdx index) = rest
      cases work with
      | startScan request =>
        have hnew : ∀ s' : ROMScanSession,
            s'.nodeScans = (scannedNodeIds request).map (newNode s.params request.gen) →
            s'.completedROMs = [] → s'.completions = s.completions → s'.Images mem := by
          intro s' hnodes hroms hhanded
          refine ⟨?_, by simp [hroms], hhanded ▸ h.handed⟩
          rw [hnodes]
          exact images_new _ _ _ _
        simp only [perform, ROMScanSession.startScan]
        split_ifs
        · apply Images.maybeFinish
          apply hnew <;> rfl
        · unfold ROMScanSession.pump
          rw [if_pos haborted]
          apply hnew <;> rfl
      | abortScan =>
        refine ⟨by simp [perform, abortScan], by simp [perform, abortScan], ?_⟩
        have hkept : (({ s with pending := rest } : ROMScanSession).abortScan).completions =
            s.completions := by
          simp only [abortScan, notifyRootBIBFailure]
          split
          · exact (aborted_notifyRootBIBEnd _ _ _).2
          · rfl
        simp only [perform]
        rw [hkept]
        exact h.handed
      | bibRead nodeId generation speed =>
        simp only [perform, ROMScanSession.handleBIBComplete, haborted, Bool.true_or, if_true]
        exact h.congr rfl rfl rfl
      | irmRead nodeId =>
        simp only [perform, ROMScanSession.handleIRMReadComplete, haborted, if_true]
        exact h.congr rfl rfl rfl
      | irmLock nodeId =>
        simp only [perform, ROMScanSession.handleIRMLockComplete, haborted, if_true]
        exact h.congr rfl rfl rfl
      | rootDirRead nodeId generation speed offsetBytes =>
        simp only [perform, ROMScanSession.handleRootDirComplete, haborted, if_true]
        exact h.congr rfl rfl rfl
      | prefixRead nodeId generation speed offsetBytes count required next =>
        simp only [perform, ROMScanSession.handlePrefixComplete, haborted, Bool.true_or, if_true]
        exact h.congr rfl rfl rfl
      | readyRetry nodeId =>
        simp only [perform, ROMScanSession.handleReadyRetry, haborted, if_true]
        exact h.congr rfl rfl rfl

/-- Before its posted start, at work, or aborted. -/
def Faithful (mem : ℕ → ℕ → ℕ) (s : ROMScanSession) : Prop :=
  (s.Images mem ∧ ∃ request, s.pending = [.startScan request] ∧ (scannedNodeIds request).Nodup) ∨
    s.Imaging mem ∨ s.aborted = true ∧ s.Images mem

lemma Faithful.images (h : s.Faithful mem) : s.Images mem := by
  rcases h with ⟨himages, -⟩ | himaging | ⟨-, himages⟩
  · exact himages
  · exact himaging.images
  · exact himages

/-- The step lemma. -/
lemma Faithful.step (h : s.Faithful mem)
    (hname : ∀ nodeId, mem nodeId (romAddress 4) = swap32 kBusNameQuadlet) {e : ScanEvent}
    (honce : CalledOnce e) (hread : s.FromDevices mem e) : (s.step e).Faithful mem := by
  cases e with
  | abort => exact Or.inr (Or.inr ⟨rfl, h.images.congr rfl rfl rfl⟩)
  | answer index answer again =>
    obtain ⟨hagain, hsubmit⟩ := honce
    change again = false at hagain
    subst hagain
    rcases h with ⟨himages, request, hpending, hnodup⟩ | himaging | ⟨haborted, himages⟩
    · cases index with
      | zero =>
        have hstart : s.step (.answer 0 answer false) =
            ({ s with pending := [] } : ROMScanSession).startScan request := by
          simp [ROMScanSession.step, hpending, perform]
        rw [hstart]
        have hposted : ({ s with pending := [] } : ROMScanSession).Images mem :=
          himages.congr rfl rfl rfl
        exact Or.inr (Or.inl (hposted.startScan request rfl hnodup))
      | succ index =>
        have hstay : s.step (.answer (index + 1) answer false) = s := by
          simp [ROMScanSession.step, hpending]
        rw [hstay]
        exact Or.inl ⟨himages, request, hpending, hnodup⟩
    · exact Or.inr (Or.inl (himaging.step_answer hname hsubmit hread))
    · exact Or.inr (Or.inr ⟨(aborted_step haborted _).1, himages.step_aborted haborted _⟩)

/-- The quadlets scanned of a node are the first ones of its ROM in every state of every scan whose
reads, locks and timers call back once, with retries, short reads and an abort anywhere; the reader
answers nothing but such quadlets. -/
theorem prefix_scanned (mem : ℕ → ℕ → ℕ)
    (hname : ∀ nodeId, mem nodeId (romAddress 4) = swap32 kBusNameQuadlet) :
    (∀ (nodeId generation16 : ℕ) (usesQueue : Bool) (target : ReadTarget) (submit : SubmitOutcome)
      (op : RomOperation) (reads : List RomReadEvent),
      Meets RomReadWorld.step (RomReadWorld.FromMemory (mem nodeId))
        (RomReadWorld.start generation16 usesQueue target submit op) reads →
      ∀ r ∈ (run RomReadWorld.step
          (RomReadWorld.start generation16 usesQueue target submit op) reads).results,
        Genuine (mem nodeId) op r) ∧
    ∀ (params : ROMScannerParams) (topologyManager : Bool) (policy : SpeedPolicy)
      (request : ROMScanRequest) (events : List ScanEvent),
      (request.topology.nodes.map fun node => node.physicalId).Nodup →
      (∀ e ∈ events, CalledOnce e) →
      Meets step (FromDevices mem) (started params topologyManager policy request) events →
      let last := run step (started params topologyManager policy request) events
      (∀ node ∈ last.nodeScans, node.partialROM.nodeId = node.nodeId ∧
        node.partialROM.rawQuadlets =
          slice (mem node.nodeId) 0 node.partialROM.rawQuadlets.length) ∧
      (∀ rom ∈ last.completedROMs,
        rom.rawQuadlets = slice (mem rom.nodeId) 0 rom.rawQuadlets.length) ∧
      ∀ c ∈ last.completions, ∀ rom ∈ c.roms,
        rom.rawQuadlets = slice (mem rom.nodeId) 0 rom.rawQuadlets.length := by
  constructor
  · intro nodeId generation16 usesQueue target submit op reads hmemory
    exact RomReadWorld.genuine_results generation16 usesQueue target submit op reads hmemory
  · intro params topologyManager policy request events hnodes honce hread
    have hstart : (started params topologyManager policy request).Faithful mem :=
      Or.inl ⟨⟨by simp [started], by simp [started], by simp [started]⟩, request, rfl,
        scannedNodeIds_nodup hnodes⟩
    have hboth : Meets step (fun s e => CalledOnce e ∧ s.FromDevices mem e)
        (started params topologyManager policy request) events :=
      (meets_of_forall honce).and hread
    have hlast := (invariant_run_of_meets (I := Faithful mem)
      (fun s e hs he => hs.step hname he.1 he.2) hstart hboth).images
    refine ⟨fun node hnode => ?_, hlast.roms, hlast.handed⟩
    have himage := hlast.nodes node hnode
    have hscanned := himage.scanned
    rw [Scanned, himage.romId] at hscanned
    exact ⟨himage.romId, hscanned⟩

/-- Every node has the ROM of the quadlets, and zeros behind. -/
def deviceROM (quadlets : List ℕ) (_nodeId address : ℕ) : ℕ :=
  swap32 (quadlets.getD ((address - romAddress 0) / kQuadletBytes) 0)

/-- A vendor and a model, each with a text leaf: at quadlets 11 and 13. -/
def vendorAndModel : List ℕ :=
  [0x04040000, 0x31333934, 0, 1, 2, 0x00040000, 0x03000001, 0x81000004, 0x17000001, 0x81000004,
    0xAAAA, 0, 0, 0x00050000]

/-- Nineteen quadlets of a device, in five reads. -/
theorem prefix_scanned_nineteen :
    let events := [startAnswered, quadletsRead (vendorAndModel.take 5),
      quadletsRead ((vendorAndModel.drop 5).take 5), quadletsRead [0xAAAA, 0],
      quadletsRead [0, 0x00050000], quadletsRead [0, 0, 0, 0, 0]]
    let last := run step (started {} true {} (scanOfNode3 1)) events
    (last.completions.map fun c => c.roms.map fun rom => rom.rawQuadlets.length) = [[19]] ∧
    ∀ c ∈ last.completions, ∀ rom ∈ c.roms, rom.rawQuadlets =
      slice (deviceROM vendorAndModel rom.nodeId) 0 rom.rawQuadlets.length := by
  have hname : ∀ nodeId, deviceROM vendorAndModel nodeId (romAddress 4) =
      swap32 kBusNameQuadlet := fun nodeId => by rfl
  have honce : ∀ e ∈ [startAnswered, quadletsRead (vendorAndModel.take 5),
      quadletsRead ((vendorAndModel.drop 5).take 5), quadletsRead [0xAAAA, 0],
      quadletsRead [0, 0x00050000], quadletsRead [0, 0, 0, 0, 0]], CalledOnce e := by
    simp [startAnswered, quadletsRead, CalledOnce, ScanEvent.Once]
  have hscan := (prefix_scanned (deviceROM vendorAndModel) hname).2 {} true {} (scanOfNode3 1) _
    List.nodup_nil honce (by decide +kernel)
  exact ⟨by decide +kernel, hscan.2.2⟩

/-- The read of the vendor's leaf gets the first of its two quadlets, and the bus refuses the second
with the callback still to come. The reader answers twice, and so does the read of the scan: a
failure, then the one quadlet. In between the model's leaf was read, and quadlet 10 goes behind
quadlet 13. -/
theorem duplicated_quadlet :
    let mem := deviceROM vendorAndModel
    ((run RomReadWorld.step
        (RomReadWorld.start 0 false ⟨3, 0, 0⟩ .accepted (.rootDir 40 2))
        [.complete 0 .success [0, 0, 0xAA, 0xAA] .failedRegistered,
          .complete 0 .aborted [] .accepted]).results.map fun r => (r.success, r.quadletsBE)) =
      [(false, []), (true, [mem 3 (romAddress 40)])] ∧
    let events := [startAnswered, quadletsRead (vendorAndModel.take 5),
      quadletsRead ((vendorAndModel.drop 5).take 5), .answer 0 {} true,
      .answer 1 { success := true, status := .success,
                  quadletsBE := ((vendorAndModel.drop 10).take 4).map swap32 } false,
      quadletsRead [0xAAAA]]
    Meets step (FromDevices mem) (started {} true {} (scanOfNode3 0)) events ∧
    ((run step (started {} true {} (scanOfNode3 0)) events).nodeScans.map fun node =>
      node.partialROM.rawQuadlets) = [(vendorAndModel ++ [0xAAAA]).map swap32] ∧
    (vendorAndModel ++ [0xAAAA]).map swap32 ≠ slice (mem 3) 0 15 := by
  decide +kernel

end ROMScanSession

end ASFireWire.Discovery
