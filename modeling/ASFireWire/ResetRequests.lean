import ASFireWire.BusResetCoordinator
import ASFireWire.MergeFolds

/-! What a software reset that stands for several requests keeps of them
(`Bus/BusResetCoordinatorActions.cpp`, `MergeResetRequests`): requests that arrive before the reset
is issued are merged into the pending one, in the order they come. -/
namespace ASFireWire.BusReset

open Coordinator MergeFolds

/-! ### The merge of two requests -/

/-- The order in which `mergedKind` asks for the kinds. -/
def ResetRequestKind.priority : ResetRequestKind → ℕ
  | .recovery => 0
  | .rolePolicyRestage => 1
  | .manualBusManager => 2
  | .delegation => 3
  | .gapCorrection => 4

namespace ResetRequest

def forceRootNodeID (r : ResetRequest) : Option ℕ := r.phyConfig.bind (·.forceRootNodeID)

def setContender (r : ResetRequest) : Option Bool := r.phyConfig.bind (·.setContender)

/-- The Self-IDs disagreed about the gap count. -/
def IsMismatch (r : ResetRequest) : Prop := r.gapDecisionReason = some .mismatchForce63

/-- The request has a PHY configuration with the gap count of 63. -/
def ForcesGap63 (r : ResetRequest) : Prop :=
  ∃ config, r.phyConfig = some config ∧ config.gapCount = some kConservativeMismatchGapCount

end ResetRequest

lemma mergedKind_priority (a b : ResetRequestKind) :
    (mergedKind a b).priority = max a.priority b.priority := by
  cases a <;> cases b <;> rfl

lemma strongerFlavor_long (a b : ResetFlavor) :
    strongerFlavor a b = .long ↔ a = .long ∨ b = .long := by
  unfold strongerFlavor
  split_ifs with h
  · exact iff_of_true rfl h
  · exact iff_of_false (by simp) h

/-- A field of the PHY configuration that only an addition changes. -/
lemma mergeResetRequests_field {β : Type} {get : PhyConfigCommand → Option β}
    (hmerge : ∀ base addition, get (mergePhyConfig base addition) = (get addition).or (get base))
    (hnone : get {} = none) (hgap : ∀ config gap, get { config with gapCount := gap } = get config)
    (a b : ResetRequest) : (mergeResetRequests a b).phyConfig.bind get =
      (b.phyConfig.bind get).or (a.phyConfig.bind get) := by
  have hconfig : ∀ config : Option PhyConfigCommand, get (config.getD {}) = config.bind get := by
    intro config
    cases config with
    | none => exact hnone
    | some config => rfl
  unfold mergeResetRequests
  dsimp only
  split_ifs
  · rw [Option.bind_some, hgap, hconfig]
    cases a.phyConfig with
    | none => simp
    | some base =>
      cases b.phyConfig with
      | none => simp
      | some addition => simp [hmerge]
  · cases a.phyConfig with
    | none => simp
    | some base =>
      cases b.phyConfig with
      | none => simp
      | some addition => simp [hmerge]

lemma mergeResetRequests_isMismatch (a b : ResetRequest) :
    (mergeResetRequests a b).IsMismatch ↔ a.IsMismatch ∨ b.IsMismatch := by
  unfold ResetRequest.IsMismatch mergeResetRequests
  dsimp only
  split_ifs with hforce
  · exact iff_of_true rfl hforce
  · obtain ⟨ha, hb⟩ := not_or.mp hforce
    refine iff_of_false ?_ hforce
    cases hreason : a.gapDecisionReason with
    | none => simpa using hb
    | some reason =>
      rw [hreason] at ha
      simpa using ha

/-- From the first merge on, a mismatch forces the gap count. -/
lemma mergeResetRequests_forcesGap63 (a b : ResetRequest)
    (h : (mergeResetRequests a b).IsMismatch) : (mergeResetRequests a b).ForcesGap63 := by
  have hforce := (mergeResetRequests_isMismatch a b).mp h
  unfold ResetRequest.IsMismatch at hforce
  unfold ResetRequest.ForcesGap63 mergeResetRequests
  dsimp only
  rw [if_pos hforce]
  exact ⟨_, rfl, rfl⟩

/-! ### Any number of requests -/

/-- The pending request after `first` and then `later` were requested. -/
def mergedRequest (first : ResetRequest) (later : List ResetRequest) : ResetRequest :=
  later.foldl mergeResetRequests first

/-- The coordinator's pending request is the merge of the requests it was given. -/
lemma pendingReset_queueReset (c : Coordinator) (hnone : c.cycle.pendingReset = none)
    (first : ResetRequest) (later : List ResetRequest) :
    ((first :: later).foldl Coordinator.queueReset c).cycle.pendingReset =
      some (mergedRequest first later) := by
  have hqueue (c : Coordinator) (r : ResetRequest) : (c.queueReset r).cycle.pendingReset =
      some (c.cycle.pendingReset.elim r fun pending => mergeResetRequests pending r) := by
    unfold Coordinator.queueReset
    dsimp only
    cases c.cycle.pendingReset <;> split_ifs <;> rfl
  have hfold (c : Coordinator) (pending : ResetRequest)
      (hpending : c.cycle.pendingReset = some pending) :
      (later.foldl Coordinator.queueReset c).cycle.pendingReset =
        some (mergedRequest pending later) := by
    induction later generalizing c pending with
    | nil => exact hpending
    | cons next later ih =>
      apply ih (c.queueReset next)
      rw [hqueue, hpending]
      rfl
  apply hfold
  rw [hqueue, hnone]
  rfl

/-- Merging loses no requirement: a long reset stays long, the kind is the one of highest priority,
the last root and contender settings win, and a gap mismatch forces the gap count of 63 on whatever
was merged with it. A lone request is issued as it is; the one caller that reports a mismatch asks
for the gap count of 63 itself. -/
theorem mergedRequest_requirements (first : ResetRequest) (later : List ResetRequest) :
    ((mergedRequest first later).flavor = .long ↔ ∃ r ∈ first :: later, r.flavor = .long) ∧
    ((∃ r ∈ first :: later, r.kind = (mergedRequest first later).kind) ∧
      ∀ r ∈ first :: later, r.kind.priority ≤ (mergedRequest first later).kind.priority) ∧
    (mergedRequest first later).forceRootNodeID =
      ((first :: later).filterMap ResetRequest.forceRootNodeID).getLast? ∧
    (mergedRequest first later).setContender =
      ((first :: later).filterMap ResetRequest.setContender).getLast? ∧
    ((∃ r ∈ first :: later, r.IsMismatch) → (later = [] → first.ForcesGap63) →
      (mergedRequest first later).ForcesGap63) := by
  have hkind : Function.Injective ResetRequestKind.priority := by
    intro a b
    cases a <;> cases b <;> simp [ResetRequestKind.priority]
  have hpriority : ∀ a b, (mergeResetRequests a b).kind.priority =
      max a.kind.priority b.kind.priority := fun a b => mergedKind_priority a.kind b.kind
  obtain ⟨⟨r, hr, hrank⟩, hhighest⟩ :=
    foldl_rank (fun r : ResetRequest => r.kind.priority) hpriority first later
  refine ⟨?_, ⟨⟨r, hr, hkind hrank⟩, hhighest⟩, ?_, ?_, fun hmismatch hlone => ?_⟩
  · exact foldl_iff (p := fun r : ResetRequest => r.flavor = .long)
      (fun a b => strongerFlavor_long a.flavor b.flavor) first later
  · exact foldl_lastGiven
      (mergeResetRequests_field (fun _ _ => rfl) rfl fun _ _ => rfl) first later
  · exact foldl_lastGiven
      (mergeResetRequests_field (fun _ _ => rfl) rfl fun _ _ => rfl) first later
  · by_cases hlater : later = []
    · subst hlater
      exact hlone rfl
    · apply foldl_merged mergeResetRequests_forcesGap63 hlater
      exact (foldl_iff mergeResetRequests_isMismatch first later).mpr hmismatch

/-- A later request for a gap count of 10 does not undo the 63 of a mismatch. -/
theorem mismatch_outlives_gap10 :
    (mergedRequest { gapDecisionReason := some .mismatchForce63 }
      [{ phyConfig := some { gapCount := some 10 } }]).ForcesGap63 := by
  apply (mergedRequest_requirements _ _).2.2.2.2
  · exact ⟨_, List.mem_cons_self, rfl⟩
  · exact fun h => absurd h (List.cons_ne_nil _ _)

end ASFireWire.BusReset
