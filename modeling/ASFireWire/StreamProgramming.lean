import ASFireWire.DICEDuplexBringup

/-! The register accesses of programming the streams of a DICE device and of stopping them, for a
device that answers each register with values of its own. -/
namespace ASFireWire.DICE

open Programs
open Async (AsyncStatus)
open Duplex (DuplexRestartPhase)

abbrev Address := BitVec 48

/-- The successful reads and writes of quadlets in order, and the number of all accesses. -/
structure AccessLog where
  reads : List (Address × Quadlet) := []
  writes : List (Address × Quadlet) := []
  accesses : ℕ := 0
  deriving DecidableEq, Repr

namespace AccessLog

def attempt (g : AccessLog) : AccessLog := { g with accesses := g.accesses + 1 }

def read (g : AccessLog) (address : Address) (value : Quadlet) : AccessLog :=
  { g with reads := g.reads ++ [(address, value)], accesses := g.accesses + 1 }

def wrote (g : AccessLog) (list : List (Address × Quadlet)) : AccessLog :=
  { g with writes := g.writes ++ list, accesses := g.accesses + list.length }

def note (g : AccessLog) : (a : Action) → Reply a → AccessLog
  | .readQuad address, answer =>
    if answer.1 = .success then g.read address answer.2 else g.attempt
  | .writeQuad address value, status =>
    if status = .success then g.wrote [(address, value)] else g.attempt
  | .readBlock _ _, _ | .compareSwap64 _ _ _, _ | .readGeneralSections, _
  | .readGlobalState _ _, _ | .readTxStreamConfig _, _ | .readRxStreamConfig _, _ => g.attempt
  | .mailboxReset, _ | .mailboxConsume, _ | .scheduleRetry _, _ | .isRouteCurrent, _
  | .teardownRequested, _ => g

@[simp] lemma wrote_nil (g : AccessLog) : g.wrote [] = g := by
  simp [wrote]

lemma wrote_wrote (g : AccessLog) (list list' : List (Address × Quadlet)) :
    (g.wrote list).wrote list' = g.wrote (list ++ list') := by
  simp [wrote, Nat.add_assoc]

@[simp] lemma accesses_wrote (g : AccessLog) (list : List (Address × Quadlet)) :
    (g.wrote list).accesses = g.accesses + list.length := rfl

@[simp] lemma accesses_attempt (g : AccessLog) : g.attempt.accesses = g.accesses + 1 := rfl

@[simp] lemma accesses_read (g : AccessLog) (address : Address) (value : Quadlet) :
    (g.read address value).accesses = g.accesses + 1 := rfl

@[simp] lemma writes_read (g : AccessLog) (address : Address) (value : Quadlet) :
    (g.read address value).writes = g.writes := rfl

@[simp] lemma reads_wrote (g : AccessLog) (list : List (Address × Quadlet)) :
    (g.wrote list).reads = g.reads := rfl

end AccessLog

/-- For each register the values a read may return. -/
abbrev RegisterValues := Address → {values : Set Quadlet // values.Nonempty}

/-- Any access may fail, and any flag may be set. -/
def device (registers : RegisterValues) : Environment Action Reply AccessLog where
  can
    | .readQuad address, answer => answer.1 = .success → answer.2 ∈ (registers address).1
    | _, _ => True
  note := AccessLog.note

variable {registers : RegisterValues} {α : Type} {Q : AccessLog → α → Prop} {g : AccessLog}

/-! ### Rules for the accesses -/

lemma ensures_readQuadBE {offset : Quadlet} {f : IOReturn × Quadlet → Prog α}
    (hread : ∀ value ∈ (registers (makeDICEAddress offset)).1,
      Ensures (device registers) Q (g.read (makeDICEAddress offset) value) (f (.success, value)))
    (hfail : ∀ status value, status ≠ .success →
      Ensures (device registers) Q g.attempt (f (status, value))) :
    Ensures (device registers) Q g (readQuadBE offset >>= f) := by
  rw [readQuadBE, ensures_bind, ensures_perform_bind]
  rintro ⟨status, value⟩ hcan
  rw [ensures_pure]
  by_cases hstatus : status = .success
  · subst hstatus
    exact hread value (hcan rfl)
  · have hmapped : mapTransportStatus status ≠ .success := by simpa using hstatus
    have hnote : (device registers).note g (.readQuad (makeDICEAddress offset)) (status, value) =
        g.attempt := if_neg hstatus
    rw [hnote]
    exact hfail _ value hmapped

lemma ensures_writeQuadBE {offset value : Quadlet} {f : IOReturn → Prog α}
    (hwrite : Ensures (device registers) Q (g.wrote [(makeDICEAddress offset, value)])
      (f .success))
    (hfail : ∀ status, status ≠ .success → Ensures (device registers) Q g.attempt (f status)) :
    Ensures (device registers) Q g (writeQuadBE offset value >>= f) := by
  rw [writeQuadBE, ensures_bind, ensures_perform_bind]
  intro status _
  rw [ensures_pure]
  by_cases hstatus : status = AsyncStatus.success
  · subst hstatus
    exact hwrite
  · have hmapped : mapTransportStatus status ≠ .success := by simpa using hstatus
    have hnote : (device registers).note g (.writeQuad (makeDICEAddress offset) value) status =
        g.attempt := if_neg hstatus
    rw [hnote]
    exact hfail _ hmapped

/-- A write whose status is only recorded. -/
lemma ensures_recordedWrite {offset value : Quadlet} {f : IOReturn → Prog α}
    (h : ∀ status g', g'.accesses = g.accesses + 1 → g.writes ⊆ g'.writes →
      (status = .success → (makeDICEAddress offset, value) ∈ g'.writes) →
      Ensures (device registers) Q g' (f status)) :
    Ensures (device registers) Q g (writeQuadBE offset value >>= f) := by
  apply ensures_writeQuadBE
  · apply h .success (g.wrote [(makeDICEAddress offset, value)]) rfl
    · exact List.subset_append_left _ _
    · simp [AccessLog.wrote]
  · intro status hstatus
    exact h status g.attempt rfl (List.Subset.refl _) fun hsuccess => absurd hsuccess hstatus

/-- A read whose status is only recorded. -/
lemma ensures_recordedRead {offset : Quadlet} {f : IOReturn × Quadlet → Prog α}
    (h : ∀ status value g', g'.accesses = g.accesses + 1 → g'.writes = g.writes →
      (status = .success → value ∈ (registers (makeDICEAddress offset)).1) →
      Ensures (device registers) Q g' (f (status, value))) :
    Ensures (device registers) Q g (readQuadBE offset >>= f) := by
  apply ensures_readQuadBE
  · intro value hvalue
    exact h .success value _ rfl rfl fun _ => hvalue
  · intro status value hstatus
    exact h status value g.attempt rfl rfl fun hsuccess => absurd hsuccess hstatus

lemma ensures_compareSwap64BE {offset : Quadlet} {expected desired : BitVec 64}
    {f : IOReturn × BitVec 64 → Prog α}
    (h : ∀ status previous, Ensures (device registers) Q g.attempt (f (status, previous))) :
    Ensures (device registers) Q g (compareSwap64BE offset expected desired >>= f) := by
  rw [compareSwap64BE, ensures_bind, ensures_perform_bind]
  rintro ⟨status, previous⟩ _
  exact h _ previous

namespace DICEDuplexBringupController

lemma ensures_ensureRouteCurrent {c : DICEDuplexBringupController} {f : Bool → Prog α}
    (h : ∀ current, Ensures (device registers) Q g (f current)) :
    Ensures (device registers) Q g (c.ensureRouteCurrent >>= f) := by
  rw [ensureRouteCurrent]
  split
  · exact h true
  · rw [ensures_perform_bind]
    exact fun current _ => h current

lemma ensures_abortStopIfTeardown {c : DICEDuplexBringupController} {rest : Prog Stopped}
    {Q : AccessLog → Stopped → Prop} (habort : ∀ c', Q g (c', .aborted))
    (hrest : Ensures (device registers) Q g rest) :
    Ensures (device registers) Q g (abortStopIfTeardown c rest) := by
  rw [abortStopIfTeardown, ensures_perform_bind]
  intro requested _
  cases requested with
  | true => exact habort _
  | false => exact hrest

/-- The setup that no access changes: the sections, the node and the channels. -/
structure SameSetup (c c' : DICEDuplexBringupController) : Prop where
  sections : c'.sections = c.sections
  busInfo : c'.busInfo = c.busInfo
  channels : c'.restartSession.channels = c.restartSession.channels

variable {c c' c'' : DICEDuplexBringupController}

lemma SameSetup.refl (c : DICEDuplexBringupController) : c.SameSetup c := ⟨rfl, rfl, rfl⟩

lemma SameSetup.trans (h : c.SameSetup c') (h' : c'.SameSetup c'') : c.SameSetup c'' :=
  ⟨h'.1.trans h.1, h'.2.trans h.2, h'.3.trans h.3⟩

lemma SameSetup.setPhase (h : c.SameSetup c') (phase : DuplexRestartPhase) :
    c.SameSetup (c'.setPhase phase) :=
  ⟨h.1, h.2, h.3⟩

lemma SameSetup.rxPort (h : c.SameSetup c') :
    c'.rxPort c'.restartSession.channels = c.rxPort c.restartSession.channels := by
  simp only [DICEDuplexBringupController.rxPort, h.sections, h.channels]

lemma SameSetup.txPort (h : c.SameSetup c') :
    c'.txPort c'.restartSession.channels = c.txPort c.restartSession.channels := by
  simp only [DICEDuplexBringupController.txPort, resolvedTxSpeed, h.sections, h.busInfo, h.channels]

@[simp] lemma recordFirstError_eq_success {status : IOReturn} :
    (c.recordFirstError status).stopSequenceError = .success ↔
      c.stopSequenceError = .success ∧ status = .success := by
  rw [recordFirstError]
  split <;> simp_all

lemma sameSetup_recordFirstError (c : DICEDuplexBringupController) (status : IOReturn) :
    c.SameSetup (c.recordFirstError status) := by
  rw [recordFirstError]
  split
  · exact ⟨rfl, rfl, rfl⟩
  · exact .refl c

lemma SameSetup.recordFirstError (h : c.SameSetup c') (status : IOReturn) :
    c.SameSetup (c'.recordFirstError status) :=
  h.trans (sameSetup_recordFirstError c' status)

/-! ### Programming -/

namespace StreamPort

def isoAddress (port : StreamPort) (entrySizeBytes : Quadlet) (streamIndex : ℕ) : Address :=
  makeDICEAddress (port.streamBase entrySizeBytes streamIndex + port.isochronousRegister)

def secondAddress (port : StreamPort) (entrySizeBytes : Quadlet) (streamIndex : ℕ) : Address :=
  makeDICEAddress (port.streamBase entrySizeBytes streamIndex + port.secondRegister)

def sizeAddress (port : StreamPort) : Address :=
  makeDICEAddress (port.sectionOffset + port.sizeRegister)

/-- The writes for `n` streams from `streamIndex` on. -/
def streamWrites (port : StreamPort) (entrySizeBytes : Quadlet) (value : ℕ → Quadlet) :
    ℕ → ℕ → List (Address × Quadlet)
  | _, 0 => []
  | streamIndex, n + 1 =>
    (port.isoAddress entrySizeBytes streamIndex, value streamIndex) ::
      (port.secondAddress entrySizeBytes streamIndex, port.secondValue) ::
        port.streamWrites entrySizeBytes value (streamIndex + 1) n

lemma length_streamWrites (port : StreamPort) (entrySizeBytes : Quadlet) (value : ℕ → Quadlet)
    (streamIndex n : ℕ) :
    (port.streamWrites entrySizeBytes value streamIndex n).length = 2 * n := by
  induction n generalizing streamIndex with
  | zero => rfl
  | succ n ih => simp only [streamWrites, List.length_cons, ih]; omega

lemma mem_streamWrites {port : StreamPort} {entrySizeBytes : Quadlet} {value : ℕ → Quadlet}
    {streamIndex n : ℕ} {write : Address × Quadlet} :
    write ∈ port.streamWrites entrySizeBytes value streamIndex n ↔
      ∃ i, streamIndex ≤ i ∧ i < streamIndex + n ∧
        (write = (port.isoAddress entrySizeBytes i, value i) ∨
          write = (port.secondAddress entrySizeBytes i, port.secondValue)) := by
  induction n generalizing streamIndex with
  | zero =>
    simp only [streamWrites, List.not_mem_nil, false_iff]
    rintro ⟨i, hle, hlt, -⟩
    omega
  | succ n ih =>
    simp only [streamWrites, List.mem_cons, ih]
    constructor
    · rintro (hiso | hsecond | ⟨i, hle, hlt, hwrite⟩)
      · exact ⟨streamIndex, le_rfl, by omega, .inl hiso⟩
      · exact ⟨streamIndex, le_rfl, by omega, .inr hsecond⟩
      · exact ⟨i, by omega, by omega, hwrite⟩
    · rintro ⟨i, hle, hlt, hwrite⟩
      rcases Nat.eq_or_lt_of_le hle with rfl | hlt'
      · rcases hwrite with hiso | hsecond
        · exact .inl hiso
        · exact .inr (.inl hsecond)
      · exact .inr (.inr ⟨i, hlt', by omega, hwrite⟩)

/-- The word written into the channel register of a stream. -/
def channelWord (port : StreamPort) (streamIndex : ℕ) : Quadlet :=
  (port.isoChannel streamIndex).setWidth 32

end StreamPort

section Programming

variable {port : StreamPort} {phase : DuplexRestartPhase}
  {next : DICEDuplexBringupController → Prog (Option Report)} {fuel : ℕ}
  {Q : AccessLog → Option Report → Prop}

/-- The first entry reads the size; the next ones have its fourfold for their stride. -/
lemma ensures_programStreams_start
    (hfail : ∀ status c' g', status ≠ .success → c.SameSetup c' → g'.accesses ≤ g.accesses + 1 →
      Ensures (device registers) Q g' (rollback status c'))
    (hsize : ∀ size ∈ (registers port.sizeAddress).1,
      Ensures (device registers) Q (g.read port.sizeAddress size)
        (programStreams port phase next fuel 0 (size * 4) (c.setPhase phase))) :
    Ensures (device registers) Q g (programStreams port phase next (fuel + 1) 0 0 c) := by
  rw [programStreams]
  apply ensures_ensureRouteCurrent
  intro current
  cases current with
  | false => exact hfail .offline c g (by decide) (.refl c) (by omega)
  | true =>
    refine ensures_readQuadBE hsize fun status value hstatus => ?_
    simp only [if_neg hstatus]
    exact hfail status _ _ hstatus ((SameSetup.refl c).setPhase phase) le_rfl

/-- With a stride the chain ends after two writes for each stream. -/
lemma ensures_programStreams {entrySizeBytes : Quadlet} (hentry : entrySizeBytes ≠ 0)
    {streamIndex : ℕ} (hindex : streamIndex ≤ port.streamCount)
    (hfuel : port.streamCount < fuel + streamIndex)
    (hfail : ∀ status c' g', status ≠ .success → c.SameSetup c' →
      g'.accesses ≤ g.accesses + 2 * (port.streamCount - streamIndex) →
      Ensures (device registers) Q g' (rollback status c'))
    (hnext : Ensures (device registers) Q (g.wrote (port.streamWrites entrySizeBytes
      port.channelWord streamIndex (port.streamCount - streamIndex))) (next (c.setPhase phase))) :
    Ensures (device registers) Q g
      (programStreams port phase next fuel streamIndex entrySizeBytes c) := by
  induction fuel generalizing streamIndex g c with
  | zero => omega
  | succ fuel ih =>
    rw [programStreams]
    apply ensures_ensureRouteCurrent
    intro current
    cases current with
    | false => exact hfail .offline c g (by decide) (.refl c) (by omega)
    | true =>
      have hstart : ¬ (streamIndex = 0 ∧ entrySizeBytes = 0) := fun h => hentry h.2
      have hphase : c.SameSetup (c.setPhase phase) := (SameSetup.refl c).setPhase phase
      simp only [if_true, if_neg hstart]
      by_cases hdone : port.streamCount ≤ streamIndex
      · rw [if_pos hdone]
        rw [Nat.sub_eq_zero_of_le hdone] at hnext
        simpa [StreamPort.streamWrites] using hnext
      · obtain ⟨left, hleft⟩ : ∃ left, port.streamCount - streamIndex = left + 1 :=
          ⟨port.streamCount - streamIndex - 1, by omega⟩
        rw [if_neg hdone]
        apply ensures_writeQuadBE
        · simp only [if_true]
          apply ensures_writeQuadBE
          · simp only [if_true]
            apply ih (by omega) (by omega)
            · intro status c' g' hstatus hsame haccesses
              simp only [AccessLog.accesses_wrote, List.length_singleton] at haccesses
              exact hfail status c' g' hstatus (hphase.trans hsame) (by omega)
            · have hnext' : port.streamCount - (streamIndex + 1) = left := by omega
              rw [hnext', AccessLog.wrote_wrote, AccessLog.wrote_wrote]
              rw [hleft] at hnext
              exact hnext
          · intro status hstatus
            simp only [if_neg hstatus]
            exact hfail status _ _ hstatus hphase (by simp; omega)
        · intro status hstatus
          simp only [if_neg hstatus]
          exact hfail status _ _ hstatus hphase (by simp; omega)

/-- The controller after the last playback stream. -/
def rxProgrammed (c : DICEDuplexBringupController) : DICEDuplexBringupController :=
  { c.setPhase .deviceRxProgrammed with restartSession.deviceRxProgrammed := true }

lemma SameSetup.rxProgrammed (h : c.SameSetup c') : c.SameSetup c'.rxProgrammed :=
  ⟨h.1, h.2, h.3⟩

/-- The controller after GLOBAL_ENABLE. -/
def armed (c : DICEDuplexBringupController) : DICEDuplexBringupController :=
  { c.setPhase .deviceTxArmed with restartSession.deviceTxArmed := true }

lemma SameSetup.armed (h : c.SameSetup c') : c.SameSetup c'.armed := ⟨h.1, h.2, h.3⟩

lemma ensures_doEnableGlobal
    (hfail : ∀ status g', status ≠ .success → g'.accesses ≤ g.accesses + 1 →
      Ensures (device registers) Q g' (rollback status c))
    (hdone : Q (g.wrote [(makeDICEAddress (c.sections.global.offset + GlobalOffset.kEnable), 1)])
      (some { controller := c.armed, status := .success })) :
    Ensures (device registers) Q g (doEnableGlobal c) := by
  rw [doEnableGlobal]
  apply ensures_ensureRouteCurrent
  intro current
  cases current with
  | false => exact hfail .offline g (by decide) (by omega)
  | true =>
    apply ensures_writeQuadBE
    · exact hdone
    · intro status hstatus
      simp only [if_neg hstatus]
      exact hfail status _ hstatus le_rfl

end Programming

/-! ### Stop -/

section Stop

variable {port : StreamPort} {next : DICEDuplexBringupController → Prog Stopped}
  {Q : AccessLog → Stopped → Prop}

/-- A stop that has recorded no error so far has disabled every stream on its way. -/
lemma ensures_stopStreams {entrySizeBytes : Quadlet} {streamIndex : ℕ}
    (habort : ∀ c' g', g'.accesses ≤ g.accesses +
      2 * (port.stopCount entrySizeBytes - streamIndex) → Q g' (c', .aborted))
    (hnext : ∀ c' g', c.SameSetup c' → g'.accesses ≤ g.accesses +
        2 * (port.stopCount entrySizeBytes - streamIndex) → g.writes ⊆ g'.writes →
      (c'.stopSequenceError = .success → c.stopSequenceError = .success ∧
        ∀ i, streamIndex ≤ i → i < port.stopCount entrySizeBytes →
          (port.isoAddress entrySizeBytes i, kDisabledIsoChannel) ∈ g'.writes) →
      Ensures (device registers) Q g' (next c')) :
    Ensures (device registers) Q g (stopStreams port next streamIndex entrySizeBytes c) := by
  obtain ⟨left, hleft⟩ : ∃ left, port.stopCount entrySizeBytes - streamIndex = left := ⟨_, rfl⟩
  induction left generalizing streamIndex g c with
  | zero =>
    rw [stopStreams, if_pos (by omega)]
    refine hnext c g (.refl c) (by omega) (List.Subset.refl _) fun hsuccess => ⟨hsuccess, ?_⟩
    intro i hle hlt
    omega
  | succ left ih =>
    rw [stopStreams, if_neg (by omega)]
    apply ensures_recordedWrite
    intro isoStatus g₁ haccesses₁ hwrites₁ hiso
    apply ensures_abortStopIfTeardown fun c' => habort c' g₁ (by omega)
    apply ensures_recordedWrite
    intro secondStatus g₂ haccesses₂ hwrites₂ _
    apply ensures_abortStopIfTeardown fun c' => habort c' g₂ (by omega)
    have hsame := (sameSetup_recordFirstError c isoStatus).recordFirstError secondStatus
    apply ih
    · intro c' g' haccesses
      exact habort c' g' (by omega)
    · intro c' g' hsame' haccesses hwrites hdone
      refine hnext c' g' (hsame.trans hsame') (by omega)
        (List.Subset.trans (List.Subset.trans hwrites₁ hwrites₂) hwrites) fun hsuccess => ?_
      obtain ⟨hrecorded, hlater⟩ := hdone hsuccess
      rw [recordFirstError_eq_success, recordFirstError_eq_success] at hrecorded
      refine ⟨hrecorded.1.1, fun i hle hlt => ?_⟩
      rcases Nat.eq_or_lt_of_le hle with rfl | hlt'
      · exact hwrites (hwrites₂ (hiso hrecorded.1.2))
      · exact hlater i hlt' hlt
    · omega

lemma stopCount_le (port : StreamPort) (entrySizeBytes : Quadlet) :
    port.stopCount entrySizeBytes ≤ kMaxAudioStreamsPerDirection := by
  unfold StreamPort.stopCount kMaxAudioStreamsPerDirection
  dsimp only
  split_ifs <;> omega

/-- With a stride every stream of an allowed count is walked, and the first one always. -/
lemma stopCount_eq {port : StreamPort} (hcount : port.streamCount ≤ kMaxAudioStreamsPerDirection)
    {entrySizeBytes : Quadlet} (hentry : entrySizeBytes ≠ 0) :
    port.stopCount entrySizeBytes = max 1 port.streamCount := by
  unfold StreamPort.stopCount
  rw [if_neg hentry]
  split_ifs <;> omega

/-- A stop without an error has disabled every stream that the stride it has read reaches. -/
lemma ensures_stopPort
    (habort : ∀ c' g' status, status ≠ .success →
      g'.accesses ≤ g.accesses + (1 + 2 * kMaxAudioStreamsPerDirection) → Q g' (c', status))
    (hnext : ∀ c' g', c.SameSetup c' →
      g'.accesses ≤ g.accesses + (1 + 2 * kMaxAudioStreamsPerDirection) → g.writes ⊆ g'.writes →
      (c'.stopSequenceError = .success → c.stopSequenceError = .success ∧
        ∃ size ∈ (registers port.sizeAddress).1, ∀ i < port.stopCount (size * 4),
          (port.isoAddress (size * 4) i, kDisabledIsoChannel) ∈ g'.writes) →
      Ensures (device registers) Q g' (next c')) :
    Ensures (device registers) Q g (stopPort port next c) := by
  apply ensures_abortStopIfTeardown fun c' => habort c' g _ (by decide) (by omega)
  apply ensures_ensureRouteCurrent
  intro current
  cases current with
  | false =>
    apply habort _ _ _ _ (by omega)
    simp
  | true =>
    apply ensures_recordedRead
    intro status size g₁ haccesses₁ hwrites₁ hsize
    apply ensures_abortStopIfTeardown fun c' => habort c' g₁ _ (by decide) (by omega)
    have hcount := stopCount_le port (if status = .success then size * 4 else 0)
    apply ensures_stopStreams
    · intro c' g' haccesses
      exact habort c' g' _ (by decide) (by omega)
    · intro c' g' hsame haccesses hwrites hdone
      apply hnext c' g' ((sameSetup_recordFirstError c status).trans hsame) (by omega)
        (hwrites₁ ▸ hwrites)
      intro hsuccess
      obtain ⟨hrecorded, hdisabled⟩ := hdone hsuccess
      rw [recordFirstError_eq_success] at hrecorded
      obtain ⟨hbefore, rfl⟩ := hrecorded
      refine ⟨hbefore, size, hsize rfl, fun i hi => ?_⟩
      exact hdisabled i (Nat.zero_le i) hi

/-- The release of the owner ends the stop with the error recorded so far, or with one of its own. -/
lemma ensures_doStopReleaseOwner
    (hdone : ∀ c' g' status, g'.accesses ≤ g.accesses + 1 → g.writes ⊆ g'.writes →
      (status = .success → c.stopSequenceError = .success) → Q g' (c', status)) :
    Ensures (device registers) Q g (doStopReleaseOwner c) := by
  have habort : ∀ c' g', g'.accesses ≤ g.accesses + 1 → g.writes ⊆ g'.writes →
      Q g' (c', .aborted) := fun c' g' haccesses hwrites =>
    hdone c' g' .aborted haccesses hwrites (fun h => by cases h)
  apply ensures_abortStopIfTeardown fun c' => habort c' g (by omega) (List.Subset.refl _)
  split
  · exact hdone _ g _ (by omega) (List.Subset.refl _) id
  · apply ensures_ensureRouteCurrent
    intro current
    cases current with
    | false =>
      apply hdone _ g _ (by omega) (List.Subset.refl _)
      simp
    | true =>
      apply ensures_compareSwap64BE
      intro status previous
      apply ensures_abortStopIfTeardown fun c' =>
        habort c' g.attempt (by simp) (List.Subset.refl _)
      apply hdone _ g.attempt _ (by simp) (List.Subset.refl _)
      intro hsuccess
      split at hsuccess <;> simp_all

lemma ensures_doStopReleaseRx {releaseOwner : Bool}
    (hdone : ∀ c' g' status, g'.accesses ≤ g.accesses + 1 → g.writes ⊆ g'.writes →
      (status = .success → c.stopSequenceError = .success) → Q g' (c', status)) :
    Ensures (device registers) Q g (doStopReleaseRx releaseOwner c) := by
  apply ensures_abortStopIfTeardown fun c' =>
    hdone c' g .aborted (by omega) (List.Subset.refl _) (fun h => by cases h)
  split
  · exact ensures_doStopReleaseOwner hdone
  · exact hdone _ g _ (by omega) (List.Subset.refl _) id

/-- The disabled value is in the channel register of every stream that the stride reaches. -/
def Disables (port : StreamPort) (entrySizeBytes : Quadlet) (g : AccessLog) : Prop :=
  ∀ i < port.stopCount entrySizeBytes,
    (port.isoAddress entrySizeBytes i, kDisabledIsoChannel) ∈ g.writes

/-- GLOBAL_ENABLE, each direction's size and streams, the owner. -/
def stopAccesses : ℕ := 2 + 2 * (1 + 2 * kMaxAudioStreamsPerDirection)

/-- The accesses of a stop sequence are bounded, and where it reports success it has disabled the
streams of both directions by the strides it has read. -/
def StopPost (c : DICEDuplexBringupController) (registers : RegisterValues) (g g' : AccessLog)
    (stopped : Stopped) : Prop :=
  g'.accesses ≤ g.accesses + stopAccesses ∧
    (stopped.2 = .success →
      ∃ size ∈ (registers (c.rxPort c.restartSession.channels).sizeAddress).1,
      ∃ size' ∈ (registers (c.txPort c.restartSession.channels).sizeAddress).1,
        Disables (c.rxPort c.restartSession.channels) (size * 4) g' ∧
        Disables (c.txPort c.restartSession.channels) (size' * 4) g')

lemma stopPost_of_ne {g g' : AccessLog} {status : IOReturn} (hstatus : status ≠ .success)
    (haccesses : g'.accesses ≤ g.accesses + (2 + 2 * (1 + 2 * kMaxAudioStreamsPerDirection))) :
    StopPost c registers g g' (c', status) :=
  ⟨haccesses, fun h => absurd h hstatus⟩

theorem ensures_doStopSequence (releaseOwner : Bool) (c : DICEDuplexBringupController)
    (g : AccessLog) :
    Ensures (device registers) (StopPost c registers g) g (doStopSequence releaseOwner c) := by
  apply ensures_abortStopIfTeardown fun c' => stopPost_of_ne (by decide) (by omega)
  apply ensures_abortStopIfTeardown fun c' => stopPost_of_ne (by decide) (by omega)
  apply ensures_ensureRouteCurrent
  intro current
  cases current with
  | false =>
    apply stopPost_of_ne _ (by omega)
    simp
  | true =>
    apply ensures_recordedWrite
    intro status g₁ haccesses₁ hwrites₁ _
    apply ensures_abortStopIfTeardown fun c' => stopPost_of_ne (by decide) (by omega)
    have hstart : c.SameSetup { c.setPhase .stopping with stopSequenceError := .success } :=
      ⟨rfl, rfl, rfl⟩
    have hsame := hstart.recordFirstError status
    rw [doStopDisableTx, hsame.txPort]
    apply ensures_stopPort
    · intro c' g' status hstatus haccesses
      exact stopPost_of_ne hstatus (by omega)
    · intro c₂ g₂ hsame₂ haccesses₂ hwrites₂ hdone₂
      apply ensures_abortStopIfTeardown fun c' => stopPost_of_ne (by decide) (by omega)
      rw [doStopDisableRx, (hsame.trans hsame₂).rxPort]
      apply ensures_stopPort
      · intro c' g' status hstatus haccesses
        exact stopPost_of_ne hstatus (by omega)
      · intro c₃ g₃ hsame₃ haccesses₃ hwrites₃ hdone₃
        apply ensures_doStopReleaseRx
        intro c' g' status haccesses hwrites hstatus
        refine ⟨by unfold stopAccesses; omega, fun hsuccess => ?_⟩
        obtain ⟨hbefore, size, hsize, hrx⟩ := hdone₃ (hstatus hsuccess)
        obtain ⟨-, size', hsize', htx⟩ := hdone₂ hbefore
        refine ⟨size, hsize, size', hsize', fun i hi => hwrites (hrx i hi), fun i hi => ?_⟩
        exact hwrites (hwrites₃ (htx i hi))

/-- A rollback reports its failure, and keeps to the bound of the stop sequence it runs. -/
lemma ensures_doRollback {status : IOReturn} {Q : AccessLog → Report → Prop}
    (hdone : ∀ c' g', g'.accesses ≤ g.accesses + stopAccesses →
      Q g' { controller := c', status })
    (hstopped : ∀ c' g' stopStatus, StopPost c registers g g' (c', stopStatus) →
      Q g' { controller := { c' with flowMode := .none }, status, stopped := some stopStatus }) :
    Ensures (device registers) Q g (doRollback status c) := by
  rw [doRollback]
  split
  · exact hdone _ g (by omega)
  · apply ensures_ensureRouteCurrent
    intro current
    cases current with
    | false => exact hdone _ g (by omega)
    | true =>
      simp only [if_true]
      rw [ensures_bind]
      refine Follows.mono ?_ (ensures_doStopSequence _ (c.setPhase .failed) g)
      rintro g' ⟨c', stopStatus⟩ hpost
      exact hstopped c' g' stopStatus hpost

end Stop

/-! ### The contract of the stream programming -/

def rx (c : DICEDuplexBringupController) : StreamPort := c.rxPort c.restartSession.channels

def tx (c : DICEDuplexBringupController) : StreamPort := c.txPort c.restartSession.channels

def enableAddress (c : DICEDuplexBringupController) : Address :=
  makeDICEAddress (c.sections.global.offset + GlobalOffset.kEnable)

/-- The channel registers of all streams for the sizes `v` of the playback and `w` of the capture
section. -/
def channelRegisters (c : DICEDuplexBringupController) (v w : Quadlet) : List Address :=
  (List.range c.rx.streamCount).map (c.rx.isoAddress (v * 4)) ++
    (List.range c.tx.streamCount).map (c.tx.isoAddress (w * 4))

def accessBound (c : DICEDuplexBringupController) : ℕ :=
  2 + 2 * max c.rx.streamCount c.tx.streamCount + stopAccesses

/-- The streams of the port that one log shows programmed are disabled in the other. -/
def Cleared (port : StreamPort) (programmed g : AccessLog) : Prop :=
  ∀ size i, (port.sizeAddress, size) ∈ programmed.reads → i < port.streamCount →
    (port.isoAddress (size * 4) i, port.channelWord i) ∈ programmed.writes →
    (port.isoAddress (size * 4) i, kDisabledIsoChannel) ∈ g.writes

/-- The logs of the two programming calls show every channel register written before the one write
of 1 to GLOBAL_ENABLE, at distinct addresses. -/
def Armed (c : DICEDuplexBringupController) (g₁ g₂ : AccessLog) : Prop :=
  ∃ v w, (c.rx.sizeAddress, v) ∈ g₁.reads ∧ (c.tx.sizeAddress, w) ∈ g₂.reads ∧
    (c.channelRegisters v w).Nodup ∧ ∃ before after,
      g₁.writes ++ g₂.writes = before ++ (c.enableAddress, 1) :: after ∧
      (c.enableAddress, 1) ∉ before ++ after ∧
      (∀ i < c.rx.streamCount, (c.rx.isoAddress (v * 4) i, c.rx.channelWord i) ∈ before) ∧
      ∀ i < c.tx.streamCount, (c.tx.isoAddress (w * 4) i, c.tx.channelWord i) ∈ before

/-- A stop sequence that reports success clears the streams of these ports and logs. -/
def StopContract (registers : RegisterValues) (programmed : List (StreamPort × AccessLog))
    (c' : DICEDuplexBringupController) : Prop :=
  Ensures (device registers) (fun g stopped => stopped.2 = .success →
    ∀ p ∈ programmed, Cleared p.1 p.2 g) {} (doStopSequence true c')

/-- A programming call reports after a bounded number of accesses; `cleared` holds where it has rolled
back with a stop sequence that reports success, and `programmed` where it reports success itself. -/
def StagePost (c : DICEDuplexBringupController) (cleared : AccessLog → Prop)
    (programmed : AccessLog → DICEDuplexBringupController → Prop) (g : AccessLog)
    (result : Option Report) : Prop :=
  ∃ report, result = some report ∧ g.accesses ≤ c.accessBound ∧
    (report.stopped = some .success → cleared g) ∧
    (report.status = .success → programmed g report.controller)

def TxPost (c : DICEDuplexBringupController) (registers : RegisterValues) (g₁ : AccessLog) :
    AccessLog → Option Report → Prop :=
  c.StagePost (fun g₂ => ∀ p ∈ [(c.rx, g₁), (c.tx, g₂)], Cleared p.1 p.2 g₂)
    fun g₂ c₂ => Armed c g₁ g₂ ∧ StopContract registers [(c.rx, g₁), (c.tx, g₂)] c₂

def RxPost (c : DICEDuplexBringupController) (registers : RegisterValues) (fuel : ℕ) :
    AccessLog → Option Report → Prop :=
  c.StagePost (fun g₁ => Cleared c.rx g₁ g₁) fun g₁ c₁ => StopContract registers [(c.rx, g₁)] c₁ ∧
    Ensures (device registers) (c.TxPost registers g₁) {} (programTxAndEnableDuplex fuel c₁)

/-- From every state with the setup of `c`, `ProgramRx` and then `ProgramTxAndEnableDuplex` report
after a bounded number of accesses; where both report success the streams are armed; and every stop
sequence that reports success, of a rollback or after a success, clears what was programmed. -/
def StreamContract (c : DICEDuplexBringupController) (registers : RegisterValues) : Prop :=
  ∀ c', c.SameSetup c' → ∀ fuel, c.accessBound ≤ fuel →
    Ensures (device registers) (c.RxPost registers fuel) {} (programRx fuel c')

/-- The writes of the two calls before GLOBAL_ENABLE. -/
def programWrites (c : DICEDuplexBringupController) (v w : Quadlet) : List (Address × Quadlet) :=
  c.rx.streamWrites (v * 4) c.rx.channelWord 0 c.rx.streamCount ++
    c.tx.streamWrites (w * 4) c.tx.channelWord 0 c.tx.streamCount

/-- The log of `ProgramTxAndEnableDuplex` before GLOBAL_ENABLE. -/
def txLog (c : DICEDuplexBringupController) (w : Quadlet) : AccessLog where
  reads := [(c.tx.sizeAddress, w)]
  writes := c.tx.streamWrites (w * 4) c.tx.channelWord 0 c.tx.streamCount
  accesses := 1 + 2 * c.tx.streamCount

/-- The log of `ProgramRx`. -/
def rxLog (c : DICEDuplexBringupController) (v : Quadlet) : AccessLog where
  reads := [(c.rx.sizeAddress, v)]
  writes := c.rx.streamWrites (v * 4) c.rx.channelWord 0 c.rx.streamCount
  accesses := 1 + 2 * c.rx.streamCount

/-- The registers a stop clears; without streams it clears those of a first one. -/
def clearedRegisters (c : DICEDuplexBringupController) (v w : Quadlet) : List Address :=
  (List.range (max 1 c.rx.streamCount)).map (c.rx.isoAddress (v * 4)) ++
    (List.range (max 1 c.tx.streamCount)).map (c.tx.isoAddress (w * 4))

/-- What the sizes that the device returns must be: fourfolds that are no 0, channel registers that
are distinct and the same ones every time, and no stream register whose write enables the device. -/
structure Usable (c : DICEDuplexBringupController) (registers : RegisterValues) : Prop where
  rxStride : ∀ v ∈ (registers c.rx.sizeAddress).1, v * 4 ≠ 0
  txStride : ∀ w ∈ (registers c.tx.sizeAddress).1, w * 4 ≠ 0
  distinct : ∀ v ∈ (registers c.rx.sizeAddress).1, ∀ w ∈ (registers c.tx.sizeAddress).1,
    (c.channelRegisters v w).Nodup
  enable : ∀ v ∈ (registers c.rx.sizeAddress).1, ∀ w ∈ (registers c.tx.sizeAddress).1,
    (c.enableAddress, 1) ∉ c.programWrites v w
  covered : ∀ v ∈ (registers c.rx.sizeAddress).1, ∀ w ∈ (registers c.tx.sizeAddress).1,
    ∀ v' ∈ (registers c.rx.sizeAddress).1, ∀ w' ∈ (registers c.tx.sizeAddress).1,
      c.channelRegisters v w ⊆ c.clearedRegisters v' w'

/-- The channels a bring-up accepts. -/
structure Accepted (channels : AudioDuplexChannels) : Prop where
  deviceToHost : channels.deviceToHostIsoChannel ≤ 63
  hostToDevice : channels.hostToDeviceIsoChannel ≤ 63
  capture : channels.captureStreamCount ≤ kMaxAudioStreamsPerDirection
  playback : channels.playbackStreamCount ≤ kMaxAudioStreamsPerDirection

/-! ### A usable device keeps the contract -/

section Usable

/-- Every value in the log is one that the device returns. -/
def Returned (registers : RegisterValues) (g : AccessLog) : Prop :=
  ∀ p ∈ g.reads, p.2 ∈ (registers p.1).1

lemma returned_note {registers : RegisterValues} (g : AccessLog) (a : Action) (r : Reply a)
    (hcan : (device registers).can a r) (hg : Returned registers g) :
    Returned registers ((device registers).note g a r) := by
  cases a with
  | readQuad address =>
    obtain ⟨status, value⟩ := r
    by_cases hstatus : status = .success
    · have hnote : (device registers).note g (.readQuad address) (status, value) =
        g.read address value := if_pos hstatus
      rw [hnote]
      intro p hp
      rcases List.mem_append.mp hp with hold | hnew
      · exact hg p hold
      · rw [List.mem_singleton.mp hnew]
        exact hcan hstatus
    · have hnote : (device registers).note g (.readQuad address) (status, value) = g.attempt :=
        if_neg hstatus
      rw [hnote]
      exact hg
  | writeQuad address value =>
    change Returned registers (if r = .success then g.wrote [(address, value)] else g.attempt)
    split <;> exact hg
  | _ => exact hg

lemma armed_of_writes (husable : Usable c registers) {v w : Quadlet} {g₁ g₂ : AccessLog} (hv : v ∈ (registers c.rx.sizeAddress).1)
    (hw : w ∈ (registers c.tx.sizeAddress).1)
    (hread₁ : (c.rx.sizeAddress, v) ∈ g₁.reads) (hread₂ : (c.tx.sizeAddress, w) ∈ g₂.reads)
    (hwrites : g₁.writes ++ g₂.writes = c.programWrites v w ++ [(c.enableAddress, 1)]) :
    Armed c g₁ g₂ := by
  refine ⟨v, w, hread₁, hread₂, husable.distinct v hv w hw, c.programWrites v w, [], hwrites, ?_,
    fun i hi => ?_, fun i hi => ?_⟩
  · rw [List.append_nil]
    exact husable.enable v hv w hw
  · exact List.mem_append_left _ (StreamPort.mem_streamWrites.mpr
      ⟨i, Nat.zero_le i, by omega, .inl rfl⟩)
  · exact List.mem_append_right _ (StreamPort.mem_streamWrites.mpr
      ⟨i, Nat.zero_le i, by omega, .inl rfl⟩)

variable (haccepted : Accepted c.restartSession.channels) (husable : Usable c registers)
include haccepted husable

lemma cleared_of_disables {g₁ g₂ g : AccessLog} (hg₁ : Returned registers g₁)
    (hg₂ : Returned registers g₂)
    (h : ∃ size ∈ (registers c.rx.sizeAddress).1, ∃ size' ∈ (registers c.tx.sizeAddress).1,
      Disables c.rx (size * 4) g ∧ Disables c.tx (size' * 4) g) :
    Cleared c.rx g₁ g ∧ Cleared c.tx g₂ g := by
  obtain ⟨v', hv', w', hw', hrx, htx⟩ := h
  have hcleared : ∀ r ∈ c.clearedRegisters v' w', (r, kDisabledIsoChannel) ∈ g.writes := by
    intro r hr
    rcases List.mem_append.mp hr with hr | hr
    · obtain ⟨i, hi, rfl⟩ := List.mem_map.mp hr
      apply hrx
      rw [stopCount_eq haccepted.playback (husable.rxStride v' hv')]
      exact List.mem_range.mp hi
    · obtain ⟨i, hi, rfl⟩ := List.mem_map.mp hr
      apply htx
      rw [stopCount_eq haccepted.capture (husable.txStride w' hw')]
      exact List.mem_range.mp hi
  constructor
  · intro size i hread hi _
    apply hcleared
    apply husable.covered size (hg₁ _ hread) w' hw' v' hv' w' hw'
    exact List.mem_append_left _ (List.mem_map.mpr ⟨i, List.mem_range.mpr hi, rfl⟩)
  · intro size i hread hi _
    apply hcleared
    apply husable.covered v' hv' size (hg₂ _ hread) v' hv' w' hw'
    exact List.mem_append_right _ (List.mem_map.mpr ⟨i, List.mem_range.mpr hi, rfl⟩)

/-- Whatever was programmed under the setup, a stop sequence that reports success clears it. -/
lemma cleared_of_stopPost {c' : DICEDuplexBringupController} (hsame : c.SameSetup c')
    {g₁ g₂ g₀ g : AccessLog} {stopped : Stopped} (hg₁ : Returned registers g₁)
    (hg₂ : Returned registers g₂) (hpost : StopPost c' registers g₀ g stopped)
    (hsuccess : stopped.2 = .success) : Cleared c.rx g₁ g ∧ Cleared c.tx g₂ g := by
  have h := hpost.2 hsuccess
  rw [hsame.rxPort, hsame.txPort] at h
  exact cleared_of_disables haccepted husable hg₁ hg₂ h

lemma stopContract {c' : DICEDuplexBringupController} (hsame : c.SameSetup c')
    {g₁ g₂ : AccessLog} (hg₁ : Returned registers g₁) (hg₂ : Returned registers g₂) :
    StopContract registers [(c.rx, g₁), (c.tx, g₂)] c' := by
  refine Follows.mono (fun g stopped hpost hsuccess => ?_) (ensures_doStopSequence true c' {})
  obtain ⟨hrx, htx⟩ := cleared_of_stopPost haccepted husable hsame hg₁ hg₂ hpost hsuccess
  simp [hrx, htx]

lemma stopContract_rx {c' : DICEDuplexBringupController} (hsame : c.SameSetup c')
    {g₁ : AccessLog} (hg₁ : Returned registers g₁) : StopContract registers [(c.rx, g₁)] c' := by
  have hnone : Returned registers {} := by simp [Returned]
  refine Follows.mono (fun g stopped h hsuccess p hp => ?_)
    (stopContract haccepted husable hsame hg₁ hnone)
  exact h hsuccess p (List.mem_cons.mpr (.inl (List.mem_singleton.mp hp)))

omit haccepted husable in
lemma ensures_refuse {cleared : AccessLog → Prop}
    {programmed : AccessLog → DICEDuplexBringupController → Prop} {status : IOReturn}
    (hstatus : status ≠ .success) (c' : DICEDuplexBringupController) :
    Ensures (device registers) (fun g result => Returned registers g →
      c.StagePost cleared programmed g result) {} (refuse status c') := by
  intro _
  exact ⟨_, rfl, Nat.zero_le _, by simp, fun h => absurd h hstatus⟩

/-- A failure is rolled back within the bound, and the stop sequence of the rollback clears. -/
lemma ensures_rollback {cleared : AccessLog → Prop}
    {programmed : AccessLog → DICEDuplexBringupController → Prop} {status : IOReturn}
    {c' : DICEDuplexBringupController} (hstatus : status ≠ .success) (hsame : c.SameSetup c')
    (haccesses : g.accesses + stopAccesses ≤ c.accessBound)
    (hcleared : ∀ g', Returned registers g' → (∀ g₁ g₂, Returned registers g₁ →
      Returned registers g₂ → Cleared c.rx g₁ g' ∧ Cleared c.tx g₂ g') → cleared g') :
    Ensures (device registers) (fun g result => Returned registers g →
      c.StagePost cleared programmed g result) g (rollback status c') := by
  rw [rollback, ensures_bind]
  apply ensures_doRollback
  · intro c'' g' haccesses' _
    exact ⟨_, rfl, by omega, by simp, fun h => absurd h hstatus⟩
  · intro c'' g' stopStatus hpost hg'
    refine ⟨_, rfl, by have := hpost.1; omega, fun hstopped => ?_, fun h => absurd h hstatus⟩
    apply hcleared g' hg'
    intro g₁ g₂ hg₁ hg₂
    exact cleared_of_stopPost haccepted husable (hsame.setPhase .failed) hg₁ hg₂ hpost
      (Option.some.inj hstopped)

lemma ensures_programTx {c₁ : DICEDuplexBringupController} (hsame : c.SameSetup c₁) {fuel : ℕ}
    (hfuel : c.accessBound ≤ fuel) {g₁ : AccessLog} (hg₁ : Returned registers g₁) {v : Quadlet}
    (hv : v ∈ (registers c.rx.sizeAddress).1) (hread : (c.rx.sizeAddress, v) ∈ g₁.reads)
    (hwrites : g₁.writes = c.rx.streamWrites (v * 4) c.rx.channelWord 0 c.rx.streamCount) :
    Ensures (device registers) (c.TxPost registers g₁) {} (programTxAndEnableDuplex fuel c₁) := by
  have hbound : c.accessBound = 2 + 2 * max c.rx.streamCount c.tx.streamCount + stopAccesses := rfl
  apply Ensures.assuming returned_note _ (by simp [Returned])
  rw [programTxAndEnableDuplex]
  split
  · exact ensures_refuse (by decide) c₁
  · apply ensures_ensureRouteCurrent
    intro current
    cases current with
    | false => exact ensures_refuse (by decide) c₁
    | true =>
      have hrollback : ∀ status c' g, status ≠ IOReturn.success → c.SameSetup c' →
          g.accesses ≤ 2 + 2 * c.tx.streamCount → Ensures (device registers)
            (fun g result => Returned registers g → c.TxPost registers g₁ g result) g
            (rollback status c') := by
        intro status c' g hstatus hsame' haccesses
        apply ensures_rollback haccepted husable hstatus hsame' (by omega)
        intro g' hg' h
        obtain ⟨hrx, htx⟩ := h g₁ g' hg₁ hg'
        simp [hrx, htx]
      obtain ⟨fuel, rfl⟩ : ∃ k, fuel = k + 1 := ⟨fuel - 1, by omega⟩
      rw [doProgramTx, hsame.txPort, ← tx]
      apply ensures_programStreams_start
      · intro status c' g' hstatus hsame' haccesses
        exact hrollback status c' g' hstatus (hsame.trans hsame') (by simp at haccesses; omega)
      · intro w hw
        apply ensures_programStreams (husable.txStride w hw) (Nat.zero_le _)
        · omega
        · intro status c' g' hstatus hsame' haccesses
          apply hrollback status c' g' hstatus ((hsame.setPhase _).trans hsame')
          have hread : (AccessLog.read {} c.tx.sizeAddress w).accesses = 1 := rfl
          omega
        · have hsame' := (hsame.setPhase .programmingDeviceTx).setPhase .programmingDeviceTx
          have hlog : (AccessLog.read {} c.tx.sizeAddress w).wrote (c.tx.streamWrites (w * 4)
              c.tx.channelWord 0 (c.tx.streamCount - 0)) = c.txLog w := by
            simp [AccessLog.read, AccessLog.wrote, txLog, StreamPort.length_streamWrites]
          rw [hlog]
          have haccesses : (c.txLog w).accesses = 1 + 2 * c.tx.streamCount := rfl
          apply ensures_doEnableGlobal
          · intro status g' hstatus haccesses'
            exact hrollback status _ g' hstatus hsame' (by omega)
          · rw [hsame'.sections, ← enableAddress]
            intro hg₂
            have haccesses' : ((c.txLog w).wrote [(c.enableAddress, 1)]).accesses =
                2 + 2 * c.tx.streamCount := by
              rw [AccessLog.accesses_wrote, haccesses, List.length_singleton]
              omega
            have harmed : Armed c g₁ ((c.txLog w).wrote [(c.enableAddress, 1)]) := by
              apply armed_of_writes husable hv hw hread
              · simp [txLog]
              · simp [hwrites, programWrites, AccessLog.wrote, txLog]
            exact ⟨_, rfl, by omega, by simp, fun _ =>
              ⟨harmed, stopContract haccepted husable hsame'.armed hg₁ hg₂⟩⟩

lemma ensures_programRx {c' : DICEDuplexBringupController} (hsame : c.SameSetup c') {fuel : ℕ}
    (hfuel : c.accessBound ≤ fuel) :
    Ensures (device registers) (c.RxPost registers fuel) {} (programRx fuel c') := by
  have hbound : c.accessBound = 2 + 2 * max c.rx.streamCount c.tx.streamCount + stopAccesses := rfl
  apply Ensures.assuming returned_note _ (by simp [Returned])
  rw [programRx]
  split
  · exact ensures_refuse (by decide) c'
  · apply ensures_ensureRouteCurrent
    intro current
    cases current with
    | false => exact ensures_refuse (by decide) c'
    | true =>
      simp only [if_true]
      split
      · exact ensures_refuse (by decide) c'
      · have hrollback : ∀ status c' g, status ≠ IOReturn.success → c.SameSetup c' →
            g.accesses ≤ 1 + 2 * c.rx.streamCount → Ensures (device registers)
              (fun g result => Returned registers g → c.RxPost registers fuel g result) g
              (rollback status c') := by
          intro status c' g hstatus hsame' haccesses
          apply ensures_rollback haccepted husable hstatus hsame' (by omega)
          intro g' hg' h
          exact (h g' g' hg' hg').1
        obtain ⟨left, hleft⟩ : ∃ k, fuel = k + 1 := ⟨fuel - 1, by omega⟩
        rw [doProgramRx, hsame.rxPort, ← rx, hleft]
        apply ensures_programStreams_start
        · intro status c'' g' hstatus hsame' haccesses
          rw [← hleft]
          exact hrollback status c'' g' hstatus (hsame.trans hsame') (by simp at haccesses; omega)
        · intro v hv
          rw [← hleft]
          apply ensures_programStreams (husable.rxStride v hv) (Nat.zero_le _)
          · omega
          · intro status c'' g' hstatus hsame' haccesses
            apply hrollback status c'' g' hstatus ((hsame.setPhase _).trans hsame')
            have hread : (AccessLog.read {} c.rx.sizeAddress v).accesses = 1 := rfl
            omega
          · have hsame' := (hsame.setPhase .programmingDeviceRx).setPhase .programmingDeviceRx
            have hlog : (AccessLog.read {} c.rx.sizeAddress v).wrote (c.rx.streamWrites (v * 4)
                c.rx.channelWord 0 (c.rx.streamCount - 0)) = c.rxLog v := by
              simp [AccessLog.read, AccessLog.wrote, rxLog, StreamPort.length_streamWrites]
            rw [hlog]
            intro hg₁
            have haccesses : (c.rxLog v).accesses = 1 + 2 * c.rx.streamCount := rfl
            refine ⟨_, rfl, by omega, by simp, fun _ => ⟨?_, ?_⟩⟩
            · exact stopContract_rx haccepted husable hsame'.rxProgrammed hg₁
            · exact ensures_programTx haccepted husable hsame'.rxProgrammed hfuel hg₁ hv
                (by simp [rxLog]) rfl

/-- A device whose sizes are usable keeps the contract on every path. -/
theorem streamContract_of_usable : c.StreamContract registers :=
  fun _ hsame _ hfuel => ensures_programRx haccepted husable hsame hfuel

end Usable

/-! ### Paths of a device that answers every access -/

section Paths

variable {f : IOReturn → Prog α}

lemma reaches_readQuadBE {offset value : Quadlet} {f : IOReturn × Quadlet → Prog α}
    (hvalue : value ∈ (registers (makeDICEAddress offset)).1)
    (h : Reaches (device registers) Q (g.read (makeDICEAddress offset) value)
      (f (.success, value))) :
    Reaches (device registers) Q g (readQuadBE offset >>= f) := by
  rw [readQuadBE, reaches_bind, reaches_perform_bind]
  exact ⟨(.success, value), fun _ => hvalue, h⟩

lemma reaches_writeQuadBE {offset value : Quadlet}
    (h : Reaches (device registers) Q (g.wrote [(makeDICEAddress offset, value)]) (f .success)) :
    Reaches (device registers) Q g (writeQuadBE offset value >>= f) := by
  rw [writeQuadBE, reaches_bind, reaches_perform_bind]
  exact ⟨AsyncStatus.success, trivial, h⟩

lemma reaches_compareSwap64BE {offset : Quadlet} {expected desired : BitVec 64}
    {f : IOReturn × BitVec 64 → Prog α} (previous : BitVec 64)
    (h : Reaches (device registers) Q g.attempt (f (.success, previous))) :
    Reaches (device registers) Q g (compareSwap64BE offset expected desired >>= f) := by
  rw [compareSwap64BE, reaches_bind, reaches_perform_bind]
  exact ⟨(.success, previous), trivial, h⟩

lemma reaches_ensureRouteCurrent {f : Bool → Prog α}
    (h : Reaches (device registers) Q g (f true)) :
    Reaches (device registers) Q g (c.ensureRouteCurrent >>= f) := by
  rw [ensureRouteCurrent]
  split
  · exact h
  · exact ⟨true, trivial, h⟩

lemma reaches_abortStopIfTeardown {rest : Prog Stopped} {Q : AccessLog → Stopped → Prop}
    (h : Reaches (device registers) Q g rest) :
    Reaches (device registers) Q g (abortStopIfTeardown c rest) :=
  ⟨false, trivial, h⟩

variable {port : StreamPort} {phase : DuplexRestartPhase}
  {next : DICEDuplexBringupController → Prog (Option Report)}

/-- A size whose fourfold is 0 is read again and again. -/
lemma reaches_endless {size : Quadlet} (hsize : size ∈ (registers port.sizeAddress).1)
    (hzero : size * 4 = 0) (fuel : ℕ) (c : DICEDuplexBringupController) (g : AccessLog) :
    Reaches (device registers) (fun _ result => result = none) g
      (programStreams port phase next fuel 0 0 c) := by
  induction fuel generalizing c g with
  | zero => rfl
  | succ fuel ih =>
    rw [programStreams]
    apply reaches_ensureRouteCurrent
    apply reaches_readQuadBE hsize
    simp only [if_true, hzero]
    exact ih _ _

lemma reaches_programStreams {Q : AccessLog → Option Report → Prop} {entrySizeBytes : Quadlet}
    (hentry : entrySizeBytes ≠ 0) {streamIndex fuel : ℕ} (hindex : streamIndex ≤ port.streamCount)
    (hfuel : port.streamCount < fuel + streamIndex)
    (h : Reaches (device registers) Q (g.wrote (port.streamWrites entrySizeBytes
      port.channelWord streamIndex (port.streamCount - streamIndex))) (next (c.setPhase phase))) :
    Reaches (device registers) Q g
      (programStreams port phase next fuel streamIndex entrySizeBytes c) := by
  induction fuel generalizing streamIndex g c with
  | zero => omega
  | succ fuel ih =>
    rw [programStreams]
    apply reaches_ensureRouteCurrent
    have hstart : ¬ (streamIndex = 0 ∧ entrySizeBytes = 0) := fun h => hentry h.2
    simp only [if_true, if_neg hstart]
    by_cases hdone : port.streamCount ≤ streamIndex
    · rw [if_pos hdone]
      rw [Nat.sub_eq_zero_of_le hdone] at h
      simpa [StreamPort.streamWrites] using h
    · obtain ⟨left, hleft⟩ : ∃ left, port.streamCount - streamIndex = left + 1 :=
        ⟨port.streamCount - streamIndex - 1, by omega⟩
      have hnext : port.streamCount - (streamIndex + 1) = left := by omega
      rw [if_neg hdone]
      apply reaches_writeQuadBE
      simp only [if_true]
      apply reaches_writeQuadBE
      simp only [if_true]
      apply ih (by omega) (by omega)
      rw [hnext, AccessLog.wrote_wrote, AccessLog.wrote_wrote]
      rw [hleft] at h
      exact h

lemma recordFirstError_success (h : c.stopSequenceError = .success) :
    c.recordFirstError .success = c := by
  rw [recordFirstError, if_pos h]
  rw [← h]

variable {after : DICEDuplexBringupController → Prog Stopped} {Q : AccessLog → Stopped → Prop}

lemma reaches_stopStreams (herror : c.stopSequenceError = .success) {entrySizeBytes : Quadlet}
    {streamIndex : ℕ}
    (h : Reaches (device registers) Q (g.wrote (port.streamWrites entrySizeBytes
      (fun _ => kDisabledIsoChannel) streamIndex (port.stopCount entrySizeBytes - streamIndex)))
      (after c)) :
    Reaches (device registers) Q g (stopStreams port after streamIndex entrySizeBytes c) := by
  obtain ⟨left, hleft⟩ : ∃ left, port.stopCount entrySizeBytes - streamIndex = left := ⟨_, rfl⟩
  rw [hleft] at h
  induction left generalizing streamIndex g with
  | zero =>
    rw [stopStreams, if_pos (by omega)]
    simpa [StreamPort.streamWrites] using h
  | succ left ih =>
    rw [stopStreams, if_neg (by omega)]
    apply reaches_writeQuadBE
    rw [recordFirstError_success herror]
    apply reaches_abortStopIfTeardown
    apply reaches_writeQuadBE
    rw [recordFirstError_success herror]
    apply reaches_abortStopIfTeardown
    apply ih _ (by omega)
    rw [AccessLog.wrote_wrote, AccessLog.wrote_wrote]
    exact h

lemma reaches_stopPort (herror : c.stopSequenceError = .success) {size : Quadlet}
    (hsize : size ∈ (registers port.sizeAddress).1)
    (h : Reaches (device registers) Q ((g.read port.sizeAddress size).wrote (port.streamWrites
      (size * 4) (fun _ => kDisabledIsoChannel) 0 (port.stopCount (size * 4)))) (after c)) :
    Reaches (device registers) Q g (stopPort port after c) := by
  apply reaches_abortStopIfTeardown
  apply reaches_ensureRouteCurrent
  apply reaches_readQuadBE hsize
  apply reaches_abortStopIfTeardown
  simp only [if_true]
  rw [recordFirstError_success herror]
  exact reaches_stopStreams herror h

/-- The writes of a stop without a failure. -/
def stopWrites (c : DICEDuplexBringupController) (v w : Quadlet) : List (Address × Quadlet) :=
  (c.enableAddress, 0) ::
    (c.tx.streamWrites (w * 4) (fun _ => kDisabledIsoChannel) 0 (c.tx.stopCount (w * 4)) ++
      c.rx.streamWrites (v * 4) (fun _ => kDisabledIsoChannel) 0 (c.rx.stopCount (v * 4)))

lemma reaches_doStopSequence {v w : Quadlet} (hv : v ∈ (registers c.rx.sizeAddress).1)
    (hw : w ∈ (registers c.tx.sizeAddress).1) :
    Reaches (device registers) (fun g stopped => stopped.2 = .success ∧
      g.writes = c.stopWrites v w) {} (doStopSequence true c) := by
  have hstart : c.SameSetup { c.setPhase .stopping with stopSequenceError := .success } :=
    ⟨rfl, rfl, rfl⟩
  rw [doStopSequence]
  generalize hc : { c.setPhase .stopping with stopSequenceError := IOReturn.success } = c₁
  rw [hc] at hstart
  have herror : c₁.stopSequenceError = .success := by rw [← hc]
  apply reaches_abortStopIfTeardown
  apply reaches_abortStopIfTeardown
  apply reaches_ensureRouteCurrent
  apply reaches_writeQuadBE
  rw [recordFirstError_success herror]
  apply reaches_abortStopIfTeardown
  rw [doStopDisableTx, hstart.txPort]
  apply reaches_stopPort herror hw
  apply reaches_abortStopIfTeardown
  rw [doStopDisableRx, hstart.rxPort]
  apply reaches_stopPort herror hv
  apply reaches_abortStopIfTeardown
  apply reaches_abortStopIfTeardown
  have hwrites : (makeDICEAddress (c₁.sections.global.offset + GlobalOffset.kEnable), 0) ::
      (c.tx.streamWrites (w * 4) (fun _ => kDisabledIsoChannel) 0 (c.tx.stopCount (w * 4)) ++
        c.rx.streamWrites (v * 4) (fun _ => kDisabledIsoChannel) 0 (c.rx.stopCount (v * 4))) =
      c.stopWrites v w := by
    rw [hstart.sections]
    rfl
  split
  · exact ⟨herror, hwrites⟩
  · apply reaches_ensureRouteCurrent
    apply reaches_compareSwap64BE c₁.ownerValue
    apply reaches_abortStopIfTeardown
    rw [recordFirstError_success herror]
    simp only [ne_eq, not_true_eq_false, false_and, and_false, if_false]
    exact ⟨herror, hwrites⟩

/-! ### A device that keeps the contract is usable -/

lemma secondValue_tx_ne (c : DICEDuplexBringupController) :
    c.tx.secondValue ≠ kDisabledIsoChannel := by
  intro h
  have hnat := congrArg BitVec.toNat h
  have hvalue : c.tx.secondValue.toNat = min c.busInfo.speed 2 := by
    simp only [tx, txPort, resolvedTxSpeed, BitVec.toNat_ofNat]
    omega
  have hdisabled : kDisabledIsoChannel.toNat = 0xFFFFFFFF := rfl
  omega

/-- A prepared controller with the setup of `c`. -/
def ready (c : DICEDuplexBringupController) : DICEDuplexBringupController :=
  { c with
    restartSession.devicePrepared := true
    restartSession.ownerClaimed := true
    restartSession.phase := .prepared }

lemma sameSetup_ready (c : DICEDuplexBringupController) : c.SameSetup c.ready := ⟨rfl, rfl, rfl⟩

lemma reaches_programRx (haccepted : Accepted c.restartSession.channels) {fuel : ℕ}
    {Q : AccessLog → Option Report → Prop}
    (h : Reaches (device registers) Q {} (programStreams c.rx .programmingDeviceRx (fun c =>
      pure (some { controller := c.rxProgrammed, status := .success })) fuel 0 0 c.ready)) :
    Reaches (device registers) Q {} (programRx fuel c.ready) := by
  have hchannels : ¬ (c.ready.restartSession.channels.deviceToHostIsoChannel > 63 ∨
      c.ready.restartSession.channels.hostToDeviceIsoChannel > 63) := by
    rintro (hlarge | hlarge)
    · exact BitVec.not_lt.mpr haccepted.deviceToHost hlarge
    · exact BitVec.not_lt.mpr haccepted.hostToDevice hlarge
  have hprepared : ¬ c.ready.restartSession.devicePrepared = false := by simp [ready]
  rw [programRx, if_neg hprepared]
  apply reaches_ensureRouteCurrent
  simp only [if_true, if_neg hchannels]
  exact h

lemma reaches_programTx {c₁ : DICEDuplexBringupController} (hsame : c.SameSetup c₁)
    (hprepared : c₁.restartSession.devicePrepared = true)
    (hprogrammed : c₁.restartSession.deviceRxProgrammed = true) {fuel : ℕ}
    {Q : AccessLog → Option Report → Prop}
    (h : Reaches (device registers) Q {}
      (programStreams c.tx .programmingDeviceTx doEnableGlobal fuel 0 0 c₁)) :
    Reaches (device registers) Q {} (programTxAndEnableDuplex fuel c₁) := by
  rw [programTxAndEnableDuplex, if_neg (by simp [hprepared, hprogrammed])]
  apply reaches_ensureRouteCurrent
  simp only [if_true]
  rw [doProgramTx, hsame.txPort]
  exact h

/-- From the first entry on: the size is read, and the streams are written with its fourfold. -/
lemma reaches_programStreams_start {Q : AccessLog → Option Report → Prop} {size : Quadlet}
    (hsize : size ∈ (registers port.sizeAddress).1) (hstride : size * 4 ≠ 0) {fuel : ℕ}
    (hfuel : port.streamCount < fuel)
    (h : ∀ c', c.SameSetup c' → c'.restartSession.devicePrepared = c.restartSession.devicePrepared →
      Reaches (device registers) Q ((({} : AccessLog).read port.sizeAddress size).wrote
        (port.streamWrites (size * 4) port.channelWord 0 port.streamCount)) (next c')) :
    Reaches (device registers) Q {} (programStreams port phase next (fuel + 1) 0 0 c) := by
  rw [programStreams]
  apply reaches_ensureRouteCurrent
  apply reaches_readQuadBE hsize
  simp only [if_true]
  apply reaches_programStreams hstride (Nat.zero_le _) hfuel
  exact h _ (((SameSetup.refl c).setPhase phase).setPhase phase) rfl

/-- What the logs of two successful calls show about the registers and about GLOBAL_ENABLE. -/
lemma distinct_of_armed {v w : Quadlet}
    (h : Armed c (c.rxLog v) ((c.txLog w).wrote [(c.enableAddress, 1)])) :
    (c.channelRegisters v w).Nodup ∧ (c.enableAddress, 1) ∉ c.programWrites v w := by
  obtain ⟨v', w', hv', hw', hnodup, before, after, hwrites, hsingle, -⟩ := h
  have hv : v' = v := by simpa [rxLog] using hv'
  have hw : w' = w := by simpa [txLog] using hw'
  subst hv hw
  refine ⟨hnodup, fun hmem => ?_⟩
  have hcount : ((c.rxLog v').writes ++ ((c.txLog w').wrote [(c.enableAddress, 1)]).writes).count
      (c.enableAddress, 1) = 1 := by
    rw [List.mem_append, not_or] at hsingle
    rw [hwrites, List.count_append, List.count_cons_self, List.count_eq_zero.mpr hsingle.1,
      List.count_eq_zero.mpr hsingle.2]
  have hprogram : (c.rxLog v').writes ++ ((c.txLog w').wrote [(c.enableAddress, 1)]).writes =
      c.programWrites v' w' ++ [(c.enableAddress, 1)] := by
    simp [rxLog, txLog, AccessLog.wrote, programWrites]
  rw [hprogram, List.count_append, List.count_singleton_self] at hcount
  have hpos := List.count_pos_iff.mpr hmem
  omega

section Contract

variable (haccepted : Accepted c.restartSession.channels) (hcontract : c.StreamContract registers)
include haccepted hcontract

lemma rxStride_of_streamContract {v : Quadlet} (hv : v ∈ (registers c.rx.sizeAddress).1) :
    v * 4 ≠ 0 := by
  intro hzero
  obtain ⟨g, result, ⟨report, hreport, -⟩, hnone⟩ :=
    (reaches_programRx haccepted (reaches_endless hv hzero c.accessBound c.ready {})).ensured
      (hcontract c.ready (sameSetup_ready c) c.accessBound le_rfl)
  rw [hnone] at hreport
  cases hreport

/-- Where `ProgramRx` has reported success, and what the contract then says of the next call. -/
lemma exists_rxProgrammed {v : Quadlet} (hv : v ∈ (registers c.rx.sizeAddress).1) :
    ∃ c₁, c.SameSetup c₁ ∧ c₁.restartSession.devicePrepared = true ∧
      c₁.restartSession.deviceRxProgrammed = true ∧
      Ensures (device registers) (c.TxPost registers (c.rxLog v)) {}
        (programTxAndEnableDuplex c.accessBound c₁) := by
  have hfuel : c.accessBound = c.accessBound - 1 + 1 := by
    have : c.accessBound = 2 + 2 * max c.rx.streamCount c.tx.streamCount + stopAccesses := rfl
    omega
  have hcount : c.rx.streamCount < c.accessBound - 1 := by
    have : c.accessBound = 2 + 2 * max c.rx.streamCount c.tx.streamCount + stopAccesses := rfl
    omega
  have hreaches : Reaches (device registers) (fun g result => ∃ c₁, c.SameSetup c₁ ∧
      c₁.restartSession.devicePrepared = true ∧ c₁.restartSession.deviceRxProgrammed = true ∧
      g = c.rxLog v ∧ result = some { controller := c₁, status := .success }) {}
      (programRx c.accessBound c.ready) := by
    apply reaches_programRx haccepted
    rw [hfuel]
    apply reaches_programStreams_start hv (rxStride_of_streamContract haccepted hcontract hv) hcount
    intro c' hsame hprepared
    refine ⟨c'.rxProgrammed, ((sameSetup_ready c).trans hsame).rxProgrammed, hprepared, rfl, ?_, rfl⟩
    simp [AccessLog.read, AccessLog.wrote, rxLog, StreamPort.length_streamWrites]
  obtain ⟨g, result, ⟨report, hreport, -, -, hprogrammed⟩, c₁, hsame, hprepared, hrx, rfl, rfl⟩ :=
    hreaches.ensured (hcontract c.ready (sameSetup_ready c) c.accessBound le_rfl)
  cases hreport
  exact ⟨c₁, hsame, hprepared, hrx, (hprogrammed rfl).2⟩

lemma txStride_of_streamContract {w : Quadlet} (hw : w ∈ (registers c.tx.sizeAddress).1) :
    w * 4 ≠ 0 := by
  intro hzero
  obtain ⟨v, hv⟩ := (registers c.rx.sizeAddress).2
  obtain ⟨c₁, hsame, hprepared, hrx, htx⟩ := exists_rxProgrammed haccepted hcontract hv
  obtain ⟨g, result, ⟨report, hreport, -⟩, hnone⟩ :=
    (reaches_programTx hsame hprepared hrx (reaches_endless hw hzero c.accessBound c₁ {})).ensured
      htx
  rw [hnone] at hreport
  cases hreport

/-- Where both calls have reported success. -/
lemma exists_armed {v w : Quadlet} (hv : v ∈ (registers c.rx.sizeAddress).1)
    (hw : w ∈ (registers c.tx.sizeAddress).1) :
    ∃ c₂, c.SameSetup c₂ ∧
      Armed c (c.rxLog v) ((c.txLog w).wrote [(c.enableAddress, 1)]) ∧
      StopContract registers
        [(c.rx, c.rxLog v), (c.tx, (c.txLog w).wrote [(c.enableAddress, 1)])] c₂ := by
  have hfuel : c.accessBound = c.accessBound - 1 + 1 := by
    have : c.accessBound = 2 + 2 * max c.rx.streamCount c.tx.streamCount + stopAccesses := rfl
    omega
  have hcount : c.tx.streamCount < c.accessBound - 1 := by
    have : c.accessBound = 2 + 2 * max c.rx.streamCount c.tx.streamCount + stopAccesses := rfl
    omega
  obtain ⟨c₁, hsame, hprepared, hrx, htx⟩ := exists_rxProgrammed haccepted hcontract hv
  have hreaches : Reaches (device registers) (fun g result => ∃ c₂, c.SameSetup c₂ ∧
      g = (c.txLog w).wrote [(c.enableAddress, 1)] ∧
      result = some { controller := c₂, status := .success }) {}
      (programTxAndEnableDuplex c.accessBound c₁) := by
    apply reaches_programTx hsame hprepared hrx
    rw [hfuel]
    apply reaches_programStreams_start hw (txStride_of_streamContract haccepted hcontract hw) hcount
    intro c' hsame' _
    rw [doEnableGlobal]
    apply reaches_ensureRouteCurrent
    apply reaches_writeQuadBE
    refine ⟨c'.armed, (hsame.trans hsame').armed, ?_, rfl⟩
    have hlog : (({} : AccessLog).read c.tx.sizeAddress w).wrote
        (c.tx.streamWrites (w * 4) c.tx.channelWord 0 c.tx.streamCount) = c.txLog w := by
      simp [AccessLog.read, AccessLog.wrote, txLog, StreamPort.length_streamWrites]
    rw [hlog, (hsame.trans hsame').sections]
    rfl
  obtain ⟨g, result, ⟨report, hreport, -, -, hprogrammed⟩, c₂, hsame₂, rfl, rfl⟩ :=
    hreaches.ensured htx
  cases hreport
  exact ⟨c₂, hsame₂, hprogrammed rfl⟩

lemma exists_cleared {v w v' w' : Quadlet} (hv : v ∈ (registers c.rx.sizeAddress).1)
    (hw : w ∈ (registers c.tx.sizeAddress).1) (hv' : v' ∈ (registers c.rx.sizeAddress).1)
    (hw' : w' ∈ (registers c.tx.sizeAddress).1) :
    ∃ g : AccessLog, g.writes = c.stopWrites v' w' ∧ Cleared c.rx (c.rxLog v) g ∧
      Cleared c.tx ((c.txLog w).wrote [(c.enableAddress, 1)]) g := by
  obtain ⟨c₂, hsame, -, hstop⟩ := exists_armed haccepted hcontract hv hw
  have hrx : c₂.rx = c.rx := hsame.rxPort
  have htx : c₂.tx = c.tx := hsame.txPort
  have hwrites : c₂.stopWrites v' w' = c.stopWrites v' w' := by
    rw [stopWrites, stopWrites, hrx, htx, enableAddress, hsame.sections, ← enableAddress]
  rw [← hrx] at hv'
  rw [← htx] at hw'
  obtain ⟨g, stopped, hcleared, hsuccess, hg⟩ := (reaches_doStopSequence hv' hw').ensured hstop
  refine ⟨g, hg.trans hwrites, ?_, ?_⟩
  · exact hcleared hsuccess (c.rx, c.rxLog v) List.mem_cons_self
  · exact hcleared hsuccess (c.tx, (c.txLog w).wrote [(c.enableAddress, 1)])
      (List.mem_cons_of_mem _ List.mem_cons_self)

/-- A stop writes the disabled value to no other registers than those it clears. -/
lemma mem_clearedRegisters {v w : Quadlet} (hv : v ∈ (registers c.rx.sizeAddress).1)
    (hw : w ∈ (registers c.tx.sizeAddress).1) {r : Address}
    (h : (r, kDisabledIsoChannel) ∈ c.stopWrites v w) : r ∈ c.clearedRegisters v w := by
  have hrxStride := rxStride_of_streamContract haccepted hcontract hv
  have htxStride := txStride_of_streamContract haccepted hcontract hw
  have hspeed : c.tx.secondValue ≠ kDisabledIsoChannel := secondValue_tx_ne c
  rcases List.mem_cons.mp h with henable | hstreams
  · simp [kDisabledIsoChannel] at henable
  · rcases List.mem_append.mp hstreams with htx | hrx
    · obtain ⟨i, -, hi, hwrite | hwrite⟩ := StreamPort.mem_streamWrites.mp htx
      · rw [stopCount_eq haccepted.capture htxStride] at hi
        rw [(Prod.mk.inj hwrite).1]
        exact List.mem_append_right _ (List.mem_map.mpr ⟨i, List.mem_range.mpr (by omega), rfl⟩)
      · exact absurd (Prod.mk.inj hwrite).2.symm hspeed
    · obtain ⟨i, -, hi, hwrite | hwrite⟩ := StreamPort.mem_streamWrites.mp hrx
      · rw [stopCount_eq haccepted.playback hrxStride] at hi
        rw [(Prod.mk.inj hwrite).1]
        exact List.mem_append_left _ (List.mem_map.mpr ⟨i, List.mem_range.mpr (by omega), rfl⟩)
      · simp [kDisabledIsoChannel, rx, rxPort, kRxSeqStartDefault] at hwrite

lemma covered_of_streamContract {v w v' w' : Quadlet} (hv : v ∈ (registers c.rx.sizeAddress).1)
    (hw : w ∈ (registers c.tx.sizeAddress).1) (hv' : v' ∈ (registers c.rx.sizeAddress).1)
    (hw' : w' ∈ (registers c.tx.sizeAddress).1) :
    c.channelRegisters v w ⊆ c.clearedRegisters v' w' := by
  obtain ⟨g, hwrites, hrx, htx⟩ := exists_cleared haccepted hcontract hv hw hv' hw'
  intro r hr
  apply mem_clearedRegisters haccepted hcontract hv' hw'
  rw [← hwrites]
  rcases List.mem_append.mp hr with hr | hr
  · obtain ⟨i, hi, rfl⟩ := List.mem_map.mp hr
    have hi := List.mem_range.mp hi
    apply hrx v i (by simp [rxLog]) hi
    exact StreamPort.mem_streamWrites.mpr ⟨i, Nat.zero_le i, by omega, .inl rfl⟩
  · obtain ⟨i, hi, rfl⟩ := List.mem_map.mp hr
    have hi := List.mem_range.mp hi
    apply htx w i (by simp [txLog]) hi
    apply List.mem_append_left
    exact StreamPort.mem_streamWrites.mpr ⟨i, Nat.zero_le i, by omega, .inl rfl⟩

theorem usable_of_streamContract : Usable c registers where
  rxStride _ hv := rxStride_of_streamContract haccepted hcontract hv
  txStride _ hw := txStride_of_streamContract haccepted hcontract hw
  distinct v hv w hw := by
    obtain ⟨-, -, harmed, -⟩ := exists_armed haccepted hcontract hv hw
    exact (distinct_of_armed harmed).1
  enable v hv w hw := by
    obtain ⟨-, -, harmed, -⟩ := exists_armed haccepted hcontract hv hw
    exact (distinct_of_armed harmed).2
  covered _ hv _ hw _ hv' _ hw' := covered_of_streamContract haccepted hcontract hv hw hv' hw'

end Contract

end Paths

/-- The contract holds on every path of a device, whatever fails, exactly where the sizes it returns
are usable. -/
theorem streamContract_iff (haccepted : Accepted c.restartSession.channels)
    (registers : RegisterValues) : c.StreamContract registers ↔ Usable c registers :=
  ⟨usable_of_streamContract haccepted, streamContract_of_usable haccepted⟩

/-- Two streams in each direction of a device with the usual sections. -/
def twoStreams : DICEDuplexBringupController where
  sections := {
    global := { offset := 0x28, size := 0x180 }
    txStreamFormat := { offset := 0x1A8, size := 0x238 }
    rxStreamFormat := { offset := 0x3E0, size := 0x238 } }
  restartSession := {
    channels := {
      captureStreamCount := 2
      playbackStreamCount := 2
      captureIsoChannels := #v[0, 2, 0, 0]
      playbackIsoChannels := #v[1, 3, 0, 0] } }

/-- Every register reads as `size`. -/
def constantRegisters (size : Quadlet) : RegisterValues :=
  fun _ => ⟨{size}, Set.singleton_nonempty size⟩

lemma accepted_twoStreams : Accepted twoStreams.restartSession.channels := by
  constructor <;> decide

lemma usable_twoStreams : Usable twoStreams (constantRegisters 70) := by
  constructor
  · rintro v rfl
    decide
  · rintro w rfl
    decide
  · rintro v rfl w rfl
    decide
  · rintro v rfl w rfl
    decide
  · rintro v rfl w rfl v' rfl w' rfl
    decide

theorem twoStreams_streamContract : twoStreams.StreamContract (constantRegisters 70) :=
  (streamContract_iff accepted_twoStreams (constantRegisters 70)).mpr usable_twoStreams

/-- A size of 0 is read without end. -/
theorem not_streamContract_zero : ¬ twoStreams.StreamContract (constantRegisters 0) :=
  fun h => rxStride_of_streamContract accepted_twoStreams h (Set.mem_singleton 0) rfl

/-- With a stride of 2 ^ 31 bytes the third stream has the registers of the first. -/
example : twoStreams.rx.isoAddress (0x20000000 * 4) 2 = twoStreams.rx.isoAddress (0x20000000 * 4) 0 :=
  by decide

end DICEDuplexBringupController

end ASFireWire.DICE
