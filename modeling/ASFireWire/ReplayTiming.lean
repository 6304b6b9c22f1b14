import ASFireWire.RxAudioPacketProcessor

/-! Time on the cycle timer: the receive timestamp of a packet and the cycle it stands for
(`Isoch/Receive/IsochRxTiming.hpp`), and the presentation time of a received packet moved to the
cycle of a sent one (`Audio/Wire/AMDTP/RxSequenceReplay.hpp`, `AmdtpTiming.hpp`). -/
namespace ASFireWire.AudioRx

/-! ### Receive timestamps -/

/-- `tstampToOffsets` of an encoded cycle timer. -/
def encodedTstampToOffsets (cycleTimer : ℕ) : ℤ :=
  tstampToOffsets (decodeCycleTimer cycleTimer).seconds (decodeCycleTimer cycleTimer).cycle
    (decodeCycleTimer cycleTimer).offset

/-- A word the cycle timer register can hold. -/
structure IsCycleTimer (cycleTimer : ℕ) : Prop where
  word : cycleTimer < 2 ^ 32
  cycle : (decodeCycleTimer cycleTimer).cycle < kCyclesPerSecond
  offset : (decodeCycleTimer cycleTimer).offset < kTicksPerCycle

/-- `[sec:3][cycle:13]` of a cycle timer, as the controller stamps a received packet. -/
def receiveTimestampOf (cycleTimer : ℕ) : ℕ :=
  (decodeCycleTimer cycleTimer).seconds % 8 * 2 ^ 13 + (decodeCycleTimer cycleTimer).cycle

variable {reference packet timestamp : ℕ}

lemma IsCycleTimer.ticks (h : IsCycleTimer packet) :
    0 ≤ encodedTstampToOffsets packet ∧ encodedTstampToOffsets packet < kFullDomainTicks := by
  obtain ⟨hword, hcycle, hoffset⟩ := h
  simp only [encodedTstampToOffsets, tstampToOffsets, decodeCycleTimer, kCyclesPerSecond,
    kTicksPerCycle, kFullDomainTicks, kFWTimeWrapSeconds, kTicksPerSecond] at *
  omega

/-- Ticks at the start of a cycle name that cycle. -/
lemma IsCycleTimer.cycleTimerOfTicks (h : IsCycleTimer packet)
    (hstart : (decodeCycleTimer packet).offset = 0) :
    cycleTimerOfTicks (encodedTstampToOffsets packet).toNat = packet := by
  obtain ⟨hword, hcycle, -⟩ := h
  simp only [AudioRx.cycleTimerOfTicks, encodedTstampToOffsets, tstampToOffsets, decodeCycleTimer,
    kCyclesPerSecond, kTicksPerCycle, kTicksPerSecond] at *
  omega

/-- Modulo eight seconds a time is known from its receive timestamp. -/
lemma candidate_eq (reference : ℕ) (hstart : (decodeCycleTimer packet).offset = 0)
    (hcycle : (decodeCycleTimer packet).cycle < kCyclesPerSecond) :
    tstampToOffsets ((decodeCycleTimer reference).seconds / 8 * 8 +
        receiveTimestampOf packet / 2 ^ 13 % 8) (receiveTimestampOf packet % 2 ^ 13) 0 =
      encodedTstampToOffsets packet + kEightSecondTicks *
        (((decodeCycleTimer reference).seconds / 8 : ℕ) -
          ((decodeCycleTimer packet).seconds / 8 : ℕ) : ℤ) := by
  simp only [encodedTstampToOffsets, hstart]
  simp only [receiveTimestampOf, tstampToOffsets, kCyclesPerSecond, kTicksPerCycle,
    kEightSecondTicks, kTicksPerSecond] at *
  generalize (decodeCycleTimer packet).cycle = cycle at *
  generalize (decodeCycleTimer packet).seconds = seconds at *
  generalize (decodeCycleTimer reference).seconds = referenceSeconds at *
  push_cast
  omega

lemma receiveTimestampOf_cycle (hcycle : (decodeCycleTimer packet).cycle < kCyclesPerSecond) :
    receiveTimestampOf packet % 2 ^ 13 = (decodeCycleTimer packet).cycle := by
  unfold receiveTimestampOf
  unfold kCyclesPerSecond at hcycle
  omega

/-- A distance of a second at most is the shorter way round eight seconds. -/
lemma shortestDelta_near {delta age k : ℤ} (hdelta : delta = -age + kEightSecondTicks * k)
    (hage : |age| ≤ kTicksPerSecond) (hlow : -kEightSecondTicks < delta)
    (hhigh : delta < kEightSecondTicks) : shortestDelta delta = -age := by
  rw [abs_le] at hage
  unfold shortestDelta
  simp only [kEightSecondTicks, kTicksPerSecond] at *
  split_ifs <;> omega

/-- The candidate lies in the reference's eight seconds. -/
lemma candidate_near (hreference : IsCycleTimer reference) {cycle : ℕ}
    (hcycle : cycle < kCyclesPerSecond) (seconds : ℕ) :
    -kEightSecondTicks < tstampToOffsets ((decodeCycleTimer reference).seconds / 8 * 8 + seconds % 8)
        cycle 0 - encodedTstampToOffsets reference ∧
      tstampToOffsets ((decodeCycleTimer reference).seconds / 8 * 8 + seconds % 8) cycle 0 -
        encodedTstampToOffsets reference < kEightSecondTicks := by
  obtain ⟨-, hreferenceCycle, hreferenceOffset⟩ := hreference
  unfold encodedTstampToOffsets
  generalize decodeCycleTimer reference = fields at *
  simp only [tstampToOffsets, kCyclesPerSecond, kTicksPerCycle, kEightSecondTicks,
    kTicksPerSecond] at *
  push_cast
  omega

/-- Where a timestamp lies from the reference, the shorter way round eight seconds. -/
def receiveDelta (timestamp reference : ℕ) : ℤ :=
  shortestDelta (tstampToOffsets ((decodeCycleTimer reference).seconds / 8 * 8 +
    timestamp / 2 ^ 13 % 8) (timestamp % 2 ^ 13) 0 - encodedTstampToOffsets reference)

lemma expandReceiveTimestamp_eq_some {r : ExpandedReceiveTimestamp} :
    expandReceiveTimestamp timestamp reference = some r ↔
      timestamp % 2 ^ 13 < kCyclesPerSecond ∧ |receiveDelta timestamp reference| ≤ kTicksPerSecond ∧
        ⟨cycleTimerOfTicks ((encodedTstampToOffsets reference + receiveDelta timestamp reference) %
          kFullDomainTicks).toNat, -receiveDelta timestamp reference⟩ = r := by
  rw [abs_le]
  unfold receiveDelta encodedTstampToOffsets expandReceiveTimestamp
  dsimp only
  split_ifs with hcycle hfar
  · exact iff_of_false (by simp) fun h => absurd h.1 (not_lt.mpr hcycle)
  · refine iff_of_false (by simp) fun h => ?_
    obtain ⟨-, hnear, -⟩ := h
    omega
  · rw [Option.some.injEq]
    refine ⟨fun h => ⟨not_le.mp hcycle, ?_, h⟩, fun h => h.2.2⟩
    omega

lemma expandReceiveTimestamp_near (hreference : IsCycleTimer reference) (hpacket : IsCycleTimer packet)
    (hstart : (decodeCycleTimer packet).offset = 0) {age : ℤ} (hage : |age| ≤ kTicksPerSecond)
    (hcircle : age ≡ encodedTstampToOffsets reference - encodedTstampToOffsets packet
      [ZMOD kFullDomainTicks]) :
    expandReceiveTimestamp (receiveTimestampOf packet) reference = some ⟨packet, age⟩ := by
  obtain ⟨m, hm⟩ := hcircle.dvd
  have hcycle := receiveTimestampOf_cycle hpacket.cycle
  have hdomain : kFullDomainTicks = kEightSecondTicks * 16 := by
    norm_num [kFullDomainTicks, kEightSecondTicks, kFWTimeWrapSeconds, kTicksPerSecond]
  have hdelta : receiveDelta (receiveTimestampOf packet) reference = -age := by
    have hcandidate := candidate_eq reference hstart hpacket.cycle
    have hnear := candidate_near hreference (hcycle ▸ hpacket.cycle)
      (receiveTimestampOf packet / 2 ^ 13)
    unfold receiveDelta
    generalize tstampToOffsets ((decodeCycleTimer reference).seconds / 8 * 8 +
      receiveTimestampOf packet / 2 ^ 13 % 8) (receiveTimestampOf packet % 2 ^ 13) 0 = candidate at *
    have hturns : candidate - encodedTstampToOffsets reference = -age + kEightSecondTicks *
        (((decodeCycleTimer reference).seconds / 8 : ℕ) -
          ((decodeCycleTimer packet).seconds / 8 : ℕ) - 16 * m : ℤ) := by
      rw [hdomain] at hm
      linear_combination hcandidate - hm
    exact shortestDelta_near hturns hage hnear.1 hnear.2
  have hback : (encodedTstampToOffsets reference + -age) % kFullDomainTicks =
      encodedTstampToOffsets packet := by
    have hturn : encodedTstampToOffsets reference + -age =
        encodedTstampToOffsets packet + kFullDomainTicks * m := by linear_combination hm
    rw [hturn, Int.add_mul_emod_self_left]
    exact Int.emod_eq_of_lt hpacket.ticks.1 hpacket.ticks.2
  rw [expandReceiveTimestamp_eq_some, hdelta, hback, hpacket.cycleTimerOfTicks hstart, abs_neg,
    neg_neg]
  exact ⟨hcycle ▸ hpacket.cycle, hage, rfl⟩

lemma shortestDelta_modEq (delta : ℤ) : shortestDelta delta ≡ delta [ZMOD kEightSecondTicks] := by
  unfold shortestDelta
  split_ifs
  · exact Int.modEq_iff_dvd.mpr ⟨1, by ring⟩
  · exact Int.modEq_iff_dvd.mpr ⟨-1, by ring⟩
  · rfl

/-- Modulo eight seconds the reference and the distance lead back to the timestamp. -/
lemma expanded_modEq (timestamp reference : ℕ) :
    encodedTstampToOffsets reference + receiveDelta timestamp reference ≡
      tstampToOffsets (timestamp / 2 ^ 13 % 8) (timestamp % 2 ^ 13) 0 [ZMOD kEightSecondTicks] := by
  have hdelta := (shortestDelta_modEq (tstampToOffsets ((decodeCycleTimer reference).seconds / 8 * 8 +
    timestamp / 2 ^ 13 % 8) (timestamp % 2 ^ 13) 0 - encodedTstampToOffsets reference)).add_left
      (encodedTstampToOffsets reference)
  rw [add_sub_cancel] at hdelta
  refine hdelta.trans (Int.modEq_iff_dvd.mpr ⟨-((decodeCycleTimer reference).seconds / 8 : ℕ), ?_⟩)
  simp only [tstampToOffsets, kEightSecondTicks, kCyclesPerSecond, kTicksPerCycle, kTicksPerSecond]
  push_cast
  ring

lemma receiveTimestampOf_cycleTimerOfTicks (ticks : ℕ) :
    receiveTimestampOf (cycleTimerOfTicks ticks) =
      ticks / kTicksPerSecond % 8 * 2 ^ 13 + ticks % kTicksPerSecond / kTicksPerCycle := by
  simp only [receiveTimestampOf, cycleTimerOfTicks, decodeCycleTimer, kTicksPerCycle,
    kTicksPerSecond]
  omega

lemma receiveTimestampOf_expanded (hword : timestamp < 2 ^ 16) {r : ExpandedReceiveTimestamp}
    (h : expandReceiveTimestamp timestamp reference = some r) :
    receiveTimestampOf r.cycleTimer = timestamp := by
  obtain ⟨hcycle, -, rfl⟩ := expandReceiveTimestamp_eq_some.mp h
  have hmod := expanded_modEq timestamp reference
  generalize encodedTstampToOffsets reference + receiveDelta timestamp reference = ticks at *
  have hpos : 0 < kFullDomainTicks := by
    norm_num [kFullDomainTicks, kFWTimeWrapSeconds, kTicksPerSecond]
  obtain ⟨expanded, hexpanded⟩ := Int.eq_ofNat_of_zero_le (Int.emod_nonneg ticks hpos.ne')
  have hsame : (expanded : ℤ) ≡ tstampToOffsets (timestamp / 2 ^ 13 % 8) (timestamp % 2 ^ 13) 0
      [ZMOD kEightSecondTicks] := by
    refine Int.ModEq.trans ?_ hmod
    rw [← hexpanded]
    apply (Int.mod_modEq ticks kFullDomainTicks).of_dvd
    exact ⟨16, by norm_num [kFullDomainTicks, kEightSecondTicks, kFWTimeWrapSeconds,
      kTicksPerSecond]⟩
  dsimp only
  rw [hexpanded, Int.toNat_natCast, receiveTimestampOf_cycleTimerOfTicks]
  simp only [Int.ModEq, tstampToOffsets, kEightSecondTicks, kCyclesPerSecond, kTicksPerCycle,
    kTicksPerSecond] at *
  omega

/-- A receive timestamp expands to the cycle of the packet and its distance from the reference, for
every packet within a second of it on the circle of 128 seconds; and whatever is accepted is a time
with that timestamp. -/
theorem expandReceiveTimestamp_exact (reference : ℕ) (hreference : IsCycleTimer reference) :
    (∀ (packet : ℕ) (age : ℤ), IsCycleTimer packet → (decodeCycleTimer packet).offset = 0 →
      |age| ≤ kTicksPerSecond →
      age ≡ encodedTstampToOffsets reference - encodedTstampToOffsets packet
        [ZMOD kFullDomainTicks] →
      expandReceiveTimestamp (receiveTimestampOf packet) reference = some ⟨packet, age⟩) ∧
    ∀ timestamp < 2 ^ 16, ∀ r, expandReceiveTimestamp timestamp reference = some r →
      receiveTimestampOf r.cycleTimer = timestamp := by
  constructor
  · intro packet age hpacket hstart hage hcircle
    exact expandReceiveTimestamp_near hreference hpacket hstart hage hcircle
  · intro timestamp hword r h
    exact receiveTimestampOf_expanded hword h

/-- The reference was read just after the timer wrapped, the packet came just before. -/
theorem expandReceiveTimestamp_before_wrap :
    expandReceiveTimestamp (receiveTimestampOf (encodeCycleTimer 127 7999 0))
      (encodeCycleTimer 0 5 100) = some ⟨encodeCycleTimer 127 7999 0, 6 * 3072 + 100⟩ := by
  have hreference : IsCycleTimer (encodeCycleTimer 0 5 100) := ⟨by decide, by decide, by decide⟩
  have hpacket : IsCycleTimer (encodeCycleTimer 127 7999 0) := ⟨by decide, by decide, by decide⟩
  apply (expandReceiveTimestamp_exact _ hreference).1 _ _ hpacket (by decide)
  · norm_num [kTicksPerSecond]
  · decide

/-! ### Presentation times -/

def kSytFieldDomainTicks : ℕ := kSytCycleModulus * kTicksPerCycle

/-- A SYT as a position in its field of 16 cycles. -/
def sytToFieldTicks (syt : ℕ) : ℕ := syt / 2 ^ 12 % 16 * kTicksPerCycle + syt % 2 ^ 12

def computeReplaySyt (sytOffset outputCycleTimer transferDelayTicks : ℕ) : ℕ :=
  if sytOffset = kNoOffset then kSytNoInfo
  else
    let outputCycle := (decodeCycleTimer outputCycleTimer).cycle
    let presentationOffset := (sytOffset + transferDelayTicks) % 2 ^ 32
    let cycle := outputCycle + presentationOffset / kTicksPerCycle
    cycle % 16 * 2 ^ 12 + presentationOffset % kTicksPerCycle

/-- The signed remainder, brought back above zero. -/
def normalizeOffsetDomain (ticks : ℤ) : ℤ :=
  if ticks.tmod kEightSecondTicks < 0 then ticks.tmod kEightSecondTicks + kEightSecondTicks
  else ticks.tmod kEightSecondTicks

def computeReplaySytFromTicks (sytOffset : ℕ) (outputCycleTicks : ℤ) (transferDelayTicks : ℕ) : ℕ :=
  let normalized := (normalizeOffsetDomain outputCycleTicks).toNat
  let ticksWithinSecond := normalized % kTicksPerSecond
  computeReplaySyt sytOffset
    (encodeCycleTimer (normalized / kTicksPerSecond) (ticksWithinSecond / kTicksPerCycle)
      (ticksWithinSecond % kTicksPerCycle)) transferDelayTicks

/-- A 16-bit SYT with a time in it. -/
structure IsSyt (syt : ℕ) : Prop where
  word : syt < 2 ^ 16
  offset : syt % 2 ^ 12 < kTicksPerCycle

variable {syt sytOffset source output transferDelayTicks : ℕ}

lemma IsSyt.ne_noInfo (h : IsSyt syt) : syt ≠ kSytNoInfo := by
  rintro rfl
  exact absurd h.offset (by decide)

lemma IsSyt.ext (h : IsSyt syt) {other : ℕ} (hother : IsSyt other)
    (hticks : sytToFieldTicks syt = sytToFieldTicks other) : syt = other := by
  obtain ⟨hword, hoffset⟩ := h
  obtain ⟨hotherWord, hotherOffset⟩ := hother
  unfold sytToFieldTicks kTicksPerCycle at *
  omega

/-- The offset that is kept puts the presentation time behind the cycle of the packet. -/
lemma computeReplaySytOffset_spec (h : IsSyt syt) (source : ℕ)
    (hdelay : transferDelayTicks ≤ kSytFieldDomainTicks) :
    computeReplaySytOffset syt source transferDelayTicks + transferDelayTicks <
        2 * kSytFieldDomainTicks ∧
      (computeReplaySytOffset syt source transferDelayTicks + transferDelayTicks +
        (decodeCycleTimer source).cycle * kTicksPerCycle) % kSytFieldDomainTicks =
          sytToFieldTicks syt := by
  obtain ⟨hword, hoffset⟩ := h
  unfold computeReplaySytOffset
  rw [if_neg (IsSyt.ne_noInfo ⟨hword, hoffset⟩)]
  generalize (decodeCycleTimer source).cycle = cycle
  dsimp only
  -- cycles from the packet to the presentation time
  generalize hrelative : (if syt / 2 ^ 12 % 16 < cycle % 16 then syt / 2 ^ 12 % 16 + kSytCycleModulus
    else syt / 2 ^ 12 % 16) - cycle % 16 = relative
  have hcycles : relative < 16 ∧ (relative + cycle) % 16 = syt / 2 ^ 12 % 16 := by
    subst hrelative
    unfold kSytCycleModulus
    split_ifs <;> omega
  unfold sytToFieldTicks
  rw [← hcycles.2]
  split_ifs with hbefore
  · simp only [kSytFieldDomainTicks, kSytCycleModulus, kTicksPerCycle] at *
    have hkept : (relative * 3072 + syt % 2 ^ 12 + 16 * 3072 + 2 ^ 32 - transferDelayTicks) % 2 ^ 32 +
        transferDelayTicks = relative * 3072 + syt % 2 ^ 12 + 16 * 3072 := by omega
    rw [hkept]
    omega
  · simp only [kSytFieldDomainTicks, kSytCycleModulus, kTicksPerCycle] at *
    have hkept : (relative * 3072 + syt % 2 ^ 12 + 2 ^ 32 - transferDelayTicks) % 2 ^ 32 +
        transferDelayTicks = relative * 3072 + syt % 2 ^ 12 := by omega
    rw [hkept]
    omega

/-- The SYT that is sent has the kept offset after the cycle it is sent in. -/
lemma computeReplaySyt_spec (output : ℕ) (hword : sytOffset + transferDelayTicks < 2 ^ 32)
    (hsome : sytOffset ≠ kNoOffset) :
    IsSyt (computeReplaySyt sytOffset output transferDelayTicks) ∧
      sytToFieldTicks (computeReplaySyt sytOffset output transferDelayTicks) =
        (sytOffset + transferDelayTicks + (decodeCycleTimer output).cycle * kTicksPerCycle) %
          kSytFieldDomainTicks := by
  unfold computeReplaySyt
  rw [if_neg hsome, Nat.mod_eq_of_lt hword]
  generalize sytOffset + transferDelayTicks = presentationOffset
  generalize (decodeCycleTimer output).cycle = cycle
  dsimp only
  have hlt := Nat.mod_lt presentationOffset (show 0 < kTicksPerCycle by decide)
  refine ⟨⟨?_, ?_⟩, ?_⟩
  · unfold kTicksPerCycle at *
    omega
  · unfold kTicksPerCycle at *
    omega
  · simp only [sytToFieldTicks, kSytFieldDomainTicks, kSytCycleModulus, kTicksPerCycle] at *
    omega

lemma normalizeOffsetDomain_eq (ticks : ℤ) :
    normalizeOffsetDomain ticks = ticks % kEightSecondTicks := by
  have hpos : 0 < kEightSecondTicks := by norm_num [kEightSecondTicks, kTicksPerSecond]
  have hlow := Int.emod_nonneg ticks hpos.ne'
  have hhigh := Int.emod_lt_of_pos ticks hpos
  have hzero : kEightSecondTicks ∣ ticks → ticks % kEightSecondTicks = 0 := Int.emod_eq_zero_of_dvd
  unfold normalizeOffsetDomain
  rw [Int.tmod_eq_emod]
  split_ifs with hneg hnonneg
  · omega
  · omega
  · omega
  · omega

/-- The cycle of a tick, on either side of zero and of the eight seconds. -/
lemma normalizeOffsetDomain_cycle (ticks : ℤ) :
    ((normalizeOffsetDomain ticks).toNat % kTicksPerSecond / kTicksPerCycle : ℕ) =
      ticks / kTicksPerCycle % kCyclesPerSecond := by
  rw [normalizeOffsetDomain_eq]
  simp only [kEightSecondTicks, kTicksPerSecond, kTicksPerCycle, kCyclesPerSecond]
  omega

/-- The cycle of the timer is all that the SYT takes from it. -/
lemma computeReplaySyt_congr {cycleTimer cycleTimer' : ℕ}
    (h : (decodeCycleTimer cycleTimer).cycle = (decodeCycleTimer cycleTimer').cycle) :
    computeReplaySyt sytOffset cycleTimer transferDelayTicks =
      computeReplaySyt sytOffset cycleTimer' transferDelayTicks := by
  unfold computeReplaySyt
  rw [h]

lemma computeReplaySytFromTicks_eq {ticks : ℤ}
    (h : ((decodeCycleTimer output).cycle : ℤ) = ticks / kTicksPerCycle % kCyclesPerSecond) :
    computeReplaySytFromTicks sytOffset ticks transferDelayTicks =
      computeReplaySyt sytOffset output transferDelayTicks := by
  unfold computeReplaySytFromTicks
  apply computeReplaySyt_congr
  have hcycle := normalizeOffsetDomain_cycle ticks
  rw [normalizeOffsetDomain_eq] at *
  have hlt : ((ticks % kEightSecondTicks).toNat : ℤ) < kEightSecondTicks := by
    have hpos : 0 < kEightSecondTicks := by norm_num [kEightSecondTicks, kTicksPerSecond]
    have hhigh := Int.emod_lt_of_pos ticks hpos
    omega
  generalize (ticks % kEightSecondTicks).toNat = normalized at *
  rw [decode_encode]
  · dsimp only
    omega
  · simp only [kEightSecondTicks, kTicksPerSecond] at *
    omega
  · simp only [kTicksPerSecond, kTicksPerCycle]
    omega
  · simp only [kTicksPerSecond, kTicksPerCycle]
    omega

/-- A presentation time is replayed as an exact shift: into the cycle it came from it goes back
unchanged, into any other cycle it moves by the distance of the two cycles; and a cycle given in
ticks, of any sign, is the cycle of its timer. -/
theorem replay_shift (hsyt : IsSyt syt) (hdelay : transferDelayTicks ≤ kSytFieldDomainTicks)
    (source : ℕ) :
    computeReplaySyt (computeReplaySytOffset syt source transferDelayTicks) source
        transferDelayTicks = syt ∧
      (∀ output, (sytToFieldTicks (computeReplaySyt
          (computeReplaySytOffset syt source transferDelayTicks) output transferDelayTicks) : ℤ) ≡
        sytToFieldTicks syt +
          ((decodeCycleTimer output).cycle - (decodeCycleTimer source).cycle) * kTicksPerCycle
            [ZMOD kSytFieldDomainTicks]) ∧
      ∀ (sytOffset : ℕ) (ticks : ℤ) (output delay : ℕ),
        ((decodeCycleTimer output).cycle : ℤ) = ticks / kTicksPerCycle % kCyclesPerSecond →
        computeReplaySytFromTicks sytOffset ticks delay =
          computeReplaySyt sytOffset output delay := by
  obtain ⟨hbound, hkept⟩ := computeReplaySytOffset_spec hsyt source hdelay
  generalize computeReplaySytOffset syt source transferDelayTicks = sytOffset at *
  have hdomain : kSytFieldDomainTicks = 49152 := rfl
  have hword : sytOffset + transferDelayTicks < 2 ^ 32 := by omega
  have hsome : sytOffset ≠ kNoOffset := by
    unfold kNoOffset
    omega
  refine ⟨?_, fun output => ?_, ?_⟩
  · obtain ⟨hsent, hticks⟩ := computeReplaySyt_spec source hword hsome
    exact hsent.ext hsyt (hticks.trans hkept)
  · obtain ⟨-, hticks⟩ := computeReplaySyt_spec output hword hsome
    rw [hticks, ← hkept]
    push_cast
    apply (Int.mod_modEq _ _).trans
    refine Int.ModEq.trans ?_ ((Int.mod_modEq _ _).symm.add_right _)
    have hsum : (sytOffset : ℤ) + transferDelayTicks +
        (decodeCycleTimer output).cycle * kTicksPerCycle =
      sytOffset + transferDelayTicks + (decodeCycleTimer source).cycle * kTicksPerCycle +
        ((decodeCycleTimer output).cycle - (decodeCycleTimer source).cycle) * kTicksPerCycle := by
      ring
    rw [hsum]
  · intro sytOffset ticks output delay h
    exact computeReplaySytFromTicks_eq h

/-- The last SYT of the field, received in the last cycle of a second under the longest delay and
sent in the first cycle of the next second, moves by one cycle. -/
theorem replay_shift_over_second :
    (sytToFieldTicks (computeReplaySyt
      (computeReplaySytOffset 0xFBFF (encodeCycleTimer 7 7999 0) 49152)
      (encodeCycleTimer 0 0 0) 49152) : ℤ) ≡ sytToFieldTicks 0xFBFF + 3072 [ZMOD 49152] := by
  have hsyt : IsSyt 0xFBFF := ⟨by decide, by decide⟩
  have hshift := (replay_shift hsyt (le_refl kSytFieldDomainTicks) (encodeCycleTimer 7 7999 0)).2.1
    (encodeCycleTimer 0 0 0)
  have hturns : sytToFieldTicks 0xFBFF + ((decodeCycleTimer (encodeCycleTimer 0 0 0)).cycle -
      (decodeCycleTimer (encodeCycleTimer 7 7999 0)).cycle) * kTicksPerCycle ≡
        (sytToFieldTicks 0xFBFF : ℤ) + 3072 [ZMOD kSytFieldDomainTicks] := by decide
  exact hshift.trans hturns

end ASFireWire.AudioRx
