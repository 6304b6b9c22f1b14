import ASFireWire.AmdtpTxPacketizer
import ASFireWire.RateAccumulators

/-! The blocking cadence (`Audio/Wire/AMDTP/AmdtpCadence.cpp`) in the machine words it is computed
in, and the rational accumulator of frames it stands for. -/
namespace ASFireWire.AMDTP.Words

open RateAccumulators

def kTicksPerCycle : UInt64 := 3072

def kTicksPerSecond : UInt64 := 24576000

def kNoSytOffset : UInt16 := 0xFFFF

structure RationalBlockingDecision where
  isData : Bool := false
  dataBlocks : UInt8 := 0
  sytOffsetTicks : UInt16 := kNoSytOffset
  deriving DecidableEq

structure RationalBlockingCadence where
  denominator : UInt32 := 0
  sytInterval : UInt8 := 0
  cycleSpanSubticks : UInt64 := 0
  stepSubticks : UInt64 := 0
  initialDeadlineSubticks : UInt64 := 0
  deadlineSubticks : UInt64 := 0
  totalCycles : UInt64 := 0
  deriving DecidableEq

namespace RationalBlockingCadence

def reset (c : RationalBlockingCadence) : RationalBlockingCadence :=
  { c with deadlineSubticks := c.initialDeadlineSubticks, totalCycles := 0 }

def configure (sampleRateHz : UInt32) (sytInterval : UInt8) (initialDeadlineSubticks : UInt64) :
    RationalBlockingCadence × Bool :=
  if sampleRateHz = 0 ∨ sytInterval = 0 then ({}, false)
  else
    let cycleSpan := kTicksPerCycle * sampleRateHz.toUInt64
    let step := kTicksPerSecond * sytInterval.toUInt64
    if step < cycleSpan then ({}, false)
    else
      ({ denominator := sampleRateHz
         sytInterval := sytInterval
         cycleSpanSubticks := cycleSpan
         stepSubticks := step
         initialDeadlineSubticks := initialDeadlineSubticks : RationalBlockingCadence }.reset, true)

def isConfigured (c : RationalBlockingCadence) : Bool := c.denominator ≠ 0

def currentDecision (c : RationalBlockingCadence) : RationalBlockingDecision :=
  if c.isConfigured = false ∨ c.cycleSpanSubticks ≤ c.deadlineSubticks then {}
  else
    { isData := true
      dataBlocks := c.sytInterval
      sytOffsetTicks := (c.deadlineSubticks / c.denominator.toUInt64).toUInt16 }

def advanceCycle (c : RationalBlockingCadence) : RationalBlockingCadence :=
  if c.isConfigured = false then c
  else
    { c with
      deadlineSubticks :=
        (if c.deadlineSubticks < c.cycleSpanSubticks then c.deadlineSubticks + c.stepSubticks
          else c.deadlineSubticks) - c.cycleSpanSubticks
      totalCycles := c.totalCycles + 1 }

/-- Only the deadline and the count move. -/
lemma advanceCycle_fields {c : RationalBlockingCadence} (hconfigured : c.isConfigured = true) :
    c.advanceCycle.denominator = c.denominator ∧ c.advanceCycle.sytInterval = c.sytInterval ∧
      c.advanceCycle.cycleSpanSubticks = c.cycleSpanSubticks ∧
      c.advanceCycle.stepSubticks = c.stepSubticks ∧
      c.advanceCycle.totalCycles = c.totalCycles + 1 := by
  unfold advanceCycle
  rw [if_neg (by simp [hconfigured])]
  exact ⟨rfl, rfl, rfl, rfl, rfl⟩

end RationalBlockingCadence

def accumulatorEquivalentSeedSubticks (sytIntervalFrames : UInt8) : UInt64 :=
  kTicksPerSecond * sytIntervalFrames.toUInt64 - kTicksPerCycle

structure BlockingCadence where
  engine : RationalBlockingCadence
  deriving DecidableEq

namespace BlockingCadence

def configure (sampleRateHz : UInt32) (sytIntervalFrames : UInt8) : BlockingCadence × Bool :=
  let configured := RationalBlockingCadence.configure sampleRateHz sytIntervalFrames
    (accumulatorEquivalentSeedSubticks sytIntervalFrames)
  (⟨configured.1⟩, configured.2)

def currentCycleIsData (c : BlockingCadence) : Bool := c.engine.currentDecision.isData

def currentCycleDataFrames (c : BlockingCadence) : UInt8 := c.engine.currentDecision.dataBlocks

def advanceCycle (c : BlockingCadence) : BlockingCadence := ⟨c.engine.advanceCycle⟩

/-- The cadence after `n` cycles. -/
def after (c : BlockingCadence) (n : ℕ) : BlockingCadence := advanceCycle^[n] c

/-- How many of the first `n` cycles carry data. -/
def dataCycles (c : BlockingCadence) (n : ℕ) : ℕ :=
  (List.range n).countP fun i => (c.after i).currentCycleIsData

lemma after_succ (c : BlockingCadence) (n : ℕ) : c.after (n + 1) = (c.after n).advanceCycle :=
  Function.iterate_succ_apply' advanceCycle n c

end BlockingCadence

/-! ### The accumulator of frames -/

/-- Frames pending before cycle `n`: each cycle brings its share, and a block is taken as soon as
it is complete. -/
def pendingFrames (sampleRateHz : UInt32) (sytInterval : UInt8) : ℕ → ℚ
  | 0 => 0
  | n + 1 =>
    let pending := pendingFrames sampleRateHz sytInterval n + sampleRateHz.toNat / 8000
    if sytInterval.toNat ≤ pending then pending - sytInterval.toNat else pending

variable {rate : UInt32} {interval : UInt8}

/-- The accumulator, counted in frames per second of cycles. -/
lemma pendingFrames_eq (n : ℕ) :
    pendingFrames rate interval n = residue rate.toNat (8000 * interval.toNat) n / 8000 := by
  induction n with
  | zero => simp [pendingFrames, residue]
  | succ n ih =>
    have hadd : (residue rate.toNat (8000 * interval.toNat) n : ℚ) / 8000 + rate.toNat / 8000 =
        (residue rate.toNat (8000 * interval.toNat) n + rate.toNat : ℕ) / 8000 := by
      push_cast
      ring
    unfold pendingFrames residue
    dsimp only
    rw [ih, hadd]
    by_cases hgives : 8000 * interval.toNat ≤ residue rate.toNat (8000 * interval.toNat) n + rate.toNat
    · have hle : (interval.toNat : ℚ) ≤
          (residue rate.toNat (8000 * interval.toNat) n + rate.toNat : ℕ) / 8000 := by
        rw [le_div_iff₀ (by norm_num), mul_comm]
        exact_mod_cast hgives
      rw [if_pos hle, if_pos hgives, Nat.cast_sub hgives]
      push_cast
      ring
    · have hlt : ¬(interval.toNat : ℚ) ≤
          (residue rate.toNat (8000 * interval.toNat) n + rate.toNat : ℕ) / 8000 := by
        rw [le_div_iff₀ (by norm_num), mul_comm]
        exact_mod_cast hgives
      rw [if_neg hlt, if_neg hgives]

/-! ### The deadline follows the accumulator -/

lemma toNat_cycleSpan (rate : UInt32) :
    (kTicksPerCycle * rate.toUInt64).toNat = 3072 * rate.toNat := by
  have hlt := rate.toNat_lt
  have hspan : kTicksPerCycle.toNat = 3072 := rfl
  rw [UInt64.toNat_mul, hspan, UInt32.toNat_toUInt64]
  omega

lemma toNat_step (interval : UInt8) :
    (kTicksPerSecond * interval.toUInt64).toNat = 3072 * (8000 * interval.toNat) := by
  have hlt := interval.toNat_lt
  have hstep : kTicksPerSecond.toNat = 24576000 := rfl
  rw [UInt64.toNat_mul, hstep, UInt8.toNat_toUInt64]
  omega

lemma toNat_seed (h : 0 < interval.toNat) :
    (accumulatorEquivalentSeedSubticks interval).toNat = 3072 * (8000 * interval.toNat - 1) := by
  have hstep := toNat_step interval
  have hcycle : kTicksPerCycle.toNat = 3072 := rfl
  unfold accumulatorEquivalentSeedSubticks
  rw [UInt64.toNat_sub_of_le, hstep, hcycle]
  · omega
  · rw [UInt64.le_iff_toNat_le, hstep, hcycle]
    omega

/-- At most one block is due in a cycle. -/
structure Schedulable (rate : UInt32) (interval : UInt8) : Prop where
  rate_pos : 0 < rate.toNat
  le : rate.toNat ≤ 8000 * interval.toNat

namespace Schedulable

variable (h : Schedulable rate interval)
include h

lemma interval_pos : 0 < interval.toNat := by
  have hrate := h.rate_pos
  have hle := h.le
  omega

lemma residue_lt (n : ℕ) :
    residue rate.toNat (8000 * interval.toNat) n < 8000 * interval.toNat :=
  RateAccumulators.residue_lt h.le (by have := h.interval_pos; omega) n

end Schedulable

/-- The engine before cycle `n`: its deadline is what the accumulator lacks of a block, less the
subtick of the seed. -/
structure RationalBlockingCadence.Follows (rate : UInt32) (interval : UInt8) (n : ℕ)
    (c : RationalBlockingCadence) : Prop where
  denominator : c.denominator = rate
  sytInterval : c.sytInterval = interval
  span : c.cycleSpanSubticks.toNat = 3072 * rate.toNat
  step : c.stepSubticks.toNat = 3072 * (8000 * interval.toNat)
  deadline : c.deadlineSubticks.toNat =
    3072 * (8000 * interval.toNat - 1 - residue rate.toNat (8000 * interval.toNat) n)
  cycles : c.totalCycles = UInt64.ofNat n

lemma configure_schedulable (h : Schedulable rate interval) :
    (BlockingCadence.configure rate interval).2 = true ∧
      (BlockingCadence.configure rate interval).1.engine.Follows rate interval 0 := by
  have hrate : rate ≠ 0 := by
    rintro rfl
    exact absurd h.rate_pos (by decide)
  have hinterval : interval ≠ 0 := by
    rintro rfl
    exact absurd h.interval_pos (by decide)
  have hfits : ¬kTicksPerSecond * interval.toUInt64 < kTicksPerCycle * rate.toUInt64 := by
    have hle := h.le
    rw [UInt64.lt_iff_toNat_lt, toNat_step, toNat_cycleSpan]
    omega
  unfold BlockingCadence.configure RationalBlockingCadence.configure
  dsimp only
  rw [if_neg (not_or.mpr ⟨hrate, hinterval⟩), if_neg hfits]
  refine ⟨rfl, rfl, rfl, toNat_cycleSpan rate, toNat_step interval, ?_, rfl⟩
  exact (toNat_seed h.interval_pos).trans (by rfl)

lemma configure_not_schedulable (h : ¬Schedulable rate interval) :
    BlockingCadence.configure rate interval = (⟨{}⟩, false) := by
  unfold BlockingCadence.configure RationalBlockingCadence.configure
  by_cases hzero : rate = 0 ∨ interval = 0
  · rw [if_pos hzero]
  · rw [if_neg hzero]
    dsimp only
    rw [if_pos]
    rw [UInt64.lt_iff_toNat_lt, toNat_step, toNat_cycleSpan]
    by_contra hle
    apply h
    constructor
    · apply Nat.pos_of_ne_zero
      intro hrate
      exact hzero (Or.inl (UInt32.toNat_inj.mp hrate))
    · omega

/-- The advance of the deadline by a whole cycle neither overflows nor underflows. -/
def RationalBlockingCadence.AdvancesExactly (c : RationalBlockingCadence) : Prop :=
  let due := c.deadlineSubticks.toNat + if c.currentDecision.isData then c.stepSubticks.toNat else 0
  due < 2 ^ 64 ∧ c.cycleSpanSubticks.toNat ≤ due ∧
    c.advanceCycle.deadlineSubticks.toNat + c.cycleSpanSubticks.toNat = due

namespace RationalBlockingCadence.Follows

variable {n : ℕ} {c : RationalBlockingCadence} (h : c.Follows rate interval n)
  (hs : Schedulable rate interval)
include h hs

lemma isConfigured : c.isConfigured = true := by
  have hrate : rate ≠ 0 := by
    rintro rfl
    exact absurd hs.rate_pos (by decide)
  simp [RationalBlockingCadence.isConfigured, h.denominator, hrate]

/-- The deadline falls into the cycle exactly when a block is complete. -/
lemma due_iff : c.deadlineSubticks < c.cycleSpanSubticks ↔
    Gives rate.toNat (8000 * interval.toNat) n := by
  have hresidue := hs.residue_lt n
  rw [UInt64.lt_iff_toNat_lt, h.deadline, h.span]
  unfold Gives
  omega

lemma isData_iff : c.currentDecision.isData = true ↔ Gives rate.toNat (8000 * interval.toNat) n := by
  rw [← h.due_iff hs]
  unfold currentDecision
  by_cases hdue : c.deadlineSubticks < c.cycleSpanSubticks
  · rw [if_neg (by simp [h.isConfigured hs, hdue])]
    exact iff_of_true rfl hdue
  · rw [if_pos (Or.inr (UInt64.not_lt.mp hdue))]
    exact iff_of_false (by simp) hdue

lemma sytOffsetTicks_lt (hdata : c.currentDecision.isData = true) :
    c.currentDecision.sytOffsetTicks.toNat < 3072 := by
  have hdue := (h.due_iff hs).mpr ((h.isData_iff hs).mp hdata)
  have hlt : c.deadlineSubticks.toNat / rate.toNat < 3072 := by
    rw [Nat.div_lt_iff_lt_mul hs.rate_pos, ← h.span]
    exact UInt64.lt_iff_toNat_lt.mp hdue
  unfold currentDecision
  rw [if_neg (by simp [h.isConfigured hs, hdue])]
  dsimp only
  rw [UInt64.toNat_toUInt16, UInt64.toNat_div, UInt32.toNat_toUInt64, h.denominator]
  exact (Nat.mod_le _ _).trans_lt hlt

lemma advancesExactly : c.AdvancesExactly := by
  have hstep := toNat_step interval
  have hlt := (kTicksPerSecond * interval.toUInt64).toNat_lt
  have hresidue := hs.residue_lt n
  have hle := hs.le
  have hinterval := interval.toNat_lt
  have hnext : c.advanceCycle.deadlineSubticks = (if c.deadlineSubticks < c.cycleSpanSubticks then
      c.deadlineSubticks + c.stepSubticks else c.deadlineSubticks) - c.cycleSpanSubticks := by
    unfold advanceCycle
    rw [if_neg (by simp [h.isConfigured hs])]
  unfold AdvancesExactly
  dsimp only
  rw [hnext]
  by_cases hgives : Gives rate.toNat (8000 * interval.toNat) n
  · rw [if_pos ((h.isData_iff hs).mpr hgives), if_pos ((h.due_iff hs).mpr hgives)]
    have hsum : (c.deadlineSubticks + c.stepSubticks).toNat =
        c.deadlineSubticks.toNat + c.stepSubticks.toNat := by
      rw [UInt64.toNat_add, h.deadline, h.step]
      omega
    have hspan : c.cycleSpanSubticks ≤ c.deadlineSubticks + c.stepSubticks := by
      rw [UInt64.le_iff_toNat_le, hsum, h.span, h.step]
      omega
    rw [UInt64.toNat_sub_of_le _ _ hspan, hsum]
    rw [UInt64.le_iff_toNat_le, hsum] at hspan
    rw [h.deadline, h.step, h.span] at *
    omega
  · rw [if_neg (mt (h.isData_iff hs).mp hgives), if_neg (mt (h.due_iff hs).mp hgives)]
    have hspan := UInt64.not_lt.mp (mt (h.due_iff hs).mp hgives)
    rw [UInt64.toNat_sub_of_le _ _ hspan]
    rw [UInt64.le_iff_toNat_le] at hspan
    rw [h.deadline, h.span] at *
    omega

lemma advanceCycle : c.advanceCycle.Follows rate interval (n + 1) := by
  obtain ⟨-, -, hdeadline⟩ := h.advancesExactly hs
  have hgives := h.isData_iff hs
  have hresidue := hs.residue_lt n
  obtain ⟨hdenominator, hinterval, hspan, hstep, hcycles⟩ :=
    advanceCycle_fields (h.isConfigured hs)
  constructor
  · rw [hdenominator, h.denominator]
  · rw [hinterval, h.sytInterval]
  · rw [hspan, h.span]
  · rw [hstep, h.step]
  · rw [h.deadline, h.span, h.step] at hdeadline
    by_cases hdata : Gives rate.toNat (8000 * interval.toNat) n
    · rw [if_pos (hgives.mpr hdata)] at hdeadline
      have hnext := residue_of_gives hdata
      unfold Gives at hdata
      omega
    · rw [if_neg (mt hgives.mp hdata)] at hdeadline
      rw [residue_of_not_gives hdata]
      unfold Gives at hdata
      omega
  · rw [hcycles, h.cycles]
    simp

end RationalBlockingCadence.Follows

/-! ### Every cycle of a configured cadence -/

lemma follows_after (hs : Schedulable rate interval) (n : ℕ) :
    ((BlockingCadence.configure rate interval).1.after n).engine.Follows rate interval n := by
  induction n with
  | zero => exact (configure_schedulable hs).2
  | succ n ih =>
    rw [BlockingCadence.after_succ]
    exact ih.advanceCycle hs

lemma dataCycles_eq (hs : Schedulable rate interval) (n : ℕ) :
    (BlockingCadence.configure rate interval).1.dataCycles n =
      n * rate.toNat / (8000 * interval.toNat) := by
  have hpos := hs.interval_pos
  rw [← given_eq hs.le (by omega) n]
  unfold BlockingCadence.dataCycles given
  apply List.countP_congr
  intro i _
  rw [decide_eq_true_eq]
  exact (follows_after hs i).isData_iff hs

/-- The test of the accumulator, on whole numbers. -/
lemma gives_iff (n : ℕ) : Gives rate.toNat (8000 * interval.toNat) n ↔
    (interval.toNat : ℚ) ≤ pendingFrames rate interval n + rate.toNat / 8000 := by
  have hadd : (residue rate.toNat (8000 * interval.toNat) n : ℚ) / 8000 + rate.toNat / 8000 =
      (residue rate.toNat (8000 * interval.toNat) n + rate.toNat : ℕ) / 8000 := by
    push_cast
    ring
  rw [pendingFrames_eq, hadd, le_div_iff₀ (by norm_num), mul_comm]
  unfold Gives
  exact_mod_cast Iff.rfl

lemma after_unconfigured (n : ℕ) : (⟨{}⟩ : BlockingCadence).after n = ⟨{}⟩ := by
  induction n with
  | zero => rfl
  | succ n ih =>
    rw [BlockingCadence.after_succ, ih]
    rfl

/-- The cadence is exact for ever: when at most one block is due in a cycle, the first `n` cycles
carry the whole blocks that have become due in them, each as soon as it is complete, at an offset
within its cycle and without a word running over; otherwise nothing is ever sent. -/
theorem blockingCadence_exact (rate : UInt32) (interval : UInt8) :
    let c : BlockingCadence × Bool := BlockingCadence.configure rate interval
    (0 < rate.toNat ∧ rate.toNat ≤ 8000 * interval.toNat → c.2 = true ∧ ∀ n,
      c.1.dataCycles n = n * rate.toNat / (8000 * interval.toNat) ∧
      ((c.1.after n).currentCycleIsData = true ↔
        (interval.toNat : ℚ) ≤ pendingFrames rate interval n + rate.toNat / 8000) ∧
      ((c.1.after n).currentCycleIsData = true →
        (c.1.after n).engine.currentDecision.sytOffsetTicks.toNat < 3072) ∧
      (c.1.after n).engine.AdvancesExactly) ∧
    (¬(0 < rate.toNat ∧ rate.toNat ≤ 8000 * interval.toNat) → c.2 = false ∧ ∀ n,
      (c.1.after n).currentCycleIsData = false) := by
  constructor
  · rintro ⟨hrate, hle⟩
    have hs : Schedulable rate interval := ⟨hrate, hle⟩
    refine ⟨(configure_schedulable hs).1, fun n => ?_⟩
    have hn := follows_after hs n
    refine ⟨dataCycles_eq hs n, ?_, hn.sytOffsetTicks_lt hs, hn.advancesExactly hs⟩
    exact (hn.isData_iff hs).trans (gives_iff n)
  · intro h
    have hinert := configure_not_schedulable fun hs : Schedulable rate interval =>
      h ⟨hs.rate_pos, hs.le⟩
    rw [hinert]
    refine ⟨rfl, fun n => ?_⟩
    rw [after_unconfigured]
    rfl

/-- At 44.1 kHz the first 640 cycles carry 441 packets, and none of them early. -/
theorem blockingCadence_44100 :
    (BlockingCadence.configure 44100 8).1.dataCycles 640 = 441 ∧
      ∀ n, (BlockingCadence.configure 44100 8).1.dataCycles n = n * 44100 / 64000 := by
  have hexact := ((blockingCadence_exact 44100 8).1 ⟨by decide, by decide⟩).2
  exact ⟨(hexact 640).1, fun n => (hexact n).1⟩

/-! ### The cadence of the packetizer -/

/-- The same engine in natural numbers, as the packetizer has it. -/
structure RationalBlockingCadence.Matches (c : RationalBlockingCadence)
    (c' : AMDTP.RationalBlockingCadence) : Prop where
  denominator : c'.denominator = c.denominator.toNat
  sytInterval : c'.sytInterval = c.sytInterval.toNat
  span : c'.cycleSpanSubticks = c.cycleSpanSubticks.toNat
  step : c'.stepSubticks = c.stepSubticks.toNat
  deadline : c'.deadlineSubticks = c.deadlineSubticks.toNat

namespace RationalBlockingCadence.Matches

variable {c : RationalBlockingCadence} {c' : AMDTP.RationalBlockingCadence} (h : c.Matches c')
include h

lemma isData : c'.currentIsData = c.currentDecision.isData := by
  have hconfigured : c.denominator.toNat = 0 ↔ c.denominator = 0 := UInt32.toNat_inj (b := 0)
  unfold AMDTP.RationalBlockingCadence.currentIsData currentDecision isConfigured
  rw [h.denominator, h.deadline, h.span]
  by_cases hzero : c.denominator = 0
  · simp [hzero]
  · by_cases hdue : c.deadlineSubticks < c.cycleSpanSubticks
    · have hlt := UInt64.lt_iff_toNat_lt.mp hdue
      simp [hzero, UInt64.not_le.mpr hdue, hlt, hconfigured]
    · have hlt := mt UInt64.lt_iff_toNat_lt.mpr hdue
      simp [hlt, UInt64.not_lt.mp hdue]

lemma advanceCycle (hconfigured : c.isConfigured = true) (hexact : c.AdvancesExactly) :
    c.advanceCycle.Matches c'.advanceCycle := by
  obtain ⟨-, -, hdeadline⟩ := hexact
  have hdata := h.isData
  have hnonzero : c'.denominator ≠ 0 := by
    rw [h.denominator]
    intro hzero
    have hzero' : c.denominator = 0 := UInt32.toNat_inj.mp hzero
    simp [isConfigured, hzero'] at hconfigured
  have hdue : c.currentDecision.isData = true ↔ c'.deadlineSubticks < c'.cycleSpanSubticks := by
    rw [← hdata]
    simp [AMDTP.RationalBlockingCadence.currentIsData, hnonzero]
  have hnext : c'.advanceCycle.deadlineSubticks = c.advanceCycle.deadlineSubticks.toNat := by
    unfold AMDTP.RationalBlockingCadence.advanceCycle
    rw [if_neg hnonzero]
    dsimp only
    by_cases hlt : c'.deadlineSubticks < c'.cycleSpanSubticks
    · rw [if_pos (hdue.mpr hlt)] at hdeadline
      rw [if_pos hlt, h.deadline, h.step, h.span]
      omega
    · rw [if_neg (mt hdue.mp hlt)] at hdeadline
      rw [if_neg hlt, h.deadline, h.span]
      omega
  have hfields' : c'.advanceCycle.denominator = c'.denominator ∧
      c'.advanceCycle.sytInterval = c'.sytInterval ∧
      c'.advanceCycle.cycleSpanSubticks = c'.cycleSpanSubticks ∧
      c'.advanceCycle.stepSubticks = c'.stepSubticks := by
    unfold AMDTP.RationalBlockingCadence.advanceCycle
    rw [if_neg hnonzero]
    exact ⟨rfl, rfl, rfl, rfl⟩
  obtain ⟨hdenominator, hinterval, hspan, hstep, -⟩ := advanceCycle_fields hconfigured
  obtain ⟨hdenominator', hinterval', hspan', hstep'⟩ := hfields'
  constructor
  · rw [hdenominator, hdenominator', h.denominator]
  · rw [hinterval, hinterval', h.sytInterval]
  · rw [hspan, hspan', h.span]
  · rw [hstep, hstep', h.step]
  · exact hnext

end RationalBlockingCadence.Matches

lemma configure_matches (hs : Schedulable rate interval) :
    ∃ c', AMDTP.RationalBlockingCadence.configure rate.toNat interval.toNat
        (AMDTP.accumulatorEquivalentSeedSubticks interval.toNat) = some c' ∧
      (BlockingCadence.configure rate interval).1.engine.Matches c' := by
  have hstart := (configure_schedulable hs).2
  have hpos := hs.interval_pos
  have hrate := hs.rate_pos
  have hle := hs.le
  unfold AMDTP.RationalBlockingCadence.configure
  rw [if_neg (by omega), if_neg (by unfold AMDTP.kTicksPerSecond AMDTP.kTicksPerCycle; omega)]
  refine ⟨_, rfl, ?_⟩
  constructor
  · rw [hstart.denominator]
  · rw [hstart.sytInterval]
  · exact hstart.span.symm
  · rw [hstart.step]
    change 24576000 * interval.toNat = _
    omega
  · rw [hstart.deadline]
    change 24576000 * interval.toNat - 3072 = _
    unfold residue
    omega

/-- The packetizer's cadence has data in the same cycles. -/
theorem packetizer_cadence (hs : Schedulable rate interval) :
    ∃ c', AMDTP.RationalBlockingCadence.configure rate.toNat interval.toNat
        (AMDTP.accumulatorEquivalentSeedSubticks interval.toNat) = some c' ∧
      ∀ n, (AMDTP.RationalBlockingCadence.advanceCycle^[n] c').currentIsData =
        ((BlockingCadence.configure rate interval).1.after n).currentCycleIsData := by
  obtain ⟨c', hc', hstart⟩ := configure_matches hs
  refine ⟨c', hc', fun n => ?_⟩
  have hmatches : ((BlockingCadence.configure rate interval).1.after n).engine.Matches
      (AMDTP.RationalBlockingCadence.advanceCycle^[n] c') := by
    induction n with
    | zero => exact hstart
    | succ n ih =>
      rw [BlockingCadence.after_succ, Function.iterate_succ_apply']
      have hn := follows_after hs n
      exact ih.advanceCycle (hn.isConfigured hs) (hn.advancesExactly hs)
  exact hmatches.isData

theorem packetizer_cadence_44100 :
    ∃ c', AMDTP.RationalBlockingCadence.configure 44100 8
        (AMDTP.accumulatorEquivalentSeedSubticks 8) = some c' ∧
      ∀ n, (AMDTP.RationalBlockingCadence.advanceCycle^[n] c').currentIsData =
        ((BlockingCadence.configure 44100 8).1.after n).currentCycleIsData :=
  packetizer_cadence (show Schedulable 44100 8 from ⟨by decide, by decide⟩)

end ASFireWire.AMDTP.Words
