import ASFireWire.ObservedRuns
import ASFireWire.RingWindows

/-! The offset cache of the MOTU streams (`Audio/Wire/MOTU/MotuEventOffsetCache.hpp`), each
operation run to completion, so that its checks against an operation running at the same time have
nothing to find; and the bounded queue it is meant to be. -/
namespace ASFireWire.MOTU

open Runs ObservedRuns

/-! ### Source packet headers -/

def kTicksPerCycle : ℕ := 3072

def kCyclesPerSecond : ℕ := 8000

def kTicksPerSecond : ℕ := 24576000

/-- A 13-bit cycle over a 12-bit offset. -/
def tickFromSph (sph : ℕ) : ℕ := sph / 2 ^ 12 % 2 ^ 13 * kTicksPerCycle + sph % 2 ^ 12

def tickOffsetFromBase (sph baseTick : ℕ) : ℕ :=
  (if tickFromSph sph < baseTick then tickFromSph sph + kTicksPerSecond else tickFromSph sph) -
    baseTick

def baseTickForCycle (cycleCount : ℕ) : ℕ := cycleCount % kCyclesPerSecond * kTicksPerCycle

def sphByte (payload : List UInt8) (i : ℕ) : ℕ := (payload[i]?.getD 0).toNat

def readSph (payload : List UInt8) (i : ℕ) : ℕ :=
  sphByte payload i * 2 ^ 24 + sphByte payload (i + 1) * 2 ^ 16 + sphByte payload (i + 2) * 2 ^ 8 +
    sphByte payload (i + 3)

/-! ### The cache -/

def kCapacity : ℕ := 4096

def kNoOffset : ℕ := 2 ^ 32 - 1

structure Slot where
  position : ℕ := 2 ^ 32 - 1
  offset : ℕ := kNoOffset
  deriving DecidableEq, Repr

structure MotuEventOffsetCache where
  slots : ℕ → Slot := fun _ => {}
  epoch : ℕ := 1
  captureCursor : ℕ := 0
  playbackEpoch : ℕ := 1
  playbackCursor : ℕ := 0
  establishedEpoch : ℕ := 0

inductive OffsetCacheTakeResult
  | success | successUnderrunResync | successOverrunResync | notEstablished | notEnoughHistory
  | concurrentReset | concurrentRewrite | invalidRequest
  deriving DecidableEq, Repr

/-- A received packet, as `Capture` gets it. -/
structure CapturedPacket where
  payload : List UInt8
  dbs : UInt32
  dataBlocks : UInt32
  receiveCycle : ℕ
  cipHeaderBytes : ℕ := 8
  deriving DecidableEq, Repr

namespace CapturedPacket

def blockStart (p : CapturedPacket) (block : ℕ) : ℕ := p.cipHeaderBytes + block * (p.dbs.toNat * 4)

def offsetOf (p : CapturedPacket) (block : ℕ) : ℕ :=
  tickOffsetFromBase (readSph p.payload (p.blockStart block)) (baseTickForCycle p.receiveCycle)

/-- The offsets of the blocks the payload holds, from `block` on. -/
def offsetsFrom (p : CapturedPacket) : ℕ → ℕ → List ℕ
  | 0, _ => []
  | left + 1, block =>
    if p.payload.length < p.blockStart block + 4 then []
    else p.offsetOf block :: p.offsetsFrom left (block + 1)

def offsets (p : CapturedPacket) : List ℕ :=
  if p.dbs = 0 then [] else p.offsetsFrom p.dataBlocks.toNat 0

end CapturedPacket

namespace MotuEventOffsetCache

/-- An explicit epoch of zero asks for the next one, which is never zero. -/
def nextEpoch (c : MotuEventOffsetCache) (explicitEpoch : UInt32) : ℕ :=
  if explicitEpoch = 0 then
    if (c.epoch + 1) % 2 ^ 32 = 0 then 1 else (c.epoch + 1) % 2 ^ 32
  else explicitEpoch.toNat

def reset (c : MotuEventOffsetCache) (explicitEpoch : UInt32) : MotuEventOffsetCache :=
  { c with
    epoch := c.nextEpoch explicitEpoch
    captureCursor := 0
    playbackEpoch := c.nextEpoch explicitEpoch
    playbackCursor := 0
    establishedEpoch := 0 }

/-- The loop over the blocks of a packet: the slots, and how many were cached. -/
def captureBlocks (p : CapturedPacket) (cursor : ℕ) : ℕ → ℕ → (ℕ → Slot) → (ℕ → Slot) × ℕ
  | 0, block, slots => (slots, block)
  | left + 1, block, slots =>
    if p.payload.length < p.blockStart block + 4 then (slots, block)
    else
      captureBlocks p cursor left (block + 1)
        (Function.update slots ((cursor + block) % 2 ^ 32 % kCapacity)
          ⟨(cursor + block) % 2 ^ 32, p.offsetOf block⟩)

def capture (c : MotuEventOffsetCache) (p : CapturedPacket) : MotuEventOffsetCache :=
  if p.dbs = 0 ∨ p.dataBlocks = 0 then c
  else
    let (slots, cached) := captureBlocks p c.captureCursor p.dataBlocks.toNat 0 c.slots
    if cached = 0 then { c with slots := slots }
    else
      { c with
        slots := slots
        captureCursor := (c.captureCursor + cached) % 2 ^ 32
        establishedEpoch := c.epoch }

def isEstablished (c : MotuEventOffsetCache) : Bool :=
  c.epoch ≠ 0 && c.establishedEpoch = c.epoch

def toInt32 (v : ℕ) : ℤ := if v < 2 ^ 31 then v else v - 2 ^ 32

/-- Difference of two 32-bit words. -/
def sub32 (a b : ℕ) : ℕ := (a + 2 ^ 32 - b) % 2 ^ 32

/-- The offsets at `requested` positions from `start` on, if the slots still have them. -/
def readRun (slots : ℕ → Slot) : ℕ → ℕ → Option (List ℕ)
  | _, 0 => some []
  | start, requested + 1 =>
    let slot := slots (start % 2 ^ 32 % kCapacity)
    if slot.position ≠ start % 2 ^ 32 then none
    else (readRun slots (start + 1) requested).map (slot.offset :: ·)

/-- Where a run of `requested` starts: at the cursor, or at the newest run when `diff` tells that
too little is unread or that the cursor has left the ring. -/
def takeStart (diff : ℤ) (cursor newest requested : ℕ) : ℕ × OffsetCacheTakeResult :=
  if diff < requested then (newest, .successUnderrunResync)
  else if kCapacity < diff then (newest, .successOverrunResync)
  else (cursor, .success)

def runStart (c : MotuEventOffsetCache) (requested : ℕ) : ℕ × OffsetCacheTakeResult :=
  takeStart (toInt32 (sub32 c.captureCursor c.playbackCursor)) c.playbackCursor
    (sub32 c.captureCursor requested) requested

/-- What an attempt comes to; `none` is a retry. -/
abbrev Attempt := Option (OffsetCacheTakeResult × Option (List ℕ) × MotuEventOffsetCache)

def takeAttempt (c : MotuEventOffsetCache) (requested : ℕ) : Attempt :=
  if c.epoch ≠ c.playbackEpoch then some (.concurrentReset, none, c)
  else if c.captureCursor < requested then some (.notEnoughHistory, none, c)
  else
    match readRun c.slots (c.runStart requested).1 requested with
    | none => none
    | some out =>
      if c.captureCursor < ((c.runStart requested).1 + requested) % 2 ^ 32 ∨
          kCapacity < sub32 c.captureCursor (c.runStart requested).1 then none
      else
        some ((c.runStart requested).2, some out,
          { c with playbackCursor := ((c.runStart requested).1 + requested) % 2 ^ 32 })

def takeAttempts (c : MotuEventOffsetCache) (requested : ℕ) :
    ℕ → OffsetCacheTakeResult × Option (List ℕ) × MotuEventOffsetCache
  | 0 => (.concurrentRewrite, none, c)
  | attempts + 1 =>
    match c.takeAttempt requested with
    | some outcome => outcome
    | none => c.takeAttempts requested attempts

def kMaxAttempts : ℕ := 3

def take (c : MotuEventOffsetCache) (requested : ℕ) :
    OffsetCacheTakeResult × Option (List ℕ) × MotuEventOffsetCache :=
  if requested = 0 ∨ kCapacity < requested then (.invalidRequest, none, c)
  else if c.isEstablished = false then (.notEstablished, none, c)
  else c.takeAttempts requested kMaxAttempts

inductive Operation
  | capture (packet : CapturedPacket)
  | take (requested : ℕ)
  | reset (explicitEpoch : UInt32)

/-- What is seen of an operation: the offsets it returns, and the playback cursor it leaves. -/
def step (c : MotuEventOffsetCache) : Operation →
    MotuEventOffsetCache × Option (List ℕ) × ℕ
  | .capture packet => (c.capture packet, none, (c.capture packet).playbackCursor)
  | .take requested =>
    ((c.take requested).2.2, (c.take requested).2.1, (c.take requested).2.2.playbackCursor)
  | .reset explicitEpoch => (c.reset explicitEpoch, none, (c.reset explicitEpoch).playbackCursor)

end MotuEventOffsetCache

/-! ### What it is for -/

/-- Everything captured since the last reset, oldest first, and how much of it has been passed. -/
structure OffsetQueue where
  captured : List ℕ := []
  passed : ℕ := 0

namespace OffsetQueue

/-- The next `n` if they are among the newest `capacity`, otherwise the newest `n`. -/
def take (q : OffsetQueue) (n : ℕ) : Option (List ℕ) × OffsetQueue :=
  if q.captured.length < n then (none, q)
  else if n ≤ q.captured.length - q.passed ∧ q.captured.length - q.passed ≤ kCapacity then
    (some ((q.captured.drop q.passed).take n), { q with passed := q.passed + n })
  else
    (some (q.captured.drop (q.captured.length - n)), { q with passed := q.captured.length })

def step (q : OffsetQueue) : MotuEventOffsetCache.Operation → OffsetQueue × Option (List ℕ) × ℕ
  | .capture packet =>
    ({ q with captured := q.captured ++ packet.offsets }, none, q.passed % 2 ^ 32)
  | .take n => ((q.take n).2, (q.take n).1, (q.take n).2.passed % 2 ^ 32)
  | .reset _ => ({}, none, 0)

end OffsetQueue

namespace MotuEventOffsetCache

/-! ### The slots hold the newest offsets -/

lemma word_mod_capacity (k : ℕ) : k % 2 ^ 32 % kCapacity = k % kCapacity :=
  Nat.mod_mod_of_dvd k ⟨2 ^ 20, rfl⟩

def Holds (slots : ℕ → Slot) (captured : List ℕ) : Prop :=
  ∀ k offset, captured[k]? = some offset → captured.length ≤ k + kCapacity →
    slots (k % kCapacity) = ⟨k % 2 ^ 32, offset⟩

variable {slots : ℕ → Slot} {captured : List ℕ}

lemma Holds.store (h : Holds slots captured) {position : ℕ}
    (hposition : position % 2 ^ 32 = captured.length % 2 ^ 32) (offset : ℕ) :
    Holds (Function.update slots (position % 2 ^ 32 % kCapacity) ⟨position % 2 ^ 32, offset⟩)
      (captured ++ [offset]) := by
  intro k o hk hwindow
  rw [hposition, word_mod_capacity]
  have hklt : k < captured.length + 1 := by
    simpa using (List.getElem?_eq_some_iff.mp hk).1
  rw [List.length_append, List.length_singleton] at hwindow
  rcases Nat.lt_or_eq_of_le (Nat.le_of_lt_succ hklt) with hlt | heq
  · have hne : k % kCapacity ≠ captured.length % kCapacity := by
      intro hsame
      have := RingWindows.eq_of_mod_eq (L := k) (m := kCapacity) le_rfl (by simp [kCapacity]) hlt.le
        (by omega) hsame
      omega
    rw [Function.update_of_ne hne]
    rw [List.getElem?_append_left hlt] at hk
    exact h k o hk (by omega)
  · subst heq
    rw [Function.update_self]
    rw [List.getElem?_concat_length, Option.some.injEq] at hk
    rw [hk]

lemma captureBlocks_spec (p : CapturedPacket) (cursor left block : ℕ) (h : Holds slots captured)
    (hposition : (cursor + block) % 2 ^ 32 = captured.length % 2 ^ 32) :
    Holds (captureBlocks p cursor left block slots).1 (captured ++ p.offsetsFrom left block) ∧
      (captureBlocks p cursor left block slots).2 = block + (p.offsetsFrom left block).length := by
  induction left generalizing block slots captured with
  | zero => simpa [captureBlocks, CapturedPacket.offsetsFrom] using h
  | succ left ih =>
    unfold captureBlocks CapturedPacket.offsetsFrom
    by_cases hshort : p.payload.length < p.blockStart block + 4
    · simpa [hshort] using h
    · rw [if_neg hshort, if_neg hshort]
      have hnext : (cursor + (block + 1)) % 2 ^ 32 =
          (captured ++ [p.offsetOf block]).length % 2 ^ 32 := by
        rw [List.length_append, List.length_singleton]
        omega
      obtain ⟨hholds, hcached⟩ := ih (block + 1) (h.store hposition (p.offsetOf block)) hnext
      rw [List.append_assoc] at hholds
      refine ⟨hholds, ?_⟩
      rw [hcached, List.length_cons]
      omega

lemma readRun_spec (h : Holds slots captured) {start first : ℕ} (n : ℕ)
    (hstart : start % 2 ^ 32 = first % 2 ^ 32) (hend : first + n ≤ captured.length)
    (hwindow : captured.length ≤ first + kCapacity) :
    readRun slots start n = some ((captured.drop first).take n) := by
  induction n generalizing start first with
  | zero => rfl
  | succ n ih =>
    have hlt : first < captured.length := by omega
    have hslot := h first captured[first] (List.getElem?_eq_getElem hlt) hwindow
    have hrest := @ih (start + 1) (first + 1) (by omega) (by omega) (by omega)
    unfold readRun
    dsimp only
    rw [hstart, word_mod_capacity, hslot, hrest, List.drop_eq_getElem_cons hlt,
      List.take_succ_cons]
    exact if_neg fun hne => hne rfl

/-! ### The cache as a queue -/

structure Represents (c : MotuEventOffsetCache) (q : OffsetQueue) : Prop where
  epoch : c.epoch ≠ 0
  playbackEpoch : c.playbackEpoch = c.epoch
  captureCursor : c.captureCursor = q.captured.length % 2 ^ 32
  playbackCursor : c.playbackCursor = q.passed % 2 ^ 32
  passed : q.passed ≤ q.captured.length
  established : c.establishedEpoch = c.epoch ↔ q.captured ≠ []
  slots : Holds c.slots q.captured

variable {c : MotuEventOffsetCache} {q : OffsetQueue}

lemma represents_initial : Represents {} {} where
  epoch := Nat.one_ne_zero
  playbackEpoch := rfl
  captureCursor := rfl
  playbackCursor := rfl
  passed := le_rfl
  established := iff_of_false Nat.zero_ne_one fun h => h rfl
  slots := fun k offset hk => absurd hk (by simp)

lemma nextEpoch_ne_zero (c : MotuEventOffsetCache) (explicitEpoch : UInt32) :
    c.nextEpoch explicitEpoch ≠ 0 := by
  unfold nextEpoch
  split_ifs with hexplicit hwrap
  · exact Nat.one_ne_zero
  · exact hwrap
  · intro hzero
    exact hexplicit (UInt32.toNat_inj.mp hzero)

lemma represents_reset (c : MotuEventOffsetCache) (explicitEpoch : UInt32) :
    Represents (c.reset explicitEpoch) {} where
  epoch := nextEpoch_ne_zero c explicitEpoch
  playbackEpoch := rfl
  captureCursor := rfl
  playbackCursor := rfl
  passed := le_rfl
  established := iff_of_false (nextEpoch_ne_zero c explicitEpoch).symm fun h => h rfl
  slots := fun k offset hk => absurd hk (by simp)

lemma Represents.capture (h : Represents c q) (p : CapturedPacket) :
    Represents (c.capture p) { q with captured := q.captured ++ p.offsets } := by
  unfold MotuEventOffsetCache.capture
  by_cases hnothing : p.dbs = 0 ∨ p.dataBlocks = 0
  · have hempty : p.offsets = [] := by
      unfold CapturedPacket.offsets
      rcases hnothing with hdbs | hblocks
      · rw [if_pos hdbs]
      · rw [hblocks]
        exact ite_self []
    rw [if_pos hnothing, hempty, List.append_nil]
    exact h
  · rw [if_neg hnothing]
    rw [not_or] at hnothing
    have hoffsets : p.offsets = p.offsetsFrom p.dataBlocks.toNat 0 := if_neg hnothing.1
    obtain ⟨hholds, hcached⟩ := captureBlocks_spec p c.captureCursor p.dataBlocks.toNat 0 h.slots
      (by rw [h.captureCursor, Nat.add_zero, Nat.mod_mod])
    rw [← hoffsets] at hholds hcached
    rw [Nat.zero_add] at hcached
    dsimp only
    rw [hcached]
    by_cases hzero : p.offsets.length = 0
    · have hempty := List.length_eq_zero_iff.mp hzero
      rw [if_pos hzero]
      rw [hempty, List.append_nil] at hholds ⊢
      exact ⟨h.epoch, h.playbackEpoch, h.captureCursor, h.playbackCursor, h.passed, h.established,
        hholds⟩
    · rw [if_neg hzero]
      refine ⟨h.epoch, h.playbackEpoch, ?_, h.playbackCursor, ?_, ?_, hholds⟩
      · show (c.captureCursor + p.offsets.length) % 2 ^ 32 = _
        rw [h.captureCursor, List.length_append, Nat.mod_add_mod]
      · show q.passed ≤ (q.captured ++ p.offsets).length
        rw [List.length_append]
        exact h.passed.trans (Nat.le_add_right _ _)
      · refine iff_of_true rfl fun hnil => hzero ?_
        rw [(List.append_eq_nil_iff.mp hnil).2, List.length_nil]

/-! ### Taking -/

lemma sub32_mod {a b : ℕ} (h : b ≤ a) : sub32 (a % 2 ^ 32) (b % 2 ^ 32) = (a - b) % 2 ^ 32 := by
  unfold sub32
  omega

lemma toInt32_outside_iff {unread n : ℕ} (hpos : 0 < n) (hword : unread < 2 ^ 32) :
    (toInt32 unread < n ∨ kCapacity < toInt32 unread) ↔ ¬ (n ≤ unread ∧ unread ≤ kCapacity) := by
  have hcapacity : kCapacity = 4096 := rfl
  unfold toInt32
  split_ifs <;> omega

/-- The cursor is kept when a run is unread and, as far as 32 bits tell, still in the ring. -/
lemma takeStart_fst {unread n : ℕ} (hpos : 0 < n) (hword : unread < 2 ^ 32)
    (cursor newest : ℕ) :
    (takeStart (toInt32 unread) cursor newest n).1 =
      if n ≤ unread ∧ unread ≤ kCapacity then cursor else newest := by
  have houtside := toInt32_outside_iff hpos hword
  unfold takeStart
  by_cases hunder : toInt32 unread < n
  · rw [if_pos hunder, if_neg (houtside.mp (Or.inl hunder))]
  · rw [if_neg hunder]
    by_cases hover : kCapacity < toInt32 unread
    · rw [if_pos hover, if_neg (houtside.mp (Or.inr hover))]
    · rw [if_neg hover, if_pos]
      by_contra hnot
      rcases houtside.mpr hnot with h | h
      · exact hunder h
      · exact hover h

/-- The blocks that 32 bits show as unread. -/
def unreadWord (q : OffsetQueue) : ℕ := (q.captured.length - q.passed) % 2 ^ 32

lemma runStart_fst (h : Represents c q) {n : ℕ} (hpos : 0 < n) :
    (c.runStart n).1 =
      if n ≤ unreadWord q ∧ unreadWord q ≤ kCapacity then q.passed % 2 ^ 32
      else sub32 (q.captured.length % 2 ^ 32) n := by
  have hunread : sub32 c.captureCursor c.playbackCursor = unreadWord q := by
    rw [h.captureCursor, h.playbackCursor]
    exact sub32_mod h.passed
  unfold runStart
  rw [hunread, h.playbackCursor, h.captureCursor]
  exact takeStart_fst hpos (Nat.mod_lt _ (Nat.two_pow_pos 32)) _ _

lemma takeAttempt_of_short (h : Represents c q) {n : ℕ} (hshort : q.captured.length % 2 ^ 32 < n) :
    c.takeAttempt n = some (.notEnoughHistory, none, c) := by
  unfold takeAttempt
  rw [if_neg (fun hne => hne h.playbackEpoch.symm), h.captureCursor, if_pos hshort]

/-- An attempt on a run that the slots still have: it gives up when the run ends past a multiple of
`2 ^ 32` that capture has reached. -/
lemma takeAttempt_run (h : Represents c q) {n : ℕ} (henough : n ≤ q.captured.length % 2 ^ 32)
    (first : ℕ)
    (hstart : (c.runStart n).1 = first % 2 ^ 32) (hend : first + n ≤ q.captured.length)
    (hwindow : q.captured.length ≤ first + kCapacity) :
    c.takeAttempt n =
      if q.captured.length % 2 ^ 32 < (first + n) % 2 ^ 32 then none
      else
        some ((c.runStart n).2, some ((q.captured.drop first).take n),
          { c with playbackCursor := (first + n) % 2 ^ 32 }) := by
  have hcapacity : kCapacity = 4096 := rfl
  have hread := readRun_spec h.slots n (Nat.mod_mod first (2 ^ 32)) hend hwindow
  have hinside : ¬ kCapacity < sub32 (q.captured.length % 2 ^ 32) (first % 2 ^ 32) := by
    rw [sub32_mod (by omega)]
    omega
  rw [← h.captureCursor] at henough hinside ⊢
  unfold takeAttempt
  rw [if_neg (fun hne => hne h.playbackEpoch.symm), if_neg (Nat.not_lt.mpr henough), hstart, hread]
  dsimp only
  rw [Nat.mod_add_mod]
  exact if_congr (or_iff_left hinside) rfl rfl

/-- All attempts see the same. -/
lemma take_of_established (h : Represents c q) {n : ℕ} (hpos : 0 < n) (hn : n ≤ kCapacity)
    (henough : n ≤ q.captured.length) :
    c.take n =
      match c.takeAttempt n with
      | some outcome => outcome
      | none => (.concurrentRewrite, none, c) := by
  have hnonempty : q.captured ≠ [] := by
    intro hnil
    rw [hnil, List.length_nil] at henough
    omega
  have hestablished : c.isEstablished = true := by
    unfold isEstablished
    simp [h.epoch, h.established.mpr hnonempty]
  unfold take
  rw [if_neg (by omega), if_neg (by simp [hestablished])]
  unfold kMaxAttempts takeAttempts takeAttempts takeAttempts takeAttempts
  cases c.takeAttempt n <;> rfl

lemma take_of_not_captured (h : Represents c q) {n : ℕ} (hn : q.captured.length < n) :
    (c.take n).2 = (none, c) := by
  unfold take
  by_cases hrequest : n = 0 ∨ kCapacity < n
  · rw [if_pos hrequest]
  · rw [if_neg hrequest]
    cases c.isEstablished with
    | false => rfl
    | true =>
      rw [if_neg (by simp)]
      have hshort : q.captured.length % 2 ^ 32 < n :=
        (Nat.mod_le _ _).trans_lt hn
      show (c.takeAttempts n (2 + 1)).2 = (none, c)
      unfold takeAttempts
      rw [takeAttempt_of_short h hshort]

/-- The low words show a run in the ring: it is taken from there. -/
lemma take_of_word (h : Represents c q) {n : ℕ} (hpos : 0 < n) (hn : n ≤ kCapacity)
    (henough : n ≤ q.captured.length % 2 ^ 32)
    (hword : n ≤ unreadWord q ∧ unreadWord q ≤ kCapacity) :
    (c.take n).2 =
      if q.captured.length % 2 ^ 32 < (q.passed + n) % 2 ^ 32 then (none, c)
      else
        (some ((q.captured.drop (q.captured.length - unreadWord q)).take n),
          { c with playbackCursor := (q.passed + n) % 2 ^ 32 }) := by
  have hpassed := h.passed
  have hunread : unreadWord q ≤ q.captured.length - q.passed := Nat.mod_le _ _
  have hword' : (q.captured.length - unreadWord q) % 2 ^ 32 = q.passed % 2 ^ 32 := by
    unfold unreadWord
    omega
  have hrun := takeAttempt_run h henough (q.captured.length - unreadWord q)
    (by rw [runStart_fst h hpos, if_pos hword, hword']) (by omega) (by omega)
  have hend : (q.captured.length - unreadWord q + n) % 2 ^ 32 = (q.passed + n) % 2 ^ 32 := by
    rw [← Nat.mod_add_mod, hword', Nat.mod_add_mod]
  rw [hend] at hrun
  rw [take_of_established h hpos hn (henough.trans (Nat.mod_le _ _)), hrun]
  by_cases hstraddle : q.captured.length % 2 ^ 32 < (q.passed + n) % 2 ^ 32
  · rw [if_pos hstraddle, if_pos hstraddle]
  · rw [if_neg hstraddle, if_neg hstraddle]

lemma length_newest_le (captured : List ℕ) (n : ℕ) :
    (captured.drop (captured.length - n)).length ≤ n := by
  rw [List.length_drop]
  omega

/-- Otherwise the newest run is taken. -/
lemma take_of_not_word (h : Represents c q) {n : ℕ} (hpos : 0 < n) (hn : n ≤ kCapacity)
    (henough : n ≤ q.captured.length % 2 ^ 32)
    (hword : ¬ (n ≤ unreadWord q ∧ unreadWord q ≤ kCapacity)) :
    (c.take n).2 =
      (some (q.captured.drop (q.captured.length - n)),
        { c with playbackCursor := q.captured.length % 2 ^ 32 }) := by
  have hcapacity : kCapacity = 4096 := rfl
  have hle : n ≤ q.captured.length := henough.trans (Nat.mod_le _ _)
  have hsub := sub32_mod hle
  rw [Nat.mod_eq_of_lt (by omega : n < 2 ^ 32)] at hsub
  have hrun := takeAttempt_run h henough (q.captured.length - n)
    (by rw [runStart_fst h hpos, if_neg hword, hsub]) (by omega) (by omega)
  rw [Nat.sub_add_cancel hle, if_neg (Nat.lt_irrefl _), List.take_of_length_le (length_newest_le _ _)] at hrun
  rw [take_of_established h hpos hn hle, hrun]

/-! ### When the cache is the queue -/

/-- Requests for which the cache does what the queue does. Either nothing is to be had, or the
request is one the cache accepts, the low word of the capture count has not just wrapped under it,
and, where the low words show a run in the ring, that run does not straddle a multiple of `2 ^ 32`
and is the one that is unread. -/
def TakesAsQueue (q : OffsetQueue) : Operation → Prop
  | .take n =>
    q.captured.length < n ∨
      0 < n ∧ n ≤ kCapacity ∧ n ≤ q.captured.length % 2 ^ 32 ∧
        (n ≤ unreadWord q → unreadWord q ≤ kCapacity →
          (q.passed + n) % 2 ^ 32 ≤ q.captured.length % 2 ^ 32 ∧
            (q.captured.length - q.passed ≤ kCapacity ∨ unreadWord q = n))
  | _ => True

lemma queue_take_newest {n : ℕ} (henough : n ≤ q.captured.length)
    (hold : ¬ (n ≤ q.captured.length - q.passed ∧ q.captured.length - q.passed ≤ kCapacity)) :
    q.take n =
      (some (q.captured.drop (q.captured.length - n)),
        { q with passed := q.captured.length }) := by
  unfold OffsetQueue.take
  rw [if_neg (Nat.not_lt.mpr henough), if_neg hold]

lemma queue_take_next {n : ℕ} (henough : n ≤ q.captured.length)
    (hnew : n ≤ q.captured.length - q.passed ∧ q.captured.length - q.passed ≤ kCapacity) :
    q.take n =
      (some ((q.captured.drop q.passed).take n), { q with passed := q.passed + n }) := by
  unfold OffsetQueue.take
  rw [if_neg (Nat.not_lt.mpr henough), if_pos hnew]

lemma unreadWord_eq (h : q.captured.length - q.passed ≤ kCapacity) :
    unreadWord q = q.captured.length - q.passed :=
  Nat.mod_eq_of_lt (h.trans_lt (by decide))

lemma Represents.moved (h : Represents c q) {passed : ℕ} (hle : passed ≤ q.captured.length) :
    Represents { c with playbackCursor := passed % 2 ^ 32 } { q with passed := passed } :=
  ⟨h.epoch, h.playbackEpoch, h.captureCursor, rfl, hle, h.established, h.slots⟩

lemma take_good (h : Represents c q) {n : ℕ} (hgood : TakesAsQueue q (.take n)) :
    (c.take n).2.1 = (q.take n).1 ∧ Represents (c.take n).2.2 (q.take n).2 := by
  have hcapacity : kCapacity = 4096 := rfl
  rcases hgood with hfew | ⟨hpos, hn, henough, hrun⟩
  · have hq : q.take n = (none, q) := if_pos hfew
    rw [take_of_not_captured h hfew, hq]
    exact ⟨rfl, h⟩
  · have hle : n ≤ q.captured.length := henough.trans (Nat.mod_le _ _)
    have hpassed := h.passed
    by_cases hword : n ≤ unreadWord q ∧ unreadWord q ≤ kCapacity
    · obtain ⟨hstraddle, hsame⟩ := hrun hword.1 hword.2
      rw [take_of_word h hpos hn henough hword, if_neg (Nat.not_lt.mpr hstraddle)]
      by_cases hnear : q.captured.length - q.passed ≤ kCapacity
      · have hunread := unreadWord_eq hnear
        rw [queue_take_next hle ⟨hunread ▸ hword.1, hnear⟩, hunread, Nat.sub_sub_self hpassed]
        exact ⟨rfl, h.moved (by omega)⟩
      · have hunread := hsame.resolve_left hnear
        have hcursor : (q.passed + n) % 2 ^ 32 = q.captured.length % 2 ^ 32 := by
          unfold unreadWord at hunread
          omega
        rw [queue_take_newest hle (fun hnew => hnear hnew.2), hunread, hcursor,
          List.take_of_length_le (length_newest_le _ _)]
        exact ⟨rfl, h.moved le_rfl⟩
    · have hold : ¬ (n ≤ q.captured.length - q.passed ∧
          q.captured.length - q.passed ≤ kCapacity) := by
        intro hnew
        rw [unreadWord_eq hnew.2] at hword
        exact hword hnew
      rw [take_of_not_word h hpos hn henough hword, queue_take_newest hle hold]
      exact ⟨rfl, h.moved le_rfl⟩

lemma queue_take_isSome {n : ℕ} (henough : n ≤ q.captured.length) : (q.take n).1 ≠ none := by
  by_cases hnew : n ≤ q.captured.length - q.passed ∧ q.captured.length - q.passed ≤ kCapacity
  · rw [queue_take_next henough hnew]
    exact Option.some_ne_none _
  · rw [queue_take_newest henough hnew]
    exact Option.some_ne_none _

lemma take_bad (h : Represents c q) {n : ℕ} (hbad : ¬ TakesAsQueue q (.take n)) :
    (c.step (.take n)).2 ≠ (q.step (.take n)).2 := by
  have hcapacity : kCapacity = 4096 := rfl
  have hpassed := h.passed
  unfold TakesAsQueue at hbad
  rw [not_or, Nat.not_lt] at hbad
  obtain ⟨hle, hbad⟩ := hbad
  have hnone : (c.take n).2.1 = none → (c.step (.take n)).2 ≠ (q.step (.take n)).2 := by
    intro hnone heq
    exact queue_take_isSome hle ((Prod.mk.inj heq).1.symm.trans hnone)
  by_cases hrequest : n = 0 ∨ kCapacity < n
  · apply hnone
    unfold take
    rw [if_pos hrequest]
  · have hpos : 0 < n := by omega
    have hn : n ≤ kCapacity := by omega
    rcases Nat.lt_or_ge (q.captured.length % 2 ^ 32) n with hshort | henough
    · apply hnone
      rw [take_of_established h hpos hn hle, takeAttempt_of_short h hshort]
    · by_cases hword : n ≤ unreadWord q ∧ unreadWord q ≤ kCapacity
      · have htake := take_of_word h hpos hn henough hword
        by_cases hstraddle : q.captured.length % 2 ^ 32 < (q.passed + n) % 2 ^ 32
        · apply hnone
          rw [htake, if_pos hstraddle]
        · -- the cache stays behind the newest run
          have hfar : ¬ (q.captured.length - q.passed ≤ kCapacity ∨ unreadWord q = n) := by
            intro hsame
            exact hbad ⟨hpos, hn, henough, fun _ _ => ⟨Nat.not_lt.mp hstraddle, hsame⟩⟩
          rw [not_or] at hfar
          rw [if_neg hstraddle] at htake
          have hqueue := queue_take_newest hle fun hnew => hfar.1 hnew.2
          intro heq
          have hcursor : (c.take n).2.2.playbackCursor = (q.take n).2.passed % 2 ^ 32 :=
            (Prod.mk.inj heq).2
          rw [htake, hqueue] at hcursor
          replace hcursor : (q.passed + n) % 2 ^ 32 = q.captured.length % 2 ^ 32 := hcursor
          unfold unreadWord at hword hfar
          omega
      · exact absurd ⟨hpos, hn, henough, fun h1 h2 => absurd ⟨h1, h2⟩ hword⟩ hbad

lemma step_good (h : Represents c q) (e : Operation) (hgood : TakesAsQueue q e) :
    (c.step e).2 = (q.step e).2 ∧ Represents (c.step e).1 (q.step e).1 := by
  cases e with
  | capture packet =>
    have hcapture := h.capture packet
    refine ⟨?_, hcapture⟩
    show (none, (c.capture packet).playbackCursor) = (none, q.passed % 2 ^ 32)
    rw [hcapture.playbackCursor]
  | take n =>
    obtain ⟨hout, hnext⟩ := take_good h hgood
    refine ⟨?_, hnext⟩
    show ((c.take n).2.1, (c.take n).2.2.playbackCursor) = ((q.take n).1, _)
    rw [hout, hnext.playbackCursor]
  | reset explicitEpoch => exact ⟨rfl, represents_reset c explicitEpoch⟩

lemma step_bad (h : Represents c q) (e : Operation) (hbad : ¬ TakesAsQueue q e) :
    (c.step e).2 ≠ (q.step e).2 := by
  cases e with
  | capture packet => exact absurd trivial hbad
  | take n => exact take_bad h hbad
  | reset explicitEpoch => exact absurd trivial hbad

lemma Represents.answers_iff (h : Represents c q) (operations : List Operation) :
    answers step c operations = answers OffsetQueue.step q operations ↔
      Meets (next OffsetQueue.step) TakesAsQueue q operations := by
  apply answers_eq_iff (R := Represents)
  · intro c q e h hgood
    exact step_good h e hgood
  · intro c q e h hbad
    exact step_bad h e hbad
  · exact h

/-- The cache gives the answers of the queue over a run of any length exactly when every request of
the run is one of those above. -/
theorem answers_eq_queue_iff (operations : List Operation) :
    answers step {} operations = answers OffsetQueue.step {} operations ↔
      Meets (next OffsetQueue.step) TakesAsQueue {} operations :=
  represents_initial.answers_iff operations

/-- Eight blocks of one quadlet. -/
def eightBlocks : CapturedPacket :=
  { payload := List.replicate 48 0, dbs := 1, dataBlocks := 8, receiveCycle := 0,
    cipHeaderBytes := 16 }

lemma length_run_captures (n : ℕ) (q : OffsetQueue) :
    (run (next OffsetQueue.step) q (List.replicate n (.capture eightBlocks))).captured.length =
      q.captured.length + n * 8 := by
  induction n generalizing q with
  | zero => rfl
  | succ n ih =>
    have height : eightBlocks.offsets.length = 8 := by decide +kernel
    rw [List.replicate_succ, run_cons, ih]
    show (q.captured ++ eightBlocks.offsets).length + n * 8 = _
    rw [List.length_append, height]
    omega

/-- With `2 ^ 32` blocks captured, there is not enough history for eight. -/
theorem answers_ne_queue :
    ¬ ∀ operations : List Operation,
      answers step {} operations = answers OffsetQueue.step {} operations := by
  intro hall
  have hmeets := (represents_initial.answers_iff _).mp
    (hall (List.replicate (2 ^ 29) (.capture eightBlocks) ++ [.take 8]))
  have hlast := (meets_append.mp hmeets).2.1
  have hlength := length_run_captures (2 ^ 29) {}
  generalize run (next OffsetQueue.step) {} (List.replicate (2 ^ 29) (.capture eightBlocks)) = q
    at hlast hlength
  rw [show ({} : OffsetQueue).captured.length = 0 from rfl] at hlength
  rcases hlast with hfew | ⟨_, _, henough, _⟩
  · omega
  · omega

end MotuEventOffsetCache

end ASFireWire.MOTU
