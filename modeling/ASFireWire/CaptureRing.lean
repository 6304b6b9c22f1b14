import Mathlib

/-! The capture ring at the start of a read (`Audio/DriverKit/ASFWAudioDriverIO.cpp`): frames of the
read that the ring does not hold are silenced where they would lie. -/
namespace ASFireWire.AudioDriver

/-- The input side of the audio memory, one entry for each frame of the ring, and the cursors of its
writer and its reader. -/
structure CaptureRing (α : Type*) where
  frames : List (List α)
  inputChannels : ℕ
  deviceToHostAm824Slots : ℕ
  captureRingWriteFrame : ℕ := 0
  captureRingReadFrame : ℕ := 0
  captureRingStarvations : ℕ := 0
  deriving DecidableEq

namespace CaptureRing

variable {α : Type*}

def inputFrameCapacity (r : CaptureRing α) : ℕ := r.frames.length

def hasInput (r : CaptureRing α) : Bool :=
  !r.frames.isEmpty && r.inputChannels ≠ 0 && r.deviceToHostAm824Slots ≠ 0

def inputFrame (r : CaptureRing α) (absoluteFrame : ℕ) : Option (List α) :=
  r.frames[absoluteFrame % r.inputFrameCapacity]?

def oldestFrame (r : CaptureRing α) : ℕ :=
  if r.inputFrameCapacity ≠ 0 ∧ r.inputFrameCapacity < r.captureRingWriteFrame then
    r.captureRingWriteFrame - r.inputFrameCapacity
  else 0

section Silence

variable [Zero α]

def silence (r : CaptureRing α) : List α := List.replicate r.inputChannels 0

def zeroInputFrameIfMissing (r : CaptureRing α) (absoluteFrame : ℕ) : CaptureRing α :=
  if r.frames = [] ∨ r.inputChannels = 0 then r
  else { r with frames := r.frames.set (absoluteFrame % r.inputFrameCapacity) r.silence }

/-- The loop over the frames of the read: the ring, and how many frames were missing. -/
def zeroMissing (oldest write : ℕ) : List ℕ → CaptureRing α → CaptureRing α × ℕ
  | [], r => (r, 0)
  | frame :: frames, r =>
    if frame < oldest ∨ write ≤ frame then
      let (r, starvedFrames) := zeroMissing oldest write frames (r.zeroInputFrameIfMissing frame)
      (r, starvedFrames + 1)
    else zeroMissing oldest write frames r

/-- The frames of a read, counted in 64 bits. -/
def readFrames (sampleTime frameCount : ℕ) : List ℕ :=
  (List.range frameCount).map fun i => (sampleTime + i) % 2 ^ 64

def prepareCaptureRingForBeginRead (r : CaptureRing α) (sampleTime frameCount : ℕ) :
    CaptureRing α × Bool :=
  if frameCount = 0 then (r, true)
  else if r.hasInput = false then (r, false)
  else
    let (zeroed, starvedFrames) :=
      zeroMissing r.oldestFrame r.captureRingWriteFrame (readFrames sampleTime frameCount) r
    let readEnd := (sampleTime + frameCount) % 2 ^ 64
    ({ zeroed with
        captureRingReadFrame := max r.captureRingReadFrame readEnd
        captureRingStarvations :=
          zeroed.captureRingStarvations + if starvedFrames = 0 then 0 else 1 }, true)

end Silence

/-! ### What the ring holds -/

/-- The frame is one of the last ones written, as many as the ring holds. -/
def Valid (r : CaptureRing α) (frame : ℕ) : Prop :=
  r.oldestFrame ≤ frame ∧ frame < r.captureRingWriteFrame

instance (r : CaptureRing α) (frame : ℕ) : Decidable (r.Valid frame) :=
  inferInstanceAs (Decidable (_ ∧ _))

variable {r : CaptureRing α} {j : ℕ}

/-- The cells behind the writer in its first turn are the ones without a valid frame. -/
lemma exists_valid_iff (hj : j < r.inputFrameCapacity) :
    (∃ frame, r.Valid frame ∧ frame % r.inputFrameCapacity = j) ↔ j < r.captureRingWriteFrame := by
  constructor
  · rintro ⟨frame, hvalid, rfl⟩
    exact (Nat.mod_le _ _).trans_lt hvalid.2
  · intro hwritten
    set write := r.captureRingWriteFrame with hwrite
    set capacity := r.inputFrameCapacity with hcapacity
    have hback := Nat.mod_lt (write - 1 - j) (by omega : 0 < capacity)
    have hdiv := Nat.div_add_mod (write - 1 - j) capacity
    refine ⟨j + capacity * ((write - 1 - j) / capacity), ⟨?_, by omega⟩, ?_⟩
    · unfold oldestFrame
      rw [← hwrite, ← hcapacity]
      split_ifs <;> omega
    · rw [Nat.add_mul_mod_self_left, Nat.mod_eq_of_lt hj]

variable [Zero α] {oldest write : ℕ}

lemma zeroInputFrameIfMissing_frames (hinput : r.hasInput = true) (frame : ℕ) :
    (r.zeroInputFrameIfMissing frame).frames =
      r.frames.set (frame % r.inputFrameCapacity) r.silence := by
  have hready : ¬ (r.frames = [] ∨ r.inputChannels = 0) := by
    simp [hasInput] at hinput
    simp [hinput]
  rw [zeroInputFrameIfMissing, if_neg hready]

lemma hasInput_zeroInputFrameIfMissing (frame : ℕ) :
    (r.zeroInputFrameIfMissing frame).hasInput = r.hasInput := by
  have hempty (i : ℕ) (frame : List α) : (r.frames.set i frame).isEmpty = r.frames.isEmpty := by
    rw [Bool.eq_iff_iff, List.isEmpty_iff, List.isEmpty_iff, ← List.length_eq_zero_iff,
      List.length_set, List.length_eq_zero_iff]
  unfold zeroInputFrameIfMissing
  split_ifs
  · rfl
  · simp [hasInput, hempty]

/-- A cell is silent behind the loop when a missing frame lies there, and untouched otherwise. -/
lemma zeroMissing_frames (hinput : r.hasInput = true) (frames : List ℕ) :
    (zeroMissing oldest write frames r).1.frames.length = r.inputFrameCapacity ∧
      ∀ j < r.inputFrameCapacity, (zeroMissing oldest write frames r).1.frames[j]? =
        if ∃ frame ∈ frames, (frame < oldest ∨ write ≤ frame) ∧ frame % r.inputFrameCapacity = j
        then some r.silence else r.frames[j]? := by
  induction frames generalizing r with
  | nil => simp [zeroMissing, inputFrameCapacity]
  | cons frame frames ih =>
    rw [zeroMissing]
    by_cases hmissing : frame < oldest ∨ write ≤ frame
    · have hset := zeroInputFrameIfMissing_frames hinput frame
      have hcapacity : (r.zeroInputFrameIfMissing frame).inputFrameCapacity =
          r.inputFrameCapacity := by
        rw [inputFrameCapacity, hset, List.length_set, inputFrameCapacity]
      have hsilence : (r.zeroInputFrameIfMissing frame).silence = r.silence := by
        unfold zeroInputFrameIfMissing
        split_ifs <;> rfl
      obtain ⟨hlength, hcells⟩ :=
        ih (r := r.zeroInputFrameIfMissing frame) ((hasInput_zeroInputFrameIfMissing frame).trans hinput)
      rw [if_pos hmissing]
      refine ⟨hlength.trans hcapacity, fun j hj => ?_⟩
      rw [hcapacity, hsilence] at hcells
      dsimp only
      rw [hcells j hj, hset, List.getElem?_set]
      have hlt : j < r.frames.length := hj
      by_cases hhere : frame % r.inputFrameCapacity = j
      · simp [hmissing, hhere, hlt]
      · simp [hmissing, hhere]
    · rw [if_neg hmissing]
      obtain ⟨hlength, hcells⟩ := ih hinput
      refine ⟨hlength, fun j hj => ?_⟩
      rw [hcells j hj]
      simp [hmissing]

lemma prepareCaptureRing_frames (sampleTime frameCount : ℕ) :
    (r.prepareCaptureRingForBeginRead sampleTime frameCount).1.frames =
      if frameCount = 0 ∨ r.hasInput = false then r.frames
      else (zeroMissing r.oldestFrame r.captureRingWriteFrame
        (readFrames sampleTime frameCount) r).1.frames := by
  unfold prepareCaptureRingForBeginRead
  by_cases hnone : frameCount = 0
  · simp [hnone]
  · by_cases hinput : r.hasInput = false
    · simp [hnone, hinput]
    · simp [hnone, hinput]

/-- A read leaves every valid frame as it was, and changes only cells without one. -/
def Spares (r : CaptureRing α) (sampleTime frameCount : ℕ) : Prop :=
  let prepared := (r.prepareCaptureRingForBeginRead sampleTime frameCount).1
  (∀ frame, r.Valid frame → prepared.inputFrame frame = r.inputFrame frame) ∧
    ∀ j, prepared.frames[j]? ≠ r.frames[j]? →
      ∀ frame, r.Valid frame → frame % r.inputFrameCapacity ≠ j

/-- A read leaves the valid frames alone exactly when every frame of it that is missing lies behind
the writer in the writer's first turn, or in a cell that is silent already. -/
theorem spares_iff (r : CaptureRing α) (sampleTime frameCount : ℕ) :
    r.Spares sampleTime frameCount ↔
      (r.hasInput = true → ∀ frame ∈ readFrames sampleTime frameCount, ¬ r.Valid frame →
        r.captureRingWriteFrame ≤ frame % r.inputFrameCapacity ∨
          r.inputFrame frame = some r.silence) := by
  have hframes := prepareCaptureRing_frames (r := r) sampleTime frameCount
  by_cases hnone : frameCount = 0 ∨ r.hasInput = false
  · rw [if_pos hnone] at hframes
    have hspares : r.Spares sampleTime frameCount := by
      simp [Spares, inputFrame, inputFrameCapacity, hframes]
    rcases hnone with rfl | hinput
    · simp [hspares, readFrames]
    · simp [hspares, hinput]
  · rw [if_neg hnone] at hframes
    rw [not_or, Bool.not_eq_false] at hnone
    obtain ⟨hlength, hcells⟩ := zeroMissing_frames hnone.2 (readFrames sampleTime frameCount)
    rw [← hframes] at hlength hcells
    have hmissing (frame : ℕ) :
        (frame < r.oldestFrame ∨ r.captureRingWriteFrame ≤ frame) ↔ ¬ r.Valid frame := by
      unfold Valid
      omega
    have hlt (frame : ℕ) : frame % r.inputFrameCapacity < r.inputFrameCapacity := by
      apply Nat.mod_lt
      rw [inputFrameCapacity, List.length_pos_iff]
      intro hempty
      simp [hasInput, hempty] at hnone
    simp only [hmissing] at hcells
    unfold Spares
    dsimp only [inputFrame]
    rw [show (r.prepareCaptureRingForBeginRead sampleTime frameCount).1.inputFrameCapacity =
      r.inputFrameCapacity from hlength]
    constructor
    · rintro ⟨hkept, -⟩ - frame hframe hinvalid
      by_cases hbehind : r.captureRingWriteFrame ≤ frame % r.inputFrameCapacity
      · exact Or.inl hbehind
      · obtain ⟨valid, hvalid, hcell⟩ := (exists_valid_iff (hlt frame)).mpr (Nat.not_le.mp hbehind)
        have hsame := hkept valid hvalid
        rw [hcell, hcells _ (hlt frame), if_pos ⟨frame, hframe, hinvalid, rfl⟩] at hsame
        exact Or.inr hsame.symm
    · intro hallowed
      have hkept : ∀ j < r.inputFrameCapacity, j < r.captureRingWriteFrame →
          (r.prepareCaptureRingForBeginRead sampleTime frameCount).1.frames[j]? =
            r.frames[j]? := by
        intro j hj hwritten
        rw [hcells j hj]
        split_ifs with hzeroed
        · obtain ⟨frame, hframe, hinvalid, rfl⟩ := hzeroed
          rcases hallowed hnone.2 frame hframe hinvalid with hbehind | hsilent
          · omega
          · exact hsilent.symm
        · rfl
      have hwritten {frame : ℕ} (hvalid : r.Valid frame) :
          frame % r.inputFrameCapacity < r.captureRingWriteFrame :=
        (Nat.mod_le _ _).trans_lt hvalid.2
      refine ⟨fun frame hvalid => hkept _ (hlt frame) (hwritten hvalid), ?_⟩
      rintro j hchanged frame hvalid rfl
      exact hchanged (hkept _ (hlt frame) (hwritten hvalid))

/-- Six frames into a ring of four, a read of frames 5 and 6 silences frame 2. -/
theorem not_spares_starved :
    let r : CaptureRing ℤ := {
      frames := [[40], [50], [20], [30]], inputChannels := 1, deviceToHostAm824Slots := 1,
      captureRingWriteFrame := 6 }
    r.Valid 2 ∧ r.inputFrame 2 = some [20] ∧
      (r.prepareCaptureRingForBeginRead 5 2).1.inputFrame 2 = some [0] ∧ ¬ r.Spares 5 2 := by
  refine ⟨by decide, by decide, by decide, ?_⟩
  intro hspares
  have hkept := hspares.1 2 (by decide)
  revert hkept
  decide

end CaptureRing

end ASFireWire.AudioDriver
