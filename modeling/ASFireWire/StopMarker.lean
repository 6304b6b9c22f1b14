import ASFireWire.BufferRing
import ASFireWire.Runs

/-! The stop marker of the receive ring: one descriptor without its Z bit, right behind the head,
keeps the controller out of buffers that hold unconsumed bytes. -/
namespace ASFireWire.Shared

open Runs

namespace BufferRing

variable {r r' : BufferRing} {i : ℕ}

/-! ### Initialize and Finalize -/

/-- The stop marker: the only descriptor without Z, one place before the head; and each branch word
names the next descriptor. -/
structure Marked (r : BufferRing) : Prop where
  two : 2 ≤ r.bufferCount
  head : r.head < r.bufferCount
  last : r.lastLinkedIndex = (r.head + r.bufferCount - 1) % r.bufferCount
  z : ∀ i < r.bufferCount, (r.descriptors i).zBit = 0 ↔ i = r.lastLinkedIndex
  links : ∀ i < r.bufferCount,
    (r.descriptors i).branchWord / 16 * 16 = r.descIOVABase + r.nextIndex i * 16

/-- A ring that `Initialize` and `Finalize` have accepted. -/
structure Fresh (r : BufferRing) : Prop where
  marked : r.Marked
  head : r.head = 0
  drained : r.lastDequeuedBytes = 0
  empty : ∀ i < r.bufferCount, (r.descriptors i).bytesFilled = 0

/-- Only status words have changed, and no buffer holds fewer bytes. -/
structure Grown (r r' : BufferRing) : Prop where
  fields : r' = { r with descriptors := r'.descriptors }
  branch : ∀ i, (r'.descriptors i).branchWord = (r.descriptors i).branchWord
  control : ∀ i, (r'.descriptors i).control = (r.descriptors i).control
  filled : ∀ i, (r.descriptors i).bytesFilled ≤ (r'.descriptors i).bytesFilled

lemma Grown.refl (r : BufferRing) : r.Grown r :=
  ⟨rfl, fun _ => rfl, fun _ => rfl, fun _ => le_rfl⟩

lemma Grown.trans {r'' : BufferRing} (h : r.Grown r') (h' : r'.Grown r'') : r.Grown r'' where
  fields := by rw [h'.fields, h.fields]
  branch i := (h'.branch i).trans (h.branch i)
  control i := (h'.control i).trans (h.control i)
  filled i := (h.filled i).trans (h'.filled i)

lemma Grown.bufferCount (h : r.Grown r') : r'.bufferCount = r.bufferCount := by rw [h.fields]

lemma Grown.head (h : r.Grown r') : r'.head = r.head := by rw [h.fields]

lemma Grown.lastDequeuedBytes (h : r.Grown r') : r'.lastDequeuedBytes = r.lastDequeuedBytes := by
  rw [h.fields]

lemma Grown.lastLinkedIndex (h : r.Grown r') : r'.lastLinkedIndex = r.lastLinkedIndex := by
  rw [h.fields]

lemma Grown.nextIndex (h : r.Grown r') (i : ℕ) : r'.nextIndex i = r.nextIndex i := by
  rw [BufferRing.nextIndex, h.bufferCount, BufferRing.nextIndex]

lemma Grown.zBit (h : r.Grown r') (i : ℕ) :
    (r'.descriptors i).zBit = (r.descriptors i).zBit := by
  rw [ARDescriptor.zBit, h.branch, ARDescriptor.zBit]

lemma Marked.grown (h : r.Marked) (hg : r.Grown r') : r'.Marked := by
  have hbase : r'.descIOVABase = r.descIOVABase := by rw [hg.fields]
  constructor
  · rw [hg.bufferCount]
    exact h.two
  · rw [hg.head, hg.bufferCount]
    exact h.head
  · rw [hg.lastLinkedIndex, hg.head, hg.bufferCount]
    exact h.last
  · intro i hi
    rw [hg.zBit, hg.lastLinkedIndex]
    exact h.z i (hi.trans_eq hg.bufferCount)
  · intro i hi
    rw [hg.branch, hbase, hg.nextIndex]
    exact h.links i (hi.trans_eq hg.bufferCount)

end BufferRing

namespace ReceiveDma

open BufferRing

variable {s : ReceiveDma} {base index : ℕ}

/-- The controller works its way from `base` on: from its descriptor to the stop behind `base` there
are only buffers that are empty and that it does not write. Nothing it went into was unconsumed. -/
structure Working (s : ReceiveDma) (base : ℕ) : Prop where
  lt : base < s.ring.bufferCount
  links : ∀ i < s.ring.bufferCount,
    (s.ring.descriptors i).branchWord / 16 * 16 = s.ring.descIOVABase + s.ring.nextIndex i * 16
  stop : (s.ring.descriptors ((base + s.ring.bufferCount - 1) % s.ring.bufferCount)).zBit = 0
  ahead : ∃ d < s.ring.bufferCount, s.current = (base + d) % s.ring.bufferCount ∧
    ∀ k, d < k → k < s.ring.bufferCount →
      s.owned ((base + k) % s.ring.bufferCount) = false ∧
        (s.ring.descriptors ((base + k) % s.ring.bufferCount)).bytesFilled = 0
  entries : ∀ entry ∈ s.entries, entry.2 = 0

lemma Working.branchTarget (h : s.Working base) {i : ℕ} (hi : i < s.ring.bufferCount) :
    s.branchTarget (s.ring.descriptors i).branchWord = s.ring.nextIndex i := by
  rw [ReceiveDma.branchTarget, h.links i hi]
  omega

lemma hardware_grown (s : ReceiveDma) (event : HardwareEvent) :
    s.ring.Grown (s.hardware event).ring := by
  cases event with
  | followBranch =>
    simp only [hardware]
    split <;> exact Grown.refl _
  | writeStatus index statusWord =>
    simp only [hardware]
    split
    · rename_i hwrites
      refine ⟨rfl, fun i => ?_, fun i => ?_, fun i => ?_⟩
      all_goals
        by_cases hi : i = index
        · subst hi
          simp [hwrites.2.2]
        · simp [hi]
    · exact Grown.refl _

lemma Working.followBranch (h : s.Working base) : (s.hardware .followBranch).Working base := by
  obtain ⟨d, hd, hcurrent, hahead⟩ := h.ahead
  have hpos : 0 < s.ring.bufferCount := by omega
  simp only [hardware]
  split
  · exact h
  rename_i hz
  have hnotLast : d + 1 < s.ring.bufferCount := by
    by_contra hlast
    have hd' : d = s.ring.bufferCount - 1 := by omega
    apply hz
    rw [hcurrent, hd', ← Nat.add_sub_assoc (by omega)]
    exact h.stop
  have htarget : s.branchTarget (s.ring.descriptors s.current).branchWord =
      (base + (d + 1)) % s.ring.bufferCount := by
    rw [h.branchTarget (by rw [hcurrent]; exact Nat.mod_lt _ hpos), hcurrent, nextIndex,
      Nat.mod_add_mod, Nat.add_assoc]
  rw [htarget]
  refine ⟨h.lt, h.links, h.stop, ⟨d + 1, hnotLast, rfl, ?_⟩, ?_⟩
  · intro k hk hlt
    obtain ⟨howned, hempty⟩ := hahead k (by omega) hlt
    refine ⟨?_, hempty⟩
    dsimp only at hlt ⊢
    rw [Function.update_of_ne, howned]
    intro hsame
    have := Nat.ModEq.add_left_cancel' base hsame
    rw [Nat.ModEq, Nat.mod_eq_of_lt hlt, Nat.mod_eq_of_lt hnotLast] at this
    omega
  · intro entry hentry
    obtain rfl | hold := List.mem_cons.mp hentry
    · have hempty := (hahead (d + 1) (by omega) hnotLast).2
      simp only [unconsumed, hempty]
      split <;> simp
    · exact h.entries entry hold

lemma Working.writeStatus (h : s.Working base) (index statusWord : ℕ) :
    (s.hardware (.writeStatus index statusWord)).Working base := by
  have hgrown := hardware_grown s (.writeStatus index statusWord)
  obtain ⟨d, hd, hcurrent, hahead⟩ := h.ahead
  simp only [hardware] at hgrown ⊢
  split
  · rename_i hwrites
    rw [if_pos hwrites] at hgrown
    refine ⟨h.lt, fun i hi => ?_, ?_, ⟨d, hd, hcurrent, fun k hk hlt => ?_⟩, h.entries⟩
    · rw [hgrown.branch]
      exact h.links i hi
    · rw [hgrown.zBit]
      exact h.stop
    · obtain ⟨howned, hempty⟩ := hahead k hk hlt
      refine ⟨howned, ?_⟩
      have hne : (base + k) % s.ring.bufferCount ≠ index := by
        rintro rfl
        rw [howned] at hwrites
        exact Bool.false_ne_true hwrites.1
      dsimp only
      rw [Function.update_of_ne hne]
      exact hempty
  · exact h

lemma Working.hardware (h : s.Working base) (event : HardwareEvent) :
    (s.hardware event).Working base := by
  cases event with
  | followBranch => exact h.followBranch
  | writeStatus index statusWord => exact h.writeStatus index statusWord

lemma work_spec (events : List HardwareEvent) : ∀ s : ReceiveDma,
    s.ring.Grown (s.work events).ring ∧
      ∀ base, s.Working base → (s.work events).Working base := by
  induction events with
  | nil => exact fun s => ⟨Grown.refl _, fun _ h => h⟩
  | cons event events ih =>
    intro s
    obtain ⟨hgrown, hworking⟩ := ih (s.hardware event)
    exact ⟨(hardware_grown s event).trans hgrown, fun base h => hworking base (h.hardware event)⟩

lemma touch_grown (s : ReceiveDma) : s.ring.Grown s.touch.ring := by
  unfold touch
  split
  · exact Grown.refl _
  · exact (work_spec _ s).1

lemma Working.touch (h : s.Working base) : s.touch.Working base := by
  unfold ReceiveDma.touch
  split
  · exact h
  · rename_i events _ _
    have hwork := (work_spec events s).2 base h
    exact ⟨hwork.lt, hwork.links, hwork.stop, hwork.ahead, hwork.entries⟩

/-! ### The marker moves -/

@[simp] lemma prepareTerminal_bufferCount (s : ReceiveDma) (i : ℕ) :
    (s.prepareTerminal i).ring.bufferCount = s.ring.bufferCount := rfl

@[simp] lemma prepareTerminal_nextIndex (s : ReceiveDma) (i j : ℕ) :
    (s.prepareTerminal i).ring.nextIndex j = s.ring.nextIndex j := rfl

@[simp] lemma prepareTerminal_descIOVABase (s : ReceiveDma) (i : ℕ) :
    (s.prepareTerminal i).ring.descIOVABase = s.ring.descIOVABase := rfl

@[simp] lemma prepareTerminal_current (s : ReceiveDma) (i : ℕ) :
    (s.prepareTerminal i).current = s.current := rfl

lemma prepareTerminal_self (s : ReceiveDma) (i : ℕ) : (s.prepareTerminal i).ring.descriptors i =
    (s.ring.descriptors i).clearZ.initStatus (s.ring.descriptors i).reqCount :=
  Function.update_self i _ _

lemma prepareTerminal_of_ne {i j : ℕ} (h : j ≠ i) :
    (s.prepareTerminal i).ring.descriptors j = s.ring.descriptors j :=
  Function.update_of_ne h _ _

@[simp] lemma linkTerminal_bufferCount (s : ReceiveDma) (i : ℕ) :
    (s.linkTerminal i).ring.bufferCount = s.ring.bufferCount := rfl

@[simp] lemma linkTerminal_nextIndex (s : ReceiveDma) (i j : ℕ) :
    (s.linkTerminal i).ring.nextIndex j = s.ring.nextIndex j := rfl

@[simp] lemma linkTerminal_descIOVABase (s : ReceiveDma) (i : ℕ) :
    (s.linkTerminal i).ring.descIOVABase = s.ring.descIOVABase := rfl

@[simp] lemma linkTerminal_current (s : ReceiveDma) (i : ℕ) :
    (s.linkTerminal i).current = s.current := rfl

lemma linkTerminal_self (s : ReceiveDma) (i : ℕ) :
    (s.linkTerminal i).ring.descriptors s.ring.lastLinkedIndex =
      (s.ring.descriptors s.ring.lastLinkedIndex).setZ :=
  Function.update_self _ _ _

lemma linkTerminal_of_ne {j : ℕ} (h : j ≠ s.ring.lastLinkedIndex) (i : ℕ) :
    (s.linkTerminal i).ring.descriptors j = s.ring.descriptors j :=
  Function.update_of_ne h _ _

/-- Between the two writes of `Recycle` the consumed head and the old terminal have no Z bit. -/
structure Turning (r : BufferRing) : Prop where
  two : 2 ≤ r.bufferCount
  head : r.head < r.bufferCount
  last : r.lastLinkedIndex = (r.head + r.bufferCount - 1) % r.bufferCount
  z : ∀ i < r.bufferCount, (r.descriptors i).zBit = 0 ↔ i = r.lastLinkedIndex ∨ i = r.head

lemma Turning.grown {r r' : BufferRing} (h : Turning r) (hg : r.Grown r') : Turning r' := by
  constructor
  · rw [hg.bufferCount]
    exact h.two
  · rw [hg.head, hg.bufferCount]
    exact h.head
  · rw [hg.lastLinkedIndex, hg.head, hg.bufferCount]
    exact h.last
  · intro i hi
    rw [hg.zBit, hg.lastLinkedIndex, hg.head]
    exact h.z i (hi.trans_eq hg.bufferCount)

lemma before_nextIndex {r : BufferRing} (h : index < r.bufferCount) :
    (r.nextIndex index + r.bufferCount - 1) % r.bufferCount = index := by
  rw [nextIndex, Nat.add_sub_assoc (by omega), Nat.mod_add_mod,
    show index + 1 + (r.bufferCount - 1) = index + r.bufferCount by omega, Nat.add_mod_right,
    Nat.mod_eq_of_lt h]

lemma turning_prepareTerminal (h : s.ring.Marked) : Turning (s.prepareTerminal s.ring.head).ring := by
  refine ⟨h.two, h.head, h.last, fun i hi => ?_⟩
  change _ ↔ i = s.ring.lastLinkedIndex ∨ i = s.ring.head
  by_cases hi' : i = s.ring.head
  · subst hi'
    rw [prepareTerminal_self]
    simp [ARDescriptor.clearZ, ARDescriptor.initStatus, ARDescriptor.zBit]
  · rw [prepareTerminal_of_ne hi', h.z i hi]
    simp [hi']

lemma bytesFilled_initStatus (desc : ARDescriptor) :
    (desc.clearZ.initStatus desc.reqCount).bytesFilled = 0 := by
  simp [ARDescriptor.bytesFilled, ARDescriptor.resCount, ARDescriptor.reqCount,
    ARDescriptor.initStatus, ARDescriptor.clearZ]

/-- The controller's way now begins behind the recycled buffer, which is the last one on it. -/
lemma Working.prepareTerminal (h : s.Working s.ring.head) :
    (s.prepareTerminal s.ring.head).Working (s.ring.nextIndex s.ring.head) := by
  have hpos : 0 < s.ring.bufferCount := by have := h.lt; omega
  obtain ⟨d, hd, hcurrent, hahead⟩ := h.ahead
  have hpath (k : ℕ) : (s.ring.nextIndex s.ring.head + k) % s.ring.bufferCount =
      (s.ring.head + (k + 1)) % s.ring.bufferCount := by
    rw [nextIndex, Nat.mod_add_mod]
    congr 1
    omega
  have hround : (s.ring.head + (s.ring.bufferCount - 1 + 1)) % s.ring.bufferCount = s.ring.head := by
    rw [Nat.sub_add_cancel hpos, Nat.add_mod_right, Nat.mod_eq_of_lt h.lt]
  refine ⟨Nat.mod_lt _ hpos, fun i hi => ?_, ?_, ?_, h.entries⟩
  · rw [prepareTerminal_descIOVABase, prepareTerminal_nextIndex]
    by_cases hi' : i = s.ring.head
    · subst hi'
      have hlinks := h.links _ h.lt
      rw [prepareTerminal_self]
      simp only [ARDescriptor.initStatus, ARDescriptor.clearZ]
      omega
    · rw [prepareTerminal_of_ne hi']
      exact h.links i hi
  · rw [prepareTerminal_bufferCount, before_nextIndex h.lt, prepareTerminal_self]
    simp [ARDescriptor.clearZ, ARDescriptor.initStatus, ARDescriptor.zBit]
  simp only [prepareTerminal_bufferCount, prepareTerminal_current, hpath]
  by_cases hhere : d = 0
  · subst hhere
    refine ⟨s.ring.bufferCount - 1, by omega, ?_, fun k hk hlt => by omega⟩
    rw [hround, hcurrent, Nat.add_zero, Nat.mod_eq_of_lt h.lt]
  refine ⟨d - 1, by omega, by rw [hcurrent, Nat.sub_add_cancel (by omega)], fun k hk hlt => ?_⟩
  have hfar : s.ring.head ≠ s.current := by
    rw [hcurrent]
    intro hsame
    have hmod : s.ring.head + d ≡ s.ring.head + 0 [MOD s.ring.bufferCount] := by
      rw [Nat.ModEq, ← hsame, Nat.add_zero, Nat.mod_eq_of_lt h.lt]
    have hzero := Nat.ModEq.add_left_cancel' _ hmod
    rw [Nat.ModEq, Nat.mod_eq_of_lt hd, Nat.zero_mod] at hzero
    exact hhere hzero
  by_cases hlast : (s.ring.head + (k + 1)) % s.ring.bufferCount = s.ring.head
  · rw [hlast, prepareTerminal_self]
    exact ⟨by simp [ReceiveDma.prepareTerminal, hfar], bytesFilled_initStatus _⟩
  · have hk' : k + 1 < s.ring.bufferCount := by
      by_contra hend
      apply hlast
      rw [show k = s.ring.bufferCount - 1 by omega]
      exact hround
    obtain ⟨howned, hempty⟩ := hahead (k + 1) (by omega) hk'
    rw [prepareTerminal_of_ne hlast]
    refine ⟨?_, hempty⟩
    rw [ReceiveDma.prepareTerminal, ← howned]
    exact Function.update_of_ne hlast _ _

lemma bytesFilled_linkTerminal (s : ReceiveDma) (i j : ℕ) :
    ((s.linkTerminal i).ring.descriptors j).bytesFilled = (s.ring.descriptors j).bytesFilled := by
  by_cases hj : j = s.ring.lastLinkedIndex
  · rw [hj, linkTerminal_self]
    rfl
  · rw [linkTerminal_of_ne hj]

lemma Working.linkTerminal (h : s.Working base) (hstop : (base + s.ring.bufferCount - 1) %
    s.ring.bufferCount ≠ s.ring.lastLinkedIndex) (index : ℕ) :
    (s.linkTerminal index).Working base := by
  obtain ⟨d, hd, hcurrent, hahead⟩ := h.ahead
  refine ⟨h.lt, fun i hi => ?_, ?_, ⟨d, hd, hcurrent, fun k hk hlt => ?_⟩, h.entries⟩
  · rw [linkTerminal_descIOVABase, linkTerminal_nextIndex]
    by_cases hi' : i = s.ring.lastLinkedIndex
    · have hlinks := h.links i hi
      rw [hi'] at hlinks ⊢
      rw [linkTerminal_self]
      simp only [ARDescriptor.setZ]
      omega
    · rw [linkTerminal_of_ne hi']
      exact h.links i hi
  · rw [linkTerminal_bufferCount, linkTerminal_of_ne hstop]
    exact h.stop
  · obtain ⟨howned, hempty⟩ := hahead k hk hlt
    rw [bytesFilled_linkTerminal]
    exact ⟨howned, hempty⟩

lemma last_ne_head {r : BufferRing} (h : Turning r) : r.lastLinkedIndex ≠ r.head := by
  have htwo := h.two
  have hlt := h.head
  rw [h.last]
  by_cases hzero : r.head = 0
  · rw [hzero, Nat.zero_add, Nat.mod_eq_of_lt (by omega)]
    omega
  · rw [show r.head + r.bufferCount - 1 = r.head - 1 + r.bufferCount by omega, Nat.add_mod_right,
      Nat.mod_eq_of_lt (by omega)]
    omega

lemma marked_linkTerminal (h : Turning s.ring)
    (hworking : (s.linkTerminal s.ring.head).Working base) :
    (s.linkTerminal s.ring.head).ring.Marked := by
  refine ⟨h.two, Nat.mod_lt _ (by have := h.two; omega), (before_nextIndex h.head).symm,
    fun i hi => ?_, hworking.links⟩
  change _ ↔ i = s.ring.head
  by_cases hi' : i = s.ring.lastLinkedIndex
  · rw [hi', linkTerminal_self]
    simp [ARDescriptor.setZ, ARDescriptor.zBit, last_ne_head h]
  · rw [linkTerminal_of_ne hi', h.z i hi]
    simp [hi']

/-- What holds between two calls. -/
structure Inv (s : ReceiveDma) : Prop where
  marked : s.ring.Marked
  consumed : s.ring.lastDequeuedBytes ≤ (s.ring.descriptors s.ring.head).bytesFilled
  working : s.Working s.ring.head

lemma Inv.of_grown {s' : ReceiveDma} (h : s.Inv) (hg : s.ring.Grown s'.ring)
    (hworking : s'.Working s.ring.head) : s'.Inv where
  marked := h.marked.grown hg
  consumed := by
    rw [hg.lastDequeuedBytes, hg.head]
    exact h.consumed.trans (hg.filled _)
  working := by
    rw [hg.head]
    exact hworking

lemma Inv.touch (h : s.Inv) : s.touch.Inv := h.of_grown (touch_grown s) h.working.touch

lemma Inv.hardware (h : s.Inv) (event : HardwareEvent) : (s.hardware event).Inv :=
  h.of_grown (hardware_grown s event) (h.working.hardware event)

lemma Inv.recycle (h : s.Inv) (index : ℕ) : (s.recycle index).1.Inv := by
  unfold ReceiveDma.recycle
  split
  · exact h
  rename_i hhead
  split
  · exact h
  have htouched := h.touch
  have hheadT : s.touch.ring.head = s.ring.head := (touch_grown s).head
  obtain rfl : index = s.touch.ring.head := (not_not.mp hhead).trans hheadT.symm
  set t := s.touch
  have hgrown := touch_grown (t.prepareTerminal t.ring.head)
  have hturning := (turning_prepareTerminal htouched.marked).grown hgrown
  have hworking := htouched.working.prepareTerminal.touch
  set u := (t.prepareTerminal t.ring.head).touch
  have hheadU : t.ring.head = u.ring.head := hgrown.head.symm
  have hcountU : u.ring.bufferCount = t.ring.bufferCount := hgrown.bufferCount
  have hstop : (t.ring.nextIndex t.ring.head + u.ring.bufferCount - 1) % u.ring.bufferCount ≠
      u.ring.lastLinkedIndex := by
    rw [hcountU, before_nextIndex htouched.working.lt, hheadU]
    exact (last_ne_head hturning).symm
  have hlinked := hworking.linkTerminal hstop t.ring.head
  rw [hheadU] at hlinked ⊢
  refine ⟨marked_linkTerminal hturning hlinked, Nat.zero_le _, ?_⟩
  have hnext : (u.linkTerminal u.ring.head).ring.head = t.ring.nextIndex u.ring.head :=
    hgrown.nextIndex _
  rw [hnext]
  exact hlinked

/-! ### The calls -/

/-- The marks of what has been handed out and consumed. -/
def remark (s : ReceiveDma) (dequeued observed : ℕ) : ReceiveDma :=
  { s with ring := { s.ring with
    lastDequeuedBytes := dequeued, lastObservedTotalBytes := observed } }

lemma Inv.remark (h : s.Inv) {dequeued : ℕ}
    (hdequeued : dequeued ≤ (s.ring.descriptors s.ring.head).bytesFilled) (observed : ℕ) :
    (s.remark dequeued observed).Inv where
  marked := ⟨h.marked.two, h.marked.head, h.marked.last, h.marked.z, h.marked.links⟩
  consumed := hdequeued
  working := ⟨h.working.lt, h.working.links, h.working.stop, h.working.ahead, h.working.entries⟩

lemma Inv.observe (h : s.Inv) (total : ℕ) : (s.observe total).Inv := h.remark h.consumed total

lemma Inv.dequeueAdvanced (h : s.Inv) : s.dequeueAdvanced.1.Inv := by
  simp only [ReceiveDma.dequeueAdvanced]
  split
  · exact h.touch
  · split <;> exact h.touch

lemma Inv.dequeueDrained (h : s.Inv) : s.dequeueDrained.1.Inv := by
  have hreread := h.touch.touch
  simp only [ReceiveDma.dequeueDrained]
  split
  · exact h.touch
  split
  · split
    · exact hreread
    · exact hreread.observe _
  · have hrecycled := hreread.recycle s.touch.touch.ring.head
    split
    · rename_i hresult
      rw [hresult] at hrecycled
      exact hrecycled.dequeueAdvanced
    · rename_i hresult
      rw [hresult] at hrecycled
      exact hrecycled

lemma Inv.dequeueObserved (h : s.Inv) (desc : ARDescriptor) : (s.dequeueObserved desc).1.Inv := by
  simp only [ReceiveDma.dequeueObserved]
  split
  · split
    · split <;> exact h.touch
    · exact h.touch
  · exact h

lemma Inv.dequeue (h : s.Inv) : s.dequeue.1.Inv := by
  simp only [ReceiveDma.dequeue]
  split
  · exact h
  split
  · exact h.touch.dequeueDrained
  split
  · exact h.touch.dequeueObserved _
  split
  · exact h.touch
  split
  · exact h.touch
  · exact h.touch.observe _

lemma Inv.commitConsumed (h : s.Inv) (index consumedBytes : ℕ) :
    (s.commitConsumed index consumedBytes).1.Inv := by
  simp only [ReceiveDma.commitConsumed]
  split
  · exact h
  rename_i hhead
  split
  · exact h
  split
  · exact h.touch
  rename_i hfilled
  split
  · exact h.touch
  · have hhead' : index = s.touch.ring.head := (not_not.mp hhead).trans (touch_grown s).head.symm
    rw [hhead'] at hfilled
    exact h.touch.remark (not_lt.mp hfilled) _

lemma Inv.availableBytes {consumedBytes : ℕ} : ∀ (visits : ℕ) {s : ReceiveDma} (_ : s.Inv)
    (index startOffset available : ℕ),
    (availableBytes consumedBytes visits s index startOffset available).1.Inv := by
  intro visits
  induction visits with
  | zero => exact fun h _ _ _ => h
  | succ visits ih =>
    intro s h index startOffset available
    simp only [ReceiveDma.availableBytes]
    split
    · exact h
    split
    · exact h.touch
    split
    · exact h.touch
    · exact ih h.touch _ _ _

lemma Inv.consumeLoop : ∀ (turns : ℕ) {s : ReceiveDma} (_ : s.Inv) (remaining : ℕ),
    (consumeLoop turns s remaining).1.Inv := by
  intro turns
  induction turns with
  | zero => exact fun h _ => h
  | succ turns ih =>
    intro s h remaining
    have htouched := h.touch
    have hdrained := htouched.remark le_rfl (s.touch.ring.descriptors s.touch.ring.head).bytesFilled
    simp only [ReceiveDma.consumeLoop]
    split
    · exact h
    split
    · exact htouched
    split
    · exact htouched
    split
    · exact htouched.remark (by omega) _
    split
    · exact hdrained
    · have hrecycled := hdrained.recycle s.touch.ring.head
      split
      · rename_i hresult
        rw [ReceiveDma.remark, hresult] at hrecycled
        exact ih hrecycled _
      · rename_i hresult
        rw [ReceiveDma.remark, hresult] at hrecycled
        exact hrecycled

lemma Inv.consumeReadableBytes (h : s.Inv) (consumedBytes : ℕ) :
    (s.consumeReadableBytes consumedBytes).1.Inv := by
  simp only [ReceiveDma.consumeReadableBytes]
  split
  · exact h
  split
  · exact h
  have havailable : (ReceiveDma.availableBytes consumedBytes s.ring.bufferCount s s.ring.head
      s.ring.lastDequeuedBytes 0).1.Inv := Inv.availableBytes _ h _ _ _
  split
  · rename_i hresult
    rw [hresult] at havailable
    exact havailable
  · rename_i hresult
    rw [hresult] at havailable
    split
    · exact havailable
    · exact havailable.consumeLoop _ _

lemma Inv.step (h : s.Inv) (event : RingEvent) : (s.step event).Inv := by
  cases event with
  | dequeue => exact h.dequeue
  | commitConsumed index consumedBytes => exact h.commitConsumed index consumedBytes
  | consumeReadableBytes consumedBytes => exact h.consumeReadableBytes consumedBytes
  | recycle index => exact h.recycle index
  | hardware event => exact h.hardware event

/-! ### Runs -/

/-- The context runs from descriptor 0 on, and the controller works whenever the schedule says. -/
def start (ring : BufferRing) (schedule : List (List HardwareEvent)) : ReceiveDma where
  ring := ring
  schedule := schedule

lemma inv_start {ring : BufferRing} (h : ring.Fresh) (schedule : List (List HardwareEvent)) :
    (start ring schedule).Inv := by
  have hpos := h.marked.two
  refine ⟨h.marked, (h.drained).trans_le (Nat.zero_le _), ⟨h.marked.head, h.marked.links, ?_, ?_, by
    simp [start]⟩⟩
  · have hlt : (ring.head + ring.bufferCount - 1) % ring.bufferCount < ring.bufferCount :=
      Nat.mod_lt _ (by omega)
    exact (h.marked.z _ hlt).mpr h.marked.last.symm
  · refine ⟨0, by dsimp only [start]; omega, ?_, fun k hk hlt => ?_⟩
    · simp [start, h.head]
    · change k < ring.bufferCount at hlt
      simp only [start, h.head, Nat.zero_add, Nat.mod_eq_of_lt hlt]
      exact ⟨by simp; omega, h.empty k hlt⟩

end ReceiveDma

end ASFireWire.Shared
