import ASFireWire.ATManager

/-! Runs of AT submissions. The chains from the controller's cursor on form a linked list in the
ring (`LinkedChains`); as long as a chain submitted behind uncompleted ones can find the previous
OUTPUT_LAST, every uncompleted chain stays on that list. -/
namespace ASFireWire.Async

/-! ### Reserved blocks -/

/-- The region from `a` up to the tail, round the ring. -/
def RingRegion (a tail x : ℕ) : Prop := if a ≤ tail then a ≤ x ∧ x < tail else a ≤ x ∨ x < tail

namespace DescriptorRing
variable {ring : DescriptorRing} {n index : ℕ}

/-- Reserved blocks are contiguous, inside the ring and outside the region in flight. -/
lemma reserveBlocks_spec (h : ring.reserveBlocks n = some index) (htail : ring.tail < ring.capacity)
    (hhead : ring.head < ring.capacity) :
    0 < n ∧ index + n ≤ ring.capacity ∧ (ring.head ≠ ring.tail →
      ∀ x, index ≤ x → x < index + n → ¬ RingRegion ring.head ring.tail x) := by
  unfold reserveBlocks at h
  unfold RingRegion
  split_ifs at h with h0 h1 h2 h3 h4 <;> simp only [Option.some.injEq] at h <;>
    subst h <;> refine ⟨by omega, by omega, fun hne x hx hx' => ?_⟩ <;> split_ifs <;> omega

/-- Unless the reservation fills the ring exactly, it is smaller than the ring. -/
lemma reserveBlocks_lt (h : ring.reserveBlocks n = some index) (htail : ring.tail < ring.capacity)
    (hhead : ring.head < ring.capacity) (hne : ring.head ≠ (index + n) % ring.capacity) :
    n < ring.capacity := by
  obtain ⟨-, hle, -⟩ := reserveBlocks_spec h htail hhead
  rcases Nat.lt_or_ge n ring.capacity with hlt | hge
  · exact hlt
  · have hzero : index = 0 := by omega
    have hn : n = ring.capacity := by omega
    subst hzero
    rw [Nat.zero_add, hn, Nat.mod_self] at hne
    unfold reserveBlocks at h
    split_ifs at h <;> simp only [Option.some.injEq] at h <;> omega

/-- A region that starts inside the ring's one keeps its blocks and gains the reserved ones. -/
lemma reserveBlocks_extend (h : ring.reserveBlocks n = some index)
    (htail : ring.tail < ring.capacity) (hhead : ring.head < ring.capacity)
    (hne : ring.head ≠ (index + n) % ring.capacity) {a : ℕ}
    (hreg : RingRegion ring.head ring.tail a) :
    (∀ x, RingRegion a ring.tail x → x < ring.capacity →
      RingRegion a ((index + n) % ring.capacity) x) ∧
    ∀ x, index ≤ x → x < index + n → RingRegion a ((index + n) % ring.capacity) x := by
  unfold reserveBlocks at h
  unfold RingRegion at *
  split_ifs at h with h0 h1 h2 h3 h4 <;> simp only [Option.some.injEq] at h <;>
    subst h
  · rcases Nat.lt_or_ge (ring.tail + n) ring.capacity with hlt | hge
    · rw [Nat.mod_eq_of_lt hlt] at hne ⊢
      constructor <;> intro x <;> split_ifs at hreg ⊢ <;> omega
    · have heq : ring.tail + n = ring.capacity := by omega
      rw [heq, Nat.mod_self] at hne ⊢
      constructor <;> intro x <;> split_ifs at hreg ⊢ <;> omega
  · rw [Nat.zero_add, Nat.mod_eq_of_lt (by omega)] at hne ⊢
    constructor <;> intro x <;> split_ifs at hreg ⊢ <;> omega
  · rw [Nat.mod_eq_of_lt (by omega)] at hne ⊢
    constructor <;> intro x <;> split_ifs at hreg ⊢ <;> omega

/-- The reserved blocks form the region of their own chain. -/
lemma ringRegion_self {cap : ℕ} (hle : index + n ≤ cap) (hn : 0 < n) (hlt : n < cap) :
    ∀ x, index ≤ x → x < index + n → RingRegion index ((index + n) % cap) x := by
  intro x hx hx'
  unfold RingRegion
  rcases Nat.lt_or_ge (index + n) cap with h | h
  · rw [Nat.mod_eq_of_lt h]
    split_ifs <;> omega
  · have heq : index + n = cap := by omega
    rw [heq, Nat.mod_self]
    split_ifs <;> omega

/-- In an empty ring the reserved blocks become the region in flight. -/
lemma reserveBlocks_empty (h : ring.reserveBlocks n = some index) (hempty : ring.head = ring.tail)
    (hhead : ring.head < ring.capacity) (hne : ring.head ≠ (index + n) % ring.capacity) :
    ∀ x, index ≤ x → x < index + n → RingRegion ring.head ((index + n) % ring.capacity) x := by
  intro x hx hx'
  have htail : ring.tail < ring.capacity := hempty ▸ hhead
  have hlt := reserveBlocks_lt h htail hhead hne
  obtain ⟨hpos, hle, -⟩ := reserveBlocks_spec h htail hhead
  have hown := ringRegion_self hle hpos hlt x hx hx'
  unfold reserveBlocks at h
  split_ifs at h with h0 h1 h2 h3 <;> simp only [Option.some.injEq] at h <;> subst h
  · rwa [hempty]
  · rw [Nat.zero_add, Nat.mod_eq_of_lt hlt] at hne ⊢
    unfold RingRegion
    split_ifs <;> omega
  · omega

/-- What a reservation is for: contiguous blocks inside the ring, none of them in flight, and a ring
that is not empty once the tail is behind them. -/
structure ReservationSound (ring : DescriptorRing) (n index : ℕ) : Prop where
  inside : index + n ≤ ring.capacity
  apart : ∀ x, index ≤ x → x < index + n → ¬ RingRegion ring.head ring.tail x
  notEmpty : ∀ chain : DescriptorChain, chain.lastRingIndex + 1 = index + n →
    (ring.updateRingTail chain).isEmpty = false

/-- The run of blocks that the reservation takes does not end at the head: at the end of the ring
with the head at 0, before the head after a wrap, or before the head that follows the tail. -/
def LeavesGap (ring : DescriptorRing) (n : ℕ) : Prop :=
  if ring.head ≤ ring.tail then
    if n ≤ ring.capacity - ring.tail then ring.tail + n = ring.capacity → 0 < ring.head
    else n < ring.head
  else n < ring.head - ring.tail

instance (ring : DescriptorRing) (n : ℕ) : Decidable (ring.LeavesGap n) := by
  unfold LeavesGap
  infer_instance

lemma leavesGap_iff_ne (h : ring.reserveBlocks n = some index) (htail : ring.tail < ring.capacity)
    (hhead : ring.head < ring.capacity) :
    ring.LeavesGap n ↔ ring.head ≠ (index + n) % ring.capacity := by
  obtain ⟨hpos, -, -⟩ := reserveBlocks_spec h htail hhead
  unfold reserveBlocks at h
  unfold LeavesGap
  rw [if_neg (by omega)] at h
  by_cases hahead : ring.head ≤ ring.tail
  · rw [if_pos hahead] at h ⊢
    by_cases hend : n ≤ ring.capacity - ring.tail
    · rw [if_pos hend] at h ⊢
      cases h
      rcases Nat.lt_or_ge (ring.tail + n) ring.capacity with hlt | hge
      · rw [Nat.mod_eq_of_lt hlt]
        constructor <;> intro <;> omega
      · have heq : ring.tail + n = ring.capacity := by omega
        rw [heq, Nat.mod_self]
        exact ⟨fun h0 => (h0 rfl).ne', fun h0 _ => Nat.pos_of_ne_zero h0⟩
    · rw [if_neg hend] at h ⊢
      by_cases hwrap : n ≤ ring.head
      · rw [if_pos hwrap] at h
        cases h
        rw [Nat.zero_add, Nat.mod_eq_of_lt (by omega)]
        constructor <;> intro <;> omega
      · rw [if_neg hwrap] at h
        cases h
  · rw [if_neg hahead] at h ⊢
    by_cases hroom : n ≤ ring.head - ring.tail
    · rw [if_pos hroom] at h
      cases h
      rw [Nat.mod_eq_of_lt (by omega)]
      constructor <;> intro <;> omega
    · rw [if_neg hroom] at h
      cases h

/-- A reservation is sound exactly when it does not take the last free block before the head. -/
theorem reservationSound_iff_leavesGap (h : ring.reserveBlocks n = some index)
    (htail : ring.tail < ring.capacity) (hhead : ring.head < ring.capacity) :
    ring.ReservationSound n index ↔ ring.LeavesGap n := by
  rw [leavesGap_iff_ne h htail hhead]
  obtain ⟨hpos, hle, hapart⟩ := reserveBlocks_spec h htail hhead
  constructor
  · rintro ⟨-, -, hne⟩ heq
    have hfull := hne ⟨0, 0, 0, 0, 0, 0, 0, index + n - 1, false⟩ (by dsimp only; omega)
    rw [isEmpty, decide_eq_false_iff_not] at hfull
    apply hfull
    simp only [updateRingTail]
    rw [Nat.sub_add_cancel (by omega)]
    exact heq
  · intro hne
    refine ⟨hle, fun x hx hx' hregion => ?_, fun chain hlast => ?_⟩
    · by_cases heq : ring.head = ring.tail
      · unfold RingRegion at hregion
        rw [if_pos heq.le] at hregion
        omega
      · exact hapart heq x hx hx' hregion
    · rw [isEmpty, decide_eq_false_iff_not]
      simp only [updateRingTail]
      rw [hlast]
      exact hne

theorem reservationSound_halfFull :
    ReservationSound ⟨8, fun _ => {}, 0, 2, 0, 16, rfl, by decide, by decide⟩ 3 2 :=
  (reservationSound_iff_leavesGap rfl (by decide) (by decide)).mpr (by decide)

/-- Two chains of two blocks fill a ring of four, which then counts as empty. -/
theorem not_reservationSound_full : ∃ (ring : DescriptorRing) (index : ℕ),
    ring.tail < ring.capacity ∧ ring.head < ring.capacity ∧
      ring.reserveBlocks 2 = some index ∧ ¬ ring.ReservationSound 2 index := by
  refine ⟨⟨4, fun _ => {}, 0, 2, 0, 16, rfl, by decide, by decide⟩, 2, by decide, by decide, rfl, fun h => ?_⟩
  have hfull := h.notEmpty ⟨2, 2, 48, 48, 2, 2, 2, 3, false⟩ rfl
  cases hfull

end DescriptorRing

/-! ### Chains in the ring -/

namespace SubmittedChain

def blocks (c : SubmittedChain) : ℕ := if c.req.headerOnly then 2 else 3

/-- Ring indices of the chain's blocks. -/
def Covers (c : SubmittedChain) (x : ℕ) : Prop := c.first ≤ x ∧ x < c.first + c.blocks

/-- The layout `BuildTransactionChain` gives a chain. -/
structure Shaped (capacity base : ℕ) (c : SubmittedChain) : Prop where
  fits : c.first + c.blocks ≤ capacity
  iova : c.firstIOVA32 = base + 16 * c.first
  lastRing : c.lastRingIndex + 1 = c.first + c.blocks
  last : c.last = if c.req.headerOnly then c.first else c.first + 2
  lastBlocks : c.lastBlocks = if c.req.headerOnly then 2 else 1
  firstBlocks : c.firstBlocks = 2

lemma blocks_pos (c : SubmittedChain) : 0 < c.blocks := by
  unfold blocks
  split <;> omega

lemma covers_first (c : SubmittedChain) : c.Covers c.first := ⟨le_rfl, by have := c.blocks_pos; omega⟩

lemma Shaped.covers_last {capacity base : ℕ} {c : SubmittedChain} (h : c.Shaped capacity base) :
    c.Covers c.last := by
  have hl := h.last
  unfold Covers blocks
  cases hreq : c.req.headerOnly with
  | true =>
    simp only [hreq, if_true] at hl ⊢
    omega
  | false =>
    simp only [hreq, Bool.false_eq_true, if_false] at hl ⊢
    omega

lemma Shaped.totalBlocks {capacity base : ℕ} {c : SubmittedChain} (h : c.Shaped capacity base) :
    c.totalBlocks = c.blocks := by
  have hl := h.last
  have hb := h.lastBlocks
  have hf := h.firstBlocks
  unfold DescriptorChain.totalBlocks blocks
  split at hl <;> rename_i hreq <;> simp [hreq] at hb ⊢ <;> simp [hl, hf, hb]

/-- The chain's descriptors in memory, with this branch word in its OUTPUT_LAST. -/
def Carries (storage : ℕ → OHCIDescriptor) (c : SubmittedChain) (branch : ℕ) : Prop :=
  if c.req.headerOnly then
    ∃ status, storage c.first =
      { lastImmediate c.req with branchWord := branch, xferStatus := status }
  else storage c.first = moreImmediate c.req ∧ ∃ status, storage c.last =
    { payloadLast c.req with branchWord := branch, xferStatus := status }

/-- The branch word that leads to the chain. -/
def linkWord (c : SubmittedChain) : ℕ := makeBranchWordAT c.firstIOVA32 c.totalBlocks

lemma Carries.congr {storage storage' : ℕ → OHCIDescriptor} {c : SubmittedChain} {w : ℕ}
    {capacity base : ℕ} (hs : c.Shaped capacity base) (h : Carries storage c w)
    (hsame : ∀ x, c.Covers x → storage' x = storage x) : Carries storage' c w := by
  unfold Carries at *
  rw [hsame _ c.covers_first, hsame _ hs.covers_last]
  exact h

end SubmittedChain

open SubmittedChain

lemma DescriptorRing.word_spec {ring : DescriptorRing} {c : SubmittedChain}
    (h : c.Shaped ring.capacity ring.descIOVABase) (z : ℕ) (hz : z < 16) :
    c.firstIOVA32 / 16 * 16 + z ≠ 0 ∧ ring.indexOf (c.firstIOVA32 / 16 * 16 + z) = c.first ∧
      c.firstIOVA32 % 16 = 0 ∧ c.firstIOVA32 ≤ 0xFFFFFFFF := by
  have ha := ring.aligned
  have hb := ring.based
  have hf := ring.fits
  have hfit := h.fits
  have hpos := c.blocks_pos
  have hi := h.iova
  refine ⟨by omega, ?_, by omega, by omega⟩
  unfold DescriptorRing.indexOf
  omega

lemma DescriptorRing.linkWord_spec {ring : DescriptorRing} {c : SubmittedChain}
    (h : c.Shaped ring.capacity ring.descIOVABase) :
    c.linkWord ≠ 0 ∧ ring.indexOf c.linkWord = c.first := by
  have hbl : c.blocks = 2 ∨ c.blocks = 3 := by
    unfold blocks
    split <;> simp
  obtain ⟨h1, h2, h3, h4⟩ := DescriptorRing.word_spec h (c.blocks % 16) (by omega)
  have hw : c.linkWord = c.firstIOVA32 / 16 * 16 + c.blocks % 16 := by
    unfold linkWord makeBranchWordAT
    rw [h.totalBlocks, if_neg (by omega), if_neg (by omega)]
  rw [hw]
  exact ⟨h1, h2⟩

/-- Consecutive chains are linked by their branch words and the last one ends the list. -/
def LinkedChains (storage : ℕ → OHCIDescriptor) : List SubmittedChain → Prop
  | [] => True
  | [c] => c.Carries storage 0
  | c :: d :: rest => c.Carries storage d.linkWord ∧ LinkedChains storage (d :: rest)

lemma LinkedChains.congr {storage storage' : ℕ → OHCIDescriptor} {capacity base : ℕ}
    {chains : List SubmittedChain} (hs : ∀ c ∈ chains, c.Shaped capacity base)
    (h : LinkedChains storage chains)
    (hsame : ∀ c ∈ chains, ∀ x, c.Covers x → storage' x = storage x) :
    LinkedChains storage' chains := by
  induction chains with
  | nil => trivial
  | cons c rest ih =>
    cases rest with
    | nil => exact Carries.congr (hs c (by simp)) h (hsame c (by simp))
    | cons d rest =>
      exact ⟨Carries.congr (hs c (by simp)) h.1 (hsame c (by simp)),
        ih (fun e he => hs e (by simp_all)) h.2 fun e he => hsame e (by simp_all)⟩

lemma LinkedChains.carries {storage : ℕ → OHCIDescriptor} {chains : List SubmittedChain}
    (h : LinkedChains storage chains) : ∀ c ∈ chains, ∃ w, c.Carries storage w := by
  induction chains with
  | nil => simp
  | cons c rest ih =>
    intro e he
    cases rest with
    | nil =>
      rw [List.mem_singleton.mp he]
      exact ⟨0, h⟩
    | cons d rest =>
      rcases List.mem_cons.mp he with rfl | he
      · exact ⟨_, h.1⟩
      · exact ih h.2 e he

lemma lastOf_of_carries {ring : DescriptorRing} {c : SubmittedChain} {w : ℕ}
    (hs : c.Shaped ring.capacity ring.descIOVABase) (h : c.Carries ring.storage w) :
    ATContext.lastOf ring c.first = c.last ∧ (ring.storage c.last).branchWord = w := by
  have hl := hs.last
  unfold Carries at h
  unfold ATContext.lastOf
  split at h
  · rename_i hreq
    obtain ⟨status, hst⟩ := h
    simp only [hreq, if_true] at hl
    rw [hl, hst]
    exact ⟨rfl, rfl⟩
  · rename_i hreq
    obtain ⟨hfirst, status, hst⟩ := h
    simp only [hreq] at hl
    rw [hfirst, hst]
    exact ⟨hl.symm, rfl⟩

lemma SubmittedChain.Carries.key {storage : ℕ → OHCIDescriptor} {c : SubmittedChain} {w : ℕ}
    (h : c.Carries storage w) : (storage c.first).key = .immediate := by
  unfold Carries at h
  split at h
  · obtain ⟨status, hst⟩ := h
    rw [hst]
    rfl
  · rw [h.1]
    rfl

/-- Every chain of a linked list is reachable from its first one. -/
lemma LinkedChains.reaches {ring : DescriptorRing} {c : SubmittedChain}
    {rest : List SubmittedChain}
    (hs : ∀ d ∈ c :: rest, d.Shaped ring.capacity ring.descIOVABase)
    (h : LinkedChains ring.storage (c :: rest)) :
    ∀ d ∈ c :: rest, Relation.ReflTransGen (ATContext.Links ring) c.first d.first := by
  induction rest generalizing c with
  | nil =>
    intro d hd
    rw [List.mem_singleton.mp hd]
  | cons e rest ih =>
    intro d hd
    rcases List.mem_cons.mp hd with rfl | hd
    · exact .refl
    · obtain ⟨hlast, hbranch⟩ := lastOf_of_carries (hs c (by simp)) h.1
      obtain ⟨hne, hidx⟩ := DescriptorRing.linkWord_spec (hs e (by simp))
      have hlink : ATContext.Links ring c.first e.first := by
        unfold ATContext.Links
        rw [hlast, hbranch]
        exact ⟨hne, hidx.symm⟩
      exact .head hlink (ih (fun x hx => hs x (by simp_all)) h.2 d hd)

/-- What a successful `BuildTransactionChain` leaves in the ring. -/
structure Built (ring built : DescriptorRing) (c : SubmittedChain) : Prop where
  shaped : c.Shaped ring.capacity ring.descIOVABase
  reserved : ring.reserveBlocks c.blocks = some c.first
  carries : c.Carries built.storage 0
  blank : ∀ x, c.Covers x → (built.storage x).xferStatus = 0
  edge : ∀ x, c.Covers x → x + 1 = ring.capacity → (built.storage x).key = .standard
  same : ∀ x, ¬ c.Covers x → built.storage x = ring.storage x
  rest : built = { ring with storage := built.storage }

lemma DescriptorRing.validIOVA (ring : DescriptorRing) {index : ℕ} (h : index < ring.capacity) :
    validDescriptorIOVA (ring.iovaOf index) = true := by
  have ha := ring.aligned
  have hb := ring.based
  have hf := ring.fits
  have h0 : ring.iovaOf index ≠ 0 := by
    unfold DescriptorRing.iovaOf
    omega
  have h1 : ring.iovaOf index ≤ 0xFFFFFFFF := by
    unfold DescriptorRing.iovaOf
    omega
  have h2 : ring.iovaOf index % 16 = 0 := by
    unfold DescriptorRing.iovaOf
    omega
  simp [validDescriptorIOVA, h0, h1, h2]

lemma buildHeaderOnly_spec {ring : DescriptorRing} {req : ChainRequest}
    (hreq : req.headerOnly = true) (htail : ring.tail < ring.capacity)
    (hhead : ring.head < ring.capacity) :
    buildHeaderOnly ring req = (ring, none) ∨
      ∃ built c, buildHeaderOnly ring req = (built, some c) ∧ Built ring built ⟨c, req⟩ := by
  unfold buildHeaderOnly
  cases hres : ring.reserveBlocks 2 with
  | none => exact Or.inl rfl
  | some index =>
    obtain ⟨-, hle, -⟩ := DescriptorRing.reserveBlocks_spec hres htail hhead
    dsimp only
    rw [ring.validIOVA (by omega)]
    refine Or.inr ⟨_, _, rfl, ?_⟩
    · refine ⟨⟨?_, rfl, ?_, by simp [hreq], by simp [hreq], rfl⟩, ?_, ?_, fun x hx => ?_,
        fun x hx hedge => ?_, fun x hx => ?_, rfl⟩
      · simpa [SubmittedChain.blocks, hreq] using hle
      · simp only [SubmittedChain.blocks, hreq, if_true]
        rw [Nat.mod_eq_of_lt (by omega)]
      · simpa [SubmittedChain.blocks, hreq] using hres
      · simp only [SubmittedChain.Carries, hreq, if_true]
        exact ⟨0, by simp [DescriptorRing.write, lastImmediate]⟩
      · simp only [SubmittedChain.Covers, SubmittedChain.blocks, hreq, if_true] at hx
        obtain rfl | rfl : x = index ∨ x = index + 1 := by omega
        · simp [DescriptorRing.write, lastImmediate]
        · simp [DescriptorRing.write]
      · simp only [SubmittedChain.Covers, SubmittedChain.blocks, hreq, if_true] at hx
        obtain rfl : x = index + 1 := by omega
        simp [DescriptorRing.write]
      · simp only [SubmittedChain.Covers, SubmittedChain.blocks, hreq, if_true] at hx
        simp only [DescriptorRing.write]
        rw [Function.update_of_ne (by omega), Function.update_of_ne (by omega)]

lemma buildHeaderPayload_spec {ring : DescriptorRing} {req : ChainRequest}
    (hreq : req.headerOnly = false) (htail : ring.tail < ring.capacity)
    (hhead : ring.head < ring.capacity) :
    buildHeaderPayload ring req = (ring, none) ∨
      ∃ built c, buildHeaderPayload ring req = (built, some c) ∧ Built ring built ⟨c, req⟩ := by
  unfold buildHeaderPayload
  split_ifs
  · exact Or.inl rfl
  cases hres : ring.reserveBlocks 3 with
  | none => exact Or.inl rfl
  | some index =>
    obtain ⟨-, hle, -⟩ := DescriptorRing.reserveBlocks_spec hres htail hhead
    have hmod : (index + 2) % ring.capacity = index + 2 := Nat.mod_eq_of_lt (by omega)
    dsimp only
    rw [hmod, ring.validIOVA (by omega), ring.validIOVA (by omega)]
    refine Or.inr ⟨_, _, rfl, ?_⟩
    · refine ⟨⟨?_, rfl, ?_, by simp [hreq], by simp [hreq], rfl⟩, ?_, ?_, fun x hx => ?_,
        fun x hx hedge => ?_, fun x hx => ?_, rfl⟩
      · simpa [SubmittedChain.blocks, hreq] using hle
      · simp only [SubmittedChain.blocks, hreq, Bool.false_eq_true, if_false]
        rw [hmod]
      · simpa [SubmittedChain.blocks, hreq] using hres
      · simp only [SubmittedChain.Carries, hreq, Bool.false_eq_true, if_false]
        refine ⟨by simp [DescriptorRing.write], 0, by simp [DescriptorRing.write, payloadLast]⟩
      · simp only [SubmittedChain.Covers, SubmittedChain.blocks, hreq, Bool.false_eq_true,
          if_false] at hx
        obtain rfl | rfl | rfl : x = index ∨ x = index + 1 ∨ x = index + 2 := by omega
        · simp [DescriptorRing.write, moreImmediate, lastImmediate]
        · simp [DescriptorRing.write]
        · simp [DescriptorRing.write, payloadLast]
      · simp only [SubmittedChain.Covers, SubmittedChain.blocks, hreq, Bool.false_eq_true,
          if_false] at hx
        obtain rfl : x = index + 2 := by omega
        simp [DescriptorRing.write, payloadLast]
      · simp only [SubmittedChain.Covers, SubmittedChain.blocks, hreq, Bool.false_eq_true,
          if_false] at hx
        simp only [DescriptorRing.write]
        rw [Function.update_of_ne (by omega), Function.update_of_ne (by omega),
          Function.update_of_ne (by omega), Function.update_of_ne (by omega),
          Function.update_of_ne (by omega)]

lemma buildTransactionChain_spec {ring : DescriptorRing} (req : ChainRequest)
    (htail : ring.tail < ring.capacity) (hhead : ring.head < ring.capacity) :
    buildTransactionChain ring req = (ring, none) ∨
      ∃ built c, buildTransactionChain ring req = (built, some c) ∧ Built ring built ⟨c, req⟩ := by
  unfold buildTransactionChain
  split_ifs with h1 h2 h3 h4
  · exact Or.inl rfl
  · exact Or.inl rfl
  · exact Or.inl rfl
  · exact buildHeaderOnly_spec h4 htail hhead
  · exact buildHeaderPayload_spec (by simpa using h4) htail hhead

/-! ### Placement of the unreleased chains -/

/-- From each chain on, the blocks of it and its successors lie between it and the tail. -/
def Laid (tail : ℕ) : List SubmittedChain → Prop
  | [] => True
  | c :: rest => (∀ d ∈ c :: rest, ∀ x, d.Covers x → RingRegion c.first tail x) ∧ Laid tail rest

/-- Where the unreleased chains sit; once the ring is exactly full only their shape is known. -/
structure Placement (ring : DescriptorRing) (chains : List SubmittedChain) : Prop where
  headLt : ring.head < ring.capacity
  tailLt : ring.tail < ring.capacity
  shaped : ∀ c ∈ chains, c.Shaped ring.capacity ring.descIOVABase
  disjoint : chains.Pairwise fun c d => ∀ x, c.Covers x → ¬ d.Covers x
  region : ring.head ≠ ring.tail → ∀ c ∈ chains, ∀ x, c.Covers x →
    RingRegion ring.head ring.tail x
  laid : ring.head ≠ ring.tail → Laid ring.tail chains
  drained : chains = [] → ring.head = ring.tail

lemma Laid.append {ring : DescriptorRing} {chains : List SubmittedChain} {c : SubmittedChain}
    (hc : c.Shaped ring.capacity ring.descIOVABase)
    (hres : ring.reserveBlocks c.blocks = some c.first) (htail : ring.tail < ring.capacity)
    (hhead : ring.head < ring.capacity)
    (hne : ring.head ≠ (c.first + c.blocks) % ring.capacity)
    (hs : ∀ d ∈ chains, d.Shaped ring.capacity ring.descIOVABase)
    (hreg : ∀ d ∈ chains, ∀ x, d.Covers x → RingRegion ring.head ring.tail x)
    (h : Laid ring.tail chains) : Laid ((c.first + c.blocks) % ring.capacity) (chains ++ [c]) := by
  induction chains with
  | nil =>
    refine ⟨fun d hd x hx => ?_, trivial⟩
    rw [List.mem_singleton.mp hd] at hx
    exact DescriptorRing.ringRegion_self hc.fits c.blocks_pos
      (DescriptorRing.reserveBlocks_lt hres htail hhead hne) x hx.1 hx.2
  | cons a rest ih =>
    have hext := DescriptorRing.reserveBlocks_extend hres htail hhead hne
      (hreg a (by simp) a.first a.covers_first)
    refine ⟨fun d hd x hx => ?_, ih (fun d hd => hs d (by simp [hd]))
      (fun d hd => hreg d (by simp [hd])) h.2⟩
    rcases List.mem_append.mp (show d ∈ (a :: rest) ++ [c] from hd) with hd | hd
    · have hfit := (hs d hd).fits
      exact hext.1 x (h.1 d hd x hx) (lt_of_lt_of_le hx.2 hfit)
    · rw [List.mem_singleton.mp hd] at hx
      exact hext.2 x hx.1 hx.2

/-- Appending a chain in freshly reserved blocks. -/
lemma Placement.append {ring : DescriptorRing} {chains : List SubmittedChain} {c : SubmittedChain}
    (h : Placement ring chains) (hfull : chains ≠ [] → ring.head ≠ ring.tail)
    (hc : c.Shaped ring.capacity ring.descIOVABase)
    (hres : ring.reserveBlocks c.blocks = some c.first) (storage : ℕ → OHCIDescriptor)
    (prev : ℕ) :
    Placement { ring with storage := storage, tail := (c.first + c.blocks) % ring.capacity,
                          prevLastBlocks := prev } (chains ++ [c]) := by
  obtain ⟨hpos, hle, hfree⟩ := DescriptorRing.reserveBlocks_spec hres h.tailLt h.headLt
  have hcap : 0 < ring.capacity := by omega
  refine ⟨h.headLt, Nat.mod_lt _ hcap, ?_, ?_, ?_, ?_, by simp⟩
  · intro d hd
    rcases List.mem_append.mp hd with hd | hd
    · exact h.shaped d hd
    · rw [List.mem_singleton.mp hd]
      exact hc
  · rw [List.pairwise_append]
    refine ⟨h.disjoint, List.pairwise_singleton _ _, fun d hd e he x hx hx' => ?_⟩
    rw [List.mem_singleton.mp he] at hx'
    have hne := hfull (List.ne_nil_of_mem hd)
    exact hfree hne x hx'.1 hx'.2 (h.region hne d hd x hx)
  · intro hne d hd x hx
    have hself : RingRegion ring.head ((c.first + c.blocks) % ring.capacity) x := by
      cases chains with
      | nil =>
        rw [List.nil_append, List.mem_singleton] at hd
        subst hd
        exact DescriptorRing.reserveBlocks_empty hres (h.drained rfl) h.headLt hne x hx.1 hx.2
      | cons a rest =>
        have hht := hfull (by simp)
        have hstart : RingRegion ring.head ring.tail ring.head := by
          have := h.region hht a (by simp) a.first a.covers_first
          unfold RingRegion at this ⊢
          split_ifs at this ⊢ <;> omega
        have hext := DescriptorRing.reserveBlocks_extend hres h.tailLt h.headLt hne hstart
        rcases List.mem_append.mp hd with hd | hd
        · exact hext.1 x (h.region hht d hd x hx) (lt_of_lt_of_le hx.2 (h.shaped d hd).fits)
        · rw [List.mem_singleton.mp hd] at hx
          exact hext.2 x hx.1 hx.2
    exact hself
  · intro hne
    cases chains with
    | nil =>
      refine ⟨fun d hd x hx => ?_, trivial⟩
      rw [List.mem_singleton.mp hd] at hx
      exact DescriptorRing.ringRegion_self hle hpos
        (DescriptorRing.reserveBlocks_lt hres h.tailLt h.headLt hne) x hx.1 hx.2
    | cons a rest =>
      have hht := hfull (by simp)
      exact Laid.append hc hres h.tailLt h.headLt hne h.shaped (h.region hht) (h.laid hht)

namespace ATContext

/-- From the controller's cursor on, the chains form a linked list whose uncompleted part is
`pending`; earlier chains are complete. -/
structure Executing (s : ATContext) (retired : List SubmittedChain) (c : SubmittedChain)
    (rest : List SubmittedChain) : Prop where
  running : s.hw.run = true
  split : s.inRing = retired ++ c :: rest
  linked : LinkedChains s.ring.storage (c :: rest)
  cursor : s.hw.cursor = some c.first
  pending : s.pending = if s.hw.done then rest else c :: rest

structure Inv (s : ATContext) : Prop where
  alive : s.hw.dead = false
  placement : Placement s.ring s.inRing
  drained : s.inRing = [] → s.ring.prevLastBlocks = 0 ∧ s.pending = [] ∧ s.hw.run = false
  newest : ∀ c, s.inRing.getLast? = some c → s.state = .running ∧
    s.ring.tail = (c.first + c.blocks) % s.ring.capacity ∧ s.ring.prevLastBlocks = c.lastBlocks
  executing : s.inRing ≠ [] → ∃ retired c rest, s.Executing retired c rest

/-- The step does not reach the places where chains get lost: a submission behind uncompleted
chains follows a header-only chain, none is made into an exactly full ring, and a chain is
released only when the controller has completed it and has moved on. -/
def Allowed (s : ATContext) : ATEvent → Prop
  | .submit _ _ => (s.inRing ≠ [] → s.ring.head ≠ s.ring.tail) ∧
      (s.pending ≠ [] → ∀ c, s.inRing.getLast? = some c → c.req.headerOnly = true)
  | .hwStep _ => True
  | .reclaim => ∀ c rest, s.inRing = c :: rest →
      c ∉ s.pending ∧ (rest = [] ∨ s.hw.cursor ≠ some c.first)

instance (s : ATContext) : (e : ATEvent) → Decidable (s.Allowed e)
  | .submit _ _ => inferInstanceAs (Decidable ((s.inRing ≠ [] → s.ring.head ≠ s.ring.tail) ∧
      (s.pending ≠ [] → ∀ c ∈ s.inRing.getLast?, c.req.headerOnly = true)))
  | .hwStep _ => isTrue trivial
  | .reclaim =>
    match h : s.inRing with
    | [] => isTrue fun c rest hc => by simp [h] at hc
    | c :: rest => decidable_of_iff (c ∉ s.pending ∧ (rest = [] ∨ s.hw.cursor ≠ some c.first))
        ⟨fun hok d rest' hd => by
          obtain ⟨rfl, rfl⟩ := List.cons.inj (h.symm.trans hd)
          exact hok, fun hok => hok c rest h⟩

lemma Placement.ring_congr {ring ring' : DescriptorRing} {chains : List SubmittedChain}
    (h : Placement ring chains) (hring : ring' = { ring with storage := ring'.storage }) :
    Placement ring' chains := by
  rw [hring]
  exact ⟨h.headLt, h.tailLt, h.shaped, h.disjoint, h.region, h.laid, h.drained⟩

/-! ### Controller steps -/

lemma Executing.mem {s : ATContext} {retired : List SubmittedChain} {c : SubmittedChain}
    {rest : List SubmittedChain} (h : s.Executing retired c rest) :
    ∀ d ∈ c :: rest, d ∈ s.inRing := by
  intro d hd
  rw [h.split]
  exact List.mem_append_right _ hd

lemma LinkedChains.write_status {storage : ℕ → OHCIDescriptor} {capacity base : ℕ}
    {c : SubmittedChain} {rest : List SubmittedChain}
    (hs : ∀ d ∈ c :: rest, d.Shaped capacity base)
    (hdisj : (c :: rest).Pairwise fun c d => ∀ x, c.Covers x → ¬ d.Covers x)
    (h : LinkedChains storage (c :: rest)) (status : ℕ) :
    LinkedChains (Function.update storage c.last { storage c.last with xferStatus := status })
      (c :: rest) := by
  have hc := hs c (by simp)
  have hcarry : ∀ w, c.Carries storage w →
      c.Carries (Function.update storage c.last { storage c.last with xferStatus := status }) w := by
    intro w hw
    have hl := hc.last
    unfold Carries at hw ⊢
    split at hw <;> rename_i hreq <;> simp only [hreq] at hl ⊢
    · obtain ⟨st, hst⟩ := hw
      simp only [if_true] at hl ⊢
      rw [hl, Function.update_self, hst]
      exact ⟨status, rfl⟩
    · obtain ⟨hfirst, st, hst⟩ := hw
      simp only [Bool.false_eq_true, if_false] at hl ⊢
      rw [Function.update_of_ne (by omega), Function.update_self, hst]
      exact ⟨hfirst, status, rfl⟩
  cases rest with
  | nil => exact hcarry 0 h
  | cons d rest =>
    refine ⟨hcarry _ h.1, LinkedChains.congr (fun e he => hs e (by simp_all)) h.2 fun e he x hx => ?_⟩
    have hd := (List.pairwise_cons.mp hdisj).1 e he
    have hne : x ≠ c.last := by
      rintro rfl
      exact hd _ hc.covers_last hx
    exact Function.update_of_ne hne _ _

lemma Inv.nonempty_of_run {s : ATContext} (h : s.Inv) (hrun : s.hw.run = true) :
    s.inRing ≠ [] := fun hnil => by simp [(h.drained hnil).2.2] at hrun

lemma Executing.disjoint {s : ATContext} {retired : List SubmittedChain} {c : SubmittedChain}
    {rest : List SubmittedChain} (h : s.Executing retired c rest) (hinv : s.Inv) :
    (c :: rest).Pairwise fun c d => ∀ x, c.Covers x → ¬ d.Covers x := by
  have hd := hinv.placement.disjoint
  rw [h.split] at hd
  exact (List.pairwise_append.mp hd).2.1

lemma Executing.shaped {s : ATContext} {retired : List SubmittedChain} {c : SubmittedChain}
    {rest : List SubmittedChain} (h : s.Executing retired c rest) (hinv : s.Inv) :
    ∀ d ∈ c :: rest, d.Shaped s.ring.capacity s.ring.descIOVABase :=
  fun d hd => hinv.placement.shaped d (h.mem d hd)

lemma Executing.lastOf_cursor {s : ATContext} {retired : List SubmittedChain} {c : SubmittedChain}
    {rest : List SubmittedChain} (h : s.Executing retired c rest) (hinv : s.Inv) :
    lastOf s.ring c.first = c.last := by
  obtain ⟨w, hw⟩ := h.linked.carries c (by simp)
  exact (lastOf_of_carries (h.shaped hinv c (by simp)) hw).1

lemma Inv.completeCursor {s : ATContext} (h : s.Inv) (hrun : s.hw.run = true) (status : ℕ) :
    (s.completeCursor status).Inv := by
  obtain ⟨retired, c, rest, hex⟩ := h.executing (h.nonempty_of_run hrun)
  unfold ATContext.completeCursor
  rw [hex.cursor]
  dsimp only
  split_ifs with hdone
  · exact h
  rw [hex.lastOf_cursor h]
  refine ⟨h.alive, Placement.ring_congr h.placement rfl, ?_, h.newest, fun hne => ?_⟩
  · intro hnil
    exact absurd hnil (h.nonempty_of_run hrun)
  refine ⟨retired, c, rest, hex.running, hex.split, ?_, hex.cursor, ?_⟩
  · exact LinkedChains.write_status (hex.shaped h) (hex.disjoint h) hex.linked status
  · have hp := hex.pending
    simp only [hdone, Bool.false_eq_true, if_false] at hp
    simp only [hp, if_true]
    rw [List.filter_cons_of_neg (by simp), List.filter_eq_self]
    intro d hd
    have hdis := (List.pairwise_cons.mp (hex.disjoint h)).1 d hd
    have hne : d.first ≠ c.first := fun heq => hdis c.first c.covers_first (heq ▸ d.covers_first)
    simpa using hne

lemma Inv.hwStep {s : ATContext} (h : s.Inv) (status : ℕ) : (s.hwStep status).Inv := by
  unfold ATContext.hwStep
  split_ifs with hstop hdone
  · exact h
  · exact h.completeCursor (by simp_all) status
  · have hrun : s.hw.run = true := by
      cases hr : s.hw.run with
      | true => rfl
      | false => simp [hr] at hstop
    obtain ⟨retired, c, rest, hex⟩ := h.executing (h.nonempty_of_run hrun)
    rw [hex.cursor]
    dsimp only
    rw [hex.lastOf_cursor h]
    have hdone' : s.hw.done = true := by simpa using hdone
    cases rest with
    | nil =>
      rw [(lastOf_of_carries (hex.shaped h c (by simp)) hex.linked).2, if_pos rfl]
      exact h
    | cons d rest =>
      obtain ⟨hne, hidx⟩ := DescriptorRing.linkWord_spec (hex.shaped h d (by simp))
      rw [(lastOf_of_carries (hex.shaped h c (by simp)) hex.linked.1).2, if_neg hne, hidx]
      refine ⟨h.alive, h.placement, h.drained, h.newest, fun _ => ?_⟩
      refine ⟨retired ++ [c], d, rest, hex.running, by simp [hex.split], hex.linked.2, rfl, ?_⟩
      have hp := hex.pending
      rw [hdone'] at hp
      simpa using hp

/-! ### Releasing a chain -/

lemma Inv.reclaim {s : ATContext} (h : s.Inv) (hok : s.Allowed .reclaim) : s.reclaim.Inv := by
  unfold ATContext.reclaim
  split
  · exact h
  rename_i c rest hring
  obtain ⟨hdone, hmoved⟩ := hok c rest hring
  obtain ⟨retired, a, live, hex⟩ := h.executing (by simp [hring])
  split_ifs with hempty
  · exact h
  have hne : s.ring.head ≠ s.ring.tail := by simpa [DescriptorRing.isEmpty] using hempty
  have hsplit : c :: rest = retired ++ a :: live := hring.symm.trans hex.split
  have hpl := h.placement
  rw [hring] at hpl
  cases rest with
  | nil =>
    dsimp only
    have hlive : live = [] ∧ a = c := by
      cases retired with
      | nil => simp_all
      | cons r retired => simp at hsplit
    have hp := hex.pending
    rw [hlive.1, hlive.2] at hp
    have hpend : s.pending = [] := by
      cases hd : s.hw.done with
      | true => simpa [hd] using hp
      | false => exact absurd (by simp [hp, hd]) hdone
    exact ⟨h.alive, ⟨hpl.tailLt, hpl.tailLt, by simp, List.Pairwise.nil, by simp, fun _ => trivial,
      fun _ => rfl⟩, fun _ => ⟨rfl, hpend, rfl⟩, by simp, fun hnil => absurd rfl hnil⟩
  | cons next rest =>
    dsimp only
    have hcur : s.hw.cursor ≠ some c.first := by simpa using hmoved
    obtain ⟨retired', hrest⟩ : ∃ retired', next :: rest = retired' ++ a :: live := by
      cases retired with
      | nil =>
        have hca : c = a := by simpa using (List.cons.inj hsplit).1
        exact absurd (hca ▸ hex.cursor) hcur
      | cons r retired => exact ⟨retired, (List.cons.inj hsplit).2⟩
    have hlaid := (hpl.laid hne).2
    have hfar := (List.pairwise_cons.mp hpl.disjoint).1
    refine ⟨h.alive, ⟨?_, hpl.tailLt, fun d hd => hpl.shaped d (List.mem_cons_of_mem _ hd),
      (List.pairwise_cons.mp hpl.disjoint).2, fun _ => hlaid.1, fun _ => hlaid, by simp⟩,
      by simp, ?_, fun _ => ⟨retired', a, live, hex.running, hrest, ?_, hex.cursor, hex.pending⟩⟩
    · have := (hpl.shaped next (by simp)).fits
      have := next.blocks_pos
      change next.first < s.ring.capacity
      omega
    · intro d hd
      exact h.newest d (by rw [hring, List.getLast?_cons_cons]; exact hd)
    · refine LinkedChains.congr (hex.shaped h) hex.linked fun d hd x hx => ?_
      have hdmem : d ∈ next :: rest := by
        rw [hrest]
        exact List.mem_append_right _ hd
      have hlast := (hpl.shaped c (by simp)).lastRing
      have hnot : ¬ (c.first ≤ x ∧ x ≤ c.lastRingIndex) := fun hcx =>
        hfar d hdmem x ⟨hcx.1, by omega⟩ hx
      exact if_neg hnot

/-! ### Submitting a chain -/

lemma DescriptorRing.commandPtr_spec {ring : DescriptorRing} {c : SubmittedChain}
    (h : c.Shaped ring.capacity ring.descIOVABase) (z : ℕ) :
    ring.commandPtrWordFromIOVA c.firstIOVA32 z ≠ 0 ∧
      ring.indexOf (ring.commandPtrWordFromIOVA c.firstIOVA32 z) = c.first := by
  obtain ⟨h1, h2, h3, -⟩ := DescriptorRing.word_spec h (z % 16) (by omega)
  have hi := h.iova
  have hfit := h.fits
  have hpos := c.blocks_pos
  have hw : ring.commandPtrWordFromIOVA c.firstIOVA32 z = c.firstIOVA32 / 16 * 16 + z % 16 := by
    unfold DescriptorRing.commandPtrWordFromIOVA
    rw [if_neg (by omega)]
  rw [hw]
  exact ⟨h1, h2⟩

/-- The context once a running controller has been polled to a stop. -/
def stopped (s : ATContext) (polled : Option ℕ) : ATContext :=
  match polled with
  | some status => if s.hw.run then s.completeCursor status else s
  | none => s

/-- The context with `CommandPtr` programmed to a chain and the tail behind it. -/
def armed (s : ATContext) (c : SubmittedChain) (commandPtr : ℕ) : ATContext :=
  { s with
    state := .running
    ring := s.ring.updateRingTail c.toDescriptorChain
    hw := { s.hw with
      run := true, commandPtr := commandPtr, cursor := some c.first, done := false } }

lemma completeCursor_state (s : ATContext) (state : ATState) (status : ℕ) :
    { s with state := state }.completeCursor status =
      { s.completeCursor status with state := state } := by
  unfold completeCursor
  dsimp only
  cases s.hw.cursor with
  | none => rfl
  | some index =>
    dsimp only
    split_ifs <;> rfl

lemma completeCursor_done {s : ATContext} (h : s.hw.done = true) (status : ℕ) :
    s.completeCursor status = s := by
  unfold completeCursor
  cases s.hw.cursor with
  | none => rfl
  | some index => exact if_pos h

lemma stopped_ring (s : ATContext) (polled : Option ℕ) :
    (s.stopped polled).ring = { s.ring with storage := (s.stopped polled).ring.storage } := by
  unfold stopped completeCursor
  repeat' split
  all_goals rfl

/-- PATH 1 polls the controller to a stop and arms the new chain. -/
lemma submitPath1_eq {s : ATContext} {c : SubmittedChain}
    (hc : c.Shaped s.ring.capacity s.ring.descIOVABase) (polled : Option ℕ) :
    ∃ commandPtr, s.submitPath1 c.toDescriptorChain polled =
      ((s.stopped polled).armed c commandPtr, .success) := by
  obtain ⟨hne, hidx⟩ := DescriptorRing.commandPtr_spec hc (c.totalBlocks % 16)
  have hclear : (if s.hw.run then { s with state := .arming }.clearRunAndPoll polled
      else { s with state := .arming }) =
        { s.stopped polled with
          state := .arming
          hw := { (s.stopped polled).hw with run := false } } := by
    cases hrun : s.hw.run with
    | false =>
      have hsame : s.stopped polled = s := by
        unfold stopped
        cases polled with
        | none => rfl
        | some status => exact if_neg (by simp [hrun])
      rw [hsame, if_neg (by simp), ← hrun]
    | true =>
      rw [if_pos rfl]
      unfold clearRunAndPoll stopped
      cases polled with
      | none => rfl
      | some status =>
        dsimp only
        rw [if_pos hrun, completeCursor_state]
  have hring : ∀ word, (s.stopped polled).ring.indexOf word = s.ring.indexOf word := by
    intro word
    rw [stopped_ring]
    rfl
  have hword : (s.stopped polled).ring.commandPtrWordFromIOVA c.firstIOVA32
      (c.totalBlocks % 16) =
        s.ring.commandPtrWordFromIOVA c.firstIOVA32 (c.totalBlocks % 16) := by
    rw [stopped_ring]
    rfl
  refine ⟨s.ring.commandPtrWordFromIOVA c.firstIOVA32 (c.totalBlocks % 16), ?_⟩
  unfold submitPath1
  dsimp only
  rw [hclear]
  dsimp only
  rw [hword, if_neg hne]
  simp only [programAndRun, hring, hidx, armed]

/-- Nothing is left to poll for when the controller has completed its chain. -/
lemma submitPath1_spec {s : ATContext} {c : SubmittedChain}
    (hc : c.Shaped s.ring.capacity s.ring.descIOVABase)
    (hdone : s.hw.run = true → s.hw.done = true) (polled : Option ℕ) :
    ∃ commandPtr, s.submitPath1 c.toDescriptorChain polled = (s.armed c commandPtr, .success) := by
  obtain ⟨commandPtr, hr⟩ := submitPath1_eq hc polled
  have hstopped : s.stopped polled = s := by
    unfold stopped
    cases polled with
    | none => rfl
    | some status =>
      dsimp only
      by_cases hrun : s.hw.run = true
      · rw [if_pos hrun, completeCursor_done (hdone hrun)]
      · rw [if_neg hrun]
  rw [hstopped] at hr
  exact ⟨commandPtr, hr⟩

/-- `LocatePreviousLast` at the tail finds a header-only chain's descriptor and no other. -/
lemma locatePreviousLast_newest (ring : DescriptorRing) {c : SubmittedChain}
    (hc : c.Shaped ring.capacity ring.descIOVABase)
    (hkey : (ring.storage c.first).key = .immediate)
    (htail : ring.tail = (c.first + c.blocks) % ring.capacity)
    (hprev : ring.prevLastBlocks = c.lastBlocks) :
    ring.locatePreviousLast ring.tail = if c.req.headerOnly then some (c.last, 2) else none := by
  have hfit := hc.fits
  have hl := hc.last
  have hb := hc.lastBlocks
  unfold DescriptorRing.locatePreviousLast
  cases hreq : c.req.headerOnly with
  | false =>
    simp only [hreq, Bool.false_eq_true, if_false] at hb
    rw [hprev, hb]
    dsimp only
    split_ifs <;> simp_all
  | true =>
    simp only [hreq, if_true] at hb hl
    simp only [SubmittedChain.blocks, hreq, if_true] at hfit htail
    have hcap : ring.capacity ≠ 0 := by omega
    have hstart : (ring.tail + ring.capacity - 2) % ring.capacity = c.first := by
      rw [htail]
      rcases Nat.lt_or_ge (c.first + 2) ring.capacity with hlt | hge
      · rw [Nat.mod_eq_of_lt hlt, show c.first + 2 + ring.capacity - 2 = c.first + ring.capacity
          by omega, Nat.add_mod_right, Nat.mod_eq_of_lt (by omega)]
      · rw [show c.first + 2 = ring.capacity by omega, Nat.mod_self,
          Nat.mod_eq_of_lt (by omega)]
        omega
    rw [hprev, hb]
    dsimp only
    rw [if_neg hcap, if_neg (by omega), if_neg (by omega), if_pos rfl, hstart, Nat.add_zero,
      Nat.mod_eq_of_lt (by omega : c.first < ring.capacity), if_neg (by simp [hkey]), if_pos rfl, hl]

/-- Appending through PATH 2: the previous chain's branch word now leads to the new chain. -/
lemma LinkedChains.link {storage : ℕ → OHCIDescriptor} {capacity base : ℕ}
    {chains : List SubmittedChain} {d c : SubmittedChain}
    (hs : ∀ e ∈ chains ++ [d], e.Shaped capacity base) (hreq : d.req.headerOnly = true)
    (hdisj : (chains ++ [d] ++ [c]).Pairwise fun c d => ∀ x, c.Covers x → ¬ d.Covers x)
    (h : LinkedChains storage (chains ++ [d])) (hc : c.Carries storage 0)
    (hcs : c.Shaped capacity base) :
    LinkedChains (Function.update storage d.first
      { storage d.first with branchWord := c.linkWord, branchBits := kBranchAlways })
      (chains ++ [d] ++ [c]) := by
  induction chains with
  | nil =>
    have hcd : ∀ x, c.Covers x → x ≠ d.first := by
      rintro x hx rfl
      have := (List.pairwise_cons.mp hdisj).1 c (by simp)
      exact this _ d.covers_first hx
    refine ⟨?_, Carries.congr hcs hc fun x hx => Function.update_of_ne (hcd x hx) _ _⟩
    simp only [List.nil_append, LinkedChains, SubmittedChain.Carries, hreq, if_true] at h ⊢
    obtain ⟨status, hst⟩ := h
    exact ⟨status, by rw [Function.update_self, hst]; rfl⟩
  | cons a chains ih =>
    have hda : ∀ x, a.Covers x → x ≠ d.first := by
      rintro x hx rfl
      have := (List.pairwise_cons.mp hdisj).1 d (by simp)
      exact this _ hx d.covers_first
    have hrest := ih (fun e he => hs e (by simp_all)) (List.pairwise_cons.mp hdisj).2
    have ha := hs a (by simp)
    cases chains with
    | nil =>
      exact ⟨Carries.congr ha h.1 fun x hx => Function.update_of_ne (hda x hx) _ _, hrest h.2⟩
    | cons b chains =>
      exact ⟨Carries.congr ha h.1 fun x hx => Function.update_of_ne (hda x hx) _ _, hrest h.2⟩

/-- The ring after a submission through PATH 2. -/
def linkedRing (ring : DescriptorRing) (d c : SubmittedChain) : DescriptorRing :=
  (ring.patchBranchWord d.last c.linkWord).updateRingTail c.toDescriptorChain

/-- Behind a header-only chain a running context takes PATH 2. -/
lemma submitChain_append {s : ATContext} {c d : SubmittedChain}
    (hc : c.Shaped s.ring.capacity s.ring.descIOVABase)
    (hd : d.Shaped s.ring.capacity s.ring.descIOVABase)
    (hkey : (s.ring.storage d.first).key = .immediate) (hreq : d.req.headerOnly = true)
    (htail : s.ring.tail = (d.first + d.blocks) % s.ring.capacity)
    (hprev : s.ring.prevLastBlocks = d.lastBlocks) (hstate : s.state = .running)
    (hne : s.ring.head ≠ s.ring.tail) (hrun : s.hw.run = true) (halive : s.hw.dead = false)
    (polled : Option ℕ) :
    (s.submitPath2 c.toDescriptorChain).2 = .success ∧
      s.submitChain c.toDescriptorChain polled =
        ({ s with ring := linkedRing s.ring d c }, .success) := by
  have hlocate := locatePreviousLast_newest s.ring hd hkey htail hprev
  rw [hreq, if_pos rfl] at hlocate
  have hword : makeBranchWordAT c.firstIOVA32 c.totalBlocks ≠ 0 :=
    (DescriptorRing.linkWord_spec hc).1
  have hpath : s.submitPath2 c.toDescriptorChain =
      ({ s with ring := linkedRing s.ring d c }, .success) := by
    unfold submitPath2 DescriptorRing.linkTailTo
    dsimp only
    rw [hlocate]
    dsimp only
    rw [if_neg hword]
    dsimp only
    rw [if_neg (by simp [hrun, halive])]
    rfl
  have hpos : 0 < s.ring.prevLastBlocks := by
    rw [hprev, hd.lastBlocks]
    split <;> omega
  have hcan : (s.state = .running && 0 < s.ring.prevLastBlocks && !s.ring.isEmpty) = true := by
    simp [hstate, hpos, DescriptorRing.isEmpty, hne]
  unfold submitChain
  dsimp only
  rw [hpath, hcan]
  exact ⟨rfl, rfl⟩

/-- Behind a header+payload chain PATH 2 finds nothing to link to. -/
lemma submitChain_arm {s : ATContext} {d : SubmittedChain} (chain : DescriptorChain)
    (hd : d.Shaped s.ring.capacity s.ring.descIOVABase)
    (hkey : (s.ring.storage d.first).key = .immediate) (hreq : d.req.headerOnly = false)
    (htail : s.ring.tail = (d.first + d.blocks) % s.ring.capacity)
    (hprev : s.ring.prevLastBlocks = d.lastBlocks) (polled : Option ℕ) :
    (s.submitPath2 chain).2 ≠ .success ∧
      s.submitChain chain polled = s.submitPath1 chain polled := by
  have hlocate := locatePreviousLast_newest s.ring hd hkey htail hprev
  rw [hreq, if_neg (by simp)] at hlocate
  have hpath : s.submitPath2 chain = (s, .notReady) := by
    unfold submitPath2 DescriptorRing.linkTailTo
    dsimp only
    rw [hlocate]
  unfold submitChain
  dsimp only
  rw [hpath]
  simp

/-- A submission that programs `CommandPtr` while nothing is pending. -/
lemma Inv.submitted_path1 {s : ATContext} (h : s.Inv) {built : DescriptorRing} {c : SubmittedChain}
    (hb : Built s.ring built c) (hfull : s.inRing ≠ [] → s.ring.head ≠ s.ring.tail)
    (hpending : s.pending = []) (commandPtr : ℕ) :
    Inv { s with
      state := .running
      ring := built.updateRingTail c.toDescriptorChain
      hw := { s.hw with
        run := true, commandPtr := commandPtr, cursor := some c.first, done := false }
      inRing := s.inRing ++ [c]
      pending := s.pending ++ [c] } := by
  obtain ⟨storage, rfl⟩ : ∃ storage, built = { s.ring with storage := storage } := ⟨_, hb.rest⟩
  have htail := hb.shaped.lastRing
  refine ⟨h.alive, ?_, by simp, ?_, fun _ => ⟨s.inRing, c, [], rfl, rfl, hb.carries, rfl, ?_⟩⟩
  · have hp := h.placement.append hfull hb.shaped hb.reserved storage c.lastBlocks
    rw [← htail] at hp
    exact hp
  · intro d hd
    have hdc : d = c := by simpa using hd.symm
    subst hdc
    exact ⟨rfl, congrArg (· % s.ring.capacity) htail, rfl⟩
  · simp [hpending]

/-- A submission that links the new chain behind the newest one. -/
lemma Inv.submitted_path2 {s : ATContext} (h : s.Inv) {built : DescriptorRing}
    {c d : SubmittedChain} (hb : Built s.ring built c)
    (hfull : s.inRing ≠ [] → s.ring.head ≠ s.ring.tail) (hlast : s.inRing.getLast? = some d)
    (hreq : d.req.headerOnly = true) :
    Inv { s with
      ring := linkedRing built d c
      inRing := s.inRing ++ [c]
      pending := s.pending ++ [c] } := by
  obtain ⟨storage, rfl⟩ : ∃ storage, built = { s.ring with storage := storage } := ⟨_, hb.rest⟩
  have hmem : d ∈ s.inRing := List.mem_of_getLast? hlast
  obtain ⟨retired, a, rest, hex⟩ := h.executing (List.ne_nil_of_mem hmem)
  have htail := hb.shaped.lastRing
  have hdl : d.last = d.first := by
    have := (h.placement.shaped d hmem).last
    rwa [hreq, if_pos rfl] at this
  have hp := fun st => h.placement.append hfull hb.shaped hb.reserved st c.lastBlocks
  rw [← htail] at hp
  refine ⟨h.alive, hp _, by simp, ?_, fun _ => ⟨retired, a, rest ++ [c], hex.running, ?_, ?_,
    hex.cursor, ?_⟩⟩
  · intro e he
    have hec : e = c := by simpa using he.symm
    subst hec
    exact ⟨(h.newest d hlast).1, congrArg (· % s.ring.capacity) htail, rfl⟩
  · simp [hex.split]
  · obtain ⟨front, d', hfront⟩ := (List.eq_nil_or_concat (a :: rest)).resolve_left (by simp)
    rw [List.concat_eq_append] at hfront
    have hd' : d' = d := by
      rw [hex.split, hfront] at hlast
      simpa using hlast
    subst hd'
    have hdisj := (hp storage).disjoint
    rw [hex.split, hfront, List.append_assoc, List.pairwise_append] at hdisj
    have hold := (List.pairwise_append.mp (hp storage).disjoint).2.2
    rw [← List.cons_append, hfront]
    unfold linkedRing
    rw [hdl]
    have hs : ∀ e ∈ front ++ [d'], e.Shaped s.ring.capacity s.ring.descIOVABase :=
      fun e he => hex.shaped h e (hfront ▸ he)
    refine LinkedChains.link hs hreq hdisj.2.1 ?_ hb.carries hb.shaped
    · rw [← hfront]
      exact LinkedChains.congr (hex.shaped h) hex.linked fun e he x hx =>
        hb.same x (hold e (hex.mem e he) c (by simp) x hx)
  · change s.pending ++ [c] = _
    rw [hex.pending]
    split <;> rfl

/-- A chain behind a header-only one is linked to it; otherwise nothing is pending and
`CommandPtr` is programmed. -/
lemma Inv.submitChain_spec {s : ATContext} (h : s.Inv) {built : DescriptorRing} {c : SubmittedChain}
    (hb : Built s.ring built c) (hfull : s.inRing ≠ [] → s.ring.head ≠ s.ring.tail)
    (hbehind : s.pending ≠ [] → ∀ d, s.inRing.getLast? = some d → d.req.headerOnly = true)
    (polled : Option ℕ) :
    (∃ commandPtr, s.pending = [] ∧
      { s with ring := built }.submitChain c.toDescriptorChain polled =
        ({ s with
            state := .running
            ring := built.updateRingTail c.toDescriptorChain
            hw := { s.hw with
              run := true, commandPtr := commandPtr, cursor := some c.first, done := false } },
          .success)) ∨
    ∃ d, s.inRing.getLast? = some d ∧ d.req.headerOnly = true ∧
      { s with ring := built }.submitChain c.toDescriptorChain polled =
        ({ s with ring := linkedRing built d c }, .success) := by
  have hplaced := h.placement.append hfull hb.shaped hb.reserved built.storage 0
  obtain ⟨storage, rfl⟩ : ∃ storage, built = { s.ring with storage := storage } := ⟨_, hb.rest⟩
  have hnew : c.Shaped s.ring.capacity s.ring.descIOVABase := hb.shaped
  cases hlast : s.inRing.getLast? with
  | none =>
    have hnil : s.inRing = [] := List.getLast?_eq_none_iff.mp hlast
    obtain ⟨hprev, hpending, hrun⟩ := h.drained hnil
    obtain ⟨commandPtr, hr⟩ := submitPath1_spec
      (s := { s with ring := { s.ring with storage := storage } }) hnew (by simp [hrun]) polled
    refine Or.inl ⟨commandPtr, hpending, Eq.trans ?_ hr⟩
    simp [submitChain, hprev]
  | some d =>
    have hmem : d ∈ s.inRing := List.mem_of_getLast? hlast
    obtain ⟨hstate, htail, hprev⟩ := h.newest d hlast
    obtain ⟨retired, a, rest, hex⟩ := h.executing (List.ne_nil_of_mem hmem)
    have hds := h.placement.shaped d hmem
    have hdlive : d ∈ a :: rest := by
      rw [hex.split, List.getLast?_append_of_ne_nil _ (by simp)] at hlast
      exact List.mem_of_getLast? hlast
    obtain ⟨w, hw⟩ := hex.linked.carries d hdlive
    have hold := (List.pairwise_append.mp hplaced.disjoint).2.2
    have hw' : d.Carries storage w := Carries.congr hds hw fun x hx =>
      hb.same x (hold d hmem c (by simp) x hx)
    have hne := hfull (List.ne_nil_of_mem hmem)
    cases hreq : d.req.headerOnly with
    | true =>
      refine Or.inr ⟨d, rfl, hreq, ?_⟩
      exact (submitChain_append (s := { s with ring := { s.ring with storage := storage } })
        hnew hds hw'.key hreq htail hprev hstate hne hex.running h.alive polled).2
    | false =>
      have hpending : s.pending = [] := by
        by_contra hcon
        simp [hbehind hcon d hlast] at hreq
      have hdone : s.hw.done = true := by
        have hp := hex.pending
        rw [hpending] at hp
        cases hd : s.hw.done with
        | true => rfl
        | false => simp [hd] at hp
      obtain ⟨commandPtr, hr⟩ := submitPath1_spec
        (s := { s with ring := { s.ring with storage := storage } }) hnew (fun _ => hdone) polled
      have harm := (submitChain_arm (s := { s with ring := { s.ring with storage := storage } })
        c.toDescriptorChain hds hw'.key hreq htail hprev polled).2
      exact Or.inl ⟨commandPtr, hpending, harm.trans hr⟩

/-- Every submission keeps the invariant. -/
lemma Inv.submit {s : ATContext} (h : s.Inv) {req : ChainRequest} {polled : Option ℕ}
    (hok : s.Allowed (.submit req polled)) : (s.submit req polled).1.Inv := by
  obtain ⟨hfull, hbehind⟩ := hok
  unfold ATContext.submit
  rcases buildTransactionChain_spec req h.placement.tailLt h.placement.headLt with
    hbuild | ⟨built, c, hbuild, hb⟩
  · rw [hbuild]
    exact h
  rw [hbuild]
  dsimp only
  rcases h.submitChain_spec hb hfull hbehind polled with ⟨commandPtr, hpending, hr⟩ | ⟨d, hlast, hreq, hr⟩
  · rw [hr, if_pos rfl]
    exact h.submitted_path1 hb hfull hpending commandPtr
  · rw [hr, if_pos rfl]
    exact h.submitted_path2 hb hfull hlast hreq

/-! ### Whole runs -/

lemma Inv.step {s : ATContext} (h : s.Inv) {e : ATEvent} (hok : s.Allowed e) : (s.step e).Inv := by
  cases e with
  | submit req polled => exact h.submit hok
  | hwStep status => exact h.hwStep status
  | reclaim => exact h.reclaim hok

/-- A finalised ring nothing has been submitted to. -/
structure Fresh (ring : DescriptorRing) : Prop where
  capacity : 0 < ring.capacity
  head : ring.head = 0
  tail : ring.tail = 0
  prevLastBlocks : ring.prevLastBlocks = 0

lemma Inv.initial {ring : DescriptorRing} (h : Fresh ring) : Inv { ring := ring } := by
  have hhead : ring.head < ring.capacity := h.head ▸ h.capacity
  have htail : ring.tail < ring.capacity := h.tail ▸ h.capacity
  refine ⟨rfl, ⟨hhead, htail, by simp, List.Pairwise.nil, by simp, fun _ => trivial, fun _ => ?_⟩,
    fun _ => ⟨h.prevLastBlocks, rfl, rfl⟩, by simp, fun hne => absurd rfl hne⟩
  exact h.head.trans h.tail.symm

/-- The controller gets to the chain by following branch words from the last `CommandPtr` or
from the chain it executes. -/
def Reachable (s : ATContext) (c : SubmittedChain) : Prop :=
  Relation.ReflTransGen (Links s.ring) (s.ring.indexOf s.hw.commandPtr) c.first ∨
    ∃ index, s.hw.cursor = some index ∧ Relation.ReflTransGen (Links s.ring) index c.first

/-- `LocatePreviousLast` at the tail names the OUTPUT_LAST of the newest chain. -/
def LocatesNewest (s : ATContext) (c : SubmittedChain) : Prop :=
  ∃ blocks, s.ring.locatePreviousLast s.ring.tail = some (c.last, blocks)

lemma Inv.pending_reachable {s : ATContext} (h : s.Inv) :
    ∀ c ∈ s.pending, (∃ w, c.Carries s.ring.storage w) ∧ s.Reachable c := by
  intro c hc
  have hne : s.inRing ≠ [] := by
    intro hnil
    rw [(h.drained hnil).2.1] at hc
    simp at hc
  obtain ⟨retired, a, rest, hex⟩ := h.executing hne
  have hlive : c ∈ a :: rest := by
    rw [hex.pending] at hc
    split at hc
    · exact List.mem_cons_of_mem _ hc
    · exact hc
  exact ⟨hex.linked.carries c hlive,
    Or.inr ⟨a.first, hex.cursor, LinkedChains.reaches (hex.shaped h) hex.linked c hlive⟩⟩

lemma Inv.locatesNewest_iff {s : ATContext} (h : s.Inv) {c : SubmittedChain}
    (hlast : s.inRing.getLast? = some c) : s.LocatesNewest c ↔ c.req.headerOnly = true := by
  have hmem : c ∈ s.inRing := List.mem_of_getLast? hlast
  obtain ⟨-, htail, hprev⟩ := h.newest c hlast
  obtain ⟨retired, a, rest, hex⟩ := h.executing (List.ne_nil_of_mem hmem)
  have hlive : c ∈ a :: rest := by
    rw [hex.split, List.getLast?_append_of_ne_nil _ (by simp)] at hlast
    exact List.mem_of_getLast? hlast
  obtain ⟨w, hw⟩ := hex.linked.carries c hlive
  unfold LocatesNewest
  rw [locatePreviousLast_newest s.ring (h.placement.shaped c hmem) hw.key htail hprev]
  cases hreq : c.req.headerOnly <;> simp

/-- In a run whose submissions behind uncompleted chains all follow header-only ones, every
uncompleted chain is intact and reachable, and `LocatePreviousLast` finds the newest chain's
OUTPUT_LAST exactly when that chain is header-only. -/
theorem submitted_chains_reachable {ring : DescriptorRing} (hfresh : Fresh ring)
    (events : List ATEvent) (hrun : Runs.Meets ATContext.step Allowed { ring := ring } events) :
    let s := Runs.run ATContext.step { ring := ring } events
    (∀ c ∈ s.pending, (∃ w, c.Carries s.ring.storage w) ∧ s.Reachable c) ∧
      ∀ c, s.inRing.getLast? = some c → (s.LocatesNewest c ↔ c.req.headerOnly = true) := by
  have hinv : (Runs.run ATContext.step { ring := ring } events).Inv :=
    Runs.invariant_run_of_meets (fun _ _ h hok => h.step hok) (Inv.initial hfresh) hrun
  exact ⟨hinv.pending_reachable, fun c hlast => hinv.locatesNewest_iff hlast⟩

/-- A ring of 16 blocks at bus address 0x1000. -/
def smallRing : DescriptorRing where
  capacity := 16
  descIOVABase := 0x1000
  aligned := rfl
  based := by decide
  fits := by decide

/-- A quadlet read request: twelve header bytes. -/
def quadletReadChain : ChainRequest where
  headerData := List.replicate 12 0

/-- A block write request: sixteen header bytes and eight bytes of payload. -/
def blockWriteChain : ChainRequest where
  headerData := List.replicate 16 0
  payloadDeviceAddress := 0x2000
  payloadSize := 8

lemma smallRing_fresh : Fresh smallRing := ⟨by decide, rfl, rfl, rfl⟩

/-- Two reads, the first one completed and released, then a block write behind the second. -/
def readsThenWrite : List ATEvent :=
  [.submit quadletReadChain none, .submit quadletReadChain none, .hwStep 0x11, .hwStep 0x11,
    .reclaim, .submit blockWriteChain none]

theorem readsThenWrite_reachable :
    let s := Runs.run ATContext.step { ring := smallRing } readsThenWrite
    Fresh smallRing ∧ Runs.Meets ATContext.step Allowed { ring := smallRing } readsThenWrite ∧
      s.pending.length = 2 ∧ (∀ c ∈ s.pending, (∃ w, c.Carries s.ring.storage w) ∧ s.Reachable c) ∧
      ∀ c, s.inRing.getLast? = some c → (s.LocatesNewest c ↔ c.req.headerOnly = true) :=
  ⟨smallRing_fresh, by decide, by decide,
    submitted_chains_reachable smallRing_fresh readsThenWrite (by decide)⟩

/-- A read, a block write linked behind it, then a second read. -/
def readBehindWrite : List ATEvent :=
  [.submit quadletReadChain none, .submit blockWriteChain none,
    .submit quadletReadChain (some 0x11)]

/-- With a block write newest, `LocatePreviousLast` finds nothing, so the next read is armed over
the running list: it succeeds, and nothing leads to the block write any more. -/
theorem readBehindWrite_drops :
    let s := Runs.run ATContext.step { ring := smallRing } (readBehindWrite.take 2)
    let s' := Runs.run ATContext.step { ring := smallRing } readBehindWrite
    (∃ c, s.inRing.getLast? = some c ∧ c.req = blockWriteChain ∧ ¬ s.LocatesNewest c) ∧
      s.state = .running ∧ (s.submit quadletReadChain (some 0x11)).2 = .success ∧
      ∃ c ∈ s'.pending, c.req = blockWriteChain ∧ ¬ s'.Reachable c := by
  intro s s'
  have hlocate : s.ring.locatePreviousLast s.ring.tail = none := by decide
  have hptr : s'.ring.indexOf s'.hw.commandPtr = 5 := by decide
  have hcursor : s'.hw.cursor = some 5 := by decide
  have hend : (s'.ring.storage (lastOf s'.ring 5)).branchWord = 0 := by decide
  have hstuck : ∀ c : SubmittedChain, Relation.ReflTransGen (Links s'.ring) 5 c.first →
      c.first = 5 := by
    intro c hc
    rcases Relation.ReflTransGen.cases_head hc with heq | ⟨next, hlink, -⟩
    · exact heq.symm
    · exact absurd hend hlink.1
  refine ⟨⟨_, rfl, rfl, ?_⟩, by decide, by decide, s'.pending.head (by decide), by decide,
    by decide, ?_⟩
  · rintro ⟨blocks, hblocks⟩
    rw [hlocate] at hblocks
    cases hblocks
  · have hfirst : (s'.pending.head (by decide)).first ≠ 5 := by decide
    rintro (hreach | ⟨index, hindex, hreach⟩)
    · rw [hptr] at hreach
      exact hfirst (hstuck _ hreach)
    · rw [hcursor] at hindex
      obtain rfl := Option.some.inj hindex
      exact hfirst (hstuck _ hreach)

end ATContext

end ASFireWire.Async
