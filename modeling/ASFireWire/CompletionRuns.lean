import ASFireWire.CompletionScan
import ASFireWire.ATSubmissionRuns
import ASFireWire.RingWindows

/-! Runs of submissions, controller steps and completion scans. Blocks are counted from the start
of the run, so that the chains in the ring are laid out in order (`Tiled`) and a ring index is
such a count modulo the capacity. -/
namespace ASFireWire.Async

open SubmittedChain RingWindows

/-! ### Block counts and ring indices -/

lemma ringRegion_of_window {m L T x : ℕ} (hx : L ≤ x) (hxT : x < T) (hT : T < L + m) :
    RingRegion (L % m) (T % m) (x % m) := by
  have h1 := mod_laps (m := m) hx (by omega)
  have h2 := mod_laps (m := m) (by omega : L ≤ T) hT
  have hlt := Nat.mod_lt T (by omega : 0 < m)
  unfold RingRegion
  split_ifs <;> omega

/-- The chains fill the blocks from `p` up to `q`; a chain that did not fit before the end of the
ring starts at index 0 behind a gap shorter than itself. -/
def Tiled (m : ℕ) : ℕ → List SubmittedChain → ℕ → Prop
  | p, [], q => p = q
  | p, c :: rest, q => ∃ a, p ≤ a ∧ a < p + c.blocks ∧ a % m = c.first ∧ (p = a ∨ c.first = 0) ∧
      Tiled m (a + c.blocks) rest q

section Tiles
variable {m base p q a : ℕ} {chains : List SubmittedChain} {c : SubmittedChain}

lemma Tiled.append (h : Tiled m p chains q) (hle : q ≤ a) (hlt : a < q + c.blocks)
    (hfirst : a % m = c.first) (hgap : q = a ∨ c.first = 0) :
    Tiled m p (chains ++ [c]) (a + c.blocks) := by
  induction chains generalizing p with
  | nil =>
    obtain rfl : p = q := h
    exact ⟨a, hle, hlt, hfirst, hgap, rfl⟩
  | cons d rest ih =>
    obtain ⟨b, hb, hb', hd, hdgap, hrest⟩ := h
    exact ⟨b, hb, hb', hd, hdgap, ih hrest⟩

/-- Where a chain of the tiling starts. -/
lemma Tiled.position (h : Tiled m p chains q) :
    p ≤ q ∧ ∀ d ∈ chains, ∃ a, p ≤ a ∧ a + d.blocks ≤ q ∧ a % m = d.first := by
  induction chains generalizing p with
  | nil => exact ⟨le_of_eq h, by simp⟩
  | cons c rest ih =>
    obtain ⟨a, ha, -, hfirst, -, hrest⟩ := h
    obtain ⟨hle, hpos⟩ := ih hrest
    refine ⟨by omega, fun d hd => ?_⟩
    rcases List.mem_cons.mp hd with rfl | hd
    · exact ⟨a, ha, hle, hfirst⟩
    · obtain ⟨b, hb, hb', hbd⟩ := hpos d hd
      exact ⟨b, by omega, hb', hbd⟩

lemma Tiled.length (h : Tiled m p chains q) : p + chains.length ≤ q := by
  induction chains generalizing p with
  | nil => exact le_of_eq h
  | cons c rest ih =>
    obtain ⟨a, ha, -, -, -, hrest⟩ := h
    have := ih hrest
    have := c.blocks_pos
    rw [List.length_cons]
    omega

/-- The block of the tiling behind an index that a chain covers. -/
lemma Tiled.covered (h : Tiled m p chains q) (hs : ∀ d ∈ chains, d.Shaped m base)
    {d : SubmittedChain} (hd : d ∈ chains) {x : ℕ} (hx : d.Covers x) :
    ∃ y, p ≤ y ∧ y < q ∧ y % m = x := by
  obtain ⟨a, ha, haq, hfirst⟩ := h.position.2 d hd
  have hfit := (hs d hd).fits
  obtain ⟨hx1, hx2⟩ := hx
  refine ⟨a + (x - d.first), by omega, by omega, ?_⟩
  rw [mod_add_small hfirst (by omega)]
  omega

lemma Tiled.disjoint (h : Tiled m p chains q) (hs : ∀ d ∈ chains, d.Shaped m base)
    (hq : q ≤ p + m) : chains.Pairwise fun c d => ∀ x, c.Covers x → ¬ d.Covers x := by
  induction chains generalizing p with
  | nil => exact List.Pairwise.nil
  | cons c rest ih =>
    obtain ⟨a, ha, -, hfirst, -, hrest⟩ := h
    have hs' : ∀ d ∈ rest, d.Shaped m base := fun d hd => hs d (List.mem_cons_of_mem _ hd)
    refine List.pairwise_cons.mpr ⟨fun d hd x hc hx => ?_, ih hrest hs' (by omega)⟩
    have hfit := (hs c (by simp)).fits
    obtain ⟨y, hy, hyq, rfl⟩ := hrest.covered hs' hd hx
    obtain ⟨hc1, hc2⟩ := hc
    have hmine : (a + (y % m - c.first)) % m = y % m := by
      rw [mod_add_small hfirst (by omega)]
      omega
    have := eq_of_mod_eq (L := p) (by omega) (by omega) (by omega) (by omega) hmine
    omega

end Tiles

/-- Where `ReserveBlocks` puts a chain: behind the tail, or at the next wrap. -/
lemma DescriptorRing.reserveBlocks_block {ring : DescriptorRing} {n index H T : ℕ}
    (h : ring.reserveBlocks n = some index) (hH : H % ring.capacity = ring.head)
    (hT : T % ring.capacity = ring.tail) (hle : H ≤ T) (hlt : T < H + ring.capacity) :
    ∃ a, T ≤ a ∧ a < T + n ∧ a % ring.capacity = index ∧ (T = a ∨ index = 0) ∧
      a + n ≤ H + ring.capacity ∧ index + n ≤ ring.capacity := by
  have hcap : 0 < ring.capacity := by omega
  have hlaps := mod_laps (m := ring.capacity) hle hlt
  have htail : ring.tail < ring.capacity := hT ▸ Nat.mod_lt T hcap
  have hhead : ring.head < ring.capacity := hH ▸ Nat.mod_lt H hcap
  rw [hH, hT] at hlaps
  unfold DescriptorRing.reserveBlocks at h
  split_ifs at h with h0 h1 h2 h3 h4 <;> simp only [Option.some.injEq] at h <;> subst h
  · exact ⟨T, le_rfl, by omega, hT, Or.inl rfl, by omega, by omega⟩
  · refine ⟨T + (ring.capacity - ring.tail), by omega, by omega, ?_, Or.inr rfl, by omega, by omega⟩
    have hdiv := Nat.div_add_mod T ring.capacity
    rw [hT] at hdiv
    rw [show T + (ring.capacity - ring.tail) = ring.capacity * (T / ring.capacity) + ring.capacity
      by omega, Nat.add_mod_right, Nat.mul_mod_right]
  · exact ⟨T, le_rfl, by omega, hT, Or.inl rfl, by omega, by omega⟩

/-! ### What the blocks hold -/

/-- The descriptors of a chain in memory, up to branch words and status; the header in front of a
payload block carries no status. -/
structure Held (storage : ℕ → OHCIDescriptor) (c : SubmittedChain) : Prop where
  key : (storage c.first).key = .immediate
  data : (storage c.first).immediateData = (lastImmediate c.req).immediateData
  command : (storage c.first).command = if c.req.headerOnly then .outputLast else .outputMore
  lastCommand : (storage c.last).command = .outputLast
  lastKey : (storage c.last).key = if c.req.headerOnly then .immediate else .standard
  stamp : (storage c.last).timeStamp = if c.req.headerOnly then c.req.atTimeStamp else 0
  bare : c.req.headerOnly = false → (storage c.first).xferStatus = 0

/-- The OUTPUT_LAST of the chain has its status. -/
def isComplete (storage : ℕ → OHCIDescriptor) (c : SubmittedChain) : Bool :=
  (storage c.last).xferStatus ≠ 0

/-- Consecutive chains are linked by the branch words of their OUTPUT_LASTs. -/
def Branches (storage : ℕ → OHCIDescriptor) : List SubmittedChain → Prop
  | [] => True
  | [c] => (storage c.last).branchWord = 0
  | c :: d :: rest => (storage c.last).branchWord = d.linkWord ∧ Branches storage (d :: rest)

/-- Every chain of the list is in memory and the blocks of no chain are without status. -/
structure Contents (m : ℕ) (storage : ℕ → OHCIDescriptor) (chains : List SubmittedChain) :
    Prop where
  held : ∀ c ∈ chains, Held storage c
  clear : ∀ x < m, (∀ c ∈ chains, ¬ c.Covers x) → (storage x).xferStatus = 0
  edge : ∀ x, x + 1 = m → (storage x).key = .standard

section Contents
variable {m base : ℕ} {storage storage' : ℕ → OHCIDescriptor} {chains : List SubmittedChain}
  {c d : SubmittedChain}

lemma apart_of_mem (h : chains.Pairwise fun c d => ∀ x, c.Covers x → ¬ d.Covers x)
    (hc : c ∈ chains) (hd : d ∈ chains) (hne : c ≠ d) {x : ℕ} (hx : c.Covers x) :
    ¬ d.Covers x := by
  have hsymm : Std.Symm fun c d : SubmittedChain => ∀ x, c.Covers x → ¬ d.Covers x :=
    ⟨fun _ _ h x hx hx' => h x hx' hx⟩
  exact h.forall hc hd hne x hx

lemma SubmittedChain.Shaped.last_cases (h : c.Shaped m base) :
    (c.req.headerOnly = true ∧ c.last = c.first ∧ c.blocks = 2) ∨
      (c.req.headerOnly = false ∧ c.last = c.first + 2 ∧ c.blocks = 3) := by
  have hl := h.last
  unfold SubmittedChain.blocks
  cases hreq : c.req.headerOnly with
  | true => simp_all
  | false => simp_all

lemma Held.congr (hs : c.Shaped m base) (h : Held storage c)
    (hsame : ∀ x, c.Covers x → storage' x = storage x) : Held storage' c := by
  have hfirst := hsame _ c.covers_first
  have hlast := hsame _ hs.covers_last
  constructor
  · rw [hfirst, h.key]
  · rw [hfirst, h.data]
  · rw [hfirst, h.command]
  · rw [hlast, h.lastCommand]
  · rw [hlast, h.lastKey]
  · rw [hlast, h.stamp]
  · intro hreq
    rw [hfirst, h.bare hreq]

lemma Held.lastOf {ring : DescriptorRing} (hs : c.Shaped m base) (h : Held ring.storage c) :
    ATContext.lastOf ring c.first = c.last := by
  have hcmd := h.command
  unfold ATContext.lastOf
  rcases hs.last_cases with ⟨hreq, hl, -⟩ | ⟨hreq, hl, -⟩ <;> simp only [hreq] at hcmd <;>
    simp [hcmd, hl]

/-- The controller and `PatchBranchWord` change an OUTPUT_LAST only in its status and links. -/
structure SameShape (d e : OHCIDescriptor) : Prop where
  command : e.command = d.command
  key : e.key = d.key
  data : e.immediateData = d.immediateData
  stamp : e.timeStamp = d.timeStamp

lemma Held.update_last {e : OHCIDescriptor} (hs : c.Shaped m base) (h : Held storage c)
    (he : SameShape (storage c.last) e) : Held (Function.update storage c.last e) c := by
  rcases hs.last_cases with ⟨hreq, hl, -⟩ | ⟨hreq, hl, -⟩
  · have hfirst : Function.update storage c.last e c.first = e := by rw [hl, Function.update_self]
    have hlast : Function.update storage c.last e c.last = e := Function.update_self ..
    rw [hl] at he
    constructor
    · rw [hfirst, he.key, h.key]
    · rw [hfirst, he.data, h.data]
    · rw [hfirst, he.command, h.command]
    · rw [hlast, he.command, ← hl, h.lastCommand]
    · rw [hlast, he.key, ← hl, h.lastKey]
    · rw [hlast, he.stamp, ← hl, h.stamp]
    · simp [hreq]
  · have hfirst : Function.update storage c.last e c.first = storage c.first :=
      Function.update_of_ne (by omega) _ _
    have hlast : Function.update storage c.last e c.last = e := Function.update_self ..
    constructor
    · rw [hfirst, h.key]
    · rw [hfirst, h.data]
    · rw [hfirst, h.command]
    · rw [hlast, he.command, h.lastCommand]
    · rw [hlast, he.key, h.lastKey]
    · rw [hlast, he.stamp, h.stamp]
    · rw [hfirst]
      exact h.bare

/-- An OUTPUT_LAST of the list is rewritten in place. -/
lemma Contents.update {e : OHCIDescriptor} (h : Contents m storage chains)
    (hs : ∀ d ∈ chains, d.Shaped m base)
    (hdisj : chains.Pairwise fun c d => ∀ x, c.Covers x → ¬ d.Covers x) (hc : c ∈ chains)
    (he : SameShape (storage c.last) e) : Contents m (Function.update storage c.last e) chains := by
  refine ⟨fun d hd => ?_, fun x hx hfree => ?_, fun x hx => ?_⟩
  · by_cases hdc : d = c
    · subst hdc
      exact (h.held d hd).update_last (hs d hd) he
    · apply (h.held d hd).congr (hs d hd)
      intro x hx
      refine Function.update_of_ne ?_ _ _
      rintro rfl
      exact apart_of_mem hdisj hd hc hdc hx (hs c hc).covers_last
  · have hne : x ≠ c.last := by
      rintro rfl
      exact hfree c hc (hs c hc).covers_last
    rw [Function.update_of_ne hne]
    exact h.clear x hx hfree
  · by_cases hxc : x = c.last
    · rw [hxc, Function.update_self, he.key, ← hxc]
      exact h.edge x hx
    · rw [Function.update_of_ne hxc]
      exact h.edge x hx

lemma Held.of_carries (hs : c.Shaped m base) (h : c.Carries storage 0) (hblank : (storage c.first).xferStatus = 0) :
    Held storage c ∧ (storage c.last).branchWord = 0 := by
  unfold Carries at h
  rcases hs.last_cases with ⟨hreq, hl, -⟩ | ⟨hreq, hl, -⟩
  · rw [hreq, if_pos rfl] at h
    obtain ⟨status, hst⟩ := h
    refine ⟨⟨?_, ?_, ?_, ?_, ?_, ?_, fun _ => hblank⟩, ?_⟩ <;>
      simp [hl, hst, hreq, lastImmediate]
  · rw [hreq, if_neg (by simp)] at h
    obtain ⟨hfirst, status, hst⟩ := h
    refine ⟨⟨?_, ?_, ?_, ?_, ?_, ?_, fun _ => hblank⟩, ?_⟩ <;>
      simp [hfirst, hst, hreq, moreImmediate, lastImmediate, payloadLast]

lemma Contents.append (h : Contents m storage chains) (hc : Held storage c) :
    Contents m storage (chains ++ [c]) := by
  refine ⟨fun d hd => ?_, fun x hx hfree => ?_, h.edge⟩
  · rcases List.mem_append.mp hd with hd | hd
    · exact h.held d hd
    · rw [List.mem_singleton.mp hd]
      exact hc
  · exact h.clear x hx fun d hd => hfree d (List.mem_append_left _ hd)

lemma Branches.congr (h : Branches storage chains)
    (hsame : ∀ c ∈ chains, (storage' c.last).branchWord = (storage c.last).branchWord) :
    Branches storage' chains := by
  induction chains with
  | nil => trivial
  | cons c rest ih =>
    cases rest with
    | nil => exact (hsame c (by simp)).trans h
    | cons d rest =>
      exact ⟨(hsame c (by simp)).trans h.1, ih h.2 fun e he => hsame e (List.mem_cons_of_mem _ he)⟩

/-- Linking a chain behind the last one. -/
lemma Branches.link (h : Branches storage (chains ++ [d]))
    (hsame : ∀ c ∈ chains, (storage' c.last).branchWord = (storage c.last).branchWord)
    (hd : (storage' d.last).branchWord = c.linkWord) (hc : (storage' c.last).branchWord = 0) :
    Branches storage' (chains ++ [d] ++ [c]) := by
  induction chains with
  | nil => exact ⟨hd, hc⟩
  | cons e rest ih =>
    cases rest with
    | nil => exact ⟨(hsame e (by simp)).trans h.1, hd, hc⟩
    | cons e' rest =>
      exact ⟨(hsame e (by simp)).trans h.1, ih h.2 fun b hb => hsame b (List.mem_cons_of_mem _ hb)⟩

end Contents

namespace TxContext

/-! ### The invariant -/

/-- The completion of a chain that ended with this status. -/
def completionOf (s : TxContext) (c : SubmittedChain) (status : ℕ) : ScannedCompletion where
  eventCode := eventCodeOf s.agereQuirk status
  timeStamp := if c.req.headerOnly then c.req.atTimeStamp else 0
  ackCount := status / 2 ^ 5 % 2 ^ 3
  ackCode := status / 2 ^ 12 % 2 ^ 4
  tLabel := (lastImmediate c.req).extractTLabel
  isResponseContext := s.isResponseContext
  descriptor := c.last

/-- Where the chains in the ring are: from block `L` to block `T`, with the head at block `H`,
which is `L` or, once the header of the oldest chain has been skipped, its payload block. -/
structure Spans (s : TxContext) (L H T : ℕ) : Prop where
  head : H % s.ring.capacity = s.ring.head
  tail : T % s.ring.capacity = s.ring.tail
  tiled : Tiled s.ring.capacity L s.inRing T
  bound : T ≤ L + s.ring.capacity
  room : T < H + s.ring.capacity
  start : H = L ∨ (H = L + 2 ∧ ∃ c rest, s.inRing = c :: rest ∧ c.req.headerOnly = false ∧
    L % s.ring.capacity = c.first)
  shaped : ∀ c ∈ s.inRing, c.Shaped s.ring.capacity s.ring.descIOVABase

/-- The controller is on a chain of the ring; the chains behind it are linked from it and
uncompleted. -/
structure Executing (s : TxContext) (retired : List SubmittedChain) (c : SubmittedChain)
    (rest : List SubmittedChain) : Prop where
  running : s.hw.run = true
  split : s.inRing = retired ++ c :: rest
  branches : Branches s.ring.storage (c :: rest)
  cursor : s.hw.cursor = some c.first
  linked : s.linked = if s.hw.done then rest else c :: rest
  current : isComplete s.ring.storage c = s.hw.done
  ahead : ∀ d ∈ rest, isComplete s.ring.storage d = false

/-- Once the header of the oldest chain is skipped, the controller is past it. -/
def Skipped (s : TxContext) : Prop :=
  ∀ c rest, s.inRing = c :: rest → (s.ring.storage (c.first + 1)).xferStatus = 0 ∧
    (s.hw.cursor = some c.first → s.hw.done = true ∨ s.onPayload = true)

/-- The completions in memory and returned so far are those of the chains the controller has
completed, which it completes in submission order. -/
structure Logged (s : TxContext) : Prop where
  reported : s.finished.map (fun f => s.completionOf f.1 f.2) = s.reported ++
    (s.inRing.filter (isComplete s.ring.storage)).map
      fun c => s.completionOf c (s.ring.storage c.last).xferStatus
  ordered : (s.finished.map Prod.fst ++ s.linked).Sublist s.submitted
  decoded : ∀ c ∈ s.inRing, isComplete s.ring.storage c = true →
    decodes s.agereQuirk (s.ring.storage c.last).xferStatus = true

structure Inv (s : TxContext) (L H T : ℕ) : Prop where
  spans : s.Spans L H T
  contents : Contents s.ring.capacity s.ring.storage s.inRing
  alive : s.hw.dead = false
  drained : s.inRing = [] → s.ring.prevLastBlocks = 0 ∧ s.linked = [] ∧ s.hw.run = false
  newest : ∀ c, s.inRing.getLast? = some c → s.state = .running ∧
    s.ring.tail = (c.first + c.blocks) % s.ring.capacity ∧ s.ring.prevLastBlocks = c.lastBlocks
  executing : s.inRing ≠ [] → ∃ retired c rest, s.Executing retired c rest
  skipped : H ≠ L → s.Skipped
  logged : s.Logged

variable {s : TxContext} {L H T : ℕ}

lemma Spans.disjoint (h : s.Spans L H T) :
    s.inRing.Pairwise fun c d => ∀ x, c.Covers x → ¬ d.Covers x :=
  h.tiled.disjoint h.shaped h.bound

lemma Spans.lt_of_ne_nil (h : s.Spans L H T) (hne : s.inRing ≠ []) : H < T := by
  obtain ⟨c, rest, hc⟩ := List.exists_cons_of_ne_nil hne
  obtain ⟨a, ha, haT, -⟩ := h.tiled.position.2 c (by rw [hc]; simp)
  have hpos := c.blocks_pos
  rcases h.start with hHL | ⟨hHL, d, rest', hd, hreq, -⟩
  · omega
  · have hcd : c = d := (List.cons.inj (hc.symm.trans hd)).1
    have : c.blocks = 3 := by simp [SubmittedChain.blocks, hcd, hreq]
    omega

lemma Spans.le (h : s.Spans L H T) : H ≤ T := by
  by_cases hnil : s.inRing = []
  · have hLT := h.tiled.position.1
    rcases h.start with hHL | ⟨-, c, rest, hc, -, -⟩
    · omega
    · rw [hnil] at hc
      exact absurd hc (by simp)
  · exact (h.lt_of_ne_nil hnil).le

lemma Spans.head_ne_tail (h : s.Spans L H T) (hne : s.inRing ≠ []) :
    s.ring.head ≠ s.ring.tail := by
  intro heq
  have hlt := h.lt_of_ne_nil hne
  have hroom := h.room
  rw [← h.head, ← h.tail] at heq
  have := eq_of_mod_eq (L := H) le_rfl (by omega) (by omega) (by omega) heq
  omega

lemma Inv.nonempty_of_run (h : s.Inv L H T) (hrun : s.hw.run = true) : s.inRing ≠ [] := by
  intro hnil
  rw [(h.drained hnil).2.2] at hrun
  exact absurd hrun (by simp)

lemma Executing.mem {retired rest : List SubmittedChain} {c : SubmittedChain}
    (h : s.Executing retired c rest) : c ∈ s.inRing ∧ ∀ d ∈ rest, d ∈ s.inRing := by
  rw [h.split]
  constructor
  · simp
  · intro d hd
    simp [hd]

/-- Only the chain on the cursor starts there. -/
lemma Executing.eq_of_cursor {retired rest : List SubmittedChain} {c d : SubmittedChain}
    (h : s.Executing retired c rest) (hspans : s.Spans L H T) (hd : d ∈ s.inRing)
    (hcur : s.hw.cursor = some d.first) : d = c := by
  by_contra hne
  have hfirst : d.first = c.first := Option.some.inj (hcur.symm.trans h.cursor)
  have := apart_of_mem hspans.disjoint hd h.mem.1 hne d.covers_first
  rw [hfirst] at this
  exact this c.covers_first

lemma Executing.lastOf_cursor {retired rest : List SubmittedChain} {c : SubmittedChain}
    (h : s.Executing retired c rest) (hinv : s.Inv L H T) :
    ATContext.lastOf s.ring c.first = c.last :=
  (hinv.contents.held c h.mem.1).lastOf (hinv.spans.shaped c h.mem.1)

/-! ### Controller steps -/

lemma decodes_xferStatus (agereQuirk : Bool) (status : XferStatus) :
    decodes agereQuirk status.word = true := by
  obtain ⟨word, h0, h6⟩ := status
  have hcode : eventCodeOf agereQuirk word ≠ kEvtNoStatus ∧
      eventCodeOf agereQuirk word ≠ kEvtDescriptorRead := by
    unfold eventCodeOf
    split
    · decide
    · exact ⟨h0, h6⟩
  simp [decodes, hcode]

lemma XferStatus.word_ne_zero (status : XferStatus) : status.word ≠ 0 := by
  obtain ⟨word, h0, -⟩ := status
  rintro rfl
  exact h0 rfl

/-- The OUTPUT_LASTs of the other chains are not the one on the cursor. -/
lemma Executing.last_ne {retired rest : List SubmittedChain} {c : SubmittedChain}
    (h : s.Executing retired c rest) (hspans : s.Spans L H T) :
    (∀ d ∈ retired, d.last ≠ c.last) ∧ ∀ d ∈ rest, d.last ≠ c.last := by
  have hdisj := hspans.disjoint
  have hshape := hspans.shaped
  rw [h.split] at hdisj hshape
  obtain ⟨-, hlive, hcross⟩ := List.pairwise_append.mp hdisj
  have hc := (hshape c (by simp)).covers_last
  constructor
  · intro d hd heq
    have := hcross d hd c (by simp) _ (hshape d (by simp [hd])).covers_last
    rw [heq] at this
    exact this hc
  · intro d hd heq
    have := (List.pairwise_cons.mp hlive).1 d hd _ hc
    rw [← heq] at this
    exact this (hshape d (by simp [hd])).covers_last

/-- The context after the controller has completed the chain on its cursor. -/
def completed (s : TxContext) (c : SubmittedChain) (status : ℕ) (rest : List SubmittedChain) :
    TxContext :=
  { s with
    ring := s.ring.write c.last { s.ring.storage c.last with xferStatus := status }
    hw := { s.hw with done := true }
    pending := s.pending.filter (·.first ≠ c.first)
    onPayload := false
    linked := rest
    finished := s.finished ++ [(c, status)] }

lemma Executing.complete_eq {retired rest : List SubmittedChain} {c : SubmittedChain}
    (h : s.Executing retired c rest) (hinv : s.Inv L H T) (hdone : s.hw.done = false)
    (status : XferStatus) : s.complete status = s.completed c status.word rest := by
  have hlinked := h.linked
  rw [hdone, if_neg (by simp)] at hlinked
  unfold TxContext.complete ATContext.completeCursor
  rw [h.cursor]
  dsimp only
  rw [if_neg (by simp [hdone]), if_neg (by simp [hdone]), h.lastOf_cursor hinv, hlinked]
  rfl

lemma isComplete_write {storage : ℕ → OHCIDescriptor} {c d : SubmittedChain}
    (h : d.last ≠ c.last) (e : OHCIDescriptor) :
    isComplete (Function.update storage c.last e) d = isComplete storage d := by
  unfold isComplete
  rw [Function.update_of_ne h]

lemma filter_split {p : SubmittedChain → Bool} {retired rest : List SubmittedChain}
    (c : SubmittedChain) (hrest : ∀ d ∈ rest, p d = false) :
    (retired ++ c :: rest).filter p = retired.filter p ++ if p c then [c] else [] := by
  have hnil : rest.filter p = [] := List.filter_eq_nil_iff.mpr fun d hd => by simp [hrest d hd]
  rw [List.filter_append, List.filter_cons, hnil]

lemma Inv.completed {retired rest : List SubmittedChain} {c : SubmittedChain}
    (h : s.Inv L H T) (hex : s.Executing retired c rest) (hdone : s.hw.done = false)
    (status : XferStatus) : (s.completed c status.word rest).Inv L H T := by
  obtain ⟨hretired, hrest⟩ := hex.last_ne h.spans
  have hc := hex.mem.1
  have hlinked := hex.linked
  rw [hdone, if_neg (by simp)] at hlinked
  have hcurrent := hex.current
  rw [hdone] at hcurrent
  set storage := Function.update s.ring.storage c.last
    { s.ring.storage c.last with xferStatus := status.word } with hstorage
  have hdoneNow : isComplete storage c = true := by
    simp [isComplete, hstorage, XferStatus.word_ne_zero]
  have hstatus : (storage c.last).xferStatus = status.word := by simp [hstorage]
  have hkeep : ∀ d ∈ retired, isComplete storage d = isComplete s.ring.storage d :=
    fun d hd => isComplete_write (hretired d hd) _
  have hpend : ∀ d ∈ rest, isComplete storage d = false := fun d hd =>
    (isComplete_write (hrest d hd) _).trans (hex.ahead d hd)
  refine ⟨⟨h.spans.head, h.spans.tail, h.spans.tiled, h.spans.bound, h.spans.room, h.spans.start,
    h.spans.shaped⟩, ?_, h.alive, ?_, h.newest, fun _ => ⟨retired, c, rest, ?_⟩, ?_, ?_⟩
  · exact h.contents.update h.spans.shaped h.spans.disjoint hc ⟨rfl, rfl, rfl, rfl⟩
  · intro hnil
    exact absurd hnil (List.ne_nil_of_mem hc)
  · refine ⟨hex.running, hex.split, ?_, hex.cursor, rfl, hdoneNow, hpend⟩
    apply hex.branches.congr
    intro d hd
    change (storage d.last).branchWord = _
    by_cases hdc : d.last = c.last
    · rw [hdc, hstorage, Function.update_self]
    · rw [hstorage, Function.update_of_ne hdc]
  · intro hHL d rest' hd
    obtain ⟨hsecond, -⟩ := h.skipped hHL d rest' hd
    refine ⟨?_, fun _ => Or.inl rfl⟩
    have hmem : d ∈ s.inRing := by
      change s.inRing = d :: rest' at hd
      rw [hd]
      simp
    have hne : d.first + 1 ≠ c.last := by
      intro heq
      have hcov : d.Covers c.last := by
        have := (h.spans.shaped d hmem).last_cases
        unfold Covers
        omega
      have hdc : d = c := by
        by_contra hne
        exact apart_of_mem h.spans.disjoint hmem hc hne hcov (h.spans.shaped c hc).covers_last
      have := (h.spans.shaped c hc).last_cases
      rw [hdc] at heq
      omega
    change (storage (d.first + 1)).xferStatus = 0
    rw [hstorage, Function.update_of_ne hne]
    exact hsecond
  · refine ⟨?_, ?_, ?_⟩
    · have hlog := h.logged.reported
      rw [hex.split, filter_split c hex.ahead, hcurrent, if_neg (by simp), List.append_nil] at hlog
      change (s.finished ++ [(c, status.word)]).map _ = s.reported ++
        (s.inRing.filter (isComplete storage)).map _
      rw [hex.split, filter_split c hpend, hdoneNow, if_pos rfl, List.map_append,
        List.filter_congr hkeep, List.map_append, ← List.append_assoc]
      congr 1
      · refine hlog.trans (congrArg _ (List.map_congr_left fun d hd => ?_))
        change _ = s.completionOf d (storage d.last).xferStatus
        rw [hstorage, Function.update_of_ne (hretired d (List.mem_of_mem_filter hd))]
      · change [s.completionOf c status.word] = [s.completionOf c (storage c.last).xferStatus]
        rw [hstatus]
    · have hord := h.logged.ordered
      rw [hlinked] at hord
      change (List.map Prod.fst (s.finished ++ [(c, status.word)]) ++ rest).Sublist s.submitted
      rw [List.map_append, List.append_assoc]
      exact hord
    · intro d hd hcomplete
      change decodes s.agereQuirk (storage d.last).xferStatus = true
      by_cases hdc : d.last = c.last
      · rw [hdc, hstatus]
        exact decodes_xferStatus _ _
      · change isComplete storage d = true at hcomplete
        rw [hstorage, isComplete_write hdc] at hcomplete
        rw [hstorage, Function.update_of_ne hdc]
        exact h.logged.decoded d hd hcomplete

/-- Completing keeps the invariant and everything outside the chains of the ring. -/
lemma Inv.complete (h : s.Inv L H T) (hrun : s.hw.run = true) (status : XferStatus) :
    (s.complete status).Inv L H T ∧ (s.complete status).inRing = s.inRing ∧
      (s.complete status).submitted = s.submitted ∧
      (s.complete status).hw.run = s.hw.run ∧
      ∀ x, (∀ c ∈ s.inRing, ¬ c.Covers x) →
        (s.complete status).ring.storage x = s.ring.storage x := by
  obtain ⟨retired, c, rest, hex⟩ := h.executing (h.nonempty_of_run hrun)
  cases hdone : s.hw.done with
  | true =>
    have hsame : s.complete status = s := by
      unfold TxContext.complete
      rw [if_pos (by simp [hdone])]
    rw [hsame]
    exact ⟨h, rfl, rfl, rfl, fun _ _ => rfl⟩
  | false =>
    rw [hex.complete_eq h hdone]
    refine ⟨h.completed hex hdone status, rfl, rfl, rfl, fun x hx => Function.update_of_ne ?_ _ _⟩
    rintro rfl
    exact hx c hex.mem.1 (h.spans.shaped c hex.mem.1).covers_last

lemma Inv.startPayload (h : s.Inv L H T) : s.startPayload.Inv L H T := by
  unfold TxContext.startPayload
  split_ifs
  · refine ⟨⟨h.spans.head, h.spans.tail, h.spans.tiled, h.spans.bound, h.spans.room, h.spans.start,
      h.spans.shaped⟩, h.contents, h.alive, h.drained, h.newest, fun hne => ?_,
      fun hHL c rest hc => ⟨(h.skipped hHL c rest hc).1, fun _ => Or.inr rfl⟩,
      ⟨h.logged.reported, h.logged.ordered, h.logged.decoded⟩⟩
    obtain ⟨retired, c, rest, hex⟩ := h.executing hne
    exact ⟨retired, c, rest, hex.running, hex.split, hex.branches, hex.cursor, hex.linked,
      hex.current, hex.ahead⟩
  · exact h

/-- The controller follows the branch word of the chain it has completed. -/
lemma Inv.advance (h : s.Inv L H T) (hrun : s.hw.run = true) (hdone : s.hw.done = true)
    (status : ℕ) : Inv { s with toATContext := s.toATContext.hwStep status } L H T := by
  obtain ⟨retired, c, rest, hex⟩ := h.executing (h.nonempty_of_run hrun)
  unfold ATContext.hwStep
  rw [if_neg (by simp [hrun, h.alive]), if_neg (by simp [hdone]), hex.cursor]
  dsimp only
  rw [hex.lastOf_cursor h]
  cases rest with
  | nil =>
    have hbranch : (s.ring.storage c.last).branchWord = 0 := hex.branches
    rw [if_pos hbranch]
    exact h
  | cons d rest =>
    have hd : d ∈ s.inRing := hex.mem.2 d (by simp)
    obtain ⟨hne, hidx⟩ := DescriptorRing.linkWord_spec (h.spans.shaped d hd)
    have hbranch : (s.ring.storage c.last).branchWord = d.linkWord := hex.branches.1
    rw [hbranch, if_neg hne, hidx]
    have hahead := hex.ahead d (by simp)
    have hlinked := hex.linked
    rw [hdone, if_pos rfl] at hlinked
    refine ⟨⟨h.spans.head, h.spans.tail, h.spans.tiled, h.spans.bound, h.spans.room, h.spans.start,
      h.spans.shaped⟩, h.contents, h.alive, h.drained, h.newest, fun _ => ?_, ?_,
      ⟨h.logged.reported, h.logged.ordered, h.logged.decoded⟩⟩
    · exact ⟨retired ++ [c], d, rest, hex.running, by simp [hex.split], hex.branches.2, rfl,
        by simpa using hlinked, hahead, fun e he => hex.ahead e (List.mem_cons_of_mem _ he)⟩
    · intro hHL e rest' he
      refine ⟨(h.skipped hHL e rest' he).1, fun hcur => ?_⟩
      exfalso
      have hfirst : d.first = e.first := Option.some.inj hcur
      have hsplit : e :: rest' = retired ++ c :: d :: rest := he.symm.trans hex.split
      have hdisj := h.spans.disjoint
      rw [he] at hdisj
      have hdmem : d ∈ rest' := by
        cases retired with
        | nil =>
          rw [List.nil_append] at hsplit
          rw [(List.cons.inj hsplit).2]
          simp
        | cons r retired =>
          rw [List.cons_append] at hsplit
          rw [(List.cons.inj hsplit).2]
          simp
      have := (List.pairwise_cons.mp hdisj).1 d hdmem e.first e.covers_first
      rw [← hfirst] at this
      exact this d.covers_first

lemma Inv.hwStep (h : s.Inv L H T) (status : XferStatus) : (s.hwStep status).Inv L H T := by
  unfold TxContext.hwStep
  split_ifs with hstop hdone
  · exact h
  · exact (h.complete (by simp_all) status).1
  · exact h.advance (by simp_all) (by simpa using hdone) _

/-! ### Submissions -/

/-- The blocks of a submission leave one free and spare those of the oldest chain, its released
header included. -/
def Fits (s : TxContext) (n : ℕ) : Prop :=
  ∀ index ∈ s.ring.reserveBlocks n, (index + n) % s.ring.capacity ≠ s.ring.head ∧
    ∀ d ∈ s.inRing.head?, ∀ x < n, ¬ d.Covers (index + x)

/-- The tiling grows by a chain in reserved blocks. -/
lemma Spans.extend (h : s.Spans L H T) {c : SubmittedChain}
    (hc : c.Shaped s.ring.capacity s.ring.descIOVABase)
    (hres : s.ring.reserveBlocks c.blocks = some c.first) (hfits : s.Fits c.blocks) :
    ∃ T', Tiled s.ring.capacity L (s.inRing ++ [c]) T' ∧
      T' % s.ring.capacity = (c.first + c.blocks) % s.ring.capacity ∧
      T' ≤ L + s.ring.capacity ∧ T' < H + s.ring.capacity := by
  obtain ⟨hne, hspare⟩ := hfits c.first hres
  obtain ⟨a, haT, hgap, hfirst, hwrap, hroom, -⟩ :=
    DescriptorRing.reserveBlocks_block hres h.head h.tail h.le h.room
  have hmod : (a + c.blocks) % s.ring.capacity = (c.first + c.blocks) % s.ring.capacity := by
    rw [← hfirst, Nat.mod_add_mod]
  have hlt : a + c.blocks < H + s.ring.capacity := by
    rcases Nat.lt_or_ge (a + c.blocks) (H + s.ring.capacity) with hlt | hge
    · exact hlt
    · exfalso
      apply hne
      rw [← hmod, show a + c.blocks = H + s.ring.capacity by omega, Nat.add_mod_right, h.head]
  refine ⟨a + c.blocks, h.tiled.append haT hgap hfirst hwrap, hmod, ?_, hlt⟩
  rcases h.start with hHL | ⟨hHL, d, rest, hd, hreq, hdfirst⟩
  · omega
  · by_contra hover
    have hfit := hc.fits
    have hdfit := (h.shaped d (by rw [hd]; simp)).fits
    have hdblocks : d.blocks = 3 := by simp [SubmittedChain.blocks, hreq]
    apply hspare d (by rw [hd]; rfl) (L + s.ring.capacity - a) (by omega)
    have hval := mod_add_small (k := L + s.ring.capacity - a) hfirst (by omega)
    rw [show a + (L + s.ring.capacity - a) = L + s.ring.capacity by omega, Nat.add_mod_right,
      hdfirst] at hval
    rw [← hval]
    exact d.covers_first

/-- Storage may change outside the OUTPUT_LASTs in the ring. -/
lemma Inv.with_storage (h : s.Inv L H T) {storage : ℕ → OHCIDescriptor}
    (hlast : ∀ d ∈ s.inRing, storage d.last = s.ring.storage d.last)
    (hcontents : Contents s.ring.capacity storage s.inRing)
    (hsecond : H ≠ L → ∀ c rest, s.inRing = c :: rest → (storage (c.first + 1)).xferStatus = 0) :
    Inv { s with ring := { s.ring with storage := storage } } L H T := by
  have hcomplete : ∀ d ∈ s.inRing, isComplete storage d = isComplete s.ring.storage d := by
    intro d hd
    unfold isComplete
    rw [hlast d hd]
  refine ⟨⟨h.spans.head, h.spans.tail, h.spans.tiled, h.spans.bound, h.spans.room, h.spans.start,
    h.spans.shaped⟩, hcontents, h.alive, h.drained, h.newest, fun hne => ?_, ?_, ?_⟩
  · obtain ⟨retired, c, rest, hex⟩ := h.executing hne
    refine ⟨retired, c, rest, hex.running, hex.split, ?_, hex.cursor, hex.linked,
      (hcomplete c hex.mem.1).trans hex.current,
      fun d hd => (hcomplete d (hex.mem.2 d hd)).trans (hex.ahead d hd)⟩
    apply hex.branches.congr
    intro d hd
    have hmem : d ∈ s.inRing := by
      rcases List.mem_cons.mp hd with rfl | hd
      · exact hex.mem.1
      · exact hex.mem.2 d hd
    exact congrArg _ (hlast d hmem)
  · intro hHL c rest hc
    exact ⟨hsecond hHL c rest hc, (h.skipped hHL c rest hc).2⟩
  · refine ⟨h.logged.reported.trans ?_, h.logged.ordered, fun d hd hd' => ?_⟩
    · rw [List.filter_congr fun d hd => (hcomplete d hd).symm]
      refine congrArg _ (List.map_congr_left fun d hd => ?_)
      change _ = s.completionOf d (storage d.last).xferStatus
      rw [hlast d (List.mem_of_mem_filter hd)]
    · change decodes s.agereQuirk (storage d.last).xferStatus = true
      rw [hlast d hd]
      exact h.logged.decoded d hd ((hcomplete d hd).symm.trans hd')

/-- Storage may change outside the chains of the ring. -/
lemma Inv.with_free_storage (h : s.Inv L H T) {storage : ℕ → OHCIDescriptor}
    (hsame : ∀ d ∈ s.inRing, ∀ x, d.Covers x → storage x = s.ring.storage x)
    (hclear : ∀ x < s.ring.capacity, (∀ d ∈ s.inRing, ¬ d.Covers x) → (storage x).xferStatus = 0)
    (hedge : ∀ x, x + 1 = s.ring.capacity → (storage x).key = .standard) :
    Inv { s with ring := { s.ring with storage := storage } } L H T := by
  apply h.with_storage
  · exact fun d hd => hsame d hd _ (h.spans.shaped d hd).covers_last
  · exact ⟨fun d hd => (h.contents.held d hd).congr (h.spans.shaped d hd) (hsame d hd), hclear,
      hedge⟩
  · intro hHL c rest hc
    have hmem : c ∈ s.inRing := by
      rw [hc]
      simp
    rw [hsame c hmem]
    · exact (h.skipped hHL c rest hc).1
    · have := (h.spans.shaped c hmem).last_cases
      unfold Covers
      omega

/-- The context after a chain has been added behind the others. -/
def pushed (s : TxContext) (c : SubmittedChain) (storage : ℕ → OHCIDescriptor) (hw : ATHardware)
    (onPayload : Bool) (linked : List SubmittedChain) : TxContext :=
  { s with
    ring := { s.ring with
      storage := storage
      tail := (c.first + c.blocks) % s.ring.capacity
      prevLastBlocks := c.lastBlocks }
    state := .running
    hw := hw
    inRing := s.inRing ++ [c]
    pending := s.pending ++ [c]
    onPayload := onPayload
    linked := linked
    submitted := s.submitted ++ [c] }

lemma Inv.pushed (h : s.Inv L H T) {c : SubmittedChain} {storage : ℕ → OHCIDescriptor}
    {hw : ATHardware} {onPayload : Bool} {linked : List SubmittedChain} {T' : ℕ}
    (htiled : Tiled s.ring.capacity L (s.inRing ++ [c]) T')
    (htail : T' % s.ring.capacity = (c.first + c.blocks) % s.ring.capacity)
    (hbound : T' ≤ L + s.ring.capacity) (hroom : T' < H + s.ring.capacity)
    (hc : c.Shaped s.ring.capacity s.ring.descIOVABase)
    (hcontents : Contents s.ring.capacity storage (s.inRing ++ [c]))
    (hstatus : ∀ d ∈ s.inRing, ∀ x, d.Covers x →
      (storage x).xferStatus = (s.ring.storage x).xferStatus)
    (hnew : isComplete storage c = false) (halive : hw.dead = false)
    (hex : ∃ retired d rest, (s.pushed c storage hw onPayload linked).Executing retired d rest)
    (hskip : ∀ d rest, s.inRing = d :: rest → s.Skipped → hw.cursor = some d.first →
      hw.done = true ∨ onPayload = true)
    (hordered : (s.finished.map Prod.fst ++ linked).Sublist (s.submitted ++ [c])) :
    (s.pushed c storage hw onPayload linked).Inv L H T' := by
  have hlast : ∀ d ∈ s.inRing, (storage d.last).xferStatus = (s.ring.storage d.last).xferStatus :=
    fun d hd => hstatus d hd _ (h.spans.shaped d hd).covers_last
  have hcomplete : ∀ d ∈ s.inRing, isComplete storage d = isComplete s.ring.storage d := by
    intro d hd
    unfold isComplete
    rw [hlast d hd]
  refine ⟨⟨h.spans.head, htail, htiled, hbound, hroom, ?_, ?_⟩, hcontents, halive, ?_, ?_,
    fun _ => hex, ?_, ?_⟩
  · rcases h.spans.start with hHL | ⟨hHL, d, rest, hd, hreq, hfirst⟩
    · exact Or.inl hHL
    · refine Or.inr ⟨hHL, d, rest ++ [c], ?_, hreq, hfirst⟩
      change s.inRing ++ [c] = _
      rw [hd, List.cons_append]
  · intro d hd
    rcases List.mem_append.mp hd with hd | hd
    · exact h.spans.shaped d hd
    · rw [List.mem_singleton.mp hd]
      exact hc
  · intro hnil
    exact absurd hnil (by simp [TxContext.pushed])
  · intro d hd
    have hdc : d = c := by simpa [TxContext.pushed] using hd.symm
    rw [hdc]
    exact ⟨rfl, rfl, rfl⟩
  · intro hHL d rest hd
    rcases h.spans.start with hHL' | ⟨-, e, rest', he, -, -⟩
    · exact absurd hHL' hHL
    have hde : d = e := by
      change s.inRing ++ [c] = d :: rest at hd
      rw [he, List.cons_append] at hd
      exact (List.cons.inj hd).1.symm
    rw [hde]
    have hmem : e ∈ s.inRing := by
      rw [he]
      simp
    refine ⟨?_, hskip e rest' he (h.skipped hHL)⟩
    change (storage (e.first + 1)).xferStatus = 0
    rw [hstatus e hmem]
    · exact (h.skipped hHL e rest' he).1
    · have := (h.spans.shaped e hmem).last_cases
      unfold Covers
      omega
  · refine ⟨h.logged.reported.trans ?_, hordered, fun d hd hd' => ?_⟩
    · change _ = s.reported ++ ((s.inRing ++ [c]).filter (isComplete storage)).map _
      rw [List.filter_append, List.filter_cons_of_neg (by simp [hnew]), List.filter_nil,
        List.append_nil, List.filter_congr hcomplete]
      refine congrArg _ (List.map_congr_left fun d hd => ?_)
      change _ = s.completionOf d (storage d.last).xferStatus
      rw [hlast d (List.mem_of_mem_filter hd)]
    · change decodes s.agereQuirk (storage d.last).xferStatus = true
      rcases List.mem_append.mp hd with hd | hd
      · rw [hlast d hd]
        exact h.logged.decoded d hd ((hcomplete d hd).symm.trans hd')
      · rw [List.mem_singleton.mp hd] at hd'
        exact absurd (hnew.symm.trans hd') (by simp)

/-- A chain in memory that the ring's tail has not been moved past yet. -/
structure Ready (s : TxContext) (c : SubmittedChain) : Prop where
  shaped : c.Shaped s.ring.capacity s.ring.descIOVABase
  held : Held s.ring.storage c
  branch : (s.ring.storage c.last).branchWord = 0
  waiting : isComplete s.ring.storage c = false
  apart : ∀ d ∈ s.inRing, ∀ x, d.Covers x → ¬ c.Covers x

/-- PATH 1: the new chain is the only one the controller executes. -/
lemma Inv.pushed_armed (h : s.Inv L H T) {c : SubmittedChain} (hc : s.Ready c) {T' : ℕ}
    (htiled : Tiled s.ring.capacity L (s.inRing ++ [c]) T')
    (htail : T' % s.ring.capacity = (c.first + c.blocks) % s.ring.capacity)
    (hbound : T' ≤ L + s.ring.capacity) (hroom : T' < H + s.ring.capacity) (commandPtr : ℕ)
    (hordered : (s.finished.map Prod.fst).Sublist s.submitted) :
    (s.pushed c s.ring.storage
      { s.hw with run := true, commandPtr := commandPtr, cursor := some c.first, done := false }
      false [c]).Inv L H T' := by
  refine h.pushed htiled htail hbound hroom hc.shaped (h.contents.append hc.held)
    (fun _ _ _ _ => rfl) hc.waiting h.alive ⟨s.inRing, c, [], ?_⟩ ?_
    (hordered.append_right [c])
  · exact ⟨rfl, rfl, hc.branch, rfl, rfl, hc.waiting, by simp⟩
  · intro d rest hd _ hcur
    exfalso
    have hmem : d ∈ s.inRing := by
      rw [hd]
      simp
    have hfirst : c.first = d.first := Option.some.inj hcur
    apply hc.apart d hmem d.first d.covers_first
    rw [← hfirst]
    exact c.covers_first

/-- PATH 2: the new chain is linked behind the newest one, which is header-only. -/
lemma Inv.pushed_linked (h : s.Inv L H T) {c d : SubmittedChain} (hc : s.Ready c) {T' : ℕ}
    (htiled : Tiled s.ring.capacity L (s.inRing ++ [c]) T')
    (htail : T' % s.ring.capacity = (c.first + c.blocks) % s.ring.capacity)
    (hbound : T' ≤ L + s.ring.capacity) (hroom : T' < H + s.ring.capacity)
    (hlast : s.inRing.getLast? = some d) :
    (s.pushed c (Function.update s.ring.storage d.last
      { s.ring.storage d.last with branchWord := c.linkWord, branchBits := kBranchAlways })
      s.hw s.onPayload (s.linked ++ [c])).Inv L H T' := by
  set storage := Function.update s.ring.storage d.last
    { s.ring.storage d.last with branchWord := c.linkWord, branchBits := kBranchAlways }
    with hstorage
  have hd : d ∈ s.inRing := List.mem_of_getLast? hlast
  obtain ⟨retired, a, rest, hex⟩ := h.executing (List.ne_nil_of_mem hd)
  have hstatus : ∀ x, (storage x).xferStatus = (s.ring.storage x).xferStatus := by
    intro x
    by_cases hx : x = d.last
    · rw [hx, hstorage, Function.update_self]
    · rw [hstorage, Function.update_of_ne hx]
  have hcomplete : ∀ e : SubmittedChain, isComplete storage e = isComplete s.ring.storage e := by
    intro e
    unfold isComplete
    rw [hstatus]
  have hbranch : ∀ e : SubmittedChain, e.last ≠ d.last →
      (storage e.last).branchWord = (s.ring.storage e.last).branchWord := by
    intro e he
    rw [hstorage, Function.update_of_ne he]
  have hcd : c.last ≠ d.last := by
    intro heq
    apply hc.apart d hd _ (h.spans.shaped d hd).covers_last
    rw [← heq]
    exact hc.shaped.covers_last
  have hcontents : Contents s.ring.capacity storage (s.inRing ++ [c]) := by
    have hs : ∀ e ∈ s.inRing ++ [c], e.Shaped s.ring.capacity s.ring.descIOVABase := by
      intro e he
      rcases List.mem_append.mp he with he | he
      · exact h.spans.shaped e he
      · rw [List.mem_singleton.mp he]
        exact hc.shaped
    refine (h.contents.append hc.held).update hs ?_ (List.mem_append_left _ hd) ⟨rfl, rfl, rfl, rfl⟩
    rw [List.pairwise_append]
    refine ⟨h.spans.disjoint, List.pairwise_singleton _ _, fun e he f hf x hx => ?_⟩
    rw [List.mem_singleton.mp hf]
    exact hc.apart e he x hx
  refine h.pushed htiled htail hbound hroom hc.shaped hcontents (fun _ _ x _ => hstatus x)
    ((hcomplete c).trans hc.waiting) h.alive ⟨retired, a, rest ++ [c], ?_⟩
    (fun e rest' he hskip => (hskip e rest' he).2) ?_
  · refine ⟨hex.running, ?_, ?_, hex.cursor, ?_, (hcomplete a).trans hex.current, ?_⟩
    · change s.inRing ++ [c] = _
      rw [hex.split, List.append_assoc, List.cons_append]
    · obtain ⟨front, d', hfront⟩ := (List.eq_nil_or_concat (a :: rest)).resolve_left (by simp)
      rw [List.concat_eq_append] at hfront
      have hd' : d' = d := by
        rw [hex.split, hfront] at hlast
        simpa using hlast
      subst hd'
      have hbr := hex.branches
      change Branches storage (a :: (rest ++ [c]))
      rw [hfront] at hbr
      rw [← List.cons_append, hfront]
      have hdisj := h.spans.disjoint
      rw [hex.split, hfront, ← List.append_assoc] at hdisj
      obtain ⟨-, -, hcross⟩ := List.pairwise_append.mp hdisj
      refine hbr.link (fun e he => hbranch e fun heq => ?_) ?_ ((hbranch c hcd).trans hc.branch)
      · have hemem : e ∈ s.inRing := by
          rw [hex.split, hfront]
          simp [he]
        have hcov := (h.spans.shaped e hemem).covers_last
        rw [heq] at hcov
        have hself := hcross e (by simp [he]) d' (by simp)
        exact hself _ hcov (h.spans.shaped d' hd).covers_last
      · rw [hstorage, Function.update_self]
    · change s.linked ++ [c] = _
      rw [hex.linked]
      change _ = if s.hw.done then rest ++ [c] else a :: (rest ++ [c])
      split <;> rfl
    · intro e he
      rcases List.mem_append.mp he with he | he
      · exact (hcomplete e).trans (hex.ahead e he)
      · rw [List.mem_singleton.mp he]
        exact (hcomplete c).trans hc.waiting
  · rw [← List.append_assoc]
    exact h.logged.ordered.append_right [c]

lemma stopped_toATContext (s : TxContext) (polled : Option XferStatus) :
    (s.stopped polled).toATContext = s.toATContext.stopped (polled.map (·.word)) := by
  cases polled with
  | none => rfl
  | some status =>
    have hcomplete : (s.complete status).toATContext = s.toATContext.completeCursor status.word := by
      unfold TxContext.complete
      split_ifs with hidle
      · rcases Bool.or_eq_true_iff.mp hidle with hnone | hdone
        · unfold ATContext.completeCursor
          rw [Option.isNone_iff_eq_none.mp hnone]
        · rw [ATContext.completeCursor_done hdone]
      · rfl
    unfold TxContext.stopped ATContext.stopped
    dsimp only [Option.map_some]
    split_ifs with hrun
    · exact hcomplete
    · rfl

lemma Inv.stopped (h : s.Inv L H T) (polled : Option XferStatus) :
    (s.stopped polled).Inv L H T ∧ (s.stopped polled).inRing = s.inRing ∧
      (s.stopped polled).submitted = s.submitted ∧
      ∀ x, (∀ c ∈ s.inRing, ¬ c.Covers x) →
        (s.stopped polled).ring.storage x = s.ring.storage x := by
  unfold TxContext.stopped
  cases polled with
  | none => exact ⟨h, rfl, rfl, fun _ _ => rfl⟩
  | some status =>
    dsimp only
    split_ifs with hrun
    · obtain ⟨hinv, hring, hsub, -, hframe⟩ := h.complete hrun status
      exact ⟨hinv, hring, hsub, hframe⟩
    · exact ⟨h, rfl, rfl, fun _ _ => rfl⟩

lemma Spans.capacity_pos (h : s.Spans L H T) : 0 < s.ring.capacity := by
  have hle := h.le
  have hroom := h.room
  omega

/-- A built chain is ready in a context that keeps the invariant. -/
lemma Inv.ready (h : s.Inv L H T) {built : DescriptorRing} {c : SubmittedChain}
    (hb : Built s.ring built c)
    (hapart : ∀ d ∈ s.inRing, ∀ x, d.Covers x → ¬ c.Covers x) :
    Inv { s with ring := built } L H T ∧ Ready { s with ring := built } c := by
  obtain ⟨storage, rfl⟩ : ∃ storage, built = { s.ring with storage := storage } := ⟨_, hb.rest⟩
  have hblank := hb.blank
  constructor
  · apply h.with_free_storage
    · intro d hd x hx
      exact hb.same x (hapart d hd x hx)
    · intro x hx hfree
      by_cases hcx : c.Covers x
      · exact hblank x hcx
      · have hsame : storage x = s.ring.storage x := hb.same x hcx
        rw [hsame]
        exact h.contents.clear x hx hfree
    · intro x hx
      by_cases hcx : c.Covers x
      · exact hb.edge x hcx hx
      · have hsame : storage x = s.ring.storage x := hb.same x hcx
        rw [hsame]
        exact h.contents.edge x hx
  · obtain ⟨hheld, hbranch⟩ := Held.of_carries hb.shaped hb.carries (hblank _ c.covers_first)
    have hwait : isComplete storage c = false := by
      have := hblank c.last hb.shaped.covers_last
      simpa [isComplete] using this
    exact ⟨hb.shaped, hheld, hbranch, hwait, hapart⟩

lemma updateRingTail_eq {ring : DescriptorRing} {c : SubmittedChain} {m base : ℕ}
    (hc : c.Shaped m base) : ring.updateRingTail c.toDescriptorChain =
      { ring with
        tail := (c.first + c.blocks) % ring.capacity
        prevLastBlocks := c.lastBlocks } := by
  unfold DescriptorRing.updateRingTail
  rw [hc.lastRing]

/-- What PATH 1 leaves is the polled context with the chain pushed. -/
lemma armed_eq_pushed (t : TxContext) {c : SubmittedChain} {m base : ℕ} (hc : c.Shaped m base)
    (commandPtr : ℕ) :
    { t with
      toATContext := { t.toATContext.armed c commandPtr with
        inRing := (t.toATContext.armed c commandPtr).inRing ++ [c]
        pending := (t.toATContext.armed c commandPtr).pending ++ [c] }
      onPayload := false
      linked := [c]
      submitted := t.submitted ++ [c] } =
    t.pushed c t.ring.storage
      { t.hw with run := true, commandPtr := commandPtr, cursor := some c.first, done := false }
      false [c] := by
  unfold TxContext.pushed ATContext.armed
  dsimp only
  rw [updateRingTail_eq hc]

/-- What PATH 2 leaves is the context with the chain linked and pushed. -/
lemma linked_eq_pushed (t : TxContext) {c d : SubmittedChain} {m base : ℕ} (hc : c.Shaped m base)
    (hstate : t.state = .running) :
    { t with
      toATContext := { t.toATContext with
        ring := ATContext.linkedRing t.ring d c
        inRing := t.inRing ++ [c]
        pending := t.pending ++ [c] }
      linked := t.linked ++ [c]
      submitted := t.submitted ++ [c] } =
    t.pushed c (Function.update t.ring.storage d.last
      { t.ring.storage d.last with branchWord := c.linkWord, branchBits := kBranchAlways })
      t.hw t.onPayload (t.linked ++ [c]) := by
  unfold TxContext.pushed ATContext.linkedRing
  rw [updateRingTail_eq hc]
  dsimp only
  rw [hstate]
  rfl

/-- A submission through PATH 1. -/
lemma Inv.submit_armed (h : s.Inv L H T) {c : SubmittedChain} (hc : s.Ready c) {T' : ℕ}
    (htiled : Tiled s.ring.capacity L (s.inRing ++ [c]) T')
    (htail : T' % s.ring.capacity = (c.first + c.blocks) % s.ring.capacity)
    (hbound : T' ≤ L + s.ring.capacity) (hroom : T' < H + s.ring.capacity)
    (polled : Option XferStatus) (commandPtr : ℕ) :
    Inv { s.stopped polled with
      toATContext := { (s.toATContext.stopped (polled.map (·.word))).armed c commandPtr with
        inRing := ((s.toATContext.stopped (polled.map (·.word))).armed c commandPtr).inRing ++ [c]
        pending :=
          ((s.toATContext.stopped (polled.map (·.word))).armed c commandPtr).pending ++ [c] }
      onPayload := false
      linked := [c]
      submitted := s.submitted ++ [c] } L H T' := by
  obtain ⟨hinv, hring, hsub, hframe⟩ := h.stopped polled
  have hat := stopped_toATContext s polled
  have hfields := ATContext.stopped_ring s.toATContext (polled.map (·.word))
  rw [← hat] at hfields ⊢
  rw [← hsub]
  generalize s.stopped polled = t at hinv hring hsub hframe hat hfields ⊢
  have hcap : t.ring.capacity = s.ring.capacity := by rw [hfields]
  have hbase : t.ring.descIOVABase = s.ring.descIOVABase := by rw [hfields]
  have hkeep : ∀ x, c.Covers x → t.ring.storage x = s.ring.storage x := fun x hx =>
    hframe x fun d hd hdx => hc.apart d hd x hdx hx
  have hready : t.Ready c := by
    refine ⟨?_, hc.held.congr hc.shaped hkeep, ?_, ?_, ?_⟩
    · rw [hcap, hbase]
      exact hc.shaped
    · rw [hkeep _ hc.shaped.covers_last]
      exact hc.branch
    · unfold isComplete
      rw [hkeep _ hc.shaped.covers_last]
      exact hc.waiting
    · rw [hring]
      exact hc.apart
  rw [armed_eq_pushed t hready.shaped]
  rw [← hcap, ← hring] at htiled
  rw [← hcap] at htail hbound hroom
  exact hinv.pushed_armed hready htiled htail hbound hroom commandPtr
    ((List.sublist_append_left _ _).trans hinv.logged.ordered)

/-- A submission whose blocks fit keeps the invariant. -/
lemma Inv.submit (h : s.Inv L H T) {req : ChainRequest}
    (hfits : s.Fits (if req.headerOnly then 2 else 3)) (polled : Option XferStatus) :
    ∃ T', (s.submit req polled).Inv L H T' := by
  have hcap := h.spans.capacity_pos
  have hhead : s.ring.head < s.ring.capacity := h.spans.head ▸ Nat.mod_lt _ hcap
  have htail : s.ring.tail < s.ring.capacity := h.spans.tail ▸ Nat.mod_lt _ hcap
  rcases buildTransactionChain_spec req htail hhead with hbuild | ⟨built, chain, hbuild, hb⟩
  · unfold TxContext.submit ATContext.submit
    rw [hbuild]
    exact ⟨T, h⟩
  obtain ⟨T', htiled, hT', hbound, hroom⟩ := h.spans.extend hb.shaped hb.reserved hfits
  have hs : ∀ e ∈ s.inRing ++ [⟨chain, req⟩],
      e.Shaped s.ring.capacity s.ring.descIOVABase := by
    intro e he
    rcases List.mem_append.mp he with he | he
    · exact h.spans.shaped e he
    · rw [List.mem_singleton.mp he]
      exact hb.shaped
  have hapart : ∀ d ∈ s.inRing, ∀ x, d.Covers x → ¬ SubmittedChain.Covers ⟨chain, req⟩ x := by
    intro d hd
    exact (List.pairwise_append.mp (htiled.disjoint hs hbound)).2.2 d hd _ (by simp)
  obtain ⟨hinv, hready⟩ := h.ready hb hapart
  have hfields : built = { s.ring with storage := built.storage } := hb.rest
  have hcapacity : built.capacity = s.ring.capacity := by rw [hfields]
  rw [← hcapacity] at htiled hT' hbound hroom
  -- PATH 1, with nothing to link to
  have harm : appends { s.toATContext with ring := built } chain = false →
      ATContext.submitChain { s.toATContext with ring := built } chain (polled.map (·.word)) =
        ATContext.submitPath1 { s.toATContext with ring := built } chain (polled.map (·.word)) →
      ∃ T', (s.submit req polled).Inv L H T' := by
    intro happ hchain
    obtain ⟨commandPtr, hpath⟩ := ATContext.submitPath1_eq (c := ⟨chain, req⟩)
      (s := { s.toATContext with ring := built }) hready.shaped (polled.map (·.word))
    unfold TxContext.submit ATContext.submit
    rw [hbuild]
    dsimp only
    rw [happ, hchain, hpath, if_neg (by simp), if_pos rfl]
    exact ⟨T', hinv.submit_armed hready htiled hT' hbound hroom polled commandPtr⟩
  cases hlast : s.inRing.getLast? with
  | none =>
    have hprev : built.prevLastBlocks = 0 := by
      rw [hfields]
      exact (h.drained (List.getLast?_eq_none_iff.mp hlast)).1
    apply harm
    · simp [appends, hprev]
    · simp [ATContext.submitChain, hprev]
  | some d =>
    have hd : d ∈ s.inRing := List.mem_of_getLast? hlast
    obtain ⟨hstate, htailAt, hprev⟩ := hinv.newest d hlast
    obtain ⟨retired, a, rest, hex⟩ := h.executing (List.ne_nil_of_mem hd)
    have hkey := (hinv.contents.held d hd).key
    have hne := hinv.spans.head_ne_tail (List.ne_nil_of_mem hd)
    cases hreq : d.req.headerOnly with
    | false =>
      obtain ⟨hfail, hchain⟩ := ATContext.submitChain_arm chain (hinv.spans.shaped d hd) hkey hreq
        htailAt hprev (polled.map (·.word))
      apply harm
      · simp [appends, hfail]
      · exact hchain
    | true =>
      obtain ⟨hok, hchain⟩ := ATContext.submitChain_append hready.shaped (hinv.spans.shaped d hd)
        hkey hreq htailAt hprev hstate hne hex.running h.alive (polled.map (·.word))
      have hempty : built.isEmpty = false := by simpa [DescriptorRing.isEmpty] using hne
      have hpos : 0 < built.prevLastBlocks := by
        have hblocks := (hinv.spans.shaped d hd).lastBlocks
        change built.prevLastBlocks = d.lastBlocks at hprev
        rw [hprev, hblocks]
        split <;> omega
      have happ : appends { s.toATContext with ring := built } chain = true := by
        simp only [appends]
        rw [hok]
        simpa [hempty, hpos] using hstate
      unfold TxContext.submit ATContext.submit
      rw [hbuild]
      dsimp only
      rw [happ, hchain, if_pos rfl, if_pos rfl]
      refine ⟨T', ?_⟩
      have hpush := hinv.pushed_linked hready htiled hT' hbound hroom hlast
      rw [← linked_eq_pushed _ hready.shaped hstate] at hpush
      exact hpush

/-! ### Scans -/

/-- `ClearDescriptorBlocks` on blocks that do not wrap. -/
lemma clearDescriptorBlocks_eq (ring : DescriptorRing) {i n : ℕ} (h : i + n ≤ ring.capacity) :
    ring.clearDescriptorBlocks i n =
      { ring with
        storage := fun x =>
          if i ≤ x ∧ x < i + n then DescriptorRing.clearDescriptorStatus (ring.storage x)
          else ring.storage x } := by
  induction n with
  | zero =>
    have hnone : ∀ x, ¬ (i ≤ x ∧ x < i + 0) := by omega
    simp only [hnone, if_false]
    rfl
  | succ n ih =>
    unfold DescriptorRing.clearDescriptorBlocks
    rw [ih (by omega)]
    dsimp only [DescriptorRing.write]
    rw [Nat.mod_eq_of_lt (by omega)]
    congr 1
    funext x
    by_cases hx : x = i + n
    · subst hx
      rw [Function.update_self, if_neg (by omega), if_pos (by omega)]
    · rw [Function.update_of_ne hx]
      by_cases hin : i ≤ x ∧ x < i + n
      · rw [if_pos hin, if_pos (by omega)]
      · rw [if_neg hin, if_neg (by omega)]

/-- Blocks of the head and the status they are left with. -/
def cleared (s : TxContext) (n : ℕ) (x : ℕ) : OHCIDescriptor :=
  if s.ring.head ≤ x ∧ x < s.ring.head + n then
    DescriptorRing.clearDescriptorStatus (s.ring.storage x)
  else s.ring.storage x

lemma consume_eq {n : ℕ} (h : s.ring.head + n ≤ s.ring.capacity) : s.consume n =
    { s with
      ring := { s.ring with
        storage := s.cleared n
        head := (s.ring.head + n) % s.ring.capacity }
      inRing := s.inRing.filter (·.last ≠ s.ring.head) } := by
  unfold TxContext.consume
  rw [clearDescriptorBlocks_eq s.ring h]
  rfl

lemma cleared_of_not {n x : ℕ} (h : ¬ (s.ring.head ≤ x ∧ x < s.ring.head + n)) :
    s.cleared n x = s.ring.storage x := if_neg h

lemma cleared_status {n x : ℕ}
    (h : (s.ring.head ≤ x ∧ x < s.ring.head + n) ∨ (s.ring.storage x).xferStatus = 0) :
    (s.cleared n x).xferStatus = 0 := by
  unfold cleared
  split_ifs with hx
  · rfl
  · exact h.resolve_left hx

lemma cleared_key (s : TxContext) (n x : ℕ) : (s.cleared n x).key = (s.ring.storage x).key := by
  unfold cleared
  split_ifs <;> rfl

/-- The head moves without passing an OUTPUT_LAST. -/
lemma Inv.with_head (h : s.Inv L H T) {L' H' head : ℕ}
    (hspans : Spans { s with ring := { s.ring with head := head } } L' H' T)
    (hskip : H' ≠ L' → s.Skipped) :
    Inv { s with ring := { s.ring with head := head } } L' H' T := by
  refine ⟨hspans, h.contents, h.alive, h.drained, h.newest, fun hne => ?_, hskip,
    ⟨h.logged.reported, h.logged.ordered, h.logged.decoded⟩⟩
  obtain ⟨retired, c, rest, hex⟩ := h.executing hne
  exact ⟨retired, c, rest, hex.running, hex.split, hex.branches, hex.cursor, hex.linked,
    hex.current, hex.ahead⟩

/-- What is at the head: a gap before the wrap, the first block of the oldest chain, or its
payload block. -/
lemma Spans.head_cases (h : s.Spans L H T) {c : SubmittedChain} {rest : List SubmittedChain}
    (hc : s.inRing = c :: rest) :
    (H = L ∧ c.first = 0 ∧ ∃ k, 0 < k ∧ k < c.blocks ∧ s.ring.head + k = s.ring.capacity ∧
      (H + k) % s.ring.capacity = 0 ∧ Tiled s.ring.capacity (H + k + c.blocks) rest T) ∨
    (H = L ∧ s.ring.head = c.first ∧ Tiled s.ring.capacity (H + c.blocks) rest T) ∨
    (H = L + 2 ∧ c.req.headerOnly = false ∧ s.ring.head = c.last ∧ L % s.ring.capacity = c.first ∧
      Tiled s.ring.capacity (H + 1) rest T) := by
  have htiled := h.tiled
  have hcs := h.shaped c (by rw [hc]; simp)
  have hfit := hcs.fits
  rw [hc] at htiled
  obtain ⟨a, hLa, haL, hfirst, hgap, hrest⟩ := htiled
  rcases h.start with hHL | ⟨hHL, d, rest', hd, hreq, hLd⟩
  · subst hHL
    by_cases hHa : H = a
    · subst hHa
      exact Or.inr (Or.inl ⟨rfl, h.head.symm.trans hfirst, hrest⟩)
    · have hzero := hgap.resolve_left hHa
      refine Or.inl ⟨rfl, hzero, a - H, by omega, by omega, ?_, ?_, ?_⟩
      · have hlaps := mod_laps (m := s.ring.capacity) (by omega : H ≤ a) (by omega)
        rw [h.head, hfirst, hzero] at hlaps
        omega
      · rw [show H + (a - H) = a by omega, hfirst, hzero]
      · rw [show H + (a - H) = a by omega]
        exact hrest
  · have hcd : c = d := (List.cons.inj (hc.symm.trans hd)).1
    subst hcd
    have haL' : a = L := eq_of_mod_eq (m := s.ring.capacity) (L := L) hLa (by omega) le_rfl
      (by omega) (hfirst.trans hLd.symm)
    subst haL'
    have hblocks : c.blocks = 3 := by simp [SubmittedChain.blocks, hreq]
    have hlast := hcs.last
    rw [hreq, if_neg (by simp)] at hlast
    refine Or.inr (Or.inr ⟨hHL, hreq, ?_, hLd, ?_⟩)
    · rw [← h.head, hHL, mod_add_small hLd (by omega), hlast]
    · rw [hblocks] at hrest
      rw [hHL]
      exact hrest

/-- The blocks in front of a wrap belong to no chain. -/
lemma Spans.gap_free (h : s.Spans L H T) {c : SubmittedChain} {rest : List SubmittedChain}
    (hc : s.inRing = c :: rest) (hzero : c.first = 0) {k : ℕ}
    (hk : s.ring.head + k = s.ring.capacity) (hmod : (H + k) % s.ring.capacity = 0)
    (hrest : Tiled s.ring.capacity (H + k + c.blocks) rest T) {x : ℕ} (hx : s.ring.head ≤ x)
    (hx' : x < s.ring.capacity) : ∀ d ∈ s.inRing, ¬ d.Covers x := by
  intro d hd hcov
  have hpos := c.blocks_pos
  have htiled : Tiled s.ring.capacity (H + k) s.inRing T := by
    rw [hc]
    exact ⟨H + k, le_rfl, by omega, hmod.trans hzero.symm, Or.inl rfl, hrest⟩
  obtain ⟨y, hy, hyT, hyx⟩ := htiled.covered h.shaped hd hcov
  have hmine : (H + (x - s.ring.head)) % s.ring.capacity = x := by
    rw [mod_add_small h.head (by omega)]
    omega
  have hroom := h.room
  have := eq_of_mod_eq (L := H) (by omega) (by omega) (by omega) (by omega) (hmine.trans hyx.symm)
  omega

/-- The scan skips blocks of a gap. -/
lemma Inv.consume_gap (h : s.Inv L H T) {c : SubmittedChain} {rest : List SubmittedChain}
    (hc : s.inRing = c :: rest) (hzero : c.first = 0) {k n : ℕ} (hkc : k < c.blocks)
    (hk : s.ring.head + k = s.ring.capacity) (hmod : (H + k) % s.ring.capacity = 0)
    (hrest : Tiled s.ring.capacity (H + k + c.blocks) rest T) (hHL : H = L) (hn : 0 < n)
    (hnk : n ≤ k) : (s.consume n).Inv (H + n) (H + n) T := by
  have hfree := fun x => h.spans.gap_free (x := x) hc hzero hk hmod hrest
  have hfilter : s.inRing.filter (·.last ≠ s.ring.head) = s.inRing := by
    rw [List.filter_eq_self]
    intro d hd
    have hcov := (h.spans.shaped d hd).covers_last
    have hne : d.last ≠ s.ring.head := by
      intro heq
      rw [heq] at hcov
      exact hfree _ le_rfl (by omega) d hd hcov
    simpa using hne
  rw [consume_eq (by omega), hfilter]
  have hstored : Inv { s with ring := { s.ring with storage := s.cleared n } } L H T := by
    apply h.with_free_storage
    · intro d hd x hx
      refine cleared_of_not fun hin => ?_
      exact hfree x hin.1 (by omega) d hd hx
    · intro x hx hx'
      exact cleared_status (Or.inr (h.contents.clear x hx hx'))
    · intro x hx
      rw [cleared_key]
      exact h.contents.edge x hx
  refine hstored.with_head ⟨?_, h.spans.tail, ?_, ?_, ?_, Or.inl rfl, h.spans.shaped⟩
    (fun hne => absurd rfl hne)
  · change (H + n) % s.ring.capacity = (s.ring.head + n) % s.ring.capacity
    rw [← h.spans.head, Nat.mod_add_mod]
  · change Tiled s.ring.capacity (H + n) s.inRing T
    rw [hc]
    exact ⟨H + k, by omega, by omega, hmod.trans hzero.symm, Or.inr hzero, hrest⟩
  · have := h.spans.bound
    change T ≤ H + n + s.ring.capacity
    omega
  · have := h.spans.room
    change T < H + n + s.ring.capacity
    omega

/-- The scan skips the header of a header+payload chain the controller is past. -/
lemma Inv.consume_header (h : s.Inv L H T) {c : SubmittedChain} {rest : List SubmittedChain}
    (hc : s.inRing = c :: rest) (hreq : c.req.headerOnly = false) (hhead : s.ring.head = c.first)
    (hHL : H = L)
    (hphase : s.hw.cursor = some c.first → s.hw.done = true ∨ s.onPayload = true) :
    (s.consume 2).Inv L (H + 2) T := by
  have hmem : c ∈ s.inRing := by
    rw [hc]
    simp
  have hcs := h.spans.shaped c hmem
  have hfit := hcs.fits
  have hlast := hcs.last
  rw [hreq, if_neg (by simp)] at hlast
  have hblocks : c.blocks = 3 := by simp [SubmittedChain.blocks, hreq]
  -- only the two header blocks of the oldest chain are touched
  have hsame : ∀ d ∈ s.inRing, d ≠ c → ∀ x, d.Covers x → s.cleared 2 x = s.ring.storage x := by
    intro d hd hdc x hx
    refine cleared_of_not fun hin => ?_
    refine apart_of_mem h.spans.disjoint hd hmem hdc hx ?_
    unfold Covers
    omega
  have hkeep : ∀ d ∈ s.inRing, s.cleared 2 d.last = s.ring.storage d.last := by
    intro d hd
    by_cases hdc : d = c
    · rw [hdc]
      exact cleared_of_not (by omega)
    · exact hsame d hd hdc _ (h.spans.shaped d hd).covers_last
  have hfirst : s.cleared 2 c.first =
      DescriptorRing.clearDescriptorStatus (s.ring.storage c.first) := if_pos (by omega)
  have hheld := h.contents.held c hmem
  have hcontents : Contents s.ring.capacity (s.cleared 2) s.inRing := by
    refine ⟨fun d hd => ?_, fun x hx hfree => ?_, fun x hx => ?_⟩
    · by_cases hdc : d = c
      · rw [hdc]
        refine ⟨?_, ?_, ?_, ?_, ?_, ?_, fun _ => ?_⟩
        · rw [hfirst]
          exact hheld.key
        · rw [hfirst]
          exact hheld.data
        · rw [hfirst]
          exact hheld.command
        · rw [hkeep c hmem]
          exact hheld.lastCommand
        · rw [hkeep c hmem]
          exact hheld.lastKey
        · rw [hkeep c hmem]
          exact hheld.stamp
        · rw [hfirst]
          rfl
      · exact (h.contents.held d hd).congr (h.spans.shaped d hd) (hsame d hd hdc)
    · exact cleared_status (Or.inr (h.contents.clear x hx hfree))
    · rw [cleared_key]
      exact h.contents.edge x hx
  have hfilter : s.inRing.filter (·.last ≠ s.ring.head) = s.inRing := by
    rw [List.filter_eq_self]
    intro d hd
    have hne : d.last ≠ s.ring.head := by
      intro heq
      have hcov := (h.spans.shaped d hd).covers_last
      by_cases hdc : d = c
      · rw [hdc] at heq
        omega
      · apply apart_of_mem h.spans.disjoint hd hmem hdc hcov
        rw [heq, hhead]
        exact c.covers_first
    simpa using hne
  rw [consume_eq (by omega), hfilter]
  have hstored := h.with_storage hkeep hcontents fun hne => absurd hHL hne
  refine hstored.with_head ⟨?_, h.spans.tail, h.spans.tiled, h.spans.bound, ?_, ?_,
    h.spans.shaped⟩ fun _ d rest' hd => ?_
  · change (H + 2) % s.ring.capacity = (s.ring.head + 2) % s.ring.capacity
    rw [← h.spans.head, Nat.mod_add_mod]
  · have := h.spans.room
    change T < H + 2 + s.ring.capacity
    omega
  · refine Or.inr ⟨by omega, c, rest, hc, hreq, ?_⟩
    change L % s.ring.capacity = c.first
    rw [← hHL, h.spans.head, hhead]
  · have hdc : d = c := (List.cons.inj (hd.symm.trans hc)).1
    rw [hdc]
    refine ⟨?_, hphase⟩
    change (s.cleared 2 (c.first + 1)).xferStatus = 0
    exact cleared_status (Or.inl (by omega))

/-- The head is at the OUTPUT_LAST of the oldest chain, whose other blocks are consumed. -/
structure AtLast (s : TxContext) (H T : ℕ) (c : SubmittedChain) (rest : List SubmittedChain) :
    Prop where
  oldest : s.inRing = c :: rest
  head : s.ring.head = c.last
  ends : c.last + s.headBlocks = c.first + c.blocks
  tiled : Tiled s.ring.capacity (H + s.headBlocks) rest T
  consumed : ∀ x, c.first ≤ x → x < c.last → (s.ring.storage x).xferStatus = 0
  header : (c.last + s.ring.capacity - 2) % s.ring.capacity = c.first ∨ c.req.headerOnly = true

lemma Inv.atLast (h : s.Inv L H T) {c : SubmittedChain} {rest : List SubmittedChain}
    (hc : s.inRing = c :: rest) (hhead : s.ring.head = c.last) : s.AtLast H T c rest := by
  have hmem : c ∈ s.inRing := by
    rw [hc]
    simp
  have hcs := h.spans.shaped c hmem
  have hfit := hcs.fits
  have hkey := (h.contents.held c hmem).lastKey
  rcases hcs.last_cases with ⟨hreq, hlast, hblocks⟩ | ⟨hreq, hlast, hblocks⟩
  · have hn : s.headBlocks = 2 := by
      unfold headBlocks
      rw [hhead, hkey, hreq, if_pos rfl, if_pos rfl]
    rcases h.spans.head_cases hc with
      ⟨-, hzero, k, hk0, hkc, hk, -, -⟩ | ⟨-, -, htiled⟩ | ⟨-, hreq', -, -, -⟩
    · omega
    · rw [hblocks] at htiled
      refine ⟨hc, hhead, by omega, by rw [hn]; exact htiled, fun x hx hx' => ?_, Or.inr hreq⟩
      omega
    · rw [hreq] at hreq'
      exact absurd hreq' (by simp)
  · have hstandard : (s.ring.storage s.ring.head).key ≠ .immediate := by simp [hhead, hkey, hreq]
    have hn : s.headBlocks = 1 := if_neg hstandard
    rcases h.spans.head_cases hc with
      ⟨-, hzero, k, hk0, hkc, hk, hmod, hrest⟩ | ⟨-, hfirst, -⟩ | ⟨hHL, -, -, -, htiled⟩
    · exact absurd hcs.covers_last
        (h.spans.gap_free hc hzero hk hmod hrest (by omega) (by omega) c hmem)
    · omega
    · refine ⟨hc, hhead, by omega, by rw [hn]; exact htiled, fun x hx hx' => ?_, Or.inl ?_⟩
      · obtain rfl | rfl : x = c.first ∨ x = c.first + 1 := by omega
        · exact (h.contents.held c hmem).bare hreq
        · exact (h.skipped (by omega) c rest hc).1
      · rw [hlast, show c.first + 2 + s.ring.capacity - 2 = c.first + s.ring.capacity by omega,
          Nat.add_mod_right, Nat.mod_eq_of_lt (by omega)]

/-- The completion the scan makes at an OUTPUT_LAST is that of its chain. -/
lemma AtLast.makeCompletion {c : SubmittedChain} {rest : List SubmittedChain}
    (ha : s.AtLast H T c rest) (h : s.Inv L H T) :
    s.makeCompletion = s.completionOf c (s.ring.storage c.last).xferStatus := by
  have hmem : c ∈ s.inRing := by
    rw [ha.oldest]
    simp
  have hheld := h.contents.held c hmem
  have hcs := h.spans.shaped c hmem
  have hlabel : s.ring.extractCompletionTLabel = (lastImmediate c.req).extractTLabel := by
    unfold DescriptorRing.extractCompletionTLabel
    dsimp only
    rw [ha.head]
    rcases hcs.last_cases with ⟨hreq, hlast, -⟩ | ⟨hreq, hlast, -⟩
    · rw [hlast, if_pos hheld.key]
      unfold OHCIDescriptor.extractTLabel
      rw [hheld.data]
    · have hstandard : (s.ring.storage c.last).key ≠ .immediate := by simp [hheld.lastKey, hreq]
      rw [if_neg hstandard, ha.header.resolve_right (by simp [hreq]), if_pos hheld.key]
      unfold OHCIDescriptor.extractTLabel
      rw [hheld.data]
  unfold TxContext.makeCompletion completionOf
  rw [hlabel, ha.head, hheld.stamp]

/-- The ring once the oldest chain has been consumed. -/
lemma AtLast.consume_eq {c : SubmittedChain} {rest : List SubmittedChain}
    (ha : s.AtLast H T c rest) (h : s.Inv L H T) : s.consume s.headBlocks =
    { s with
      ring := { s.ring with
        storage := s.cleared s.headBlocks
        head := (s.ring.head + s.headBlocks) % s.ring.capacity }
      inRing := rest } := by
  have hmem : c ∈ s.inRing := by
    rw [ha.oldest]
    simp
  have hfit := (h.spans.shaped c hmem).fits
  have hends := ha.ends
  have hhead := ha.head
  have hfilter : s.inRing.filter (·.last ≠ s.ring.head) = rest := by
    have hdisj := h.spans.disjoint
    have hshape := h.spans.shaped
    rw [ha.oldest] at hdisj hshape ⊢
    rw [List.filter_cons_of_neg (by simp [hhead]), List.filter_eq_self]
    intro d hd
    have hne : d.last ≠ s.ring.head := by
      intro heq
      have hcov := (hshape d (List.mem_cons_of_mem _ hd)).covers_last
      rw [heq, hhead] at hcov
      exact (List.pairwise_cons.mp hdisj).1 d hd _ (hshape c (by simp)).covers_last hcov
    simpa using hne
  rw [TxContext.consume_eq (by omega), hfilter]

/-- The context once the oldest chain has left the ring. -/
def popped (s : TxContext) (rest : List SubmittedChain) (report : List ScannedCompletion) :
    TxContext :=
  { s with
    ring := { s.ring with
      storage := s.cleared s.headBlocks
      head := (s.ring.head + s.headBlocks) % s.ring.capacity }
    inRing := rest
    reported := s.reported ++ report }

/-- The blocks of the chains that stay are not touched. -/
lemma AtLast.cleared_rest {c : SubmittedChain} {rest : List SubmittedChain}
    (ha : s.AtLast H T c rest) (h : s.Inv L H T) {d : SubmittedChain} (hd : d ∈ rest) {x : ℕ}
    (hx : d.Covers x) : s.cleared s.headBlocks x = s.ring.storage x := by
  have hdisj := h.spans.disjoint
  have hcs := h.spans.shaped
  rw [ha.oldest] at hdisj hcs
  have hlast := (hcs c (by simp)).covers_last
  refine cleared_of_not fun hin => ?_
  refine (List.pairwise_cons.mp hdisj).1 d hd x ?_ hx
  have hends := ha.ends
  have hhead := ha.head
  unfold Covers at hlast ⊢
  omega

lemma AtLast.spans {c : SubmittedChain} {rest : List SubmittedChain} (ha : s.AtLast H T c rest)
    (h : s.Inv L H T) (report : List ScannedCompletion) :
    (s.popped rest report).Spans (H + s.headBlocks) (H + s.headBlocks) T := by
  have hroom := h.spans.room
  have hhead : (H + s.headBlocks) % s.ring.capacity =
      (s.ring.head + s.headBlocks) % s.ring.capacity := by rw [← h.spans.head, Nat.mod_add_mod]
  refine ⟨hhead, h.spans.tail, ha.tiled, ?_, ?_, Or.inl rfl, fun d hd => ?_⟩
  · change T ≤ H + s.headBlocks + s.ring.capacity
    omega
  · change T < H + s.headBlocks + s.ring.capacity
    omega
  · apply h.spans.shaped d
    rw [ha.oldest]
    exact List.mem_cons_of_mem _ hd

lemma AtLast.contents {c : SubmittedChain} {rest : List SubmittedChain}
    (ha : s.AtLast H T c rest) (h : s.Inv L H T) :
    Contents s.ring.capacity (s.cleared s.headBlocks) rest := by
  have hmem : ∀ d ∈ rest, d ∈ s.inRing := by
    intro d hd
    rw [ha.oldest]
    exact List.mem_cons_of_mem _ hd
  refine ⟨fun d hd => ?_, fun x hx hfree => ?_, fun x hx => ?_⟩
  · exact (h.contents.held d (hmem d hd)).congr (h.spans.shaped d (hmem d hd))
      fun x hx => ha.cleared_rest h hd hx
  · apply cleared_status
    by_cases hcx : c.Covers x
    · have hends := ha.ends
      have hhead := ha.head
      by_cases hxl : x < c.last
      · exact Or.inr (ha.consumed x hcx.1 hxl)
      · have := hcx.2
        exact Or.inl (by omega)
    · refine Or.inr (h.contents.clear x hx fun d hd => ?_)
      rw [ha.oldest] at hd
      rcases List.mem_cons.mp hd with rfl | hd
      · exact hcx
      · exact hfree d hd
  · rw [cleared_key]
    exact h.contents.edge x hx

/-- The oldest chain's completion moves from memory to the report. -/
lemma AtLast.logged {c : SubmittedChain} {rest : List SubmittedChain}
    (ha : s.AtLast H T c rest) (h : s.Inv L H T) :
    (s.popped rest (if isComplete s.ring.storage c then
      [s.completionOf c (s.ring.storage c.last).xferStatus] else [])).Logged := by
  have hmem : ∀ d ∈ rest, d ∈ s.inRing := by
    intro d hd
    rw [ha.oldest]
    exact List.mem_cons_of_mem _ hd
  have hlast : ∀ d ∈ rest, s.cleared s.headBlocks d.last = s.ring.storage d.last := fun d hd =>
    ha.cleared_rest h hd (h.spans.shaped d (hmem d hd)).covers_last
  have hcomplete : ∀ d ∈ rest,
      isComplete (s.cleared s.headBlocks) d = isComplete s.ring.storage d := by
    intro d hd
    unfold isComplete
    rw [hlast d hd]
  refine ⟨h.logged.reported.trans ?_, h.logged.ordered, fun d hd hd' => ?_⟩
  · change s.reported ++ (s.inRing.filter (isComplete s.ring.storage)).map _ =
      (s.reported ++ _) ++ (rest.filter (isComplete (s.cleared s.headBlocks))).map _
    rw [ha.oldest, List.append_assoc, List.filter_congr hcomplete]
    congr 1
    have htail : (rest.filter (isComplete s.ring.storage)).map
        (fun d => s.completionOf d (s.ring.storage d.last).xferStatus) =
          (rest.filter (isComplete s.ring.storage)).map
            fun d => s.completionOf d (s.cleared s.headBlocks d.last).xferStatus :=
      List.map_congr_left fun d hd => by rw [hlast d (List.mem_of_mem_filter hd)]
    cases hdone : isComplete s.ring.storage c with
    | true =>
      rw [List.filter_cons_of_pos hdone, List.map_cons, htail, if_pos rfl]
      rfl
    | false =>
      rw [List.filter_cons_of_neg (by simp [hdone]), htail, if_neg (by simp)]
      rfl
  · change decodes s.agereQuirk (s.cleared s.headBlocks d.last).xferStatus = true
    rw [hlast d hd]
    exact h.logged.decoded d (hmem d hd) ((hcomplete d hd).symm.trans hd')

/-- Popping a chain the controller is past. -/
lemma Inv.popped {c : SubmittedChain} {rest : List SubmittedChain} (h : s.Inv L H T)
    (ha : s.AtLast H T c rest) (hne : rest ≠ []) (hmoved : s.hw.cursor ≠ some c.first) :
    (s.popped rest (if isComplete s.ring.storage c then
      [s.completionOf c (s.ring.storage c.last).xferStatus] else [])).Inv
      (H + s.headBlocks) (H + s.headBlocks) T := by
  refine ⟨ha.spans h _, ha.contents h, h.alive, fun hnil => absurd hnil hne, fun d hd => ?_,
    fun _ => ?_, fun hHL => absurd rfl hHL, ha.logged h⟩
  · apply h.newest d
    rw [ha.oldest, List.getLast?_cons]
    change rest.getLast? = some d at hd
    rw [hd]
    rfl
  · obtain ⟨retired, a, live, hex⟩ := h.executing (by rw [ha.oldest]; simp)
    have hsplit : c :: rest = retired ++ a :: live := ha.oldest.symm.trans hex.split
    obtain ⟨retired', hrest⟩ : ∃ retired', rest = retired' ++ a :: live := by
      cases retired with
      | nil =>
        have hca : c = a := (List.cons.inj hsplit).1
        rw [← hca] at hex
        exact absurd hex.cursor hmoved
      | cons r retired => exact ⟨retired, (List.cons.inj hsplit).2⟩
    have hmem : ∀ d ∈ a :: live, d ∈ rest := by
      intro d hd
      rw [hrest]
      exact List.mem_append_right _ hd
    have hlast : ∀ d ∈ a :: live, s.cleared s.headBlocks d.last = s.ring.storage d.last := by
      intro d hd
      apply ha.cleared_rest h (hmem d hd)
      apply (h.spans.shaped d _).covers_last
      rw [ha.oldest]
      exact List.mem_cons_of_mem _ (hmem d hd)
    have hcomplete : ∀ d ∈ a :: live,
        isComplete (s.cleared s.headBlocks) d = isComplete s.ring.storage d := by
      intro d hd
      unfold isComplete
      rw [hlast d hd]
    exact ⟨retired', a, live, hex.running, hrest,
      hex.branches.congr fun d hd => congrArg _ (hlast d hd), hex.cursor, hex.linked,
      (hcomplete a (by simp)).trans hex.current,
      fun d hd => (hcomplete d (List.mem_cons_of_mem _ hd)).trans (hex.ahead d hd)⟩

/-- Popping the last chain of the ring stops the context. -/
lemma Inv.popped_drained {c : SubmittedChain} (h : s.Inv L H T) (ha : s.AtLast H T c [])
    (hdone : isComplete s.ring.storage c = true) :
    (s.popped [] [s.completionOf c (s.ring.storage c.last).xferStatus]).stopIfRingDrained.Inv
      (H + s.headBlocks) (H + s.headBlocks) T := by
  have hspans := ha.spans h [s.completionOf c (s.ring.storage c.last).xferStatus]
  have hlogged := ha.logged h
  rw [hdone, if_pos rfl] at hlogged
  have hT : H + s.headBlocks = T := ha.tiled
  have hempty : (s.popped [] [s.completionOf c
      (s.ring.storage c.last).xferStatus]).ring.isEmpty = true := by
    have hhead := hspans.head
    have htail := hspans.tail
    unfold DescriptorRing.isEmpty
    rw [← hhead, ← htail, hT]
    simp
  obtain ⟨retired, a, live, hex⟩ := h.executing (by rw [ha.oldest]; simp)
  have hsplit : [c] = retired ++ a :: live := ha.oldest.symm.trans hex.split
  obtain ⟨rfl, rfl, rfl⟩ : retired = [] ∧ a = c ∧ live = [] := by
    cases retired with
    | nil =>
      obtain ⟨h1, h2⟩ := List.cons.inj hsplit
      exact ⟨rfl, h1.symm, h2.symm⟩
    | cons r retired => simp at hsplit
  have hlinked := hex.linked
  rw [← hex.current, hdone, if_pos rfl] at hlinked
  unfold stopIfRingDrained
  rw [if_pos hempty]
  exact ⟨⟨hspans.head, hspans.tail, hspans.tiled, hspans.bound, hspans.room, hspans.start,
    hspans.shaped⟩, ha.contents h, h.alive, fun _ => ⟨rfl, hlinked, rfl⟩,
    fun d hd => absurd hd (by simp [TxContext.popped]),
    fun hne => absurd rfl hne, fun hHL => absurd rfl hHL,
    ⟨hlogged.reported, hlogged.ordered, hlogged.decoded⟩⟩

lemma scanCompletion_empty (h : s.ring.isEmpty = true) : s.scanCompletion = (s, none) := by
  unfold scanCompletion scanLoop
  rw [if_pos h]
  simp

lemma scanCompletion_pending (hne : s.ring.isEmpty = false)
    (h : (s.ring.storage s.ring.head).xferStatus = 0) :
    s.scanCompletion = (s.handlePendingDescriptor, none) := by
  unfold scanCompletion scanLoop
  rw [hne, if_neg (by simp), if_pos h]
  simp

lemma scanCompletion_last (hne : s.ring.isEmpty = false)
    (h : (s.ring.storage s.ring.head).xferStatus ≠ 0)
    (hdecodes : decodes s.agereQuirk (s.ring.storage s.ring.head).xferStatus = true)
    (hcommand : (s.ring.storage s.ring.head).command = .outputLast) :
    s.scanCompletion =
      ({ (s.consume s.headBlocks).stopIfRingDrained with
          reported := (s.consume s.headBlocks).stopIfRingDrained.reported ++ [s.makeCompletion] },
        some s.makeCompletion) := by
  unfold scanCompletion scanLoop
  rw [hne, if_neg (by simp), if_neg h, hdecodes, if_neg (by simp)]
  simp only [hcommand]
  rfl

lemma stopIfRingDrained_reported (s : TxContext) (report : List ScannedCompletion) :
    { s.stopIfRingDrained with reported := s.stopIfRingDrained.reported ++ report } =
      { s with reported := s.reported ++ report }.stopIfRingDrained := by
  unfold stopIfRingDrained
  dsimp only
  split_ifs <;> rfl

/-- The scan of a completed chain whose OUTPUT_LAST is at the head. -/
lemma AtLast.scan {c : SubmittedChain} {rest : List SubmittedChain} (ha : s.AtLast H T c rest)
    (h : s.Inv L H T) (hdone : isComplete s.ring.storage c = true) :
    s.scanCompletion =
      ((s.popped rest [s.completionOf c (s.ring.storage c.last).xferStatus]).stopIfRingDrained,
        some (s.completionOf c (s.ring.storage c.last).xferStatus)) := by
  have hmem : c ∈ s.inRing := by
    rw [ha.oldest]
    simp
  have hne : s.ring.isEmpty = false := by
    simpa [DescriptorRing.isEmpty] using h.spans.head_ne_tail (List.ne_nil_of_mem hmem)
  have hstatus : (s.ring.storage s.ring.head).xferStatus ≠ 0 := by
    rw [ha.head]
    simpa [isComplete] using hdone
  have hdecodes := h.logged.decoded c hmem hdone
  have hcommand := (h.contents.held c hmem).lastCommand
  rw [← ha.head] at hdecodes hcommand
  rw [scanCompletion_last hne hstatus hdecodes hcommand, ha.makeCompletion h,
    stopIfRingDrained_reported, ha.consume_eq h]
  rfl

/-- Scanning a completed chain keeps the invariant, once the controller has moved on. -/
lemma Inv.scan_complete {c : SubmittedChain} {rest : List SubmittedChain} (h : s.Inv L H T)
    (ha : s.AtLast H T c rest) (hdone : isComplete s.ring.storage c = true)
    (hmoved : rest ≠ [] → s.hw.cursor ≠ some c.first) :
    (s.popped rest [s.completionOf c (s.ring.storage c.last).xferStatus]).stopIfRingDrained.Inv
      (H + s.headBlocks) (H + s.headBlocks) T := by
  by_cases hrest : rest = []
  · subst hrest
    exact h.popped_drained ha hdone
  · have hinv := h.popped ha hrest (hmoved hrest)
    rw [hdone, if_pos rfl] at hinv
    have hne := hinv.spans.head_ne_tail hrest
    unfold stopIfRingDrained
    rw [if_neg (by simpa [DescriptorRing.isEmpty] using hne)]
    exact hinv

/-- A zero-status block is orphaned when `CommandPtr` is on another block. -/
lemma Executing.orphaned_iff {retired rest : List SubmittedChain} {a : SubmittedChain}
    (hex : s.Executing retired a rest) (h : s.Inv L H T) :
    s.isOrphanedDescriptor = true ↔
      (if s.hw.done || s.onPayload then a.last else a.first) ≠ s.ring.head := by
  have hptr : s.commandPtrAddr =
      s.ring.iovaOf (if s.hw.done || s.onPayload then a.last else a.first) := by
    unfold commandPtrAddr
    rw [hex.cursor]
    dsimp only
    rw [hex.lastOf_cursor h]
  generalize (if s.hw.done || s.onPayload then a.last else a.first) = index at *
  have hpos := s.ring.based
  have hnonzero : s.ring.iovaOf index ≠ 0 := by
    unfold DescriptorRing.iovaOf
    omega
  have hinj : s.ring.iovaOf index = s.ring.iovaOf s.ring.head ↔ index = s.ring.head := by
    unfold DescriptorRing.iovaOf
    omega
  unfold isOrphanedDescriptor
  rw [hptr, hex.running]
  simp [hnonzero, hinj]

/-- A completed chain is not scanned while the controller is still on it and has to go on. -/
def Settled (s : TxContext) : Prop :=
  ∀ c d rest, s.inRing = c :: d :: rest → s.ring.head = c.last →
    isComplete s.ring.storage c = true → s.hw.cursor ≠ some c.first

lemma Inv.isEmpty_of_nil (h : s.Inv L H T) (hnil : s.inRing = []) : s.ring.isEmpty = true := by
  have htiled := h.spans.tiled
  rw [hnil] at htiled
  have hLT : L = T := htiled
  have hHL : H = L := by
    rcases h.spans.start with hHL | ⟨-, c, rest, hc, -, -⟩
    · exact hHL
    · rw [hnil] at hc
      exact absurd hc (by simp)
  unfold DescriptorRing.isEmpty
  rw [← h.spans.head, ← h.spans.tail, hHL, hLT]
  simp

lemma Inv.scan (h : s.Inv L H T) (hok : s.Settled) :
    ∃ L' H', s.scanCompletion.1.Inv L' H' T := by
  by_cases hnil : s.inRing = []
  · rw [scanCompletion_empty (h.isEmpty_of_nil hnil)]
    exact ⟨L, H, h⟩
  obtain ⟨c, rest, hc⟩ := List.exists_cons_of_ne_nil hnil
  have hmem : c ∈ s.inRing := by
    rw [hc]
    simp
  have hne : s.ring.isEmpty = false := by
    simpa [DescriptorRing.isEmpty] using h.spans.head_ne_tail hnil
  obtain ⟨retired, a, live, hex⟩ := h.executing hnil
  have horph := hex.orphaned_iff h
  have hcs := h.spans.shaped c hmem
  -- the block at the head carries no status: pending, or skipped
  have hpending : (s.ring.storage s.ring.head).xferStatus = 0 →
      (s.isOrphanedDescriptor = true → ∃ L' H', (s.consume s.headBlocks).Inv L' H' T) →
      ∃ L' H', s.scanCompletion.1.Inv L' H' T := by
    intro hstatus hskip
    rw [scanCompletion_pending hne hstatus]
    unfold handlePendingDescriptor
    split_ifs with ho
    · exact hskip ho
    · exact ⟨L, H, h⟩
  -- a chain dropped by PATH 1 is passed without a report
  have hlast : s.ring.head = c.last → ∃ L' H', s.scanCompletion.1.Inv L' H' T := by
    intro hhead
    have ha := h.atLast hc hhead
    cases hdone : isComplete s.ring.storage c with
    | true =>
      rw [ha.scan h hdone]
      refine ⟨_, _, h.scan_complete ha hdone fun hrest => ?_⟩
      obtain ⟨d, rest', rfl⟩ := List.exists_cons_of_ne_nil hrest
      exact hok c d rest' hc hhead hdone
    | false =>
      apply hpending
      · rw [hhead]
        simpa [isComplete] using hdone
      intro ho
      have hca : c ≠ a := by
        rintro rfl
        rw [horph] at ho
        apply ho
        have hphase : c.req.headerOnly = false → s.onPayload = true := by
          intro hreq
          rcases h.spans.head_cases hc with
            ⟨hHL, hzero, k, hk0, hkc, hk, hmod, hrest⟩ | ⟨-, hfirst, -⟩ | ⟨hHL, -, -, -, -⟩
          · exact absurd hcs.covers_last
              (h.spans.gap_free hc hzero hk hmod hrest (by omega) (by omega) c hmem)
          · have := hcs.last
            rw [hreq, if_neg (by simp)] at this
            omega
          · have hcase := (h.skipped (by omega) c rest hc).2 hex.cursor
            rw [← hex.current, hdone] at hcase
            simpa using hcase
        rcases hcs.last_cases with ⟨hreq, hl, -⟩ | ⟨hreq, -, -⟩
        · rw [hhead, hl, ite_self]
        · rw [hphase hreq, Bool.or_true, if_pos rfl, hhead]
      have hcur : s.hw.cursor ≠ some c.first := fun hcur => hca (hex.eq_of_cursor h.spans hmem hcur)
      have hrest : rest ≠ [] := by
        rintro rfl
        have hamem := hex.mem.1
        rw [hc] at hamem
        exact hca (List.mem_singleton.mp hamem).symm
      have hinv := h.popped ha hrest hcur
      rw [hdone, if_neg (by simp)] at hinv
      unfold TxContext.popped at hinv
      rw [List.append_nil] at hinv
      rw [ha.consume_eq h]
      exact ⟨_, _, hinv⟩
  rcases h.spans.head_cases hc with
    ⟨hHL, hzero, k, hk0, hkc, hk, hmod, hrest⟩ | ⟨hHL, hfirst, -⟩ | ⟨-, -, hhead, -, -⟩
  · apply hpending
    · exact h.contents.clear _ (by omega)
        (h.spans.gap_free hc hzero hk hmod hrest le_rfl (by omega))
    · intro _
      refine ⟨_, _, h.consume_gap hc hzero hkc hk hmod hrest hHL ?_ ?_⟩
      · unfold headBlocks
        split <;> omega
      · by_cases hk1 : k = 1
        · have hkey := h.contents.edge s.ring.head (by omega)
          unfold headBlocks
          rw [hkey, if_neg (by simp)]
          omega
        · unfold headBlocks
          split <;> omega
  · rcases hcs.last_cases with ⟨-, hl, -⟩ | ⟨hreq, hl, -⟩
    · exact hlast (hfirst.trans hl.symm)
    · apply hpending
      · rw [hfirst]
        exact (h.contents.held c hmem).bare hreq
      intro ho
      have hn : s.headBlocks = 2 := by
        unfold headBlocks
        rw [hfirst, (h.contents.held c hmem).key, if_pos rfl]
      rw [hn]
      refine ⟨_, _, h.consume_header hc hreq hfirst hHL fun hcur => ?_⟩
      have hca := hex.eq_of_cursor h.spans hmem hcur
      by_contra hnone
      rw [not_or] at hnone
      rw [horph] at ho
      apply ho
      rw [if_neg (by simpa using hnone), ← hca, hfirst]
  · exact hlast hhead

/-! ### Drain passes -/

/-- From the head on, the blocks up to the tail are the OUTPUT_LASTs back to back: no header of a
header+payload chain and no gap is in between. -/
def Seamless (m : ℕ) : ℕ → List SubmittedChain → Prop
  | _, [] => True
  | head, c :: rest => head = c.last ∧ Seamless m ((c.lastRingIndex + 1) % m) rest

instance decidableSeamless (m : ℕ) : ∀ head chains, Decidable (Seamless m head chains)
  | _, [] => isTrue trivial
  | head, c :: rest =>
    have := decidableSeamless m ((c.lastRingIndex + 1) % m) rest
    inferInstanceAs (Decidable (head = c.last ∧ Seamless m ((c.lastRingIndex + 1) % m) rest))

/-- The completions of the chains in the ring, as their OUTPUT_LASTs hold them. -/
def pendingReports (s : TxContext) : List ScannedCompletion :=
  s.inRing.map fun c => s.completionOf c (s.ring.storage c.last).xferStatus

/-- When everything in the ring is complete the controller is on the newest chain. -/
lemma Inv.moved_of_complete (h : s.Inv L H T) {c : SubmittedChain} {rest : List SubmittedChain}
    (hc : s.inRing = c :: rest) (hall : ∀ d ∈ s.inRing, isComplete s.ring.storage d = true)
    (hrest : rest ≠ []) : s.hw.cursor ≠ some c.first := by
  intro hcur
  obtain ⟨retired, a, live, hex⟩ := h.executing (by rw [hc]; simp)
  have hca : c = a := hex.eq_of_cursor h.spans (by rw [hc]; simp) hcur
  have hlive : live = [] := by
    rw [List.eq_nil_iff_forall_not_mem]
    intro d hd
    have := hall d (hex.mem.2 d hd)
    rw [hex.ahead d hd] at this
    exact absurd this (by simp)
  have hsplit : c :: rest = retired ++ [a] := by rw [← hlive, ← hex.split, hc]
  have hmem : a ∈ rest := by
    cases retired with
    | nil => exact absurd (List.cons.inj hsplit).2 hrest
    | cons r retired =>
      rw [(List.cons.inj hsplit).2]
      simp
  have hdisj := h.spans.disjoint
  rw [hc] at hdisj
  have := (List.pairwise_cons.mp hdisj).1 a hmem c.first c.covers_first
  rw [← hca] at this
  exact this c.covers_first

/-- A block at the head that is not the oldest chain's OUTPUT_LAST ends the scan. -/
lemma Inv.scan_bare (h : s.Inv L H T) {c : SubmittedChain} {rest : List SubmittedChain}
    (hc : s.inRing = c :: rest) (hhead : s.ring.head ≠ c.last) : s.scanCompletion.2 = none := by
  have hmem : c ∈ s.inRing := by
    rw [hc]
    simp
  have hne : s.ring.isEmpty = false := by
    simpa [DescriptorRing.isEmpty] using h.spans.head_ne_tail (List.ne_nil_of_mem hmem)
  have hstatus : (s.ring.storage s.ring.head).xferStatus = 0 := by
    rcases h.spans.head_cases hc with
      ⟨-, hzero, k, hk0, -, hk, hmod, hrest⟩ | ⟨-, hfirst, -⟩ | ⟨-, -, hlast, -, -⟩
    · exact h.contents.clear _ (by omega)
        (h.spans.gap_free hc hzero hk hmod hrest le_rfl (by omega))
    · rcases (h.spans.shaped c hmem).last_cases with ⟨-, hl, -⟩ | ⟨hreq, -, -⟩
      · exact absurd (hfirst.trans hl.symm) hhead
      · rw [hfirst]
        exact (h.contents.held c hmem).bare hreq
    · exact absurd hlast hhead
  rw [scanCompletion_pending hne hstatus]

lemma stopIfRingDrained_fields (s : TxContext) :
    s.stopIfRingDrained.inRing = s.inRing ∧
      s.stopIfRingDrained.ring.storage = s.ring.storage ∧
      s.stopIfRingDrained.ring.head = s.ring.head ∧
      s.stopIfRingDrained.ring.capacity = s.ring.capacity ∧
      s.stopIfRingDrained.completionOf = s.completionOf := by
  unfold stopIfRingDrained
  split_ifs <;> exact ⟨rfl, rfl, rfl, rfl, rfl⟩

/-- With every chain in the ring complete, a drain returns them all exactly when the OUTPUT_LASTs
lie back to back from the head on. -/
lemma Inv.drainLoop_iff {chains : List SubmittedChain} (h : s.Inv L H T) (hc : s.inRing = chains)
    (hall : ∀ c ∈ s.inRing, isComplete s.ring.storage c = true) {fuel : ℕ}
    (hfuel : chains.length < fuel) :
    (drainLoop fuel s).2 = s.pendingReports ↔ Seamless s.ring.capacity s.ring.head chains := by
  induction chains generalizing s L H fuel with
  | nil =>
    obtain ⟨fuel, rfl⟩ := Nat.exists_eq_succ_of_ne_zero (by omega : fuel ≠ 0)
    have hempty : s.ring.isEmpty = true := h.isEmpty_of_nil hc
    unfold drainLoop
    rw [scanCompletion_empty hempty]
    simp [pendingReports, hc, Seamless]
  | cons c rest ih =>
    obtain ⟨fuel, rfl⟩ := Nat.exists_eq_succ_of_ne_zero (by omega : fuel ≠ 0)
    by_cases hhead : s.ring.head = c.last
    · have hmem : c ∈ s.inRing := by
        rw [hc]
        simp
      have ha := h.atLast hc hhead
      have hdone := hall c hmem
      have hinv := h.scan_complete ha hdone (h.moved_of_complete hc hall)
      have hscan := ha.scan h hdone
      have hlast : ∀ d ∈ rest, s.cleared s.headBlocks d.last = s.ring.storage d.last := by
        intro d hd
        apply ha.cleared_rest h hd
        apply (h.spans.shaped d _).covers_last
        rw [hc]
        exact List.mem_cons_of_mem _ hd
      obtain ⟨hring, hstorage, hnext, hcap, hof⟩ := stopIfRingDrained_fields
        (s.popped rest [s.completionOf c (s.ring.storage c.last).xferStatus])
      change _ = rest at hring
      change _ = s.cleared s.headBlocks at hstorage
      change _ = (s.ring.head + s.headBlocks) % s.ring.capacity at hnext
      change _ = s.ring.capacity at hcap
      change _ = s.completionOf at hof
      generalize (s.popped rest
        [s.completionOf c (s.ring.storage c.last).xferStatus]).stopIfRingDrained = next at *
      have hcomplete : ∀ d ∈ next.inRing, isComplete next.ring.storage d = true := by
        intro d hd
        rw [hring] at hd
        unfold isComplete
        rw [hstorage, hlast d hd]
        apply hall
        rw [hc]
        exact List.mem_cons_of_mem _ hd
      have hreports : next.pendingReports =
          rest.map fun d => s.completionOf d (s.ring.storage d.last).xferStatus := by
        unfold pendingReports
        rw [hring, hof, hstorage]
        exact List.map_congr_left fun d hd => by rw [hlast d hd]
      have hstep := ih hinv hring hcomplete (by simpa using hfuel : rest.length < fuel)
      have hends := ha.ends
      have hring' := (h.spans.shaped c hmem).lastRing
      rw [hreports, hcap, hnext, hhead, hends, ← hring'] at hstep
      have hmine : s.pendingReports = s.completionOf c (s.ring.storage c.last).xferStatus ::
          rest.map fun d => s.completionOf d (s.ring.storage d.last).xferStatus := by
        unfold pendingReports
        rw [hc, List.map_cons]
      have hdrain : (drainLoop (fuel + 1) s).2 =
          s.completionOf c (s.ring.storage c.last).xferStatus :: (drainLoop fuel next).2 := by
        rw [drainLoop, hscan]
      rw [hmine, hdrain, List.cons.injEq, hstep]
      simp [Seamless, hhead]
    · have hnone := h.scan_bare hc hhead
      unfold drainLoop
      rcases hscan : s.scanCompletion with ⟨next, r⟩
      rw [hscan] at hnone
      change r = none at hnone
      subst hnone
      simp [pendingReports, hc, Seamless, hhead]

/-! ### Whole runs -/

/-- The OUTPUT_LAST of every chain in the ring is ahead of the head. -/
lemma Spans.last_region (h : s.Spans L H T) {d : SubmittedChain} (hd : d ∈ s.inRing) :
    RingRegion s.ring.head s.ring.tail d.last := by
  have hroom := h.room
  have hregion : ∀ {y}, H ≤ y → y < T → y % s.ring.capacity = d.last →
      RingRegion s.ring.head s.ring.tail d.last := by
    intro y hy hyT hyd
    rw [← h.head, ← h.tail, ← hyd]
    exact ringRegion_of_window hy hyT hroom
  have hlast := (h.shaped d hd).covers_last
  rcases h.start with hHL | ⟨hHL, c, rest, hc, hreq, hfirst⟩
  · obtain ⟨y, hy, hyT, hyd⟩ := h.tiled.covered h.shaped hd hlast
    exact hregion (by omega) hyT hyd
  · rcases h.head_cases hc with ⟨hHL', -⟩ | ⟨hHL', -⟩ | ⟨-, -, hhead, -, hrest⟩
    · omega
    · omega
    · have hs : ∀ e ∈ rest, e.Shaped s.ring.capacity s.ring.descIOVABase := by
        intro e he
        apply h.shaped
        rw [hc]
        exact List.mem_cons_of_mem _ he
      rw [hc] at hd
      rcases List.mem_cons.mp hd with rfl | hd
      · exact hregion le_rfl (h.lt_of_ne_nil (by rw [hc]; simp)) (h.head.trans hhead)
      · obtain ⟨y, hy, hyT, hyd⟩ := hrest.covered hs hd hlast
        exact hregion (by omega) hyT hyd

/-- The step does not reach the places where completions get lost: a submission leaves a block
free and spares the oldest chain's header, and a completed chain is scanned only when the
controller has moved on to the next one. -/
def Allowed (s : TxContext) : TxEvent → Prop
  | .submit req _ => s.Fits (if req.headerOnly then 2 else 3)
  | .hwStep _ => True
  | .startPayload => True
  | .scan => s.Settled

instance (c : SubmittedChain) (x : ℕ) : Decidable (c.Covers x) :=
  inferInstanceAs (Decidable (c.first ≤ x ∧ x < c.first + c.blocks))

instance (s : TxContext) : (e : TxEvent) → Decidable (s.Allowed e)
  | .submit req _ => inferInstanceAs (Decidable (
      ∀ index ∈ s.ring.reserveBlocks (if req.headerOnly then 2 else 3), _ ∧ _))
  | .hwStep _ => isTrue trivial
  | .startPayload => isTrue trivial
  | .scan =>
    match h : s.inRing with
    | [] => isTrue fun c d rest hc => by simp [h] at hc
    | [_] => isTrue fun c d rest hc => by simp [h] at hc
    | c :: d :: rest => decidable_of_iff (s.ring.head = c.last →
        isComplete s.ring.storage c = true → s.hw.cursor ≠ some c.first)
        ⟨fun hok c' d' rest' hd => by
          obtain ⟨rfl, -⟩ := List.cons.inj (h.symm.trans hd)
          exact hok, fun hok => hok c d rest h⟩

lemma Inv.step (h : s.Inv L H T) {e : TxEvent} (hok : s.Allowed e) :
    ∃ L' H' T', (s.step e).Inv L' H' T' := by
  cases e with
  | submit req polled =>
    obtain ⟨T', hinv⟩ := h.submit hok polled
    exact ⟨L, H, T', hinv⟩
  | hwStep status => exact ⟨L, H, T, h.hwStep status⟩
  | startPayload => exact ⟨L, H, T, h.startPayload⟩
  | scan =>
    obtain ⟨L', H', hinv⟩ := h.scan hok
    exact ⟨L', H', T, hinv⟩

/-- A ring as `Initialize` leaves it. -/
structure Blank (ring : DescriptorRing) : Prop where
  fresh : ATContext.Fresh ring
  zeroed : ∀ x, ring.storage x = {}

lemma Inv.initial {ring : DescriptorRing} (h : Blank ring) (agereQuirk response : Bool) :
    Inv { ring := ring, agereQuirk := agereQuirk, isResponseContext := response } 0 0 0 := by
  have hcap := h.fresh.capacity
  refine ⟨⟨?_, ?_, rfl, by omega, ?_, Or.inl rfl, by simp⟩, ⟨by simp, fun x _ _ => ?_, fun x _ => ?_⟩,
    rfl, fun _ => ⟨h.fresh.prevLastBlocks, rfl, rfl⟩, by simp, fun hne => absurd rfl hne,
    fun hHL => absurd rfl hHL, ⟨rfl, List.Sublist.refl _, by simp⟩⟩
  · change 0 % ring.capacity = ring.head
    rw [Nat.zero_mod, h.fresh.head]
  · change 0 % ring.capacity = ring.tail
    rw [Nat.zero_mod, h.fresh.tail]
  · change 0 < 0 + ring.capacity
    omega
  · change (ring.storage x).xferStatus = 0
    rw [h.zeroed]
  · change (ring.storage x).key = .standard
    rw [h.zeroed]

/-- The completions the scan has returned, followed by those still in the ring, are the
completions of the chains the controller has completed, in submission order. -/
def ReportsInOrder (s : TxContext) : Prop :=
  (s.finished.map Prod.fst).Sublist s.submitted ∧
    s.finished.map (fun f => s.completionOf f.1 f.2) = s.reported ++
      (s.inRing.filter (isComplete s.ring.storage)).map
        fun c => s.completionOf c (s.ring.storage c.last).xferStatus

/-- In every state of a run whose steps are all allowed: completions are returned in submission
order and once, the head is not past an OUTPUT_LAST the controller will still execute, and a drain
pass that starts with every chain in the ring complete returns one completion for each of them
exactly when their OUTPUT_LASTs lie back to back from the head on. -/
theorem completions_reported {ring : DescriptorRing} (hblank : Blank ring)
    (agereQuirk response : Bool) (events : List TxEvent)
    (hrun : Runs.Meets TxContext.step Allowed
      { ring := ring, agereQuirk := agereQuirk, isResponseContext := response } events) :
    let s := Runs.run TxContext.step
      { ring := ring, agereQuirk := agereQuirk, isResponseContext := response } events
    s.ReportsInOrder ∧ (∀ c ∈ s.linked, RingRegion s.ring.head s.ring.tail c.last) ∧
      ((∀ c ∈ s.inRing, isComplete s.ring.storage c = true) →
        (s.drainTxCompletions.2 = s.pendingReports ↔
          Seamless s.ring.capacity s.ring.head s.inRing)) := by
  intro s
  obtain ⟨L, H, T, h⟩ : ∃ L H T, s.Inv L H T :=
    Runs.invariant_run_of_meets (I := fun s => ∃ L H T, s.Inv L H T)
      (fun _ _ ⟨_, _, _, h⟩ hok => h.step hok) ⟨0, 0, 0, Inv.initial hblank agereQuirk response⟩ hrun
  refine ⟨⟨?_, h.logged.reported⟩, fun c hc => ?_, fun hall => ?_⟩
  · exact (List.sublist_append_left _ _).trans h.logged.ordered
  · apply h.spans.last_region
    have hne : s.inRing ≠ [] := by
      intro hnil
      rw [(h.drained hnil).2.1] at hc
      simp at hc
    obtain ⟨retired, a, rest, hex⟩ := h.executing hne
    rw [hex.linked] at hc
    split at hc
    · exact hex.mem.2 c hc
    · rcases List.mem_cons.mp hc with rfl | hc
      · exact hex.mem.1
      · exact hex.mem.2 c hc
  · apply h.drainLoop_iff rfl hall
    have := h.spans.tiled.length
    have := h.spans.bound
    omega

def ackComplete : XferStatus := ⟨0x11, by decide⟩

lemma smallRing_blank : Blank ATContext.smallRing := ⟨ATContext.smallRing_fresh, fun _ => rfl⟩

/-- A read and a block write behind it; the read is reported, the write's header is passed while
its payload is sent. -/
def readThenWrite : List TxEvent :=
  [.submit ATContext.quadletReadChain none, .submit ATContext.blockWriteChain none,
    .hwStep ackComplete, .hwStep ackComplete, .scan, .startPayload, .scan, .hwStep ackComplete]

theorem readThenWrite_reported :
    let s := Runs.run TxContext.step
      { ring := ATContext.smallRing, agereQuirk := false, isResponseContext := false } readThenWrite
    Blank ATContext.smallRing ∧ Runs.Meets TxContext.step Allowed
      { ring := ATContext.smallRing, agereQuirk := false, isResponseContext := false }
      readThenWrite ∧
      s.reported.length = 1 ∧ s.inRing.length = 1 ∧
      (∀ c ∈ s.inRing, isComplete s.ring.storage c = true) ∧
      Seamless s.ring.capacity s.ring.head s.inRing ∧
      s.ReportsInOrder ∧ (∀ c ∈ s.linked, RingRegion s.ring.head s.ring.tail c.last) ∧
      ((∀ c ∈ s.inRing, isComplete s.ring.storage c = true) →
        (s.drainTxCompletions.2 = s.pendingReports ↔
          Seamless s.ring.capacity s.ring.head s.inRing)) :=
  ⟨smallRing_blank, by decide +kernel, by decide +kernel, by decide +kernel, by decide +kernel,
    by decide +kernel,
    completions_reported smallRing_blank false false readThenWrite (by decide +kernel)⟩

/-- A block write the controller has completed. -/
def completedWrite : List TxEvent :=
  [.submit ATContext.blockWriteChain none, .hwStep ackComplete]

/-- A completed read, a second read appended to it, and a drain before the controller gets to it. -/
def appendedRead : List TxEvent :=
  [.submit ATContext.quadletReadChain none, .hwStep ackComplete,
    .submit ATContext.quadletReadChain none, .scan, .scan]

/-- A drain pass skips the header of a completed block write as orphaned and returns nothing; a
freshly appended read is skipped as orphaned although the controller will still execute it. -/
theorem drain_stops_at_orphans :
    let s := Runs.run TxContext.step { ring := ATContext.smallRing } completedWrite
    let s' := Runs.run TxContext.step { ring := ATContext.smallRing } appendedRead
    (s.inRing.length = 1 ∧ (∀ c ∈ s.inRing, isComplete s.ring.storage c = true) ∧
      s.drainTxCompletions.2 = []) ∧
      s'.linked.length = 1 ∧ s'.inRing = [] ∧ s'.ring.head = 4 ∧ s'.ring.tail = 4 ∧
        ∀ c ∈ s'.linked, c.last = 2 := by
  decide +kernel

end TxContext

end ASFireWire.Async
