import Mathlib

/-! The DMA map of the transmit payload slab (`Isoch/Transmit/TxPayloadDmaMap.hpp`): the segments
the hardware sees the slab in, laid one after another, and the two fragments a packet's payload is
described by. -/
namespace ASFireWire.IsochTx

structure TxPayloadDmaSegment where
  deviceAddress : ℕ
  length : ℕ
  deriving DecidableEq, Repr

structure TxPayloadDmaFragment where
  deviceAddress : ℕ := 0
  length : ℕ := 0
  deriving DecidableEq, Repr

structure MappedSegment where
  slabOffset : ℕ
  deviceAddress : ℕ
  length : ℕ
  deriving DecidableEq, Repr

structure TxPayloadDmaMap where
  segments : List MappedSegment := []
  slabLength : ℕ := 0
  deriving DecidableEq, Repr

def kMaxSegments : ℕ := 32

def kAddressSpaceSize : ℕ := 2 ^ 32

/-- The loop of `Configure`: the last segment is cut to what remains of the slab. -/
def mapSegments : List TxPayloadDmaSegment → ℕ → ℕ → Option (List MappedSegment)
  | [], _, remaining => if remaining ≠ 0 then none else some []
  | segment :: rest, slabOffset, remaining =>
    if remaining = 0 then some []
    else if segment.deviceAddress = 0 ∨ segment.length = 0 then none
    else
      let mappedLength := if segment.length < remaining then segment.length else remaining
      if kAddressSpaceSize ≤ segment.deviceAddress ∨
          kAddressSpaceSize - segment.deviceAddress < mappedLength then none
      else
        (mapSegments rest (slabOffset + mappedLength) (remaining - mappedLength)).map
          (⟨slabOffset, segment.deviceAddress, mappedLength⟩ :: ·)

namespace TxPayloadDmaMap

def configure (segments : List TxPayloadDmaSegment) (slabLength : ℕ) : TxPayloadDmaMap × Bool :=
  if segments = [] ∨ kMaxSegments < segments.length ∨ slabLength = 0 then ({}, false)
  else
    match mapSegments segments 0 slabLength with
    | none => ({}, false)
    | some mapped => (⟨mapped, slabLength⟩, true)

def isValid (m : TxPayloadDmaMap) : Bool := m.segments.length ≠ 0 && m.slabLength ≠ 0

end TxPayloadDmaMap

def MappedSegment.holds (currentOffset : ℕ) (candidate : MappedSegment) : Bool :=
  candidate.slabOffset ≤ currentOffset && currentOffset < candidate.slabOffset + candidate.length

/-- The loop of `ResolveTwoFragments`, with room for so many more fragments. -/
def resolveFragments (segments : List MappedSegment) :
    ℕ → ℕ → ℕ → Bool × List TxPayloadDmaFragment
  | 0, _, remaining => (remaining = 0, [])
  | room + 1, currentOffset, remaining =>
    if remaining = 0 then (true, [])
    else
      match segments.find? (MappedSegment.holds currentOffset) with
      | none => (false, [])
      | some mapped =>
        let segmentOffset := currentOffset - mapped.slabOffset
        let fragmentLength := min (mapped.length - segmentOffset) remaining
        let rest :=
          resolveFragments segments room (currentOffset + fragmentLength) (remaining - fragmentLength)
        (rest.1,
          ⟨(mapped.deviceAddress + segmentOffset) % 2 ^ 32, fragmentLength % 2 ^ 32⟩ :: rest.2)

/-- A payload inside one segment is described by its two halves. -/
def splitFragment (fragment : TxPayloadDmaFragment) :
    TxPayloadDmaFragment × TxPayloadDmaFragment :=
  let firstLength := fragment.length / 2
  (⟨fragment.deviceAddress, firstLength⟩,
    ⟨(fragment.deviceAddress + firstLength) % 2 ^ 32, fragment.length - firstLength⟩)

/-- The result, and the two fragments as they are left. -/
def TxPayloadDmaMap.resolveTwoFragments (m : TxPayloadDmaMap) (slabOffset : ℕ) (length : UInt32) :
    Bool × TxPayloadDmaFragment × TxPayloadDmaFragment :=
  if length = 0 then (true, {}, {})
  else if m.isValid = false ∨ length < 2 ∨ m.slabLength ≤ slabOffset ∨
      m.slabLength - slabOffset < length.toNat then (false, {}, {})
  else
    match resolveFragments m.segments 2 slabOffset length.toNat with
    | (false, fragments) => (false, fragments.getD 0 {}, fragments.getD 1 {})
    | (true, [fragment]) =>
      let halves := splitFragment fragment
      (halves.1.length ≠ 0 && halves.2.length ≠ 0, halves)
    | (true, fragments) =>
      ((fragments.getD 0 {}).length ≠ 0 && (fragments.getD 1 {}).length ≠ 0,
        fragments.getD 0 {}, fragments.getD 1 {})

/-! ### What the segments say -/

/-- The device address of byte `k` of segments laid one after another. -/
def deviceByte : List TxPayloadDmaSegment → ℕ → Option ℕ
  | [], _ => none
  | segment :: rest, k =>
    if k < segment.length then some (segment.deviceAddress + k)
    else deviceByte rest (k - segment.length)

/-- The segment byte `k` lies in. -/
def segmentOf : List TxPayloadDmaSegment → ℕ → ℕ
  | [], _ => 0
  | segment :: rest, k =>
    if k < segment.length then 0 else segmentOf rest (k - segment.length) + 1

/-- The segments a range of bytes touches. -/
def touched (segments : List TxPayloadDmaSegment) (slabOffset length : ℕ) : Finset ℕ :=
  (Finset.Ico slabOffset (slabOffset + length)).image (segmentOf segments)

def TxPayloadDmaFragment.bytes (fragment : TxPayloadDmaFragment) : List ℕ :=
  (List.range fragment.length).map (fragment.deviceAddress + ·)

/-! ### The segment that holds a byte -/

variable {segments : List TxPayloadDmaSegment} {mapped : List MappedSegment}
  {slabOffset remaining k : ℕ}

/-- Mapped segment `m` stands for bytes of one segment, up to its end or the end of the slab. -/
structure StandsFor (segments : List TxPayloadDmaSegment) (slabOffset remaining k : ℕ)
    (m : MappedSegment) : Prop where
  low : slabOffset ≤ m.slabOffset ∧ m.slabOffset ≤ k
  high : k < m.slabOffset + m.length ∧ m.slabOffset + m.length ≤ slabOffset + remaining
  space : m.deviceAddress + m.length ≤ 2 ^ 32
  address : ∀ j, m.slabOffset ≤ j → j < m.slabOffset + m.length →
    deviceByte segments (j - slabOffset) = some (m.deviceAddress + (j - m.slabOffset))
  same : ∀ j, m.slabOffset ≤ j → j < m.slabOffset + m.length →
    segmentOf segments (j - slabOffset) = segmentOf segments (k - slabOffset)
  next : m.slabOffset + m.length < slabOffset + remaining →
    segmentOf segments (m.slabOffset + m.length - slabOffset) =
      segmentOf segments (k - slabOffset) + 1

lemma mapSegments_cons {segment : TxPayloadDmaSegment} {rest : List TxPayloadDmaSegment}
    (h : mapSegments (segment :: rest) slabOffset remaining = some mapped) (hpos : 0 < remaining) :
    0 < segment.length ∧ segment.deviceAddress + min segment.length remaining ≤ 2 ^ 32 ∧
      ∃ others, mapSegments rest (slabOffset + min segment.length remaining)
          (remaining - min segment.length remaining) = some others ∧
        mapped = ⟨slabOffset, segment.deviceAddress, min segment.length remaining⟩ :: others := by
  have hmin : (if segment.length < remaining then segment.length else remaining) =
      min segment.length remaining := by
    split_ifs <;> omega
  unfold mapSegments at h
  dsimp only at h
  rw [hmin] at h
  split_ifs at h with hzero hempty hspace
  · omega
  · obtain ⟨others, hothers, hmapped⟩ := Option.map_eq_some_iff.mp h
    obtain ⟨haddress, hlength⟩ := not_or.mp hempty
    obtain ⟨hbelow, hfits⟩ := not_or.mp hspace
    unfold kAddressSpaceSize at hbelow hfits
    exact ⟨by omega, by omega, others, hothers, hmapped.symm⟩

lemma segmentOf_zero (h : mapSegments segments slabOffset remaining = some mapped)
    (hpos : 0 < remaining) : segmentOf segments 0 = 0 := by
  cases segments with
  | nil => rfl
  | cons segment rest =>
    obtain ⟨hlength, -⟩ := mapSegments_cons h hpos
    rw [segmentOf, if_pos hlength]

/-- The first mapped segment stands for the first segment. -/
lemma standsFor_head {segment : TxPayloadDmaSegment} {rest : List TxPayloadDmaSegment}
    (hspace : segment.deviceAddress + min segment.length remaining ≤ 2 ^ 32)
    (hlow : slabOffset ≤ k) (hhigh : k < slabOffset + min segment.length remaining)
    (hnext : min segment.length remaining < remaining → segmentOf rest 0 = 0) :
    StandsFor (segment :: rest) slabOffset remaining k
      ⟨slabOffset, segment.deviceAddress, min segment.length remaining⟩ := by
  have hfirst : ∀ j, j < slabOffset + min segment.length remaining → slabOffset ≤ j →
      segmentOf (segment :: rest) (j - slabOffset) = 0 := by
    intro j hj hle
    rw [segmentOf, if_pos (by omega)]
  constructor
  · exact ⟨le_rfl, hlow⟩
  · dsimp only
    omega
  · exact hspace
  · intro j hj hlt
    dsimp only at hj hlt ⊢
    rw [deviceByte, if_pos (by omega)]
  · intro j hj hlt
    rw [hfirst j hlt hj, hfirst k hhigh hlow]
  · intro hlt
    dsimp only at hlt ⊢
    have hwhole : slabOffset + min segment.length remaining - slabOffset = segment.length := by
      omega
    rw [hfirst k hhigh hlow, hwhole, segmentOf, if_neg (lt_irrefl _), Nat.sub_self,
      hnext (by omega)]

/-- Behind the first segment the others are as they would be on their own. -/
lemma StandsFor.cons {segment : TxPayloadDmaSegment} {rest : List TxPayloadDmaSegment}
    {m : MappedSegment} (hlength : segment.length ≤ remaining)
    (h : StandsFor rest (slabOffset + segment.length) (remaining - segment.length) k m) :
    StandsFor (segment :: rest) slabOffset remaining k m := by
  have hlow := h.low
  have hhigh := h.high
  have hbyte : ∀ j, m.slabOffset ≤ j → deviceByte (segment :: rest) (j - slabOffset) =
      deviceByte rest (j - (slabOffset + segment.length)) := by
    intro j hj
    rw [deviceByte, if_neg (by omega), Nat.sub_sub]
  have hindex : ∀ j, m.slabOffset ≤ j → segmentOf (segment :: rest) (j - slabOffset) =
      segmentOf rest (j - (slabOffset + segment.length)) + 1 := by
    intro j hj
    rw [segmentOf, if_neg (by omega), Nat.sub_sub]
  constructor
  · omega
  · omega
  · exact h.space
  · intro j hj hlt
    rw [hbyte j hj]
    exact h.address j hj hlt
  · intro j hj hlt
    rw [hindex j hj, hindex k hlow.2, h.same j hj hlt]
  · intro hlt
    rw [hindex _ (Nat.le_add_right _ _), hindex k hlow.2, h.next (by omega)]

lemma find_holds (h : mapSegments segments slabOffset remaining = some mapped)
    (hlow : slabOffset ≤ k) (hhigh : k < slabOffset + remaining) :
    ∃ m, mapped.find? (MappedSegment.holds k) = some m ∧
      StandsFor segments slabOffset remaining k m := by
  induction segments generalizing slabOffset remaining mapped with
  | nil =>
    unfold mapSegments at h
    split_ifs at h with hzero
    omega
  | cons segment rest ih =>
    obtain ⟨hlength, hspace, others, hothers, rfl⟩ := mapSegments_cons h (by omega)
    by_cases hhere : k < slabOffset + min segment.length remaining
    · have hnext : min segment.length remaining < remaining → segmentOf rest 0 = 0 := by
        intro hlt
        exact segmentOf_zero hothers (by omega)
      refine ⟨_, ?_, standsFor_head hspace hlow hhere hnext⟩
      rw [List.find?_cons_of_pos]
      simp [MappedSegment.holds, hlow, hhere]
    · have hmin : min segment.length remaining = segment.length := by omega
      rw [hmin] at hothers hhere
      obtain ⟨m, hfind, hstands⟩ := ih hothers (by omega) (by omega)
      refine ⟨m, ?_, hstands.cons (by omega)⟩
      rw [List.find?_cons_of_neg]
      · exact hfind
      · simp only [MappedSegment.holds, Bool.and_eq_true, decide_eq_true_eq]
        omega

/-! ### The segments a range touches -/

lemma segmentOf_mono {j : ℕ} (hle : k ≤ j) : segmentOf segments k ≤ segmentOf segments j := by
  induction segments generalizing k j with
  | nil => exact le_rfl
  | cons segment rest ih =>
    have hrest := ih (Nat.sub_le_sub_right hle segment.length)
    simp only [segmentOf]
    split_ifs <;> omega

lemma touched_zero : touched segments k 0 = ∅ := by
  simp [touched]

variable {m : MappedSegment} {length : ℕ}

/-- A range touches the segment of its first byte and those of what lies behind that segment. -/
lemma StandsFor.card_touched (h : StandsFor segments 0 remaining k m) (hpos : 0 < length)
    (hfits : k + length ≤ remaining) :
    (touched segments k length).card =
      (touched segments (k + min (m.length - (k - m.slabOffset)) length)
        (length - min (m.length - (k - m.slabOffset)) length)).card + 1 := by
  have hlow := h.low
  have hhigh := h.high
  have hsame := h.same
  have hnext := h.next
  simp only [Nat.sub_zero, zero_add] at hhigh hsame hnext
  set part := min (m.length - (k - m.slabOffset)) length with hpart
  have hsplit : touched segments k length =
      insert (segmentOf segments k) (touched segments (k + part) (length - part)) := by
    ext index
    simp only [touched, Finset.mem_insert, Finset.mem_image, Finset.mem_Ico]
    constructor
    · rintro ⟨j, hj, rfl⟩
      by_cases hhere : j < k + part
      · exact Or.inl (hsame j (by omega) (by omega))
      · exact Or.inr ⟨j, by omega, rfl⟩
    · intro hindex
      cases hindex with
      | inl heq => exact ⟨k, by omega, heq.symm⟩
      | inr hbehind =>
        obtain ⟨j, hj, heq⟩ := hbehind
        exact ⟨j, by omega, heq⟩
  have hnew : segmentOf segments k ∉ touched segments (k + part) (length - part) := by
    simp only [touched, Finset.mem_image, Finset.mem_Ico, not_exists, not_and]
    intro j hj heq
    have hlater : segmentOf segments (m.slabOffset + m.length) ≤ segmentOf segments j :=
      segmentOf_mono (by omega)
    have hstep := hnext (by omega)
    omega
  rw [hsplit, Finset.card_insert_of_notMem hnew]

/-! ### The fragments -/

/-- The fragments describe a range of the slab: their bytes, one after another, are its bytes. -/
structure Describe (segments : List TxPayloadDmaSegment) (slabOffset length : ℕ)
    (fragments : List TxPayloadDmaFragment) : Prop where
  bytes : (fragments.flatMap TxPayloadDmaFragment.bytes).map some =
    (List.range length).map fun i => deviceByte segments (slabOffset + i)
  space : ∀ fragment ∈ fragments, fragment.deviceAddress + fragment.length ≤ 2 ^ 32
  nonempty : ∀ fragment ∈ fragments, 0 < fragment.length

lemma describe_nil : Describe segments k 0 [] := by
  constructor <;> simp

lemma StandsFor.describe_cons (h : StandsFor segments 0 remaining k m) {part : ℕ}
    {fragments : List TxPayloadDmaFragment} (hpos : 0 < part)
    (hpart : part ≤ m.length - (k - m.slabOffset))
    (hrest : Describe segments (k + part) length fragments) :
    Describe segments k (part + length)
      (⟨m.deviceAddress + (k - m.slabOffset), part⟩ :: fragments) := by
  have hlow := h.low
  have hspace := h.space
  have haddress := h.address
  simp only [Nat.sub_zero] at haddress
  have hhead : ∀ i ∈ List.range part, deviceByte segments (k + i) =
      some (m.deviceAddress + (k - m.slabOffset) + i) := by
    intro i hi
    rw [List.mem_range] at hi
    rw [haddress (k + i) (by omega) (by omega)]
    congr 1
    omega
  constructor
  · rw [List.flatMap_cons, List.map_append, hrest.bytes, List.range_add, List.map_append]
    congr 1
    · simp only [TxPayloadDmaFragment.bytes, List.map_map]
      apply List.map_congr_left
      intro i hi
      rw [hhead i hi]
      rfl
    · simp [Function.comp_def, Nat.add_assoc]
  · intro fragment hmem
    cases List.mem_cons.mp hmem with
    | inl heq =>
      subst heq
      dsimp only
      omega
    | inr hmem => exact hrest.space fragment hmem
  · intro fragment hmem
    cases List.mem_cons.mp hmem with
    | inl heq =>
      subst heq
      exact hpos
    | inr hmem => exact hrest.nonempty fragment hmem

/-- With room for so many fragments a range resolves exactly when it touches no more segments, and
then into a fragment for each. -/
lemma resolveFragments_spec (h : mapSegments segments 0 remaining = some mapped) (room : ℕ)
    (hfits : k + length ≤ remaining) (hword : length < 2 ^ 32) :
    ((resolveFragments mapped room k length).1 = true ↔
        (touched segments k length).card ≤ room) ∧
      ((resolveFragments mapped room k length).1 = true →
        Describe segments k length (resolveFragments mapped room k length).2 ∧
          (resolveFragments mapped room k length).2.length =
            (touched segments k length).card) := by
  induction room generalizing k length with
  | zero =>
    rcases Nat.eq_zero_or_pos length with hzero | hpos
    · subst hzero
      simp [resolveFragments, touched_zero, describe_nil]
    · have hsome : 0 < (touched segments k length).card := by
        rw [Finset.card_pos]
        exact ⟨_, Finset.mem_image_of_mem _ (Finset.mem_Ico.mpr ⟨le_rfl, by omega⟩)⟩
      simp only [resolveFragments, decide_eq_true_eq]
      omega
  | succ room ih =>
    rcases Nat.eq_zero_or_pos length with hzero | hpos
    · subst hzero
      simp [resolveFragments, touched_zero, describe_nil]
    · obtain ⟨m, hfind, hstands⟩ := find_holds h (Nat.zero_le k) (by omega)
      have hlow := hstands.low
      have hhigh := hstands.high
      have hspace := hstands.space
      have hcard := hstands.card_touched hpos hfits
      set part := min (m.length - (k - m.slabOffset)) length with hpart
      obtain ⟨hiff, hdescribe⟩ := @ih (k + part) (length - part) (by omega) (by omega)
      have haddress : (m.deviceAddress + (k - m.slabOffset)) % 2 ^ 32 =
          m.deviceAddress + (k - m.slabOffset) := Nat.mod_eq_of_lt (by omega)
      have hlength : part % 2 ^ 32 = part := Nat.mod_eq_of_lt (by omega)
      have hresolve : resolveFragments mapped (room + 1) k length =
          ((resolveFragments mapped room (k + part) (length - part)).1,
            ⟨m.deviceAddress + (k - m.slabOffset), part⟩ ::
              (resolveFragments mapped room (k + part) (length - part)).2) := by
        rw [resolveFragments, if_neg hpos.ne', hfind]
        dsimp only
        rw [← hpart, haddress, hlength]
      rw [hresolve, hcard]
      constructor
      · rw [hiff]
        omega
      · intro hok
        obtain ⟨hrest, hcount⟩ := hdescribe hok
        have hwhole := hstands.describe_cons (by omega) (by omega) hrest
        rw [show part + (length - part) = length by omega] at hwhole
        exact ⟨hwhole, by rw [List.length_cons, hcount]⟩

lemma Describe.length_bytes {fragments : List TxPayloadDmaFragment}
    (h : Describe segments k length fragments) :
    (fragments.map TxPayloadDmaFragment.length).sum = length := by
  have hcount := congrArg List.length h.bytes
  simpa [List.length_flatMap, TxPayloadDmaFragment.bytes] using hcount

/-- The halves of a fragment describe what the fragment does. -/
lemma Describe.split {fragment : TxPayloadDmaFragment}
    (h : Describe segments k length [fragment]) (htwo : 2 ≤ length) :
    Describe segments k length [(splitFragment fragment).1, (splitFragment fragment).2] := by
  have hlength := h.length_bytes
  have hspace := h.space fragment (List.mem_singleton_self fragment)
  simp only [List.map_cons, List.map_nil, List.sum_cons, List.sum_nil, add_zero] at hlength
  have hsecond : (fragment.deviceAddress + fragment.length / 2) % 2 ^ 32 =
      fragment.deviceAddress + fragment.length / 2 := Nat.mod_eq_of_lt (by omega)
  have hbytes : (splitFragment fragment).1.bytes ++ (splitFragment fragment).2.bytes =
      fragment.bytes := by
    have hwhole : fragment.length =
        fragment.length / 2 + (fragment.length - fragment.length / 2) := by omega
    conv_rhs => rw [TxPayloadDmaFragment.bytes, hwhole, List.range_add, List.map_append]
    simp only [splitFragment, TxPayloadDmaFragment.bytes, hsecond, List.map_map,
      Function.comp_def, Nat.add_assoc]
  constructor
  · rw [← h.bytes]
    simp [hbytes]
  · intro half hmem
    simp only [splitFragment, List.mem_cons, List.not_mem_nil, or_false] at hmem
    rcases hmem with rfl | rfl
    · dsimp only
      omega
    · dsimp only
      omega
  · intro half hmem
    simp only [splitFragment, List.mem_cons, List.not_mem_nil, or_false] at hmem
    rcases hmem with rfl | rfl
    · dsimp only
      omega
    · dsimp only
      omega

lemma configure_accepted {slabLength : ℕ}
    (h : (TxPayloadDmaMap.configure segments slabLength).2 = true) :
    0 < slabLength ∧ ∃ mapped, mapSegments segments 0 slabLength = some mapped ∧
      mapped ≠ [] ∧ (TxPayloadDmaMap.configure segments slabLength).1 = ⟨mapped, slabLength⟩ := by
  unfold TxPayloadDmaMap.configure at h ⊢
  split_ifs at h ⊢ with hrefused
  obtain ⟨-, hmany⟩ := not_or.mp hrefused
  obtain ⟨-, hlength⟩ := not_or.mp hmany
  cases hmapped : mapSegments segments 0 slabLength with
  | none => simp [hmapped] at h
  | some mapped =>
    obtain ⟨m, hfind, -⟩ := find_holds hmapped (Nat.zero_le 0) (by omega)
    refine ⟨by omega, mapped, rfl, ?_, rfl⟩
    intro hempty
    simp [hempty] at hfind

/-- The checks in front of the loop of `ResolveTwoFragments`. -/
def TxPayloadDmaMap.refuses (m : TxPayloadDmaMap) (slabOffset : ℕ) (length : UInt32) : Prop :=
  m.isValid = false ∨ length < 2 ∨ m.slabLength ≤ slabOffset ∨
    m.slabLength - slabOffset < length.toNat

variable {dmaMap : TxPayloadDmaMap} {word : UInt32} {fragments : List TxPayloadDmaFragment}

lemma resolveTwoFragments_refused (h : dmaMap.refuses slabOffset word) (hword : word ≠ 0) :
    (dmaMap.resolveTwoFragments slabOffset word).1 = false := by
  unfold TxPayloadDmaMap.refuses at h
  rw [TxPayloadDmaMap.resolveTwoFragments, if_neg hword, if_pos h]

lemma resolveTwoFragments_failed (h : ¬ dmaMap.refuses slabOffset word) (hword : word ≠ 0)
    (hresolve : (resolveFragments dmaMap.segments 2 slabOffset word.toNat).1 = false) :
    (dmaMap.resolveTwoFragments slabOffset word).1 = false := by
  unfold TxPayloadDmaMap.refuses at h
  rw [TxPayloadDmaMap.resolveTwoFragments, if_neg hword, if_neg h]
  cases hfragments : resolveFragments dmaMap.segments 2 slabOffset word.toNat with
  | mk ok fragments =>
    rw [hfragments] at hresolve
    dsimp only at hresolve
    subst hresolve
    rfl

/-- A payload in one segment is split, one in two segments is as it is. -/
lemma resolveTwoFragments_described (h : ¬ dmaMap.refuses slabOffset word) (hword : word ≠ 0)
    (hresolve : resolveFragments dmaMap.segments 2 slabOffset word.toNat = (true, fragments))
    (hmost : fragments.length ≤ 2) (htwo : 2 ≤ word.toNat)
    (hdescribed : Describe segments slabOffset word.toNat fragments) :
    ∃ first second, dmaMap.resolveTwoFragments slabOffset word = (true, first, second) ∧
      Describe segments slabOffset word.toNat [first, second] := by
  unfold TxPayloadDmaMap.refuses at h
  rw [TxPayloadDmaMap.resolveTwoFragments, if_neg hword, if_neg h, hresolve]
  match fragments with
  | [] =>
    have hlength := hdescribed.length_bytes
    simp only [List.map_nil, List.sum_nil] at hlength
    omega
  | [fragment] =>
    have hhalves := hdescribed.split htwo
    have hfirst := hhalves.nonempty (splitFragment fragment).1 (by simp)
    have hsecond := hhalves.nonempty (splitFragment fragment).2 (by simp)
    exact ⟨_, _, by simp [hfirst.ne', hsecond.ne'], hhalves⟩
  | [first, second] =>
    have hfirst := hdescribed.nonempty first (by simp)
    have hsecond := hdescribed.nonempty second (by simp)
    exact ⟨first, second, by simp [hfirst.ne', hsecond.ne'], hdescribed⟩
  | _ :: _ :: _ :: _ =>
    simp only [List.length_cons] at hmost
    omega

lemma Describe.pair {first second : TxPayloadDmaFragment}
    (h : Describe segments slabOffset length [first, second]) :
    0 < first.length ∧ 0 < second.length ∧ first.length + second.length = length ∧
      (∀ address ∈ first.bytes ++ second.bytes, address < 2 ^ 32) ∧
      ∀ i < length, (first.bytes ++ second.bytes)[i]? = deviceByte segments (slabOffset + i) := by
  have hfirst := h.space first (by simp)
  have hsecond := h.space second (by simp)
  have hlength := h.length_bytes
  have hbytes := h.bytes
  simp only [List.flatMap_cons, List.flatMap_nil, List.append_nil] at hbytes
  simp only [List.map_cons, List.map_nil, List.sum_cons, List.sum_nil, add_zero] at hlength
  refine ⟨h.nonempty first (by simp), h.nonempty second (by simp), hlength, ?_, ?_⟩
  · intro address hmem
    simp only [TxPayloadDmaFragment.bytes, List.mem_append, List.mem_map, List.mem_range] at hmem
    rcases hmem with ⟨i, hi, rfl⟩ | ⟨i, hi, rfl⟩
    · omega
    · omega
  · intro i hi
    have hat := congrArg (fun bytes : List (Option ℕ) => bytes[i]?) hbytes
    have hin : i < (first.bytes ++ second.bytes).length := by
      simp only [List.length_append, TxPayloadDmaFragment.bytes, List.length_map,
        List.length_range]
      omega
    simp only [List.getElem?_map, List.getElem?_range hi, Option.map_some] at hat
    rw [List.getElem?_eq_getElem hin, Option.map_some] at hat
    rw [List.getElem?_eq_getElem hin]
    exact Option.some_inj.mp hat

/-- Two fragments describe exactly the payload: the range is resolved if and only if it lies in the
slab and touches at most two segments, and byte for byte the fragments are what the segments say. -/
theorem resolveTwoFragments_exact (segments : List TxPayloadDmaSegment) (slabLength : ℕ)
    (haccepted : (TxPayloadDmaMap.configure segments slabLength).2 = true) (slabOffset : ℕ)
    (length : UInt32) (htwo : 2 ≤ length) :
    let resolved := (TxPayloadDmaMap.configure segments slabLength).1.resolveTwoFragments
      slabOffset length
    (resolved.1 = true ↔ slabOffset + length.toNat ≤ slabLength ∧
        (touched segments slabOffset length.toNat).card ≤ 2) ∧
      (resolved.1 = true →
        0 < resolved.2.1.length ∧ 0 < resolved.2.2.length ∧
          resolved.2.1.length + resolved.2.2.length = length.toNat ∧
          (∀ address ∈ resolved.2.1.bytes ++ resolved.2.2.bytes, address < 2 ^ 32) ∧
          ∀ i < length.toNat, (resolved.2.1.bytes ++ resolved.2.2.bytes)[i]? =
            deviceByte segments (slabOffset + i)) := by
  obtain ⟨hslab, mapped, hmapped, hsome, hmap⟩ := configure_accepted haccepted
  have hlong : 2 ≤ length.toNat := htwo
  have hnonzero : length ≠ 0 := by
    rintro rfl
    exact absurd hlong (by decide)
  have hrefuses : (⟨mapped, slabLength⟩ : TxPayloadDmaMap).refuses slabOffset length ↔
      ¬ slabOffset + length.toNat ≤ slabLength := by
    simp only [TxPayloadDmaMap.refuses, TxPayloadDmaMap.isValid, UInt32.not_lt.mpr htwo]
    simp only [ne_eq, List.length_eq_zero_iff, hsome, not_false_eq_true, decide_true,
      hslab.ne', Bool.and_self, Bool.true_eq_false, false_or]
    omega
  intro resolved
  have hresolved : resolved =
      (⟨mapped, slabLength⟩ : TxPayloadDmaMap).resolveTwoFragments slabOffset length := by
    rw [← hmap]
  rw [hresolved]
  by_cases hfits : slabOffset + length.toNat ≤ slabLength
  · obtain ⟨hiff, hdescribe⟩ := resolveFragments_spec hmapped 2 hfits length.toNat_lt
    have hpasses : ¬ (⟨mapped, slabLength⟩ : TxPayloadDmaMap).refuses slabOffset length :=
      fun h => hrefuses.mp h hfits
    by_cases hcard : (touched segments slabOffset length.toNat).card ≤ 2
    · obtain ⟨hdescribed, hcount⟩ := hdescribe (hiff.mpr hcard)
      have hresolve : resolveFragments mapped 2 slabOffset length.toNat =
          (true, (resolveFragments mapped 2 slabOffset length.toNat).2) :=
        Prod.ext (hiff.mpr hcard) rfl
      obtain ⟨first, second, hpair, hboth⟩ := resolveTwoFragments_described hpasses hnonzero
        hresolve (hcount ▸ hcard) hlong hdescribed
      rw [hpair]
      exact ⟨by simp [hfits, hcard], fun _ => hboth.pair⟩
    · have hfailed := resolveTwoFragments_failed hpasses hnonzero
        (Bool.eq_false_iff.mpr fun h => hcard (hiff.mp h))
      rw [hfailed]
      simp [hcard]
  · have hrefused := resolveTwoFragments_refused (hrefuses.mpr hfits) hnonzero
    rw [hrefused]
    simp [hfits]

/-- Segments of 4096 and 512 bytes under a slab of 4352: a packet across their border and one that
lies in the first alone. -/
theorem resolveTwoFragments_exact_border :
    let segments : List TxPayloadDmaSegment := [⟨0x10000, 4096⟩, ⟨0x40000, 512⟩]
    (TxPayloadDmaMap.configure segments 4352).1.resolveTwoFragments 4064 72 =
        (true, ⟨0x10FE0, 32⟩, ⟨0x40000, 40⟩) ∧
      (4064 + 72 ≤ 4352 ∧ (touched segments 4064 72).card ≤ 2) ∧
      (TxPayloadDmaMap.configure segments 4352).1.resolveTwoFragments 72 72 =
        (true, ⟨0x10048, 36⟩, ⟨0x1006C, 36⟩) := by
  intro segments
  have haccepted : (TxPayloadDmaMap.configure segments 4352).2 = true := by decide
  have hborder : (TxPayloadDmaMap.configure segments 4352).1.resolveTwoFragments 4064 72 =
      (true, ⟨0x10FE0, 32⟩, ⟨0x40000, 40⟩) := by decide
  have hexact := (resolveTwoFragments_exact segments 4352 haccepted 4064 72 (by decide)).1
  rw [hborder] at hexact
  exact ⟨hborder, hexact.mp rfl, by decide⟩

end ASFireWire.IsochTx
