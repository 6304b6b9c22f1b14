import ASFireWire.Quadlets

/-! AV/C info blocks (`Protocols/AVC/Descriptors/AVCInfoBlock.cpp`): the parser of a block and of the
blocks nested in it, on the bytes from its pointer up to its length. What a call consumed is
bounded in the type of its result. -/
namespace ASFireWire.AVC

open Quadlets

structure AVCInfoBlock where
  compoundLength : ℕ := 0
  primaryFieldsLength : ℕ := 0
  type : ℕ := 0
  primaryData : List UInt8 := []
  nestedBlocks : List AVCInfoBlock := []

inductive AVCResult
  | accepted | implementedStable | changed | inTransition | interim | notImplemented | rejected
  | invalidResponse | timeout | busReset | transportError | busy
  deriving DecidableEq, Repr

/-- A block parsed out of `length` bytes. -/
structure ParsedBlock (length : ℕ) where
  block : AVCInfoBlock
  bytesConsumed : ℕ
  header : 6 ≤ bytesConsumed
  bounded : bytesConsumed ≤ length

/-- Consecutive blocks parsed out of `length` bytes. -/
structure ParsedBlocks (length : ℕ) where
  blocks : List AVCInfoBlock
  bytesConsumed : ℕ
  bounded : bytesConsumed ≤ length

/-- The blocks of the first `consumed` bytes before those of the rest. -/
def ParsedBlocks.after {data : List UInt8} (blocks : List AVCInfoBlock) (consumed : ℕ)
    (h : consumed ≤ data.length) (rest : ParsedBlocks (data.drop consumed).length) :
    ParsedBlocks data.length where
  blocks := blocks ++ rest.blocks
  bytesConsumed := consumed + rest.bytesConsumed
  bounded := by
    have hrest := rest.bounded
    simp only [List.length_drop] at hrest
    omega

namespace AVCInfoBlock

def readBE16 (data : List UInt8) (i : ℕ) : ℕ := 2 ^ 8 * byteAt data i + byteAt data (i + 1)

/-- The bytes of the block that are there. -/
def effectiveLength (data : List UInt8) : ℕ :=
  let compoundLength := readBE16 data 0
  let claimedTotalSize := compoundLength + 2
  if data.length < claimedTotalSize then data.length else claimedTotalSize

/-- The length of the primary fields, at most what is there behind the header. -/
def primaryLength (data : List UInt8) : ℕ :=
  let primaryFieldsLength := readBE16 data 4
  let maxPrimary := if 6 ≤ effectiveLength data then effectiveLength data - 6 else 0
  if maxPrimary < primaryFieldsLength then maxPrimary else primaryFieldsLength

lemma effectiveLength_le (data : List UInt8) : effectiveLength data ≤ data.length := by
  unfold effectiveLength
  dsimp only
  split_ifs <;> omega

lemma six_le_effectiveLength {data : List UInt8} (hlength : 6 ≤ data.length)
    (hcompound : 4 ≤ readBE16 data 0) : 6 ≤ effectiveLength data := by
  unfold effectiveLength
  dsimp only
  split_ifs <;> omega

mutual

/-- `Parse`; a failing call has consumed nothing. -/
def parse (data : List UInt8) : Except AVCResult (ParsedBlock data.length) :=
  if hlength : data.length < 6 then .error .invalidResponse
  else
    let compoundLength := readBE16 data 0
    let type := readBE16 data 2
    if hcompound : compoundLength < 4 then .error .invalidResponse
    else
      let primaryFieldsLength := primaryLength data
      let primaryData := (data.drop 6).take primaryFieldsLength
      let nestedDataOffset := 6 + primaryFieldsLength
      let nestedBlocks :=
        if nestedDataOffset < effectiveLength data then
          (parseNestedBlocks
            ((data.drop nestedDataOffset).take (effectiveLength data - nestedDataOffset))).blocks
        else []
      .ok {
        block := { compoundLength, primaryFieldsLength, type, primaryData, nestedBlocks }
        bytesConsumed := effectiveLength data
        header := six_le_effectiveLength (by omega) (by omega)
        bounded := effectiveLength_le data }
  termination_by 2 * data.length
  decreasing_by
    simp only [List.length_take, List.length_drop]
    omega

/-- `ParseNestedBlocks` from one turn of its loop on; it does not fail. -/
def parseNestedBlocks (data : List UInt8) : ParsedBlocks data.length :=
  if hremaining : data.length < 6 then
    { blocks := [], bytesConsumed := 0, bounded := Nat.zero_le _ }
  else
    let skipped : ParsedBlocks data.length :=
      (parseNestedBlocks (data.drop 4)).after [] 4 (by omega)
    let nextCompoundLen := readBE16 data 0
    let nextTotalSize := nextCompoundLen + 2
    if nextTotalSize < 6 ∨ nextCompoundLen = 0xFFFF then skipped
    else
      let bytesToParse := if data.length < nextTotalSize then data.length else nextTotalSize
      match parse (data.take bytesToParse) with
      | .error _ => skipped
      | .ok parsed =>
        have hparsed : parsed.bytesConsumed ≤ data.length :=
          parsed.bounded.trans (List.length_take_le' _ _)
        if data.length < nextTotalSize then
          { blocks := [parsed.block], bytesConsumed := parsed.bytesConsumed, bounded := hparsed }
        else
          (parseNestedBlocks (data.drop parsed.bytesConsumed)).after [parsed.block]
            parsed.bytesConsumed hparsed
  termination_by 2 * data.length + 1
  decreasing_by
    · simp only [List.length_drop]
      omega
    · simp only [List.length_take]
      omega
    · have hheader := parsed.header
      simp only [List.length_drop]
      omega

end

variable {data : List UInt8}

/-! ### One call -/

lemma primaryLength_le (hlength : 6 ≤ effectiveLength data) :
    6 + primaryLength data ≤ effectiveLength data := by
  unfold primaryLength
  dsimp only
  rw [if_pos hlength]
  split_ifs <;> omega

lemma parse_error (h : data.length < 6 ∨ readBE16 data 0 < 4) :
    parse data = .error .invalidResponse := by
  rw [parse]
  by_cases hlength : data.length < 6
  · rw [dif_pos hlength]
  · rw [dif_neg hlength]
    exact dif_pos (h.resolve_left hlength)

/-- The bytes left for the nested blocks of a block. -/
def nestedData (data : List UInt8) : List UInt8 :=
  (data.drop (6 + primaryLength data)).take (effectiveLength data - (6 + primaryLength data))

lemma parseNestedBlocks_short (h : data.length < 6) : (parseNestedBlocks data).blocks = [] := by
  rw [parseNestedBlocks, dif_pos h]

/-- What a call reports when the header is there. -/
lemma parse_ok (hlength : 6 ≤ data.length) (hcompound : 4 ≤ readBE16 data 0) :
    ∃ parsed, parse data = .ok parsed ∧ parsed.bytesConsumed = effectiveLength data ∧
      parsed.block = {
        compoundLength := readBE16 data 0
        primaryFieldsLength := primaryLength data
        type := readBE16 data 2
        primaryData := (data.drop 6).take (primaryLength data)
        nestedBlocks := (parseNestedBlocks (nestedData data)).blocks } := by
  have hnested : (if 6 + primaryLength data < effectiveLength data then
      (parseNestedBlocks (nestedData data)).blocks else []) =
        (parseNestedBlocks (nestedData data)).blocks := by
    split_ifs with hsome
    · rfl
    · apply (parseNestedBlocks_short ?_).symm
      simp [nestedData]
      omega
  rw [parse, dif_neg (by omega)]
  dsimp only
  rw [dif_neg (by omega)]
  exact ⟨_, rfl, rfl, congrArg _ hnested⟩

lemma parseNestedBlocks_skip (hlength : 6 ≤ data.length)
    (hinvalid : readBE16 data 0 + 2 < 6 ∨ readBE16 data 0 = 0xFFFF) :
    (parseNestedBlocks data).blocks = (parseNestedBlocks (data.drop 4)).blocks := by
  rw [parseNestedBlocks, dif_neg (by omega)]
  dsimp only
  rw [if_pos hinvalid]
  rfl

/-- The bytes a turn of the loop parses as one block. -/
def nextBlock (data : List UInt8) : List UInt8 := data.take (effectiveLength data)

/-- A turn of the loop on a block with a valid size: the block, and unless it is cut short the
blocks behind it. -/
lemma parseNestedBlocks_block (hlength : 6 ≤ data.length)
    (hsize : 4 ≤ readBE16 data 0) (hvalid : readBE16 data 0 ≠ 0xFFFF) :
    ∃ parsed, parse (nextBlock data) = .ok parsed ∧
      parsed.bytesConsumed = effectiveLength data ∧
      (parseNestedBlocks data).blocks = parsed.block ::
        if data.length < readBE16 data 0 + 2 then []
        else (parseNestedBlocks (data.drop (effectiveLength data))).blocks := by
  have hsix := six_le_effectiveLength hlength hsize
  have hle := effectiveLength_le data
  have hbytes (i : ℕ) (hi : i < 6) : byteAt (nextBlock data) i = byteAt data i :=
    byteAt_take data (by omega)
  have hcompound : readBE16 (nextBlock data) 0 = readBE16 data 0 := by
    simp only [readBE16, hbytes 0 (by omega), hbytes 1 (by omega)]
  have htaken : (nextBlock data).length = effectiveLength data := by
    rw [nextBlock, List.length_take, min_eq_left hle]
  have hsix' : 6 ≤ (nextBlock data).length := by omega
  obtain ⟨parsed, hparsed, hconsumed, -⟩ := parse_ok hsix' (by omega)
  have heffective : effectiveLength (nextBlock data) = effectiveLength data := by
    conv_lhs => unfold effectiveLength
    dsimp only
    rw [htaken, hcompound]
    unfold effectiveLength
    dsimp only
    split_ifs <;> omega
  rw [heffective] at hconsumed
  refine ⟨parsed, hparsed, hconsumed, ?_⟩
  rw [parseNestedBlocks, dif_neg (by omega)]
  dsimp only
  rw [if_neg (by omega)]
  have htake : parse (data.take (if data.length < readBE16 data 0 + 2 then data.length
      else readBE16 data 0 + 2)) = .ok parsed := hparsed
  rw [htake]
  dsimp only
  split_ifs
  · rfl
  · have hrest : (parseNestedBlocks (data.drop parsed.bytesConsumed)).blocks =
        (parseNestedBlocks (data.drop (effectiveLength data))).blocks := by rw [hconsumed]
    exact congrArg (parsed.block :: ·) hrest

/-! ### Any bytes -/

mutual

/-- The block is read from the bytes of its extent: its header and its primary fields in front,
and the nested blocks from what is behind them. -/
inductive Built : List UInt8 → AVCInfoBlock → Prop
  | mk {extent : List UInt8} {block : AVCInfoBlock} (header : 6 ≤ extent.length)
      (compoundLength : block.compoundLength = readBE16 extent 0)
      (type : block.type = readBE16 extent 2)
      (inside : 6 + block.primaryFieldsLength ≤ extent.length)
      (claimed : block.primaryFieldsLength ≤ readBE16 extent 4)
      (primaryData : block.primaryData = (extent.drop 6).take block.primaryFieldsLength)
      (nested : BuiltAll (extent.drop (6 + block.primaryFieldsLength)) block.nestedBlocks) :
      Built extent block

/-- The blocks have consecutive extents among the bytes, possibly with gaps. -/
inductive BuiltAll : List UInt8 → List AVCInfoBlock → Prop
  | nil (bytes : List UInt8) : BuiltAll bytes []
  | cons {bytes : List UInt8} {block : AVCInfoBlock} {blocks : List AVCInfoBlock} (gap size : ℕ)
      (inside : gap + size ≤ bytes.length) (head : Built ((bytes.drop gap).take size) block)
      (tail : BuiltAll (bytes.drop (gap + size)) blocks) : BuiltAll bytes (block :: blocks)

end

lemma BuiltAll.of_drop {gap : ℕ} {blocks : List AVCInfoBlock} (hgap : gap ≤ data.length)
    (h : BuiltAll (data.drop gap) blocks) : BuiltAll data blocks := by
  cases h with
  | nil => exact .nil data
  | cons gap' size hinside head tail =>
    rw [List.length_drop] at hinside
    rw [List.drop_drop] at head tail
    refine .cons (gap + gap') size (by omega) head ?_
    rwa [Nat.add_assoc]

lemma readBE16_take {n i : ℕ} (h : i + 1 < n) : readBE16 (data.take n) i = readBE16 data i := by
  rw [readBE16, readBE16, byteAt_take data (by omega), byteAt_take data h]

/-- The step: a block is built from its extent when the bytes behind its fields are. -/
lemma built_of_nested (ih : ∀ rest : List UInt8, rest.length < data.length →
    BuiltAll rest (parseNestedBlocks rest).blocks) {parsed : ParsedBlock data.length}
    (h : parse data = .ok parsed) : Built (data.take parsed.bytesConsumed) parsed.block := by
  by_cases herror : data.length < 6 ∨ readBE16 data 0 < 4
  · rw [parse_error herror] at h
    cases h
  · obtain ⟨parsed', hparsed, hconsumed, hblock⟩ :=
      parse_ok (show 6 ≤ data.length by omega) (by omega)
    obtain rfl := Except.ok.inj (hparsed.symm.trans h)
    have hsix : 6 ≤ effectiveLength data := six_le_effectiveLength (by omega) (by omega)
    have hle := effectiveLength_le data
    have hprimary := primaryLength_le hsix
    have hclaimed : primaryLength data ≤ readBE16 data 4 := by
      unfold primaryLength
      dsimp only
      split_ifs <;> omega
    have hnested : (data.take (effectiveLength data)).drop (6 + primaryLength data) =
        nestedData data := List.drop_take
    rw [hconsumed, hblock]
    apply Built.mk
    · rw [List.length_take]
      omega
    · rw [readBE16_take (by omega)]
    · rw [readBE16_take (by omega)]
    · simp only [List.length_take]
      omega
    · rw [readBE16_take (by omega)]
      exact hclaimed
    · rw [List.drop_take, List.take_take, min_eq_left]
      dsimp only
      omega
    · rw [hnested]
      apply ih
      rw [nestedData, List.length_take, List.length_drop]
      omega

/-- Whatever the bytes are, the blocks found have consecutive extents among them. -/
lemma parseNestedBlocks_built (data : List UInt8) :
    BuiltAll data (parseNestedBlocks data).blocks := by
  suffices hall : ∀ n, ∀ data : List UInt8, data.length = n →
      BuiltAll data (parseNestedBlocks data).blocks from hall data.length data rfl
  intro n
  induction n using Nat.strong_induction_on with
  | _ n ih =>
    rintro data rfl
    have ih (rest : List UInt8) (h : rest.length < data.length) :
        BuiltAll rest (parseNestedBlocks rest).blocks := ih rest.length h rest rfl
    by_cases hshort : data.length < 6
    · rw [parseNestedBlocks_short hshort]
      exact .nil data
    · by_cases hinvalid : readBE16 data 0 + 2 < 6 ∨ readBE16 data 0 = 0xFFFF
      · rw [parseNestedBlocks_skip (by omega) hinvalid]
        apply BuiltAll.of_drop (by omega : 4 ≤ data.length)
        apply ih
        rw [List.length_drop]
        omega
      · rw [not_or] at hinvalid
        obtain ⟨parsed, hparsed, hconsumed, hblocks⟩ :=
          parseNestedBlocks_block (show 6 ≤ data.length by omega) (by omega) hinvalid.2
        have hsix : 6 ≤ effectiveLength data := six_le_effectiveLength (by omega) (by omega)
        have hle := effectiveLength_le data
        have hlength : (nextBlock data).length = effectiveLength data := by
          rw [nextBlock, List.length_take, min_eq_left hle]
        rw [hblocks]
        apply BuiltAll.cons 0 (effectiveLength data) (by omega)
        · have hbuilt : Built ((nextBlock data).take parsed.bytesConsumed) parsed.block :=
            built_of_nested (fun rest hrest => ih rest (hrest.trans_le (hlength.trans_le hle))) hparsed
          rw [hconsumed, List.take_of_length_le hlength.le] at hbuilt
          exact hbuilt
        · rw [Nat.zero_add]
          split_ifs
          · exact .nil _
          · apply ih
            rw [List.length_drop]
            omega

lemma parse_built {parsed : ParsedBlock data.length} (h : parse data = .ok parsed) :
    Built (data.take parsed.bytesConsumed) parsed.block :=
  built_of_nested (fun rest _ => parseNestedBlocks_built rest) h

end AVCInfoBlock

end ASFireWire.AVC
