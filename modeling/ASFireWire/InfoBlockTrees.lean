import ASFireWire.AVCInfoBlock

/-! Trees of info blocks and their encoding. The parser gives a tree back from its encoding, and from
a truncated encoding every block that lies before the cut. -/
namespace ASFireWire.AVC

open Quadlets

inductive InfoTree
  | node (type : ℕ) (primary : List UInt8) (nested : List InfoTree)

namespace InfoTree

/-- Induction over a tree whose hypothesis is about every nested block. -/
@[elab_as_elim]
theorem induct {P : InfoTree → Prop}
    (node : ∀ type primary nested, (∀ t ∈ nested, P t) → P (node type primary nested)) :
    ∀ t, P t
  | .node type primary nested => node type primary nested fun t _ => induct node t

mutual

/-- The bytes a block takes: its header, its primary fields and its nested blocks. -/
def size : InfoTree → ℕ
  | node _ primary nested => 6 + primary.length + sizeAll nested

def sizeAll : List InfoTree → ℕ
  | [] => 0
  | t :: ts => size t + sizeAll ts

end

def be16Bytes (v : ℕ) : List UInt8 := [UInt8.ofNat (v / 2 ^ 8), UInt8.ofNat v]

mutual

/-- The compound length leaves out its own two bytes. -/
def encode : InfoTree → List UInt8
  | node type primary nested =>
    be16Bytes (4 + primary.length + sizeAll nested) ++ be16Bytes type ++
      be16Bytes primary.length ++ (primary ++ encodeAll nested)

def encodeAll : List InfoTree → List UInt8
  | [] => []
  | t :: ts => encode t ++ encodeAll ts

end

mutual

/-- Types and lengths are 16-bit numbers. -/
def Fits : InfoTree → Prop
  | node type primary nested =>
    type < 2 ^ 16 ∧ 4 + primary.length + sizeAll nested < 2 ^ 16 ∧ FitsAll nested

def FitsAll : List InfoTree → Prop
  | [] => True
  | t :: ts => Fits t ∧ FitsAll ts

end

mutual

/-- The block the tree stands for. -/
def block : InfoTree → AVCInfoBlock
  | node type primary nested =>
    { compoundLength := 4 + primary.length + sizeAll nested
      primaryFieldsLength := primary.length
      type := type
      primaryData := primary
      nestedBlocks := blockAll nested }

def blockAll : List InfoTree → List AVCInfoBlock
  | [] => []
  | t :: ts => block t :: blockAll ts

end

mutual

/-- The block that is left of the tree in `n` bytes: the primary fields that are there, and the
nested blocks up to the one that is cut. -/
def cut : InfoTree → ℕ → AVCInfoBlock
  | node type primary nested, n =>
    { compoundLength := 4 + primary.length + sizeAll nested
      primaryFieldsLength := min primary.length (n - 6)
      type := type
      primaryData := primary.take (n - 6)
      nestedBlocks := cutAll nested (n - 6 - primary.length) }

def cutAll : List InfoTree → ℕ → List AVCInfoBlock
  | [], _ => []
  | t :: ts, n =>
    if n < 6 then [] else cut t n :: if n < size t then [] else cutAll ts (n - size t)

end

mutual

/-- The nested block along a path of positions, with the place of its first byte. -/
def locate : InfoTree → List ℕ → Option (ℕ × InfoTree)
  | t, [] => some (0, t)
  | node _ primary nested, i :: path =>
    (locateAll nested i path).map fun found => (6 + primary.length + found.1, found.2)

def locateAll : List InfoTree → ℕ → List ℕ → Option (ℕ × InfoTree)
  | [], _, _ => none
  | t :: _, 0, path => locate t path
  | t :: ts, i + 1, path =>
    (locateAll ts i path).map fun found => (size t + found.1, found.2)

end

end InfoTree

/-- The nested block along a path of positions. -/
def AVCInfoBlock.nestedAt : AVCInfoBlock → List ℕ → Option AVCInfoBlock
  | block, [] => some block
  | block, i :: path => block.nestedBlocks[i]?.bind (·.nestedAt path)

namespace InfoTree

open AVCInfoBlock

variable {t : InfoTree} {ts : List InfoTree} {data : List UInt8} {n : ℕ}

/-! ### Encodings -/

lemma six_le_size (t : InfoTree) : 6 ≤ t.size := by
  cases t
  rw [size]
  omega

lemma length_encode (t : InfoTree) : t.encode.length = t.size := by
  induction t using induct with
  | node type primary nested ih =>
    have hall : (encodeAll nested).length = sizeAll nested := by
      induction nested with
      | nil => rfl
      | cons t ts iht =>
        rw [encodeAll, sizeAll, List.length_append, ih t (by simp),
          iht fun t' ht' => ih t' (by simp [ht'])]
    simp only [encode, size, be16Bytes, List.length_append, List.length_cons, List.length_nil, hall]
    omega

lemma length_encodeAll (ts : List InfoTree) : (encodeAll ts).length = sizeAll ts := by
  induction ts with
  | nil => rfl
  | cons t ts ih => rw [encodeAll, sizeAll, List.length_append, length_encode, ih]

lemma fits_of_mem (h : FitsAll ts) (ht : t ∈ ts) : t.Fits := by
  induction ts with
  | nil => cases ht
  | cons t' ts ih =>
    rw [FitsAll] at h
    rcases List.mem_cons.mp ht with rfl | ht
    · exact h.1
    · exact ih h.2 ht

lemma size_le_sizeAll (ht : t ∈ ts) : t.size ≤ sizeAll ts := by
  induction ts with
  | nil => cases ht
  | cons t' ts ih =>
    rw [sizeAll]
    rcases List.mem_cons.mp ht with rfl | ht
    · omega
    · have hle := ih ht
      omega

lemma readBE16_be16Bytes (v : ℕ) (rest : List UInt8) (h : v < 2 ^ 16) :
    readBE16 (be16Bytes v ++ rest) 0 = v := by
  simp only [readBE16, byteAt, be16Bytes, List.cons_append, List.nil_append, List.getD_cons_zero,
    List.getD_cons_succ, byteAt_ofNat]
  omega

lemma readBE16_append_right (front rest : List UInt8) (i : ℕ) :
    readBE16 (front ++ rest) (front.length + i) = readBE16 rest i := by
  rw [readBE16, readBE16, Nat.add_assoc, byteAt_append_right (by omega),
    byteAt_append_right (by omega), Nat.add_sub_cancel_left, Nat.add_sub_cancel_left]

/-- The header of an encoding. -/
lemma encode_header {type : ℕ} {primary : List UInt8} {nested : List InfoTree}
    (h : (node type primary nested).Fits) :
    readBE16 (node type primary nested).encode 0 = 4 + primary.length + sizeAll nested ∧
      readBE16 (node type primary nested).encode 2 = type ∧
      readBE16 (node type primary nested).encode 4 = primary.length := by
  obtain ⟨htype, hlength, -⟩ := h
  simp only [encode, List.append_assoc]
  refine ⟨readBE16_be16Bytes _ _ hlength, ?_, ?_⟩
  · exact (readBE16_append_right (be16Bytes (4 + primary.length + sizeAll nested)) _ 0).trans
      (readBE16_be16Bytes type _ htype)
  · rw [← List.append_assoc]
    exact (readBE16_append_right
      (be16Bytes (4 + primary.length + sizeAll nested) ++ be16Bytes type) _ 0).trans
      (readBE16_be16Bytes primary.length _ (by omega))

lemma encode_drop (type : ℕ) (primary : List UInt8) (nested : List InfoTree) (n : ℕ) :
    (node type primary nested).encode.drop (6 + n) = (primary ++ encodeAll nested).drop n := by
  rw [encode, ← List.drop_drop]
  rfl

/-! ### Nothing cut -/

lemma cut_of_size_le (h : t.size ≤ n) : t.cut n = t.block := by
  induction t using induct generalizing n with
  | node type primary nested ih =>
    have hall : ∀ n, sizeAll nested ≤ n → cutAll nested n = blockAll nested := by
      clear h
      induction nested with
      | nil => simp [cutAll, blockAll]
      | cons t ts iht =>
        intro n hn
        rw [sizeAll] at hn
        have hsix := t.six_le_size
        rw [cutAll, if_neg (by omega), if_neg (by omega), ih t (by simp) (by omega), blockAll,
          iht (fun t' ht' => ih t' (by simp [ht'])) (n - t.size) (by omega)]
    rw [size] at h
    rw [cut, block, min_eq_left (by omega), List.take_of_length_le (by omega), hall _ (by omega)]

lemma cutAll_of_sizeAll_le (h : sizeAll ts ≤ n) : cutAll ts n = blockAll ts := by
  induction ts generalizing n with
  | nil => simp [cutAll, blockAll]
  | cons t ts ih =>
    rw [sizeAll] at h
    have hsix := t.six_le_size
    rw [cutAll, if_neg (by omega), if_neg (by omega), cut_of_size_le (by omega), blockAll,
      ih (by omega)]

/-! ### Parsing what is there -/

/-- The bytes begin like the encoding, as far as both go. -/
def Agrees (data : List UInt8) (t : InfoTree) : Prop :=
  data.take t.size = t.encode.take data.length

/-- The parser finds the tree in all bytes that begin like its encoding. -/
def Parses (t : InfoTree) : Prop :=
  ∀ data : List UInt8, 6 ≤ data.length → Agrees data t → ∃ parsed, parse data = .ok parsed ∧
    parsed.block = t.cut data.length ∧ parsed.bytesConsumed = min data.length t.size

lemma Agrees.header (h : Agrees data t) {i : ℕ} (hi : i + 1 < t.size)
    (hdata : i + 1 < data.length) : readBE16 data i = readBE16 t.encode i := by
  rw [← readBE16_take hi, h, readBE16_take hdata]

lemma Agrees.of_prefix {ts : List InfoTree}
    (h : data = (encodeAll (t :: ts)).take data.length) : Agrees data t := by
  have hleft : (encodeAll (t :: ts)).take t.size = t.encode :=
    List.take_left' (length_encode t)
  rw [Agrees]
  conv_lhs => rw [h]
  rw [List.take_take, min_comm, ← List.take_take, hleft]

lemma Agrees.take (h : Agrees data t) : Agrees (data.take (min data.length t.size)) t := by
  rw [Agrees, List.length_take, List.take_take, min_comm, ← List.take_take, h, List.take_take]

lemma effectiveLength_eq (h : readBE16 data 0 + 2 = t.size) :
    effectiveLength data = min data.length t.size := by
  unfold effectiveLength
  dsimp only
  split_ifs <;> omega

/-- Over a list of blocks each is parsed where it lies, up to the one that is cut. -/
lemma parseNestedBlocks_front (hparses : ∀ t ∈ ts, Parses t)
    (hheader : ∀ t ∈ ts, readBE16 t.encode 0 + 2 = t.size)
    (hshort : ∀ t ∈ ts, t.size < 2 ^ 16) (hdata : data = (encodeAll ts).take data.length) :
    (parseNestedBlocks data).blocks = cutAll ts data.length := by
  induction ts generalizing data with
  | nil =>
    have hnil : data = [] := by simpa [encodeAll] using hdata
    rw [parseNestedBlocks_short (by simp [hnil]), cutAll]
  | cons t ts ih =>
    by_cases hsix : data.length < 6
    · rw [parseNestedBlocks_short hsix, cutAll, if_pos hsix]
    · have hsize := t.six_le_size
      have hlt := hshort t (by simp)
      have hagrees := Agrees.of_prefix hdata
      have hclaimed : readBE16 data 0 + 2 = t.size := by
        rw [hagrees.header (by omega) (by omega), hheader t (by simp)]
      have heffective := effectiveLength_eq hclaimed
      obtain ⟨parsed, hparsed, -, hblocks⟩ :=
        parseNestedBlocks_block (show 6 ≤ data.length by omega) (by omega) (by omega)
      have hnext : nextBlock data = data.take (min data.length t.size) := by
        rw [nextBlock, heffective]
      have hlength : (nextBlock data).length = min data.length t.size := by
        rw [hnext, List.length_take]
        omega
      obtain ⟨parsed', hparsed', hblock, -⟩ :=
        hparses t (by simp) (nextBlock data) (by omega) (hnext ▸ hagrees.take)
      obtain rfl := Except.ok.inj (hparsed'.symm.trans hparsed)
      rw [hblocks, hblock, hlength, hclaimed, heffective, cutAll, if_neg hsix]
      by_cases hcut : data.length < t.size
      · rw [if_pos hcut, if_pos hcut, min_eq_left hcut.le]
      · have hrest : data.drop t.size = (encodeAll ts).take (data.drop t.size).length := by
          conv_lhs => rw [hdata]
          rw [List.drop_take, encodeAll, List.drop_left' (length_encode t), List.length_drop]
        rw [if_neg hcut, if_neg hcut, min_eq_right (by omega),
          ih (fun t' ht' => hparses t' (by simp [ht'])) (fun t' ht' => hheader t' (by simp [ht']))
            (fun t' ht' => hshort t' (by simp [ht'])) hrest,
          List.length_drop, cut_of_size_le le_rfl, cut_of_size_le (by omega)]

lemma parses_of_fits (h : t.Fits) : Parses t := by
  induction t using induct with
  | node type primary nested ih =>
    intro data hsix hagrees
    obtain ⟨htype, hlength, hall⟩ := id h
    obtain ⟨hcompound, htypeAt, hprimaryAt⟩ := encode_header h
    have hsize : (node type primary nested).size = 6 + primary.length + sizeAll nested := by
      rw [size]
    rw [← hagrees.header (by omega) (by omega)] at hcompound htypeAt hprimaryAt
    have heffective : effectiveLength data = min data.length (node type primary nested).size :=
      effectiveLength_eq (by omega)
    have hprimary : primaryLength data = min primary.length (data.length - 6) := by
      have hheader : 6 ≤ effectiveLength data := by omega
      unfold primaryLength
      dsimp only
      rw [if_pos hheader, hprimaryAt]
      split_ifs <;> omega
    have hslice (n m : ℕ) (hm : n + m ≤ min data.length (node type primary nested).size) :
        (data.drop n).take m = ((node type primary nested).encode.drop n).take m := by
      have hboth := congrArg (fun bytes => (bytes.take (n + m)).drop n) hagrees
      simp only [List.take_take, List.drop_take] at hboth
      rwa [min_eq_left (by omega), min_eq_left (by omega), Nat.add_sub_cancel_left] at hboth
    obtain ⟨parsed, hparsed, hconsumed, hblock⟩ := parse_ok hsix (by omega)
    refine ⟨parsed, hparsed, ?_, hconsumed.trans heffective⟩
    have hdata : (data.drop 6).take (primaryLength data) = primary.take (data.length - 6) := by
      rw [hslice _ _ (by omega), encode_drop _ _ _ 0, List.drop_zero, hprimary,
        List.take_append_of_le_length (by omega), List.take_eq_take_iff]
      omega
    have hnested : (parseNestedBlocks (nestedData data)).blocks =
        cutAll nested (data.length - 6 - primary.length) := by
      by_cases hwhole : data.length - 6 < primary.length
      · have hnone : nestedData data = [] := by
          simp only [nestedData, List.take_eq_nil_iff]
          omega
        rw [hnone, parseNestedBlocks_short (by simp), Nat.sub_eq_zero_of_le hwhole.le]
        cases nested with
        | nil => rw [cutAll]
        | cons t ts => rw [cutAll, if_pos (by omega)]
      · have hprimary' : primaryLength data = primary.length := by
          rw [hprimary, min_eq_left (by omega)]
        have hrest : nestedData data =
            (encodeAll nested).take (min data.length (node type primary nested).size -
              (6 + primary.length)) := by
          rw [nestedData, heffective, hprimary', hslice _ _ (by omega), encode_drop,
            List.drop_left]
        have hlengthRest : (nestedData data).length =
            min (data.length - 6 - primary.length) (sizeAll nested) := by
          rw [hrest, List.length_take, length_encodeAll]
          omega
        rw [parseNestedBlocks_front (fun t ht => ih t ht (fits_of_mem hall ht)) ?_ ?_ ?_,
          hlengthRest]
        · rcases le_total (sizeAll nested) (data.length - 6 - primary.length) with hle | hle
          · rw [min_eq_right hle, cutAll_of_sizeAll_le le_rfl, cutAll_of_sizeAll_le hle]
          · rw [min_eq_left hle]
        · rintro ⟨type, primary, nested⟩ ht
          rw [(encode_header (fits_of_mem hall ht)).1, size]
          omega
        · intro t ht
          have hle := size_le_sizeAll ht
          omega
        · rw [hlengthRest, hrest]
          congr 1
          omega
    rw [hblock, hcompound, htypeAt, hdata, hnested, hprimary, cut]

/-! ### Blocks before the cut -/

/-- The blocks of a list are found in what is left of it when they end before the cut, if that
holds in each block of the list. -/
lemma cutAll_nestedAt {path : List ℕ} {i offset : ℕ} {sub : InfoTree}
    (hcut : ∀ t ∈ ts, ∀ n offset, t.locate path = some (offset, sub) → offset + sub.size ≤ n →
      (t.cut n).nestedAt path = some sub.block)
    (hlocate : locateAll ts i path = some (offset, sub)) (hn : offset + sub.size ≤ n) :
    (cutAll ts n)[i]?.bind (·.nestedAt path) = some sub.block := by
  have hsix := sub.six_le_size
  induction ts generalizing i offset n with
  | nil => simp [locateAll] at hlocate
  | cons t ts ih =>
    rw [cutAll, if_neg (by omega)]
    cases i with
    | zero =>
      rw [locateAll] at hlocate
      exact hcut t (by simp) n offset hlocate hn
    | succ i =>
      rw [locateAll, Option.map_eq_some_iff] at hlocate
      obtain ⟨⟨rest, found⟩, hrest, heq⟩ := hlocate
      obtain ⟨rfl, rfl⟩ := Prod.mk.inj heq
      rw [if_neg (by omega), List.getElem?_cons_succ]
      exact ih (fun t' ht' => hcut t' (by simp [ht'])) hrest (by omega)

lemma cut_nestedAt {path : List ℕ} {offset : ℕ} {sub : InfoTree}
    (hlocate : t.locate path = some (offset, sub)) (hn : offset + sub.size ≤ n) :
    (t.cut n).nestedAt path = some sub.block := by
  induction t using induct generalizing path offset n with
  | node type primary nested ih =>
    cases path with
    | nil =>
      obtain ⟨rfl, rfl⟩ := Prod.mk.inj (Option.some.inj hlocate)
      rw [cut_of_size_le (by omega), nestedAt]
    | cons i path =>
      rw [locate, Option.map_eq_some_iff] at hlocate
      obtain ⟨⟨rest, found⟩, hrest, heq⟩ := hlocate
      obtain ⟨rfl, rfl⟩ := Prod.mk.inj heq
      rw [cut, nestedAt]
      exact cutAll_nestedAt (fun t ht n offset h hle => ih t ht h hle) hrest (by omega)

lemma encodeAll_locate {path : List ℕ} {i offset : ℕ} {sub : InfoTree}
    (hencode : ∀ t ∈ ts, ∀ offset, t.locate path = some (offset, sub) →
      (t.encode.drop offset).take sub.size = sub.encode)
    (hlocate : locateAll ts i path = some (offset, sub)) :
    ((encodeAll ts).drop offset).take sub.size = sub.encode := by
  induction ts generalizing i offset with
  | nil => simp [locateAll] at hlocate
  | cons t ts ih =>
    rw [encodeAll]
    cases i with
    | zero =>
      rw [locateAll] at hlocate
      have hhere := hencode t (by simp) offset hlocate
      have hinside := congrArg List.length hhere
      have hsix := sub.six_le_size
      rw [length_encode, List.length_take, List.length_drop] at hinside
      rw [List.drop_append_of_le_length (by omega), List.take_append_of_le_length, hhere]
      rw [List.length_drop]
      omega
    | succ i =>
      rw [locateAll, Option.map_eq_some_iff] at hlocate
      obtain ⟨⟨rest, found⟩, hrest, heq⟩ := hlocate
      obtain ⟨rfl, rfl⟩ := Prod.mk.inj heq
      rw [← List.drop_drop, List.drop_left' (length_encode t)]
      exact ih (fun t' ht' => hencode t' (by simp [ht'])) hrest

/-- A located block's encoding lies at its place. -/
lemma encode_locate {path : List ℕ} {offset : ℕ} {sub : InfoTree}
    (hlocate : t.locate path = some (offset, sub)) :
    (t.encode.drop offset).take sub.size = sub.encode := by
  induction t using induct generalizing path offset with
  | node type primary nested ih =>
    cases path with
    | nil =>
      obtain ⟨rfl, rfl⟩ := Prod.mk.inj (Option.some.inj hlocate)
      rw [List.drop_zero, ← length_encode, List.take_length]
    | cons i path =>
      rw [locate, Option.map_eq_some_iff] at hlocate
      obtain ⟨⟨rest, found⟩, hrest, heq⟩ := hlocate
      obtain ⟨rfl, rfl⟩ := Prod.mk.inj heq
      rw [Nat.add_assoc, encode_drop, ← List.drop_drop, List.drop_left]
      exact encodeAll_locate (fun t ht offset h => ih t ht h) hrest

/-! ### The format and any bytes -/

/-- Parsing the encoding, whatever follows it, gives the tree and consumes the encoding. -/
def Inverts (t : InfoTree) : Prop :=
  ∀ rest, ∃ parsed, parse (t.encode ++ rest) = .ok parsed ∧ parsed.block = t.block ∧
    parsed.bytesConsumed = t.encode.length

/-- Of a truncated encoding, every block whose bytes are wholly there is found in its place. -/
def Degrades (t : InfoTree) : Prop :=
  ∀ n, 6 ≤ n → n ≤ t.encode.length → ∃ parsed, parse (t.encode.take n) = .ok parsed ∧
    ∀ path offset sub, t.locate path = some (offset, sub) →
      (t.encode.drop offset).take sub.encode.length = sub.encode ∧
        (offset + sub.encode.length ≤ n → parsed.block.nestedAt path = some sub.block)

/-- Both parsers stay within the bytes, and so does every block they return. -/
def Graceful (bytes : List UInt8) : Prop :=
  (∀ parsed, parse bytes = .ok parsed → parsed.bytesConsumed ≤ bytes.length ∧
    Built (bytes.take parsed.bytesConsumed) parsed.block) ∧
  (parseNestedBlocks bytes).bytesConsumed ≤ bytes.length ∧
    BuiltAll bytes (parseNestedBlocks bytes).blocks

theorem parse_inverts (t : InfoTree) (hfits : t.Fits) (bytes : List UInt8) :
    t.Inverts ∧ t.Degrades ∧ Graceful bytes := by
  have hlength := t.length_encode
  have hsix := t.six_le_size
  refine ⟨?_, ?_, ?_⟩
  · intro rest
    have hagrees : Agrees (t.encode ++ rest) t := by
      rw [Agrees, List.take_left' hlength, List.take_of_length_le (by simp)]
    obtain ⟨parsed, hparsed, hblock, hconsumed⟩ :=
      parses_of_fits hfits (t.encode ++ rest) (by simp; omega) hagrees
    refine ⟨parsed, hparsed, ?_, ?_⟩
    · rw [hblock, cut_of_size_le (by simp; omega)]
    · rw [hconsumed, hlength, min_eq_right (by simp; omega)]
  · intro n hn hle
    have htaken : (t.encode.take n).length = n := List.length_take_of_le hle
    have hagrees : Agrees (t.encode.take n) t := by
      rw [Agrees, htaken, List.take_of_length_le (by omega)]
    obtain ⟨parsed, hparsed, hblock, -⟩ :=
      parses_of_fits hfits (t.encode.take n) (by omega) hagrees
    refine ⟨parsed, hparsed, ?_⟩
    intro path offset sub hlocate
    rw [length_encode sub, hblock, htaken]
    exact ⟨encode_locate hlocate, cut_nestedAt hlocate⟩
  · refine ⟨fun parsed hparsed => ⟨parsed.bounded, parse_built hparsed⟩, ?_, ?_⟩
    · exact (parseNestedBlocks bytes).bounded
    · exact parseNestedBlocks_built bytes

/-- A block with a nested block, and two bytes that are no block. -/
theorem parse_inverts_pair :
    (node 0x8100 [1, 2] [node 0x000A [3] []]).Inverts ∧
      (node 0x8100 [1, 2] [node 0x000A [3] []]).Degrades ∧ Graceful [0xFF, 0xFF] := by
  apply parse_inverts
  simp [Fits, FitsAll, sizeAll, size]

end InfoTree

end ASFireWire.AVC
