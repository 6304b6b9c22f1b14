import ASFireWire.DVCaptureSink

/-! Runs of the DV capture ring: what was received, what was stored and what the application reads,
for any interleaving of the two sides and any number of records. -/
namespace ASFireWire.DV

open Quadlets DVCaptureSink

/-! ### What a packet carries -/

def sourcesOf (packet : IsochReceivePacket) : List (List UInt8) :=
  match examine packet with
  | .reject _ _ => []
  | .accept _ sources => sources

def rejected (packet : IsochReceivePacket) : Bool :=
  match examine packet with
  | .reject _ _ => true
  | .accept _ _ => false

/-- Block counter and number of source packets of an accepted packet that is not empty. -/
def blocksOf (packet : IsochReceivePacket) : Option (ℕ × ℕ) :=
  match examine packet with
  | .reject _ _ => none
  | .accept dbc sources => if sources.length = 0 then none else some (dbc, sources.length)

/-- The plausible source packets of the packets, in order. -/
def plausibleSources (packets : List IsochReceivePacket) : List (List UInt8) :=
  (packets.flatMap sourcesOf).filter hasPlausibleDifIds

/-- The counter does not continue that of the packet before. -/
def Breaks (blocks : (ℕ × ℕ) × (ℕ × ℕ)) : Bool :=
  blocks.2.1 ≠ (blocks.1.1 + blocks.1.2) % 2 ^ 8

def discontinuities (blocks : List (ℕ × ℕ)) : ℕ := (blocks.zip blocks.tail).countP Breaks

/-- The source packets that were stored. -/
def stored (kept : List (List UInt8 × Bool)) : List (List UInt8) :=
  (kept.filter Prod.snd).map Prod.fst

/-- The source packets for which the ring had no room. -/
def overrun (kept : List (List UInt8 × Bool)) : List (List UInt8) :=
  (kept.filter fun source => !source.2).map Prod.fst

@[simp] lemma stored_append (kept more : List (List UInt8 × Bool)) :
    stored (kept ++ more) = stored kept ++ stored more := by
  simp [stored]

@[simp] lemma stored_kept (source : List UInt8) : stored [(source, true)] = [source] := rfl

@[simp] lemma stored_dropped (source : List UInt8) : stored [(source, false)] = [] := rfl

@[simp] lemma overrun_append (kept more : List (List UInt8 × Bool)) :
    overrun (kept ++ more) = overrun kept ++ overrun more := by
  simp [overrun]

@[simp] lemma overrun_kept (source : List UInt8) : overrun [(source, true)] = [] := rfl

@[simp] lemma overrun_dropped (source : List UInt8) : overrun [(source, false)] = [source] := rfl

lemma zip_tail_concat {α : Type*} (blocks : List α) {last : α} (h : blocks.getLast? = some last)
    (a : α) : (blocks ++ [a]).zip (blocks ++ [a]).tail = blocks.zip blocks.tail ++ [(last, a)] := by
  induction blocks with
  | nil => simp at h
  | cons b blocks ih =>
    cases blocks with
    | nil =>
      simp only [List.getLast?_singleton, Option.some.injEq] at h
      simp [h]
    | cons c blocks =>
      have hlast : (c :: blocks).getLast? = some last := by
        rw [← h, List.getLast?_cons_cons]
      have := ih hlast
      simp only [List.cons_append, List.tail_cons, List.zip_cons_cons] at this ⊢
      rw [this]

lemma discontinuities_concat (blocks : List (ℕ × ℕ)) {last : ℕ × ℕ}
    (h : blocks.getLast? = some last) (a : ℕ × ℕ) :
    discontinuities (blocks ++ [a]) =
      discontinuities blocks + if a.1 ≠ (last.1 + last.2) % 2 ^ 8 then 1 else 0 := by
  unfold discontinuities
  rw [zip_tail_concat blocks h, List.countP_append, List.countP_singleton]
  simp [Breaks]

/-- An accepted payload divides into source packets of full length. -/
lemma length_of_mem_sourcePackets {media : List UInt8} {sourceHeaderBytes : ℕ} {source : List UInt8}
    (h : source ∈ sourcePackets media (kRecordBytes + sourceHeaderBytes) sourceHeaderBytes) :
    source.length = kRecordBytes := by
  simp only [sourcePackets, List.mem_map, List.mem_range] at h
  obtain ⟨i, hi, rfl⟩ := h
  have hpos : 0 < kRecordBytes + sourceHeaderBytes := by simp [kRecordBytes]
  have hend : (i + 1) * (kRecordBytes + sourceHeaderBytes) ≤ media.length :=
    (Nat.le_div_iff_mul_le hpos).mp hi
  have hroom : i * (kRecordBytes + sourceHeaderBytes) + sourceHeaderBytes + kRecordBytes ≤
      media.length := by
    rw [Nat.succ_mul] at hend
    omega
  rw [List.length_take, List.length_drop]
  omega

lemma length_of_mem_sourcesOf {packet : IsochReceivePacket} {source : List UInt8}
    (h : source ∈ sourcesOf packet) : source.length = kRecordBytes := by
  unfold sourcesOf at h
  split at h
  · simp at h
  · rename_i dbc sources hexamine
    unfold examine at hexamine
    split at hexamine
    · cases hexamine
    · simp only at hexamine
      split at hexamine
      · cases hexamine
      · split_ifs at hexamine <;> cases hexamine <;> exact length_of_mem_sourcePackets h

namespace CaptureRing

variable {w : CaptureRing}

/-- The plausible source packets of the packet being consumed that still wait. -/
def waiting : WriterPc → List (List UInt8)
  | .idle => []
  | .sources left => left.filter hasPlausibleDifIds
  | .copying source _ _ left => source :: left.filter hasPlausibleDifIds

/-! ### Counting -/

/-- The discontinuities counted and the block counter expected next, for the packets with source
packets so far. -/
structure DbcAccounts (sink : DVCaptureSink) (blocks : List (ℕ × ℕ)) : Prop where
  breaks : sink.header.dbcDiscontinuities = discontinuities blocks % 2 ^ 32
  fresh : sink.dbcInitialized = false → blocks = []
  expected : sink.dbcInitialized = true → ∃ last, blocks.getLast? = some last ∧
    sink.expectedDbc = (last.1 + last.2) % 2 ^ 8

/-- What the counters say about the packets consumed so far. -/
structure Accounts (w : CaptureRing) : Prop where
  offered : w.kept.map Prod.fst ++ waiting w.writer = plausibleSources w.consumed
  overruns : w.sink.header.overruns = (overrun w.kept).length % 2 ^ 32
  seen : w.sink.header.packetsSeen = w.consumed.length % 2 ^ 32
  nonDv : w.sink.header.nonDvPackets = (w.consumed.filter rejected).length % 2 ^ 32
  dbc : DbcAccounts w.sink (w.consumed.filterMap blocksOf)

lemma next32_mod (n : ℕ) : next32 (n % 2 ^ 32) = (n + 1) % 2 ^ 32 := Nat.mod_add_mod n (2 ^ 32) 1

/-- Only the header's other counters differ. -/
lemma DbcAccounts.congr {sink sink' : DVCaptureSink} {blocks : List (ℕ × ℕ)}
    (h : DbcAccounts sink blocks)
    (hbreaks : sink'.header.dbcDiscontinuities = sink.header.dbcDiscontinuities)
    (hinit : sink'.dbcInitialized = sink.dbcInitialized)
    (hexpected : sink'.expectedDbc = sink.expectedDbc) : DbcAccounts sink' blocks :=
  ⟨hbreaks.trans h.breaks, fun hfresh => h.fresh (hinit.symm.trans hfresh), fun htrue => by
    rw [hexpected]
    exact h.expected (hinit.symm.trans htrue)⟩

lemma DbcAccounts.continueDbc {sink : DVCaptureSink} {blocks : List (ℕ × ℕ)}
    (h : DbcAccounts sink blocks) (dbc : ℕ) {n : ℕ} (hn : n ≠ 0) :
    DbcAccounts (sink.continueDbc dbc n) (blocks ++ [(dbc, n)]) := by
  have hsum : (dbc + n % 2 ^ 8) % 2 ^ 8 = (dbc + n) % 2 ^ 8 := Nat.add_mod_mod dbc n (2 ^ 8)
  have hlast : (blocks ++ [(dbc, n)]).getLast? = some (dbc, n) := List.getLast?_concat
  simp only [DVCaptureSink.continueDbc, if_neg hn, hsum]
  constructor
  · cases hinit : sink.dbcInitialized with
    | false =>
      simp only [Bool.false_eq_true, false_and, if_false]
      rw [h.breaks, h.fresh hinit]
      rfl
    | true =>
      obtain ⟨last, hbefore, heq⟩ := h.expected hinit
      rw [discontinuities_concat _ hbefore, heq]
      by_cases hbreak : dbc ≠ (last.1 + last.2) % 2 ^ 8
      · simp only [hbreak, ne_eq, not_false_eq_true, and_self, if_true]
        rw [h.breaks, next32_mod]
      · simp only [hbreak, and_false, if_false, Nat.add_zero]
        exact h.breaks
  · intro hfresh
    cases hfresh
  · intro _
    exact ⟨(dbc, n), hlast, rfl⟩

lemma Accounts.reject (h : Accounts w) (hidle : w.writer = .idle) {packet : IsochReceivePacket}
    {q0 q1 : ℕ} (hexamine : examine packet = .reject q0 q1) : Accounts (w.consume packet) := by
  have hblocks : blocksOf packet = none := by simp only [blocksOf, hexamine]
  have hsources : sourcesOf packet = [] := by simp only [sourcesOf, hexamine]
  have hrejected : rejected packet = true := by simp only [rejected, hexamine]
  have hoffered := h.offered
  simp only [waiting, hidle, List.append_nil] at hoffered
  simp only [consume, hidle, beginPacket, hexamine]
  exact {
    offered := by simpa [waiting, plausibleSources, hsources] using hoffered
    overruns := h.overruns
    seen := by
      simp only [DVCaptureSink.reject, h.seen, List.length_append, List.length_singleton]
      rw [next32_mod]
    nonDv := by
      simp only [DVCaptureSink.reject, h.nonDv, List.filter_append,
        List.filter_cons_of_pos hrejected, List.filter_nil, List.length_append,
        List.length_singleton]
      rw [next32_mod]
    dbc := by
      rw [List.filterMap_append, List.filterMap_cons_none hblocks, List.filterMap_nil,
        List.append_nil]
      exact h.dbc.congr rfl rfl rfl }

@[simp] lemma continueDbc_overruns (sink : DVCaptureSink) (dbc n : ℕ) :
    (sink.continueDbc dbc n).header.overruns = sink.header.overruns := by
  unfold DVCaptureSink.continueDbc
  split_ifs <;> rfl

@[simp] lemma continueDbc_packetsSeen (sink : DVCaptureSink) (dbc n : ℕ) :
    (sink.continueDbc dbc n).header.packetsSeen = sink.header.packetsSeen := by
  unfold DVCaptureSink.continueDbc
  split_ifs <;> rfl

@[simp] lemma continueDbc_nonDvPackets (sink : DVCaptureSink) (dbc n : ℕ) :
    (sink.continueDbc dbc n).header.nonDvPackets = sink.header.nonDvPackets := by
  unfold DVCaptureSink.continueDbc
  split_ifs <;> rfl

lemma Accounts.accept (h : Accounts w) (hidle : w.writer = .idle) {packet : IsochReceivePacket}
    {dbc : ℕ} {sources : List (List UInt8)} (hexamine : examine packet = .accept dbc sources) :
    Accounts (w.consume packet) := by
  have hsources : sourcesOf packet = sources := by simp only [sourcesOf, hexamine]
  have hrejected : rejected packet = false := by simp only [rejected, hexamine]
  have hoffered := h.offered
  simp only [waiting, hidle, List.append_nil] at hoffered
  simp only [consume, hidle, beginPacket, hexamine]
  exact {
    offered := by simp [waiting, plausibleSources, hsources, hoffered]
    overruns := by simpa only [continueDbc_overruns] using h.overruns
    seen := by
      simp only [continueDbc_packetsSeen, h.seen, List.length_append, List.length_singleton]
      rw [next32_mod]
    nonDv := by simpa [hrejected] using h.nonDv
    dbc := by
      have hdbc : DbcAccounts _ _ := h.dbc
      by_cases hempty : sources.length = 0
      · have hblocks : blocksOf packet = none := by simp only [blocksOf, hexamine, if_pos hempty]
        simp only [DVCaptureSink.continueDbc, if_pos hempty, List.filterMap_append,
          List.filterMap_cons_none hblocks, List.filterMap_nil, List.append_nil]
        exact hdbc.congr rfl rfl rfl
      · have hblocks : blocksOf packet = some (dbc, sources.length) := by
          simp only [blocksOf, hexamine, if_neg hempty]
        rw [List.filterMap_append, List.filterMap_cons_some hblocks, List.filterMap_nil]
        apply DbcAccounts.continueDbc _ dbc hempty
        exact hdbc.congr rfl rfl rfl }

lemma Accounts.consume (h : Accounts w) (packet : IsochReceivePacket) :
    Accounts (w.consume packet) := by
  cases hpc : w.writer with
  | idle =>
    cases hexamine : examine packet with
    | reject q0 q1 => exact h.reject hpc hexamine
    | accept dbc sources => exact h.accept hpc hexamine
  | sources left => simpa only [CaptureRing.consume, hpc] using h
  | copying source index copied left => simpa only [CaptureRing.consume, hpc] using h

lemma Accounts.write (h : Accounts w) : Accounts w.write := by
  have hoffered := h.offered
  cases hpc : w.writer with
  | idle => simpa only [CaptureRing.write, hpc] using h
  | sources left =>
    simp only [hpc, waiting] at hoffered
    cases left with
    | nil =>
      simp only [CaptureRing.write, hpc]
      exact ⟨by simpa [waiting] using hoffered, h.overruns, h.seen, h.nonDv, h.dbc⟩
    | cons dif left =>
      simp only [CaptureRing.write, hpc]
      split_ifs with hbad hfull
      · have hdif : hasPlausibleDifIds dif = false := by simpa using hbad
        exact ⟨by simpa [waiting, hdif] using hoffered, h.overruns, h.seen, h.nonDv,
          h.dbc.congr rfl rfl rfl⟩
      · have hdif : hasPlausibleDifIds dif = true := by simpa using hbad
        refine ⟨by simpa [waiting, hdif] using hoffered, ?_, h.seen, h.nonDv,
          h.dbc.congr rfl rfl rfl⟩
        simp only [h.overruns, overrun_append, overrun_dropped, List.length_append,
          List.length_singleton]
        rw [next32_mod]
      · have hdif : hasPlausibleDifIds dif = true := by simpa using hbad
        exact ⟨by simpa [waiting, hdif] using hoffered, h.overruns, h.seen, h.nonDv, h.dbc⟩
  | copying source index copied left =>
    simp only [hpc, waiting] at hoffered
    simp only [CaptureRing.write, hpc]
    split_ifs with hleft
    · exact ⟨by simpa [waiting] using hoffered, h.overruns, h.seen, h.nonDv,
        h.dbc.congr rfl rfl rfl⟩
    · exact ⟨by simpa [waiting] using hoffered, by simpa using h.overruns, h.seen, h.nonDv,
        h.dbc.congr rfl rfl rfl⟩

lemma Accounts.read (h : Accounts w) : Accounts w.read := by
  unfold CaptureRing.read
  split
  · dsimp only
    split_ifs
    · exact ⟨h.offered, h.overruns, h.seen, h.nonDv, h.dbc⟩
    · exact h
  · dsimp only
    split_ifs
    · exact ⟨h.offered, h.overruns, h.seen, h.nonDv, h.dbc⟩
    · exact ⟨h.offered, h.overruns, h.seen, h.nonDv, h.dbc.congr rfl rfl rfl⟩

/-- Counting needs no condition on the run. -/
lemma Accounts.step (h : Accounts w) (e : CaptureEvent) : Accounts (w.step e) := by
  cases e with
  | packet packet => exact h.consume packet
  | write => exact h.write
  | read => exact h.read

/-! ### The shared memory -/

/-- The slot of the `j`th record stored, by its 32-bit index. -/
def slotOf (w : CaptureRing) (j : ℕ) : ℕ := w.sink.slot (j % 2 ^ 32)

/-- The `j`th record stored is not yet read. -/
def Unread (w : CaptureRing) (j : ℕ) : Prop :=
  w.obtained.length ≤ j ∧ j < (stored w.kept).length

/-- The first `n` bytes of the slot are those of the record. -/
def Holds (w : CaptureRing) (slot n : ℕ) (record : List UInt8) : Prop :=
  ∀ i < n, w.sink.data (slot * kRecordBytes + i) = record.getD i 0

/-- No unread record lies in the slot that takes the next one. -/
def Apart (w : CaptureRing) : Prop :=
  ∀ j, w.Unread j → w.slotOf j ≠ w.slotOf (stored w.kept).length

def WriterAt (w : CaptureRing) : Prop :=
  match w.writer with
  | .idle => True
  | .sources left => ∀ source ∈ left, source.length = kRecordBytes
  | .copying source index copied left =>
    (∀ source ∈ left, source.length = kRecordBytes) ∧ source.length = kRecordBytes ∧
      index = (stored w.kept).length % 2 ^ 32 ∧
      (stored w.kept).length < w.obtained.length + w.sink.numRecords ∧ copied ≤ kRecordBytes ∧
      w.Apart ∧ w.Holds (w.slotOf (stored w.kept).length) copied source

def ReaderAt (w : CaptureRing) : Prop :=
  match w.reader with
  | .idle => True
  | .copying index copied =>
    index = w.obtained.length % 2 ^ 32 ∧ w.Unread w.obtained.length ∧
      copied = ((stored w.kept).getD w.obtained.length []).take copied.length ∧
      copied.length ≤ kRecordBytes

structure Layout (w : CaptureRing) : Prop where
  slots : 0 < w.sink.numRecords
  small : w.sink.numRecords < 2 ^ 32
  writeIndex : w.sink.header.writeIndex = (stored w.kept).length % 2 ^ 32
  readIndex : w.sink.header.readIndex = w.obtained.length % 2 ^ 32
  obtained : w.obtained <+: stored w.kept
  room : (stored w.kept).length ≤ w.obtained.length + w.sink.numRecords
  sized : ∀ record ∈ stored w.kept, record.length = kRecordBytes
  intact : ∀ j, w.Unread j → w.Holds (w.slotOf j) kRecordBytes ((stored w.kept).getD j [])
  writerAt : w.WriterAt
  readerAt : w.ReaderAt

lemma Layout.behind (h : Layout w) : w.obtained.length ≤ (stored w.kept).length :=
  h.obtained.length_le

/-- The difference of the 32-bit indices is the number of unread records. -/
lemma Layout.occupancy (h : Layout w) :
    w.sink.occupancy = (stored w.kept).length - w.obtained.length := by
  have hbehind := h.behind
  have hroom := h.room
  have hsmall := h.small
  unfold DVCaptureSink.occupancy
  rw [h.writeIndex, h.readIndex]
  omega

lemma Layout.readIndex_eq_iff (h : Layout w) :
    w.sink.header.readIndex = w.sink.header.writeIndex ↔
      w.obtained.length = (stored w.kept).length := by
  have hbehind := h.behind
  have hroom := h.room
  have hsmall := h.small
  rw [h.writeIndex, h.readIndex]
  omega

/-- The slots of the ring do not tell the index to write from an unread one across the wrap. -/
def Straddles (sink : DVCaptureSink) : Prop :=
  sink.header.writeIndex < 2 ^ 32 % sink.numRecords ∧
    2 ^ 32 % sink.numRecords ≤ sink.occupancy

instance (sink : DVCaptureSink) : Decidable (Straddles sink) := instDecidableAnd

theorem Layout.apart_iff (h : Layout w) (hroom : w.sink.occupancy < w.sink.numRecords) :
    w.Apart ↔ ¬ Straddles w.sink := by
  have hbehind := h.behind
  rw [h.occupancy] at hroom
  have hcollision := RingWindows.exists_wrapped_collision h.small hbehind (by omega)
  unfold Straddles
  rw [h.writeIndex, h.occupancy, ← hcollision]
  unfold Apart Unread slotOf DVCaptureSink.slot
  constructor
  · rintro hapart ⟨j, hj, hj', heq⟩
    exact hapart j ⟨hj, hj'⟩ heq
  · intro hnone j hj heq
    exact hnone ⟨j, hj.1, hj.2, heq⟩

/-- Bytes of different slots have different addresses. -/
lemma address_ne {slot slot' i i' : ℕ} (h : slot ≠ slot') (hi : i < kRecordBytes)
    (hi' : i' < kRecordBytes) : slot * kRecordBytes + i ≠ slot' * kRecordBytes + i' := by
  unfold kRecordBytes at *
  omega

lemma Holds.storeByte_other {slot n a : ℕ} {record : List UInt8} {value : UInt8}
    (h : w.Holds slot n record) (hne : ∀ i < n, slot * kRecordBytes + i ≠ a) {w' : CaptureRing}
    (hdata : w'.sink.data = Function.update w.sink.data a value) : w'.Holds slot n record := by
  intro i hi
  rw [hdata, Function.update_of_ne (hne i hi)]
  exact h i hi

lemma Holds.storeByte_next {slot n : ℕ} {record : List UInt8} (h : w.Holds slot n record)
    {w' : CaptureRing} (hdata : w'.sink.data =
      Function.update w.sink.data (slot * kRecordBytes + n) (record.getD n 0)) :
    w'.Holds slot (n + 1) record := by
  intro i hi
  rw [hdata]
  rcases Nat.lt_succ_iff_lt_or_eq.mp hi with hlt | rfl
  · rw [Function.update_of_ne (by omega)]
    exact h i hlt
  · rw [Function.update_self]

/-- A step of the driver that touches neither the indices nor the records. -/
lemma Layout.of_writer (h : Layout w) {w' : CaptureRing}
    (hnum : w'.sink.numRecords = w.sink.numRecords)
    (hwrite : w'.sink.header.writeIndex = w.sink.header.writeIndex)
    (hread : w'.sink.header.readIndex = w.sink.header.readIndex)
    (hdata : w'.sink.data = w.sink.data) (hstored : stored w'.kept = stored w.kept)
    (hobtained : w'.obtained = w.obtained) (hreader : w'.reader = w.reader)
    (hpc : w'.WriterAt) : Layout w' := by
  have hslot : w'.slotOf = w.slotOf := by
    funext j
    simp only [slotOf, DVCaptureSink.slot, hnum]
  have hunread : w'.Unread = w.Unread := by
    funext j
    simp only [Unread, hstored, hobtained]
  exact {
    slots := hnum ▸ h.slots
    small := hnum ▸ h.small
    writeIndex := by rw [hwrite, hstored, h.writeIndex]
    readIndex := by rw [hread, hobtained, h.readIndex]
    obtained := by rw [hobtained, hstored]; exact h.obtained
    room := by rw [hobtained, hstored, hnum]; exact h.room
    sized := by rw [hstored]; exact h.sized
    intact := by
      intro j hj i hi
      rw [hunread] at hj
      rw [hdata, hslot, hstored]
      exact h.intact j hj i hi
    writerAt := hpc
    readerAt := by
      have := h.readerAt
      unfold ReaderAt at this ⊢
      rw [hreader, hunread, hstored, hobtained]
      exact this }

lemma continueDbc_frame (sink : DVCaptureSink) (dbc n : ℕ) :
    (sink.continueDbc dbc n).data = sink.data ∧
      (sink.continueDbc dbc n).numRecords = sink.numRecords ∧
      (sink.continueDbc dbc n).header.writeIndex = sink.header.writeIndex ∧
      (sink.continueDbc dbc n).header.readIndex = sink.header.readIndex := by
  unfold DVCaptureSink.continueDbc
  split_ifs <;> exact ⟨rfl, rfl, rfl, rfl⟩

/-- `ConsumePacket` touches no record before its loop, which runs over the packet's sources. -/
lemma beginPacket_frame (sink : DVCaptureSink) (packet : IsochReceivePacket) :
    (sink.beginPacket packet).1.data = sink.data ∧
      (sink.beginPacket packet).1.numRecords = sink.numRecords ∧
      (sink.beginPacket packet).1.header.writeIndex = sink.header.writeIndex ∧
      (sink.beginPacket packet).1.header.readIndex = sink.header.readIndex ∧
      (sink.beginPacket packet).2 = sourcesOf packet := by
  unfold DVCaptureSink.beginPacket sourcesOf
  cases examine packet with
  | reject q0 q1 => exact ⟨rfl, rfl, rfl, rfl, rfl⟩
  | accept dbc sources =>
    obtain ⟨hdata, hnum, hwrite, hread⟩ := continueDbc_frame { sink with header := { sink.header with
      packetsSeen := next32 sink.header.packetsSeen
      lastXferStatus := packet.transferStatus } } dbc sources.length
    exact ⟨hdata, hnum, hwrite, hread, rfl⟩

lemma Layout.consume (h : Layout w) (packet : IsochReceivePacket) : Layout (w.consume packet) := by
  obtain ⟨hdata, hnum, hwrite, hread, hsources⟩ := beginPacket_frame w.sink packet
  cases hpc : w.writer with
  | idle =>
    simp only [CaptureRing.consume, hpc]
    refine h.of_writer hnum hwrite hread hdata rfl rfl rfl ?_
    simp only [WriterAt, hsources]
    exact fun source hsource => length_of_mem_sourcesOf hsource
  | sources left => simpa only [CaptureRing.consume, hpc] using h
  | copying source index copied left => simpa only [CaptureRing.consume, hpc] using h

/-- Where the driver begins to write a record, its slot and the unread ones do not meet across
the wrap of the index. -/
def Allowed (w : CaptureRing) : CaptureEvent → Prop
  | .write =>
    match w.writer with
    | .sources (dif :: _) =>
      hasPlausibleDifIds dif = true → w.sink.occupancy < w.sink.numRecords → ¬ Straddles w.sink
    | _ => True
  | _ => True

lemma Layout.writeSources (h : Layout w) {left : List (List UInt8)} (hpc : w.writer = .sources left)
    (hallowed : w.Allowed .write) : Layout w.write := by
  have hat := h.writerAt
  simp only [WriterAt, hpc] at hat
  cases left with
  | nil =>
    simp only [CaptureRing.write, hpc]
    exact h.of_writer rfl rfl rfl rfl rfl rfl rfl trivial
  | cons dif left =>
    have hleft : ∀ source ∈ left, source.length = kRecordBytes :=
      fun source hsource => hat source (List.mem_cons_of_mem dif hsource)
    simp only [CaptureRing.write, hpc]
    split_ifs with hbad hfull
    · exact h.of_writer rfl rfl rfl rfl rfl rfl rfl hleft
    · exact h.of_writer rfl rfl rfl rfl (by simp) rfl rfl hleft
    · have hdif : hasPlausibleDifIds dif = true := by simpa using hbad
      have hroom : w.sink.occupancy < w.sink.numRecords := by omega
      simp only [Allowed, hpc] at hallowed
      have hapart := (h.apart_iff hroom).mpr (hallowed hdif hroom)
      have hbehind := h.behind
      rw [h.occupancy] at hroom
      have hspace : (stored w.kept).length < w.obtained.length + w.sink.numRecords := by omega
      refine h.of_writer rfl rfl rfl rfl rfl rfl rfl ?_
      exact ⟨hleft, hat dif List.mem_cons_self, h.writeIndex, hspace, Nat.zero_le _, hapart,
        fun i hi => absurd hi (Nat.not_lt_zero i)⟩

lemma Layout.writeByte (h : Layout w) {source : List UInt8} {index copied : ℕ}
    {left : List (List UInt8)} (hpc : w.writer = .copying source index copied left)
    (hcopied : copied < kRecordBytes) : Layout w.write := by
  have hat := h.writerAt
  simp only [WriterAt, hpc] at hat
  obtain ⟨hleft, hsource, hindex, hroom, -, hapart, hholds⟩ := hat
  simp only [CaptureRing.write, hpc, if_pos hcopied]
  have hslot : w.sink.slot index = w.slotOf (stored w.kept).length := by rw [hindex, slotOf]
  exact {
    slots := h.slots
    small := h.small
    writeIndex := h.writeIndex
    readIndex := h.readIndex
    obtained := h.obtained
    room := h.room
    sized := h.sized
    intact := by
      intro j hj
      have hother := h.intact j hj
      apply hother.storeByte_other (a := w.sink.slot index * kRecordBytes + copied) _ rfl
      intro i hi
      rw [hslot]
      exact address_ne (hapart j hj) hi hcopied
    writerAt := by
      refine ⟨hleft, hsource, hindex, hroom, hcopied, hapart, ?_⟩
      apply hholds.storeByte_next
      simp only [DVCaptureSink.storeByte, hslot]
    readerAt := h.readerAt }

lemma Layout.publish (h : Layout w) {source : List UInt8} {index copied : ℕ}
    {left : List (List UInt8)} (hpc : w.writer = .copying source index copied left)
    (hcopied : ¬ copied < kRecordBytes) : Layout w.write := by
  have hat := h.writerAt
  simp only [WriterAt, hpc] at hat
  obtain ⟨hleft, hsource, hindex, hroom, hle, hapart, hholds⟩ := hat
  have hwhole : copied = kRecordBytes := by omega
  subst hwhole
  simp only [CaptureRing.write, hpc, if_neg hcopied]
  have hstored : stored (w.kept ++ [(source, true)]) = stored w.kept ++ [source] := by simp
  exact {
    slots := h.slots
    small := h.small
    writeIndex := by
      rw [hstored, List.length_append, List.length_singleton, hindex]
      exact next32_mod _
    readIndex := h.readIndex
    obtained := by
      rw [hstored]
      exact h.obtained.trans (List.prefix_append _ _)
    room := by
      rw [hstored, List.length_append, List.length_singleton]
      exact hroom
    sized := by
      rw [hstored]
      intro record hrecord
      rcases List.mem_append.mp hrecord with hold | hnew
      · exact h.sized record hold
      · rw [List.mem_singleton.mp hnew, hsource]
    intact := by
      rintro j ⟨hj, hj'⟩
      dsimp only at hj hj' ⊢
      rw [hstored, List.length_append, List.length_singleton] at hj'
      rw [hstored]
      rcases Nat.lt_succ_iff_lt_or_eq.mp hj' with hlt | rfl
      · rw [List.getD_append _ _ _ _ hlt]
        exact h.intact j ⟨hj, hlt⟩
      · rw [List.getD_append_right _ _ _ _ le_rfl, Nat.sub_self]
        exact hholds
    writerAt := hleft
    readerAt := by
      have hreader := h.readerAt
      unfold ReaderAt at hreader ⊢
      dsimp only
      split
      · trivial
      · rename_i read got heq
        simp only [heq] at hreader
        obtain ⟨hread, hunread, hgot, hlen⟩ := hreader
        have hlt := hunread.2
        refine ⟨hread, ⟨le_rfl, ?_⟩, ?_, hlen⟩
        · dsimp only
          rw [hstored, List.length_append]
          omega
        · rw [hstored, List.getD_append _ _ _ _ hlt]
          exact hgot }

lemma Layout.write (h : Layout w) (hallowed : w.Allowed .write) : Layout w.write := by
  cases hpc : w.writer with
  | idle => simpa only [CaptureRing.write, hpc] using h
  | sources left => exact h.writeSources hpc hallowed
  | copying source index copied left =>
    by_cases hcopied : copied < kRecordBytes
    · exact h.writeByte hpc hcopied
    · exact h.publish hpc hcopied

/-- A step of the application that touches neither the indices nor the records. -/
lemma Layout.of_reader (h : Layout w) {pc : ReaderPc} (hpc : { w with reader := pc }.ReaderAt) :
    Layout { w with reader := pc } :=
  ⟨h.slots, h.small, h.writeIndex, h.readIndex, h.obtained, h.room, h.sized, h.intact,
    h.writerAt, hpc⟩

lemma Layout.readByte (h : Layout w) {index : ℕ} {copied : List UInt8}
    (hpc : w.reader = .copying index copied) (hcopied : copied.length < kRecordBytes) :
    Layout w.read := by
  have hat := h.readerAt
  simp only [ReaderAt, hpc] at hat
  obtain ⟨hindex, hunread, hgot, hlen⟩ := hat
  simp only [CaptureRing.read, hpc, if_pos hcopied]
  apply h.of_reader
  refine ⟨hindex, hunread, ?_, ?_⟩
  · have hslot : w.sink.slot index = w.slotOf w.obtained.length := by rw [hindex, slotOf]
    have hbyte := h.intact _ hunread copied.length hcopied
    set record := (stored w.kept).getD w.obtained.length [] with hrecord
    have hsize : record.length = kRecordBytes := by
      apply h.sized
      rw [hrecord, List.getD_eq_getElem _ _ hunread.2]
      exact List.getElem_mem _
    rw [hslot, hbyte, List.length_append, List.length_singleton, List.take_add_one,
      List.getD_eq_getElem _ _ (by omega), List.getElem?_eq_getElem (by omega), ← hgot]
    rfl
  · rw [List.length_append, List.length_singleton]
    exact hcopied

lemma Layout.finish (h : Layout w) {index : ℕ} {copied : List UInt8}
    (hpc : w.reader = .copying index copied) (hcopied : ¬ copied.length < kRecordBytes) :
    Layout w.read := by
  have hat := h.readerAt
  simp only [ReaderAt, hpc] at hat
  obtain ⟨hindex, hunread, hgot, hlen⟩ := hat
  have hlt := hunread.2
  have hrecord : copied = (stored w.kept)[w.obtained.length] := by
    have hsize : (stored w.kept)[w.obtained.length].length = kRecordBytes :=
      h.sized _ (List.getElem_mem _)
    rw [List.getD_eq_getElem _ _ hlt] at hgot
    rw [hgot]
    exact List.take_of_length_le (by omega)
  have hroom : (stored w.kept).length ≤ w.obtained.length + 1 + w.sink.numRecords := by
    have := h.room
    omega
  simp only [CaptureRing.read, hpc, if_neg hcopied]
  exact {
    slots := h.slots
    small := h.small
    writeIndex := h.writeIndex
    readIndex := by
      rw [List.length_append, List.length_singleton, hindex]
      exact next32_mod _
    obtained := by
      have hprefix := h.obtained
      rw [List.prefix_iff_eq_take] at hprefix ⊢
      rw [List.length_append, List.length_singleton, List.take_add_one,
        List.getElem?_eq_getElem hlt, ← hprefix, hrecord]
      rfl
    room := by
      rw [List.length_append, List.length_singleton]
      exact hroom
    sized := h.sized
    intact := by
      rintro j ⟨hj, hj'⟩
      rw [List.length_append, List.length_singleton] at hj
      exact h.intact j ⟨by omega, hj'⟩
    writerAt := by
      have hwriter := h.writerAt
      unfold WriterAt at hwriter ⊢
      dsimp only
      split
      · trivial
      · rename_i left heq
        simpa only [heq] using hwriter
      · rename_i source write n left heq
        simp only [heq] at hwriter
        obtain ⟨hleft, hsource, hwrite, hspace, hn, hapart, hholds⟩ := hwriter
        refine ⟨hleft, hsource, hwrite, ?_, hn, ?_, hholds⟩
        · rw [List.length_append, List.length_singleton]
          exact hspace.trans_le (by omega)
        · rintro j ⟨hj, hj'⟩
          rw [List.length_append, List.length_singleton] at hj
          exact hapart j ⟨by omega, hj'⟩
    readerAt := trivial }

lemma Layout.read (h : Layout w) : Layout w.read := by
  cases hpc : w.reader with
  | idle =>
    simp only [CaptureRing.read, hpc]
    split_ifs with hdiffer
    · apply h.of_reader
      have hne := mt h.readIndex_eq_iff.mpr hdiffer
      have hbehind := h.behind
      have hlt : w.obtained.length < (stored w.kept).length := by omega
      exact ⟨h.readIndex, ⟨le_rfl, hlt⟩, rfl, Nat.zero_le _⟩
    · exact h
  | copying index copied =>
    by_cases hcopied : copied.length < kRecordBytes
    · exact h.readByte hpc hcopied
    · exact h.finish hpc hcopied

lemma Layout.step (h : Layout w) {e : CaptureEvent} (hallowed : w.Allowed e) : Layout (w.step e) := by
  cases e with
  | packet packet => exact h.consume packet
  | write => exact h.write hallowed
  | read => exact h.read

/-! ### Delivery -/

/-- What the ring has done is right so far: the application has read, in order, a first part of the
plausible source packets without the ones counted as overruns, all of them when the indices agree;
every unread record is whole and lies apart from the slot being written; the counters and the block
counter expectation are those of the packets seen, and a rejected packet changes no record. -/
structure Delivers (w : CaptureRing) : Prop where
  offered : w.kept.map Prod.fst ++ waiting w.writer = plausibleSources w.consumed
  overruns : w.sink.header.overruns = (overrun w.kept).length % 2 ^ 32
  inOrder : w.obtained <+: stored w.kept
  caughtUp : w.sink.header.readIndex = w.sink.header.writeIndex → w.obtained = stored w.kept
  sized : ∀ record ∈ w.obtained, record.length = kRecordBytes
  intact : ∀ j, w.Unread j → w.Holds (w.slotOf j) kRecordBytes ((stored w.kept).getD j [])
  apart : ∀ source index copied left, w.writer = .copying source index copied left →
    ∀ j, w.Unread j → w.slotOf j ≠ w.sink.slot index
  seen : w.sink.header.packetsSeen = w.consumed.length % 2 ^ 32
  nonDv : w.sink.header.nonDvPackets = (w.consumed.filter rejected).length % 2 ^ 32
  dbc : DbcAccounts w.sink (w.consumed.filterMap blocksOf)
  rejects : ∀ packet, rejected packet = true →
    (w.sink.beginPacket packet).2 = [] ∧ (w.sink.beginPacket packet).1.data = w.sink.data ∧
      (w.sink.beginPacket packet).1.header.writeIndex = w.sink.header.writeIndex ∧
      (w.sink.beginPacket packet).1.expectedDbc = w.sink.expectedDbc ∧
      (w.sink.beginPacket packet).1.dbcInitialized = w.sink.dbcInitialized

lemma beginPacket_rejected (sink : DVCaptureSink) {packet : IsochReceivePacket}
    (h : rejected packet = true) :
    (sink.beginPacket packet).2 = [] ∧ (sink.beginPacket packet).1.data = sink.data ∧
      (sink.beginPacket packet).1.header.writeIndex = sink.header.writeIndex ∧
      (sink.beginPacket packet).1.expectedDbc = sink.expectedDbc ∧
      (sink.beginPacket packet).1.dbcInitialized = sink.dbcInitialized := by
  unfold DVCaptureSink.beginPacket
  cases hexamine : examine packet with
  | reject q0 q1 => exact ⟨rfl, rfl, rfl, rfl, rfl⟩
  | accept dbc sources => simp [rejected, hexamine] at h

lemma Delivers.of (hl : Layout w) (ha : Accounts w) : Delivers w where
  offered := ha.offered
  overruns := ha.overruns
  inOrder := hl.obtained
  caughtUp heq := hl.obtained.eq_of_length (hl.readIndex_eq_iff.mp heq)
  sized record hrecord := hl.sized record (hl.obtained.subset hrecord)
  intact := hl.intact
  apart := by
    intro source index copied left hpc
    have hat := hl.writerAt
    simp only [WriterAt, hpc] at hat
    obtain ⟨-, -, hindex, -, -, hapart, -⟩ := hat
    rw [hindex]
    exact hapart
  seen := ha.seen
  nonDv := ha.nonDv
  dbc := ha.dbc
  rejects _ hpacket := beginPacket_rejected w.sink hpacket

/-- Beginning a record where the condition fails puts it on an unread one. -/
lemma Layout.allowed_of_delivers (h : Layout w) {e : CaptureEvent} (hnext : Delivers (w.step e)) :
    w.Allowed e := by
  cases e with
  | packet packet => trivial
  | read => trivial
  | write =>
    unfold Allowed
    dsimp only
    split
    · rename_i dif left hpc
      intro hdif hroom
      have hnot : ¬ w.sink.occupancy ≥ w.sink.numRecords := by omega
      simp only [CaptureRing.step, CaptureRing.write, hpc, hdif, Bool.not_true, Bool.false_eq_true,
        if_false, if_neg hnot] at hnext
      have hapart := hnext.apart dif w.sink.header.writeIndex 0 left rfl
      apply (h.apart_iff hroom).mp
      intro j hj
      rw [slotOf, slotOf, ← h.writeIndex]
      exact hapart j hj
    · trivial

lemma delivers_iff_of_layout (hl : Layout w) (ha : Accounts w) (events : List CaptureEvent) :
    (∀ k, Delivers (Runs.run step w (events.take k))) ↔ Runs.Meets step Allowed w events := by
  induction events generalizing w with
  | nil =>
    have hnow := Delivers.of hl ha
    exact iff_of_true (fun k => by simpa using hnow) trivial
  | cons e events ih =>
    constructor
    · intro hall
      have hallowed := hl.allowed_of_delivers (hall 1)
      refine ⟨hallowed, (ih (hl.step hallowed) (ha.step e)).mp fun k => ?_⟩
      exact hall (k + 1)
    · rintro ⟨hallowed, hrest⟩ k
      cases k with
      | zero => exact Delivers.of hl ha
      | succ k => exact (ih (hl.step hallowed) (ha.step e)).mpr hrest k

lemma layout_attached {bytes : ℕ} {numRecords : UInt32} {sink : DVCaptureSink}
    (h : initializeAndAttach bytes numRecords = some sink) : Layout (attached sink) := by
  unfold initializeAndAttach at h
  split_ifs at h with hbad
  obtain ⟨rfl⟩ := h
  rw [not_or] at hbad
  have hpos : 0 < numRecords.toNat := by
    apply Nat.pos_of_ne_zero
    intro hzero
    exact hbad.1 (UInt32.toNat_inj.mp hzero)
  exact {
    slots := hpos
    small := numRecords.toNat_lt
    writeIndex := rfl
    readIndex := rfl
    obtained := List.prefix_rfl
    room := Nat.zero_le _
    sized := fun record hrecord => by cases hrecord
    intact := fun j hj => absurd hj.2 (Nat.not_lt_zero j)
    writerAt := trivial
    readerAt := trivial }

lemma accounts_attached {bytes : ℕ} {numRecords : UInt32} {sink : DVCaptureSink}
    (h : initializeAndAttach bytes numRecords = some sink) : Accounts (attached sink) := by
  unfold initializeAndAttach at h
  split_ifs at h
  obtain ⟨rfl⟩ := h
  exact ⟨rfl, rfl, rfl, rfl, ⟨rfl, fun _ => rfl, fun hinit => by cases hinit⟩⟩

/-- In every run from a fresh ring, whatever its size and however the two sides interleave, every
state delivers exactly if no record is begun where its slot and the unread ones meet across the
wrap of the 32-bit index. -/
theorem delivers_run_iff {bytes : ℕ} {numRecords : UInt32} {sink : DVCaptureSink}
    (h : initializeAndAttach bytes numRecords = some sink) (events : List CaptureEvent) :
    (∀ k, Delivers (Runs.run step (attached sink) (events.take k))) ↔
      Runs.Meets step Allowed (attached sink) events :=
  delivers_iff_of_layout (layout_attached h) (accounts_attached h) events

/-- A ring whose size divides `2 ^ 32` never meets itself across the wrap. -/
lemma meets_of_dvd (hdvd : w.sink.numRecords ∣ 2 ^ 32) (events : List CaptureEvent)
    (hl : Layout w) : Runs.Meets step Allowed w events := by
  induction events generalizing w with
  | nil => trivial
  | cons e events ih =>
    have hallowed : w.Allowed e := by
      unfold Allowed
      split
      · split
        · intro _ _ hstraddles
          have hzero := Nat.mod_eq_zero_of_dvd hdvd
          unfold Straddles at hstraddles
          omega
        · trivial
      · trivial
    have hnum : (w.step e).sink.numRecords = w.sink.numRecords := by
      cases e with
      | packet packet =>
        simp only [step, CaptureRing.consume]
        split
        · exact (beginPacket_frame w.sink packet).2.1
        · rfl
      | write =>
        simp only [step, CaptureRing.write]
        split
        · rfl
        · rfl
        · split_ifs <;> rfl
        · split_ifs <;> rfl
      | read =>
        simp only [step, CaptureRing.read]
        split
        · split_ifs <;> rfl
        · split_ifs <;> rfl
    refine ⟨hallowed, ih ?_ (hl.step hallowed)⟩
    rw [hnum]
    exact hdvd

theorem delivers_run_of_dvd {bytes : ℕ} {numRecords : UInt32} {sink : DVCaptureSink}
    (h : initializeAndAttach bytes numRecords = some sink) (hdvd : sink.numRecords ∣ 2 ^ 32)
    (events : List CaptureEvent) :
    ∀ k, Delivers (Runs.run step (attached sink) (events.take k)) :=
  (delivers_iff_of_layout (layout_attached h) (accounts_attached h) events).mpr
    (meets_of_dvd hdvd events (layout_attached h))

/-! ### A ring of three records at the wrap -/

/-- A source packet with plausible DIF identifiers. -/
def blankSource : List UInt8 := List.replicate kRecordBytes 0

/-- A DV packet with the source packets. -/
def dvPacket (sources : List (List UInt8)) : IsochReceivePacket :=
  ⟨kAckComplete, List.replicate 8 0 ++ [0, 120, 0, 0, 0x80, 0, 0, 0] ++ sources.flatten⟩

def freshSink (numRecords : ℕ) : DVCaptureSink := ⟨{}, fun _ => 0, numRecords, 0, false⟩

/-- The driver's accesses for one record, and the application's. -/
def storing : List CaptureEvent := .write :: List.replicate kRecordBytes .write ++ [.write]

def fetching : List CaptureEvent := .read :: List.replicate kRecordBytes .read ++ [.read]

theorem delivers_run_first :
    Delivers (Runs.run step (attached (freshSink 4))
      ((.packet (dvPacket [blankSource]) :: storing ++ fetching).take 1000)) := by
  have hattached : initializeAndAttach (headerBytes + 4 * kRecordBytes) 4 = some (freshSink 4) :=
    rfl
  exact (delivers_run_iff hattached _).mpr
    (meets_of_dvd ⟨2 ^ 30, rfl⟩ _ (layout_attached hattached)) 1000

lemma run_copying (n : ℕ) {source : List UInt8} {index copied : ℕ} {left : List (List UInt8)}
    (hpc : w.writer = .copying source index copied left) (hn : copied + n ≤ kRecordBytes) :
    ∃ data, Runs.run step w (List.replicate n .write) =
      { w with sink := { w.sink with data := data }
               writer := .copying source index (copied + n) left } := by
  induction n generalizing w copied with
  | zero => exact ⟨w.sink.data, by rw [Nat.add_zero, ← hpc]; rfl⟩
  | succ n ih =>
    have hcopied : copied < kRecordBytes := by omega
    rw [List.replicate_succ, Runs.run_cons]
    simp only [step, CaptureRing.write, hpc, if_pos hcopied]
    obtain ⟨data, hdata⟩ := ih (w := { w with
      sink := w.sink.storeByte (w.sink.slot index * kRecordBytes + copied) (source.getD copied 0)
      writer := .copying source index (copied + 1) left }) rfl (by omega)
    refine ⟨data, hdata.trans ?_⟩
    rw [show copied + 1 + n = copied + (n + 1) by omega]
    rfl

lemma run_storing {dif : List UInt8} {left : List (List UInt8)}
    (hpc : w.writer = .sources (dif :: left)) (hdif : hasPlausibleDifIds dif = true)
    (hroom : w.sink.occupancy < w.sink.numRecords) :
    ∃ data, Runs.run step w storing =
      { w with sink := { w.sink with
                 data := data
                 header := { w.sink.header with
                   writeIndex := next32 w.sink.header.writeIndex
                   dvSourcePackets := next32 w.sink.header.dvSourcePackets } }
               writer := .sources left
               kept := w.kept ++ [(dif, true)] } := by
  have hnot : ¬ w.sink.occupancy ≥ w.sink.numRecords := by omega
  have hbegin : w.step .write =
      { w with writer := .copying dif w.sink.header.writeIndex 0 left } := by
    simp only [step, CaptureRing.write, hpc, hdif, Bool.not_true, Bool.false_eq_true, if_false,
      if_neg hnot]
  obtain ⟨data, hdata⟩ := run_copying kRecordBytes (w := { w with
    writer := .copying dif w.sink.header.writeIndex 0 left }) rfl (by omega)
  refine ⟨data, ?_⟩
  rw [storing, List.cons_append, Runs.run_cons, Runs.run_append, hbegin, hdata]
  simp only [Runs.run_cons, Runs.run_nil, step, CaptureRing.write, Nat.zero_add, Nat.lt_irrefl,
    if_false]

lemma run_fetched (n : ℕ) {index : ℕ} {copied : List UInt8}
    (hpc : w.reader = .copying index copied) (hn : copied.length + n ≤ kRecordBytes) :
    ∃ got : List UInt8, got.length = copied.length + n ∧
      Runs.run step w (List.replicate n .read) = { w with reader := .copying index got } := by
  induction n generalizing w copied with
  | zero => exact ⟨copied, rfl, by rw [← hpc]; rfl⟩
  | succ n ih =>
    have hcopied : copied.length < kRecordBytes := by omega
    rw [List.replicate_succ, Runs.run_cons]
    simp only [step, CaptureRing.read, hpc, if_pos hcopied]
    set byte := w.sink.data (w.sink.slot index * kRecordBytes + copied.length)
    have hlen : (copied ++ [byte]).length = copied.length + 1 := by simp
    obtain ⟨got, hgot, hrun⟩ := ih (w := { w with reader := .copying index (copied ++ [byte]) }) rfl
      (by omega)
    exact ⟨got, by omega, hrun⟩

lemma run_fetching (hpc : w.reader = .idle)
    (hdiffer : w.sink.header.readIndex ≠ w.sink.header.writeIndex) :
    ∃ got, Runs.run step w fetching =
      { w with sink := { w.sink with header := { w.sink.header with
                 readIndex := next32 w.sink.header.readIndex } }
               reader := .idle
               obtained := w.obtained ++ [got] } := by
  have hbegin : w.step .read = { w with reader := .copying w.sink.header.readIndex [] } := by
    simp only [step, CaptureRing.read, hpc, if_pos hdiffer]
  obtain ⟨got, hgot, hrun⟩ := run_fetched kRecordBytes (w := { w with
    reader := .copying w.sink.header.readIndex [] }) rfl (by simp)
  have hfull : ¬ got.length < kRecordBytes := by simp [hgot]
  refine ⟨got, ?_⟩
  rw [fetching, List.cons_append, Runs.run_cons, Runs.run_append, hbegin, hrun]
  simp only [Runs.run_cons, Runs.run_nil, step, CaptureRing.read, if_neg hfull]

/-- A ring of three records at rest after `k` records stored and read. -/
structure Quiet (w : CaptureRing) (k : ℕ) : Prop where
  writer : w.writer = .idle
  reader : w.reader = .idle
  slots : w.sink.numRecords = 3
  writeIndex : w.sink.header.writeIndex = k % 2 ^ 32
  readIndex : w.sink.header.readIndex = k % 2 ^ 32
  stored : (stored w.kept).length = k
  obtained : w.obtained.length = k

def oneRecord : List CaptureEvent :=
  .packet (dvPacket [blankSource]) :: storing ++ .write :: fetching

/-- Receives and reads a record `n` times; then two more are received. -/
def recordsThenTwo (n : ℕ) : List CaptureEvent :=
  (List.replicate n oneRecord).flatten ++
    (.packet (dvPacket [blankSource, blankSource]) :: storing ++ [.write])

lemma sourcesOf_one : sourcesOf (dvPacket [blankSource]) = [blankSource] := by decide +kernel

lemma sourcesOf_two :
    sourcesOf (dvPacket [blankSource, blankSource]) = [blankSource, blankSource] := by
  decide +kernel

lemma plausible_blankSource : hasPlausibleDifIds blankSource = true := by decide +kernel

/-- The first record of a packet, stored in a ring at rest. -/
lemma Quiet.store {k : ℕ} (h : Quiet w k) {packet : IsochReceivePacket}
    {left : List (List UInt8)} (hsources : sourcesOf packet = blankSource :: left) :
    let after := Runs.run step w (.packet packet :: storing)
    after.writer = .sources left ∧ after.reader = .idle ∧ after.sink.numRecords = 3 ∧
      after.sink.header.writeIndex = (k + 1) % 2 ^ 32 ∧
      after.sink.header.readIndex = k % 2 ^ 32 ∧ (DV.stored after.kept).length = k + 1 ∧
      after.obtained.length = k := by
  obtain ⟨-, hnum, hwrite, hread, hleft⟩ := beginPacket_frame w.sink packet
  have hpacket : w.step (.packet packet) =
      { w with sink := (w.sink.beginPacket packet).1, writer := .sources (blankSource :: left)
               consumed := w.consumed ++ [packet] } := by
    simp only [step, CaptureRing.consume, h.writer, hleft, hsources]
  have hempty : (w.sink.beginPacket packet).1.occupancy <
      (w.sink.beginPacket packet).1.numRecords := by
    have hzero : (w.sink.beginPacket packet).1.occupancy = 0 := by
      unfold DVCaptureSink.occupancy
      rw [hwrite, hread, h.writeIndex, h.readIndex]
      omega
    rw [hzero, hnum, h.slots]
    exact Nat.succ_pos 2
  obtain ⟨data, hrun⟩ := run_storing (w := { w with
    sink := (w.sink.beginPacket packet).1, writer := .sources (blankSource :: left)
    consumed := w.consumed ++ [packet] }) rfl plausible_blankSource hempty
  dsimp only
  rw [Runs.run_cons, hpacket, hrun]
  refine ⟨rfl, h.reader, hnum.trans h.slots, ?_, hread.trans h.readIndex, ?_, h.obtained⟩
  · dsimp only
    rw [hwrite, h.writeIndex]
    exact next32_mod k
  · simp [h.stored]

lemma Quiet.oneRecord {k : ℕ} (h : Quiet w k) :
    Quiet (Runs.run step w CaptureRing.oneRecord) (k + 1) := by
  have hstore := h.store sourcesOf_one
  rw [CaptureRing.oneRecord, Runs.run_append, Runs.run_cons]
  generalize Runs.run step w (.packet (dvPacket [blankSource]) :: storing) = stored' at hstore ⊢
  obtain ⟨hwriter, hreader, hslots, hwrite, hread, hstored, hobtained⟩ := hstore
  have hidle : stored'.step .write = { stored' with writer := .idle } := by
    simp only [step, CaptureRing.write, hwriter]
  have hdiffer : stored'.sink.header.readIndex ≠ stored'.sink.header.writeIndex := by
    rw [hwrite, hread]
    omega
  obtain ⟨got, hrun⟩ := run_fetching (w := { stored' with writer := .idle }) hreader hdiffer
  rw [hidle, hrun]
  exact {
    writer := rfl
    reader := rfl
    slots := hslots
    writeIndex := hwrite
    readIndex := by
      dsimp only
      rw [hread]
      exact next32_mod k
    stored := hstored
    obtained := by simp [hobtained] }

lemma Quiet.records {k : ℕ} (h : Quiet w k) (n : ℕ) :
    Quiet (Runs.run step w (List.replicate n CaptureRing.oneRecord).flatten) (k + n) := by
  induction n generalizing w k with
  | zero => exact h
  | succ n ih =>
    rw [List.replicate_succ, List.flatten_cons, Runs.run_append]
    have := ih h.oneRecord
    rwa [show k + 1 + n = k + (n + 1) by omega] at this

lemma quiet_attached : Quiet (attached (freshSink 3)) 0 := ⟨rfl, rfl, rfl, rfl, rfl, rfl, rfl⟩

/-- The last record before the wrap is unread in slot 0 when the one with index 0 begins there. -/
lemma not_delivers_recordsThenTwo {n : ℕ} (hn : n + 1 = 2 ^ 32) :
    ¬ Delivers (Runs.run step (attached (freshSink 3)) (recordsThenTwo n)) := by
  have hquiet := quiet_attached.records n
  rw [Nat.zero_add] at hquiet
  rw [recordsThenTwo, Runs.run_append]
  generalize Runs.run step (attached (freshSink 3)) (List.replicate n oneRecord).flatten = w
    at hquiet ⊢
  have hstore := hquiet.store sourcesOf_two
  rw [Runs.run_append]
  generalize Runs.run step w (.packet (dvPacket [blankSource, blankSource]) :: storing) = after
    at hstore ⊢
  obtain ⟨hwriter, -, hslots, hwrite, hread, hstored, hobtained⟩ := hstore
  have hwrite : after.sink.header.writeIndex = 0 := by rw [hwrite, hn, Nat.mod_self]
  have hread : after.sink.header.readIndex = n := by rw [hread]; omega
  have hroom : ¬ after.sink.occupancy ≥ after.sink.numRecords := by
    unfold DVCaptureSink.occupancy
    rw [hwrite, hread, hslots]
    omega
  have hbegin : after.step .write =
      { after with writer := .copying blankSource after.sink.header.writeIndex 0 [] } := by
    simp only [step, CaptureRing.write, hwriter, plausible_blankSource, Bool.not_true,
      Bool.false_eq_true, if_false, if_neg hroom]
  have hunread : after.Unread n := by
    unfold Unread
    omega
  intro hdelivers
  rw [Runs.run_cons, Runs.run_nil, hbegin] at hdelivers
  have hapart := hdelivers.apart _ _ _ _ rfl n hunread
  apply hapart
  simp only [slotOf, DVCaptureSink.slot, hslots, hwrite]
  omega

/-- Three records, read as they arrive until the index wraps. -/
theorem not_delivers_past_wrap :
    initializeAndAttach (headerBytes + 3 * kRecordBytes) 3 = some (freshSink 3) ∧
      ¬ Delivers (Runs.run step (attached (freshSink 3)) (recordsThenTwo 4294967295)) :=
  ⟨rfl, not_delivers_recordsThenTwo (by norm_num)⟩

/-- A ring of four records goes on past it. -/
theorem delivers_past_wrap :
    Delivers (Runs.run step (attached (freshSink 4)) (recordsThenTwo 4294967295)) := by
  have h := delivers_run_of_dvd (rfl : initializeAndAttach (headerBytes + 4 * kRecordBytes) 4 = some _)
    (by decide) (recordsThenTwo 4294967295) (recordsThenTwo 4294967295).length
  rwa [List.take_length] at h

end CaptureRing

end ASFireWire.DV
