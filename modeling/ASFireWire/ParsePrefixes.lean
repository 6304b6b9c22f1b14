import ASFireWire.ARPacket

/-! Parsing a received packet from a buffer that still grows (`Async/Rx/ARPacketParser`): what
`ParseNext` has decided on the bytes it has seen stays decided. -/
namespace ASFireWire.Async

open Quadlets

variable {b : List UInt8} {o : ℕ} {info : PacketInfo}

lemma le32At_append_left {front : List UInt8} {i : ℕ} (h : i + 4 ≤ front.length)
    (rest : List UInt8) : le32At (front ++ rest) i = le32At front i := by
  have hbyte : ∀ k < 4, byteAt (front ++ rest) (i + k) = byteAt front (i + k) := fun k hk =>
    byteAt_append_left (by omega)
  simp only [le32At, hbyte 1 (by omega), hbyte 2 (by omega), hbyte 3 (by omega)]
  rw [byteAt_append_left (by omega)]

lemma getHeaderLength_cases (tCode : ℕ) :
    getHeaderLength tCode = 0 ∨ getHeaderLength tCode = 12 ∨ getHeaderLength tCode = 16 := by
  unfold getHeaderLength
  split <;> simp

/-- Two packets that a caller cannot tell apart by the parsed fields. -/
def PacketInfo.Same (info info' : PacketInfo) : Prop :=
  info'.headerLength = info.headerLength ∧ info'.dataLength = info.dataLength ∧
    info'.totalLength = info.totalLength ∧ info'.tCode = info.tCode ∧ info'.rCode = info.rCode ∧
    info'.xferStatus = info.xferStatus ∧ info'.timeStamp = info.timeStamp

/-- The packet read from a buffer that has grown: its memory goes on. -/
def PacketInfo.extend (info : PacketInfo) (more : List UInt8) : PacketInfo :=
  { info with packetStart := info.packetStart ++ more }

lemma parseNext_drop (b : List UInt8) (o : ℕ) : parseNext b o = parseNext (b.drop o) 0 := by
  simp only [parseNext, List.drop_zero]

lemma totalLength_bounds {headerLength dataLength : ℕ}
    (hheader : headerLength = 12 ∨ headerLength = 16) (hdata : dataLength ≤ kMaxAsyncPayloadBytes) :
    headerLength + dataLength ≤ quadletAligned (headerLength + dataLength) ∧
      4 ∣ quadletAligned (headerLength + dataLength) + 4 ∧
      16 ≤ quadletAligned (headerLength + dataLength) + 4 ∧
      quadletAligned (headerLength + dataLength) + 4 ≤ kMaxPacketBytes := by
  simp only [kMaxAsyncPayloadBytes] at hdata
  simp only [quadletAligned, kMaxPacketBytes, kMaxAsyncPayloadBytes]
  omega

/-- The order of the checks: what is decided by bytes that are there does not change with bytes
that come later. -/
lemma parseNext_append (p c : List UInt8) :
    parseNext p 0 = .error .needMoreBytes ∨
      parseNext (p ++ c) 0 = (parseNext p 0).map fun info => info.extend c := by
  rw [parseNext, parseNext]
  simp only [List.drop_zero, List.length_append]
  by_cases h8 : p.length < 8
  · simp [h8]
  have hq0 : le32At (p ++ c) 0 = le32At p 0 := le32At_append_left (by omega) c
  have hq1 : le32At (p ++ c) 4 = le32At p 4 := le32At_append_left (by omega) c
  simp only [h8, if_false, hq0, hq1, if_neg (show ¬p.length + c.length < 8 by omega)]
  generalize htCode : le32At p 0 / 16 % 16 = tCode
  by_cases hunknown : getHeaderLength tCode = 0
  · simp [hunknown, Except.map]
  by_cases hheader : p.length < getHeaderLength tCode
  · simp [hunknown, hheader]
  have hspan : (p ++ c).take (getHeaderLength tCode) = p.take (getHeaderLength tCode) :=
    List.take_append_of_le_length (by omega)
  simp only [hunknown, hheader, if_false, hspan,
    if_neg (show ¬p.length + c.length < getHeaderLength tCode by omega)]
  generalize getDataLength (p.take (getHeaderLength tCode)) tCode = dataLength
  by_cases hlarge : kMaxAsyncPayloadBytes < dataLength
  · simp [hlarge, Except.map]
  by_cases hshort : p.length < quadletAligned (getHeaderLength tCode + dataLength) + 4
  · simp [hlarge, hshort]
  have htrailer : le32At (p ++ c) (quadletAligned (getHeaderLength tCode + dataLength)) =
      le32At p (quadletAligned (getHeaderLength tCode + dataLength)) :=
    le32At_append_left (by omega) c
  simp only [hlarge, hshort, if_false, htrailer,
    if_neg (show ¬p.length + c.length <
      quadletAligned (getHeaderLength tCode + dataLength) + 4 by omega)]
  right
  split <;> rfl

lemma totalLength_le {p : List UInt8} (h : parseNext p 0 = .ok info) :
    info.totalLength ≤ p.length ∧ 4 ∣ info.totalLength ∧ 16 ≤ info.totalLength := by
  simp only [parseNext, List.drop_zero] at h
  generalize le32At p 0 / 16 % 16 = tCode at h
  have hcases := getHeaderLength_cases tCode
  split at h
  · cases h
  split at h
  · cases h
  rename_i hknown
  split at h
  · cases h
  generalize getDataLength (p.take (getHeaderLength tCode)) tCode = dataLength at h
  split at h
  · cases h
  rename_i hsmall
  split at h
  · cases h
  rename_i hthere
  split at h
  · cases h
  cases h
  obtain ⟨-, hdvd, hleast, -⟩ := totalLength_bounds (by simpa [hknown] using hcases) (not_lt.mp hsmall)
  exact ⟨not_lt.mp hthere, hdvd, hleast⟩

/-- The longest packet is there, so no check asks for more. -/
lemma parseNext_ne_needMoreBytes {p : List UInt8} (hlength : kMaxPacketBytes ≤ p.length) :
    parseNext p 0 ≠ .error .needMoreBytes := by
  have hmax : kMaxPacketBytes = 4116 := rfl
  simp only [parseNext, List.drop_zero]
  generalize le32At p 0 / 16 % 16 = tCode
  have hcases := getHeaderLength_cases tCode
  rw [if_neg (by omega)]
  split
  · simp
  rename_i hknown
  rw [if_neg (by omega)]
  generalize getDataLength (p.take (getHeaderLength tCode)) tCode = dataLength
  split
  · simp
  rename_i hsmall
  obtain ⟨-, -, -, hmost⟩ := totalLength_bounds (by simpa [hknown] using hcases) (not_lt.mp hsmall)
  rw [if_neg (by omega)]
  split <;> simp

lemma drop_append_of_parsed (h : parseNext b o ≠ .error .needMoreBytes) (c : List UInt8) :
    o + 8 ≤ b.length ∧ (b ++ c).drop o = b.drop o ++ c := by
  have hlength : o + 8 ≤ b.length := by
    by_contra hless
    apply h
    simp only [parseNext, List.length_drop]
    rw [if_pos (by omega)]
  exact ⟨hlength, List.drop_append_of_le_length (by omega)⟩

lemma parseNext_extended (h : parseNext b o ≠ .error .needMoreBytes) (c : List UInt8) :
    parseNext (b ++ c) o = (parseNext b o).map fun info => info.extend c := by
  rw [parseNext_drop (b ++ c), (drop_append_of_parsed h c).2]
  rw [parseNext_drop b] at h ⊢
  exact (parseNext_append _ c).resolve_left h

/-- Parsing is stable under more bytes, and never waits once the longest packet is there. -/
theorem parseNext_prefixStable (b c : List UInt8) (o : ℕ) :
    (∀ info, parseNext b o = .ok info →
      (∃ info', parseNext (b ++ c) o = .ok info' ∧ info.Same info') ∧
        o + info.totalLength ≤ b.length ∧ 4 ∣ info.totalLength ∧ 16 ≤ info.totalLength) ∧
    (∀ failure, failure ≠ .needMoreBytes → parseNext b o = .error failure →
      parseNext (b ++ c) o = .error failure) ∧
    (o + kMaxPacketBytes ≤ b.length → parseNext b o ≠ .error .needMoreBytes) := by
  refine ⟨?_, ?_, ?_⟩
  · intro info hok
    have hdecided : parseNext b o ≠ .error .needMoreBytes := by simp [hok]
    have hthere := (drop_append_of_parsed hdecided c).1
    have hlater := parseNext_extended hdecided c
    rw [hok] at hlater
    rw [parseNext_drop] at hok
    obtain ⟨hlength, hdvd, hleast⟩ := totalLength_le hok
    rw [List.length_drop] at hlength
    exact ⟨⟨info.extend c, hlater, by simp [PacketInfo.Same, PacketInfo.extend]⟩, by omega, hdvd, hleast⟩
  · intro failure hfailure herror
    have hdecided : parseNext b o ≠ .error .needMoreBytes := by simpa [herror] using hfailure
    rw [parseNext_extended hdecided c, herror]
    rfl
  · intro hlength
    rw [parseNext_drop]
    apply parseNext_ne_needMoreBytes
    rw [List.length_drop]
    omega

/-- A write response with transaction label 1, rCode 0 and its trailer. -/
def writeResponseBytes : List UInt8 :=
  [0x20, 0x04, 0xC0, 0xFF, 0x00, 0x00, 0xC1, 0xFF, 0, 0, 0, 0, 0x34, 0x12, 0x11, 0x84]

theorem writeResponse_prefixStable :
    ((∃ info', parseNext (writeResponseBytes ++ [0x30, 0x00]) 0 = .ok info' ∧
      PacketInfo.Same ⟨writeResponseBytes, 12, 0, 16, 2, 0, 0x8411, 0x1234⟩ info') ∧
      0 + 16 ≤ writeResponseBytes.length ∧ 4 ∣ 16 ∧ 16 ≤ 16) ∧
    parseNext (List.replicate 8 0x30 ++ [0]) 0 = .error .unknownTCode ∧
    parseNext (List.replicate kMaxPacketBytes 0) 0 ≠ .error .needMoreBytes :=
  ⟨(parseNext_prefixStable writeResponseBytes [0x30, 0x00] 0).1
      ⟨writeResponseBytes, 12, 0, 16, 2, 0, 0x8411, 0x1234⟩ (by decide),
    (parseNext_prefixStable (List.replicate 8 0x30) [0] 0).2.1 .unknownTCode (by decide) (by decide),
    (parseNext_prefixStable (List.replicate kMaxPacketBytes 0) [] 0).2.2 (by
      rw [List.length_replicate, Nat.zero_add])⟩

end ASFireWire.Async
