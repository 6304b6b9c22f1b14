import ASFireWire.SelfIDStreamParser

/-! `SelfIDCapture::Decode`: the buffer that the controller fills with Self-ID quadlets, each
followed by its inverse, to the quadlets and the sequences that the parser reads. The "more
packets" bits alone tell where a sequence ends. -/
namespace ASFireWire.Topology

inductive DecodeErrorCode
  | bufferUnavailable | controllerErrorBit | emptyCapture | countOverflow | nullMapAddress
  | generationMismatch | invalidInversePair | malformedSequence
  deriving DecidableEq, Repr

structure DecodeError where
  code : DecodeErrorCode := .bufferUnavailable
  countRegister : ℕ := 0
  generation : ℕ := 0
  quadletIndex : ℕ := 0
  deriving DecidableEq, Repr

/-- The receive buffer: the quadlets of its capacity, and whether it is there to be read. -/
structure SelfIDCapture where
  segmentValid : Bool := true
  mapped : Bool := true
  addressNull : Bool := false
  buffer : List UInt32

def isSelfIDTag (quad : ℕ) : Bool := quad / 2 ^ 30 % 2 ^ 2 = 2

def isExtended (quad : ℕ) : Bool := quad / 2 ^ 23 % 2 ≠ 0

def hasMorePackets (quad : ℕ) : Bool := quad % 2 ≠ 0

def kSelfIDSequenceMaximumQuadletCount : ℕ := 4

/-- The loop over the inverse pairs behind the header. -/
def normalizePairs (countRegister generation : ℕ) : ℕ → List UInt32 → Except DecodeError (List ℕ)
  | index, quadlet :: inverse :: rest =>
    if quadlet ≠ ~~~inverse then
      .error ⟨.invalidInversePair, countRegister, generation, index + 1⟩
    else do
      let normalized ← normalizePairs countRegister generation (index + 2) rest
      .ok (quadlet.toNat :: normalized)
  | _, _ => .ok []

def normalizeSelfIDQuadlets (rawQuadlets : List UInt32) (countRegister generation : ℕ) :
    Except DecodeError (List ℕ) :=
  match rawQuadlets with
  | header :: first :: rest =>
    if (first :: rest).length % 2 ≠ 0 then
      .error ⟨.invalidInversePair, countRegister, generation, rawQuadlets.length - 1⟩
    else do
      let normalized ← normalizePairs countRegister generation 0 (first :: rest)
      .ok (header.toNat :: normalized)
  | _ => .error ⟨.emptyCapture, countRegister, generation, 0⟩

/-- The cursor as an index, and the quadlets from there on. -/
structure SelfIDSequenceEnumerator where
  cursor : ℕ
  quadlets : List ℕ
  deriving DecidableEq, Repr

/-- The chain of extended quadlets behind a quadlet: the count of all quadlets so far goes up while
the flag is set. -/
def followChain (count sequence quadlet : ℕ) (rest : List ℕ) : Option ℕ :=
  if !hasMorePackets quadlet then some count
  else if kSelfIDSequenceMaximumQuadletCount ≤ count then none
  else
    match rest with
    | [] => none
    | next :: rest =>
      if !isExtended next || sequence ≠ extractSeq next then none
      else followChain (count + 1) (sequence + 1) next rest

/-- `SelfIDSequenceEnumerator::next`. -/
def SelfIDSequenceEnumerator.next (e : SelfIDSequenceEnumerator) :
    Option ((ℕ × ℕ) × SelfIDSequenceEnumerator) :=
  match e.quadlets with
  | [] => none
  | first :: rest => do
    let count ← followChain 1 0 first rest
    some ((e.cursor, count), ⟨e.cursor + count, e.quadlets.drop count⟩)

/-- The loop over the sequences. Each takes a quadlet at least, so their number bounds it. -/
def enumerateSequences : ℕ → SelfIDSequenceEnumerator → Option (List (ℕ × ℕ))
  | 0, _ => some []
  | fuel + 1, e =>
    match e.quadlets with
    | [] => some []
    | first :: _ =>
      if !isSelfIDTag first then none
      else do
        let (item, e) ← e.next
        let items ← enumerateSequences fuel e
        some (item :: items)

/-- `SelfIDCapture::Decode`. The second read of the count register is `none` when the hardware
cannot be accessed. -/
def SelfIDCapture.decode (c : SelfIDCapture) (selfIDCountReg : UInt32)
    (selfIDCountReg2 : Option UInt32) : Except DecodeError SelfIDCaptureResult :=
  let reg := selfIDCountReg.toNat
  if !c.segmentValid || !c.mapped then .error ⟨.bufferUnavailable, reg, 0, 0⟩
  else
    let quadCount := reg / 2 ^ 2 % 2 ^ 9
    let generation := reg / 2 ^ 16 % 2 ^ 8
    if quadCount = 0 then .error ⟨.emptyCapture, reg, generation, 0⟩
    else if reg / 2 ^ 31 % 2 ≠ 0 then .error ⟨.controllerErrorBit, reg, generation, 0⟩
    else if c.buffer.length < quadCount then .error ⟨.countOverflow, reg, generation, 0⟩
    else if c.addressNull then .error ⟨.nullMapAddress, reg, generation, 0⟩
    else
      match selfIDCountReg2 with
      | none => .error ⟨.bufferUnavailable, reg, generation, 0⟩
      | some reg2 =>
        if generation ≠ (c.buffer.head?.getD 0).toNat / 2 ^ 16 % 2 ^ 8 then
          .error ⟨.generationMismatch, reg, generation, 0⟩
        else if generation ≠ reg2.toNat / 2 ^ 16 % 2 ^ 8 then
          .error ⟨.generationMismatch, reg, generation, 0⟩
        else do
          let quads ← normalizeSelfIDQuadlets (c.buffer.take quadCount) reg generation
          match enumerateSequences quads.length ⟨1, quads.drop 1⟩ with
          | none => .error ⟨.malformedSequence, reg, generation, 0⟩
          | some sequences =>
            .ok { quads := quads, sequences := sequences, generation := generation, valid := true }

end ASFireWire.Topology
