import ASFireWire.RegisterFields

/-! The fields of a plug control register (`Protocols/AVC/CMP/PCRCodec.hpp`). -/
namespace ASFireWire.CMP

namespace PCRBits

def kOnlineMask : BitVec 32 := 0x80000000

def kBroadcastMask : BitVec 32 := 0x40000000

def kBcastMask : BitVec 32 := kBroadcastMask

def kP2PMask : BitVec 32 := 0x3F000000

def kP2PShift : ℕ := 24

def kChannelMask : BitVec 32 := 0x003F0000

def kChannelShift : ℕ := 16

def kDataRateMask : BitVec 32 := 0x0000C000

def kDataRateShift : ℕ := 14

def kOverheadMask : BitVec 32 := 0x00003C00

def kOverheadShift : ℕ := 10

def isOnline (pcr : BitVec 32) : Bool := pcr &&& kOnlineMask ≠ 0

def isBroadcast (pcr : BitVec 32) : Bool := pcr &&& kBroadcastMask ≠ 0

def getP2P (pcr : BitVec 32) : BitVec 8 := ((pcr &&& kP2PMask) >>> kP2PShift).setWidth 8

def isInUse (pcr : BitVec 32) : Bool := isBroadcast pcr || getP2P pcr ≠ 0

def getChannel (pcr : BitVec 32) : BitVec 8 :=
  ((pcr &&& kChannelMask) >>> kChannelShift).setWidth 8

def setP2P (pcr : BitVec 32) (p2p : BitVec 8) : BitVec 32 :=
  (pcr &&& ~~~kP2PMask) ||| ((p2p.setWidth 32 &&& 0x3F) <<< kP2PShift)

def setChannel (pcr : BitVec 32) (channel : BitVec 8) : BitVec 32 :=
  (pcr &&& ~~~kChannelMask) ||| ((channel.setWidth 32 &&& 0x3F) <<< kChannelShift)

def setDataRate (pcr speed : BitVec 32) : BitVec 32 :=
  (pcr &&& ~~~kDataRateMask) ||| ((speed &&& 0x03) <<< kDataRateShift)

def setOverheadId (pcr : BitVec 32) (overheadId : BitVec 8) : BitVec 32 :=
  (pcr &&& ~~~kOverheadMask) ||| ((overheadId.setWidth 32 &&& 0x0F) <<< kOverheadShift)

/-! ### The fields one by one -/

lemma getP2P_eq (pcr : BitVec 32) : getP2P pcr = (RegisterFields.get 24 6 pcr).setWidth 8 := rfl

lemma getChannel_eq (pcr : BitVec 32) :
    getChannel pcr = (RegisterFields.get 16 6 pcr).setWidth 8 := rfl

lemma setP2P_eq (pcr : BitVec 32) (p2p : BitVec 8) :
    setP2P pcr p2p = RegisterFields.set 24 6 pcr (p2p.setWidth 32) := rfl

lemma setChannel_eq (pcr : BitVec 32) (channel : BitVec 8) :
    setChannel pcr channel = RegisterFields.set 16 6 pcr (channel.setWidth 32) := rfl

lemma setDataRate_eq (pcr speed : BitVec 32) :
    setDataRate pcr speed = RegisterFields.set 14 2 pcr speed := rfl

lemma setOverheadId_eq (pcr : BitVec 32) (overheadId : BitVec 8) :
    setOverheadId pcr overheadId = RegisterFields.set 10 4 pcr (overheadId.setWidth 32) := rfl

@[simp] lemma getP2P_setP2P (pcr : BitVec 32) (p2p : BitVec 8) :
    getP2P (setP2P pcr p2p) = p2p &&& 0x3F := by
  rw [getP2P_eq, setP2P_eq, RegisterFields.get_set (by norm_num)]
  show (p2p.setWidth 32 &&& 0x3F#32).setWidth 8 = p2p &&& 0x3F
  rw [BitVec.setWidth_and, BitVec.setWidth_setWidth_of_le _ (by norm_num), BitVec.setWidth_eq]
  rfl

@[simp] lemma getP2P_setChannel (pcr : BitVec 32) (channel : BitVec 8) :
    getP2P (setChannel pcr channel) = getP2P pcr := by
  rw [getP2P_eq, getP2P_eq, setChannel_eq, RegisterFields.get_set_of_disjoint (by norm_num)]

@[simp] lemma getP2P_setDataRate (pcr speed : BitVec 32) :
    getP2P (setDataRate pcr speed) = getP2P pcr := by
  rw [getP2P_eq, getP2P_eq, setDataRate_eq, RegisterFields.get_set_of_disjoint (by norm_num)]

@[simp] lemma getP2P_setOverheadId (pcr : BitVec 32) (overheadId : BitVec 8) :
    getP2P (setOverheadId pcr overheadId) = getP2P pcr := by
  rw [getP2P_eq, getP2P_eq, setOverheadId_eq, RegisterFields.get_set_of_disjoint (by norm_num)]

lemma and_kMask_of_le {x : BitVec 8} (h : x.toNat ≤ 63) : x &&& 0x3F = x := by
  apply BitVec.eq_of_toNat_eq
  rw [BitVec.toNat_and]
  show x.toNat &&& 2 ^ 6 - 1 = x.toNat
  rw [Nat.and_two_pow_sub_one_eq_mod, Nat.mod_eq_of_lt (by omega)]

lemma getChannel_setChannel (pcr : BitVec 32) {channel : BitVec 8} (h : channel.toNat ≤ 63) :
    getChannel (setChannel pcr channel) = channel := by
  rw [getChannel_eq, setChannel_eq, RegisterFields.get_set (by norm_num)]
  show (channel.setWidth 32 &&& 0x3F#32).setWidth 8 = channel
  rw [BitVec.setWidth_and, BitVec.setWidth_setWidth_of_le _ (by norm_num), BitVec.setWidth_eq]
  exact and_kMask_of_le h

@[simp] lemma getChannel_setDataRate (pcr speed : BitVec 32) :
    getChannel (setDataRate pcr speed) = getChannel pcr := by
  rw [getChannel_eq, getChannel_eq, setDataRate_eq, RegisterFields.get_set_of_disjoint (by norm_num)]

@[simp] lemma getChannel_setOverheadId (pcr : BitVec 32) (overheadId : BitVec 8) :
    getChannel (setOverheadId pcr overheadId) = getChannel pcr := by
  rw [getChannel_eq, getChannel_eq, setOverheadId_eq,
    RegisterFields.get_set_of_disjoint (by norm_num)]

end PCRBits

end ASFireWire.CMP
