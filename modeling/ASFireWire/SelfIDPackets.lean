import ASFireWire.SelfIDStreamParser
import ASFireWire.Widths

/-! The self-ID packets a PHY sends, and which of its port states survive
`SelfIDStreamParser::Parse`. Extended quadlets hold the extended flag in bit 23, the sequence
number in bits 22:20 and eight port fields from bits 17:16 down to bits 3:2. -/
namespace ASFireWire.Topology

def PortState.code : PortState → ℕ
  | .notPresent => 0
  | .notActive => 1
  | .parent => 2
  | .child => 3

lemma PortState.code_lt (state : PortState) : state.code < 4 := by
  cases state <;> decide

@[simp] lemma decodePort_code (state : PortState) : decodePort state.code = state := by
  cases state <;> rfl

lemma decodePort_mod {code : ℕ} {state : PortState} (h : code % 4 = state.code) :
    decodePort code = state := by
  have hlt := state.code_lt
  rw [← decodePort_code state]
  unfold decodePort
  rw [h, Nat.mod_eq_of_lt hlt]

/-- Ports carried by the base quadlet and this many extended ones. -/
def carriedPorts (extended : ℕ) : ℕ := min (3 + 8 * extended) kMaxPhyPorts

/-- What a PHY puts into its self-ID packets. Absent ports at the end need no quadlet; bits 19:18
of extended quadlet `n` are reserved. -/
structure PhyReport where
  phyId : Fin 63
  linkActive : Bool := true
  gapCount : Fin 64 := 63
  speedCode : Fin 4 := 2
  contender : Bool := false
  powerClass : Fin 8 := 0
  initiatedReset : Bool := false
  ports : Port → PortState
  extended : Fin 3
  reserved : ℕ → Fin 4 := fun _ => 0
  absent : ∀ port : Port, carriedPorts extended ≤ port.val → ports port = .notPresent

namespace PhyReport

variable (node : PhyReport)

/-- Code of the port with this number; there is none behind p15. -/
def portCode (index : ℕ) : ℕ :=
  if h : index < kMaxPhyPorts then (node.ports ⟨index, h⟩).code else 0

lemma portCode_lt (index : ℕ) : node.portCode index < 4 := by
  unfold portCode
  split
  · exact PortState.code_lt _
  · decide

lemma portCode_val (port : Port) : node.portCode port.val = (node.ports port).code :=
  dif_pos port.isLt

def baseQuadlet : ℕ :=
  2 ^ 31 + node.phyId.val * 2 ^ 24 + node.linkActive.toNat * 2 ^ 22 + node.gapCount.val * 2 ^ 16 +
    node.speedCode.val * 2 ^ 14 + node.contender.toNat * 2 ^ 11 + node.powerClass.val * 2 ^ 8 +
    node.portCode 0 * 2 ^ 6 + node.portCode 1 * 2 ^ 4 + node.portCode 2 * 2 ^ 2 +
    node.initiatedReset.toNat * 2 + (decide (0 < node.extended.val)).toNat

/-- Extended quadlet `n`, with fields pa..ph from bits 17:16 to bits 3:2. -/
def extendedQuadlet (n : ℕ) : ℕ :=
  2 ^ 31 + node.phyId.val * 2 ^ 24 + 2 ^ 23 + n * 2 ^ 20 + (node.reserved n).val * 2 ^ 18 +
    node.portCode (3 + 8 * n) * 2 ^ 16 + node.portCode (4 + 8 * n) * 2 ^ 14 +
    node.portCode (5 + 8 * n) * 2 ^ 12 + node.portCode (6 + 8 * n) * 2 ^ 10 +
    node.portCode (7 + 8 * n) * 2 ^ 8 + node.portCode (8 + 8 * n) * 2 ^ 6 +
    node.portCode (9 + 8 * n) * 2 ^ 4 + node.portCode (10 + 8 * n) * 2 ^ 2 +
    (decide (n + 1 < node.extended.val)).toNat

def packets : List ℕ :=
  node.baseQuadlet :: (List.range node.extended.val).map node.extendedQuadlet

/-- The nodes' packets one after another, behind the header quadlet of the buffer. -/
def captureSequences : ℕ → List PhyReport → List (ℕ × ℕ)
  | _, [] => []
  | start, node :: rest =>
    (start, node.packets.length) :: captureSequences (start + node.packets.length) rest

def capture (header : ℕ) (nodes : List PhyReport) : SelfIDCaptureResult where
  quads := header :: nodes.flatMap packets
  sequences := captureSequences 1 nodes
  valid := true

/-- The only extended ports that come back as they were sent: the extended flag reads as a
Parent, the sequence number as the port behind it, the reserved bits as the next one, and the
rest are three ports late. -/
structure Readable : Prop where
  first : 0 < node.extended.val →
    node.ports 3 = .parent ∧ node.ports 4 = .notPresent ∧
      node.ports 5 = decodePort (node.reserved 0).val ∧ node.ports 6 = node.ports 3 ∧
      node.ports 7 = node.ports 4 ∧ node.ports 8 = node.ports 5 ∧ node.ports 9 = node.ports 6 ∧
      node.ports 10 = node.ports 7
  second : 1 < node.extended.val →
    node.ports 11 = .parent ∧ node.ports 12 = .notActive ∧
      node.ports 13 = decodePort (node.reserved 1).val ∧ node.ports 14 = node.ports 11 ∧
      node.ports 15 = node.ports 12

/-! ### Fields of the quadlets -/

lemma toNat_le_one (b : Bool) : b.toNat ≤ 1 := by
  cases b <;> decide

lemma extractPhyID_baseQuadlet : extractPhyID node.baseQuadlet = node.phyId.val := by
  have hlink := toNat_le_one node.linkActive
  have hcontender := toNat_le_one node.contender
  have hreset := toNat_le_one node.initiatedReset
  have hmore := toNat_le_one (decide (0 < node.extended.val))
  have h0 := node.portCode_lt 0
  have h1 := node.portCode_lt 1
  have h2 := node.portCode_lt 2
  unfold extractPhyID baseQuadlet
  omega

/-- The base quadlet's port fields are where they belong. -/
lemma extractPortState_baseQuadlet (port : Port) (h : port.val < 3) :
    extractPortState node.baseQuadlet port.val = node.ports port := by
  have hcontender := toNat_le_one node.contender
  have hreset := toNat_le_one node.initiatedReset
  have hmore := toNat_le_one (decide (0 < node.extended.val))
  have h0 := node.portCode_lt 0
  have h1 := node.portCode_lt 1
  have h2 := node.portCode_lt 2
  unfold extractPortState
  rw [if_neg (by omega)]
  apply decodePort_mod
  rw [← node.portCode_val port]
  unfold baseQuadlet
  obtain hport | hport | hport : port.val = 0 ∨ port.val = 1 ∨ port.val = 2 := by omega
  · rw [hport]
    omega
  · rw [hport]
    omega
  · rw [hport]
    omega

/-- Code the parser takes from field `k` of extended quadlet `n`. -/
def seenCode (n : ℕ) : ℕ → ℕ
  | 0 => 2
  | 1 => n
  | 2 => (node.reserved n).val
  | k + 3 => node.portCode (3 + 8 * n + k)

lemma extractSeq_extendedQuadlet {n : ℕ} (hn : n < 2) : extractSeq (node.extendedQuadlet n) = n := by
  have hmore := toNat_le_one (decide (n + 1 < node.extended.val))
  have hreserved := (node.reserved n).isLt
  have h3 := node.portCode_lt (3 + 8 * n)
  have h4 := node.portCode_lt (4 + 8 * n)
  have h5 := node.portCode_lt (5 + 8 * n)
  have h6 := node.portCode_lt (6 + 8 * n)
  have h7 := node.portCode_lt (7 + 8 * n)
  have h8 := node.portCode_lt (8 + 8 * n)
  have h9 := node.portCode_lt (9 + 8 * n)
  have h10 := node.portCode_lt (10 + 8 * n)
  unfold extractSeq extendedQuadlet
  omega

lemma field_extendedQuadlet {n k : ℕ} (hn : n < 2) (hk : k < 8) :
    node.extendedQuadlet n / 2 ^ (22 - k * 2) % 4 = node.seenCode n k := by
  have hmore := toNat_le_one (decide (n + 1 < node.extended.val))
  have hreserved := (node.reserved n).isLt
  have h3 := node.portCode_lt (3 + 8 * n)
  have h4 := node.portCode_lt (4 + 8 * n)
  have h5 := node.portCode_lt (5 + 8 * n)
  have h6 := node.portCode_lt (6 + 8 * n)
  have h7 := node.portCode_lt (7 + 8 * n)
  have h8 := node.portCode_lt (8 + 8 * n)
  have h9 := node.portCode_lt (9 + 8 * n)
  have h10 := node.portCode_lt (10 + 8 * n)
  have hcomm : ∀ a, 3 + 8 * n + a = 3 + a + 8 * n := by omega
  unfold extendedQuadlet
  match k, hk with
  | 0, _ => simp only [seenCode]; omega
  | 1, _ => simp only [seenCode]; omega
  | 2, _ => simp only [seenCode]; omega
  | 3, _ => simp only [seenCode, hcomm, Nat.reduceAdd]; omega
  | 4, _ => simp only [seenCode, hcomm, Nat.reduceAdd]; omega
  | 5, _ => simp only [seenCode, hcomm, Nat.reduceAdd]; omega
  | 6, _ => simp only [seenCode, hcomm, Nat.reduceAdd]; omega
  | 7, _ => simp only [seenCode, hcomm, Nat.reduceAdd]; omega

/-! ### What the parser stores -/

lemma storeExtendedPorts_apply (first count extQuad : ℕ) (ports : Port → PortState) (port : Port) :
    storeExtendedPorts first count extQuad ports port =
      if first ≤ port.val ∧ port.val < first + count then
        decodePort (extQuad / 2 ^ (22 - (port.val - first) * 2))
      else ports port := by
  unfold storeExtendedPorts
  induction count with
  | zero =>
    rw [if_neg (by omega)]
    rfl
  | succ count ih =>
    rw [List.range_succ, List.foldl_append, List.foldl_cons, List.foldl_nil, setPort]
    by_cases hport : port.val = first + count
    · rw [if_pos hport, if_pos (by omega), hport, Nat.add_sub_cancel_left]
    · rw [if_neg hport, ih]
      congr 1
      apply propext
      omega

/-- The states the parser stores for the carried ports. -/
def seenPort (port : Port) : PortState :=
  if port.val < 3 then node.ports port
  else if port.val < 11 then
    if 0 < node.extended.val then decodePort (node.seenCode 0 (port.val - 3)) else .notPresent
  else if 1 < node.extended.val then decodePort (node.seenCode 1 (port.val - 11))
  else .notPresent

lemma decodeBase_ports (port : Port) :
    (decodeBase node.baseQuadlet).ports port =
      if port.val < 3 then node.ports port else .notPresent := by
  simp only [decodeBase, setPort]
  by_cases h2 : port.val = 2
  · rw [if_pos h2, if_pos (by omega), ← h2, node.extractPortState_baseQuadlet port (by omega)]
  rw [if_neg h2]
  by_cases h1 : port.val = 1
  · rw [if_pos h1, if_pos (by omega), ← h1, node.extractPortState_baseQuadlet port (by omega)]
  rw [if_neg h1]
  by_cases h0 : port.val = 0
  · rw [if_pos h0, if_pos (by omega), ← h0, node.extractPortState_baseQuadlet port (by omega)]
  rw [if_neg h0, if_neg (by omega)]

lemma decodeExtended_ports_zero {record : SelfIDNodeRecord} {quad : ℕ} (h : extractSeq quad = 0) :
    (decodeExtended record quad).ports = storeExtendedPorts 3 8 quad record.ports := by
  unfold decodeExtended
  rw [if_pos h]

lemma decodeExtended_ports_one {record : SelfIDNodeRecord} {quad : ℕ} (h : extractSeq quad = 1) :
    (decodeExtended record quad).ports = storeExtendedPorts 11 5 quad record.ports := by
  unfold decodeExtended
  rw [if_neg (by omega), if_pos h]

lemma decodePort_field {n k : ℕ} (hn : n < 2) (hk : k < 8) :
    decodePort (node.extendedQuadlet n / 2 ^ (22 - k * 2)) = decodePort (node.seenCode n k) := by
  have hlt : node.seenCode n k < 4 := by
    rw [← node.field_extendedQuadlet hn hk]
    exact Nat.mod_lt _ (by decide)
  unfold decodePort
  rw [node.field_extendedQuadlet hn hk, Nat.mod_eq_of_lt hlt]

lemma decodeExtended_first (record : SelfIDNodeRecord) (port : Port) :
    (decodeExtended record (node.extendedQuadlet 0)).ports port =
      if 3 ≤ port.val ∧ port.val < 11 then decodePort (node.seenCode 0 (port.val - 3))
      else record.ports port := by
  rw [decodeExtended_ports_zero (node.extractSeq_extendedQuadlet (by omega)),
    storeExtendedPorts_apply]
  by_cases hport : 3 ≤ port.val ∧ port.val < 11
  · rw [if_pos hport, if_pos hport, node.decodePort_field (by omega) (by omega)]
  · rw [if_neg hport, if_neg hport]

lemma decodeExtended_second (record : SelfIDNodeRecord) (port : Port) :
    (decodeExtended record (node.extendedQuadlet 1)).ports port =
      if 11 ≤ port.val ∧ port.val < 16 then decodePort (node.seenCode 1 (port.val - 11))
      else record.ports port := by
  rw [decodeExtended_ports_one (node.extractSeq_extendedQuadlet (by omega)),
    storeExtendedPorts_apply]
  by_cases hport : 11 ≤ port.val ∧ port.val < 16
  · rw [if_pos hport, if_pos hport, node.decodePort_field (by omega) (by omega)]
  · rw [if_neg hport, if_neg hport]

/-- The record the parser makes of a node's packets. -/
def record : SelfIDNodeRecord :=
  decodeNode node.baseQuadlet ((List.range node.extended.val).map node.extendedQuadlet)

lemma record_ports (port : Port) : node.record.ports port = node.seenPort port := by
  have hport : port.val < 16 := port.isLt
  have hbase := node.decodeBase_ports port
  unfold record decodeNode seenPort
  dsimp only
  obtain he | he | he : node.extended.val = 0 ∨ node.extended.val = 1 ∨ node.extended.val = 2 := by
    omega
  · rw [he, List.range_zero, List.map_nil, List.foldl_nil, hbase]
    by_cases hlow : port.val < 3
    · rw [if_pos hlow, if_pos hlow]
    · rw [if_neg hlow, if_neg hlow, if_neg (Nat.lt_irrefl 0), if_neg (Nat.not_lt_zero 1), ite_self]
  · have hone : (List.range 1).map node.extendedQuadlet = [node.extendedQuadlet 0] := rfl
    rw [he, hone, List.foldl_cons, List.foldl_nil, node.decodeExtended_first, hbase]
    by_cases hlow : port.val < 3
    · rw [if_neg (by omega), if_pos hlow, if_pos hlow]
    by_cases hmid : port.val < 11
    · rw [if_pos ⟨by omega, hmid⟩, if_neg hlow, if_pos hmid, if_pos (by omega)]
    · rw [if_neg (by omega), if_neg hlow, if_neg hlow, if_neg hmid, if_neg (by omega)]
  · have htwo : (List.range 2).map node.extendedQuadlet =
        [node.extendedQuadlet 0, node.extendedQuadlet 1] := rfl
    rw [he, htwo, List.foldl_cons, List.foldl_cons, List.foldl_nil, node.decodeExtended_second,
      node.decodeExtended_first, hbase]
    by_cases hlow : port.val < 3
    · rw [if_neg (by omega), if_neg (by omega), if_pos hlow, if_pos hlow]
    by_cases hmid : port.val < 11
    · rw [if_neg (by omega), if_pos ⟨by omega, hmid⟩, if_neg hlow, if_pos hmid, if_pos (by omega)]
    · rw [if_pos (by omega), if_neg hlow, if_neg hmid, if_pos (by omega)]

lemma decodePort_portCode (port : Port) : decodePort (node.portCode port.val) = node.ports port := by
  rw [portCode_val, decodePort_code]

/-- Ports 3 to 10 as stored from the first extended quadlet. -/
lemma seenPort_first (h : 0 < node.extended.val) :
    node.seenPort 3 = .parent ∧ node.seenPort 4 = .notPresent ∧
      node.seenPort 5 = decodePort (node.reserved 0).val ∧ node.seenPort 6 = node.ports 3 ∧
      node.seenPort 7 = node.ports 4 ∧ node.seenPort 8 = node.ports 5 ∧
      node.seenPort 9 = node.ports 6 ∧ node.seenPort 10 = node.ports 7 := by
  have hmid : ∀ port : Port, 3 ≤ port.val → port.val < 11 →
      node.seenPort port = decodePort (node.seenCode 0 (port.val - 3)) := by
    intro port hlow hhigh
    rw [seenPort, if_neg (by omega), if_pos hhigh, if_pos h]
  refine ⟨hmid 3 (by decide) (by decide), hmid 4 (by decide) (by decide),
    hmid 5 (by decide) (by decide), ?_, ?_, ?_, ?_, ?_⟩
  · exact (hmid 6 (by decide) (by decide)).trans (node.decodePort_portCode 3)
  · exact (hmid 7 (by decide) (by decide)).trans (node.decodePort_portCode 4)
  · exact (hmid 8 (by decide) (by decide)).trans (node.decodePort_portCode 5)
  · exact (hmid 9 (by decide) (by decide)).trans (node.decodePort_portCode 6)
  · exact (hmid 10 (by decide) (by decide)).trans (node.decodePort_portCode 7)

/-- Ports 11 to 15 as stored from the second extended quadlet. -/
lemma seenPort_second (h : 1 < node.extended.val) :
    node.seenPort 11 = .parent ∧ node.seenPort 12 = .notActive ∧
      node.seenPort 13 = decodePort (node.reserved 1).val ∧ node.seenPort 14 = node.ports 11 ∧
      node.seenPort 15 = node.ports 12 := by
  have hlast : ∀ port : Port, 11 ≤ port.val →
      node.seenPort port = decodePort (node.seenCode 1 (port.val - 11)) := by
    intro port hlow
    rw [seenPort, if_neg (by omega), if_neg (by omega), if_pos h]
  refine ⟨hlast 11 (by decide), hlast 12 (by decide), hlast 13 (by decide), ?_, ?_⟩
  · exact (hlast 14 (by decide)).trans (node.decodePort_portCode 11)
  · exact (hlast 15 (by decide)).trans (node.decodePort_portCode 12)

/-- Absent ports behind the last packet stay absent. -/
lemma seenPort_absent (port : Port) (h : carriedPorts node.extended.val ≤ port.val) :
    node.seenPort port = node.ports port := by
  have hport : port.val < 16 := port.isLt
  have hcarried : carriedPorts node.extended.val = min (3 + 8 * node.extended.val) 16 := rfl
  rw [node.absent port h, seenPort, if_neg (by omega)]
  by_cases hmid : port.val < 11
  · rw [if_pos hmid, if_neg (by omega)]
  · rw [if_neg hmid, if_neg (by omega)]

/-- All ports come back exactly when the extended ones happen to match the header bits. -/
lemma record_ports_iff : node.record.ports = node.ports ↔ node.Readable := by
  have hsame : node.record.ports = node.ports ↔ ∀ port, node.seenPort port = node.ports port := by
    rw [funext_iff]
    simp only [node.record_ports]
  rw [hsame]
  constructor
  · intro h
    constructor
    · intro hext
      obtain ⟨h3, h4, h5, h6, h7, h8, h9, h10⟩ := node.seenPort_first hext
      rw [h] at h3 h4 h5 h6 h7 h8 h9 h10
      exact ⟨h3, h4, h5, h6, h7, h8, h9, h10⟩
    · intro hext
      obtain ⟨h11, h12, h13, h14, h15⟩ := node.seenPort_second hext
      rw [h] at h11 h12 h13 h14 h15
      exact ⟨h11, h12, h13, h14, h15⟩
  · intro h port
    have hport : port.val < 16 := port.isLt
    by_cases habsent : carriedPorts node.extended.val ≤ port.val
    · exact node.seenPort_absent port habsent
    have hcarried : carriedPorts node.extended.val = min (3 + 8 * node.extended.val) 16 := rfl
    by_cases hlow : port.val < 3
    · rw [seenPort, if_pos hlow]
    by_cases hmid : port.val < 11
    · obtain ⟨h3, h4, h5, h6, h7, h8, h9, h10⟩ := node.seenPort_first (by omega)
      obtain ⟨r3, r4, r5, r6, r7, r8, r9, r10⟩ := h.first (by omega)
      obtain rfl | rfl | rfl | rfl | rfl | rfl | rfl | rfl : port = 3 ∨ port = 4 ∨ port = 5 ∨
          port = 6 ∨ port = 7 ∨ port = 8 ∨ port = 9 ∨ port = 10 := by
        simp only [Fin.ext_iff]
        change port.val = 3 ∨ port.val = 4 ∨ port.val = 5 ∨ port.val = 6 ∨ port.val = 7 ∨
          port.val = 8 ∨ port.val = 9 ∨ port.val = 10
        omega
      · rw [h3, r3]
      · rw [h4, r4]
      · rw [h5, r5]
      · rw [h6, r6]
      · rw [h7, r7]
      · rw [h8, r8]
      · rw [h9, r9]
      · rw [h10, r10]
    · obtain ⟨h11, h12, h13, h14, h15⟩ := node.seenPort_second (by omega)
      obtain ⟨r11, r12, r13, r14, r15⟩ := h.second (by omega)
      obtain rfl | rfl | rfl | rfl | rfl : port = 11 ∨ port = 12 ∨ port = 13 ∨ port = 14 ∨
          port = 15 := by
        simp only [Fin.ext_iff]
        change port.val = 11 ∨ port.val = 12 ∨ port.val = 13 ∨ port.val = 14 ∨ port.val = 15
        omega
      · rw [h11, r11]
      · rw [h12, r12]
      · rw [h13, r13]
      · rw [h14, r14]
      · rw [h15, r15]

/-! ### The whole stream -/

lemma decodeExtended_physicalId (record : SelfIDNodeRecord) (quad : ℕ) :
    (decodeExtended record quad).physicalId = record.physicalId := by
  unfold decodeExtended
  by_cases h0 : extractSeq quad = 0
  · rw [if_pos h0]
  rw [if_neg h0]
  by_cases h1 : extractSeq quad = 1
  · rw [if_pos h1]
  · rw [if_neg h1]

lemma decodeNode_physicalId (baseQuad : ℕ) (extQuads : List ℕ) :
    (decodeNode baseQuad extQuads).physicalId = extractPhyID baseQuad := by
  have hfold : ∀ (quads : List ℕ) (record : SelfIDNodeRecord),
      (quads.foldl decodeExtended record).physicalId = record.physicalId := by
    intro quads
    induction quads with
    | nil => exact fun _ => rfl
    | cons quad quads ih =>
      intro record
      rw [List.foldl_cons, ih, decodeExtended_physicalId]
  exact hfold extQuads (decodeBase baseQuad)

lemma record_physicalId : node.record.physicalId = node.phyId.val := by
  rw [record, decodeNode_physicalId, extractPhyID_baseQuadlet]

/-- A node's packets are parsed wherever they stand in the buffer. -/
lemma parseSequence_packets {front rest : List ℕ} {nodeMap : NodeMap}
    (hfresh : nodeMap node.phyId.val = none) :
    parseSequence (front ++ (node.packets ++ rest)) nodeMap (front.length, node.packets.length) =
      .ok (Function.update nodeMap node.phyId.val (some node.record)) := by
  have hpos : 0 < node.packets.length := Nat.succ_pos _
  have hbounds : ¬ ((front ++ (node.packets ++ rest)).length ≤ front.length ∨
      (front ++ (node.packets ++ rest)).length < front.length + node.packets.length) := by
    simp only [List.length_append]
    omega
  have hpackets : ((front ++ (node.packets ++ rest)).drop front.length).take node.packets.length =
      node.packets := by
    rw [List.drop_left, List.take_left]
  have hrange : ¬ kMaxFireWireNodes ≤ node.phyId.val := Nat.not_le.mpr node.phyId.isLt
  have hnew : ¬ (nodeMap node.phyId.val).isSome = true := by simp [hfresh]
  unfold parseSequence
  rw [if_neg hbounds, hpackets]
  simp only [packets, extractPhyID_baseQuadlet, if_neg hrange, if_neg hnew, record]

/-- The map after all nodes have been stored. -/
def storeAll (nodes : List PhyReport) (nodeMap : NodeMap) : NodeMap :=
  nodes.foldl (fun nodeMap node => Function.update nodeMap node.phyId.val (some node.record)) nodeMap

lemma foldlM_captureSequences (nodes : List PhyReport) (front : List ℕ) (nodeMap : NodeMap)
    (hnodup : (nodes.map (·.phyId)).Nodup) (hfresh : ∀ node ∈ nodes, nodeMap node.phyId.val = none) :
    (captureSequences front.length nodes).foldlM
        (parseSequence (front ++ nodes.flatMap packets)) nodeMap = .ok (storeAll nodes nodeMap) := by
  induction nodes generalizing front nodeMap with
  | nil => rfl
  | cons node nodes ih =>
    rw [List.map_cons, List.nodup_cons] at hnodup
    have hrest : ∀ other ∈ nodes,
        Function.update nodeMap node.phyId.val (some node.record) other.phyId.val = none := by
      intro other hother
      have hne : other.phyId ≠ node.phyId := by
        intro heq
        exact hnodup.1 (heq ▸ List.mem_map_of_mem hother)
      rw [Function.update_of_ne (fun h => hne (Fin.ext h))]
      exact hfresh other (List.mem_cons_of_mem _ hother)
    have hih := ih (front ++ node.packets) _ hnodup.2 hrest
    rw [List.length_append, List.append_assoc] at hih
    rw [captureSequences, List.foldlM_cons, List.flatMap_cons,
      node.parseSequence_packets (hfresh node List.mem_cons_self)]
    exact hih

lemma storeAll_of_notMem (nodes : List PhyReport) (nodeMap : NodeMap) {id : ℕ}
    (h : ∀ node ∈ nodes, node.phyId.val ≠ id) : storeAll nodes nodeMap id = nodeMap id := by
  induction nodes generalizing nodeMap with
  | nil => rfl
  | cons node nodes ih =>
    have hhead := h node List.mem_cons_self
    have htail := ih (Function.update nodeMap node.phyId.val (some node.record))
      fun other hother => h other (List.mem_cons_of_mem _ hother)
    rw [Function.update_of_ne hhead.symm] at htail
    exact htail

lemma storeAll_of_mem (nodes : List PhyReport) (nodeMap : NodeMap)
    (hnodup : (nodes.map (·.phyId)).Nodup) (node : PhyReport) (hnode : node ∈ nodes) :
    storeAll nodes nodeMap node.phyId.val = some node.record := by
  induction nodes generalizing nodeMap with
  | nil => cases hnode
  | cons head nodes ih =>
    rw [List.map_cons, List.nodup_cons] at hnodup
    rcases List.mem_cons.mp hnode with rfl | hmem
    · have hothers : ∀ other ∈ nodes, other.phyId.val ≠ node.phyId.val := by
        intro other hother heq
        exact hnodup.1 (Fin.ext heq ▸ List.mem_map_of_mem hother)
      have hkept := storeAll_of_notMem nodes
        (Function.update nodeMap node.phyId.val (some node.record)) hothers
      rw [Function.update_self] at hkept
      exact hkept
    · exact ih _ hnodup.2 hmem

/-- The nodes of a bus are numbered from 0 to the root. -/
def Numbered (nodes : List PhyReport) : Prop :=
  nodes ≠ [] ∧ (nodes.map (·.phyId.val)).Perm (List.range nodes.length)

variable {nodes : List PhyReport}

lemma Numbered.nodup (h : Numbered nodes) : (nodes.map (·.phyId)).Nodup := by
  have hvals : (nodes.map (·.phyId.val)).Nodup := h.2.nodup_iff.mpr List.nodup_range
  have hmap : (nodes.map (·.phyId)).map Fin.val = nodes.map (·.phyId.val) := List.map_map
  rw [← hmap] at hvals
  exact hvals.of_map

lemma Numbered.mem_iff (h : Numbered nodes) {id : ℕ} :
    (∃ node ∈ nodes, node.phyId.val = id) ↔ id < nodes.length := by
  rw [← List.mem_range, ← h.2.mem_iff, List.mem_map]

lemma Numbered.length_le (h : Numbered nodes) : nodes.length ≤ kMaxFireWireNodes := by
  have hpos : 0 < nodes.length := List.length_pos_iff.mpr h.1
  obtain ⟨node, -, hid⟩ := h.mem_iff.mpr (by omega : nodes.length - 1 < nodes.length)
  have hlt := node.phyId.isLt
  unfold kMaxFireWireNodes
  omega

lemma filterMap_range {f : NodeMap} {g : ℕ → SelfIDNodeRecord} {n : ℕ} (m : ℕ)
    (hsome : ∀ i < n, f i = some (g i)) (hnone : ∀ i, n ≤ i → f i = none) :
    (List.range (n + m)).filterMap f = (List.range n).map g := by
  induction m with
  | zero =>
    rw [Nat.add_zero, ← List.filterMap_eq_map]
    apply List.filterMap_congr
    intro i hi
    exact hsome i (List.mem_range.mp hi)
  | succ m ih =>
    rw [← Nat.add_assoc, List.range_succ, List.filterMap_append, ih, List.filterMap_cons,
      hnone (n + m) (by omega), List.filterMap_nil, List.append_nil]

/-- The records of a numbered bus: one per node, at the place of its ID. -/
lemma parse_capture (header : ℕ) (h : Numbered nodes) :
    ∃ records, parse (capture header nodes) = .ok records ∧
      ∀ node ∈ nodes, records[node.phyId.val]? = some node.record := by
  have hfold := foldlM_captureSequences nodes [header] (fun _ => none) h.nodup fun _ _ => rfl
  let stored := storeAll nodes fun _ => none
  have hsome : ∀ i < nodes.length, stored i = some ((stored i).getD {}) := by
    intro i hi
    obtain ⟨node, hnode, rfl⟩ := h.mem_iff.mpr hi
    have hmem := storeAll_of_mem nodes (fun _ => none) h.nodup node hnode
    simp only [stored, hmem, Option.getD_some]
  have hnone : ∀ i, nodes.length ≤ i → stored i = none := by
    intro i hi
    apply storeAll_of_notMem
    intro node hnode hid
    have hlt := h.mem_iff.mp ⟨node, hnode, hid⟩
    omega
  have hrecords : NodeMap.records stored =
      (List.range nodes.length).map fun i => (stored i).getD {} := by
    have hsize : kMaxFireWireNodes = nodes.length + (kMaxFireWireNodes - nodes.length) := by
      have := h.length_le
      omega
    rw [NodeMap.records, hsize]
    exact filterMap_range _ hsome hnone
  have hids : (NodeMap.records stored).map (·.physicalId) = List.range nodes.length := by
    rw [hrecords, List.map_map]
    conv_rhs => rw [← List.map_id (List.range nodes.length)]
    apply List.map_congr_left
    intro i hi
    obtain ⟨node, hnode, rfl⟩ := h.mem_iff.mpr (List.mem_range.mp hi)
    have hmem := storeAll_of_mem nodes (fun _ => none) h.nodup node hnode
    simp only [Function.comp_apply, stored, hmem, Option.getD_some, record_physicalId, id_eq]
  have hlength : (NodeMap.records stored).length = nodes.length := by
    rw [hrecords, List.length_map, List.length_range]
  have hne : NodeMap.records stored ≠ [] := by
    rw [← List.length_pos_iff, hlength]
    exact List.length_pos_iff.mpr h.1
  have hvalid : validateContiguousPhysicalIds (NodeMap.records stored) = true := by
    unfold validateContiguousPhysicalIds
    rw [hids, hlength, beq_self_eq_true, Bool.and_true, Bool.not_eq_true', List.isEmpty_eq_false_iff]
    exact hne
  refine ⟨NodeMap.records stored, ?_, ?_⟩
  · unfold parse capture
    dsimp only
    rw [Bool.not_true, if_neg Bool.false_ne_true, if_neg (List.cons_ne_nil _ _)]
    change (captureSequences 1 nodes).foldlM
      (parseSequence (header :: nodes.flatMap packets)) (fun _ => none) = .ok stored at hfold
    rw [hfold]
    change (if NodeMap.records stored = [] then _ else _) = _
    rw [if_neg hne, hvalid]
    rfl
  · intro node hnode
    have hlt := h.mem_iff.mp ⟨node, hnode, rfl⟩
    have hmem := storeAll_of_mem nodes (fun _ => none) h.nodup node hnode
    rw [hrecords, List.getElem?_map, List.getElem?_range hlt, Option.map_some]
    simp only [stored, hmem, Option.getD_some]

/-- Parsing a numbered bus gives every node its record, with the ports it reported exactly if it
sent no extended quadlet or its extended ports repeat the header bits. -/
theorem parse_ports_iff (header : ℕ) (h : Numbered nodes) :
    ∃ records, parse (capture header nodes) = .ok records ∧
      ∀ node ∈ nodes, ∃ record, records[node.phyId.val]? = some record ∧
        (record.ports = node.ports ↔ node.Readable) := by
  obtain ⟨records, hparse, hrecords⟩ := parse_capture header h
  refine ⟨records, hparse, fun node hnode => ?_⟩
  exact ⟨node.record, hrecords node hnode, node.record_ports_iff⟩

/-- A PHY with three unconnected ports. -/
def threePort : PhyReport where
  phyId := 0
  ports := fun port => if port.val < 3 then .notActive else .notPresent
  extended := 0
  absent := by decide

/-- A PHY with four unconnected ports. -/
def fourPort : PhyReport where
  phyId := 0
  ports := fun port => if port.val < 4 then .notActive else .notPresent
  extended := 1
  absent := by decide

theorem threePort_read :
    Numbered [threePort] ∧ ∃ records, parse (capture 0 [threePort]) = .ok records ∧
      ∃ record, records[0]? = some record ∧ record.ports = threePort.ports := by
  have hnumbered : Numbered [threePort] := ⟨List.cons_ne_nil _ _, List.Perm.refl _⟩
  obtain ⟨records, hparse, hrecords⟩ := parse_ports_iff 0 hnumbered
  obtain ⟨record, hrecord, hiff⟩ := hrecords threePort List.mem_cons_self
  refine ⟨hnumbered, records, hparse, record, hrecord, hiff.mpr ⟨?_, ?_⟩⟩
  · exact fun hcon => absurd hcon (by decide)
  · exact fun hcon => absurd hcon (by decide)

/-- Its fourth port is read as a Parent, and the state of that port turns up at the seventh. -/
theorem fourPort_misread :
    Numbered [fourPort] ∧ fourPort.ports 3 = .notActive ∧ fourPort.ports 6 = .notPresent ∧
      (parse (capture 0 [fourPort])).toOption.map (fun records => records.map fun record =>
        (record.ports 3, record.ports 6)) = some [(.parent, .notActive)] :=
  ⟨⟨List.cons_ne_nil _ _, List.Perm.refl _⟩, rfl, rfl, by decide⟩

end PhyReport

end ASFireWire.Topology
