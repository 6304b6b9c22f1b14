import ASFireWire.TopologyNormalizer

/-! Rooted cable trees and the Self-ID process that flattens them. A tree lists each node's
children by increasing port number; the self-ID process numbers the nodes in post-order, so
a subtree occupies an interval of physical IDs that ends at its root. -/
namespace ASFireWire.Topology

/-- What a PHY reports about itself apart from its cables. -/
structure PhyAttributes where
  linkActive : Bool := true
  contender : Bool := false
  initiatedReset : Bool := false
  gapCount : ℕ := 63
  powerClass : ℕ := 0
  speedCode : ℕ := 0
  maxSpeedMbps : ℕ := 0
  baseRaw : ℕ := 0
  portCount : ℕ := 0
  hasBasePacket : Bool := true
  idlePort : Port → Bool := fun _ => false

/- An edge joins `port` of the parent to `upPort` of the child. -/
mutual
inductive BusTree
  | node (phy : PhyAttributes) (children : BusForest)
inductive BusForest
  | nil
  | cons (port upPort : Port) (child : BusTree) (rest : BusForest)
end

/-- Induction along the list of siblings. -/
@[elab_as_elim]
theorem BusForest.siblings {P : BusForest → Prop} (nil : P .nil)
    (cons : ∀ port upPort child rest, P rest → P (.cons port upPort child rest)) : ∀ f, P f
  | .nil => nil
  | .cons port upPort child rest => cons port upPort child rest (BusForest.siblings nil cons rest)

def BusForest.ports : BusForest → List Port
  | .nil => []
  | .cons port _ _ rest => port :: rest.ports

def BusTree.childPorts : BusTree → List Port
  | .node _ children => children.ports

mutual
def BusTree.size : BusTree → ℕ
  | .node _ children => children.size + 1
def BusForest.size : BusForest → ℕ
  | .nil => 0
  | .cons _ _ child rest => child.size + rest.size
end

/- Child ports are distinct and listed in increasing order, and a node's Parent port is not
one of its Child ports. -/
mutual
def BusTree.Valid : BusTree → Prop
  | .node _ children => children.Valid
def BusForest.Valid : BusForest → Prop
  | .nil => True
  | .cons port upPort child rest =>
      child.Valid ∧ upPort ∉ child.childPorts ∧ (∀ p ∈ rest.ports, port < p) ∧ rest.Valid
end

/-- Port states a node reports: its child cables, its parent cable, everything else idle. -/
def portStates (phy : PhyAttributes) (up : Option Port) (children : List Port) (port : Port) :
    PortState :=
  if port ∈ children then .child
  else if up = some port then .parent
  else if phy.idlePort port then .notActive
  else .notPresent

def selfIDRecord (phy : PhyAttributes) (up : Option Port) (children : List Port) (id : ℕ) :
    SelfIDNodeRecord where
  physicalId := id
  linkActive := phy.linkActive
  contender := phy.contender
  initiatedReset := phy.initiatedReset
  gapCount := phy.gapCount
  powerClass := phy.powerClass
  speedCode := phy.speedCode
  maxSpeedMbps := phy.maxSpeedMbps
  baseRaw := phy.baseRaw
  ports := portStates phy up children
  portCount := phy.portCount
  hasBasePacket := phy.hasBasePacket

/- Post-order records with physical IDs counted from `start`. -/
mutual
def BusTree.records (up : Option Port) (start : ℕ) : BusTree → List SelfIDNodeRecord
  | .node phy children =>
      children.records start ++ [selfIDRecord phy up children.ports (start + children.size)]
def BusForest.records (start : ℕ) : BusForest → List SelfIDNodeRecord
  | .nil => []
  | .cons _ upPort child rest =>
      child.records (some upPort) start ++ rest.records (start + child.size)
end

/-- The records of a whole bus: the root reports no Parent port and has the highest ID. -/
def BusTree.selfIDRecords (t : BusTree) : List SelfIDNodeRecord := t.records none 0

/-- Physical ID of the root of a tree whose first node is numbered `start`. -/
def BusTree.rootIdFrom (start : ℕ) : BusTree → ℕ
  | .node _ children => start + children.size

structure BusEdge where
  parent : ℕ
  parentPort : Port
  child : ℕ
  childPort : Port
  deriving DecidableEq, Repr

def BusForest.rootEdges (parent : ℕ) (start : ℕ) : BusForest → List BusEdge
  | .nil => []
  | .cons port upPort child rest =>
      ⟨parent, port, child.rootIdFrom start, upPort⟩ :: rest.rootEdges parent (start + child.size)

mutual
def BusTree.edgesFrom (start : ℕ) : BusTree → List BusEdge
  | .node _ children =>
      children.rootEdges (start + children.size) start ++ children.edgesFrom start
def BusForest.edgesFrom (start : ℕ) : BusForest → List BusEdge
  | .nil => []
  | .cons _ _ child rest => rest.edgesFrom (start + child.size) ++ child.edgesFrom start
end

/-- All cables of the bus, named by the physical IDs of the self-ID process. -/
def BusTree.edges (t : BusTree) : List BusEdge := t.edgesFrom 0

lemma BusTree.size_pos (t : BusTree) : 0 < t.size := by
  cases t
  simp [BusTree.size]

lemma BusTree.rootIdFrom_add_one (t : BusTree) (start : ℕ) :
    t.rootIdFrom start + 1 = start + t.size := by
  cases t
  simp [BusTree.rootIdFrom, BusTree.size, Nat.add_assoc]

mutual
theorem BusTree.records_length (t : BusTree) (up : Option Port) (start : ℕ) :
    (t.records up start).length = t.size := by
  cases t with
  | node phy children =>
    simp [BusTree.records, BusTree.size, children.records_length start]
theorem BusForest.records_length (f : BusForest) (start : ℕ) :
    (f.records start).length = f.size := by
  cases f with
  | nil => rfl
  | cons port upPort child rest =>
    simp [BusForest.records, BusForest.size, child.records_length (some upPort) start,
      rest.records_length (start + child.size)]
end

/- The record at position `i` of the flattened tree carries the ID `start + i`. -/
mutual
theorem BusTree.records_physicalId (t : BusTree) (up : Option Port) (start : ℕ) :
    (t.records up start).map (·.physicalId) = List.range' start t.size := by
  cases t with
  | node phy children =>
    simp only [BusTree.records, List.map_append, children.records_physicalId start,
      List.map_cons, List.map_nil, selfIDRecord, BusTree.size]
    rw [List.range'_concat]
    simp
theorem BusForest.records_physicalId (f : BusForest) (start : ℕ) :
    (f.records start).map (·.physicalId) = List.range' start f.size := by
  cases f with
  | nil => rfl
  | cons port upPort child rest =>
    simp only [BusForest.records, List.map_append, child.records_physicalId (some upPort) start,
      rest.records_physicalId (start + child.size), BusForest.size]
    rw [List.range'_append_1]
end

end ASFireWire.Topology
