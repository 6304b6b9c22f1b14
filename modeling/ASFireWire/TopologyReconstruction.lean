import ASFireWire.BusTree

/-! The stack algorithm undoes the self-ID process: on the records of any cable tree it
recovers exactly the cables. The node array after any prefix of the run is `wired`: the
reported data of every node with the links of the cables found so far. -/
namespace ASFireWire.Topology

/-- A cable occupies this port of this node. -/
def BusEdge.Touches (e : BusEdge) (id : ℕ) (port : Port) : Prop :=
  (e.child = id ∧ e.childPort = port) ∨ (e.parent = id ∧ e.parentPort = port)

instance (e : BusEdge) (id : ℕ) (port : Port) : Decidable (e.Touches id port) :=
  inferInstanceAs (Decidable (_ ∨ _))

/-- Two cables share no port. -/
def BusEdge.Apart (e e' : BusEdge) : Prop :=
  ¬ e'.Touches e.parent e.parentPort ∧ ¬ e'.Touches e.child e.childPort

/-- The link that a list of cables, most recent first, puts on a port. -/
def linkOf : List BusEdge → ℕ → Port → TopologyPortLink
  | [], _, _ => {}
  | e :: es, id, port =>
    if e.child = id ∧ e.childPort = port then ⟨true, e.parent, e.parentPort⟩
    else if e.parent = id ∧ e.parentPort = port then ⟨true, e.child, e.childPort⟩
    else linkOf es id port

def Untouched (es : List BusEdge) (id : ℕ) (port : Port) : Prop :=
  ∀ e ∈ es, ¬ e.Touches id port

lemma linkOf_of_untouched {es : List BusEdge} {id : ℕ} {port : Port} (h : Untouched es id port) :
    linkOf es id port = {} := by
  induction es with
  | nil => rfl
  | cons e es ih =>
    have he := h e (by simp)
    simp only [BusEdge.Touches, not_or] at he
    rw [linkOf, if_neg he.1, if_neg he.2]
    exact ih fun e' he' => h e' (by simp [he'])

lemma linkOf_cons_of_not_touches {e : BusEdge} {es : List BusEdge} {id : ℕ} {port : Port}
    (h : ¬ e.Touches id port) : linkOf (e :: es) id port = linkOf es id port := by
  simp only [BusEdge.Touches, not_or] at h
  rw [linkOf, if_neg h.1, if_neg h.2]

lemma linkOf_of_mem {es : List BusEdge} (hap : es.Pairwise BusEdge.Apart)
    (hne : ∀ e ∈ es, e.parent ≠ e.child) {e : BusEdge} (he : e ∈ es) :
    linkOf es e.parent e.parentPort = ⟨true, e.child, e.childPort⟩ ∧
      linkOf es e.child e.childPort = ⟨true, e.parent, e.parentPort⟩ := by
  induction es with
  | nil => simp at he
  | cons a es ih =>
    rw [List.pairwise_cons] at hap
    rcases List.mem_cons.mp he with rfl | hmem
    · have hn := hne e (by simp)
      refine ⟨?_, by simp [linkOf]⟩
      rw [linkOf, if_neg fun h => hn h.1.symm, if_pos ⟨rfl, rfl⟩]
    · obtain ⟨h1, h2⟩ := ih hap.2 (fun x hx => hne x (by simp [hx])) hmem
      have ha := hap.1 e hmem
      have hp : ¬ a.Touches e.parent e.parentPort := by
        rintro (⟨hc, hcp⟩ | ⟨hc, hcp⟩)
        · exact ha.2 (Or.inr ⟨hc.symm, hcp.symm⟩)
        · exact ha.1 (Or.inr ⟨hc.symm, hcp.symm⟩)
      have hc : ¬ a.Touches e.child e.childPort := by
        rintro (⟨hc, hcp⟩ | ⟨hc, hcp⟩)
        · exact ha.2 (Or.inl ⟨hc.symm, hcp.symm⟩)
        · exact ha.1 (Or.inl ⟨hc.symm, hcp.symm⟩)
      exact ⟨by rw [linkOf_cons_of_not_touches hp, h1],
        by rw [linkOf_cons_of_not_touches hc, h2]⟩

/-! ### Shape of the cable list -/

def BusForest.rootPorts (start : ℕ) : BusForest → List (ℕ × Port)
  | .nil => []
  | .cons _ upPort child rest =>
      (child.rootIdFrom start, upPort) :: rest.rootPorts (start + child.size)

def BusForest.roots (start : ℕ) (f : BusForest) : List ℕ := (f.rootPorts start).map Prod.fst

lemma BusForest.rootPorts_bounds (f : BusForest) (start : ℕ) :
    ∀ x ∈ f.rootPorts start, start ≤ x.1 ∧ x.1 < start + f.size := by
  induction f using BusForest.siblings generalizing start with
  | nil => simp [BusForest.rootPorts]
  | cons port upPort child rest ih =>
    intro x hx
    have hr := child.rootIdFrom_add_one start
    have hpos := child.size_pos
    simp only [BusForest.rootPorts, List.mem_cons] at hx
    simp only [BusForest.size]
    rcases hx with rfl | hx
    · dsimp only
      omega
    · have := ih (start + child.size) x hx
      omega

lemma BusForest.rootEdges_spec (f : BusForest) (parent start : ℕ) :
    ∀ e ∈ f.rootEdges parent start,
      e.parent = parent ∧ e.parentPort ∈ f.ports ∧ (e.child, e.childPort) ∈ f.rootPorts start := by
  induction f using BusForest.siblings generalizing start with
  | nil => simp [BusForest.rootEdges]
  | cons port upPort child rest ih =>
    intro e he
    simp only [BusForest.rootEdges, List.mem_cons] at he
    rcases he with rfl | he
    · simp [BusForest.ports, BusForest.rootPorts]
    · obtain ⟨h1, h2, h3⟩ := ih (start + child.size) e he
      exact ⟨h1, by simp [BusForest.ports, h2], by simp [BusForest.rootPorts, h3]⟩

lemma BusForest.rootEdges_bounds {f : BusForest} {parent start : ℕ} {e : BusEdge}
    (he : e ∈ f.rootEdges parent start) :
    e.parent = parent ∧ start ≤ e.child ∧ e.child < start + f.size := by
  obtain ⟨hp, -, hr⟩ := f.rootEdges_spec parent start e he
  exact ⟨hp, f.rootPorts_bounds start _ hr⟩

mutual
theorem BusTree.edgesFrom_bounds (t : BusTree) (start : ℕ) :
    ∀ e ∈ t.edgesFrom start, start ≤ e.child ∧ e.child < e.parent ∧ e.parent < start + t.size := by
  cases t with
  | node phy children =>
    intro e he
    simp only [BusTree.edgesFrom, List.mem_append] at he
    simp only [BusTree.size]
    rcases he with he | he
    · have := BusForest.rootEdges_bounds he
      omega
    · have := children.edgesFrom_bounds start e he
      omega
theorem BusForest.edgesFrom_bounds (f : BusForest) (start : ℕ) :
    ∀ e ∈ f.edgesFrom start, start ≤ e.child ∧ e.child < e.parent ∧ e.parent < start + f.size := by
  cases f with
  | nil => simp [BusForest.edgesFrom]
  | cons port upPort child rest =>
    intro e he
    simp only [BusForest.edgesFrom, List.mem_append] at he
    simp only [BusForest.size]
    rcases he with he | he
    · have := rest.edgesFrom_bounds (start + child.size) e he
      omega
    · have := child.edgesFrom_bounds start e he
      omega
end

/-- Inside a tree, the cables of the root use its Child ports only. -/
lemma BusTree.edgesFrom_root_port {t : BusTree} {start : ℕ} {e : BusEdge}
    (he : e ∈ t.edgesFrom start) (hp : e.parent = t.rootIdFrom start) :
    e.parentPort ∈ t.childPorts := by
  cases t with
  | node phy children =>
    simp only [BusTree.edgesFrom, List.mem_append] at he
    rcases he with he | he
    · exact (children.rootEdges_spec _ _ e he).2.1
    · have := children.edgesFrom_bounds start e he
      simp only [BusTree.rootIdFrom] at hp
      omega

/-- The cables below the roots of a forest leave the roots' Parent ports alone. -/
lemma BusForest.rootPorts_untouched (f : BusForest) (hv : f.Valid) (start : ℕ) :
    ∀ x ∈ f.rootPorts start, Untouched (f.edgesFrom start) x.1 x.2 := by
  induction f using BusForest.siblings generalizing start with
  | nil => simp [BusForest.rootPorts]
  | cons port upPort child rest ih =>
    obtain ⟨-, hup, -, hrest⟩ := hv
    intro x hx e he
    have hroot := child.rootIdFrom_add_one start
    simp only [BusForest.edgesFrom, List.mem_append] at he
    simp only [BusForest.rootPorts, List.mem_cons] at hx
    rcases hx with rfl | hx
    · rcases he with he | he
      · have := rest.edgesFrom_bounds _ e he
        rintro (⟨h, -⟩ | ⟨h, -⟩) <;> dsimp only at h <;> omega
      · have := child.edgesFrom_bounds start e he
        rintro (⟨h, -⟩ | ⟨h, hport⟩)
        · dsimp only at h
          omega
        · have hmem := BusTree.edgesFrom_root_port he h
          rw [hport] at hmem
          exact hup hmem
    · have hb := rest.rootPorts_bounds _ x hx
      rcases he with he | he
      · exact ih hrest _ x hx e he
      · have := child.edgesFrom_bounds start e he
        rintro (⟨h, -⟩ | ⟨h, -⟩) <;> omega

lemma BusForest.rootEdges_apart (f : BusForest) (hv : f.Valid) {parent start : ℕ}
    (hp : start + f.size ≤ parent) : (f.rootEdges parent start).Pairwise BusEdge.Apart := by
  induction f using BusForest.siblings generalizing start with
  | nil => simp [BusForest.rootEdges]
  | cons port upPort child rest ih =>
    obtain ⟨-, -, hlt, hrest⟩ := hv
    have hroot := child.rootIdFrom_add_one start
    simp only [BusForest.size] at hp
    simp only [BusForest.rootEdges, List.pairwise_cons]
    refine ⟨fun e he => ?_, ih hrest (by omega)⟩
    obtain ⟨h1, h2, h3⟩ := rest.rootEdges_spec _ _ e he
    have hb := rest.rootPorts_bounds _ _ h3
    dsimp only at hb
    constructor
    · rintro (⟨h, -⟩ | ⟨-, h⟩)
      · dsimp only at h
        omega
      · exact absurd (hlt _ h2) (by simp [h])
    · rintro (⟨h, -⟩ | ⟨h, -⟩) <;> dsimp only at h <;> omega

mutual
theorem BusTree.edgesFrom_apart (t : BusTree) (hv : t.Valid) (start : ℕ) :
    (t.edgesFrom start).Pairwise BusEdge.Apart := by
  cases t with
  | node phy children =>
    simp only [BusTree.edgesFrom, List.pairwise_append]
    refine ⟨children.rootEdges_apart hv le_rfl, children.edgesFrom_apart hv start, ?_⟩
    intro a ha b hb
    have hbb := children.edgesFrom_bounds start b hb
    obtain ⟨hp, -, hr⟩ := children.rootEdges_spec _ _ a ha
    refine ⟨?_, children.rootPorts_untouched hv start _ hr b hb⟩
    rintro (⟨h, -⟩ | ⟨h, -⟩) <;> omega
theorem BusForest.edgesFrom_apart (f : BusForest) (hv : f.Valid) (start : ℕ) :
    (f.edgesFrom start).Pairwise BusEdge.Apart := by
  cases f with
  | nil => simp [BusForest.edgesFrom]
  | cons port upPort child rest =>
    obtain ⟨hchild, -, -, hrest⟩ := hv
    simp only [BusForest.edgesFrom, List.pairwise_append]
    refine ⟨rest.edgesFrom_apart hrest _, child.edgesFrom_apart hchild start, ?_⟩
    intro a ha b hb
    have hab := rest.edgesFrom_bounds _ a ha
    have hbb := child.edgesFrom_bounds start b hb
    constructor <;> rintro (⟨h, -⟩ | ⟨h, -⟩) <;> omega
end

/-! ### One step of the run -/

def wiredNode (rootId localId : ℕ) (es : List BusEdge) (r : SelfIDNodeRecord) :
    TopologyNodeRecord :=
  { toNodeRecord rootId localId r with links := linkOf es r.physicalId }

/-- The node array with the links of the cables found so far. -/
def wired (rootId localId : ℕ) (recs : List SelfIDNodeRecord) (es : List BusEdge) :
    List TopologyNodeRecord :=
  recs.map (wiredNode rootId localId es)

section Run
variable {rootId localId : ℕ} {recs : List SelfIDNodeRecord}

/-- IDs equal positions. -/
def Numbered (recs : List SelfIDNodeRecord) : Prop :=
  ∀ (i : ℕ) (r : SelfIDNodeRecord), recs[i]? = some r → r.physicalId = i

lemma wired_getElem? {es : List BusEdge} {i : ℕ} {r : SelfIDNodeRecord} (h : recs[i]? = some r) :
    (wired rootId localId recs es)[i]? = some (wiredNode rootId localId es r) := by
  simp [wired, h]

lemma wired_nil : wired rootId localId recs [] = recs.map (toNodeRecord rootId localId) := by
  simp only [wired]
  congr 1

lemma connectBidirectional_wired (hn : Numbered recs) {es : List BusEdge} (e : BusEdge)
    (hp : e.parent < recs.length) (hc : e.child < recs.length) (hne : e.parent ≠ e.child) :
    connectBidirectional (wired rootId localId recs es) e.parent e.parentPort e.child e.childPort =
      wired rootId localId recs (e :: es) := by
  have hp' := List.getElem?_eq_getElem hp
  have hc' := List.getElem?_eq_getElem hc
  simp only [connectBidirectional, wired_getElem? hp', wired_getElem? hc']
  apply List.ext_getElem?
  intro i
  simp only [List.getElem?_modify]
  cases hi : recs[i]? with
  | none => simp [wired, hi]
  | some r =>
    have hid := hn i r hi
    have hpid := hn _ _ hp'
    have hcid := hn _ _ hc'
    simp only [wired_getElem? hi, Option.map_eq_map, Option.map_some, setLink, wiredNode, toNodeRecord, hpid, hcid, hid]
    congr 1
    rcases eq_or_ne e.parent i with rfl | h1
    · rw [if_neg hne.symm, if_pos rfl]
      simp only [TopologyNodeRecord.mk.injEq, true_and, and_true]
      funext q
      by_cases hq : q = e.parentPort
      · subst hq
        simp [linkOf, hne.symm]
      · simp [Function.update_of_ne hq, linkOf, hne.symm, Ne.symm hq]
    · rcases eq_or_ne e.child i with rfl | h2
      · rw [if_pos rfl, if_neg h1]
        simp only [TopologyNodeRecord.mk.injEq, true_and, and_true]
        funext q
        by_cases hq : q = e.childPort
        · subst hq
          simp [linkOf]
        · simp [Function.update_of_ne hq, linkOf, hne, Ne.symm hq]
      · rw [if_neg h2, if_neg h1]
        simp only [TopologyNodeRecord.mk.injEq, true_and, and_true]
        funext q
        simp [linkOf, h1, h2]

/-- A node whose single Parent port carries no cable yet is waiting on exactly that port. -/
lemma firstUnresolvedParentPort_wired {es : List BusEdge} {phy : PhyAttributes} {up : Port}
    {children : List Port} {id : ℕ} (hup : up ∉ children) (hfree : Untouched es id up) :
    firstUnresolvedParentPort
      (wiredNode rootId localId es (selfIDRecord phy (some up) children id)) = some up := by
  have hself : portStates phy (some up) children up = .parent := by simp [portStates, hup]
  have honly : ∀ q, portStates phy (some up) children q = .parent → up = q := by
    intro q hq
    by_contra hne
    simp only [portStates, Option.some.injEq, hne, if_false] at hq
    split_ifs at hq
  have hconn : (linkOf es id up).connected = false := by rw [linkOf_of_untouched hfree]
  have hfound : ((List.finRange kMaxPhyPorts).find? fun port =>
      portStates phy (some up) children port = .parent &&
        !(linkOf es id port).connected).isSome := by
    rw [List.find?_isSome]
    exact ⟨up, by simp, by simp [hself, hconn]⟩
  obtain ⟨q, hq⟩ := Option.isSome_iff_exists.mp hfound
  have hsome := List.find?_some hq
  simp only [Bool.and_eq_true, decide_eq_true_eq] at hsome
  exact hq.trans (congrArg some (honly q hsome.1).symm)

lemma BusForest.ports_pairwise (f : BusForest) (hv : f.Valid) : f.ports.Pairwise (· < ·) := by
  induction f using BusForest.siblings with
  | nil => simp [BusForest.ports]
  | cons port upPort child rest ih =>
    obtain ⟨-, -, hlt, hrest⟩ := hv
    simp only [BusForest.ports, List.pairwise_cons]
    exact ⟨hlt, ih hrest⟩

/-- The inner loop visits the Child ports of the node, last child first. -/
lemma descendingPorts_filter (f : BusForest) (hv : f.Valid) :
    descendingPorts.filter (fun port => decide (port ∈ f.ports)) = f.ports.reverse := by
  rw [descendingPorts, List.filter_reverse]
  congr 1
  have hs : ((List.finRange kMaxPhyPorts).filter fun port => decide (port ∈ f.ports)).Pairwise
      (· < ·) := (List.sortedLT_finRange kMaxPhyPorts).pairwise.filter _
  refine hs.eq_of_mem_iff (f.ports_pairwise hv) fun port => ?_
  simp

/-- Records of a subtree sit in the array from position `start` on. -/
def PlacedAt (recs part : List SelfIDNodeRecord) (start : ℕ) : Prop :=
  ∃ before after, recs = before ++ part ++ after ∧ before.length = start

lemma PlacedAt.left {a b : List SelfIDNodeRecord} {start : ℕ} (h : PlacedAt recs (a ++ b) start) :
    PlacedAt recs a start := by
  obtain ⟨before, after, rfl, hlen⟩ := h
  exact ⟨before, b ++ after, by simp, hlen⟩

lemma PlacedAt.right {a b : List SelfIDNodeRecord} {start : ℕ} (h : PlacedAt recs (a ++ b) start) :
    PlacedAt recs b (start + a.length) := by
  obtain ⟨before, after, rfl, hlen⟩ := h
  exact ⟨before ++ a, after, by simp, by simp [hlen]⟩

lemma PlacedAt.singleton {r : SelfIDNodeRecord} {start : ℕ} (h : PlacedAt recs [r] start) :
    recs[start]? = some r := by
  obtain ⟨before, after, rfl, rfl⟩ := h
  simp

/-- The tree's root record, wherever the tree is placed. -/
lemma BusTree.root_record {t : BusTree} {up : Option Port} {start : ℕ}
    (h : PlacedAt recs (t.records up start) start) :
    ∃ phy, recs[t.rootIdFrom start]? =
      some (selfIDRecord phy up t.childPorts (t.rootIdFrom start)) := by
  cases t with
  | node phy children =>
    refine ⟨phy, ?_⟩
    have hr := h.right.singleton
    rwa [children.records_length] at hr

/-- The children of one node are taken off the stack, each at its own port. -/
lemma resolveChildPorts_wired (hn : Numbered recs) {id : ℕ} {current : TopologyNodeRecord}
    (hid : id < recs.length) (f : BusForest) (hv : f.Valid) {start : ℕ}
    (hports : ∀ port ∈ f.ports, current.reportedPorts port = .child)
    (hplace : PlacedAt recs (f.records start) start) (hlast : start + f.size ≤ id)
    {es : List BusEdge} (hfree : ∀ x ∈ f.rootPorts start, Untouched es x.1 x.2) (st : List ℕ) :
    f.ports.reverse.foldlM (resolveChildPort id current)
        ⟨wired rootId localId recs es, (f.roots start).reverse ++ st⟩ =
      .ok ⟨wired rootId localId recs (f.rootEdges id start ++ es), st⟩ := by
  induction f using BusForest.siblings generalizing start st with
  | nil => rfl
  | cons port upPort child rest ih =>
    obtain ⟨-, hup, -, hrest⟩ := hv
    have hroot := child.rootIdFrom_add_one start
    simp only [BusForest.size] at hlast
    simp only [BusForest.records] at hplace
    have hright := hplace.right
    rw [child.records_length] at hright
    have hstep := ih hrest (fun p hp => hports p (by simp [BusForest.ports, hp])) hright
      (by omega) (fun x hx => hfree x (by simp [BusForest.rootPorts, hx]))
      (child.rootIdFrom start :: st)
    simp only [BusForest.ports, BusForest.roots, BusForest.rootPorts, List.map_cons,
      List.reverse_cons, List.append_assoc, List.singleton_append, List.foldlM_append]
    simp only [BusForest.roots] at hstep
    rw [hstep]
    obtain ⟨phy, hrec⟩ := BusTree.root_record hplace.left
    have huntouched : Untouched (rest.rootEdges id (start + child.size) ++ es)
        (child.rootIdFrom start) upPort := by
      intro e he
      rcases List.mem_append.mp he with he | he
      · have := BusForest.rootEdges_bounds he
        rintro (⟨h, -⟩ | ⟨h, -⟩) <;> omega
      · exact hfree (child.rootIdFrom start, upPort) (by simp [BusForest.rootPorts]) e he
    have hconn : connectBidirectional
        (wired rootId localId recs (rest.rootEdges id (start + child.size) ++ es)) id port
        (child.rootIdFrom start) upPort = wired rootId localId recs
          (⟨id, port, child.rootIdFrom start, upPort⟩ ::
            (rest.rootEdges id (start + child.size) ++ es)) :=
      connectBidirectional_wired hn ⟨id, port, child.rootIdFrom start, upPort⟩ hid
        (by dsimp only; omega) (by dsimp only; omega)
    have hbind : ∀ s : BuildState, ((.ok s : Except TopologyBuildError BuildState) >>=
        fun s => [port].foldlM (resolveChildPort id current) s) =
        resolveChildPort id current s port := by
      intro s
      change [port].foldlM (resolveChildPort id current) s = _
      simp only [List.foldlM_cons, List.foldlM_nil, bind_pure]
    rw [hbind]
    simp only [resolveChildPort, hports port (by simp [BusForest.ports]), wired_getElem? hrec,
      firstUnresolvedParentPort_wired hup huntouched, hconn, BusForest.rootEdges, ne_eq,
      not_true_eq_false, if_false, List.cons_append]

/-- One iteration of the outer loop, at the root of a placed tree whose subtrees are done. -/
lemma processNode_wired (hn : Numbered recs) {phy : PhyAttributes} {up : Option Port}
    {f : BusForest} (hv : f.Valid) {start : ℕ}
    (hplace : PlacedAt recs ((BusTree.node phy f).records up start) start)
    (hup : start + f.size < rootId → ∃ port, up = some port ∧ port ∉ f.ports)
    {es : List BusEdge} (hes : ∀ e ∈ es, e.child < e.parent ∧ e.parent < start + f.size)
    (hfree : ∀ x ∈ f.rootPorts start, Untouched es x.1 x.2) (st : List ℕ) :
    processNode rootId ⟨wired rootId localId recs es, (f.roots start).reverse ++ st⟩
        (start + f.size) =
      .ok ⟨wired rootId localId recs (f.rootEdges (start + f.size) start ++ es),
        if start + f.size < rootId then (start + f.size) :: st else st⟩ := by
  have hrec := hplace.right.singleton
  rw [f.records_length] at hrec
  have hlen : start + f.size < recs.length := (List.getElem?_eq_some_iff.mp hrec).1
  have hid := hn _ _ hrec
  set current := wiredNode rootId localId es (selfIDRecord phy up f.ports (start + f.size))
  have hports : ∀ port, current.reportedPorts port = .child ↔ port ∈ f.ports := by
    intro port
    change portStates phy up f.ports port = .child ↔ port ∈ f.ports
    unfold portStates
    split_ifs with h <;> simp [h]
  have hskip : ∀ s port, resolveChildPort (start + f.size) current s port =
      if decide (port ∈ f.ports) then resolveChildPort (start + f.size) current s port
        else pure s := by
    intro s port
    by_cases h : port ∈ f.ports
    · simp [h]
    · simp [h, resolveChildPort, hports, pure, Except.pure]
  have hfold : descendingPorts.foldlM (resolveChildPort (start + f.size) current)
        ⟨wired rootId localId recs es, (f.roots start).reverse ++ st⟩ =
      .ok ⟨wired rootId localId recs (f.rootEdges (start + f.size) start ++ es), st⟩ := by
    rw [funext fun s => funext (hskip s), ← List.foldlM_filter, descendingPorts_filter f hv]
    exact resolveChildPorts_wired hn hlen f hv (fun port h => (hports port).mpr h) hplace.left
      le_rfl hfree st
  simp only [processNode, wired_getElem? hrec]
  rw [if_neg (by simpa [wiredNode, toNodeRecord] using hid)]
  rw [hfold]
  by_cases hlast : start + f.size < rootId
  · obtain ⟨port, rfl, hport⟩ := hup hlast
    have hun : Untouched (f.rootEdges (start + f.size) start ++ es) (start + f.size) port := by
      intro e he
      rcases List.mem_append.mp he with he | he
      · obtain ⟨hp, hpp, hr⟩ := f.rootEdges_spec _ _ e he
        have hb := f.rootPorts_bounds _ _ hr
        dsimp only at hb
        rintro (⟨h, -⟩ | ⟨-, h⟩)
        · omega
        · exact hport (h ▸ hpp)
      · have := hes e he
        rintro (⟨h, -⟩ | ⟨h, -⟩) <;> omega
    simp [Bind.bind, Except.bind, hlast, wired_getElem? hrec,
      firstUnresolvedParentPort_wired hport hun]
  · simp [Bind.bind, Except.bind, hlast]

end Run

/-! ### The whole run -/

lemma foldlM_range'_append {α ε : Type} (step : α → ℕ → Except ε α) {s s' : α} {start m : ℕ}
    (n : ℕ) (h : (List.range' start m).foldlM step s = .ok s') :
    (List.range' start (m + n)).foldlM step s = (List.range' (start + m) n).foldlM step s' := by
  rw [← List.range'_append_1, List.foldlM_append, h]
  rfl

mutual
theorem BusTree.run_wired (rootId localId : ℕ) {recs : List SelfIDNodeRecord}
    (hn : Numbered recs) (t : BusTree) (hv : t.Valid) {up : Option Port} {start : ℕ}
    (hplace : PlacedAt recs (t.records up start) start)
    (hup : t.rootIdFrom start < rootId → ∃ port, up = some port ∧ port ∉ t.childPorts)
    (hle : t.rootIdFrom start ≤ rootId)
    {es : List BusEdge} (hes : ∀ e ∈ es, e.child < e.parent ∧ e.parent < start) (st : List ℕ) :
    (List.range' start t.size).foldlM (processNode rootId) ⟨wired rootId localId recs es, st⟩ =
      .ok ⟨wired rootId localId recs (t.edgesFrom start ++ es),
        if t.rootIdFrom start < rootId then t.rootIdFrom start :: st else st⟩ := by
  cases t with
  | node phy f =>
    have hforest := f.run_wired rootId localId hn hv hplace.left hle hes st
    rw [BusTree.size, foldlM_range'_append _ 1 hforest]
    have hes' : ∀ e ∈ f.edgesFrom start ++ es, e.child < e.parent ∧ e.parent < start + f.size := by
      intro e he
      rcases List.mem_append.mp he with he | he
      · exact (f.edgesFrom_bounds start e he).2
      · have := hes e he
        omega
    have hfree : ∀ x ∈ f.rootPorts start, Untouched (f.edgesFrom start ++ es) x.1 x.2 := by
      intro x hx e he
      rcases List.mem_append.mp he with he | he
      · exact f.rootPorts_untouched hv start x hx e he
      · have hb := f.rootPorts_bounds start x hx
        have := hes e he
        rintro (⟨h, -⟩ | ⟨h, -⟩) <;> omega
    rw [List.range'_one, List.foldlM_cons]
    simp only [List.foldlM_nil, bind_pure]
    rw [processNode_wired hn hv hplace hup hes' hfree st]
    simp only [BusTree.edgesFrom, BusTree.rootIdFrom, List.append_assoc]
    rfl
theorem BusForest.run_wired (rootId localId : ℕ) {recs : List SelfIDNodeRecord}
    (hn : Numbered recs) (f : BusForest) (hv : f.Valid) {start : ℕ}
    (hplace : PlacedAt recs (f.records start) start) (hle : start + f.size ≤ rootId)
    {es : List BusEdge} (hes : ∀ e ∈ es, e.child < e.parent ∧ e.parent < start) (st : List ℕ) :
    (List.range' start f.size).foldlM (processNode rootId) ⟨wired rootId localId recs es, st⟩ =
      .ok ⟨wired rootId localId recs (f.edgesFrom start ++ es), (f.roots start).reverse ++ st⟩ := by
  cases f with
  | nil => rfl
  | cons port upPort child rest =>
    obtain ⟨hchild, hup, -, hrest⟩ := hv
    have hroot := child.rootIdFrom_add_one start
    simp only [BusForest.size] at hle ⊢
    simp only [BusForest.records] at hplace
    have hright := hplace.right
    rw [child.records_length] at hright
    have htree := child.run_wired rootId localId hn hchild hplace.left
      (fun _ => ⟨upPort, rfl, hup⟩) (by omega) hes st
    rw [if_pos (by omega)] at htree
    rw [foldlM_range'_append _ rest.size htree]
    have hes' : ∀ e ∈ child.edgesFrom start ++ es,
        e.child < e.parent ∧ e.parent < start + child.size := by
      intro e he
      rcases List.mem_append.mp he with he | he
      · exact (child.edgesFrom_bounds start e he).2
      · have := hes e he
        omega
    rw [rest.run_wired rootId localId hn hrest hright (by omega) hes']
    simp [BusForest.edgesFrom, BusForest.roots, BusForest.rootPorts]
end

lemma BusTree.selfIDRecords_numbered (t : BusTree) : Numbered t.selfIDRecords := by
  intro i r h
  have hid : (t.selfIDRecords.map (·.physicalId))[i]? = some r.physicalId := by simp [h]
  have hi : i < t.size := by
    have := (List.getElem?_eq_some_iff.mp h).1
    rwa [BusTree.selfIDRecords, t.records_length] at this
  rw [BusTree.selfIDRecords, t.records_physicalId, List.getElem?_range' hi] at hid
  simpa using hid.symm

lemma BusTree.selfIDRecords_getLast (t : BusTree) :
    ∃ phy, t.selfIDRecords.getLast? = some (selfIDRecord phy none t.childPorts (t.rootIdFrom 0)) := by
  cases t with
  | node phy children =>
    exact ⟨phy, by simp [BusTree.selfIDRecords, BusTree.records, BusTree.childPorts,
      BusTree.rootIdFrom]⟩

/-- On the records of a cable tree the stack algorithm ends with all cables wired. -/
lemma buildPhysicalGraph_wired (t : BusTree) (hv : t.Valid) (localId : ℕ) :
    buildPhysicalGraph t.selfIDRecords localId =
      .ok (finishGraph (t.rootIdFrom 0) localId
        (wired (t.rootIdFrom 0) localId t.selfIDRecords t.edges)) := by
  obtain ⟨phy, hlast⟩ := t.selfIDRecords_getLast
  have hroot := t.rootIdFrom_add_one 0
  rw [Nat.zero_add] at hroot
  have hplace : PlacedAt t.selfIDRecords (t.records none 0) 0 :=
    ⟨[], [], by simp [BusTree.selfIDRecords], rfl⟩
  have hnone : ∀ e ∈ ([] : List BusEdge), e.child < e.parent ∧ e.parent < 0 := by simp
  have hrun := t.run_wired (t.rootIdFrom 0) localId t.selfIDRecords_numbered hv hplace
    (fun h => absurd h (lt_irrefl _)) le_rfl hnone []
  rw [if_neg (lt_irrefl _), wired_nil, List.append_nil] at hrun
  have hid : (selfIDRecord phy none t.childPorts (t.rootIdFrom 0)).physicalId = t.rootIdFrom 0 := rfl
  simp only [buildPhysicalGraph, hlast, hid, hroot, List.range_eq_range', hrun]
  rfl

lemma finishGraph_linkAt (rootId localId : ℕ) (nodes : List TopologyNodeRecord) (id : ℕ)
    (port : Port) : (finishGraph rootId localId nodes).linkAt id port =
      nodes[id]?.map fun node => node.links port := by
  unfold finishGraph PhysicalTopologyGraph.linkAt
  dsimp only
  split
  · rfl
  · rw [List.getElem?_modify]
    cases nodes[id]? with
    | none => rfl
    | some node => simp only [Option.map_eq_map, Option.map_some]; split <;> rfl

lemma finishGraph_nodes_length (rootId localId : ℕ) (nodes : List TopologyNodeRecord) :
    (finishGraph rootId localId nodes).nodes.length = nodes.length := by
  unfold finishGraph
  dsimp only
  split <;> simp

/-- Annex P reconstruction recovers exactly the cables of the bus, with the port numbers of
both ends; every other port is left unconnected. -/
theorem buildPhysicalGraph_selfIDRecords (t : BusTree) (hv : t.Valid) (hsize : t.size ≤ 63)
    (localId : ℕ) :
    ∃ g, buildPhysicalGraph t.selfIDRecords localId = .ok g ∧
      g.nodes.length = t.size ∧ g.nodeCount = t.size ∧ g.rootId = t.size - 1 ∧
      (∀ e ∈ t.edges,
        g.linkAt e.parent e.parentPort = some ⟨true, e.child, e.childPort⟩ ∧
        g.linkAt e.child e.childPort = some ⟨true, e.parent, e.parentPort⟩) ∧
      ∀ id < t.size, ∀ port, Untouched t.edges id port → g.linkAt id port = some {} := by
  have hlen : (wired (t.rootIdFrom 0) localId t.selfIDRecords t.edges).length = t.size := by
    simp [wired, BusTree.selfIDRecords, t.records_length]
  have hroot := t.rootIdFrom_add_one 0
  have hlink : ∀ id < t.size, ∀ port,
      (finishGraph (t.rootIdFrom 0) localId
        (wired (t.rootIdFrom 0) localId t.selfIDRecords t.edges)).linkAt id port =
      some (linkOf t.edges id port) := by
    intro id hid port
    have hlt : id < t.selfIDRecords.length := by rwa [BusTree.selfIDRecords, t.records_length]
    have hget := List.getElem?_eq_getElem hlt
    rw [finishGraph_linkAt, wired_getElem? hget, Option.map_some, wiredNode,
      t.selfIDRecords_numbered _ _ hget]
  refine ⟨_, buildPhysicalGraph_wired t hv localId, ?_, ?_, ?_, ?_, ?_⟩
  · rw [finishGraph_nodes_length, hlen]
  · simp only [finishGraph, hlen]
    omega
  · simp only [finishGraph]
    omega
  · intro e he
    have hb := t.edgesFrom_bounds 0 e he
    obtain ⟨h1, h2⟩ := linkOf_of_mem (t.edgesFrom_apart hv 0)
      (fun e he => (t.edgesFrom_bounds 0 e he).2.1.ne') he
    rw [hlink _ (by omega), hlink _ (by omega)]
    exact ⟨congrArg some h1, congrArg some h2⟩
  · intro id hid port hun
    rw [hlink id hid, linkOf_of_untouched hun]

/-- A root with a leaf on port 0 and a two-node branch on port 2. -/
def branchedBus : BusTree :=
  .node {} (.cons 0 1 (.node {} .nil) (.cons 2 0 (.node {} (.cons 1 0 (.node {} .nil) .nil)) .nil))

lemma branchedBus_valid : branchedBus.Valid := by
  simp [branchedBus, BusTree.Valid, BusForest.Valid, BusTree.childPorts, BusForest.ports,
    kMaxPhyPorts]

theorem branchedBus_reconstructed : branchedBus.Valid ∧ branchedBus.size = 4 ∧
    ∃ g, buildPhysicalGraph branchedBus.selfIDRecords 0 = .ok g ∧
      g.linkAt 3 0 = some ⟨true, 0, 1⟩ ∧ g.linkAt 3 2 = some ⟨true, 2, 0⟩ ∧
      g.linkAt 1 0 = some ⟨true, 2, 1⟩ ∧ g.linkAt 0 0 = some {} := by
  obtain ⟨g, hg, -, -, -, hedges, hrest⟩ :=
    buildPhysicalGraph_selfIDRecords branchedBus branchedBus_valid (by decide) 0
  refine ⟨branchedBus_valid, rfl, g, hg, ?_, ?_, ?_, ?_⟩
  · exact (hedges ⟨3, 0, 0, 1⟩ (by decide)).1
  · exact (hedges ⟨3, 2, 2, 0⟩ (by decide)).1
  · exact (hedges ⟨2, 1, 1, 0⟩ (by decide)).2
  · exact hrest 0 (by decide) 0 (by unfold Untouched; decide)

end ASFireWire.Topology
