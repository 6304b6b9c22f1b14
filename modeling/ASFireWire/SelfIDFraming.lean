import ASFireWire.SelfIDCapture
import ASFireWire.SelfIDPackets
import ASFireWire.PhysicalTree

/-! What `Decode` and `Parse` together promise of the sequences they accept. The enumerator follows
the "more packets" flags and looks at the extended bit and the sequence number of the quadlets
behind them, not at their tag or phy ID, and it looks at the tag of a first quadlet, not at its
extended bit. -/
namespace ASFireWire.Topology

/-- The sequences lie one after another, with no gap. -/
def Tiles : ℕ → List (ℕ × ℕ) → ℕ → Prop
  | start, [], stop => start = stop
  | start, seq :: rest, stop => seq.1 = start ∧ 0 < seq.2 ∧ Tiles (start + seq.2) rest stop

/-- A base quadlet and then extended ones of the same node, numbered from 0. -/
def SequenceFramed (quads : List ℕ) (seq : ℕ × ℕ) : Prop :=
  ∃ base, quads[seq.1]? = some base ∧ isSelfIDTag base = true ∧ isExtended base = false ∧
    ∀ k, k + 1 < seq.2 → ∃ quad, quads[seq.1 + (k + 1)]? = some quad ∧ isSelfIDTag quad = true ∧
      isExtended quad = true ∧ extractPhyID quad = extractPhyID base ∧ extractSeq quad = k

/-- The quadlets behind the header fall into framed sequences, one for each physical ID. -/
structure WellFramed (quads : List ℕ) (sequences : List (ℕ × ℕ)) (nodes : ℕ) : Prop where
  tiles : Tiles 1 sequences quads.length
  framed : ∀ seq ∈ sequences, SequenceFramed quads seq
  once : ∀ id < nodes, ∃! seq, seq ∈ sequences ∧
    ∃ k < seq.2, quads[seq.1 + k]?.map extractPhyID = some id

/-- The first quadlets of the inverse pairs. -/
def firstOfPairs : List UInt32 → List ℕ
  | quadlet :: _ :: rest => quadlet.toNat :: firstOfPairs rest
  | _ => []

/-- What the controller has put behind the header, without the inverses. -/
def SelfIDCapture.packets (c : SelfIDCapture) (selfIDCountReg : UInt32) : List ℕ :=
  firstOfPairs ((c.buffer.take (selfIDCountReg.toNat / 2 ^ 2 % 2 ^ 9)).drop 1)

/-- A quadlet behind one with the flag is a Self-ID quadlet of the same node; any other is not an
extended one. -/
def Attached : Option ℕ → List ℕ → Prop
  | _, [] => True
  | previous, quad :: rest =>
    (match previous with
      | some before =>
        if hasMorePackets before then
          isSelfIDTag quad = true ∧ extractPhyID quad = extractPhyID before
        else isExtended quad = false
      | none => isExtended quad = false) ∧ Attached (some quad) rest

/-! ### The enumerator -/

/-- Extended quadlets, each announced by the one before it. -/
def Chain : ℕ → ℕ → List ℕ → Prop
  | _, quadlet, [] => hasMorePackets quadlet = false
  | sequence, quadlet, next :: rest =>
    hasMorePackets quadlet = true ∧ isExtended next = true ∧ extractSeq next = sequence ∧
      Chain (sequence + 1) next rest

lemma followChain_spec {count sequence quadlet n : ℕ} {rest : List ℕ}
    (h : followChain count sequence quadlet rest = some n) :
    ∃ chain rest', rest = chain ++ rest' ∧ n = count + chain.length ∧
      Chain sequence quadlet chain := by
  induction rest generalizing count sequence quadlet with
  | nil =>
    unfold followChain at h
    cases hmore : hasMorePackets quadlet with
    | false =>
      rw [hmore, Bool.not_false, if_pos rfl] at h
      cases h
      exact ⟨[], [], rfl, rfl, hmore⟩
    | true =>
      rw [hmore, Bool.not_true, if_neg Bool.false_ne_true] at h
      split at h
      · cases h
      · cases h
  | cons next rest ih =>
    unfold followChain at h
    cases hmore : hasMorePackets quadlet with
    | false =>
      rw [hmore, Bool.not_false, if_pos rfl] at h
      cases h
      exact ⟨[], next :: rest, rfl, rfl, hmore⟩
    | true =>
      rw [hmore, Bool.not_true, if_neg Bool.false_ne_true] at h
      split at h
      · cases h
      dsimp only at h
      by_cases hbad : (!isExtended next || decide (sequence ≠ extractSeq next)) = true
      · rw [if_pos hbad] at h
        cases h
      rw [if_neg hbad] at h
      rw [Bool.or_eq_true, not_or, Bool.not_eq_true', Bool.not_eq_false, decide_eq_true_eq, not_not]
        at hbad
      obtain ⟨chain, rest', rfl, hn, hchain⟩ := ih h
      refine ⟨next :: chain, rest', rfl, ?_, hmore, hbad.1, hbad.2.symm, hchain⟩
      rw [hn, List.length_cons]
      omega

lemma Chain.extended {sequence quadlet : ℕ} {chain : List ℕ} (h : Chain sequence quadlet chain)
    {k quad : ℕ} (hget : chain[k]? = some quad) :
    isExtended quad = true ∧ extractSeq quad = sequence + k := by
  induction chain generalizing sequence quadlet k with
  | nil => cases hget
  | cons next chain ih =>
    obtain ⟨-, hextended, hseq, hrest⟩ := h
    cases k with
    | zero =>
      cases hget
      exact ⟨hextended, hseq⟩
    | succ k =>
      obtain ⟨hext, hnumber⟩ := ih hrest hget
      exact ⟨hext, by omega⟩

/-- Behind a chain comes a quadlet that is not announced. -/
lemma Chain.attached {sequence quadlet : ℕ} {chain : List ℕ} (h : Chain sequence quadlet chain) :
    ∃ last, hasMorePackets last = false ∧ ∀ rest, Attached (some quadlet) (chain ++ rest) ↔
      (∀ quad ∈ chain, isSelfIDTag quad = true ∧ extractPhyID quad = extractPhyID quadlet) ∧
        Attached (some last) rest := by
  induction chain generalizing sequence quadlet with
  | nil => exact ⟨quadlet, h, fun rest => ⟨fun hrest => ⟨by simp, hrest⟩, And.right⟩⟩
  | cons next chain ih =>
    obtain ⟨hmore, -, -, hrest⟩ := h
    obtain ⟨last, hlast, hiff⟩ := ih hrest
    refine ⟨last, hlast, fun rest => ?_⟩
    rw [List.cons_append, Attached, hiff, if_pos hmore]
    constructor
    · rintro ⟨hnext, hall, hend⟩
      refine ⟨fun quad hquad => ?_, hend⟩
      rcases List.mem_cons.mp hquad with rfl | hmem
      · exact hnext
      · exact ⟨(hall quad hmem).1, (hall quad hmem).2.trans hnext.2⟩
    · rintro ⟨hall, hend⟩
      have hnext := hall next List.mem_cons_self
      refine ⟨hnext, fun quad hmem => ?_, hend⟩
      have hquad := hall quad (List.mem_cons_of_mem next hmem)
      exact ⟨hquad.1, hquad.2.trans hnext.2.symm⟩

/-- The quadlets in sequences, from an index on. -/
inductive Sequenced : ℕ → List ℕ → List (ℕ × ℕ) → Prop
  | nil (start : ℕ) : Sequenced start [] []
  | cons {start first : ℕ} {chain rest : List ℕ} {seqs : List (ℕ × ℕ)}
      (tag : isSelfIDTag first = true) (linked : Chain 0 first chain)
      (others : Sequenced (start + (chain.length + 1)) rest seqs) :
      Sequenced start (first :: (chain ++ rest)) ((start, chain.length + 1) :: seqs)

lemma enumerateSequences_spec {fuel start : ℕ} {quadlets : List ℕ} {seqs : List (ℕ × ℕ)}
    (hfuel : quadlets.length ≤ fuel)
    (h : enumerateSequences fuel ⟨start, quadlets⟩ = some seqs) : Sequenced start quadlets seqs := by
  induction fuel generalizing start quadlets seqs with
  | zero =>
    cases h
    obtain rfl := List.length_eq_zero_iff.mp (Nat.le_zero.mp hfuel)
    exact Sequenced.nil start
  | succ fuel ih =>
    unfold enumerateSequences at h
    cases quadlets with
    | nil =>
      cases h
      exact Sequenced.nil start
    | cons first rest =>
      dsimp only at h
      cases htag : isSelfIDTag first with
      | false =>
        rw [htag, Bool.not_false, if_pos rfl] at h
        cases h
      | true =>
        rw [htag, Bool.not_true, if_neg Bool.false_ne_true] at h
        unfold SelfIDSequenceEnumerator.next at h
        dsimp only at h
        cases hfollow : followChain 1 0 first rest with
        | none =>
          rw [hfollow] at h
          cases h
        | some count =>
          rw [hfollow] at h
          obtain ⟨chain, rest', rfl, rfl, hchain⟩ := followChain_spec hfollow
          have hdrop : (first :: (chain ++ rest')).drop (1 + chain.length) = rest' := by
            rw [Nat.add_comm, List.drop_succ_cons, List.drop_left]
          simp only [Option.bind_eq_bind, Option.bind_some, hdrop] at h
          cases hrest : enumerateSequences fuel ⟨start + (1 + chain.length), rest'⟩ with
          | none =>
            rw [hrest] at h
            cases h
          | some items =>
            rw [hrest] at h
            cases h
            rw [Nat.add_comm 1] at hrest ⊢
            rw [List.length_cons, List.length_append] at hfuel
            exact Sequenced.cons htag hchain (ih (by omega) hrest)

lemma Sequenced.tiles {start : ℕ} {quadlets : List ℕ} {seqs : List (ℕ × ℕ)}
    (h : Sequenced start quadlets seqs) : Tiles start seqs (start + quadlets.length) := by
  induction h with
  | nil start => exact rfl
  | @cons start first chain rest seqs tag linked others ih =>
    refine ⟨rfl, Nat.succ_pos _, ?_⟩
    rw [List.length_cons, List.length_append]
    have heq : start + (chain.length + rest.length + 1) = start + (chain.length + 1) + rest.length := by
      omega
    rw [heq]
    exact ih

lemma Sequenced.count_pos {start : ℕ} {quadlets : List ℕ} {seqs : List (ℕ × ℕ)}
    (h : Sequenced start quadlets seqs) : ∀ seq ∈ seqs, 0 < seq.2 := by
  induction h with
  | nil start => simp
  | cons tag linked others ih =>
    rw [List.forall_mem_cons]
    exact ⟨Nat.succ_pos _, ih⟩

/-- The sequences are framed exactly when every quadlet is attached to the one before it. -/
lemma Sequenced.framed_iff {start : ℕ} {quadlets : List ℕ} {seqs : List (ℕ × ℕ)}
    (h : Sequenced start quadlets seqs) {quads : List ℕ}
    (hquads : ∀ i, quads[start + i]? = quadlets[i]?) (previous : Option ℕ)
    (hclosed : ∀ before, previous = some before → hasMorePackets before = false) :
    (∀ seq ∈ seqs, SequenceFramed quads seq) ↔ Attached previous quadlets := by
  induction h generalizing previous with
  | nil start => exact iff_of_true (by simp) trivial
  | @cons start first chain rest seqs tag linked others ih =>
    obtain ⟨last, hlast, hiff⟩ := linked.attached
    have hrest : ∀ i, quads[start + (chain.length + 1) + i]? = rest[i]? := by
      intro i
      rw [Nat.add_assoc, hquads, Nat.add_right_comm, List.getElem?_cons_succ,
        List.getElem?_append_right (Nat.le_add_right _ _), Nat.add_sub_cancel_left]
    have hothers := ih hrest (some last) (fun before hbefore => by
      rw [← Option.some.inj hbefore]
      exact hlast)
    have hchain : ∀ k < chain.length, quads[start + (k + 1)]? = chain[k]? := by
      intro k hk
      rw [hquads, List.getElem?_cons_succ, List.getElem?_append_left hk]
    have hfirst : SequenceFramed quads (start, chain.length + 1) ↔ isExtended first = false ∧
        ∀ quad ∈ chain, isSelfIDTag quad = true ∧ extractPhyID quad = extractPhyID first := by
      have hbase : quads[start]? = some first := hquads 0
      constructor
      · rintro ⟨base, hget, -, hnot, hall⟩
        obtain rfl := Option.some.inj (hbase.symm.trans hget)
        refine ⟨hnot, fun quad hmem => ?_⟩
        obtain ⟨k, hk⟩ := List.mem_iff_getElem?.mp hmem
        have hlt := (List.getElem?_eq_some_iff.mp hk).1
        obtain ⟨quad', hget', htag, -, hphy, -⟩ := hall k (Nat.succ_lt_succ hlt)
        dsimp only at hget'
        rw [hchain k hlt, hk] at hget'
        obtain rfl := Option.some.inj hget'
        exact ⟨htag, hphy⟩
      · rintro ⟨hnot, hall⟩
        refine ⟨first, hbase, tag, hnot, fun k hk => ?_⟩
        have hlt : k < chain.length := Nat.lt_of_succ_lt_succ hk
        have hget := List.getElem?_eq_getElem hlt
        obtain ⟨hext, hseq⟩ := linked.extended hget
        obtain ⟨htag, hphy⟩ := hall _ (List.getElem_mem hlt)
        exact ⟨chain[k], (hchain k hlt).trans hget, htag, hext, hphy, by omega⟩
    have hhead : Attached previous (first :: (chain ++ rest)) ↔
        isExtended first = false ∧ Attached (some first) (chain ++ rest) := by
      cases previous with
      | none => exact Iff.rfl
      | some before => rw [Attached, hclosed before rfl, if_neg Bool.false_ne_true]
    rw [List.forall_mem_cons, hfirst, hothers, hhead, hiff, and_assoc]

/-! ### Decoding -/

lemma normalizePairs_ok {countRegister generation index : ℕ} {raw : List UInt32} {normalized : List ℕ}
    (h : normalizePairs countRegister generation index raw = .ok normalized) :
    normalized = firstOfPairs raw := by
  induction raw using firstOfPairs.induct generalizing index normalized with
  | case1 quadlet inverse rest ih =>
    unfold normalizePairs at h
    by_cases hpair : quadlet ≠ ~~~inverse
    · rw [if_pos hpair] at h
      cases h
    rw [if_neg hpair] at h
    cases hrest : normalizePairs countRegister generation (index + 2) rest with
    | error err =>
      rw [hrest] at h
      cases h
    | ok rest' =>
      rw [hrest] at h
      cases h
      rw [firstOfPairs, ih hrest]
  | case2 raw hshort =>
    unfold normalizePairs at h
    unfold firstOfPairs
    split at h
    · exact absurd rfl (hshort _ _ _)
    · cases h
      split
      · exact absurd rfl (hshort _ _ _)
      · rfl

lemma normalizeSelfIDQuadlets_ok {raw : List UInt32} {countRegister generation : ℕ} {quads : List ℕ}
    (h : normalizeSelfIDQuadlets raw countRegister generation = .ok quads) :
    ∃ header, quads = header :: firstOfPairs (raw.drop 1) := by
  unfold normalizeSelfIDQuadlets at h
  match raw with
  | [] => cases h
  | [_] => cases h
  | header :: first :: rest =>
    dsimp only at h
    split at h
    · cases h
    cases hpairs : normalizePairs countRegister generation 0 (first :: rest) with
    | error err =>
      rw [hpairs] at h
      cases h
    | ok normalized =>
      rw [hpairs] at h
      cases h
      exact ⟨header.toNat, by rw [normalizePairs_ok hpairs, List.drop_succ_cons, List.drop_zero]⟩

lemma SelfIDCapture.decode_ok {c : SelfIDCapture} {selfIDCountReg : UInt32}
    {selfIDCountReg2 : Option UInt32} {result : SelfIDCaptureResult}
    (h : c.decode selfIDCountReg selfIDCountReg2 = .ok result) :
    (∃ header, result.quads = header :: c.packets selfIDCountReg) ∧
      Sequenced 1 (c.packets selfIDCountReg) result.sequences := by
  unfold SelfIDCapture.decode at h
  dsimp only at h
  iterate 5
    split at h
    · cases h
  cases selfIDCountReg2 with
  | none => cases h
  | some reg2 =>
    dsimp only at h
    iterate 2
      split at h
      · cases h
    cases hquads : normalizeSelfIDQuadlets (c.buffer.take (selfIDCountReg.toNat / 2 ^ 2 % 2 ^ 9))
        selfIDCountReg.toNat (selfIDCountReg.toNat / 2 ^ 16 % 2 ^ 8) with
    | error err =>
      rw [hquads] at h
      cases h
    | ok quads =>
      rw [hquads] at h
      obtain ⟨header, rfl⟩ := normalizeSelfIDQuadlets_ok hquads
      simp only [bind, Except.bind] at h
      split at h
      · cases h
      · rename_i sequences henum
        cases h
        exact ⟨⟨header, rfl⟩, enumerateSequences_spec (Nat.le_succ _) henum⟩

/-! ### Parsing -/

lemma parseSequence_ok {quads : List ℕ} {nodeMap nodeMap' : NodeMap} {seq : ℕ × ℕ}
    (hpos : 0 < seq.2) (h : parseSequence quads nodeMap seq = .ok nodeMap') :
    ∃ id r, quads[seq.1]?.map extractPhyID = some id ∧ nodeMap id = none ∧ r.physicalId = id ∧
      nodeMap' = Function.update nodeMap id (some r) := by
  unfold parseSequence at h
  split at h
  · cases h
  have hget : ((quads.drop seq.1).take seq.2)[0]? = quads[seq.1]? := by
    rw [List.getElem?_take_of_lt hpos, List.getElem?_drop, Nat.add_zero]
  cases hquads : (quads.drop seq.1).take seq.2 with
  | nil =>
    rename_i hbounds
    have hlength := congrArg List.length hquads
    rw [List.length_take, List.length_drop, List.length_nil] at hlength
    omega
  | cons baseQuad extQuads =>
    rw [hquads] at h hget
    dsimp only at h
    split at h
    · cases h
    by_cases hduplicate : (nodeMap (extractPhyID baseQuad)).isSome = true
    · rw [if_pos hduplicate] at h
      cases h
    rw [if_neg hduplicate] at h
    cases h
    refine ⟨extractPhyID baseQuad, decodeNode baseQuad extQuads, ?_, ?_,
      PhyReport.decodeNode_physicalId baseQuad extQuads, rfl⟩
    · rw [← hget]
      rfl
    · exact Option.not_isSome_iff_eq_none.mp hduplicate

/-- Each sequence puts its own node into the map. -/
lemma parseSequences_ok {quads : List ℕ} {nodeMap nodeMap' : NodeMap} {seqs : List (ℕ × ℕ)}
    (hpos : ∀ seq ∈ seqs, 0 < seq.2) (hkeys : ∀ id r, nodeMap id = some r → r.physicalId = id)
    (h : seqs.foldlM (parseSequence quads) nodeMap = .ok nodeMap') :
    (∀ id r, nodeMap' id = some r → r.physicalId = id) ∧
      (∀ id, (nodeMap' id).isSome = true → (nodeMap id).isSome = true ∨
        ∃ seq ∈ seqs, quads[seq.1]?.map extractPhyID = some id) ∧
      (∀ seq ∈ seqs, ∀ id, quads[seq.1]?.map extractPhyID = some id → nodeMap id = none) ∧
      seqs.Pairwise fun a b => ∀ id, quads[a.1]?.map extractPhyID = some id →
        quads[b.1]?.map extractPhyID ≠ some id := by
  induction seqs generalizing nodeMap with
  | nil =>
    cases h
    exact ⟨hkeys, fun id hid => Or.inl hid, by simp, List.Pairwise.nil⟩
  | cons seq seqs ih =>
    rw [List.foldlM_cons] at h
    cases hstep : parseSequence quads nodeMap seq with
    | error err =>
      rw [hstep] at h
      cases h
    | ok middle =>
      rw [hstep] at h
      obtain ⟨id, r, hhead, hfree, hphysical, rfl⟩ := parseSequence_ok (hpos seq List.mem_cons_self) hstep
      have hkeys' : ∀ id' r', Function.update nodeMap id (some r) id' = some r' → r'.physicalId = id' := by
        intro id' r' hget
        by_cases hid : id' = id
        · rw [hid, Function.update_self] at hget
          rw [← Option.some.inj hget, hphysical, hid]
        · rw [Function.update_of_ne hid] at hget
          exact hkeys id' r' hget
      obtain ⟨hkeysEnd, hsome, hnone, hpairwise⟩ :=
        ih (fun s hs => hpos s (List.mem_cons_of_mem seq hs)) hkeys' h
      refine ⟨hkeysEnd, ?_, ?_, ?_⟩
      · intro id' hid'
        rcases hsome id' hid' with hold | ⟨s, hs, hs'⟩
        · by_cases hid : id' = id
          · exact Or.inr ⟨seq, List.mem_cons_self, hid ▸ hhead⟩
          · rw [Function.update_of_ne hid] at hold
            exact Or.inl hold
        · exact Or.inr ⟨s, List.mem_cons_of_mem seq hs, hs'⟩
      · intro s hs id' hid'
        rcases List.mem_cons.mp hs with rfl | hmem
        · rwa [← Option.some.inj (hhead.symm.trans hid')]
        · have hgone := hnone s hmem id' hid'
          by_cases hid : id' = id
          · rw [hid, Function.update_self] at hgone
            cases hgone
          · rwa [Function.update_of_ne hid] at hgone
      · rw [List.pairwise_cons]
        refine ⟨fun s hs id' hid' hsame => ?_, hpairwise⟩
        obtain rfl := Option.some.inj (hhead.symm.trans hid')
        have hgone := hnone s hs id hsame
        rw [Function.update_self] at hgone
        cases hgone

/-- Every ID below the number of records is the first quadlet's of one sequence. -/
lemma parse_heads {result : SelfIDCaptureResult} {records : List SelfIDNodeRecord}
    (hpos : ∀ seq ∈ result.sequences, 0 < seq.2) (h : parse result = .ok records) :
    (∀ id < records.length, ∃ seq ∈ result.sequences,
        result.quads[seq.1]?.map extractPhyID = some id) ∧
      ∀ a ∈ result.sequences, ∀ b ∈ result.sequences, ∀ id,
        result.quads[a.1]?.map extractPhyID = some id →
          result.quads[b.1]?.map extractPhyID = some id → a = b := by
  obtain ⟨hnumbered, -, -⟩ := parse_ok h
  unfold parse at h
  split at h
  · cases h
  split at h
  · cases h
  cases hfold : result.sequences.foldlM (parseSequence result.quads) (fun _ => none) with
  | error err =>
    rw [hfold] at h
    cases h
  | ok nodeMap =>
    rw [hfold] at h
    change (if NodeMap.records nodeMap = [] then _ else _) = _ at h
    split at h
    · cases h
    split at h
    · cases h
    cases h
    obtain ⟨hkeys, hsome, -, hpairwise⟩ :=
      parseSequences_ok hpos (fun _ _ hcon => by cases hcon) hfold
    constructor
    · intro id hid
      have hget := List.getElem?_eq_getElem hid
      obtain ⟨key, -, hkey⟩ := List.mem_filterMap.mp (List.mem_of_getElem? hget)
      have hsame : key = id := (hkeys key _ hkey).symm.trans (hnumbered id _ hget)
      rcases hsome id (by rw [← hsame, hkey]; rfl) with hcon | hseq
      · cases hcon
      · exact hseq
    · intro a ha b hb id hida hidb
      by_contra hne
      have hsymm : Std.Symm fun a b : ℕ × ℕ => ∀ id, result.quads[a.1]?.map extractPhyID = some id →
          result.quads[b.1]?.map extractPhyID ≠ some id :=
        ⟨fun x y hxy id hy hx => hxy id hx hy⟩
      exact hpairwise.forall ha hb hne id hida hidb

/-! ### The accepted streams -/

/-- Accepted sequences are framed exactly when every packet of the buffer is attached to the one
before it. -/
theorem wellFramed_iff_attached {c : SelfIDCapture} {selfIDCountReg : UInt32}
    {selfIDCountReg2 : Option UInt32} {result : SelfIDCaptureResult} {records : List SelfIDNodeRecord}
    (hdecode : c.decode selfIDCountReg selfIDCountReg2 = .ok result)
    (hparse : parse result = .ok records) :
    WellFramed result.quads result.sequences records.length ↔
      Attached none (c.packets selfIDCountReg) := by
  obtain ⟨⟨header, hquads⟩, hsequenced⟩ := SelfIDCapture.decode_ok hdecode
  have hget : ∀ i, result.quads[1 + i]? = (c.packets selfIDCountReg)[i]? := by
    intro i
    rw [hquads, Nat.add_comm, List.getElem?_cons_succ]
  have hiff := hsequenced.framed_iff hget none (fun _ hcon => by cases hcon)
  have htiles := hsequenced.tiles
  rw [← hiff]
  constructor
  · exact fun h => h.framed
  · intro hframed
    obtain ⟨hheads, hunique⟩ := parse_heads (hsequenced.count_pos) hparse
    refine ⟨?_, hframed, fun id hid => ?_⟩
    · rw [hquads, List.length_cons, Nat.add_comm]
      exact htiles
    · obtain ⟨seq, hseq, hhead⟩ := hheads id hid
      refine ⟨seq, ⟨hseq, 0, hsequenced.count_pos seq hseq, hhead⟩, ?_⟩
      rintro other ⟨hother, k, hk, hphy⟩
      obtain ⟨base, hbase, -, -, hall⟩ := hframed other hother
      apply hunique other hother seq hseq id _ hhead
      cases k with
      | zero => exact hphy
      | succ k =>
        obtain ⟨quad, hquad, -, -, hsame, -⟩ := hall k hk
        rw [hquad, Option.map_some, hsame] at hphy
        rw [hbase, Option.map_some, hphy]

/-- The buffer of a bus with one node, node 0. -/
theorem loneNode_wellFramed : ∃ result records,
    SelfIDCapture.decode { buffer := [0, 0x80000000, 0x7FFFFFFF] } 12 (some 12) = .ok result ∧
      parse result = .ok records ∧ WellFramed result.quads result.sequences records.length := by
  obtain ⟨result, hdecode, records, hparse⟩ : ∃ result,
      SelfIDCapture.decode { buffer := [0, 0x80000000, 0x7FFFFFFF] } 12 (some 12) = .ok result ∧
        ∃ records, parse result = .ok records := ⟨_, rfl, _, rfl⟩
  refine ⟨result, records, hdecode, hparse, (wellFramed_iff_attached hdecode hparse).mpr ?_⟩
  exact ⟨rfl, trivial⟩

/-- Node 0 announces a further packet; the quadlet that follows has no Self-ID tag and the phy ID of
another node, and its port states become those of node 0. -/
theorem not_wellFramed_foreignQuadlet : ∃ c selfIDCountReg selfIDCountReg2 result records,
    SelfIDCapture.decode c selfIDCountReg selfIDCountReg2 = .ok result ∧
      parse result = .ok records ∧ ¬ WellFramed result.quads result.sequences records.length := by
  refine ⟨{ buffer := [0, 0x80000001, 0x7FFFFFFE, 0x05800000, 0xFA7FFFFF] }, 20, some 20, _, _, rfl, rfl,
    fun h => ?_⟩
  obtain ⟨base, -, -, -, hall⟩ := h.framed (1, 2) List.mem_cons_self
  obtain ⟨quad, hquad, htag, -⟩ := hall 0 (by decide)
  cases hquad
  cases htag

end ASFireWire.Topology
