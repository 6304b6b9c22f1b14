import ASFireWire.EfcTransport

/-! What the EFC transport is for: a line of commands that are first sent in the order of their
submission, one in flight at a time, each with a bounded number of writes, and that succeed on a
response of their own only. -/
namespace ASFireWire.Fireworks

/-- What sending and ending a command looks at. -/
def Pending.core (p : Pending) : Pending :=
  { p with timeout := 0, writeHandle := 0, writeOutstanding := false }

/-- The numbers of the commands in the order of their first writes. -/
def noteFirst (seen : List ℕ) (snapshot : SendSnapshot) : List ℕ :=
  if snapshot.number ∈ seen then seen else seen ++ [snapshot.number]

def firstWritten (written : List SendSnapshot) : List ℕ := written.foldl noteFirst []

/-- The sequence number of the command with number `k`. -/
def seqnumOf (k : ℕ) : ℕ := nextSeqnum^[k] kSeqnumFirst

/-- The completions of commands that were taken out. -/
def drained (ps : List Pending) (status : IOReturn) : List CompletionRecord :=
  ps.map fun p => ⟨p.number, status, none⟩

/-- A call of `OnResponse` found `p` in flight and got the answer to it, with status ok, from the
node the route led to. -/
def Received.Answers (r : Received) (p : Pending) (response : Option Response) : Prop :=
  r.inflight.map (·.number) = some p.number ∧ r.route.valid ∧
    phyId r.sourceID = phyId r.route.nodeId ∧ ∃ decoded, response = some decoded ∧
      decodeResponse r.payload = some decoded ∧
      responseMatches decoded p.seqnum p.category p.command ∧ decoded.header.status = kStatusOk

/-- `sends` are the writes still to be made, `ended` the completions still to run. -/
@[ext]
structure CommandLine where
  submissions : List Submission
  seqnum : ℕ
  queue : List Pending
  current : Option Pending
  sends : Multiset SendSnapshot
  written : List SendSnapshot
  ended : Multiset CompletionRecord
  completions : List CompletionRecord
  received : List Received

namespace CommandLine

/-- The next attempt of a command. -/
def issue (v : CommandLine) (p : Pending) (serial node : ℕ) : CommandLine :=
  { v with
    current := some { p.core with attempts := p.attempts + 1, serial := serial }
    sends := ⟨p.number, serial, p.attempts + 1, node, p.frame⟩ ::ₘ v.sends }

def finish (v : CommandLine) (record : CompletionRecord) : CommandLine :=
  { v with current := none, ended := record ::ₘ v.ended }

/-- The moves of the line. A command is started when no first write is still to be made, and sent
again when its last write was made. -/
inductive Moves (v : CommandLine) : CommandLine → Prop
  | submit (x : Submission) : Moves v { v with
      submissions := v.submissions ++ [x]
      seqnum := nextSeqnum v.seqnum
      queue := v.queue ++ [{
        number := v.submissions.length, category := x.category, command := x.command
        seqnum := v.seqnum, frame := encodeCommand v.seqnum x.category x.command x.params }] }
  | cancel (status : IOReturn) (h : status ≠ .success) : Moves v { v with
      current := none
      queue := []
      ended := drained (v.current.toList ++ v.queue) status + v.ended }
  | start (p : Pending) (rest : List Pending) (serial node : ℕ) (hcurrent : v.current = none)
      (hqueue : v.queue = p :: rest) (hfirst : ∀ snapshot ∈ v.sends, snapshot.attempt ≠ 1) :
    Moves v ({ v with queue := rest }.issue p serial node)
  | refuse (p : Pending) (rest : List Pending) (hcurrent : v.current = none)
      (hqueue : v.queue = p :: rest) :
    Moves v ({ v with queue := rest }.finish ⟨p.number, .notReady, none⟩)
  | resend (p : Pending) (serial node : ℕ) (hcurrent : v.current = some p)
      (hattempts : p.attempts < kMaxAttempts)
      (hmade : ∀ snapshot ∈ v.sends, snapshot.serial ≠ p.serial) :
    Moves v (v.issue p serial node)
  | finish (p : Pending) (status : IOReturn) (response : Option Response)
      (hcurrent : v.current = some p)
      (hsuccess : status = .success → ∃ r ∈ v.received, r.Answers p response) :
    Moves v (v.finish ⟨p.number, status, response⟩)
  | write (snapshot : SendSnapshot) (h : snapshot ∈ v.sends) : Moves v { v with
      sends := v.sends.erase snapshot
      written := v.written ++ [snapshot] }
  | conclude (record : CompletionRecord) (h : record ∈ v.ended) : Moves v { v with
      ended := v.ended.erase record
      completions := v.completions ++ [record] }
  | receive (r : Received) : Moves v { v with received := v.received ++ [r] }

/-! ### Order -/

lemma firstWritten_append (written : List SendSnapshot) (snapshot : SendSnapshot) :
    firstWritten (written ++ [snapshot]) = noteFirst (firstWritten written) snapshot :=
  List.foldl_append

lemma mem_noteFirst {seen : List ℕ} {snapshot : SendSnapshot} {k : ℕ} :
    k ∈ noteFirst seen snapshot ↔ k ∈ seen ∨ k = snapshot.number := by
  unfold noteFirst
  split
  · rename_i hmem
    constructor
    · exact Or.inl
    · rintro (h | rfl)
      · exact h
      · exact hmem
  · simp

/-- The commands that have been started. -/
def Reached (v : CommandLine) (k : ℕ) : Prop :=
  k ∈ firstWritten v.written ∨ (∃ p, v.current = some p ∧ p.number = k) ∨
    ∃ snapshot ∈ v.sends, snapshot.number = k

/-- `seen` and `queue` are in order, with at most one first write to be made between them. -/
structure Ordered (v : CommandLine) : Prop where
  seen : (firstWritten v.written).Pairwise (· < ·)
  queue : (v.queue.map (·.number)).Pairwise (· < ·)
  behind : ∀ k, v.Reached k → k < v.submissions.length ∧ ∀ q ∈ v.queue, k < q.number
  waiting : ∀ q ∈ v.queue, q.number < v.submissions.length ∧ q.attempts = 0
  firsts : ∀ snapshot ∈ v.sends, snapshot.attempt = 1 →
    ∀ k ∈ firstWritten v.written, k < snapshot.number
  single : v.sends.countP (·.attempt = 1) ≤ 1
  resent : ∀ snapshot ∈ v.sends, snapshot.attempt ≠ 1 → snapshot.number ∈ firstWritten v.written
  started : ∀ p, v.current = some p → p.attempts ≠ 0 ∧ (p.number ∈ firstWritten v.written ∨
    ∃ snapshot ∈ v.sends, snapshot.serial = p.serial ∧ snapshot.number = p.number)

/-- Commands are taken out. -/
lemma Ordered.take {v v' : CommandLine} (h : v.Ordered) (hsub : v'.submissions = v.submissions)
    (hqueue : v'.queue.Sublist v.queue) (hcurrent : v'.current = none)
    (hsends : v'.sends = v.sends) (hwritten : v'.written = v.written) : v'.Ordered := by
  have hreached : ∀ k, v'.Reached k → v.Reached k := by
    rintro k (hseen | ⟨p, hp, -⟩ | ⟨snapshot, hmem, hk⟩)
    · exact Or.inl (hwritten ▸ hseen)
    · rw [hcurrent] at hp
      cases hp
    · exact Or.inr (Or.inr ⟨snapshot, hsends ▸ hmem, hk⟩)
  refine ⟨?_, h.queue.sublist (hqueue.map _), fun k hk => ?_, fun q hq => ?_, ?_, ?_, ?_,
    fun p hp => ?_⟩
  · rw [hwritten]
    exact h.seen
  · obtain ⟨hlt, hbehind⟩ := h.behind k (hreached k hk)
    rw [hsub]
    exact ⟨hlt, fun q hq => hbehind q (hqueue.subset hq)⟩
  · rw [hsub]
    exact h.waiting q (hqueue.subset hq)
  · rw [hsends, hwritten]
    exact h.firsts
  · rw [hsends]
    exact h.single
  · rw [hsends, hwritten]
    exact h.resent
  · rw [hcurrent] at hp
    cases hp

lemma Ordered.issue {v : CommandLine} (h : v.Ordered) {p : Pending} (serial node : ℕ)
    (hbehind : p.number < v.submissions.length ∧ ∀ q ∈ v.queue, p.number < q.number)
    (hfirst : p.attempts = 0 → (∀ k ∈ firstWritten v.written, k < p.number) ∧
      ∀ snapshot ∈ v.sends, snapshot.attempt ≠ 1)
    (hagain : p.attempts ≠ 0 → p.number ∈ firstWritten v.written) :
    (v.issue p serial node).Ordered := by
  refine ⟨h.seen, h.queue, fun k hk => ?_, h.waiting, fun snapshot hmem hone => ?_, ?_,
    fun snapshot hmem hone => ?_, fun q hq => ?_⟩
  · rcases hk with hseen | ⟨q, hq, rfl⟩ | ⟨snapshot, hmem, rfl⟩
    · exact h.behind k (Or.inl hseen)
    · cases hq
      exact hbehind
    · rcases Multiset.mem_cons.mp hmem with rfl | hold
      · exact hbehind
      · exact h.behind _ (Or.inr (Or.inr ⟨snapshot, hold, rfl⟩))
  · rcases Multiset.mem_cons.mp hmem with rfl | hold
    · exact (hfirst (Nat.succ.inj hone)).1
    · exact h.firsts snapshot hold hone
  · change Multiset.countP _ (_ ::ₘ v.sends) ≤ 1
    by_cases hzero : p.attempts = 0
    · have hnone : v.sends.countP (·.attempt = 1) = 0 :=
        Multiset.countP_eq_zero.mpr (hfirst hzero).2
      rw [Multiset.countP_cons, hnone]
      split_ifs <;> omega
    · rw [Multiset.countP_cons_of_neg _ (by simpa using hzero)]
      exact h.single
  · rcases Multiset.mem_cons.mp hmem with rfl | hold
    · exact hagain fun hzero => hone (by rw [hzero])
    · exact h.resent snapshot hold hone
  · cases hq
    exact ⟨Nat.succ_ne_zero _, Or.inr ⟨_, Multiset.mem_cons_self _ _, rfl, rfl⟩⟩

lemma Ordered.write {v : CommandLine} (h : v.Ordered) {snapshot : SendSnapshot}
    (hmem : snapshot ∈ v.sends) :
    Ordered { v with sends := v.sends.erase snapshot, written := v.written ++ [snapshot] } := by
  have hseen : ∀ k, k ∈ firstWritten (v.written ++ [snapshot]) ↔
      k ∈ firstWritten v.written ∨ k = snapshot.number := by
    intro k
    rw [firstWritten_append]
    exact mem_noteFirst
  have hold : ∀ other ∈ v.sends.erase snapshot, other ∈ v.sends := by
    intro other hother
    exact Multiset.mem_of_mem_erase hother
  refine ⟨?_, h.queue, fun k hk => h.behind k ?_, h.waiting, fun other hother hone => ?_, ?_,
    fun other hother hone => (hseen _).mpr (Or.inl (h.resent other (hold _ hother) hone)),
    fun p hp => ⟨(h.started p hp).1, ?_⟩⟩
  · change (firstWritten (v.written ++ [snapshot])).Pairwise (· < ·)
    rw [firstWritten_append, noteFirst]
    split
    · exact h.seen
    · rename_i hnew
      have hone : snapshot.attempt = 1 := by
        by_contra hne
        exact hnew (h.resent snapshot hmem hne)
      refine List.pairwise_append.mpr ⟨h.seen, List.pairwise_singleton _ _, fun k hk j hj => ?_⟩
      rw [List.mem_singleton.mp hj]
      exact h.firsts snapshot hmem hone k hk
  · rcases hk with hk | hcurrent | ⟨other, hother, hk⟩
    · rcases (hseen k).mp hk with hk | rfl
      · exact Or.inl hk
      · exact Or.inr (Or.inr ⟨snapshot, hmem, rfl⟩)
    · exact Or.inr (Or.inl hcurrent)
    · exact Or.inr (Or.inr ⟨other, hold _ hother, hk⟩)
  · intro k hk
    -- with a first write to be made behind it, the one just made was none
    rcases (hseen k).mp hk with hk | rfl
    · exact h.firsts other (hold _ hother) hone k hk
    · refine h.firsts other (hold _ hother) hone _ (h.resent snapshot hmem fun hfirst => ?_)
      have hsplit := Multiset.cons_erase hmem
      have hsingle := h.single
      rw [← hsplit, Multiset.countP_cons, if_pos hfirst] at hsingle
      have hpos : 0 < (v.sends.erase snapshot).countP (·.attempt = 1) :=
        Multiset.countP_pos.mpr ⟨other, hother, hone⟩
      omega
  · exact (Multiset.countP_le_of_le _ (Multiset.erase_le _ _)).trans h.single
  · rcases (h.started p hp).2 with hk | ⟨other, hother, hserial, hnumber⟩
    · exact Or.inl ((hseen _).mpr (Or.inl hk))
    · by_cases heq : other = snapshot
      · exact Or.inl ((hseen _).mpr (Or.inr (by rw [← hnumber, heq])))
      · exact Or.inr ⟨other, (Multiset.mem_erase_of_ne heq).mpr hother, hserial, hnumber⟩

lemma Ordered.moves {v v' : CommandLine} (h : v.Ordered) (hmoves : Moves v v') : v'.Ordered := by
  cases hmoves with
  | submit x =>
    refine ⟨h.seen, ?_, fun k hk => ?_, fun q hq => ?_, h.firsts, h.single, h.resent, h.started⟩
    · rw [List.map_append]
      refine List.pairwise_append.mpr ⟨h.queue, List.pairwise_singleton _ _, fun k hk j hj => ?_⟩
      obtain ⟨q, hq, rfl⟩ := List.mem_map.mp hk
      rw [List.mem_singleton.mp hj]
      exact (h.waiting q hq).1
    · obtain ⟨hlt, hbehind⟩ := h.behind k hk
      refine ⟨?_, fun q hq => ?_⟩
      · rw [List.length_append]
        exact Nat.lt_add_right 1 hlt
      · rcases List.mem_append.mp hq with hold | hnew
        · exact hbehind q hold
        · rw [List.mem_singleton.mp hnew]
          exact hlt
    · rw [List.length_append]
      rcases List.mem_append.mp hq with hold | hnew
      · exact ⟨Nat.lt_add_right 1 (h.waiting q hold).1, (h.waiting q hold).2⟩
      · rw [List.mem_singleton.mp hnew]
        exact ⟨Nat.lt_succ_self _, rfl⟩
  | cancel status hstatus => exact h.take rfl (List.nil_sublist _) rfl rfl rfl
  | start p rest serial node hcurrent hqueue hfirst =>
    have hpairwise := h.queue
    rw [hqueue, List.map_cons, List.pairwise_cons] at hpairwise
    have hp : p ∈ v.queue := by
      rw [hqueue]
      exact List.mem_cons_self
    have htail : Ordered { v with queue := rest } :=
      h.take rfl (hqueue ▸ List.sublist_cons_self p rest) hcurrent rfl rfl
    refine htail.issue serial node ⟨(h.waiting p hp).1, fun q hq => ?_⟩
      (fun _ => ⟨fun k hk => (h.behind k (Or.inl hk)).2 p hp, hfirst⟩)
      fun hne => absurd (h.waiting p hp).2 hne
    exact hpairwise.1 _ (List.mem_map_of_mem hq)
  | refuse p rest hcurrent hqueue =>
    exact h.take rfl (hqueue ▸ List.sublist_cons_self p rest) rfl rfl rfl
  | resend p serial node hcurrent hattempts hmade =>
    obtain ⟨hne, hsent⟩ := h.started p hcurrent
    refine h.issue serial node (h.behind _ (Or.inr (Or.inl ⟨p, hcurrent, rfl⟩)))
      (fun hzero => absurd hzero hne) fun _ => ?_
    rcases hsent with hseen | ⟨snapshot, hmem, hserial, -⟩
    · exact hseen
    · exact absurd hserial (hmade snapshot hmem)
  | finish p status response hcurrent hsuccess => exact h.take rfl (List.Sublist.refl _) rfl rfl rfl
  | write snapshot hmem => exact h.write hmem
  | conclude record hmem =>
    exact ⟨h.seen, h.queue, h.behind, h.waiting, h.firsts, h.single, h.resent, h.started⟩
  | receive r =>
    exact ⟨h.seen, h.queue, h.behind, h.waiting, h.firsts, h.single, h.resent, h.started⟩

/-! ### Attempts -/

/-- Writes of command `k` that were made or are to be made. -/
def issued (v : CommandLine) (k : ℕ) : ℕ :=
  v.written.countP (·.number = k) + v.sends.countP (·.number = k)

structure Bounded (v : CommandLine) : Prop where
  most : ∀ k, v.issued k ≤ kMaxAttempts
  current : ∀ p, v.current = some p → p.attempts ≤ kMaxAttempts ∧ v.issued p.number ≤ p.attempts

lemma mem_firstWritten {written : List SendSnapshot} {snapshot : SendSnapshot}
    (h : snapshot ∈ written) : snapshot.number ∈ firstWritten written := by
  induction written using List.reverseRecOn with
  | nil => cases h
  | append_singleton written last ih =>
    rw [firstWritten_append, mem_noteFirst]
    rcases List.mem_append.mp h with hold | hlast
    · exact Or.inl (ih hold)
    · rw [List.mem_singleton.mp hlast]
      exact Or.inr rfl

/-- Nothing was issued of the commands that wait. -/
lemma Ordered.issued_of_waiting {v : CommandLine} (h : v.Ordered) {q : Pending}
    (hq : q ∈ v.queue) : v.issued q.number = 0 := by
  have hnot : ¬ v.Reached q.number := fun hreached => (h.behind _ hreached).2 q hq |>.ne rfl
  have hwritten : v.written.countP (·.number = q.number) = 0 := by
    refine List.countP_eq_zero.mpr fun snapshot hmem hk => hnot (Or.inl ?_)
    rw [← of_decide_eq_true hk]
    exact mem_firstWritten hmem
  have hsends : v.sends.countP (·.number = q.number) = 0 :=
    Multiset.countP_eq_zero.mpr fun snapshot hmem hk => hnot (Or.inr (Or.inr ⟨snapshot, hmem, hk⟩))
  rw [issued, hwritten, hsends]

lemma issued_issue (v : CommandLine) (p : Pending) (serial node k : ℕ) :
    (v.issue p serial node).issued k = v.issued k + if p.number = k then 1 else 0 := by
  change v.written.countP _ + Multiset.countP _ (_ ::ₘ v.sends) = _
  rw [Multiset.countP_cons]
  exact (Nat.add_assoc _ _ _).symm

lemma Bounded.take {v v' : CommandLine} (h : v.Bounded) (hcurrent : v'.current = none)
    (hissued : ∀ k, v'.issued k = v.issued k) : v'.Bounded := by
  refine ⟨fun k => (hissued k).trans_le (h.most k), fun p hp => ?_⟩
  rw [hcurrent] at hp
  cases hp

lemma Bounded.issue {v : CommandLine} (h : v.Bounded) {p : Pending} (serial node : ℕ)
    (hattempts : p.attempts < kMaxAttempts) (hp : v.issued p.number ≤ p.attempts) :
    (v.issue p serial node).Bounded := by
  refine ⟨fun k => ?_, fun q hq => ?_⟩
  · rw [issued_issue]
    have hmost := h.most k
    split_ifs with hk
    · subst hk
      omega
    · exact hmost
  · cases hq
    refine ⟨hattempts, ?_⟩
    change (v.issue p serial node).issued p.number ≤ p.attempts + 1
    rw [issued_issue, if_pos rfl]
    exact Nat.succ_le_succ hp

lemma Bounded.moves {v v' : CommandLine} (h : v.Bounded) (ho : v.Ordered) (hmoves : Moves v v') :
    v'.Bounded := by
  cases hmoves with
  | submit x => exact ⟨h.most, h.current⟩
  | cancel status hstatus => exact h.take rfl fun k => rfl
  | start p rest serial node hcurrent hqueue hfirst =>
    have hp : p ∈ v.queue := by
      rw [hqueue]
      exact List.mem_cons_self
    have hrest : Bounded { v with queue := rest } := ⟨h.most, h.current⟩
    have hnone : issued { v with queue := rest } p.number = 0 := ho.issued_of_waiting hp
    refine hrest.issue serial node ?_ (hnone.trans_le (Nat.zero_le _))
    rw [(ho.waiting p hp).2]
    exact Nat.succ_pos _
  | refuse p rest hcurrent hqueue => exact h.take rfl fun k => rfl
  | resend p serial node hcurrent hattempts hmade =>
    exact h.issue serial node hattempts (h.current p hcurrent).2
  | finish p status response hcurrent hsuccess => exact h.take rfl fun k => rfl
  | write snapshot hmem =>
    have hissued : ∀ k, issued { v with
        sends := v.sends.erase snapshot
        written := v.written ++ [snapshot] } k = v.issued k := by
      intro k
      have hsends : v.sends.countP (·.number = k) =
          Multiset.countP (·.number = k) (snapshot ::ₘ v.sends.erase snapshot) := by
        rw [Multiset.cons_erase hmem]
      rw [Multiset.countP_cons] at hsends
      simp only [issued, List.countP_append, List.countP_singleton, decide_eq_true_eq]
      omega
    refine ⟨fun k => (hissued k).trans_le (h.most k), fun p hp => ?_⟩
    rw [hissued]
    exact h.current p hp
  | conclude record hmem => exact ⟨h.most, h.current⟩
  | receive r => exact ⟨h.most, h.current⟩

/-! ### Answers -/

/-- The frame of command `k`, with the sequence number that is its own. -/
def Frames (v : CommandLine) (k : ℕ) (frame : List UInt8) : Prop :=
  ∃ x, v.submissions[k]? = some x ∧
    frame = encodeCommand (seqnumOf k) x.category x.command x.params

/-- The command is the submission with its number. -/
def Genuine (v : CommandLine) (p : Pending) : Prop :=
  ∃ x, v.submissions[p.number]? = some x ∧ p.category = x.category ∧ p.command = x.command ∧
    p.seqnum = seqnumOf p.number ∧
    p.frame = encodeCommand (seqnumOf p.number) x.category x.command x.params

/-- A response with status ok arrived from the routed node while command `k` was in flight, and it
carries the command's own sequence number plus one, its category and its command. -/
def Justified (submissions : List Submission) (received : List Received) (k : ℕ)
    (response : Option Response) : Prop :=
  ∃ x, submissions[k]? = some x ∧ ∃ r ∈ received, r.inflight.map (·.number) = some k ∧
    r.route.valid ∧ phyId r.sourceID = phyId r.route.nodeId ∧ ∃ decoded, response = some decoded ∧
      decodeResponse r.payload = some decoded ∧ decoded.header.seqnum = echoed (seqnumOf k) ∧
      decoded.header.category = x.category.code ∧ decoded.header.command = x.command ∧
      decoded.header.status = kStatusOk

structure Answered (v : CommandLine) : Prop where
  seqnum : v.seqnum = seqnumOf v.submissions.length
  pending : ∀ p, p ∈ v.queue ∨ v.current = some p → v.Genuine p
  frames : ∀ snapshot, snapshot ∈ v.sends ∨ snapshot ∈ v.written →
    v.Frames snapshot.number snapshot.frame
  justified : ∀ record, record ∈ v.ended ∨ record ∈ v.completions → record.status = .success →
    Justified v.submissions v.received record.number record.response

lemma seqnumOf_succ (k : ℕ) : seqnumOf (k + 1) = nextSeqnum (seqnumOf k) :=
  Function.iterate_succ_apply' _ _ _

lemma getElem?_append_some {submissions : List Submission} {k : ℕ} {x : Submission}
    (h : submissions[k]? = some x) (more : List Submission) :
    (submissions ++ more)[k]? = some x := by
  obtain ⟨hlt, -⟩ := List.getElem?_eq_some_iff.mp h
  rw [List.getElem?_append_left hlt, h]

lemma Genuine.mono {v v' : CommandLine} {p : Pending} (h : v.Genuine p) {more : List Submission}
    (hmore : v'.submissions = v.submissions ++ more) : v'.Genuine p := by
  obtain ⟨x, hx, hp⟩ := h
  exact ⟨x, hmore ▸ getElem?_append_some hx more, hp⟩

lemma Justified.mono {submissions : List Submission} {received : List Received} {k : ℕ}
    {response : Option Response} (h : Justified submissions received k response)
    (more : List Submission) (later : List Received) :
    Justified (submissions ++ more) (received ++ later) k response := by
  obtain ⟨x, hx, r, hr, hanswer⟩ := h
  exact ⟨x, getElem?_append_some hx more, r, List.mem_append_left later hr, hanswer⟩

lemma Genuine.justified {v : CommandLine} {p : Pending} (h : v.Genuine p) {r : Received}
    (hr : r ∈ v.received) {response : Option Response} (hanswers : r.Answers p response) :
    Justified v.submissions v.received p.number response := by
  obtain ⟨x, hx, hcategory, hcommand, hseqnum, -⟩ := h
  obtain ⟨hinflight, hvalid, hnode, decoded, hresponse, hdecoded, hmatches, hok⟩ := hanswers
  simp only [responseMatches, Bool.and_eq_true, decide_eq_true_eq] at hmatches
  obtain ⟨⟨hecho, hcode⟩, hsame⟩ := hmatches
  exact ⟨x, hx, r, hr, hinflight, hvalid, hnode, decoded, hresponse, hdecoded, hseqnum ▸ hecho,
    hcategory ▸ hcode, hcommand ▸ hsame, hok⟩

lemma Answered.issue {v : CommandLine} (h : v.Answered) {p : Pending} (hp : v.Genuine p)
    (serial node : ℕ) : (v.issue p serial node).Answered := by
  refine ⟨h.seqnum, fun q hq => ?_, fun snapshot hmem => ?_, h.justified⟩
  · rcases hq with hqueue | hcurrent
    · exact h.pending q (Or.inl hqueue)
    · cases hcurrent
      exact hp
  · rcases hmem with hsends | hwritten
    · rcases Multiset.mem_cons.mp hsends with rfl | hold
      · obtain ⟨x, hx, -, -, -, hframe⟩ := hp
        exact ⟨x, hx, hframe⟩
      · exact h.frames snapshot (Or.inl hold)
    · exact h.frames snapshot (Or.inr hwritten)

lemma Answered.finish {v : CommandLine} (h : v.Answered) {record : CompletionRecord}
    (hrecord : record.status = .success →
      Justified v.submissions v.received record.number record.response) :
    (v.finish record).Answered := by
  refine ⟨h.seqnum, fun q hq => ?_, h.frames, fun other hmem hsuccess => ?_⟩
  · rcases hq with hqueue | hcurrent
    · exact h.pending q (Or.inl hqueue)
    · cases hcurrent
  · rcases hmem with hended | hdone
    · rcases Multiset.mem_cons.mp hended with rfl | hold
      · exact hrecord hsuccess
      · exact h.justified other (Or.inl hold) hsuccess
    · exact h.justified other (Or.inr hdone) hsuccess

lemma Answered.moves {v v' : CommandLine} (h : v.Answered) (hmoves : Moves v v') :
    v'.Answered := by
  have hshort : ∀ {p rest}, v.queue = p :: rest → Answered { v with queue := rest } := by
    intro p rest hqueue
    refine ⟨h.seqnum, fun q hq => h.pending q (hq.imp_left fun hmem => ?_), h.frames, h.justified⟩
    rw [hqueue]
    exact List.mem_cons_of_mem p hmem
  cases hmoves with
  | submit x =>
    refine ⟨?_, fun p hp => ?_, fun snapshot hmem => ?_, fun record hmem hsuccess => ?_⟩
    · change nextSeqnum v.seqnum = seqnumOf (v.submissions ++ [x]).length
      rw [List.length_append, List.length_singleton, seqnumOf_succ, h.seqnum]
    · rcases hp with hqueue | hcurrent
      · rcases List.mem_append.mp hqueue with hold | hnew
        · exact (h.pending p (Or.inl hold)).mono rfl
        · rw [List.mem_singleton.mp hnew]
          exact ⟨x, List.getElem?_concat_length, rfl, rfl, h.seqnum, by rw [h.seqnum]⟩
      · exact (h.pending p (Or.inr hcurrent)).mono rfl
    · obtain ⟨y, hy, hframe⟩ := h.frames snapshot hmem
      exact ⟨y, getElem?_append_some hy [x], hframe⟩
    · have hold := (h.justified record hmem hsuccess).mono [x] []
      rw [List.append_nil] at hold
      exact hold
  | cancel status hstatus =>
    refine ⟨h.seqnum, fun p hp => ?_, h.frames, fun record hmem hsuccess => ?_⟩
    · rcases hp with hqueue | hcurrent
      · cases hqueue
      · cases hcurrent
    · rcases hmem with hended | hdone
      · rcases Multiset.mem_add.mp hended with hnew | hold
        · obtain ⟨p, -, rfl⟩ := List.mem_map.mp (Multiset.mem_coe.mp hnew)
          exact absurd hsuccess hstatus
        · exact h.justified record (Or.inl hold) hsuccess
      · exact h.justified record (Or.inr hdone) hsuccess
  | start p rest serial node hcurrent hqueue hfirst =>
    refine (hshort hqueue).issue ?_ serial node
    exact h.pending p (Or.inl (by rw [hqueue]; exact List.mem_cons_self))
  | refuse p rest hcurrent hqueue => exact (hshort hqueue).finish fun hsuccess => by cases hsuccess
  | resend p serial node hcurrent hattempts hmade =>
    exact h.issue (h.pending p (Or.inr hcurrent)) serial node
  | finish p status response hcurrent hsuccess =>
    refine h.finish fun hstatus => ?_
    obtain ⟨r, hr, hanswers⟩ := hsuccess hstatus
    exact (h.pending p (Or.inr hcurrent)).justified hr hanswers
  | write snapshot hmem =>
    refine ⟨h.seqnum, h.pending, fun other hother => ?_, h.justified⟩
    rcases hother with hsends | hwritten
    · exact h.frames other (Or.inl (Multiset.mem_of_mem_erase hsends))
    · rcases List.mem_append.mp hwritten with hold | hnew
      · exact h.frames other (Or.inr hold)
      · rw [List.mem_singleton.mp hnew]
        exact h.frames snapshot (Or.inl hmem)
  | conclude record hmem =>
    refine ⟨h.seqnum, h.pending, h.frames, fun other hother => h.justified other ?_⟩
    rcases hother with hended | hdone
    · exact Or.inl (Multiset.mem_of_mem_erase hended)
    · rcases List.mem_append.mp hdone with hold | hnew
      · exact Or.inr hold
      · rw [List.mem_singleton.mp hnew]
        exact Or.inl hmem
  | receive r =>
    refine ⟨h.seqnum, h.pending, h.frames, fun record hmem hsuccess => ?_⟩
    have hold := (h.justified record hmem hsuccess).mono [] [r]
    rw [List.append_nil] at hold
    exact hold

/-! ### Runs -/

structure Lawful (v : CommandLine) : Prop where
  ordered : v.Ordered
  bounded : v.Bounded
  answered : v.Answered

theorem Lawful.moves {v v' : CommandLine} (h : v.Lawful)
    (hmoves : Relation.ReflTransGen Moves v v') : v'.Lawful := by
  induction hmoves with
  | refl => exact h
  | tail _ hmove ih =>
    exact ⟨ih.ordered.moves hmove, ih.bounded.moves ih.ordered hmove, ih.answered.moves hmove⟩

end CommandLine

end ASFireWire.Fireworks
