import ASFireWire.EfcAttempts
import ASFireWire.EfcCommandLine
import ASFireWire.Runs

/-! Runs of the EFC transport. Its steps are moves of the line of commands, so that order, number of
writes and answers carry over; with the attempts they give what holds in every state of a run. -/
namespace ASFireWire.Fireworks

open ASFireWire.Async
open CommandLine (Moves)

namespace EfcTransport

def taskSend : Task → Option SendSnapshot
  | .send snapshot => some snapshot
  | _ => none

def taskEnded : Task → List CompletionRecord
  | .complete done status response => [⟨done.number, status, response⟩]
  | .drain ps status => drained ps status
  | _ => []

/-- The line of commands behind the transport. -/
def line (s : EfcTransport) : CommandLine where
  submissions := s.submissions
  seqnum := s.currentSeqnum
  queue := s.queue
  current := s.inflight.map (·.core)
  sends := s.tasks.filterMap taskSend
  written := s.written
  ended := s.tasks.flatMap taskEnded
  completions := s.completions
  received := s.received

variable (s : EfcTransport)

lemma mem_sends {snapshot : SendSnapshot} :
    snapshot ∈ s.line.sends ↔ .send snapshot ∈ s.tasks := by
  simp only [line, Multiset.mem_coe, List.mem_filterMap]
  constructor
  · rintro ⟨task, hmem, htask⟩
    cases task with
    | send other =>
      cases htask
      exact hmem
    | _ => simp [taskSend] at htask
  · intro hmem
    exact ⟨_, hmem, rfl⟩

lemma sends_addTask (t : Task) :
    (s.addTask t).line.sends = (taskSend t).toList + s.line.sends := by
  change ((s.tasks ++ [t]).filterMap taskSend : Multiset SendSnapshot) = _
  rw [List.filterMap_append, ← Multiset.coe_add, add_comm]
  cases h : taskSend t with
  | none =>
    rw [List.filterMap_cons_none h]
    rfl
  | some snapshot =>
    rw [List.filterMap_cons_some h]
    rfl

lemma ended_addTask (t : Task) : (s.addTask t).line.ended = taskEnded t + s.line.ended := by
  change ((s.tasks ++ [t]).flatMap taskEnded : Multiset CompletionRecord) = _
  rw [List.flatMap_append, ← Multiset.coe_add, add_comm, List.flatMap_singleton]
  rfl

/-- Tasks that neither send nor complete anything. -/
lemma line_addInert {t : Task} (hsend : taskSend t = none) (hended : taskEnded t = []) :
    (s.addTask t).line = s.line := by
  refine CommandLine.ext rfl rfl rfl rfl ?_ rfl ?_ rfl rfl
  · rw [sends_addTask, hsend]
    exact zero_add _
  · rw [ended_addTask, hended]
    exact zero_add _

lemma line_prepareSend (p : Pending) : (s.prepareSend p).line =
    s.line.issue p.core (s.nextSerial + 1) (phyId s.route.nodeId) := by
  refine CommandLine.ext rfl rfl rfl rfl ?_ rfl ?_ rfl rfl
  · exact s.sends_addTask
      (.send ⟨p.number, s.nextSerial + 1, p.attempts + 1, phyId s.route.nodeId, p.frame⟩)
  · exact (s.ended_addTask _).trans (zero_add _)

lemma line_detach (p : Pending) (status : IOReturn) (response : Option Response) :
    (s.detach p status response).line = s.line.finish ⟨p.number, status, response⟩ := by
  refine CommandLine.ext rfl rfl rfl rfl ?_ rfl ?_ rfl rfl
  · exact (s.sends_addTask _).trans (zero_add _)
  · exact s.ended_addTask (.complete p status response)

lemma line_rewrite {p q : Pending} (hp : s.inflight = some p) (hq : q.core = p.core) :
    { s with inflight := some q }.line = s.line := by
  simp [line, hp, hq]

lemma line_cancelTimer (token : ℕ) : (s.cancelTimer token).line = s.line := by
  unfold cancelTimer
  split
  · rfl
  · rfl

lemma line_recordWrite (serial attempt handle : ℕ) :
    (s.recordWrite serial attempt handle).line = s.line := by
  unfold recordWrite
  split
  · rfl
  · rename_i p hp
    split
    · exact s.line_rewrite hp rfl
    · rfl

lemma moves_finish {p : Pending} (hp : s.inflight = some p) {status : IOReturn}
    (hstatus : status ≠ .success) (response : Option Response) :
    Moves s.line (s.line.finish ⟨p.number, status, response⟩) :=
  .finish p.core status response (by simp [line, hp]) fun hsuccess => absurd hsuccess hstatus

/-- The last write of an attempt is made when something is outstanding of it. -/
lemma Staged.made {s : EfcTransport} (h : s.Staged) {serial : ℕ}
    (hout : 0 < s.writes.count serial + s.timers.count serial + s.lateTimers.count serial)
    {snapshot : SendSnapshot} (hmem : .send snapshot ∈ s.tasks) : snapshot.serial ≠ serial := by
  rintro rfl
  have hpos : 0 < (s.tasks.filterMap taskSerial).count snapshot.serial :=
    List.count_pos_iff.mpr (List.mem_filterMap.mpr ⟨_, hmem, rfl⟩)
  have honce := h.once snapshot.serial
  simp only [staged, watched] at honce
  omega

lemma moves_retry {p q : Pending} (hp : s.inflight = some p) (hq : q.core = p.core)
    (hmade : ∀ snapshot, .send snapshot ∈ s.tasks → snapshot.serial ≠ p.serial) :
    Moves s.line (s.retry q).line := by
  have hcurrent : s.line.current = some q.core := by simp [line, hp, hq]
  have hserial : q.core.serial = p.core.serial := congrArg Pending.serial hq
  unfold retry
  split
  · rename_i hattempts
    rw [line_prepareSend]
    refine .resend q.core _ _ hcurrent hattempts fun snapshot hmem => ?_
    rw [hserial]
    exact hmade snapshot (s.mem_sends.mp hmem)
  · rw [line_detach]
    exact .finish q.core _ _ hcurrent fun hsuccess => by cases hsuccess

lemma moves_onWriteCompleted {serial : ℕ}
    (hmade : ∀ snapshot, .send snapshot ∈ s.tasks → snapshot.serial ≠ serial)
    (status : AsyncStatus) :
    Relation.ReflTransGen Moves s.line (s.onWriteCompleted serial status).line := by
  unfold onWriteCompleted
  split
  · exact .refl
  · rename_i p hp
    split
    · exact .refl
    · rename_i hserial
      obtain rfl : p.serial = serial := not_not.mp hserial
      dsimp only
      have hfinish : ∀ status, status ≠ IOReturn.success → Relation.ReflTransGen Moves s.line
          (s.detach { p with writeOutstanding := false } status none).line := by
        intro status hstatus
        rw [line_detach]
        exact .single (s.moves_finish hp hstatus none)
      split
      · have hline := line_rewrite (s.addTask (.armTimeout p.serial)) (p := p)
          (q := { p with writeOutstanding := false }) hp rfl
        rw [hline, line_addInert _ rfl rfl]
      · exact .single (s.moves_retry hp rfl hmade)
      · exact .single (s.moves_retry hp rfl hmade)
      · exact hfinish _ (by decide)
      · exact hfinish _ (by decide)
      · exact hfinish _ (by decide)

lemma moves_onTimeout {serial : ℕ}
    (hmade : ∀ snapshot, .send snapshot ∈ s.tasks → snapshot.serial ≠ serial) :
    Relation.ReflTransGen Moves s.line (s.onTimeout serial).line := by
  unfold onTimeout
  split
  · exact .refl
  · rename_i p hp
    split
    · exact .refl
    · rename_i hserial
      obtain rfl : p.serial = serial := not_not.mp hserial
      exact .single (s.moves_retry hp rfl hmade)

/-- A response that completes a command with success answers it. -/
lemma answers_of_accepts {sourceID : ℕ} {payload : List UInt8} {decoded : Response} {p : Pending}
    (hp : s.inflight = some p) (hdecoded : decodeResponse payload = some decoded)
    (haccepts : s.accepts sourceID decoded p) (hsuccess : responseStatus decoded p = .success) :
    Received.Answers ⟨sourceID, payload, s.route, s.inflight⟩ p (some decoded) := by
  simp only [accepts, Bool.and_eq_true, decide_eq_true_eq] at haccepts
  obtain ⟨⟨hvalid, hnode⟩, -⟩ := haccepts
  have hmatches : responseMatches decoded p.seqnum p.category p.command = true ∧
      decoded.header.status = kStatusOk := by
    unfold responseStatus at hsuccess
    split_ifs at hsuccess with hmatch hstatus
    exact ⟨by simpa using hmatch, not_not.mp hstatus⟩
  exact ⟨by rw [hp]; rfl, hvalid, hnode, decoded, rfl, hdecoded, hmatches⟩

lemma cancelTimer_received (token : ℕ) (received : List Received) :
    { s.cancelTimer token with received := received } =
      { s with received := received }.cancelTimer token := by
  unfold cancelTimer
  split
  · rfl
  · rfl

/-- `OnResponse` does not look at the record of the responses. -/
lemma onResponse_received (sourceID : ℕ) (payload : List UInt8) (received : List Received) :
    { s.onResponse sourceID payload with received := received } =
      { s with received := received }.onResponse sourceID payload := by
  unfold onResponse
  dsimp only
  split
  · rename_i decoded p _ _
    change _ = if !s.accepts sourceID decoded p then _ else _
    split
    · rfl
    · rw [← cancelTimer_received s p.timeout received]
      rfl
  · rfl

lemma moves_onResponse {sourceID : ℕ} {payload : List UInt8}
    (hreceived : (⟨sourceID, payload, s.route, s.inflight⟩ : Received) ∈ s.received) :
    Relation.ReflTransGen Moves s.line (s.onResponse sourceID payload).line := by
  unfold onResponse
  split
  · rename_i decoded p hdecoded hp
    split
    · exact .refl
    · rename_i haccepts
      rw [line_detach, line_cancelTimer]
      refine .single (.finish p.core _ _ (by simp [line, hp]) fun hsuccess => ?_)
      have hanswers := s.answers_of_accepts hp hdecoded (by simpa using haccepts) hsuccess
      exact ⟨⟨sourceID, payload, s.route, s.inflight⟩, hreceived, hanswers⟩
  · exact .refl

lemma moves_response (sourceID : ℕ) (payload : List UInt8) :
    Relation.ReflTransGen Moves s.line { s.onResponse sourceID payload with
      received := s.received ++ [(⟨sourceID, payload, s.route, s.inflight⟩ : Received)] }.line := by
  rw [onResponse_received]
  refine Relation.ReflTransGen.head
    (Moves.receive (v := s.line) ⟨sourceID, payload, s.route, s.inflight⟩) ?_
  refine moves_onResponse { s with
    received := s.received ++ [(⟨sourceID, payload, s.route, s.inflight⟩ : Received)] } ?_
  exact List.mem_append_right _ List.mem_cons_self

lemma moves_startNext (hkept : s.TaskKept .startNext 0) :
    Relation.ReflTransGen Moves s.line s.startNext.line := by
  unfold startNext
  split
  · rename_i p rest hinflight hqueue
    have hcurrent : s.line.current = none := by simp [line, hinflight]
    dsimp only
    split
    · rw [line_detach]
      exact .single (.refuse p rest hcurrent hqueue)
    · rw [line_prepareSend]
      refine .single (.start p rest _ _ hcurrent hqueue fun snapshot hmem hfirst => ?_)
      rcases hkept hinflight with hempty | hall
      · rw [hempty] at hqueue
        cases hqueue
      · have hnot := List.all_eq_true.mp hall _ (s.mem_sends.mp hmem)
        simp [isFirst, hfirst] at hnot
  · exact .refl

/-- What taking out a task takes from the line. -/
lemma line_tail {task : Task} {rest : List Task} (hperm : s.tasks.Perm (task :: rest)) :
    s.line = { { s with tasks := rest }.line with
      sends := (taskSend task).toList + { s with tasks := rest }.line.sends
      ended := taskEnded task + { s with tasks := rest }.line.ended } := by
  have hsends : (s.tasks.filterMap taskSend : Multiset SendSnapshot) =
      ((task :: rest).filterMap taskSend : List SendSnapshot) :=
    Multiset.coe_eq_coe.mpr (hperm.filterMap taskSend)
  have hended : (s.tasks.flatMap taskEnded : Multiset CompletionRecord) =
      ((task :: rest).flatMap taskEnded : List CompletionRecord) :=
    Multiset.coe_eq_coe.mpr (hperm.flatMap_right taskEnded)
  refine CommandLine.ext rfl rfl rfl rfl (hsends.trans ?_) rfl hended rfl rfl
  cases h : taskSend task with
  | none =>
    rw [List.filterMap_cons_none h]
    exact (zero_add _).symm
  | some snapshot =>
    rw [List.filterMap_cons_some h]
    rfl

lemma line_tailInert {task : Task} {rest : List Task} (hperm : s.tasks.Perm (task :: rest))
    (hsend : taskSend task = none) (hended : taskEnded task = []) :
    { s with tasks := rest }.line = s.line := by
  rw [s.line_tail hperm, hsend, hended]
  simp

lemma moves_recordTimer (serial token : ℕ) :
    Relation.ReflTransGen Moves s.line (s.recordTimer serial token).line := by
  unfold recordTimer
  split
  · rw [line_cancelTimer]
  · rename_i p hp
    split
    · split
      · rw [line_detach]
        exact .single (s.moves_finish hp (by decide) none)
      · rw [s.line_rewrite (q := { p with timeout := token }) hp rfl]
    · rw [line_cancelTimer]

lemma moves_runTask {task : Task} {rest : List Task} (hperm : s.tasks.Perm (task :: rest))
    {answer : ℕ} (hkept : s.TaskKept task answer) :
    Relation.ReflTransGen Moves s.line (runTask { s with tasks := rest } task answer).line := by
  have htail := s.line_tail hperm
  have hinert := s.line_tailInert hperm
  have hkeptRest : task = .startNext → TaskKept { s with tasks := rest } .startNext 0 := by
    rintro rfl hnone
    rcases hkept hnone with hempty | hall
    · exact Or.inl hempty
    · rw [hperm.all_eq, List.all_cons, Bool.and_eq_true] at hall
      exact Or.inr hall.2
  generalize { s with tasks := rest } = t at htail hinert hkeptRest ⊢
  cases task with
  | startNext =>
    rw [← hinert rfl rfl]
    exact t.moves_startNext (hkeptRest rfl)
  | send snapshot =>
    have hmem : snapshot ∈ s.line.sends := s.mem_sends.mpr (hperm.mem_iff.mpr List.mem_cons_self)
    have hwrite := Moves.write snapshot hmem
    refine .single ?_
    convert hwrite using 1
    rw [htail]
    refine CommandLine.ext rfl rfl rfl rfl ?_ rfl ?_ rfl rfl
    · refine (t.sends_addTask _).trans ((zero_add _).trans ?_)
      exact (Multiset.erase_cons_head snapshot _).symm
    · exact t.ended_addTask (.recordWrite snapshot.serial snapshot.attempt answer)
  | recordWrite serial attempt handle =>
    change Relation.ReflTransGen Moves s.line (t.recordWrite serial attempt handle).line
    rw [line_recordWrite, hinert rfl rfl]
  | armTimeout serial =>
    change Relation.ReflTransGen Moves s.line (t.armTimeout serial _).line
    unfold armTimeout
    rw [← hinert rfl rfl]
    split
    · have hadd := t.line_addInert (t := .recordTimer serial serial) rfl rfl
      rw [← hadd]
      exact .refl
    · rw [t.line_addInert rfl rfl]
  | recordTimer serial token =>
    rw [← hinert rfl rfl]
    exact t.moves_recordTimer serial token
  | complete done status response =>
    have hmem : ⟨done.number, status, response⟩ ∈ s.line.ended := by
      rw [htail]
      exact Multiset.mem_add.mpr (Or.inl List.mem_cons_self)
    have hconclude := Moves.conclude _ hmem
    refine .single ?_
    convert hconclude using 1
    rw [htail]
    refine CommandLine.ext rfl rfl rfl rfl ?_ rfl ?_ rfl rfl
    · exact t.sends_addTask .startNext
    · refine (t.ended_addTask _).trans ((zero_add _).trans ?_)
      exact (Multiset.erase_cons_head (⟨done.number, status, response⟩ : CompletionRecord) _).symm
  | drain ps status =>
    cases ps with
    | nil =>
      rw [← hinert rfl rfl]
      exact .refl
    | cons p ps =>
      have hmem : ⟨p.number, status, none⟩ ∈ s.line.ended := by
        rw [htail]
        exact Multiset.mem_add.mpr (Or.inl List.mem_cons_self)
      have hconclude := Moves.conclude _ hmem
      refine .single ?_
      convert hconclude using 1
      rw [htail]
      have hline := t.line_cancelTimer p.timeout
      have hsends := (t.cancelTimer p.timeout).sends_addTask (.drain ps status)
      have hended := (t.cancelTimer p.timeout).ended_addTask (.drain ps status)
      rw [hline] at hsends hended
      refine CommandLine.ext (congrArg (·.submissions) hline) (congrArg (·.seqnum) hline)
        (congrArg (·.queue) hline) (congrArg (·.current) hline) hsends
        (congrArg (·.written) hline) (hended.trans ?_) rfl (congrArg (·.received) hline)
      exact (Multiset.erase_cons_head (⟨p.number, status, none⟩ : CompletionRecord) _).symm

/-- The transport refines the line of commands. -/
theorem moves_stepped {s s' : EfcTransport} (hs : s.Staged) {e : EfcEvent} (hkept : s.Kept e)
    (hstep : Stepped s e s') : Relation.ReflTransGen Moves s.line s'.line := by
  cases hstep with
  | same => exact .refl
  | submit category command params =>
    refine .single ?_
    convert Moves.submit (v := s.line) ⟨category, command, params⟩ using 1
    refine CommandLine.ext rfl rfl rfl rfl ?_ rfl ?_ rfl rfl
    · exact (s.sends_addTask .startNext).trans (zero_add _)
    · exact (s.ended_addTask .startNext).trans (zero_add _)
  | setRoute route => exact .refl
  | cancelAll status =>
    have hdrained : drained (s.inflight.toList ++ s.queue) status =
        drained ((s.inflight.map (·.core)).toList ++ s.queue) status := by
      cases s.inflight with
      | none => rfl
      | some p => rfl
    refine .single ?_
    convert Moves.cancel (v := s.line) status hkept using 1
    refine CommandLine.ext rfl rfl rfl rfl ((s.sends_addTask _).trans (zero_add _)) rfl
      ((s.ended_addTask _).trans ?_) rfl rfl
    exact congrArg (fun records : List CompletionRecord => (records : Multiset _) + s.line.ended)
      hdrained
  | response sourceID payload => exact s.moves_response sourceID payload
  | writeCompleted serial status hmem =>
    have hpos := List.count_pos_iff.mpr hmem
    refine moves_onWriteCompleted { s with writes := s.writes.erase serial }
      (fun snapshot hsend => hs.made ?_ hsend) status
    omega
  | timerExpired serial hmem =>
    have hpos := List.count_pos_iff.mpr hmem
    refine moves_onTimeout { s with timers := s.timers.erase serial }
      (fun snapshot hsend => hs.made ?_ hsend)
    omega
  | lateTimer serial hmem =>
    have hpos := List.count_pos_iff.mpr hmem
    refine moves_onTimeout { s with lateTimers := s.lateTimers.erase serial }
      (fun snapshot hsend => hs.made ?_ hsend)
    omega
  | run index answer task rest htask hperm => exact s.moves_runTask hperm (hkept task htask)

/-! ### Runs -/

structure Invariant (s : EfcTransport) : Prop where
  accounted : s.Accounted
  staged : s.Staged
  live : s.Live
  queued : s.Queued
  lawful : s.line.Lawful

theorem Invariant.step {s : EfcTransport} (h : s.Invariant) {e : EfcEvent} (hkept : s.Kept e) :
    (s.step e).Invariant := by
  have hstep := s.stepped e
  exact ⟨h.accounted.stepped hstep, h.staged.stepped hstep, h.live.stepped h.staged hkept hstep,
    h.queued.stepped hstep, h.lawful.moves (moves_stepped h.staged hkept hstep)⟩

lemma invariant_initial (timerScheduler : Bool) :
    Invariant { timerScheduler := timerScheduler } := by
  refine ⟨fun k => rfl, ⟨by simp [staged, watched], by simp [staged, watched], by simp, by simp,
    by simp, by simp⟩, live_of_none rfl, Or.inl rfl, ⟨?_, ?_, ?_⟩⟩
  · exact ⟨List.Pairwise.nil, List.Pairwise.nil, by simp [CommandLine.Reached, line, firstWritten],
      by simp [line], by simp [line], by simp [line], by simp [line], by simp [line]⟩
  · exact ⟨fun k => Nat.zero_le _, by simp [line]⟩
  · exact ⟨rfl, by simp [line], by simp [line], by simp [line]⟩

/-- How often the completion of command `k` has run. -/
def completed (s : EfcTransport) (k : ℕ) : ℕ := s.completions.countP (·.number = k)

lemma completed_eq (k : ℕ) : s.completed k = (s.completions.map (·.number)).count k := by
  rw [completed, List.count, List.countP_map]
  congr 1

/-- What is promised of the transport. Where a thread is inside it, something may still be its
to do; when all is quiet, every command has completed. -/
structure Sound (s : EfcTransport) : Prop where
  once : ∀ k, s.completed k ≤ 1
  settled : s.tasks = [] → s.writes = [] → s.timers = [] →
    ∀ k < s.submissions.length, s.completed k = 1
  ordered : (firstWritten s.written).Pairwise (· < ·)
  bounded : ∀ k, s.written.countP (·.number = k) ≤ kMaxAttempts
  frames : ∀ snapshot ∈ s.written, s.line.Frames snapshot.number snapshot.frame
  justified : ∀ record ∈ s.completions, record.status = .success →
    CommandLine.Justified s.submissions s.received record.number record.response
  live : ∀ p, s.inflight = some p → p.serial ∈ s.writes ∨ p.serial ∈ s.timers ∨
    ∃ task ∈ s.tasks, taskSerial task = some p.serial
  queued : s.queue ≠ [] → s.inflight.isSome ∨ ∃ task ∈ s.tasks, leadsOn task

lemma Live.outstanding {s : EfcTransport} (h : s.Live) {p : Pending} (hp : s.inflight = some p) :
    p.serial ∈ s.writes ∨ p.serial ∈ s.timers ∨
      ∃ task ∈ s.tasks, taskSerial task = some p.serial := by
  have hpos := h p hp
  by_cases hwrites : p.serial ∈ s.writes
  · exact Or.inl hwrites
  by_cases htimers : p.serial ∈ s.timers
  · exact Or.inr (Or.inl htimers)
  rw [watched, List.count_eq_zero.mpr hwrites, List.count_eq_zero.mpr htimers] at hpos
  exact Or.inr (Or.inr (List.mem_filterMap.mp (List.count_pos_iff.mp hpos)))

lemma Invariant.settled {s : EfcTransport} (h : s.Invariant) (htasks : s.tasks = [])
    (hwrites : s.writes = []) (htimers : s.timers = []) {k : ℕ} (hk : k < s.submissions.length) :
    s.completed k = 1 := by
  have hinflight : s.inflight = none := by
    cases hp : s.inflight with
    | none => rfl
    | some p =>
      have hpos := h.live p hp
      simp [watched, htasks, hwrites, htimers] at hpos
  have hqueue : s.queue = [] := by
    rcases h.queued with hempty | hsome | hany
    · exact hempty
    · rw [hinflight] at hsome
      cases hsome
    · simp [htasks] at hany
  have hload := h.accounted k
  rw [load_eq, hinflight, hqueue, htasks, if_pos hk] at hload
  rw [completed_eq]
  simpa using hload

theorem Invariant.sound {s : EfcTransport} (h : s.Invariant) : s.Sound := by
  refine ⟨fun k => ?_, fun htasks hwrites htimers k hk => h.settled htasks hwrites htimers hk,
    h.lawful.ordered.seen, fun k => ?_, fun snapshot hmem => ?_, fun record hmem => ?_,
    fun p hp => h.live.outstanding hp, fun hne => ?_⟩
  · have hload := h.accounted k
    rw [load_eq] at hload
    rw [completed_eq]
    split_ifs at hload <;> omega
  · exact (Nat.le_add_right _ _).trans (h.lawful.bounded.most k)
  · exact h.lawful.answered.frames snapshot (Or.inr hmem)
  · exact h.lawful.answered.justified record (Or.inr hmem)
  · rcases h.queued with hempty | hsome | hany
    · exact absurd hempty hne
    · exact Or.inl hsome
    · exact Or.inr (List.any_eq_true.mp hany)

/-- As long as the current attempt is never refused, no first write is left behind and `CancelAll`
does not claim success, the transport keeps what is promised of it in every state of the run. -/
theorem transport_sound (timerScheduler : Bool) {events : List EfcEvent}
    (hkept : Runs.Meets step Kept { timerScheduler := timerScheduler } events) (n : ℕ) :
    Sound (Runs.run step { timerScheduler := timerScheduler } (events.take n)) := by
  have hprefix := hkept.take n
  exact (Runs.invariant_run_of_meets (fun s e h hk => h.step hk) (invariant_initial _) hprefix).sound

/-- One command, sent once and answered. -/
def answeredCommand : List EfcEvent :=
  [.setRoute ⟨true, 0xFFC1⟩, .submit .hwInfo 0 [], .run 0 0, .run 0 1, .run 0 0,
    .writeCompleted 1 .success, .run 0 1, .run 0 0,
    .response 0xFFC1 (encodeCommand 0x00010001 .hwInfo 0 []), .run 0 0, .run 0 0]

theorem transport_sound_answeredCommand :
    Sound (Runs.run step { timerScheduler := true } (answeredCommand.take 11)) :=
  transport_sound true (by decide) 11

/-- The first write is refused, and with it every command after it waits for ever. -/
def refusedWrite : List EfcEvent :=
  [.setRoute ⟨true, 0xFFC1⟩, .submit .hwInfo 0 [], .run 0 0, .run 0 0, .run 0 0,
    .submit .hwInfo 1 [], .run 0 0]

theorem not_sound_refusedWrite : ¬ Sound (Runs.run step {} refusedWrite) := by
  intro h
  have hcompleted := h.settled rfl rfl rfl 0 (by decide)
  revert hcompleted
  decide

/-- A first write left behind by `CancelAll` is made after that of the next command. -/
def overtakenWrite : List EfcEvent :=
  [.setRoute ⟨true, 0xFFC1⟩, .submit .hwInfo 0 [], .run 0 0, .cancelAll .aborted,
    .submit .hwInfo 1 [], .run 2 0, .run 2 1, .run 0 1]

theorem not_sound_overtakenWrite : ¬ Sound (Runs.run step {} overtakenWrite) := by
  intro h
  have hordered := h.ordered
  revert hordered
  decide

end EfcTransport

end ASFireWire.Fireworks
