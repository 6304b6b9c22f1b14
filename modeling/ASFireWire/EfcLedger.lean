import ASFireWire.EfcTransport

/-! Where the commands of the EFC transport are: every submission is queued, in flight, taken out
to be completed or completed, and at one of these places. -/
namespace ASFireWire.Fireworks

open ASFireWire.Async

namespace EfcTransport

def taskNumbers : Task → List ℕ
  | .complete done _ _ => [done.number]
  | .drain drained _ => drained.map (·.number)
  | _ => []

/-- Numbers of the commands that are queued, in flight, taken out or completed. -/
def numbers (s : EfcTransport) : List ℕ :=
  s.queue.map (·.number) ++ (s.inflight.toList.map (·.number) ++
    (s.tasks.flatMap taskNumbers ++ s.completions.map (·.number)))

/-- Places that have command `k`. -/
def load (s : EfcTransport) (k : ℕ) : ℕ := s.numbers.count k

def one (n k : ℕ) : ℕ := [n].count k

lemma one_eq (n k : ℕ) : one n k = if n = k then 1 else 0 := by
  simp [one, List.count_singleton]

variable (s : EfcTransport) (k : ℕ)

lemma load_eq : s.load k = (s.queue.map (·.number)).count k +
    ((s.inflight.toList.map (·.number)).count k + ((s.tasks.flatMap taskNumbers).count k +
      (s.completions.map (·.number)).count k)) := by
  simp [load, numbers, List.count_append]

lemma load_addTask (t : Task) : (s.addTask t).load k = s.load k + (taskNumbers t).count k := by
  simp only [load_eq, addTask, List.flatMap_append, List.count_append, List.flatMap_singleton]
  omega

lemma load_inflight {p : Pending} (h : s.inflight = some p) :
    s.load k = { s with inflight := none }.load k + one p.number k := by
  simp only [load_eq, h, one, Option.toList_some, Option.toList_none, List.map_cons, List.map_nil,
    List.count_nil]
  omega

lemma load_prepareSend (p : Pending) :
    (s.prepareSend p).load k = { s with inflight := none }.load k + one p.number k := by
  simp only [load_eq, prepareSend, addTask, one, List.flatMap_append, List.count_append,
    List.flatMap_singleton, taskNumbers, Option.toList_some, Option.toList_none, List.map_cons,
    List.map_nil, List.count_nil]
  omega

lemma load_detach (p : Pending) (status : IOReturn) (response : Option Response) :
    (s.detach p status response).load k =
      { s with inflight := none }.load k + one p.number k := by
  simp only [load_eq, detach, addTask, one, List.flatMap_append, List.count_append,
    List.flatMap_singleton, taskNumbers, Option.toList_none, List.map_nil, List.count_nil]
  omega

lemma load_retry (p : Pending) :
    (s.retry p).load k = { s with inflight := none }.load k + one p.number k := by
  unfold retry
  split
  · exact s.load_prepareSend k p
  · exact s.load_detach k p _ _

/-- Rewriting the command in flight without renumbering it. -/
lemma load_rewrite {p q : Pending} (h : s.inflight = some p) (hq : q.number = p.number) :
    { s with inflight := some q }.load k = s.load k := by
  simp [load_eq, h, hq]

lemma load_startNext : s.startNext.load k = s.load k := by
  unfold startNext
  split
  · rename_i p rest hinflight hqueue
    have hhead : s.load k = { s with queue := rest }.load k + one p.number k := by
      simp only [load_eq, hqueue, one, List.map_cons, List.count_cons, List.count_nil]
      omega
    have hnone : { s with queue := rest, inflight := none } = { s with queue := rest } := by
      rw [← hinflight]
    dsimp only
    split
    · rw [load_detach, hnone, hhead]
    · rw [load_prepareSend, hnone, hhead]
  · rfl

lemma load_recordWrite (serial attempt handle : ℕ) :
    (s.recordWrite serial attempt handle).load k = s.load k := by
  unfold recordWrite
  split
  · rfl
  · rename_i p hp
    split
    · exact s.load_rewrite k hp rfl
    · rfl

lemma load_onWriteCompleted (serial : ℕ) (status : AsyncStatus) :
    (s.onWriteCompleted serial status).load k = s.load k := by
  unfold onWriteCompleted
  split
  · rfl
  · rename_i p hp
    have hout := s.load_inflight k hp
    split
    · rfl
    · split
      · have hrewrite := s.load_rewrite (q := { p with writeOutstanding := false }) k hp rfl
        simp only [load_eq, addTask, List.flatMap_append, List.count_append, List.flatMap_singleton,
          taskNumbers, List.count_nil] at hrewrite ⊢
        omega
      · rw [load_retry, hout]
      · rw [load_retry, hout]
      · rw [load_detach, hout]
      · rw [load_detach, hout]
      · rw [load_detach, hout]

lemma load_cancelTimer (token : ℕ) : (s.cancelTimer token).load k = s.load k := by
  unfold cancelTimer
  split
  · rfl
  · rfl

lemma load_recordTimer (serial token : ℕ) : (s.recordTimer serial token).load k = s.load k := by
  unfold recordTimer
  split
  · exact s.load_cancelTimer k token
  · rename_i p hp
    split
    · split
      · rw [load_detach, s.load_inflight k hp]
      · exact s.load_rewrite k hp rfl
    · exact s.load_cancelTimer k token

lemma load_onTimeout (serial : ℕ) : (s.onTimeout serial).load k = s.load k := by
  unfold onTimeout
  split
  · rfl
  · rename_i p hp
    split
    · rfl
    · rw [load_retry, s.load_inflight k hp]

lemma cancelTimer_inflight (token : ℕ) : (s.cancelTimer token).inflight = s.inflight := by
  unfold cancelTimer
  split
  · rfl
  · rfl

lemma load_onResponse (sourceID : ℕ) (payload : List UInt8) :
    (s.onResponse sourceID payload).load k = s.load k := by
  unfold onResponse
  split
  · rename_i decoded p _ hp
    split
    · rfl
    · have hsame := s.load_cancelTimer k p.timeout
      have hp' : (s.cancelTimer p.timeout).inflight = some p := by rw [cancelTimer_inflight, hp]
      rw [load_detach, ← hsame, (s.cancelTimer p.timeout).load_inflight k hp']
  · rfl

lemma load_runTask (task : Task) (answer : ℕ) :
    (s.runTask task answer).load k = s.load k + (taskNumbers task).count k := by
  cases task with
  | startNext => exact s.load_startNext k
  | send snapshot => exact s.load_addTask k _
  | recordWrite serial attempt handle => exact s.load_recordWrite k serial attempt handle
  | armTimeout serial =>
    change (s.armTimeout serial _).load k = _
    unfold armTimeout
    split
    · exact s.load_addTask k _
    · exact s.load_addTask k _
  | recordTimer serial token => exact s.load_recordTimer k serial token
  | complete done status response =>
    change (s.complete done status response).load k = _
    simp only [load_eq, complete, addTask, taskNumbers, List.flatMap_append, List.count_append,
      List.flatMap_singleton, List.map_append, List.map_cons, List.map_nil, List.count_nil]
    omega
  | drain drained status =>
    change (s.drain drained status).load k = _
    cases drained with
    | nil => rfl
    | cons p rest =>
      have hsame := s.load_cancelTimer k p.timeout
      have hqueue : (s.cancelTimer p.timeout).completions = s.completions := by
        unfold cancelTimer
        split
        · rfl
        · rfl
      simp only [load_eq, drain, addTask, taskNumbers, List.flatMap_append, List.count_append,
        List.flatMap_singleton, List.map_append, List.map_cons, List.map_nil, List.count_cons,
        List.count_nil, hqueue] at hsame ⊢
      omega

/-- The same threads in another order. -/
lemma load_perm {tasks : List Task} (h : s.tasks.Perm tasks) :
    { s with tasks := tasks }.load k = s.load k := by
  have hcount := (h.flatMap_right taskNumbers).count_eq k
  simp only [load_eq]
  omega

/-- The task a `run` event takes out. -/
lemma perm_eraseIdx {index : ℕ} {task : Task} (h : s.tasks[index]? = some task) :
    s.tasks.Perm (task :: s.tasks.eraseIdx index) := by
  obtain ⟨hlt, rfl⟩ := List.getElem?_eq_some_iff.mp h
  exact (List.getElem_cons_eraseIdx_perm hlt).symm

/-- Every submission is at one place. -/
def Accounted (s : EfcTransport) : Prop :=
  ∀ k, s.load k = if k < s.submissions.length then 1 else 0

/-- What is recorded of calls from outside. -/
def record (s : EfcTransport) : List Submission × List Received := (s.submissions, s.received)

lemma record_retry (p : Pending) : (s.retry p).record = s.record := by
  unfold retry
  split
  · rfl
  · rfl

lemma record_cancelTimer (token : ℕ) : (s.cancelTimer token).record = s.record := by
  unfold cancelTimer
  split
  · rfl
  · rfl

lemma record_onWriteCompleted (serial : ℕ) (status : AsyncStatus) :
    (s.onWriteCompleted serial status).record = s.record := by
  unfold onWriteCompleted
  split
  · rfl
  · split
    · rfl
    · split
      · rfl
      · exact s.record_retry _
      · exact s.record_retry _
      · rfl
      · rfl
      · rfl

lemma record_onTimeout (serial : ℕ) : (s.onTimeout serial).record = s.record := by
  unfold onTimeout
  split
  · rfl
  · split
    · rfl
    · exact s.record_retry _

lemma record_onResponse (sourceID : ℕ) (payload : List UInt8) :
    (s.onResponse sourceID payload).record = s.record := by
  unfold onResponse
  split
  · split
    · rfl
    · exact s.record_cancelTimer _
  · rfl

lemma record_runTask (task : Task) (answer : ℕ) : (s.runTask task answer).record = s.record := by
  cases task with
  | startNext =>
    change s.startNext.record = s.record
    unfold startNext
    split
    · dsimp only
      split
      · rfl
      · rfl
    · rfl
  | send snapshot => rfl
  | recordWrite serial attempt handle =>
    change (s.recordWrite serial attempt handle).record = s.record
    unfold recordWrite
    split
    · rfl
    · split
      · rfl
      · rfl
  | armTimeout serial =>
    change (s.armTimeout serial _).record = s.record
    unfold armTimeout
    split
    · rfl
    · rfl
  | recordTimer serial token =>
    change (s.recordTimer serial token).record = s.record
    unfold recordTimer
    split
    · exact s.record_cancelTimer token
    · split
      · split
        · rfl
        · rfl
      · exact s.record_cancelTimer token
  | complete done status response => rfl
  | drain drained status =>
    cases drained with
    | nil => rfl
    | cons p rest => exact s.record_cancelTimer p.timeout

/-! ### Steps -/

/-- What a step can do. In the order of the constructors: nothing, the calls from outside, the two
kinds of callback (the second of them twice, for a timer in time and for a late one) and one task
of a thread. -/
inductive Stepped (s : EfcTransport) : EfcEvent → EfcTransport → Prop
  | same (e : EfcEvent) : Stepped s e s
  | submit (category : Category) (command : ℕ) (params : List ℕ) :
    Stepped s (.submit category command params) (s.submit category command params)
  | setRoute (route : Route) : Stepped s (.setRoute route) (s.setRoute route)
  | cancelAll (status : IOReturn) : Stepped s (.cancelAll status) (s.cancelAll status)
  | response (sourceID : ℕ) (payload : List UInt8) :
    Stepped s (.response sourceID payload) { s.onResponse sourceID payload with
      received := s.received ++ [⟨sourceID, payload, s.route, s.inflight⟩] }
  | writeCompleted (serial : ℕ) (status : AsyncStatus) (h : serial ∈ s.writes) :
    Stepped s (.writeCompleted serial status)
      ({ s with writes := s.writes.erase serial }.onWriteCompleted serial status)
  | timerExpired (serial : ℕ) (h : serial ∈ s.timers) : Stepped s (.timerExpired serial)
      ({ s with timers := s.timers.erase serial }.onTimeout serial)
  | lateTimer (serial : ℕ) (h : serial ∈ s.lateTimers) : Stepped s (.timerExpired serial)
      ({ s with lateTimers := s.lateTimers.erase serial }.onTimeout serial)
  | run (index answer : ℕ) (task : Task) (rest : List Task) (htask : s.tasks[index]? = some task)
      (hperm : s.tasks.Perm (task :: rest)) :
    Stepped s (.run index answer) ({ s with tasks := rest }.runTask task answer)

lemma stepped (e : EfcEvent) : Stepped s e (s.step e) := by
  cases e with
  | submit category command params => exact .submit category command params
  | setRoute route => exact .setRoute route
  | cancelAll status => exact .cancelAll status
  | response sourceID payload => exact .response sourceID payload
  | writeCompleted serial status =>
    by_cases h : serial ∈ s.writes
    · rw [show s.step (.writeCompleted serial status) = _ from if_pos h]
      exact .writeCompleted serial status h
    · rw [show s.step (.writeCompleted serial status) = s from if_neg h]
      exact .same _
  | timerExpired serial =>
    by_cases h : serial ∈ s.timers
    · rw [show s.step (.timerExpired serial) = _ from if_pos h]
      exact .timerExpired serial h
    · rw [show s.step (.timerExpired serial) = _ from if_neg h]
      by_cases hlate : serial ∈ s.lateTimers
      · rw [if_pos hlate]
        exact .lateTimer serial hlate
      · rw [if_neg hlate]
        exact .same _
  | run index answer =>
    unfold step
    dsimp only
    split
    · exact .same _
    · rename_i task htask
      exact .run index answer task _ htask (s.perm_eraseIdx htask)

lemma Accounted.stepped {s s' : EfcTransport} (h : s.Accounted) {e : EfcEvent}
    (hstep : Stepped s e s') : s'.Accounted := by
  intro k
  have hk := h k
  cases hstep with
  | same => exact hk
  | submit category command params =>
    simp only [load_eq, submit, addTask, List.flatMap_append, List.count_append, taskNumbers,
      List.flatMap_singleton, List.map_append, List.map_cons, List.map_nil, List.count_cons,
      List.count_nil, List.length_append, List.length_singleton, beq_iff_eq] at hk ⊢
    split_ifs at hk ⊢ <;> omega
  | setRoute route => exact hk
  | cancelAll status =>
    refine Eq.trans ?_ hk
    simp only [load_eq, cancelAll, addTask, taskNumbers, List.flatMap_append, List.count_append,
      List.flatMap_singleton, List.map_append, Option.toList_none, List.map_nil, List.count_nil]
    omega
  | response sourceID payload =>
    have hrecord : (s.onResponse sourceID payload).submissions = s.submissions :=
      congrArg Prod.fst (s.record_onResponse sourceID payload)
    change (s.onResponse sourceID payload).load k =
      if k < (s.onResponse sourceID payload).submissions.length then 1 else 0
    rw [load_onResponse, hrecord, hk]
  | writeCompleted serial status =>
    have hrecord : (onWriteCompleted { s with writes := s.writes.erase serial } serial
        status).submissions = s.submissions := congrArg Prod.fst (record_onWriteCompleted _ _ _)
    rw [load_onWriteCompleted, hrecord]
    exact hk
  | timerExpired serial =>
    have hrecord : (onTimeout { s with timers := s.timers.erase serial } serial).submissions =
        s.submissions := congrArg Prod.fst (record_onTimeout _ _)
    rw [load_onTimeout, hrecord]
    exact hk
  | lateTimer serial =>
    have hrecord : (onTimeout { s with lateTimers := s.lateTimers.erase serial }
        serial).submissions = s.submissions := congrArg Prod.fst (record_onTimeout _ _)
    rw [load_onTimeout, hrecord]
    exact hk
  | run index answer task rest htask hperm =>
    have hrecord : (runTask { s with tasks := rest } task answer).submissions = s.submissions :=
      congrArg Prod.fst (record_runTask _ _ _)
    have hload := s.load_perm k hperm
    rw [load_runTask, hrecord, ← hk, ← hload]
    simp only [load_eq, List.flatMap_cons, List.count_append]
    omega

end EfcTransport

end ASFireWire.Fireworks
