import ASFireWire.PlugConnections

/-! The leases of the connection manager against its connections: where nothing is under way the one
is there exactly if the other is. -/
namespace ASFireWire.CMP

open Async (AsyncStatus)
open IRM (AllocationStatus)
open Runs

namespace CMPBus

variable {w : CMPBus}

/-- A route is not given up with leases on it. -/
def GivesBack (w : CMPBus) : Event → Prop
  | .invalidateRoute route =>
      w.isCurrent route = false ∨ ∀ key, key.route = route → w.leases key = none
  | _ => True

/-- No connection is without a lease, and no lease waits for an operation that is over. -/
structure Leased (w : CMPBus) : Prop where
  leased : ∀ key, w.isCurrent key.route = true → w.connected key = true → w.leases key ≠ none
  underway : ∀ key lease, w.isCurrent key.route = true → w.leases key = some lease →
    lease.state ≠ .connected → ∃ id op, w.operations id = some op ∧ op.key = key
  unmade : ∀ id op, w.operations id = some op → op.kind = .connect → op.effective = false →
    w.connected op.key = false

lemma Leased.refuse (h : w.Leased) (hholds : w.Holds) (status : AllocationStatus) :
    Leased ({ w with calls := w.calls + 1 }.callback w.calls status) := by
  unfold callback
  dsimp only
  rw [hholds.none_calls]
  exact ⟨h.leased, h.underway, h.unmade⟩

lemma Leased.begin (h : w.Leased) (hcalls : ∀ id op, w.operations id = some op → id < w.calls)
    (op : Operation) {lease : Lease}
    (hunmade : op.kind = .connect → op.effective = false → w.connected op.key = false) :
    Leased { w with
      calls := w.calls + 1
      leases := Function.update w.leases op.key (some lease)
      operations := Function.update w.operations w.calls (some op) } where
  leased key hcurrent hconnected := by
    by_cases heq : key = op.key
    · simp [heq]
    · simpa [heq] using h.leased key hcurrent hconnected
  underway key lease' hcurrent hlease hstate := by
    by_cases heq : key = op.key
    · exact ⟨w.calls, op, Function.update_self _ _ _, heq.symm⟩
    · simp only [Function.update_of_ne heq] at hlease
      obtain ⟨id, op', hop, hkey⟩ := h.underway key lease' hcurrent hlease hstate
      exact ⟨id, op', (Function.update_of_ne (hcalls id op' hop).ne _ _).trans hop, hkey⟩
  unmade id op' hop hkind hnot := by
    rcases update_some_cases hop with ⟨-, rfl⟩ | ⟨-, hbefore⟩
    · exact hunmade hkind hnot
    · exact h.unmade id op' hbefore hkind hnot

lemma Leased.update (h : w.Leased) {id : ℕ} {op op' : Operation} (hop : w.operations id = some op)
    (hkey : op'.key = op.key) (hunmade : op'.kind = .connect → op'.effective = false →
      w.connected op'.key = false) :
    Leased { w with operations := Function.update w.operations id (some op') } where
  leased := h.leased
  underway key lease hcurrent hlease hstate := by
    obtain ⟨id', op'', hop', hkey'⟩ := h.underway key lease hcurrent hlease hstate
    by_cases heq : id' = id
    · rw [heq, hop, Option.some.injEq] at hop'
      exact ⟨id, op', Function.update_self _ _ _, hkey.trans (hop' ▸ hkey')⟩
    · exact ⟨id', op'', (Function.update_of_ne heq _ _).trans hop', hkey'⟩
  unmade id' op'' hop' hkind hnot := by
    rcases update_some_cases hop' with ⟨-, rfl⟩ | ⟨-, hbefore⟩
    · exact hunmade hkind hnot
    · exact h.unmade id' op'' hbefore hkind hnot

lemma Leased.finish (h : w.Leased) (hholds : w.Holds) {id : ℕ} {op : Operation}
    (hop : w.operations id = some op) (result : AllocationStatus)
    (hsuccess : result = .success → op.effective = true)
    (hfailed : result ≠ .success → w.isCurrent op.key.route = true → op.effective = false)
    (callbacks : List (ℕ × AllocationStatus)) :
    Leased { w with
      leases := Function.update w.leases op.key (op.leaseAfter result (w.leases op.key))
      operations := Function.update w.operations id none
      callbacks } := by
  have hstands := hholds.stands id op hop
  refine ⟨fun key hcurrent hconnected => ?_, fun key lease hcurrent hlease hstate => ?_,
    fun id' op' hop' hkind hnot => ?_⟩
  · by_cases heq : key = op.key
    · subst heq
      simp only [Function.update_self]
      rw [hstands.busy hcurrent, op.leaseAfter_busy, if_pos]
      · simp
      · replace hconnected : w.connected op.key = true := hconnected
        by_contra hlost
        cases hkind : op.kind with
        | connect =>
          have hresult : result ≠ .success := fun hresult => hlost (by simp [hkind, hresult])
          have hunmade := h.unmade id op hop hkind (hfailed hresult hcurrent)
          simp [hunmade] at hconnected
        | disconnect =>
          have hresult : result = .success := by simpa [hkind] using hlost
          have hbroken := hstands.broken hkind (hsuccess hresult)
          simp [hbroken] at hconnected
    · simpa [heq] using h.leased key hcurrent hconnected
  · by_cases heq : key = op.key
    · subst heq
      simp only [Function.update_self] at hlease
      rw [hstands.busy hcurrent, op.leaseAfter_busy] at hlease
      split_ifs at hlease
      cases hlease
      exact absurd rfl hstate
    · simp only [Function.update_of_ne heq] at hlease
      obtain ⟨id', op', hop', hkey⟩ := h.underway key lease hcurrent hlease hstate
      have hne : id' ≠ id := fun hid => by
        rw [hid, hop, Option.some.injEq] at hop'
        exact heq (hkey.symm.trans (hop' ▸ rfl))
      exact ⟨id', op', (Function.update_of_ne hne _ _).trans hop', hkey⟩
  · exact h.unmade id' op' (update_none_cases hop').2 hkind hnot

lemma Leased.execute (h : w.Leased) (hholds : w.Holds) (id : ℕ) (mpr : BitVec 32) :
    (w.execute id mpr).Leased := by
  rcases w.execute_cases id mpr with heq | ⟨op, value, hop, hreply, ⟨hnot, heq⟩ | ⟨desired, hrequest,
    hmatch, heq⟩⟩
  · rw [heq]
    exact h
  · rw [heq]
    refine h.update hop rfl fun hkind _ => h.unmade id op hop hkind ?_
    unfold Operation.effective
    rw [hreply]
    cases op.request <;> simp
  · rw [heq]
    have hstands := hholds.stands id op hop
    have hdone : ({ op with reply := some value } : Operation).effective = true := by
      simp [Operation.effective, hrequest]
    have hreplied : (w.withReply id op value).Leased :=
      h.update hop rfl fun _ hnot => absurd hdone (by simp [hnot])
    refine ⟨fun key hcurrent hconnected => ?_, hreplied.underway, fun id' op' hop' hkind hnot => ?_⟩
    · by_cases hkey : key = op.key
      · subst hkey
        show w.leases op.key ≠ none
        rw [hstands.busy hcurrent]
        simp
      · refine h.leased key hcurrent ?_
        rw [← hconnected]
        exact (Function.update_of_ne hkey _ _).symm
    · rcases update_some_cases hop' with ⟨-, rfl⟩ | ⟨hid, hbefore⟩
      · exact absurd hdone (by simpa using hnot)
      · have hne : op'.key ≠ op.key := fun hkey => hid (hholds.one id' id op' op hbefore hop hkey)
        exact (Function.update_of_ne hne _ _).trans (h.unmade id' op' hbefore hkind hnot)

lemma Leased.requestDone (h : w.Leased) (hholds : w.Holds) {id : ℕ} {status : AsyncStatus}
    {sized : Bool} {gapCount : ℕ} (horderly : w.Orderly (.requestDone id status sized gapCount)) :
    (w.requestDone id status sized gapCount).Leased := by
  have hends := w.requestEnds id status sized gapCount
  generalize w.requestDone id status sized gapCount = w' at hends
  cases hends with
  | none => exact h
  | ends op result hop hsuccess hfailed =>
    rw [complete_eq]
    refine h.finish hholds hop result (fun hresult => (hsuccess hresult).1) (fun hresult hcur => ?_) _
    cases hdone : op.effective with
    | false => rfl
    | true => exact absurd (horderly op hop hdone hcur) (hfailed hresult hdone hcur)
  | next op op' hop hnext =>
    obtain ⟨hkey, hkind, -, hbefore, -⟩ := hnext.same
    refine h.update hop hkey fun hconnect _ => ?_
    rw [hkey]
    exact h.unmade id op hop (hkind.symm.trans hconnect) hbefore

lemma Leased.step (h : w.Leased) (hholds : w.Holds) (e : Event) (horderly : w.Orderly e)
    (hback : w.GivesBack e) : (CMPBus.step w e).Leased := by
  cases e with
  | connect key channel routeSpeed =>
    show (w.connect key channel routeSpeed).Leased
    rcases w.connect_cases key channel routeSpeed with heq | ⟨hcurrent, -, hfree, heq⟩
    · rw [heq]
      exact h.refuse hholds .failed
    · rw [heq]
      refine h.begin hholds.calls
        { kind := .connect, key, channel, speed := routeSpeed, request := .readMPR, requests := 1 }
        fun _ _ => ?_
      by_contra hconnected
      exact h.leased key hcurrent (Bool.eq_true_of_not_eq_false hconnected) hfree
  | disconnect key =>
    show (w.disconnect key).Leased
    rcases w.disconnect_cases key with heq | ⟨channel, -, -, heq⟩
    · rw [heq]
      exact h.refuse hholds .success
    · rw [heq]
      exact h.begin hholds.calls
        { kind := .disconnect, key, channel, request := .readPCR, requests := 1 } (by simp)
  | execute id mpr => exact h.execute hholds id mpr
  | requestDone id status sized gapCount => exact h.requestDone hholds horderly
  | otherHost key pcr others => exact ⟨h.leased, h.underway, h.unmade⟩
  | invalidateRoute route =>
    refine ⟨fun key hcurrent hconnected => ?_, fun key lease hcurrent hlease hstate => ?_, h.unmade⟩
    · show (if key.route = route ∧ route.valid then none else w.leases key) ≠ none
      rw [if_neg]
      · exact h.leased key hcurrent hconnected
      · rintro ⟨hroute, -⟩
        rcases hback with hstale | hnone
        · rw [← hroute, show w.isCurrent key.route = true from hcurrent] at hstale
          cases hstale
        · exact h.leased key hcurrent hconnected (hnone key hroute)
    · have hbefore : (if key.route = route ∧ route.valid then none else w.leases key) = some lease :=
        hlease
      split_ifs at hbefore
      exact h.underway key lease hcurrent hbefore hstate
  | invalidateAllLeasesForBusReset =>
    refine ⟨fun key hcurrent hconnected => ?_, fun key lease _ hlease => ?_, h.unmade⟩
    · exact absurd (horderly key hcurrent) (h.leased key hcurrent hconnected)
    · cases hlease
  | routesChange isCurrent =>
    refine ⟨fun key hcurrent hconnected => ?_, fun key lease hcurrent hlease hstate => ?_, h.unmade⟩
    · rcases horderly key.route hcurrent with hbefore | hnew
      · exact h.leased key hbefore hconnected
      · have hnone := (hholds.unknown key hnew).2
        rw [show w.connected key = true from hconnected] at hnone
        cases hnone
    · rcases horderly key.route hcurrent with hbefore | hnew
      · exact h.underway key lease hbefore hlease hstate
      · have hnone := (hholds.unknown key hnew).1
        rw [show w.leases key = some lease from hlease] at hnone
        cases hnone

/-- In every orderly run in which routes are given up without leases, the leases of a current route
on which nothing is under way are this client's connections, with their channels. -/
theorem lease_iff_connected (h : w.Fresh)
    (hothers : ∀ key, (PCRBits.getP2P (w.registers key)).toNat = w.others key) {events : List Event}
    (horderly : Meets CMPBus.step Orderly w events) (hback : Meets CMPBus.step GivesBack w events)
    {key : LeaseKey} (hcurrent : (run CMPBus.step w events).isCurrent key.route = true)
    (hidle : ∀ id op, (run CMPBus.step w events).operations id = some op → op.key ≠ key) :
    (∃ channel, (run CMPBus.step w events).leases key = some ⟨channel, .connected⟩ ∧
        PCRBits.getChannel ((run CMPBus.step w events).registers key) = channel) ↔
      (run CMPBus.step w events).connected key = true := by
  have hbegin : w.Leased :=
    ⟨fun key _ hconnected => by simp [h.connected key] at hconnected,
      fun key lease _ hlease => by simp [h.leases key] at hlease,
      fun id op hop => by simp [h.operations id] at hop⟩
  obtain ⟨hholds, hleased⟩ := invariant_run_of_meets (I := fun w => Holds w ∧ Leased w)
    (C := fun w e => Orderly w e ∧ GivesBack w e)
    (fun _ e hs hc => ⟨hs.1.step e hc.1, hs.2.step hs.1 e hc.1 hc.2⟩) ⟨h.holds hothers, hbegin⟩
    (horderly.and hback)
  constructor
  · rintro ⟨channel, hlease, -⟩
    exact (hholds.lease key channel hcurrent hlease).1
  · intro hconnected
    cases hlease : (run CMPBus.step w events).leases key with
    | none => exact absurd hlease (hleased.leased key hcurrent hconnected)
    | some lease =>
      obtain ⟨channel, state⟩ := lease
      by_cases hstate : state = .connected
      · subst hstate
        exact ⟨channel, rfl, (hholds.lease key channel hcurrent hlease).2⟩
      · obtain ⟨id, op, hop, hkey⟩ := hleased.underway key _ hcurrent hlease hstate
        exact absurd hkey (hidle id op hop)

theorem lease_iff_connected_oneDevice :
    (∃ channel, (run CMPBus.step oneDevice connection).leases outputPlug =
          some ⟨channel, .connected⟩ ∧
        PCRBits.getChannel ((run CMPBus.step oneDevice connection).registers outputPlug) =
          channel) ↔
      (run CMPBus.step oneDevice connection).connected outputPlug = true := by
  refine lease_iff_connected fresh_oneDevice others_oneDevice orderly_connection
    ⟨trivial, trivial, trivial, trivial, trivial, trivial, trivial, trivial⟩ (by decide) ?_
  intro id op hop
  have hfresh := (fresh_oneDevice.answered connection).fresh
  have hcalls : (run CMPBus.step oneDevice connection).calls = 1 := by decide
  by_cases hid : id = 0
  · subst hid
    have hnone : (run CMPBus.step oneDevice connection).operations 0 = none := by decide
    rw [hnone] at hop
    cases hop
  · rw [(hfresh id (by omega)).1] at hop
    cases hop

end CMPBus

end ASFireWire.CMP
