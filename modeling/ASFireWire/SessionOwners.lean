import ASFireWire.SessionRegistryInvariant

/-! A call of an owner leaves the SBP-2 sessions of the other owners as they are. -/
namespace ASFireWire.SBP2

namespace SessionRegistry

variable {g : SessionRegistry} {E : ℕ → LoginSession → Prop}

/-- The sessions of the other owners, live and retiring. -/
def others (g : SessionRegistry) (owner : ℕ) : List SessionRecord × List RetiringSession :=
  (g.sessions.filter (·.owner ≠ owner), g.retiringSessions.filter (·.owner ≠ owner))

/-- A handle of the owner's. -/
def Owned (g : SessionRegistry) (owner handle : ℕ) : Prop :=
  (∀ r ∈ g.sessions, r.handle = handle → r.owner = owner) ∧
    ∀ r ∈ g.retiringSessions, r.handle = handle → r.owner = owner

/-- What only concerns the owner. -/
structure Apart (owner : ℕ) (g g' : SessionRegistry) : Prop where
  others : g'.others owner = g.others owner
  owned : ∀ handle, g.Owned owner handle → g'.Owned owner handle

lemma Apart.refl (owner : ℕ) (g : SessionRegistry) : Apart owner g g := ⟨rfl, fun _ => id⟩

lemma Apart.trans {owner : ℕ} {g₁ g₂ g₃ : SessionRegistry} (h : Apart owner g₁ g₂)
    (h' : Apart owner g₂ g₃) : Apart owner g₁ g₃ :=
  ⟨h'.others.trans h.others, fun handle howned => h'.owned handle (h.owned handle howned)⟩

variable {owner handle : ℕ}

lemma Owned.apart_eraseSession (h : g.Owned owner handle) :
    Apart owner g (g.eraseSession handle) := by
  refine ⟨Prod.ext (KeyedLists.filter_erase fun r hr hk => ?_) rfl, fun k hk => ?_⟩
  · simp [h.1 r hr hk]
  · exact ⟨fun r hr => hk.1 r (KeyedLists.mem_erase.mp hr).1, hk.2⟩

lemma Owned.apart_eraseRetired (h : g.Owned owner handle) :
    Apart owner g (g.eraseRetired handle) := by
  refine ⟨Prod.ext rfl (KeyedLists.filter_erase fun r hr hk => ?_), fun k hk => ?_⟩
  · simp [h.2 r hr hk]
  · exact ⟨hk.1, fun r hr => hk.2 r (KeyedLists.mem_erase.mp hr).1⟩

lemma Owned.apart_putSession (h : g.Owned owner handle) (session : LoginSession) :
    Apart owner g (g.putSession handle session) := by
  refine ⟨Prod.ext (KeyedLists.filter_modify fun r hr hk => ?_)
    (KeyedLists.filter_modify fun r hr hk => ?_), fun k hk => ⟨fun r hr => ?_, fun r hr => ?_⟩⟩
  · simp [h.1 r hr hk]
  · simp [h.2 r hr hk]
  · obtain ⟨x, hx, rfl⟩ := KeyedLists.mem_modify.mp hr
    split_ifs
    · exact hk.1 x hx
    · exact hk.1 x hx
  · obtain ⟨x, hx, rfl⟩ := KeyedLists.mem_modify.mp hr
    split_ifs
    · exact hk.2 x hx
    · exact hk.2 x hx

lemma Owned.apart_report (h : g.Owned owner handle) (guid : ℕ) (reported : SessionReport) :
    Apart owner g (report handle guid g reported) := by
  cases reported with
  | login status =>
    change Apart owner g (g.loginReported handle status)
    unfold loginReported
    split
    · exact Apart.refl owner g
    · refine ⟨Prod.ext (KeyedLists.filter_modify fun r hr hk => ?_) rfl,
        fun k hk => ⟨fun r hr => ?_, hk.2⟩⟩
      · simp [h.1 r hr hk]
      · obtain ⟨x, hx, rfl⟩ := KeyedLists.mem_modify.mp hr
        split_ifs
        · exact hk.1 x hx
        · exact hk.1 x hx
  | logout status =>
    have hlive := h.apart_eraseSession
    have hboth := hlive.trans (hlive.owned handle h).apart_eraseRetired
    exact ⟨hboth.others, hboth.owned⟩

lemma Owned.apart_perform (h : g.Owned owner handle) (call : LoginSession → LoginSession) :
    Apart owner g (g.perform handle call) := by
  have hfold : ∀ (reports : List SessionReport) (guid : ℕ) (g : SessionRegistry),
      g.Owned owner handle → Apart owner g (reports.foldl (report handle guid) g) := by
    intro reports guid
    induction reports with
    | nil => exact fun g _ => Apart.refl owner g
    | cons first rest ih =>
      intro g hg
      have hfirst := hg.apart_report guid first
      exact hfirst.trans (ih _ (hfirst.owned handle hg))
  unfold perform
  split
  · exact Apart.refl owner g
  · have hput := h.apart_putSession
    exact (hput _).trans (hfold _ _ _ ((hput _).owned handle h))

lemma Owned.apart_logoutRetired (h : g.Owned owner handle) (answer : BusAnswer) :
    Apart owner g (g.logoutRetired handle answer) := by
  unfold logoutRetired
  split
  · exact Apart.refl owner g
  · have hperform := h.apart_perform fun s => (s.logout answer).1
    dsimp only
    split
    · exact hperform
    · exact hperform.trans (hperform.owned handle h).apart_eraseRetired

lemma Owned.apart_detach {r : SessionRecord} (h : g.Owned owner r.handle) (hr : r.owner = owner) :
    Apart owner g (g.detach r) := by
  unfold detach
  split
  · refine ⟨Prod.ext (KeyedLists.filter_erase fun x hx hk => ?_) ?_, fun k hk => ⟨fun x hx => ?_,
      fun x hx => ?_⟩⟩
    · simp [h.1 x hx hk]
    · change (g.retiringSessions ++ [_]).filter _ = _
      rw [List.filter_append, List.filter_singleton]
      simp [hr, SessionRegistry.others]
    · exact hk.1 x (KeyedLists.mem_erase.mp hx).1
    · rcases List.mem_append.mp hx with hold | hnew
      · exact hk.2 x hold
      · rw [List.mem_singleton.mp hnew]
        exact fun _ => hr
  · exact h.apart_eraseSession

/-- The handle of a live record is its owner's alone. -/
lemma Lawful.owned (h : g.Lawful E) {r : SessionRecord} (hr : r ∈ g.sessions) :
    g.Owned r.owner r.handle := by
  refine ⟨fun r' hr' heq => ?_, fun r' hr' heq => ?_⟩
  · rw [h.unique hr' hr heq]
  · exact absurd heq.symm (h.not_both hr hr')

lemma findByHandleForOwner_mem {r : SessionRecord}
    (hr : g.findByHandleForOwner owner handle = some r) :
    r ∈ g.sessions ∧ r.handle = handle ∧ r.owner = owner := by
  obtain ⟨hfound, howner⟩ := Option.filter_eq_some_iff.mp hr
  obtain ⟨hmem, hhandle⟩ := findByHandle_mem hfound
  exact ⟨hmem, hhandle, of_decide_eq_true howner⟩

lemma Lawful.apart_releaseOwner (h : g.Lawful E) (owner : ℕ) (answers : ℕ → BusAnswer) :
    Apart owner g (g.releaseOwner owner answers) := by
  have hdetach : ∀ (records : List SessionRecord) (g : SessionRegistry),
      (∀ r ∈ records, r.owner = owner ∧ g.Owned owner r.handle) →
        Apart owner g (records.foldl SessionRegistry.detach g) := by
    intro records
    induction records with
    | nil => exact fun g _ => Apart.refl owner g
    | cons r records ih =>
      intro g hg
      obtain ⟨hr, howned⟩ := hg r List.mem_cons_self
      have hfirst := howned.apart_detach hr
      refine hfirst.trans (ih _ fun r' hr' => ?_)
      obtain ⟨hr'', howned'⟩ := hg r' (List.mem_cons_of_mem r hr')
      exact ⟨hr'', hfirst.owned _ howned'⟩
  have hlogout : ∀ (handles : List ℕ) (g : SessionRegistry),
      (∀ handle ∈ handles, g.Owned owner handle) → Apart owner g
        (handles.foldl (fun g handle => g.logoutRetired handle (answers handle)) g) := by
    intro handles
    induction handles with
    | nil => exact fun g _ => Apart.refl owner g
    | cons handle handles ih =>
      intro g hg
      have hfirst := (hg handle List.mem_cons_self).apart_logoutRetired (answers handle)
      exact hfirst.trans (ih _ fun k hk => hfirst.owned k (hg k (List.mem_cons_of_mem handle hk)))
  have hmine : ∀ r ∈ g.sessions.filter (·.owner = owner), r.owner = owner ∧
      g.Owned owner r.handle := by
    intro r hr
    obtain ⟨hmem, howner⟩ := List.mem_filter.mp hr
    have howner := of_decide_eq_true howner
    exact ⟨howner, howner ▸ h.owned hmem⟩
  have hfirst := hdetach _ g hmine
  refine hfirst.trans (hlogout _ _ fun handle hhandle => ?_)
  obtain ⟨r, hr, rfl⟩ := List.mem_map.mp hhandle
  exact hfirst.owned _ (hmine r (List.mem_filter.mp hr).1).2

/-- A call of an owner leaves the sessions of the others as they are. -/
theorem Lawful.others_step (h : g.Lawful NoneDue) {e : RegistryEvent} {owner : ℕ}
    (he : callerOf e = some owner) : (g.step e).others owner = g.others owner := by
  cases e with
  | createSession caller guid romOffset route unit =>
    cases he
    change (g.createSession owner guid romOffset route unit).1.others owner = _
    unfold SessionRegistry.createSession
    split
    · rfl
    split
    · rfl
    split
    · rfl
    split
    · rfl
    dsimp only
    split
    · rfl
    split
    · rfl
    · refine Prod.ext ?_ rfl
      change (g.sessions ++ [_]).filter _ = _
      rw [List.filter_append, List.filter_singleton]
      simp [others]
  | startLogin caller handle isCurrent answer =>
    cases he
    change (g.startLogin owner handle isCurrent answer).1.others owner = _
    unfold SessionRegistry.startLogin
    split
    · rfl
    · rename_i r hr
      split
      · rfl
      split
      · rfl
      · obtain ⟨hmem, rfl, rfl⟩ := findByHandleForOwner_mem hr
        exact ((h.owned hmem).apart_perform _).others
  | releaseSession caller handle answer =>
    cases he
    change (g.releaseSession owner handle answer).1.others owner = _
    unfold SessionRegistry.releaseSession
    split
    · rfl
    · rename_i r hr
      obtain ⟨hmem, rfl, rfl⟩ := findByHandleForOwner_mem hr
      have hdetach := (h.owned hmem).apart_detach rfl
      dsimp only
      split
      · exact (hdetach.trans
          ((hdetach.owned _ (h.owned hmem)).apart_logoutRetired answer)).others
      · exact hdetach.others
  | releaseOwner caller answers =>
    cases he
    exact (h.apart_releaseOwner owner answers).others
  | _ => cases he

end SessionRegistry

end ASFireWire.SBP2
