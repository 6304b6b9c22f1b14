import ASFireWire.Programs

/-! Programs against an environment that answers as it can while a log is kept of their actions:
what holds at the end of every path of answers, and at the end of some path. -/
namespace Programs

variable {A : Type} {R : A → Type} {α β γ : Type}

/-- The answers that can come, and what the log notes of an action and its answer. -/
structure Environment (A : Type) (R : A → Type) (γ : Type) where
  can : (a : A) → R a → Prop
  note : γ → (a : A) → R a → γ

def Environment.protocol (E : Environment A R γ) : Protocol A R γ where
  allow _ _ := True
  follow g a r g' := E.can a r ∧ g' = E.note g a r

variable {E : Environment A R γ} {Q Q' : γ → α → Prop} {g : γ}

/-! ### Every path -/

/-- Every path from the log `g` ends in `Q`. -/
abbrev Ensures (E : Environment A R γ) (Q : γ → α → Prop) (g : γ) (p : Program A R α) : Prop :=
  Follows E.protocol Q g p

lemma ensures_act {a : A} {next : R a → Program A R α} : Ensures E Q g (.act a next) ↔
    ∀ r, E.can a r → Ensures E Q (E.note g a r) (next r) := by
  rw [Ensures, follows_act]
  constructor
  · intro h r hr
    exact h.2 r _ ⟨hr, rfl⟩
  · intro h
    refine ⟨trivial, fun r g' hg => ?_⟩
    rw [hg.2]
    exact h r hg.1

lemma ensures_pure {a : α} : Ensures E Q g (pure a : Program A R α) ↔ Q g a := Iff.rfl

lemma ensures_bind {Q : γ → β → Prop} {p : Program A R α} {f : α → Program A R β} :
    Ensures E Q g (p >>= f) ↔ Ensures E (fun g a => Ensures E Q g (f a)) g p :=
  follows_bind

@[simp] lemma ensures_perform_bind {a : A} {f : R a → Program A R α} :
    Ensures E Q g (Program.perform a >>= f) ↔
      ∀ r, E.can a r → Ensures E Q (E.note g a r) (f r) :=
  ensures_act

lemma ensures_of_forall (h : ∀ g a, Q g a) (p : Program A R α) : Ensures E Q g p := by
  induction p generalizing g with
  | done a => exact h g a
  | act a next ih =>
    rw [ensures_act]
    exact fun r _ => ih r

/-- A part of no concern: the rest must do whatever it comes with. -/
lemma ensures_bind_of_forall {Q : γ → β → Prop} {p : Program A R α} {f : α → Program A R β}
    (h : ∀ g a, Ensures E Q g (f a)) : Ensures E Q g (p >>= f) :=
  ensures_bind.mpr (ensures_of_forall h p)

/-- What every note keeps may be assumed at the end. -/
lemma Ensures.assuming {I : γ → Prop} (hI : ∀ g a r, E.can a r → I g → I (E.note g a r))
    {p : Program A R α} (h : Ensures E (fun g a => I g → Q g a) g p) (hg : I g) :
    Ensures E Q g p := by
  induction p generalizing g with
  | done a => exact h hg
  | act a next ih =>
    rw [ensures_act] at h ⊢
    intro r hr
    exact ih r (h r hr) (hI g a r hr hg)

/-! ### Some path -/

/-- Some path from the log `g` ends in `Q`. -/
def Reaches (E : Environment A R γ) (Q : γ → α → Prop) : γ → Program A R α → Prop
  | g, .done a => Q g a
  | g, .act a next => ∃ r, E.can a r ∧ Reaches E Q (E.note g a r) (next r)

@[simp] lemma reaches_done {a : α} : Reaches E Q g (.done a) ↔ Q g a := Iff.rfl

@[simp] lemma reaches_pure {a : α} : Reaches E Q g (pure a : Program A R α) ↔ Q g a := Iff.rfl

@[simp] lemma reaches_perform_bind {a : A} {f : R a → Program A R α} :
    Reaches E Q g (Program.perform a >>= f) ↔
      ∃ r, E.can a r ∧ Reaches E Q (E.note g a r) (f r) := Iff.rfl

/-- A path goes on with one answer that can come. -/
lemma reaches_answer {a : A} {f : R a → Program A R α} (r : R a) (hr : E.can a r)
    (h : Reaches E Q (E.note g a r) (f r)) : Reaches E Q g (Program.perform a >>= f) :=
  ⟨r, hr, h⟩

@[simp] lemma reaches_bind {Q : γ → β → Prop} {p : Program A R α} {f : α → Program A R β} :
    Reaches E Q g (p >>= f) ↔ Reaches E (fun g a => Reaches E Q g (f a)) g p := by
  induction p generalizing g with
  | done a => exact Iff.rfl
  | act a next ih =>
    rw [Program.bind_act]
    exact exists_congr fun r => and_congr_right fun _ => ih r

/-- What holds at the end of every path holds at the end of the one reached. -/
lemma Reaches.ensured {p : Program A R α} (h : Reaches E Q' g p) (hp : Ensures E Q g p) :
    ∃ g a, Q g a ∧ Q' g a := by
  induction p generalizing g with
  | done a => exact ⟨g, a, hp, h⟩
  | act a next ih =>
    obtain ⟨r, hr, hnext⟩ := h
    exact ih r hnext (ensures_act.mp hp r hr)

end Programs
