import Mathlib

/-! Programs made of atomic actions on a state they share with others: what a program may do from a
ghost state that follows its actions, what it must do before something else, and threads that run
such programs interleaved action by action. -/
namespace Programs

/-- `act` performs an action and goes on with its answer. -/
inductive Program (A : Type) (R : A → Type) (α : Type)
  | done (a : α)
  | act (a : A) (next : R a → Program A R α)

variable {A : Type} {R : A → Type} {α β γ : Type}

namespace Program

def bind : Program A R α → (α → Program A R β) → Program A R β
  | .done a, f => f a
  | .act a next, f => .act a fun r => (next r).bind f

instance : Monad (Program A R) where
  pure := .done
  bind := bind

def perform (a : A) : Program A R (R a) := .act a .done

lemma pure_eq (a : α) : (pure a : Program A R α) = .done a := rfl

lemma bind_done (a : α) (f : α → Program A R β) : (Program.done a >>= f) = f a := rfl

lemma bind_act (a : A) (next : R a → Program A R α) (f : α → Program A R β) :
    (Program.act a next >>= f) = .act a fun r => next r >>= f := rfl

end Program

/-! ### What a program may do -/

/-- The actions allowed in each ghost state, and how the ghost state follows an action and its
answer. Answers the relation excludes do not come. -/
structure Protocol (A : Type) (R : A → Type) (γ : Type) where
  allow : γ → A → Prop
  follow : γ → (a : A) → R a → γ → Prop

variable {P : Protocol A R γ} {Q Q' : γ → α → Prop} {g : γ}

/-- From the ghost state `g` every action of the program is allowed, and it ends in `Q`. -/
def Follows (P : Protocol A R γ) (Q : γ → α → Prop) : γ → Program A R α → Prop
  | g, .done a => Q g a
  | g, .act a next => P.allow g a ∧ ∀ r g', P.follow g a r g' → Follows P Q g' (next r)

@[simp] lemma follows_done {a : α} : Follows P Q g (.done a) ↔ Q g a := Iff.rfl

@[simp] lemma follows_pure {a : α} : Follows P Q g (pure a : Program A R α) ↔ Q g a := Iff.rfl

lemma follows_act {a : A} {next : R a → Program A R α} : Follows P Q g (.act a next) ↔
    P.allow g a ∧ ∀ r g', P.follow g a r g' → Follows P Q g' (next r) := Iff.rfl

lemma follows_perform_bind {a : A} {f : R a → Program A R α} :
    Follows P Q g (Program.perform a >>= f) ↔
      P.allow g a ∧ ∀ r g', P.follow g a r g' → Follows P Q g' (f r) := Iff.rfl

lemma Follows.mono (hQ : ∀ g a, Q g a → Q' g a) {p : Program A R α} (h : Follows P Q g p) :
    Follows P Q' g p := by
  induction p generalizing g with
  | done a => exact hQ g a h
  | act a next ih => exact ⟨h.1, fun r g' hg => ih r (h.2 r g' hg)⟩

@[simp] lemma follows_bind {Q : γ → β → Prop} {p : Program A R α} {f : α → Program A R β} :
    Follows P Q g (p >>= f) ↔ Follows P (fun g a => Follows P Q g (f a)) g p := by
  induction p generalizing g with
  | done a => exact Iff.rfl
  | act a next ih =>
    rw [Program.bind_act, follows_act, follows_act]
    apply and_congr_right
    intro _
    exact forall_congr' fun r => forall_congr' fun g' => imp_congr_right fun _ => ih r

lemma Follows.bind {Q : γ → β → Prop} {S : γ → α → Prop} {p : Program A R α}
    {f : α → Program A R β} (h : Follows P S g p) (hf : ∀ g a, S g a → Follows P Q g (f a)) :
    Follows P Q g (p >>= f) :=
  follows_bind.mpr (h.mono hf)

@[simp] lemma follows_ite {c : Prop} [Decidable c] {p q : Program A R α} :
    Follows P Q g (if c then p else q) ↔ (c → Follows P Q g p) ∧ (¬ c → Follows P Q g q) := by
  by_cases hc : c <;> simp [hc]

/-! ### Programs of some actions only -/

/-- Every action of the program is one of these. -/
def Always (ok : A → Prop) : Program A R α → Prop
  | .done _ => True
  | .act a next => ok a ∧ ∀ r, Always ok (next r)

variable {ok : A → Prop}

@[simp] lemma always_done {a : α} : Always ok (.done a : Program A R α) ↔ True := Iff.rfl

@[simp] lemma always_pure {a : α} : Always ok (pure a : Program A R α) ↔ True := Iff.rfl

@[simp] lemma always_perform {a : A} :
    Always ok (Program.perform a : Program A R (R a)) ↔ ok a :=
  and_iff_left fun _ => trivial

@[simp] lemma always_perform_bind {a : A} {f : R a → Program A R α} :
    Always ok (Program.perform a >>= f) ↔ ok a ∧ ∀ r, Always ok (f r) := Iff.rfl

@[simp] lemma always_ite {c : Prop} [Decidable c] {p q : Program A R α} :
    Always ok (if c then p else q) ↔ (c → Always ok p) ∧ (¬ c → Always ok q) := by
  by_cases hc : c <;> simp [hc]

lemma Always.bind {p : Program A R α} {f : α → Program A R β} (h : Always ok p)
    (hf : ∀ a, Always ok (f a)) : Always ok (p >>= f) := by
  induction p with
  | done a => exact hf a
  | act a next ih => exact ⟨h.1, fun r => ih r (h.2 r)⟩

/-- Actions that are allowed and leave the ghost state as it is can be skipped. -/
lemma Always.follows (h : ∀ a, ok a → P.allow g a ∧ ∀ r g', P.follow g a r g' → g' = g)
    {p : Program A R α} (hp : Always ok p) (hQ : ∀ a, Q g a) : Follows P Q g p := by
  induction p with
  | done a => exact hQ a
  | act a next ih =>
    obtain ⟨hallow, hkeep⟩ := h a hp.1
    refine ⟨hallow, fun r g' hg => ?_⟩
    rw [hkeep r g' hg]
    exact ih r (hp.2 r)

/-! ### What a program must do first -/

/-- On every path of answers that can come, an action in `wanted` comes before any in `before`, and
before the program ends unless it ends in `ended`. -/
def First (can : (a : A) → R a → Prop) (wanted before : A → Bool) (ended : α → Prop) :
    Program A R α → Prop
  | .done a => ended a
  | .act a next =>
    wanted a = true ∨ before a = false ∧ ∀ r, can a r → First can wanted before ended (next r)

variable {can : (a : A) → R a → Prop} {wanted before : A → Bool} {ended : α → Prop}

@[simp] lemma first_done {a : α} :
    First can wanted before ended (.done a : Program A R α) ↔ ended a := Iff.rfl

@[simp] lemma first_pure {a : α} :
    First can wanted before ended (pure a : Program A R α) ↔ ended a := Iff.rfl

lemma first_act {a : A} {next : R a → Program A R α} :
    First can wanted before ended (.act a next) ↔ wanted a = true ∨
      before a = false ∧ ∀ r, can a r → First can wanted before ended (next r) := Iff.rfl

lemma first_perform_bind {a : A} {f : R a → Program A R α} :
    First can wanted before ended (Program.perform a >>= f) ↔ wanted a = true ∨
      before a = false ∧ ∀ r, can a r → First can wanted before ended (f r) := Iff.rfl

@[simp] lemma first_bind {ended : β → Prop} {p : Program A R α} {f : α → Program A R β} :
    First can wanted before ended (p >>= f) ↔
      First can wanted before (fun a => First can wanted before ended (f a)) p := by
  induction p with
  | done a => exact Iff.rfl
  | act a next ih =>
    rw [Program.bind_act, first_act, first_act]
    apply or_congr_right
    apply and_congr_right
    intro _
    exact forall_congr' fun r => imp_congr_right fun _ => ih r

@[simp] lemma first_ite {c : Prop} [Decidable c] {p q : Program A R α} :
    First can wanted before ended (if c then p else q) ↔
      (c → First can wanted before ended p) ∧ (¬ c → First can wanted before ended q) := by
  by_cases hc : c <;> simp [hc]

lemma First.after {a : A} {next : R a → Program A R α} {r : R a}
    (h : First can wanted before ended (.act a next)) (ha : wanted a = false) (hr : can a r) :
    First can wanted before ended (next r) := by
  rcases first_act.mp h with hwanted | ⟨-, hnext⟩
  · rw [ha] at hwanted
    cases hwanted
  · exact hnext r hr

/-- A part without any action in `before` delays nothing. -/
lemma Always.first (h : ∀ a, ok a → before a = false) {p : Program A R α} (hp : Always ok p)
    (hended : ∀ a, ended a) : First can wanted before ended p := by
  induction p with
  | done a => exact hended a
  | act a next ih => exact .inr ⟨h a hp.1, fun r _ => ih r (hp.2 r)⟩

end Programs
