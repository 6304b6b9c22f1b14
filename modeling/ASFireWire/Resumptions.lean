import Mathlib

/-! Programs that stop to ask for something and go on with the answer, as callback-style code
does: what they keep of their state, and how many questions they may still ask. -/
namespace Resumptions

variable {σ κ ρ : Type*}

/-- `ask` stops with the state so far and a question; `next` goes on from the answer and the state
found then. -/
inductive Resumption (σ κ ρ : Type*)
  | done (s : σ)
  | ask (s : σ) (question : κ) (next : ρ → σ → Resumption σ κ ρ)

/-- The program asks at most `n` more questions, whatever the answers, and leaves `P` true of the
state wherever it stops, as long as it finds it so. -/
def Within (P : σ → Prop) : ℕ → Resumption σ κ ρ → Prop
  | _, .done s => P s
  | 0, .ask _ _ _ => False
  | n + 1, .ask s _ next => P s ∧ ∀ answer s', P s' → Within P n (next answer s')

variable {P : σ → Prop}

@[simp] lemma within_done {n : ℕ} {s : σ} :
    Within P n (.done s : Resumption σ κ ρ) ↔ P s := by
  cases n <;> rfl

@[simp] lemma within_ask {n : ℕ} {s : σ} {question : κ} {next : ρ → σ → Resumption σ κ ρ} :
    Within P (n + 1) (.ask s question next) ↔
      P s ∧ ∀ answer s', P s' → Within P n (next answer s') := Iff.rfl

lemma Within.mono {n m : ℕ} (h : n ≤ m) {p : Resumption σ κ ρ} (hp : Within P n p) :
    Within P m p := by
  induction n generalizing m p with
  | zero => cases p with
    | done s => simpa using hp
    | ask s question next => exact hp.elim
  | succ n ih =>
    obtain ⟨m, rfl⟩ : ∃ k, m = k + 1 := ⟨m - 1, by omega⟩
    cases p with
    | done s => simpa using hp
    | ask s question next =>
      have hnext : ∀ answer s', P s' → Within P m (next answer s') :=
        fun answer s' hs => ih (by omega) (hp.2 answer s' hs)
      exact ⟨hp.1, hnext⟩

/-- The least bound on the questions still to come. -/
noncomputable def depth (P : σ → Prop) (p : Resumption σ κ ρ) : ℕ := sInf {n | Within P n p}

lemma depth_le {n : ℕ} {p : Resumption σ κ ρ} (h : Within P n p) : depth P p ≤ n := Nat.sInf_le h

lemma within_depth {n : ℕ} {p : Resumption σ κ ρ} (h : Within P n p) :
    Within P (depth P p) p := by
  have hbounded : {n | Within P n p}.Nonempty := ⟨n, h⟩
  exact Nat.sInf_mem hbounded

/-- Neither the state nor the question counts for the bound. -/
lemma depth_ask_congr {s s' : σ} (hs : P s) (hs' : P s') (question question' : κ)
    (next : ρ → σ → Resumption σ κ ρ) :
    depth P (.ask s question next) = depth P (.ask s' question' next) := by
  have h : ∀ n, Within P n (.ask s question next) ↔ Within P n (.ask s' question' next) := by
    intro n
    cases n with
    | zero => rfl
    | succ n => simp [hs, hs']
  simp only [depth, h]

/-- A program that asks has a question left. -/
lemma depth_ask_pos {n : ℕ} {s : σ} {question : κ} {next : ρ → σ → Resumption σ κ ρ}
    (h : Within P n (.ask s question next)) : 0 < depth P (.ask s question next) := by
  have hdepth := within_depth h
  by_contra hzero
  rw [Nat.eq_zero_of_not_pos hzero] at hdepth
  exact hdepth

/-- Every answer brings the end of a bounded program nearer. -/
theorem depth_next_lt {n : ℕ} {s : σ} {question : κ} {next : ρ → σ → Resumption σ κ ρ}
    (h : Within P n (.ask s question next)) (answer : ρ) {s' : σ} (hs : P s') :
    depth P (next answer s') < depth P (.ask s question next) := by
  have hdepth := within_depth h
  obtain ⟨m, hm⟩ : ∃ m, depth P (.ask s question next) = m + 1 :=
    ⟨depth P (.ask s question next) - 1, by have := depth_ask_pos h; omega⟩
  rw [hm] at hdepth
  have hnext : depth P (next answer s') ≤ m := depth_le (hdepth.2 answer s' hs)
  omega

/-! ### What a program leaves as it finds it -/

variable {β : Type*} {f : σ → β} {found found' : σ}

/-- Wherever the program stops, `f` of the state is as it was found at the last answer. -/
def Preserves (f : σ → β) : Resumption σ κ ρ → σ → Prop
  | .done s, found => f s = f found
  | .ask s _ next, found => f s = f found ∧ ∀ answer s', Preserves f (next answer s') s'

lemma Preserves.congr {p : Resumption σ κ ρ} (h : Preserves f p found) (heq : f found = f found') :
    Preserves f p found' := by
  cases p with
  | done s => exact Eq.trans h heq
  | ask s question next => exact ⟨h.1.trans heq, h.2⟩

lemma preserves_done (s : σ) : Preserves f (.done s : Resumption σ κ ρ) s := rfl

lemma preserves_ask {s : σ} {question : κ} {next : ρ → σ → Resumption σ κ ρ}
    (h : ∀ answer s', Preserves f (next answer s') s') :
    Preserves f (.ask s question next) s := ⟨rfl, h⟩

end Resumptions
