import Mathlib.Algebra.Group.Pi.Lemmas
import Mathlib.Algebra.Group.Prod
import Mathlib.Algebra.Group.Int.Defs
import Mathlib.Tactic.Common

/-!
# Ledgers

What accounts hold of each denomination, and how much there is of it. Two ledgers are compared by
the `Change` between them. Changes form a group: an operation undoes another when its change is the
opposite one, on whatever ledgers the two are run.

A funded operation on a ledger makes the change of its name (`change_move`, `change_mint`,
`change_burn`).
-/

/-- What every account holds, and the total of each denomination. -/
structure Ledger (α δ : Type) where
  balance : α → δ → ℕ
  supply : δ → ℕ

namespace Ledger

variable {α δ : Type}

/-- By how much balances and totals differ. -/
abbrev Change (α δ : Type) := (α → δ → ℤ) × (δ → ℤ)

/-- The change from one ledger to another. -/
def change (l l' : Ledger α δ) : Change α δ :=
  (fun x d => l'.balance x d - l.balance x d, fun d => l'.supply d - l.supply d)

theorem balance_of_change {l l' : Ledger α δ} {c : Change α δ} (h : l.change l' = c) (x : α)
    (d : δ) : (l'.balance x d : ℤ) = l.balance x d + c.1 x d := by
  rw [← h, change, add_sub_cancel]

theorem supply_of_change {l l' : Ledger α δ} {c : Change α δ} (h : l.change l' = c) (d : δ) :
    (l'.supply d : ℤ) = l.supply d + c.2 d := by
  rw [← h, change, add_sub_cancel]

theorem change_trans (l l' l'' : Ledger α δ) : l.change l'' = l.change l' + l'.change l'' := by
  ext <;> simp [change]

variable [DecidableEq δ]

/-- The ledger with `f` applied to one total. -/
def onSupply (l : Ledger α δ) (d : δ) (f : ℕ → ℕ) : Ledger α δ :=
  { l with supply := Function.update l.supply d (f (l.supply d)) }

/-- An amount of one denomination. -/
def total (d : δ) (n : ℤ) : δ → ℤ := fun e => if e = d then n else 0

theorem total_neg (d : δ) (n : ℤ) : total d (-n) = -total d n := by
  funext e
  by_cases he : e = d <;> simp [total, he]

theorem change_onSupply {l : Ledger α δ} {d : δ} {f : ℕ → ℕ} {n : ℤ}
    (h : (f (l.supply d) : ℤ) = l.supply d + n) :
    l.change (l.onSupply d f) = (fun _ _ => 0, total d n) := by
  refine Prod.ext ?_ ?_
  · funext x e
    simp [change, onSupply]
  · funext e
    simp only [change, onSupply, total]
    by_cases he : e = d
    · subst he
      simp [h]
    · simp [he]

variable [DecidableEq α]

/-! ### Changes -/

/-- An amount of one denomination for one account. -/
def credit (x : α) (d : δ) (n : ℤ) : α → δ → ℤ := fun y e => if y = x ∧ e = d then n else 0

/-- An amount moves from `x` to `y`. -/
def moved (x y : α) (d : δ) (n : ℕ) : Change α δ := (credit y d n - credit x d n, fun _ => 0)

/-- An amount is made for `x`. -/
def minted (x : α) (d : δ) (n : ℕ) : Change α δ := (credit x d n, total d n)

/-- Moving an amount back is the opposite of moving it. -/
theorem neg_moved (x y : α) (d : δ) (n : ℕ) : -moved x y d n = moved y x d n := by
  refine Prod.ext (neg_sub _ _) ?_
  funext e
  exact neg_zero

theorem credit_neg (x : α) (d : δ) (n : ℤ) : credit x d (-n) = -credit x d n := by
  funext y e
  by_cases hx : y = x ∧ e = d <;> simp [credit, hx]

/-! ### Operations -/

/-- The ledger with `f` applied to one balance. -/
def onBalance (l : Ledger α δ) (x : α) (d : δ) (f : ℕ → ℕ) : Ledger α δ :=
  { l with balance := fun y e => if y = x ∧ e = d then f (l.balance y e) else l.balance y e }

def move (l : Ledger α δ) (x y : α) (d : δ) (n : ℕ) : Ledger α δ :=
  (l.onBalance x d (· - n)).onBalance y d (· + n)

def mint (l : Ledger α δ) (x : α) (d : δ) (n : ℕ) : Ledger α δ :=
  (l.onBalance x d (· + n)).onSupply d (· + n)

def burn (l : Ledger α δ) (x : α) (d : δ) (n : ℕ) : Ledger α δ :=
  (l.onBalance x d (· - n)).onSupply d (· - n)

theorem change_onBalance {l : Ledger α δ} {x : α} {d : δ} {f : ℕ → ℕ} {n : ℤ}
    (h : (f (l.balance x d) : ℤ) = l.balance x d + n) :
    l.change (l.onBalance x d f) = (credit x d n, fun _ => 0) := by
  refine Prod.ext ?_ ?_
  · funext y e
    simp only [change, onBalance, credit]
    by_cases hx : y = x ∧ e = d
    · obtain ⟨rfl, rfl⟩ := hx
      simp [h]
    · simp [hx]
  · funext e
    simp [change, onBalance]

variable {l : Ledger α δ} {x y : α} {d : δ} {n : ℕ}

theorem change_move (h : n ≤ l.balance x d) : l.change (l.move x y d n) = moved x y d n := by
  have htake : l.change (l.onBalance x d (· - n)) = (credit x d (-n), fun _ => 0) :=
    change_onBalance (by omega)
  have hgive : (l.onBalance x d (· - n)).change (l.move x y d n) = (credit y d n, fun _ => 0) :=
    change_onBalance (by omega)
  rw [change_trans l _ (l.move x y d n), htake, hgive, credit_neg, Prod.mk_add_mk, neg_add_eq_sub,
    moved]
  rfl

theorem change_mint : l.change (l.mint x d n) = minted x d n := by
  have hgive : l.change (l.onBalance x d (· + n)) = (credit x d n, fun _ => 0) :=
    change_onBalance (by omega)
  have hsupply : (l.onBalance x d (· + n)).change (l.mint x d n) = (fun _ _ => 0, total d n) :=
    change_onSupply (by omega)
  rw [change_trans l _ (l.mint x d n), hgive, hsupply, Prod.mk_add_mk, minted]
  exact Prod.ext (add_zero _) (zero_add _)

theorem change_burn (h : n ≤ l.balance x d) (hs : n ≤ l.supply d) :
    l.change (l.burn x d n) = -minted x d n := by
  have htake : l.change (l.onBalance x d (· - n)) = (credit x d (-n), fun _ => 0) :=
    change_onBalance (by omega)
  have hsupply : (l.onBalance x d (· - n)).change (l.burn x d n) =
      (fun _ _ => 0, total d (-n)) := by
    refine change_onSupply ?_
    have hkeep : (l.onBalance x d (· - n)).supply d = l.supply d := rfl
    omega
  rw [change_trans l _ (l.burn x d n), htake, hsupply, credit_neg, total_neg, Prod.mk_add_mk,
    minted]
  exact Prod.ext (add_zero _) (zero_add _)

end Ledger
