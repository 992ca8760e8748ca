import Mathlib.Algebra.BigOperators.Group.List.Basic
import Mathlib.Algebra.Ring.Nat

namespace Lib

/-- What is charged to each account: one entry for each item, with its size. -/
abbrev Ledger (κ : Type) : Type := List (κ × Nat)

namespace Ledger

variable {κ : Type} [DecidableEq κ]

def entries (account : κ) (ledger : Ledger κ) : Ledger κ := ledger.filter fun entry => entry.1 = account

def count (account : κ) (ledger : Ledger κ) : Nat := (ledger.entries account).length

def total (account : κ) (ledger : Ledger κ) : Nat := ((ledger.entries account).map Prod.snd).sum

variable {ledger ledger' : Ledger κ} {account account' : κ} {size limit : Nat}

theorem count_perm (perm : ledger.Perm ledger') : count account ledger = count account ledger' :=
  (perm.filter _).length_eq

theorem total_perm (perm : ledger.Perm ledger') : total account ledger = total account ledger' :=
  ((perm.filter _).map _).sum_eq

theorem count_cons : count account ((account', size) :: ledger) =
    if account' = account then count account ledger + 1 else count account ledger := by
  by_cases same : account' = account <;> simp [count, entries, same]

theorem total_cons : total account ((account', size) :: ledger) =
    if account' = account then total account ledger + size else total account ledger := by
  by_cases same : account' = account <;> simp [total, entries, same, Nat.add_comm]

structure Within (items size : Nat) (ledger : Ledger κ) : Prop where
  count : ∀ account, ledger.count account ≤ items
  total : ∀ account, ledger.total account ≤ size

theorem Within.empty {items size : Nat} : Within items size ([] : Ledger κ) := by
  constructor <;> simp [Ledger.count, Ledger.total, entries]

theorem Within.perm {items size : Nat} (within : ledger.Within items size) (perm : ledger.Perm ledger') :
    ledger'.Within items size := by
  constructor
  · intro account
    rw [← count_perm perm]
    exact within.count account
  · intro account
    rw [← total_perm perm]
    exact within.total account

theorem Within.charge {items limit : Nat} (within : ledger.Within items limit)
    (few : ledger.count account < items) (small : ledger.total account + size ≤ limit) :
    Within items limit ((account, size) :: ledger) := by
  constructor
  · intro account'
    have bound := within.count account'
    rw [count_cons]
    split
    · rename_i same
      subst same
      omega
    · exact bound
  · intro account'
    have bound := within.total account'
    rw [total_cons]
    split
    · rename_i same
      subst same
      omega
    · exact bound

end Ledger

end Lib
