/-!
# Latches

A place for one value: the first that is offered stays, and every later one is turned away.

Main results:

* `get?_settle_of_none`: the first value that is offered is held.
-/

namespace ApprovalWatch

/-- A place for one value (`Settlement`). -/
structure Latch (α : Type) where
  value : Option α := none
  deriving DecidableEq, Repr

namespace Latch

variable {α : Type}

/-- The value that is there (`Settlement.get`). -/
def get? (l : Latch α) : Option α :=
  l.value

/-- Offers a value, and tells whether it won (`Settlement.settle`). -/
def settle (l : Latch α) (a : α) : Latch α × Bool :=
  match l.value with
  | some _ => (l, false)
  | none => (⟨some a⟩, true)

theorem get?_settle_of_none {l : Latch α} (h : l.get? = none) (a : α) :
    (l.settle a).1.get? = some a := by
  simp_all [get?, settle]

end Latch

end ApprovalWatch
