/-!
Shared data that outlives a holder who gave up in the middle of a change. Such a holder leaves a
mark, which stays; later holders get the data as it is, and each of them is counted as a recovery.
-/

namespace SessionCart

structure Guarded (α : Type) where
  data : α
  /-- A holder gave up while it could change the data. -/
  poisoned : Bool := false
  /-- How many later holders got the data all the same. -/
  recoveries : Nat := 0

namespace Guarded

variable {α : Type}

inductive Use (α : Type)
  | read
  | change (f : α → α)
  | failedChange (f : α → α)
  | failedRead

def Use.givesUp : Use α → Bool
  | read | change _ => false
  | failedChange _ | failedRead => true

def Use.apply : Use α → α → α
  | read, a | failedRead, a => a
  | change f, a | failedChange f, a => f a

def Use.poisons : Use α → Bool
  | failedChange _ => true
  | _ => false

def hold (g : Guarded α) (u : Use α) : Guarded α where
  data := u.apply g.data
  poisoned := g.poisoned || u.poisons
  recoveries := g.recoveries + if g.poisoned then 1 else 0

def history (g : Guarded α) : List (Use α) → List (Guarded α)
  | [] => []
  | u :: rest => g.hold u :: history (g.hold u) rest

end Guarded

end SessionCart
