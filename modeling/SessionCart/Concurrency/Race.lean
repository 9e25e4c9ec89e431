import SessionCart.Cart.Desk
import SessionCart.Concurrency.Machine

/-!
Races: threads that work on the sessions of one store at once. What is asked about a race is the
same for every schedule; one fixed schedule mixes the threads' actions.
-/

namespace SessionCart.Race

/-- A mixed schedule of some threads: each next one is drawn by a multiplicative generator. -/
def schedule (threads : Nat) : (length : Nat) → (seed : Nat) → List ThreadId
  | 0, _ => []
  | length + 1, seed =>
    let next := (seed * 48271 + 11) % 2147483647
    next / 7 % threads :: schedule threads length next

def counter : Attribute .json where
  label := "n"
  name := "n"
  store := .main
  table := .shared
  settings := {}
  make := fun _ _ => .ok (.int 0)

def successor : Json → Json
  | .num n 0 => .int (n + 1)
  | j => j

def arena : SessionId := ⟨"S"⟩

def ownSession (thread : ThreadId) : SessionId := ⟨"S" ++ Text.decimalText thread⟩

def times {α : Type} (routine : Routine α) : Nat → Routine (List α)
  | 0 => return []
  | n + 1 => do
    let a ← routine
    return a :: (← times routine n)

/-- A request that looks at the counter and then adds one to it. -/
def bump (session : SessionId) : Routine Unit := do
  let r ← Routine.accept (.new session)
  let _ ← counter.current r false
  Section.within counter r fun s => do
    let n ← s.copy
    let _ ← s.commit (successor n)
    s.close

/-- A request that wants the counter, made if it is missing. -/
def visit : Routine (Option Json) := do
  let r ← Routine.accept (.new arena)
  counter.current r true

/-- Notes a stay in a place where only one thread may be, and says whether another one was there. -/
def stay : Routine Bool := do
  let before ← Routine.getStored .alt arena "inside"
  Routine.setStored .alt arena "inside" (.json .null)
  let _ ← Routine.removeStored .alt arena "inside"
  return before.isSome

/-- A stay under the lock: even threads take it by an update section, odd ones alone. -/
def exclusive (thread : ThreadId) : Routine Bool := do
  let r ← Routine.accept (.new arena)
  if thread % 2 = 0 then
    Section.within counter r fun _ => stay
  else
    let hold ← counter.hold r
    Routine.ensuring hold.drop stay

def run {ρ : Type} (w : World) (perThread : Nat) (routines : List (Routine ρ)) : Machine ρ :=
  let threads := routines.length
  ((Machine.start w routines).follow
    (schedule threads (threads * (perThread + threads) * 30) 20240229)).settle

def dawn : World := World.new ({} : Settings).pruneThreshold

def counted (w : World) (session : SessionId) : Option Json :=
  (w.main.store.get? session counter.name).bind (·.as? .json)

def made (w : World) (label : String) : Nat := (w.made.get? label).getD 0

/-- The counter after every thread bumped it some times, and the values made. -/
def increment (threads perThread : Nat) (start : Option Int) : Option Json × Nat :=
  let w := match start with
    | some n => { dawn with
        main := { dawn.main with
          store := dawn.main.store.set arena counter.name (.json (.int n)) } }
    | none => dawn
  let m := run w perThread ((List.range threads).map fun _ => times (bump arena) perThread)
  (counted m.world arena, made m.world counter.label)

/-- What became of the sessions of a race in which no two threads share one. -/
structure Separate where
  final : List (Option Json)
  creations : Nat
  sessions : Nat

/-- The counters after each thread bumped its own, each thread once more than the one before it. -/
def separate (threads perThread : Nat) : Separate :=
  let m := run dawn (perThread + threads) ((List.range threads).map fun i =>
    times (bump (ownSession i)) (perThread + i))
  { final := (List.range threads).map fun i => counted m.world (ownSession i)
    creations := made m.world counter.label
    sessions := m.world.main.store.sessionCount }

structure Genesis where
  distinct : Nat
  creations : Nat
  final : Option Json

def distinctNumbers (values : List (Option Json)) : Nat :=
  (values.filterMap fun v => match v with
    | some (.num n 0) => some n
    | _ => none).eraseDups.length

def genesis (threads : Nat) : Genesis :=
  let m := run dawn 1 ((List.range threads).map fun _ => visit)
  { distinct := distinctNumbers (m.results.map fun r => r.toOption.join)
    creations := made m.world counter.label
    final := counted m.world arena }

structure Exclusion where
  overlaps : Nat
  final : Option Json
  locked : Bool
  live : Nat

def exclusion (threads perThread : Nat) : Exclusion :=
  let m := run dawn perThread ((List.range threads).map fun i => times (exclusive i) perThread)
  { overlaps := ((m.results.flatMap fun r => (r.toOption).getD []).filter id).length
    final := counted m.world arena
    locked := m.world.shared.isLocked arena
    live := m.world.shared.liveCount }

structure Additions where
  lines : List (String × Decimal)
  itemCount : Except Failure Decimal
  total : Except Failure Decimal
  errors : Nat

/-- The cart that one more request is given after a race. -/
def cartAfter (desk : Desk) (w : World) : Option Cart :=
  match (Routine.accept (.new arena) >>= desk.currentCart).run true 0 w {} with
  | .finished (.ok c) _ _ => some c
  | _ => none

/-- A sum over a cart; without a cart it is zero. -/
def figure (sum : Cart → Except Decimal.Overflow Decimal) (c : Option Cart) :
    Except Failure Decimal :=
  match c with
  | some c => (sum c).mapError Failure.overflow
  | none => .ok .zero

def additions (carts : CartSettings) (pricing : Pricing) (products : List String)
    (threads perThread : Nat) : Additions :=
  let desk := Desk.new {} carts pricing .main .shared .tick
  let add (product : String) : Routine (Except Failure CartSummary) := Routine.attempt do
    let r ← Routine.accept (.new arena)
    desk.addItem r product .one
  let m := run dawn perThread ((List.range threads).map fun i =>
    times (add (products[i % products.length]?.getD "")) perThread)
  let cart := cartAfter desk m.world
  let lines := (cart.map fun c => c.lines.map fun l => (l.product, l.quantity)).getD []
  { lines := lines.mergeSort fun a b => !decide (b.1 < a.1)
    itemCount := figure Cart.itemCount cart
    total := figure Cart.total cart
    errors := (m.results.flatMap fun r => (r.toOption).getD []).countP fun r => !r.toBool }

/-- Every thread enters a promo code: how many found it new, and the cart. -/
def promotions (carts : CartSettings) (pricing : Pricing) (code : String) (threads : Nat) :
    Nat × Option Cart :=
  let desk := Desk.new {} carts pricing .main .shared .tick
  let enter : Routine (Except Failure Bool) := Routine.attempt do
    let r ← Routine.accept (.new arena)
    desk.enterPromoCode r code
  let m := run dawn 1 ((List.range threads).map fun _ => enter)
  (m.results.countP fun r => r.toOption.bind (·.toOption) = some true,
    cartAfter desk m.world)

end SessionCart.Race
