import SessionCart.Duration
import SessionCart.Text.Blank

/-!
Settings of session synchronisation and how an environment gives them.
-/

namespace SessionCart

structure Settings where
  /-- How long to wait for a lock; without a bound if absent. -/
  lockTimeout : Option Duration := none
  /-- A section that closes over copies neither committed nor discarded is an error. -/
  strictCommit : Bool := false
  /-- The number of slots from which the table of locks is swept. -/
  pruneThreshold : Nat := 256
  deriving DecidableEq

namespace Settings

def flagWords : List String := ["1", "true", "yes", "on"]

def readFlag (s : String) : Bool := (Text.trim s).toLower ∈ flagWords

/-- A positive number of a word, blanks around it ignored. -/
def readPositive? (s : String) : Option Nat := (Text.readWord? (Text.trim s)).filter (0 < ·)

/-- The settings of an environment; what is missing or malformed has its default. -/
def ofEnvironment (env : String → Option String) : Settings where
  lockTimeout := (env "CART_SYNC_LOCK_TIMEOUT_MS").bind readPositive? |>.map .ofMillis
  strictCommit := ((env "CART_SYNC_STRICT_COMMIT").map readFlag).getD false
  pruneThreshold := ((env "CART_SYNC_LOCK_PRUNE_THRESHOLD").bind readPositive?).getD 256

inductive Change
  | lockTimeout (limit : Option Duration)
  | strictCommit (on : Bool)
  | pruneThreshold (slots : Nat)

/-- The changed settings. A threshold is at least one. -/
def apply (s : Settings) : Change → Settings
  | .lockTimeout limit => { s with lockTimeout := limit }
  | .strictCommit on => { s with strictCommit := on }
  | .pruneThreshold n => { s with pruneThreshold := max n 1 }

/-- The settings after each of a list of changes, the first ones included. -/
def history (s : Settings) : List Change → List Settings
  | [] => [s]
  | c :: rest => s :: history (s.apply c) rest

end Settings

end SessionCart
