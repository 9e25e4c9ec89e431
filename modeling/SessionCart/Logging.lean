import SessionCart.Text.Blank

/-!
Log filters, and the one subscriber that a process can have.
-/

namespace SessionCart.Logging

/-- The targets that follow the chosen level. -/
def targets : List String := ["cart_sync_common", "cart_sync_core", "cart_sync_cart"]

/-- The filter that gives our targets a level and everything else warnings. -/
def directives (level : String) : String :=
  ",".intercalate (targets.map (fun t => t ++ "=" ++ level) ++ ["warn"])

structure Guard where
  active : Bool
  writesToFile : Bool
  deriving DecidableEq

/-- Installs a subscriber unless there is one. It writes to the named file if the name is not blank
and the file can be opened. -/
def install (installed : Bool) (opens : String → Bool) (log : Option String) : Guard :=
  if installed then ⟨false, false⟩
  else ⟨true, (log.filter fun name => (Text.trimmed? name).isSome).any opens⟩

end SessionCart.Logging
