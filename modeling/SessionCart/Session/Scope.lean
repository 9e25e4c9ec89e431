/-!
The two places a session value may live in, and which of them an operation touches.
-/

namespace SessionCart

/-- The places that a write touches: session storage, the cache of the request, both or none. -/
structure Scope where
  session : Bool
  request : Bool
  deriving DecidableEq

namespace Scope

def none : Scope := ⟨false, false⟩

def sessionOnly : Scope := ⟨true, false⟩

def requestOnly : Scope := ⟨false, true⟩

def all : Scope := ⟨true, true⟩

instance : Inhabited Scope := ⟨all⟩

def union (a b : Scope) : Scope := ⟨a.session || b.session, a.request || b.request⟩

instance : Union Scope := ⟨union⟩

def isEmpty (s : Scope) : Bool := !s.session && !s.request

def text (s : Scope) : String :=
  match s.session, s.request with
  | true, true => "session+request"
  | true, false => "session"
  | false, true => "request"
  | false, false => "none"

def ofName? : String → Option Scope
  | "none" => some none
  | "session" => some sessionOnly
  | "request" => some requestOnly
  | "all" => some all
  | _ => Option.none

/-- What a scope has become after each of a list of scopes was added to it. -/
def unions (start : Scope) : List Scope → List Scope
  | [] => []
  | s :: rest => (start ∪ s) :: unions (start ∪ s) rest

end Scope

/-- Which place a read looks at first; the other one is its fallback. -/
inductive ReadPolicy
  | requestFirst
  | sessionFirst
  deriving DecidableEq

end SessionCart
