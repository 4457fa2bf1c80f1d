/-! # Requests -/

namespace Cohort

/-- What is known of a request while a tag of it is built: its name, and how many arguments are bound
before those of the tag. -/
structure Context where
  requestId : Option String := none
  argOffset : Nat := 0
deriving DecidableEq, Repr, Inhabited

namespace Context

/-- The context of no request. -/
def background : Context := {}

/-- The context of a request. -/
def ofRequest (id : String) : Context := { requestId := some id }

/-- The context with another number of arguments bound before. -/
def withArgOffset (c : Context) (offset : Nat) : Context := { c with argOffset := offset }

end Context

end Cohort
