/-!
# Statuses

What the authority says about a pending operation.

Main results:

* `name_ofName`: a status is called as the authority calls it.
-/

namespace ApprovalWatch

/-- A status (`PollStatus`). -/
inductive Status where
  | pending
  | approved
  | registered
  | rejected
  | expired
  | notFound
  | other (name : String)
  deriving DecidableEq, Repr

namespace Status

/-- The status of a name (`PollStatus.from`). -/
def ofName (name : String) : Status :=
  if name = "PENDING" then pending
  else if name = "APPROVED" then approved
  else if name = "REGISTERED" then registered
  else if name = "REJECTED" then rejected
  else if name = "EXPIRED" then expired
  else if name = "NOT_FOUND" then notFound
  else other name

/-- The name of a status (`PollStatus.as_str`). -/
def name : Status → String
  | pending => "PENDING"
  | approved => "APPROVED"
  | registered => "REGISTERED"
  | rejected => "REJECTED"
  | expired => "EXPIRED"
  | notFound => "NOT_FOUND"
  | other name => name

@[simp] theorem name_ofName (s : String) : (ofName s).name = s := by
  unfold ofName
  repeat' split
  all_goals simp_all [name]

end Status

end ApprovalWatch
