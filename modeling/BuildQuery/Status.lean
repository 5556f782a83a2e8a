import BuildQuery.Text.Name

/-!
# Build statuses

The stages of a build's life. A status has a display name, which queries and stores use, and a key,
which build records use.
-/

namespace BuildQuery

/-- The status of a build. -/
inductive Status where
  | waiting
  | pending
  | running
  | successful
  | failed
  | cancelled
  | timedOut
  deriving DecidableEq, Repr

namespace Status

/-- Every status, in order. -/
def all : List Status := [waiting, pending, running, successful, failed, cancelled, timedOut]

/-- The name shown to people. -/
def name : Status → String
  | waiting => "Waiting"
  | pending => "Pending"
  | running => "Running"
  | successful => "Successful"
  | failed => "Failed"
  | cancelled => "Cancelled"
  | timedOut => "Timed out"

/-- The key in a build record. -/
def key : Status → String
  | waiting => "waiting"
  | pending => "pending"
  | running => "running"
  | successful => "successful"
  | failed => "failed"
  | cancelled => "cancelled"
  | timedOut => "timed_out"

/-- The status that a display name stands for, up to outer blanks and ASCII case. -/
def ofName? (written : String) : Option Status :=
  all.find? fun s => Text.namesText written s.name

/-- The status with exactly this key. -/
def ofKey? (key : String) : Option Status := all.find? fun s => s.key == key

@[simp] theorem ofName?_name (s : Status) : ofName? s.name = some s := by
  cases s <;> decide

@[simp] theorem ofKey?_key (s : Status) : ofKey? s.key = some s := by
  cases s <;> decide

end Status

end BuildQuery
