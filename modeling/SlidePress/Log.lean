/-!
# `SlidePress.Log` — what a run has to say

Every stage reports what it did as records, which are values like any other result; what is shown of them is
decided by the caller.
-/

namespace SlidePress

/-- How much a record matters. -/
inductive Severity
  | debug
  | info
  | warning
  | error
deriving DecidableEq, Repr

/-- The rank of a severity; a record is shown where its rank is at least the one asked for. -/
def Severity.rank : Severity → Int
  | .debug => 10
  | .info => 20
  | .warning => 30
  | .error => 40

/-- The name that a severity is shown by. -/
def Severity.name : Severity → String
  | .debug => "DEBUG"
  | .info => "INFO"
  | .warning => "WARNING"
  | .error => "ERROR"

/-- One thing that a stage reports. -/
structure LogRecord where
  severity : Severity
  text : String
deriving DecidableEq, Repr

/-- The records of a run, oldest first. -/
abbrev Journal := List LogRecord

/-- The records of at least the given rank. -/
def Journal.atLeast (rank : Int) (journal : Journal) : Journal :=
  journal.filter fun record => decide (rank ≤ record.severity.rank)

end SlidePress
