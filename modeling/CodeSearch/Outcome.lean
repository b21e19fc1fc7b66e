import CodeSearch.Json.Printer

/-!
# Outcomes of queries

An `Outcome` is what a query found together with how completely it could look.  An empty value alone
does not tell "no match" from "nothing could be scanned"; the status does.
-/

namespace CodeSearch

/-- How completely a scan ran. -/
inductive ScanStatus where
  /-- Every candidate was examined. -/
  | complete
  /-- Some candidates could not be examined and were skipped. -/
  | incomplete (skipped : Nat)
  /-- The scan could not run at all. -/
  | failed
  deriving DecidableEq, Repr

namespace ScanStatus

/-- The number of candidates that were skipped. -/
def skipped : ScanStatus → Nat
  | incomplete skipped => skipped
  | _ => 0

/-- The status after some candidates were skipped. -/
def ofSkipped (skipped : Nat) : ScanStatus := if skipped = 0 then complete else incomplete skipped

/-- The status of a scan after a scan within it; a failed one counts as one skipped candidate. -/
def absorb : ScanStatus → ScanStatus → ScanStatus
  | failed, _ => failed
  | status, complete => status
  | status, other => incomplete (status.skipped + max other.skipped 1)

/-- The status as a JSON value. -/
def toJson : ScanStatus → Json
  | complete => .object [("state", .string "complete")]
  | incomplete skipped => .object [("state", .string "partial"), ("skipped", .nat skipped)]
  | failed => .object [("state", .string "failed")]

end ScanStatus

/-- The paths that a query found and the status of its scan. -/
structure Outcome where
  /-- The paths, in the order in which they were found. -/
  value : List String
  /-- How completely the scan ran. -/
  status : ScanStatus
  deriving DecidableEq, Repr

namespace Outcome

/-- The outcome of a scan that examined everything. -/
def complete (value : List String) : Outcome := ⟨value, .complete⟩

/-- The outcome of a scan that skipped some candidates, or none. -/
def withSkipped (value : List String) (skipped : Nat) : Outcome := ⟨value, .ofSkipped skipped⟩

/-- The outcome of a scan that could not run. -/
def failed : Outcome := ⟨[], .failed⟩

/-- Whether something was left out. -/
def isDegraded (outcome : Outcome) : Bool := outcome.status != .complete

/-- The number of paths found. -/
def size (outcome : Outcome) : Nat := outcome.value.length

/-- The outcome as a JSON value. -/
def toJson (outcome : Outcome) : Json :=
  .object [("value", .array (outcome.value.map .string)), ("status", outcome.status.toJson)]

end Outcome

end CodeSearch
