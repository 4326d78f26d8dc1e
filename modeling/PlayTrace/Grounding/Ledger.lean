import PlayTrace.Domain.Basic
import PlayTrace.Grid.Snapshot

/-!
# The ledger of collected resources

A ledger counts how often each of its resources was collected. It learns this from two snapshots,
one before and one after an action: what has become fewer was collected. What has become more
leaves the count as it is, so counts never fall.
-/

namespace PlayTrace

/-- Counts of collected resources. -/
structure Ledger where
  /-- the resources that are counted, in order; one that is listed twice is counted twice -/
  keys : List String
  /-- how often each resource was collected -/
  counts : Table String Nat
deriving DecidableEq

namespace Ledger

/-- The ledger that counts the given resources, from zero. -/
def ofKeys (keys : List String) : Ledger := ⟨keys, .ofList (keys.map fun k => (k, 0))⟩

/-- The ledger of the resources that a domain has a predicate for. -/
def ofDomain (D : Domain) : Ledger := ofKeys D.pickups.keys

/-- How many sprites of a key were collected between two snapshots. -/
def collected (before after : Snapshot) (key : String) : Nat := before.count key - after.count key

/-- Adds to the count of a key. -/
def add (counts : Table String Nat) (key : String) (n : Nat) : Table String Nat :=
  counts.insert key ((counts.get? key).getD 0 + n)

/-- What was collected between two snapshots, by key. -/
def deltas (l : Ledger) (before after : Snapshot) : Table String Nat :=
  .ofList (l.keys.map fun k => (k, collected before after k))

/-- The ledger after what happened between two snapshots. -/
def update (l : Ledger) (before after : Snapshot) : Ledger :=
  { l with counts := l.keys.foldl (fun t k => add t k (collected before after k)) l.counts }

/-- How often a resource was collected, zero for a resource that is not counted. -/
def count (l : Ledger) (key : String) : Nat := (l.counts.get? key).getD 0

/-- How often a counted resource was collected. -/
def picked (l : Ledger) (key : String) : Except Fault Nat :=
  match l.counts.get? key with
  | some n => .ok n
  | none => .error (.uncounted key)

end Ledger

end PlayTrace
