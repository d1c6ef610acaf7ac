import SqlTemplate.Keyed
import SqlTemplate.Monitor.Hook

/-! Counts and times of executions. -/

namespace SqlTemplate

/-- The longest time that is counted, in nanoseconds: seconds have 64 bits. -/
def longestTime : Nat := Number.twoPow 64 * 1000000000 - 1

def addTimes (a b : Nat) : Nat :=
  min (a + b) longestTime

structure TagStats where
  calls : Nat
  failures : Nat
  total : Nat
  deriving DecidableEq, Repr

/-- What was observed since the last reset. Kinds and tags that never occurred are absent; those
that did stand in their order. -/
structure Stats where
  calls : Nat
  failures : Nat
  total : Nat
  byKind : List (StatementKind × Nat)
  byTag : List (String × TagStats)
  slowest : Option (String × Nat)
  deriving DecidableEq, Repr

namespace Stats

def empty : Stats := ⟨0, 0, 0, [], [], none⟩

def count (stats : Stats) (kind : StatementKind) : Nat :=
  ((stats.byKind.find? fun entry => entry.1 == kind).map Prod.snd).getD 0

def countKind (kind : StatementKind) : List (StatementKind × Nat) → List (StatementKind × Nat)
  | [] => [(kind, 1)]
  | (key, n) :: rest =>
    if key = kind then (kind, n + 1) :: rest
    else if kind.rank < key.rank then (kind, 1) :: (key, n) :: rest
    else (key, n) :: countKind kind rest

def seen (stats : Stats) : List StatementKind :=
  StatementKind.all.filter fun kind => stats.byKind.any fun entry => entry.1 == kind

def countTag (tag : String) (failed : Nat) (elapsed : Nat) (byTag : List (String × TagStats)) :
    List (String × TagStats) :=
  let old := (Keyed.find? tag byTag).getD ⟨0, 0, 0⟩
  Keyed.insert tag ⟨old.calls + 1, old.failures + failed, addTimes old.total elapsed⟩ byTag

/-- The slower of the slowest execution so far and another; the earlier of two equal ones. -/
def slower (sql : String) (elapsed : Nat) : Option (String × Nat) → String × Nat
  | none => (sql, elapsed)
  | some (slowest, time) => if time < elapsed then (sql, elapsed) else (slowest, time)

def record (stats : Stats) (context : Context) (elapsed : Nat) (outcome : Outcome) : Stats :=
  let failed := if outcome.isFailure then 1 else 0
  { calls := stats.calls + 1
    failures := stats.failures + failed
    total := addTimes stats.total elapsed
    byKind := countKind context.kind stats.byKind
    byTag := match context.tag with
      | some tag => countTag tag failed elapsed stats.byTag
      | none => stats.byTag
    slowest := some (slower context.sql elapsed stats.slowest) }

def hook {σ : Type} (update : (Stats → Stats) → σ → σ) : Hook σ :=
  { Hook.idle with
    after := fun context elapsed outcome =>
      modify (update fun stats => stats.record context elapsed outcome) }

end Stats

end SqlTemplate
