import PackageSearch.Installed.Match

/-!
The installed packages as one detection found them.
-/

namespace PackageSearch

structure Snapshot where
  names : NameSet
  /-- The time at which the detection ended; none before the first one and after a reset. -/
  capturedAt : Option Nat
  deriving DecidableEq

namespace Snapshot

def empty : Snapshot := ⟨NameSet.empty, none⟩

/-- Whether anything is known to be installed. -/
def isAvailable (snapshot : Snapshot) : Bool :=
  !snapshot.names.isEmpty

def holds (snapshot : Snapshot) (candidate : String) : Bool :=
  isInstalled candidate snapshot.names

/-- The time since the snapshot was captured. -/
def age? (snapshot : Snapshot) (now : Nat) : Option Nat :=
  snapshot.capturedAt.map (now - ·)

/-- A snapshot has to be taken anew once it is as old as `ttl`, and if there is none. A snapshot
captured after `now` is not old at all. -/
def isStale (snapshot : Snapshot) (ttl now : Nat) : Bool :=
  match snapshot.capturedAt with
  | none => true
  | some captured => ttl ≤ now - captured

end Snapshot

end PackageSearch
