import BranchDistance.Fingerprint
import BranchDistance.Target.OfText

/-!
# The cache of targets

A session reads each condition text once.  What the text gave, a target or an error, is kept under
its fingerprint.  Targets are numbered in the order in which they are made, so that one number
always means one target.
-/

namespace BranchDistance

/-- A target with its number. -/
structure Shared where
  number : Nat
  target : Target

/-- What has been read in a session. -/
structure Cache where
  entries : List (Fingerprint × Except TargetError Shared)
  /-- How many targets have been made. -/
  made : Nat

namespace Cache

/-- The cache of a new session. -/
def empty : Cache := ⟨[], 0⟩

/-- The number of entries. -/
def size (cache : Cache) : Nat := cache.entries.length

/-- Forgets all entries.  The numbers are not used again. -/
def clear (cache : Cache) : Cache := { cache with entries := [] }

/-- What is kept under a fingerprint. -/
def get? (cache : Cache) (f : Fingerprint) : Option (Except TargetError Shared) :=
  cache.entries.lookup f

/-- Keeps what a text gave. -/
def insert (cache : Cache) (f : Fingerprint) (result : Except TargetError Target) :
    Except TargetError Shared × Cache :=
  match result with
  | .ok target =>
    let shared : Shared := ⟨cache.made, target⟩
    (.ok shared, ⟨(f, .ok shared) :: cache.entries, cache.made + 1⟩)
  | .error e => (.error e, ⟨(f, .error e) :: cache.entries, cache.made⟩)

/-- What a lookup gives, and whether it was kept before. -/
structure Lookup where
  result : Except TargetError Shared
  isHit : Bool

/-- Looks a text up, reading it if nothing is kept for it. -/
def lookup (cache : Cache) (text : String) : Lookup × Cache :=
  let f := Fingerprint.ofText text
  match cache.get? f with
  | some result => (⟨result, true⟩, cache)
  | none =>
    let (result, after) := cache.insert f (Target.ofText? text)
    (⟨result, false⟩, after)

end Cache

end BranchDistance
