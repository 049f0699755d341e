import ComplianceScanner.Cache.Entry
import Std.Data.ExtTreeMap
import Std.Data.ExtTreeSet

/-!
The objects of one kind that need no second validation. An entry counts only while the object is
listed with the resource version of the entry; any other version throws it out.
-/

namespace ComplianceScanner

abbrev Identities := Std.ExtTreeSet Identity

/-- Entries in order of their identities, and the version that these were recorded under. -/
structure Cache where
  version : String := ""
  entries : Std.ExtTreeMap Identity CacheEntry := ∅

namespace Cache

def empty : Cache := {}

def get? (cache : Cache) (identity : Identity) : Option CacheEntry :=
  cache.entries[identity]?

def size (cache : Cache) : Nat := cache.entries.size

def toList (cache : Cache) : List (Identity × CacheEntry) := cache.entries.toList

/-- The cache under another version of its kind: objects and resource versions stay what they
are, so every entry is kept. -/
def adopt (cache : Cache) (version : String) : Cache :=
  if cache.version = version then cache
  else
    { version
      entries := cache.entries.foldl
        (fun held identity entry => held.insert (identity.withVersion version) entry) ∅ }

/-- The number of entries that adopting a version carries over. -/
def carriedOver (cache : Cache) (version : String) : Nat :=
  if cache.version = version then 0 else (cache.adopt version).size

/-- Whether an object has changed since it was validated, or never was. -/
def isDue (cache : Cache) (identity : Identity) (resourceVersion : String) : Bool :=
  match cache.get? identity with
  | some entry => entry.resourceVersion ≠ resourceVersion
  | none => true

def remove (cache : Cache) (identity : Identity) : Cache :=
  { cache with entries := cache.entries.erase identity }

/-- Looks whether an object is due; asking about a stale entry throws it out. -/
def needsValidation (cache : Cache) (identity : Identity) (resourceVersion : String) :
    Bool × Cache :=
  if cache.isDue identity resourceVersion then (true, cache.remove identity) else (false, cache)

def store (cache : Cache) (identity : Identity) (entry : CacheEntry) : Cache :=
  { cache with entries := cache.entries.insert identity entry }

/-- The entries of objects that a full listing did not show. -/
def unobserved (cache : Cache) (observed : Identities) : List (Identity × CacheEntry) :=
  cache.toList.filter fun (identity, _) => !observed.contains identity

def keepObserved (cache : Cache) (observed : Identities) : Cache :=
  { cache with entries := cache.entries.filter fun identity _ => observed.contains identity }

end Cache

end ComplianceScanner
