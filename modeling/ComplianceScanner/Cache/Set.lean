import ComplianceScanner.Cache.Basic

namespace ComplianceScanner

/-- One cache for each kind, whatever the version of the kind. -/
structure CacheSet where
  caches : Std.ExtTreeMap ResourceKey Cache := ∅

namespace CacheSet

def empty : CacheSet := {}

def get? (set : CacheSet) (key : ResourceKey) : Option Cache := set.caches[key]?

def size (set : CacheSet) : Nat := set.caches.size

def isEmpty (set : CacheSet) : Bool := set.caches.isEmpty

def toList (set : CacheSet) : List (ResourceKey × Cache) := set.caches.toList

def put (set : CacheSet) (key : ResourceKey) (cache : Cache) : CacheSet :=
  { caches := set.caches.insert key cache }

/-- The cache to use for a resource type: that of its kind, under its version. -/
def cacheFor (set : CacheSet) (resource : ResourceType) : Cache :=
  ((set.get? resource.key).getD .empty).adopt resource.version

def total (set : CacheSet) : Nat := set.toList.foldl (fun count (_, cache) => count + cache.size) 0

/-- The caches of kinds that are not among `live`. -/
def vanished (set : CacheSet) (live : List ResourceKey) : List (ResourceKey × Cache) :=
  set.toList.filter fun (key, _) => !live.contains key

def retain (set : CacheSet) (live : List ResourceKey) : CacheSet :=
  { caches := set.caches.filter fun key _ => live.contains key }

end CacheSet

end ComplianceScanner
