import ComplianceScanner.Cluster.Basic

/-!
Listing a type page by page. The next page is asked for only when the one before has been taken, so
no more than one page is held at a time.
-/

namespace ComplianceScanner

/-- What is listed, and at most how many objects a page holds. -/
structure Listing where
  resource : ResourceType
  namespaceName : Option String
  limit : Nat

/-- Where a listing stands: another request is due, with the token of the page before, or all is
listed. -/
inductive Paging where
  | due (token : Option String)
  | finished
deriving DecidableEq

inductive Pulled where
  | page (items : List Object)
  | ended
  | failed (error : ScanError)
  | cutOff

namespace Paging

def start : Paging := .due none

/-- An empty token ends a listing as an absent one does. -/
def after (page : ObjectPage) : Paging :=
  match page.next with
  | none => .finished
  | some token => if token = "" then .finished else .due (some token)

/-- Takes the next page. Nothing comes after a failure. -/
def pull {World : Type} (cluster : Cluster World) (listing : Listing) (paging : Paging)
    (world : World) : Pulled × Paging × World :=
  match paging with
  | finished => (.ended, .finished, world)
  | due token =>
    match cluster.list listing.resource listing.namespaceName listing.limit token world with
    | (.value page, world) => (.page page.items, after page, world)
    | (.failed cause, world) =>
      (.failed (.list listing.resource.display listing.namespaceName cause), .finished, world)
    | (.cutOff, world) => (.cutOff, .due token, world)

/-- All that pulling until the end yields, of at most so many pages. -/
def pullAll {World : Type} (cluster : Cluster World) (listing : Listing) :
    Nat → Paging → World → List Pulled × World
  | 0, _, world => ([], world)
  | pages + 1, paging, world =>
    match paging.pull cluster listing world with
    | (.page items, paging, world) =>
      let (others, world) := pullAll cluster listing pages paging world
      (.page items :: others, world)
    | (.failed error, _, world) => ([.failed error, .ended], world)
    | (last, _, world) => ([last], world)

end Paging

end ComplianceScanner
