import ComplianceScanner.Proofs.Journal
import ComplianceScanner.Proofs.Sweep
import Mathlib.Algebra.Order.Floor.Div
import Mathlib.Data.List.Chain

/-!
# Pulling a listing

A listing is pulled by its consumer. Each pull makes one request, with the token of the page before, or
none at all once the last page or a failure has come; so what is asked and what is yielded can be laid
side by side. Against a cluster that shows its objects from an offset on, the offset is what moves: each
page takes the head of what is left, until less than a page is.
-/

namespace ComplianceScanner

variable {World : Type}

/-- What goes out with a request of a listing, and the answer to it. -/
structure Listing.Request where
  token : Option String
  answer : Answer ObjectPage

namespace Listing

def exchange (listing : Listing) (request : Request) : Exchange :=
  .list listing request.token request.answer

/-- What the consumer gets for an answer. -/
def yielded (listing : Listing) : Answer ObjectPage → Pulled
  | .value page => .page page.items
  | .failed cause => .failed (.list listing.resource.display listing.namespaceName cause)
  | .cutOff => .cutOff

namespace Request

/-- The later request goes out with the token of the page that the earlier one has brought. -/
def LeadsTo (earlier later : Request) : Prop :=
  ∃ page token, earlier.answer = .value page ∧ page.next = some token ∧ token ≠ "" ∧
    later.token = some token

/-- It has brought no page, or one that has no token or an empty one. -/
def IsLast (request : Request) : Prop :=
  ∀ page, request.answer = .value page → ∀ token, page.next = some token → token = ""

theorem isLast_of_forall_ne_value {request : Request}
    (hanswer : ∀ page, request.answer ≠ .value page) : request.IsLast :=
  fun page hpage => absurd hpage (hanswer page)

theorem LeadsTo.not_isLast {earlier later : Request} (hleads : earlier.LeadsTo later) :
    ¬ earlier.IsLast := by
  obtain ⟨page, token, hanswer, hnext, hne, -⟩ := hleads
  intro hlast
  exact hne (hlast page hanswer token hnext)

end Request

end Listing

/-- As long as this holds of the world, the cluster shows these objects of the listing, from the place
on that the token stands for. -/
def Cluster.Shows (cluster : Cluster World) (listing : Listing) (objects : List Object)
    (place : String → Nat) (fine : World → Prop) : Prop :=
  ∀ world token, fine world →
    ∃ page, (cluster.list listing.resource listing.namespaceName listing.limit token world).1 =
        .value page ∧
      page.Shows objects listing.limit (token.elim 0 place) place ∧
      fine (cluster.list listing.resource listing.namespaceName listing.limit token world).2

theorem Cluster.Serves.shows {cluster : Cluster World} {held : Holdings} {place : String → Nat}
    {fine : World → Prop} (hserves : cluster.Serves held place fine) (listing : Listing) :
    cluster.Shows listing (held.objects listing.resource listing.namespaceName) place fine :=
  fun world token hfine => hserves.list world listing.resource listing.namespaceName listing.limit
    token hfine

open Listing (Request)

namespace Paging

/-- So many pulls in a row, unless one is cut off before its answer comes. -/
def pulls (cluster : Cluster World) (listing : Listing) : Nat → Paging → World → List Pulled × World
  | 0, _, world => ([], world)
  | count + 1, paging, world =>
    match paging.pull cluster listing world with
    | (.cutOff, _, world) => ([.cutOff], world)
    | (pulled, paging, world) =>
      let (later, world) := pulls cluster listing count paging world
      (pulled :: later, world)

/-- These requests come of so many pulls, the first with this token, and this is what they yield. The
pulls that are left over find the listing at its end. -/
structure Course (listing : Listing) (token : Option String) (count : Nat)
    (requests : List Request) (pulled : List Pulled) : Prop where
  first : ∀ request ∈ requests.head?, request.token = token
  chain : requests.IsChain Request.LeadsTo
  lazy : requests.length ≤ count
  ends : requests.length < count → ∃ last ∈ requests.getLast?, last.IsLast
  yields : (∀ request ∈ requests, request.answer ≠ .cutOff) →
    pulled = (requests.map (·.answer)).map listing.yielded ++
      List.replicate (count - requests.length) .ended
  cut : (∃ request ∈ requests, request.answer = .cutOff) →
    pulled = (requests.map (·.answer)).map listing.yielded

variable {cluster : Cluster World} {listing : Listing}

theorem pulls_finished (count : Nat) (world : World) :
    pulls cluster listing count .finished world = (List.replicate count .ended, world) := by
  induction count with
  | zero => rfl
  | succ count ih =>
      simp only [pulls, pull, ih]
      rfl

theorem Course.zero (listing : Listing) (token : Option String) :
    Course listing token 0 [] [] where
  first := by simp
  chain := .nil
  lazy := Nat.le_refl 0
  ends hlt := absurd hlt (Nat.lt_irrefl 0)
  yields _ := rfl
  cut _ := rfl

theorem Course.last (count : Nat) {request : Request} (hlast : request.IsLast)
    (hanswer : request.answer ≠ .cutOff) :
    Course listing request.token (count + 1) [request]
      (listing.yielded request.answer :: List.replicate count .ended) where
  first := by simp
  chain := .singleton _
  lazy := by simp
  ends _ := ⟨request, rfl, hlast⟩
  yields _ := rfl
  cut := by simp [hanswer]

theorem Course.cutOff (count : Nat) {request : Request} (hanswer : request.answer = .cutOff) :
    Course listing request.token (count + 1) [request] [listing.yielded request.answer] where
  first := by simp
  chain := .singleton _
  lazy := by simp
  ends _ := ⟨request, rfl, Request.isLast_of_forall_ne_value (by simp [hanswer])⟩
  yields := by simp [hanswer]
  cut _ := rfl

theorem Course.cons {request : Request} {page : ObjectPage} {token : String} {count : Nat}
    {requests : List Request} {pulled : List Pulled} (hanswer : request.answer = .value page)
    (hnext : page.next = some token) (hne : token ≠ "")
    (hrest : Course listing (some token) count requests pulled) :
    Course listing request.token (count + 1) (request :: requests)
      (listing.yielded request.answer :: pulled) where
  first := by simp
  chain := by
    refine List.isChain_cons.mpr ⟨fun later hlater => ?_, hrest.chain⟩
    exact ⟨page, token, hanswer, hnext, hne, hrest.first later hlater⟩
  lazy := Nat.succ_le_succ hrest.lazy
  ends hlt := by
    obtain ⟨last, hmem, hlast⟩ := hrest.ends (Nat.lt_of_succ_lt_succ hlt)
    refine ⟨last, ?_, hlast⟩
    rw [List.getLast?_cons, Option.mem_def.mp hmem]
    rfl
  yields hall := by
    rw [hrest.yields fun later hlater => hall later (List.mem_cons_of_mem _ hlater)]
    simp
  cut := by
    rintro ⟨later, hlater, hcut⟩
    rcases List.mem_cons.mp hlater with rfl | hlater
    · cases hanswer.symm.trans hcut
    · rw [hrest.cut ⟨later, hlater, hcut⟩]
      rfl

theorem isLast_of_after {request : Request} {page : ObjectPage}
    (hanswer : request.answer = .value page) (hafter : after page = .finished) :
    request.IsLast := by
  intro other hother token hnext
  cases hanswer.symm.trans hother
  by_contra hne
  simp [after, hnext, hne] at hafter

theorem exists_next_of_after {page : ObjectPage} (hafter : after page ≠ .finished) :
    ∃ token, page.next = some token ∧ token ≠ "" ∧ after page = .due (some token) := by
  unfold after at hafter ⊢
  cases hnext : page.next with
  | none => exact absurd (by rw [hnext]) hafter
  | some token =>
      by_cases hempty : token = ""
      · exact absurd (by simp [hnext, hempty]) hafter
      · exact ⟨token, rfl, hempty, if_neg hempty⟩

/-- The requests that so many pulls make, and what they yield, for whatever answers. -/
theorem exists_course (cluster : Cluster World) (listing : Listing) (count : Nat)
    (token : Option String) (j : Journaled World) :
    ∃ requests : List Request,
      (pulls cluster.journaled listing count (.due token) j).2.exchanges =
        j.exchanges ++ requests.map listing.exchange ∧
      Course listing token count requests
        (pulls cluster.journaled listing count (.due token) j).1 := by
  induction count generalizing token j with
  | zero => exact ⟨[], (List.append_nil _).symm, Course.zero listing token⟩
  | succ count ih =>
      have hlist := cluster.list_journaled listing token j
      generalize hanswered : cluster.list listing.resource listing.namespaceName listing.limit token
        j.world = answered at hlist
      obtain ⟨answer, world⟩ := answered
      let request : Request := ⟨token, answer⟩
      let later : Journaled World :=
        { j with world, exchanges := j.exchanges ++ [listing.exchange request] }
      change _ = (answer, later) at hlist
      cases answer with
      | cutOff =>
          have hcut : request.answer = .cutOff := rfl
          refine ⟨[request], ?_, ?_⟩ <;> simp only [pulls, pull, hlist]
          · rfl
          · exact Course.cutOff count hcut
      | failed cause =>
          have hlast : request.IsLast := Request.isLast_of_forall_ne_value (by simp [request])
          refine ⟨[request], ?_, ?_⟩ <;> simp only [pulls, pull, hlist, pulls_finished]
          · rfl
          · exact Course.last count hlast (by simp [request])
      | value page =>
          have hvalue : request.answer = .value page := rfl
          by_cases hafter : after page = .finished
          · have hlast : request.IsLast := isLast_of_after hvalue hafter
            refine ⟨[request], ?_, ?_⟩ <;>
              simp only [pulls, pull, hlist, hafter, pulls_finished]
            · rfl
            · exact Course.last count hlast (by simp [request])
          · obtain ⟨next, hnext, hne, hdue⟩ := exists_next_of_after hafter
            obtain ⟨requests, hexchanges, hcourse⟩ := ih (some next) later
            refine ⟨request :: requests, ?_, ?_⟩ <;> simp only [pulls, pull, hlist, hdue]
            · rw [hexchanges]
              simp [later]
            · exact Course.cons hvalue hnext hne hcourse

/-! ### The end of a listing -/

section

variable {token : Option String} {count : Nat} {requests : List Request} {pulled : List Pulled}
  {index : Nat} {request : Request}

theorem Course.leadsTo (hcourse : Course listing token count requests pulled)
    (hlt : index + 1 < requests.length) : requests[index].LeadsTo requests[index + 1] :=
  List.isChain_iff_getElem.mp hcourse.chain index hlt

theorem Course.length_of_isLast (hcourse : Course listing token count requests pulled)
    (hrequest : requests[index]? = some request) (hlast : request.IsLast) :
    requests.length = index + 1 := by
  obtain ⟨hlt, rfl⟩ := List.getElem?_eq_some_iff.mp hrequest
  by_contra hne
  have hmore : index + 1 < requests.length := by omega
  exact (hcourse.leadsTo hmore).not_isLast hlast

/-- All requests before another one have brought a page. -/
theorem Course.exists_pages_before (hcourse : Course listing token count requests pulled)
    (hlt : index < requests.length) :
    ∃ pages : List ObjectPage, pages.length = index ∧
      (requests.take index).map (·.answer) = pages.map .value := by
  obtain ⟨pages, hpages⟩ : (requests.take index).map (·.answer) ∈ Set.range (List.map .value) := by
    rw [Set.range_list_map]
    intro answer hanswer
    obtain ⟨earlier, hearlier, rfl⟩ := List.mem_map.mp hanswer
    obtain ⟨place, hplace, rfl⟩ := List.mem_take_iff_getElem.mp hearlier
    have hmore : place + 1 < requests.length := by omega
    obtain ⟨page, -, hpage, -⟩ := hcourse.leadsTo hmore
    exact ⟨page, hpage.symm⟩
  refine ⟨pages, ?_, hpages.symm⟩
  calc pages.length
    _ = ((requests.take index).map (·.answer)).length := by rw [← hpages, List.length_map]
    _ = index := by
        rw [List.length_map, List.length_take]
        omega

theorem Course.of_failed (hcourse : Course listing token count requests pulled)
    {cause : ClusterError} (hrequest : requests[index]? = some request)
    (hfailed : request.answer = .failed cause) :
    requests.length = index + 1 ∧
      ∃ pages : List ObjectPage, pages.length = index ∧
        requests.map (·.answer) = pages.map .value ++ [.failed cause] ∧
        pulled = pages.map (.page ·.items) ++
          .failed (.list listing.resource.display listing.namespaceName cause) ::
            List.replicate (count - (index + 1)) .ended := by
  have hlength : requests.length = index + 1 :=
    hcourse.length_of_isLast hrequest (Request.isLast_of_forall_ne_value (by simp [hfailed]))
  have hlt : index < requests.length := by omega
  obtain ⟨pages, hcount, hpages⟩ := hcourse.exists_pages_before hlt
  have hanswers : requests.map (·.answer) = pages.map .value ++ [.failed cause] := by
    calc requests.map (·.answer)
      _ = (requests.take (index + 1)).map (·.answer) := by rw [← hlength, List.take_length]
      _ = (requests.take index).map (·.answer) ++ [request.answer] := by
          rw [List.take_add_one, hrequest, List.map_append]
          rfl
      _ = pages.map .value ++ [.failed cause] := by rw [hpages, hfailed]
  refine ⟨hlength, pages, hcount, hanswers, ?_⟩
  have hnone : ∀ other ∈ requests, other.answer ≠ .cutOff := by
    intro other hother hcut
    have hmem : other.answer ∈ requests.map (·.answer) := List.mem_map_of_mem hother
    simp [hanswers, hcut] at hmem
  rw [hcourse.yields hnone, hanswers, hlength]
  simp [Listing.yielded]

end

/-! ### A cluster that lists by offset -/

/-- The number of requests that list so many objects. -/
def requestsFor (left limit : Nat) : Nat := max 1 (left ⌈/⌉ limit)

theorem requestsFor_of_le {left limit : Nat} (hlimit : 1 ≤ limit) (hle : left ≤ limit) :
    requestsFor left limit = 1 := by
  have hceil : left ⌈/⌉ limit ≤ 1 := by
    rw [ceilDiv_le_iff_le_mul hlimit]
    omega
  exact max_eq_left hceil

theorem requestsFor_of_lt {left limit : Nat} (hlimit : 1 ≤ limit) (hlt : limit < left) :
    requestsFor left limit = requestsFor (left - limit) limit + 1 := by
  have hceil : left ⌈/⌉ limit = (left - limit) ⌈/⌉ limit + 1 := by
    calc left ⌈/⌉ limit
      _ = ((left - limit) + limit - 1 + limit) / limit := by
          rw [Nat.ceilDiv_eq_add_pred_div]
          congr 1
          omega
      _ = (left - limit) ⌈/⌉ limit + 1 := by
          rw [Nat.add_div_right _ hlimit, ← Nat.ceilDiv_eq_add_pred_div]
  have hmore : 1 ≤ (left - limit) ⌈/⌉ limit := by
    by_contra hnone
    have hzero : (left - limit) ⌈/⌉ limit ≤ 0 := by omega
    rw [ceilDiv_le_iff_le_mul hlimit] at hzero
    omega
  unfold requestsFor
  omega

/-- From an offset on, so many pulls yield the objects from there, as far as the pulls reach. -/
theorem exists_pages {objects : List Object} {place : String → Nat} {fine : World → Prop}
    (hshows : cluster.Shows listing objects place fine) (hlimit : 1 ≤ listing.limit) (count : Nat)
    (token : Option String) {j : Journaled World} (hfine : fine j.world) :
    let needed := requestsFor (objects.length - token.elim 0 place) listing.limit
    let run := pulls cluster.journaled listing count (.due token) j
    ∃ pages : List (List Object), pages.length = min count needed ∧
      run.2.exchanges.length = j.exchanges.length + pages.length ∧
      pages.flatten = (objects.drop (token.elim 0 place)).take (count * listing.limit) ∧
      run.1 = pages.map .page ++ List.replicate (count - needed) .ended := by
  induction count generalizing token j with
  | zero => exact ⟨[], by simp, rfl, by simp, by simp [pulls]⟩
  | succ count ih =>
      obtain ⟨page, hanswer, hpage, hfine'⟩ := hshows j.world token hfine
      let later : Journaled World :=
        { j with
          world := (cluster.list listing.resource listing.namespaceName listing.limit token
            j.world).2
          exchanges := j.exchanges ++ [.list listing token (.value page)] }
      have hlist : cluster.journaled.list listing.resource listing.namespaceName listing.limit token
          j = (.value page, later) := by
        rw [Cluster.list_journaled]
        simp only [later, hanswer]
      by_cases hmore : token.elim 0 place + listing.limit < objects.length
      · obtain ⟨next, hafter, hplace⟩ := KindScan.after_of_more hpage hmore
        have hneeded : requestsFor (objects.length - token.elim 0 place) listing.limit =
            requestsFor (objects.length - (token.elim 0 place + listing.limit)) listing.limit + 1 := by
          rw [requestsFor_of_lt hlimit (by omega), Nat.sub_sub]
        obtain ⟨pages, hcount, hrequests, hflatten, hpulled⟩ := ih (some next) (j := later) hfine'
        rw [Option.elim_some, hplace] at hcount hflatten hpulled
        simp only [pulls, pull, hlist, hafter, hneeded]
        refine ⟨page.items :: pages, ?_, ?_, ?_, ?_⟩
        · rw [List.length_cons, hcount]
          omega
        · rw [hrequests]
          simp only [later, List.length_append, List.length_cons, List.length_nil]
          omega
        · calc page.items ++ pages.flatten
            _ = (objects.drop (token.elim 0 place)).take listing.limit ++
                  ((objects.drop (token.elim 0 place)).drop listing.limit).take
                    (count * listing.limit) := by
                rw [hpage.items, hflatten, List.drop_drop]
            _ = (objects.drop (token.elim 0 place)).take ((count + 1) * listing.limit) := by
                rw [← List.take_add, Nat.succ_mul, Nat.add_comm]
        · rw [hpulled, Nat.add_sub_add_right]
          rfl
      · have hleft : objects.length - token.elim 0 place ≤ listing.limit := by omega
        have hafter := KindScan.after_of_last hpage (Nat.le_of_not_lt hmore)
        simp only [pulls, pull, hlist, hafter, pulls_finished, requestsFor_of_le hlimit hleft]
        refine ⟨[page.items], ?_, ?_, ?_, ?_⟩
        · rw [List.length_singleton]
          omega
        · simp [later]
        · have hfew : (objects.drop (token.elim 0 place)).length ≤ listing.limit := by
            rw [List.length_drop]
            exact hleft
          have hreach : listing.limit ≤ (count + 1) * listing.limit :=
            Nat.le_mul_of_pos_left _ (Nat.succ_pos count)
          rw [List.take_of_length_le (hfew.trans hreach), List.flatten_singleton, hpage.items,
            List.take_of_length_le hfew]
        · rfl

/-- A listing is complete and exact, and it stops. Whatever the cluster answers, the requests that so many
pulls make follow their course; the first that may be the last one is, and with a failure nothing but
the end comes after it. If the cluster lists by offset, then the objects come in order and each once,
in as few requests as pages of that size can hold them, but in one at least. -/
theorem pulls_exact (cluster : Cluster World) (listing : Listing) (count : Nat) (world : World) :
    let run := pulls cluster.journaled listing count .start { world }
    ∃ requests : List Request, run.2.exchanges = requests.map listing.exchange ∧
      Course listing none count requests run.1 ∧
      (∀ index request, requests[index]? = some request → request.IsLast →
        requests.length = index + 1) ∧
      (∀ index request cause, requests[index]? = some request → request.answer = .failed cause →
        requests.length = index + 1 ∧
          ∃ pages : List ObjectPage, pages.length = index ∧
            requests.map (·.answer) = pages.map .value ++ [.failed cause] ∧
            run.1 = pages.map (.page ·.items) ++
              .failed (.list listing.resource.display listing.namespaceName cause) ::
                List.replicate (count - (index + 1)) .ended) ∧
      ∀ objects place fine, cluster.Shows listing objects place fine → fine world →
        1 ≤ listing.limit →
        let needed := max 1 (objects.length ⌈/⌉ listing.limit)
        requests.length = min count needed ∧
          ∃ pages : List (List Object),
            run.1 = pages.map .page ++ List.replicate (count - needed) .ended ∧
            pages.flatten = objects.take (count * listing.limit) ∧
            (needed ≤ count → pages.flatten = objects) := by
  intro run
  obtain ⟨requests, hexchanges, hcourse⟩ := exists_course cluster listing count none { world }
  refine ⟨requests, hexchanges, hcourse, fun _ _ => hcourse.length_of_isLast,
    fun _ _ _ => hcourse.of_failed, ?_⟩
  intro objects place fine hshows hfine hlimit needed
  obtain ⟨pages, hcount, hrequests, hflatten, hpulled⟩ :=
    exists_pages hshows hlimit count none (j := { world }) hfine
  have hlength : requests.length = pages.length := by
    have hlengths := congrArg List.length hexchanges
    simp only [List.nil_append, List.length_map] at hlengths
    rw [← hlengths, hrequests, List.length_nil, Nat.zero_add]
  refine ⟨hlength.trans hcount, pages, hpulled, hflatten, ?_⟩
  intro hneeded
  have hceil : objects.length ⌈/⌉ listing.limit ≤ count := (le_max_right 1 _).trans hneeded
  rw [ceilDiv_le_iff_le_mul hlimit, Nat.mul_comm] at hceil
  exact hflatten.trans (List.take_of_length_le hceil)

end Paging

namespace Sample

/-- Three workloads on pages of two; at first all is answered, then the second request fails. -/
theorem pulls_exact_threeWorkloads :
    let objects := [web "uid-1" "1", web "uid-2" "1", web "uid-3" "1"]
    let listing : Listing := ⟨deployment "apps", some "default", 2⟩
    let answered := Paging.pulls ScriptedCluster.asCluster.journaled listing 4 .start
      { world := serving ["apps"] objects }
    let failed := Paging.pulls ScriptedCluster.asCluster.journaled listing 4 .start
      { world := (serving ["apps"] objects).plan .list [none, some 500] }
    (∃ pages : List (List Object), pages.flatten = objects ∧
        answered.1 = pages.map .page ++ [.ended, .ended]) ∧
      answered.2.exchanges.length = 2 ∧
      ∃ page : ObjectPage, failed.1 =
        [.page page.items,
          .failed (.list "apps/v1/Deployment" (some "default")
            (ScriptedCluster.injectedFailure 500)), .ended, .ended] := by
  intro objects listing answered failed
  have hshows := (ScriptedCluster.serves (serving ["apps"] objects)).shows listing
  have hreliable : (serving ["apps"] objects).IsReliable := ⟨fun _ => rfl, rfl⟩
  obtain ⟨requests, hexchanges, -, -, -, hcomplete⟩ :=
    Paging.pulls_exact ScriptedCluster.asCluster listing 4 (serving ["apps"] objects)
  obtain ⟨hcount, pages, hpulled, -, hall⟩ :=
    hcomplete _ _ _ hshows ⟨hreliable, rfl⟩ (by decide +kernel)
  obtain ⟨refused, hrefused, -, -, hfailed, -⟩ := Paging.pulls_exact ScriptedCluster.asCluster listing 4
    ((serving ["apps"] objects).plan .list [none, some 500])
  have hneeded : max 1 (objects.length ⌈/⌉ 2) = 2 := by decide +kernel
  refine ⟨⟨pages, hall (hneeded.le.trans (by decide)), ?_⟩, ?_, ?_⟩
  · calc answered.1
      _ = pages.map .page ++ List.replicate (4 - max 1 (objects.length ⌈/⌉ 2)) .ended := hpulled
      _ = pages.map .page ++ [.ended, .ended] := by rw [hneeded]; rfl
  · calc answered.2.exchanges.length
      _ = requests.length := by rw [hexchanges, List.length_map]
      _ = min 4 (max 1 (objects.length ⌈/⌉ 2)) := hcount
      _ = 2 := by rw [hneeded]; rfl
  · have herrors : failed.2.exchanges.map Exchange.error? =
        [none, some (.list "apps/v1/Deployment" (some "default")
          (ScriptedCluster.injectedFailure 500))] := by
      decide +kernel
    change failed.2.exchanges = _ at hrefused
    rw [hrefused, List.map_map] at herrors
    obtain ⟨first, rest, rfl, -, hrest⟩ := List.map_eq_cons_iff.mp herrors
    obtain ⟨second, none, rfl, hsecond, -⟩ := List.map_eq_cons_iff.mp hrest
    have hanswer : second.answer = .failed (ScriptedCluster.injectedFailure 500) := by
      cases hcase : second.answer with
      | failed cause =>
          simp only [Function.comp, Listing.exchange, hcase, Exchange.error?, Option.some.injEq,
            ScanError.list.injEq] at hsecond
          rw [hsecond.2.2]
      | value page => simp [Listing.exchange, hcase, Exchange.error?] at hsecond
      | cutOff => simp [Listing.exchange, hcase, Exchange.error?] at hsecond
    obtain ⟨-, pages, hlength, -, hpulled⟩ := hfailed 1 second _ rfl hanswer
    obtain ⟨page, rfl⟩ := List.length_eq_one_iff.mp hlength
    exact ⟨page, hpulled⟩

end Sample

end ComplianceScanner
