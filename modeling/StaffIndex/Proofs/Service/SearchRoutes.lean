import StaffIndex.Proofs.Json.Records
import StaffIndex.Proofs.Search.Failing
import StaffIndex.Proofs.Service.Hooks
import StaffIndex.Service.Http

/-!
# What the search routes answer

The body of a request says what to search for, if anything (`SearchRoute.Asks`). If nothing, or for no employee at all,
the request is refused before anything is asked of the stores (`SearchRoute.Refuses`). Any other search is answered by
what it finds, or by the error of the one request of it that fails, and it leaves nothing behind
(`SearchRoute.refused_or_searched`).

The stores of a service fail at every request of a kind or at none. For stores that fail at single requests, or change
between two, there is `SearchRoute.consult`, and a service answers as it says (`Service.respond_of_looksUp`).
-/

namespace StaffIndex

open Http (Response Rejection Failure bodyLimit queryShape rankedShape)

/-- The routes that search. -/
inductive SearchRoute where
  | basic
  | full
  | suggest

def SearchRoute.route : SearchRoute → Http.Route
  | basic => .basic
  | full => .full
  | suggest => .suggest

/-- What can be searched for. -/
inductive Query where
  | exact (text : String)
  | ranked (text : String) (limit : Nat)
  | suggest (text : String)
  deriving DecidableEq

def Query.plan (settings : Search.Settings) : Query → Plan SearchError (List Summary)
  | exact text => Search.exact text
  | ranked text limit => Search.ranked settings text limit
  | suggest text => Search.suggest settings text

/-- A request to a route with a JSON body of a length that is taken. -/
structure Http.Request.Posts (request : Http.Request) (route : Http.Route) : Prop where
  method : request.method = "POST"
  path : Http.Route.ofPath? request.path = some route
  json : (request.contentType.bind Http.MediaType.parse).any Http.MediaType.isJson
  size : request.body.size ≤ bodyLimit

def Http.Response.ofSearch : Except SearchError (List Summary) → Response
  | .ok found => ⟨200, .employees found⟩
  | .error e => (Failure.search e).response

namespace SearchRoute

/-- The symbols start with what the route is to search for. -/
inductive Asks (s : List Json.Symbol) : SearchRoute → Query → Prop
  | basic {text : String} {rest : List Json.Symbol} (h : queryShape.Holds s text rest) : Asks s .basic (.exact text)
  | full {text : String} {limit : Nat} {rest : List Json.Symbol} (h : rankedShape.Holds s (text, limit) rest) :
    Asks s .full (.ranked text limit)
  | suggest {text : String} {rest : List Json.Symbol} (h : queryShape.Holds s text rest) :
    Asks s .suggest (.suggest text)

/-- What the body of the request is read as. -/
def read (request : Http.Request) : SearchRoute → Except Rejection Query
  | basic => (request.read (.record queryShape)).map .exact
  | full => (request.read (.record rankedShape)).map fun q => .ranked q.1 q.2
  | suggest => (request.read (.record queryShape)).map .suggest

/-- What the route answers and what it asks of the stores, if the stores say so. -/
def consult (route : SearchRoute) (request : Http.Request) (settings : Search.Settings) (told : Replies) :
    Response × List Request :=
  match route.read request with
  | .error r => ((Failure.rejected r).response, [])
  | .ok q => (.ofSearch ((q.plan settings).consult told 0).1, ((q.plan settings).consult told 0).2)

/-- The answer to the request, for which nothing is asked of any stores. -/
def Refuses (route : SearchRoute) (request : Http.Request) (response : Response) : Prop :=
  (∀ settings told, route.consult request settings told = (response, [])) ∧
    ∀ s : Service, s.serve request = (some response, s)

end SearchRoute

variable {route : SearchRoute} {request : Http.Request} {q : Query} {settings : Search.Settings}

/-! ## Bodies -/

section Posts

variable {α β : Type} {target : Http.Route} {reader : Json.Reader α} {f : α → β}

theorem Http.Request.Posts.read_eq (h : request.Posts target) :
    request.read reader = (reader.front (Json.Symbol.ofBytes request.body)).mapError .malformed := by
  simp only [Http.Request.read, h.json, Nat.not_lt.2 h.size]
  rfl

theorem Http.Request.Posts.map_read_eq_ok_iff (h : request.Posts target) {b : β} :
    (request.read reader).map f = .ok b ↔ ∃ a, reader.front (Json.Symbol.ofBytes request.body) = .ok a ∧ f a = b := by
  rw [h.read_eq]
  cases reader.front (Json.Symbol.ofBytes request.body) with
  | error e => exact ⟨nofun, nofun⟩
  | ok a => simp [Except.mapError, Except.map]

theorem Http.Request.Posts.malformed_of_map_read (h : request.Posts target) {r : Rejection}
    (hread : (request.read reader).map f = .error r) : ∃ e, r = .malformed e := by
  rw [h.read_eq] at hread
  cases hfront : reader.front (Json.Symbol.ofBytes request.body) with
  | error e =>
    rw [hfront] at hread
    cases hread
    exact ⟨e, rfl⟩
  | ok a =>
    rw [hfront] at hread
    cases hread

end Posts

theorem Http.queryShape_front_eq_ok_iff {symbols : List Json.Symbol} {text : String} :
    (Json.Reader.record queryShape).front symbols = .ok text ↔ ∃ rest, queryShape.Holds symbols text rest := by
  refine Json.Reader.record_front_eq_ok_iff (by decide) fun m hm => ?_
  obtain rfl : m = .of "search_key" true .text fun v _ => v := by simpa [queryShape] using hm
  exact Json.Reader.needsValue_text.bind _

theorem Http.rankedShape_front_eq_ok_iff {symbols : List Json.Symbol} {query : String × Nat} :
    (Json.Reader.record rankedShape).front symbols = .ok query ↔ ∃ rest, rankedShape.Holds symbols query rest := by
  refine Json.Reader.record_front_eq_ok_iff (by decide) fun m hm => ?_
  have hmembers : m = .of "search_key" true .text (fun v q => (v, q.2)) ∨
      m = .of "limit" true .count (fun v q => (q.1, v)) := by simpa [rankedShape] using hm
  obtain rfl | rfl := hmembers
  · exact Json.Reader.needsValue_text.bind _
  · exact Json.Reader.needsValue_count.bind _

namespace SearchRoute

/-- A body is read just as what it asks for. -/
theorem read_eq_ok_iff (h : request.Posts route.route) :
    route.read request = .ok q ↔ route.Asks (Json.Symbol.ofBytes request.body) q := by
  constructor
  · intro hread
    cases route with
    | basic =>
      obtain ⟨text, hfront, rfl⟩ := h.map_read_eq_ok_iff.1 hread
      exact .basic (Http.queryShape_front_eq_ok_iff.1 hfront).choose_spec
    | full =>
      obtain ⟨⟨text, limit⟩, hfront, rfl⟩ := h.map_read_eq_ok_iff.1 hread
      exact .full (Http.rankedShape_front_eq_ok_iff.1 hfront).choose_spec
    | suggest =>
      obtain ⟨text, hfront, rfl⟩ := h.map_read_eq_ok_iff.1 hread
      exact .suggest (Http.queryShape_front_eq_ok_iff.1 hfront).choose_spec
  · intro hasks
    cases hasks with
    | basic hholds => exact h.map_read_eq_ok_iff.2 ⟨_, Http.queryShape_front_eq_ok_iff.2 ⟨_, hholds⟩, rfl⟩
    | full hholds => exact h.map_read_eq_ok_iff.2 ⟨_, Http.rankedShape_front_eq_ok_iff.2 ⟨_, hholds⟩, rfl⟩
    | suggest hholds => exact h.map_read_eq_ok_iff.2 ⟨_, Http.queryShape_front_eq_ok_iff.2 ⟨_, hholds⟩, rfl⟩

/-- What a body asks for can be computed. -/
theorem toOption_read_eq_some_iff (h : request.Posts route.route) :
    (route.read request).toOption = some q ↔ route.Asks (Json.Symbol.ofBytes request.body) q := by
  rw [← read_eq_ok_iff h]
  cases route.read request with
  | error r => exact ⟨nofun, nofun⟩
  | ok q => exact ⟨fun h => congrArg Except.ok (Option.some.inj h), fun h => congrArg some (Except.ok.inj h)⟩

theorem malformed_of_read (h : request.Posts route.route) {r : Rejection} (hread : route.read request = .error r) :
    ∃ e, r = .malformed e := by
  cases route with
  | basic | full | suggest => exact h.malformed_of_map_read hread

end SearchRoute

/-! ## Answers -/

theorem Query.plan_looksUp (settings : Search.Settings) (hq : ∀ text, q ≠ .ranked text 0) :
    (q.plan settings).LooksUp := by
  cases q with
  | exact text => exact Search.exact_looksUp text
  | ranked text limit => exact Search.ranked_looksUp settings text fun h => hq text (h ▸ rfl)
  | suggest text => exact Search.suggest_looksUp settings text

/-- A search for no employee asks nothing of the stores. -/
theorem Query.consult_plan_ranked_zero (text : String) (told : Replies) (n : Nat) :
    ((Query.ranked text 0).plan settings).consult told n = (.error .zeroLimit, []) := rfl

namespace Service

theorem respondTo_map {α β : Type} (s : Service) (body : Except Rejection α) (f : α → β)
    (search : β → Plan SearchError (List Summary)) :
    s.respondTo (body.map f) search = s.respondTo body (search ∘ f) := by
  cases body <;> rfl

theorem serve_of_posts (s : Service) (h : request.Posts route.route) :
    s.serve request = s.respondTo (route.read request) (Query.plan s.settings) := by
  have hmethod : route.route.methods.contains "POST" := by cases route <;> decide
  simp only [serve, h.path, h.method, hmethod, if_true]
  cases route with
  | basic => exact (s.respondTo_map (request.read (.record queryShape)) Query.exact (Query.plan s.settings)).symm
  | full =>
    exact (s.respondTo_map (request.read (.record rankedShape)) (fun q => Query.ranked q.1 q.2)
      (Query.plan s.settings)).symm
  | suggest => exact (s.respondTo_map (request.read (.record queryShape)) Query.suggest (Query.plan s.settings)).symm

/-- **A search is answered by what it comes to**, unless a store crashes or holds it up, and takes nothing but permits. -/
theorem respond_of_looksUp (s : Service) {plan : Plan SearchError (List Summary)} (hplan : plan.LooksUp) : ∃ n,
    (s.call plan = (.result (plan.consult s.access.replies 0).1, s.withPermits n) ∧
      s.respond plan = (some (.ofSearch (plan.consult s.access.replies 0).1), s.withPermits n)) ∨
    (s.respond plan = (none, s.withPermits n) ∧ ∃ call ∈ s.access.faults.crashing, call.searches) ∨
      s.respond plan = (none, (s.withPermits n).settle) ∧ ∃ call ∈ s.access.gate.guarded, call.searches := by
  obtain ⟨n, hended | ⟨hcrashed, hcall⟩ | ⟨rest, hwaiting, hcall⟩⟩ := Access.advance_of_looksUp hplan s.access 0
  · have hresult : s.call plan = (.result (plan.consult s.access.replies 0).1, s.withPermits n) := by
      rw [call, hended]
      rfl
    refine ⟨n, .inl ⟨hresult, ?_⟩⟩
    rw [respond, hresult]
    cases (plan.consult s.access.replies 0).1 <;> rfl
  · refine ⟨n, .inr (.inl ⟨?_, hcall⟩)⟩
    rw [respond, call, hcrashed]
    rfl
  · refine ⟨n, .inr (.inr ⟨?_, hcall⟩)⟩
    rw [respond, call, hwaiting]
    rfl

end Service

namespace SearchRoute

theorem consult_of_read (hread : route.read request = .ok q) (settings : Search.Settings) (told : Replies) :
    route.consult request settings told =
      (.ofSearch ((q.plan settings).consult told 0).1, ((q.plan settings).consult told 0).2) := by
  rw [consult, hread]

theorem serve_of_read (h : request.Posts route.route) (hread : route.read request = .ok q) (s : Service) :
    s.serve request = s.respond (q.plan s.settings) := by
  rw [s.serve_of_posts h, hread]
  rfl

/-- Of a body that is rejected nothing gets to the stores. -/
theorem refuses_of_rejected (h : request.Posts route.route) {r : Rejection} (hread : route.read request = .error r) :
    route.Refuses request (Failure.rejected r).response := by
  refine ⟨fun settings told => ?_, fun s => ?_⟩
  · rw [consult, hread]
  · rw [s.serve_of_posts h, hread]
    rfl

theorem refuses_of_zero (h : request.Posts route.route) {text : String}
    (hread : route.read request = .ok (.ranked text 0)) :
    route.Refuses request (Failure.search .zeroLimit).response := by
  refine ⟨fun settings told => ?_, fun s => ?_⟩
  · rw [consult_of_read hread, Query.consult_plan_ranked_zero]
    rfl
  · rw [serve_of_read h hread]
    rfl

/-- **A search route refuses or searches.** A body that asks for nothing, or for no employee, is refused with nothing
asked of the stores, whatever they hold and whatever fails. Any other search is answered by what it finds, if none of its
requests fails, and otherwise by the error of the one that does. A service answers so too, unless a store crashes or holds
the search up. It is left as it was, but for the permits that the requests used up; while a search is held up, the jobs go
on. -/
theorem refused_or_searched (h : request.Posts route.route) :
    ((∀ q, ¬ route.Asks (Json.Symbol.ofBytes request.body) q) → ∃ e, route.read request = .error (.malformed e) ∧
      route.Refuses request ⟨400, .message s!"invalid request: {(Rejection.malformed e).message}"⟩) ∧
    (∀ text, route.Asks (Json.Symbol.ofBytes request.body) (.ranked text 0) →
      route.Refuses request ⟨400, .message "invalid request: limit must be a positive integer"⟩) ∧
    ∀ q, route.Asks (Json.Symbol.ofBytes request.body) q → (∀ text, q ≠ .ranked text 0) →
      (∀ settings told, ∃ result requests, (q.plan settings).consult told 0 = (result, requests) ∧
        (∀ r ∈ requests, r.call.searches) ∧
        ((∃ found, result = .ok found ∧ route.consult request settings told = (⟨200, .employees found⟩, requests) ∧
            ∀ e, ¬ told.Fails 0 requests e) ∨
          ∃ e, route.consult request settings told = (⟨500, .message s!"store error: {e.message}"⟩, requests) ∧
            ∀ e', told.Fails 0 requests e' ↔ e' = e)) ∧
      ∀ s : Service, ∃ n,
        (s.call (q.plan s.settings) =
            (.result ((q.plan s.settings).consult s.access.replies 0).1, s.withPermits n) ∧
          s.serve request = (some (route.consult request s.settings s.access.replies).1, s.withPermits n)) ∨
        (s.serve request = (none, s.withPermits n) ∧ ∃ call ∈ s.access.faults.crashing, call.searches) ∨
          s.serve request = (none, (s.withPermits n).settle) ∧ ∃ call ∈ s.access.gate.guarded, call.searches := by
  refine ⟨fun hnone => ?_, fun text hasks => refuses_of_zero h ((read_eq_ok_iff h).2 hasks), fun q hasks hq => ?_⟩
  · cases hread : route.read request with
    | ok q => exact absurd ((read_eq_ok_iff h).1 hread) (hnone q)
    | error r =>
      obtain ⟨e, rfl⟩ := malformed_of_read h hread
      exact ⟨e, rfl, refuses_of_rejected h hread⟩
  · have hread := (read_eq_ok_iff h).2 hasks
    refine ⟨fun settings told => ?_, fun s => ?_⟩
    · have hplan := q.plan_looksUp settings hq
      refine ⟨_, _, rfl, fun r hr => Plan.searches_of_mem_consult hplan told 0 hr, ?_⟩
      rw [consult_of_read hread]
      rcases Plan.consult_of_looksUp hplan told 0 with ⟨found, hfound, hnone⟩ | ⟨e, he, hfails⟩
      · exact .inl ⟨found, hfound, by rw [hfound]; rfl, hnone⟩
      · exact .inr ⟨e, by rw [he]; rfl, hfails⟩
    · rw [serve_of_read h hread, consult_of_read hread]
      exact s.respond_of_looksUp (q.plan_looksUp s.settings hq)

/-- Every key has a row, but the second request fails. -/
def brokenSecond : Replies
  | 1, _ => .error (.database "closed")
  | _, .lookup _ => .ok (some ["e1"])
  | _, _ => .error (.notFound "row")

def posted (uri body : String) : Http.Request where
  method := "POST"
  uri
  contentType := some "application/json"
  body := body.toUTF8

/-- A query that is given twice, a limit of zero in a record without names, and three words of which the second one
cannot be looked up. -/
theorem refused_or_searched_brokenSecond :
    let twice := posted "/v1/search/basic" "\x7b\"search_key\":\"anna\",\"search_key\":\"boris\"\x7d"
    let zero := posted "/v1/search/full?limit=5" "[\"anna\",0]"
    let words := posted "/v1/search/suggest" "\x7b\"search_key\":\"Anna Maria Orl\",\"limit\":0\x7d"
    (twice.Posts .basic ∧ zero.Posts .full ∧ words.Posts .suggest) ∧
      (∃ text, basic.Refuses twice ⟨400, .message text⟩) ∧
      full.Refuses zero ⟨400, .message "invalid request: limit must be a positive integer"⟩ ∧
      ∀ settings, suggest.consult words settings brokenSecond =
        (⟨500, .message "store error: database error: closed"⟩, [.lookup "anna", .lookup "maria"]) := by
  intro twice zero words
  have htwice : twice.Posts basic.route := ⟨rfl, by decide +kernel, by decide +kernel, by decide +kernel⟩
  have hzero : zero.Posts full.route := ⟨rfl, by decide +kernel, by decide +kernel, by decide +kernel⟩
  have hwords : words.Posts suggest.route := ⟨rfl, by decide +kernel, by decide +kernel, by decide +kernel⟩
  refine ⟨⟨htwice, hzero, hwords⟩, ?_, ?_, fun settings => ?_⟩
  · have hread : (basic.read twice).toOption = none := by decide +kernel
    have hnone : ∀ q, ¬ basic.Asks (Json.Symbol.ofBytes twice.body) q := fun q hasks => by
      rw [(toOption_read_eq_some_iff htwice).2 hasks] at hread
      cases hread
    obtain ⟨e, -, hrefuses⟩ := (refused_or_searched htwice).1 hnone
    exact ⟨_, hrefuses⟩
  · exact (refused_or_searched hzero).2.1 "anna" ((toOption_read_eq_some_iff hzero).1 (by decide +kernel))
  · have hasks : suggest.Asks (Json.Symbol.ofBytes words.body) (.suggest "Anna Maria Orl") :=
      (toOption_read_eq_some_iff hwords).1 (by decide +kernel)
    have htokens : Key.tokens "Anna Maria Orl" = ["anna", "maria", "orl"] := by decide +kernel
    have hconsult : ((Query.suggest "Anna Maria Orl").plan settings).consult brokenSecond 0 =
        (.error (.store (.database "closed")), [.lookup "anna", .lookup "maria"]) := by
      simp only [Query.plan, Search.suggest, htokens]
      rfl
    obtain ⟨result, requests, hplan, -, hanswer⟩ :=
      ((refused_or_searched hwords).2.2 _ hasks nofun).1 settings brokenSecond
    rw [hconsult] at hplan
    cases hplan
    rcases hanswer with ⟨found, hfound, -⟩ | ⟨e, hanswer, hfails⟩
    · cases hfound
    · obtain rfl := (hfails (.database "closed")).1 ⟨1, .lookup "maria", rfl, rfl⟩
      exact hanswer

end SearchRoute

end StaffIndex
