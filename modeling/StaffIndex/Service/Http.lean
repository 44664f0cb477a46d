import StaffIndex.Http.Message
import StaffIndex.Service.Basic

/-!
# The service over HTTP

Three routes search, one drains the queue and one reports its counts. A body that is rejected, and a limit of zero,
never reach the stores.
-/

namespace StaffIndex.Service

open Http

/-- The answer to a search. There is none if a store crashes or holds the search back. -/
def respond (s : Service) (plan : Plan SearchError (List Summary)) : Option Response × Service :=
  match s.call plan with
  | (.result (.ok found), s) => (some ⟨200, .employees found⟩, s)
  | (.result (.error e), s) => (some (Failure.search e).response, s)
  | (.crashed, s) => (none, s)
  | (.blocked, s) => (none, s)

/-- The answer to a search whose query has been read from a body. -/
def respondTo {α : Type} (s : Service) (body : Except Rejection α) (search : α → Plan SearchError (List Summary)) :
    Option Response × Service :=
  match body with
  | .error r => (some (Failure.rejected r).response, s)
  | .ok query => s.respond (search query)

def serveRoute (s : Service) (request : Http.Request) : Route → Option Response × Service
  | .basic => s.respondTo (request.read (.record queryShape)) Search.exact
  | .full => s.respondTo (request.read (.record rankedShape)) fun q => Search.ranked s.settings q.1 q.2
  | .suggest => s.respondTo (request.read (.record queryShape)) (Search.suggest s.settings)
  | .clearTasks => (some ⟨200, .drained s.queue.stats.tracked⟩, { s with queue := s.queue.drain })
  | .stats => (some ⟨200, if request.method = "HEAD" then .nothing else .stats s.queue.stats⟩, s)

/-- Answers a request: 404 for an unknown path, 405 for a method that the route does not answer to. -/
def serve (s : Service) (request : Http.Request) : Option Response × Service :=
  match Route.ofPath? request.path with
  | none => (some ⟨404, .nothing⟩, s)
  | some route =>
    if route.methods.contains request.method then s.serveRoute request route else (some ⟨405, .nothing⟩, s)

end StaffIndex.Service
