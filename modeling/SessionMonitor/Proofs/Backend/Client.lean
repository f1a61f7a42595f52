import SessionMonitor.Backend.Client

/-!
# Requests of the client

What stands in the request for an operation.
-/

namespace SessionMonitor.Client

variable {client : Client} {operation : Operation} {request : HttpRequest}

theorem request?_fields (made : client.request? operation = some request) :
    Address.ofText? (client.url operation) = some request.address ∧
      request.posts = !operation.payload.isNothing ∧ request.body = operation.payload.text := by
  unfold request? at made
  obtain ⟨address, found, made⟩ := Option.bind_eq_some_iff.mp made
  dsimp only at made
  split at made
  · obtain ⟨authorization, -, made⟩ := Option.bind_eq_some_iff.mp made
    obtain rfl := Option.some.inj made
    exact ⟨found, rfl, rfl⟩
  · obtain rfl := Option.some.inj made
    exact ⟨found, rfl, rfl⟩

theorem request?_kill {ids : List SessionId} (made : client.request? (.kill ids) = some request) :
    Address.ofText? (client.baseUrl ++ "/kill") = some request.address ∧
      request.method = "POST" ∧
      request.body = (Json.object [("process_ids", .array (ids.map SessionId.json))]).compact := by
  obtain ⟨address, posts, body⟩ := request?_fields made
  refine ⟨address, ?_, body⟩
  rw [HttpRequest.method, posts]
  rfl

end SessionMonitor.Client
