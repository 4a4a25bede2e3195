import ChatClient.Page
import ChatClient.View

/-
  The connection store and what `ChatArea` shows of it.

  Every writer of the connection store pairs its fields the same way: `setError` with an
  error also sets status `error`, the one `setError(null)` follows `setStatus("connected")`,
  `reset()` clears both, and `setStatus` is called only with `connecting`, `authenticating`
  and `connected`. So in every reachable state an `error` status carries an error, and the
  statuses `disconnected` and `connected` carry none (`WebSocketState.Consistent`, kept by
  every event: `consistent_step`).

  `ChatArea` tests `status === "error" || error` after the spinner branch. Under the invariant
  the second disjunct never decides: the failure screen is shown exactly when the status is
  `error` (`chatArea_fails_only_on_error`), and its description is the store's error message
  unless that message is empty.
-/

namespace ChatClient

namespace WebSocketState

/-- Status `error` carries an error; `disconnected` and `connected` carry none. -/
def Consistent (s : WebSocketState) : Prop :=
  (s.status = .error → s.error.isSome) ∧
    (s.status = .disconnected ∨ s.status = .connected → s.error = none)

theorem consistent_init : init.Consistent := ⟨nofun, fun _ => rfl⟩

theorem consistent_setError (e : StoreError) (s : WebSocketState) :
    (s.setError (some e)).Consistent :=
  ⟨fun _ => rfl, by simp⟩

/-- The statuses a connection attempt goes through keep the invariant whatever the error. -/
theorem consistent_setStatus (s : WebSocketState) {st : WSConnectionStatus}
    (hs : st = .connecting ∨ st = .authenticating) : (s.setStatus st).Consistent := by
  rcases hs with rfl | rfl <;> exact ⟨nofun, by simp⟩

/-- `auth.success`: `setStatus("connected")`, `setError(null)`, `setConversationId`. -/
theorem consistent_authSuccess (id : String) (s : WebSocketState) :
    (((s.setStatus .connected).setError none).setConversationId (some id)).Consistent :=
  ⟨by simp, fun _ => rfl⟩

end WebSocketState

namespace Client

variable {M : Nat} {c c' : Client}

theorem consistent_connect (h : c.ws.Consistent) (cl : Closure) : (c.connect cl).ws.Consistent := by
  rcases connect_ws cl c with hw | hw <;> rw [hw]
  exacts [h, WebSocketState.consistent_setStatus _ (.inl rfl)]

/-- `disconnect()` resets the store. -/
theorem consistent_disconnect (c : Client) : c.disconnect.ws.Consistent := by
  rw [disconnect_ws]; exact WebSocketState.consistent_init

theorem consistent_select (h : c.ws.Consistent) (id : String) : (c.select id).ws.Consistent :=
  select_preserves (P := fun d => d.ws.Consistent) (fun cl _ h => consistent_connect h cl)
    (fun d _ => consistent_disconnect d) (fun _ _ h => h) id h

/-- `onclose` leaves the store (a reconnect is scheduled) or resets it. -/
theorem onclose_ws (w : Socket) (code : Nat) (c : Client) :
    (c.onclose w code).ws = c.ws ∨ (c.onclose w code).ws = WebSocketState.init := by
  unfold onclose; dsimp only; split_ifs <;> simp

theorem consistent_onmessage (h : c.ws.Consistent) (i : Nat) (msg : WSIncomingMessage) :
    (c.onmessage i msg).ws.Consistent := by
  cases msg with
  | authSuccess id => exact WebSocketState.consistent_authSuccess id c.ws
  | chatError e code => exact WebSocketState.consistent_setError _ c.ws
  | _ => exact h

/-- No event breaks the connection store's invariant. -/
theorem consistent_step {e : Event} (hc : c.ws.Consistent) (h : c.step M e = some c') :
    c'.ws.Consistent := by
  cases e with
  | select id => obtain ⟨-, rfl⟩ := step_select.mp h; exact consistent_select hc id
  | setAccessToken t =>
    simp only [step_setAccessToken, Option.some.injEq] at h; subst h
    exact setAccessToken_preserves (P := fun d => d.ws.Consistent)
      (fun cl _ h => consistent_connect h cl) (fun d _ => consistent_disconnect d)
      (fun _ _ h => h) t hc
  | retry => simp only [step_retry, Option.some.injEq] at h; subst h; exact consistent_connect hc _
  | fire t =>
    obtain ⟨tm, -, -, rfl⟩ := step_fire.mp h
    exact consistent_connect (c := { c with pendingTimers := c.pendingTimers.erase t }) hc _
  | send content inp =>
    simp only [step_send, Option.some.injEq] at h; subst h
    rcases handleSend_cases M content inp c with h | ⟨i, -, h⟩ | h <;> rw [h] <;> exact hc
  | opened i =>
    obtain ⟨w, -, -, rfl⟩ := step_opened.mp h
    exact WebSocketState.consistent_setStatus _ (.inr rfl)
  | received i msg =>
    obtain ⟨w, -, -, rfl⟩ := step_received.mp h; exact consistent_onmessage hc i msg
  | errored i =>
    obtain ⟨w, -, -, rfl⟩ := step_errored.mp h; exact WebSocketState.consistent_setError _ _
  | closed i code =>
    obtain ⟨w, -, -, -, rfl⟩ := step_closed.mp h
    rcases onclose_ws w code { c with sockets := c.sockets.modify (Socket.setReadyState .CLOSED) i }
      with hw | hw <;> rw [hw]
    exacts [hc, WebSocketState.consistent_init]

end Client

section Screen

variable {ws : WebSocketState} {chat : ChatState} {messages : List Message} {loading : Bool}

/-- On a consistent store, `ChatArea` shows the failure screen exactly in status `error`, and
    describes it by the error's message, or by the fallback when that message is empty. -/
theorem chatAreaScreen_eq_failed (h : ws.Consistent) {d : String} :
    chatAreaScreen ws chat messages loading = .failed d ↔
      ∃ e, ws.status = .error ∧ ws.error = some e ∧
        d = if e.message ≠ "" then e.message else "無法連接到伺服器" := by
  obtain ⟨he, hn⟩ := h
  cases hs : ws.status
  case error =>
    obtain ⟨e, he⟩ := Option.isSome_iff_exists.mp (he hs)
    simp [chatAreaScreen, hs, he, eq_comm]
  all_goals simp_all [chatAreaScreen] <;> split_ifs <;> simp

/-- In every state a run of the chat page reaches from its mount, `ChatArea` shows the failure
    screen exactly in status `error`, and describes it by the stored error's message, or by the
    fallback when that message is empty: the test of `error` beside `status === "error"` never
    decides. -/
theorem chatArea_fails_only_on_error {M : Nat} {auth : AuthState} {es : List PageEvent} {p : Page}
    (h : Page.exec M (Page.init (Client.init auth)) es = some p) (messages : List Message)
    (loading : Bool) {d : String} :
    chatAreaScreen p.client.ws p.client.chat messages loading = .failed d ↔
      ∃ e, p.client.ws.status = .error ∧ p.client.ws.error = some e ∧
        d = if e.message ≠ "" then e.message else "無法連接到伺服器" :=
  chatAreaScreen_eq_failed <| Page.exec_preserves_stores (fun c => c.ws.Consistent) (fun _ => True)
    (fun _ _ h => h) (fun _ _ _ _ hc h => Client.consistent_step hc h)
    (fun _ _ => Client.consistent_disconnect _) (fun _ _ h => h)
    (fun _ id hc => Client.consistent_select hc id) es _ p (fun _ _ => trivial)
    WebSocketState.consistent_init h

/-- Conversation `A` authenticated, then the server rejects a message for its rate. -/
def rateLimited : List PageEvent :=
  (Client.authenticated ++
    ([.received 0 (.chatError "Rate limit exceeded" .RATE_LIMIT_EXCEEDED)] : List Event)).map
      PageEvent.client

theorem rateLimited_fails_with_message : ∃ p,
    Page.exec 2 (Page.init (Client.init Client.signedIn)) rateLimited = some p ∧
    chatAreaScreen p.client.ws p.client.chat [] false = .failed "Rate limit exceeded" ∧
    (chatAreaScreen p.client.ws p.client.chat [] false = .failed "Rate limit exceeded" ↔
      ∃ e, p.client.ws.status = .error ∧ p.client.ws.error = some e ∧
        "Rate limit exceeded" = if e.message ≠ "" then e.message else "無法連接到伺服器") :=
  ⟨_, rfl, rfl, @chatArea_fails_only_on_error 2 Client.signedIn rateLimited
    ((Page.exec 2 (Page.init (Client.init Client.signedIn)) rateLimited).getD
      (Page.init (Client.init Client.signedIn))) rfl [] false "Rate limit exceeded"⟩

end Screen

end ChatClient
