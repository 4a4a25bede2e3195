import ChatClient.Session.Backoff

/-
  Error reports.

  The 4001 branch of `onclose` calls `setError` with `AUTH_FAILED` and then `reset()`, so the
  error it sets is gone when the handler returns (`authRejected_leaves_no_error`).

  After a `chat.error` frame on an OPEN current socket the status is `error`: `ChatArea`
  replaces `MessageInput` with the failure screen, whose retry button calls `connect()`, a
  no-op while `wsRef.current` is OPEN, and `handleSend` is disabled until the status is
  `connected` again. So neither user action changes the client (`exec_retryOrSend`), and no
  `chat.message` goes out on that socket again (`rateLimitError_blocks_resend`).
-/

namespace ChatClient

/-- The retry button and `MessageInput.handleSend`, the user actions of the error screen and of
    the chat view. -/
def Event.isRetryOrSend : Event → Bool
  | .retry | .send _ _ => true
  | _ => false

namespace Client

variable {M : Nat} {c : Client}

/-- The server rejects the token of the first socket and closes it with 4001. -/
theorem authRejected_leaves_no_error : ∀ M, ∃ c c',
    exec M (init signedIn) [.select "A", .opened 0] = some c ∧ c.wsRef = some 0 ∧
    c.step M (.closed 0 4001) = some c' ∧ c'.ws.status = .disconnected ∧ c'.ws.error = none ∧
    c'.reconnectAttempts = 0 ∧ c'.timers = [] :=
  fun _ => ⟨_, _, rfl, rfl, rfl, rfl, rfl, rfl, rfl⟩

/-- With status `error` and `wsRef.current` OPEN, the retry button and `handleSend` change
    nothing. -/
theorem step_retryOrSend (hs : c.ws.status = .error) (ho : c.currentOpen = true) {e : Event}
    (he : e.isRetryOrSend = true) : c.step M e = some c := by
  cases e with
  | retry => rw [step_retry, connect_of_currentOpen _ ho]
  | send content inp => rw [step_send, handleSend_of_not_canSend (by simp [canSend, hs])]
  | _ => simp [Event.isRetryOrSend] at he

theorem exec_retryOrSend (hs : c.ws.status = .error) (ho : c.currentOpen = true) :
    ∀ acts : List Event, (∀ a ∈ acts, a.isRetryOrSend = true) → exec M c acts = some c
  | [], _ => rfl
  | a :: acts, ha => by
    rw [exec_cons, step_retryOrSend hs ho (ha a (.head _))]
    exact exec_retryOrSend hs ho acts fun b hb => ha b (.tail _ hb)

/-- Conversation `A` authenticated; the server refuses a message for its rate. -/
theorem rateLimitError_blocks_resend : ∃ c c₁,
    exec 10000 (init signedIn) authenticated = some c ∧ c.ws.status = .connected ∧
    c.chat.isStreaming = false ∧ c.currentOpen = true ∧
    c.step 10000 (.received 0 (.chatError "Rate limit exceeded" .RATE_LIMIT_EXCEEDED)) = some c₁ ∧
    ∀ acts c₂, (∀ a ∈ acts, a.isRetryOrSend = true) → exec 10000 c₁ acts = some c₂ →
      (c₂.sockets[0]?).map (·.sent) = some [.auth "token-1"] := by
  refine ⟨_, _, rfl, rfl, rfl, rfl, rfl, fun acts _ ha h => ?_⟩
  rw [exec_retryOrSend ?_ ?_ acts ha] at h
  · cases h; rfl
  all_goals rfl

end Client

end ChatClient
