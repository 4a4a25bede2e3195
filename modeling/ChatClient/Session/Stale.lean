import ChatClient.Session.Backoff

/-
  Events of sockets that are no longer `wsRef.current`.

  No handler of `useWebSocket` checks that its socket is still `wsRef.current`, and the close
  event of a socket that the effect's `disconnect()` closed always arrives after the effect's
  `connect()` has made the next socket current. The close event of any socket nulls
  `wsRef.current`, drops the accumulator and, below the cap, schedules a reconnect with the
  closed socket's own closure (`onclose_backoff`); `disconnect` closes no socket but
  `wsRef.current` and cancels no timer but `reconnectTimeoutRef`. Runs from a signed-in
  client show what follows:
  * `staleClose_clobbers_current`: switching conversations while the first socket is still
    connecting; its 1006 close nulls the new socket's `wsRef` and schedules a reconnect to the
    first conversation;
  * `staleTimer_sends_to_hidden_conversation`: that timer opens and authenticates a socket
    for the first conversation while the second is displayed, and the next message goes there;
  * `orphan_survives_disconnect`: a socket nulled out of `wsRef` stays live through the next
    `disconnect`, and so does a second pending reconnect timer.
  `MAX_USER_MESSAGE_LENGTH` is `M + 2`, any value that admits the two-character message.
-/

namespace ChatClient.Client

/-- A switch to `B` while the socket for `A` is still connecting. -/
def switchWhileConnecting : List Event := [.select "A", .select "B"]

theorem staleClose_clobbers_current : ∀ M, ∃ c c',
    exec M (init signedIn) switchWhileConnecting = some c ∧ c.wsRef = some 1 ∧
    c.step M (.closed 0 1006) = some c' ∧ c'.wsRef = none ∧ c'.reconnectAttempts = 1 ∧
    c'.timers = [⟨⟨some "A", some "token-1"⟩, 2000⟩] ∧ c'.pendingTimers = [0] :=
  fun _ => ⟨_, _, rfl, rfl, rfl, rfl, rfl, rfl, rfl⟩

/-- The run above, then socket 1 authenticates for `B`, the reconnect for `A` fires, its
    socket authenticates, and the user sends "hi". -/
def staleTimer : List Event :=
  switchWhileConnecting ++
    [.closed 0 1006, .opened 1, .received 1 (.authSuccess "B"), .fire 0, .opened 2,
      .received 2 (.authSuccess "A"), .send "hi" ⟨"m1", "t0", "gpt-4o", "s1"⟩]

theorem staleTimer_sends_to_hidden_conversation : ∀ M, ∃ c,
    exec (M + 2) (init signedIn) staleTimer = some c ∧
    c.chat.currentConversationId = some "B" ∧ c.ws.status = .connected ∧
    c.ws.conversationId = some "A" ∧ c.wsRef = some 2 ∧
    (c.sockets[2]?).map (fun w => (w.conversationId, w.sent)) =
      some ("A", [.auth "token-1", .chatMessage "hi"]) :=
  fun _ => ⟨_, rfl, rfl, rfl, rfl, rfl, rfl⟩

/-- Two stale 1006 closes: the reconnect for `A` opens socket 2 and a switch to `C` closes it
    and opens socket 3; socket 2's close nulls socket 3 out of `wsRef`, and the close of
    socket 1 (for `B`, orphaned since the first close) schedules a second timer. -/
def orphanRun : List Event :=
  switchWhileConnecting ++ [.closed 0 1006, .fire 0, .select "C", .closed 2 1006, .closed 1 1006]

theorem orphan_survives_disconnect : ∀ M, ∃ c c',
    exec M (init signedIn) orphanRun = some c ∧ c.wsRef = none ∧ c.pendingTimers = [1, 2] ∧
    c.step M (.select "D") = some c' ∧ c'.wsRef = some 4 ∧ c'.pendingTimers = [1] ∧
    (c'.sockets[3]?).map (fun w => (w.conversationId, w.readyState, w.failed)) =
      some ("C", .CONNECTING, false) :=
  fun _ => ⟨_, _, rfl, rfl, rfl, rfl, rfl, rfl, rfl⟩

end ChatClient.Client
