import ChatClient.Hook

/-
  Runs of one hook instance. An event is a user action (`select`: a `ConversationItem` click;
  `retry`: the error screen's button; `send`: `MessageInput.handleSend`), a new access token
  (`setAccessToken`, from the api client's token refresh, part_001), a timer firing, or an
  event the transport delivers to one socket. A new `conversationId` or `accessToken` gives
  the hook a new `connect`, so its effect re-runs: the cleanup `disconnect()`, then `connect()`
  of the new closure (`rerunEffect`). A click on the conversation already selected, or the
  same token again, changes no value the components read, and nothing re-renders. `step` is
  `none` when the browser cannot deliver the event: a timer that is not pending, `open` on a
  socket that is not CONNECTING, `message` on one that is not OPEN, `error` or `close` after
  the close event, and a close code other than 1006 on a socket that never opened; and on a
  click with an empty id (conversation ids are the server's, never empty). Nothing else is
  assumed about the order of events. Unmounting `ChatArea` is the chat page's (`Page`).
-/

namespace ChatClient

/-- The events of a run. -/
inductive Event
  | select (conversationId : String)
  | retry
  | fire (timer : Nat)
  | send (content : String) (input : SendInput)
  | opened (socket : Nat)
  | received (socket : Nat) (frame : WSIncomingMessage)
  | errored (socket : Nat)
  | closed (socket : Nat) (code : Nat)
  | setAccessToken (token : Option String)
  deriving DecidableEq, Repr

namespace Client

/-- A socket that never opened (failed by the server, or by `close()` while CONNECTING)
    reports 1006; any other socket may report any code. -/
def closeCodeOk (w : Socket) (code : Nat) : Bool :=
  (w.readyState ≠ .CONNECTING && !w.failed) || code = 1006

/-- `ChatArea` rendered with a new closure: the effect's cleanup `disconnect()`, then the
    effect `connect()` of the new closure. -/
def rerunEffect (c : Client) : Client := connect c.closure c.disconnect

/-- A click on conversation `id`: `setCurrentConversationId(id)`. The conversation already
    selected leaves the store as it was. Otherwise the mounted `ChatArea` gets the new
    `conversationId` and its hook's effect re-runs; with nothing selected, `ChatArea` mounts
    and its effect runs `connect()`. -/
def select (id : String) (c : Client) : Client :=
  if c.chat.currentConversationId = some id then c
  else
    let c' := { c with chat := c.chat.setCurrentConversationId (some id) }
    if c.mounted then c'.rerunEffect else connect c'.closure c'

/-- `setAccessToken(token)`: a new token re-runs the effect of a mounted `ChatArea`'s hook. -/
def setAccessToken (token : Option String) (c : Client) : Client :=
  if c.auth.accessToken = token then c
  else
    let c' := { c with auth := c.auth.setAccessToken token }
    if c.mounted then c'.rerunEffect else c'

/-- One event. -/
def step (MAX_USER_MESSAGE_LENGTH : Nat) (c : Client) : Event → Option Client
  | .select id => if id = "" then none else some (c.select id)
  | .retry => some (connect c.closure c)
  | .fire t =>
    match c.timers[t]? with
    | some tm =>
      if t ∈ c.pendingTimers then
        some (connect tm.callback { c with pendingTimers := c.pendingTimers.erase t })
      else none
    | none => none
  | .send content inp => some (handleSend MAX_USER_MESSAGE_LENGTH content inp c)
  | .opened i =>
    match c.sockets[i]? with
    | some w =>
      if w.readyState = .CONNECTING then
        some (onopen i w { c with sockets := c.sockets.modify (Socket.setReadyState .OPEN) i })
      else none
    | none => none
  | .received i msg =>
    match c.sockets[i]? with
    | some w => if w.readyState = .OPEN then some (onmessage i msg c) else none
    | none => none
  | .errored i =>
    match c.sockets[i]? with
    | some w => if w.readyState ≠ .CLOSED then some c.onerror else none
    | none => none
  | .closed i code =>
    match c.sockets[i]? with
    | some w =>
      if w.readyState ≠ .CLOSED ∧ closeCodeOk w code then
        some (onclose w code { c with sockets := c.sockets.modify (Socket.setReadyState .CLOSED) i })
      else none
    | none => none
  | .setAccessToken token => some (c.setAccessToken token)

/-- A run of events; `none` as soon as one cannot be delivered. -/
def exec (MAX_USER_MESSAGE_LENGTH : Nat) : Client → List Event → Option Client
  | c, [] => some c
  | c, e :: es => (c.step MAX_USER_MESSAGE_LENGTH e).bind (exec MAX_USER_MESSAGE_LENGTH · es)

/-- A signed-in auth store, for the concrete runs of the session modules. -/
def signedIn : AuthState := ⟨some ⟨"u1", "u1@example.com", "user1"⟩, some "token-1", true, true⟩

/-- Conversation `A` selected, its socket opened and authenticated. -/
def authenticated : List Event := [.select "A", .opened 0, .received 0 (.authSuccess "A")]

/-! ## What one event can do -/

section Inversion

variable {M : Nat} {c c' : Client}

theorem step_select {id : String} : c.step M (.select id) = some c' ↔ id ≠ "" ∧ c.select id = c' := by
  simp only [step]; split_ifs <;> simp_all

@[simp] theorem step_setAccessToken (token : Option String) :
    c.step M (.setAccessToken token) = some (c.setAccessToken token) := rfl

@[simp] theorem step_retry : c.step M .retry = some (c.connect c.closure) := rfl

@[simp] theorem step_send (content : String) (inp : SendInput) :
    c.step M (.send content inp) = some (c.handleSend M content inp) := rfl

theorem step_fire {t : Nat} : c.step M (.fire t) = some c' ↔
    ∃ tm, c.timers[t]? = some tm ∧ t ∈ c.pendingTimers ∧
      connect tm.callback { c with pendingTimers := c.pendingTimers.erase t } = c' := by
  simp only [step]; cases c.timers[t]? <;> simp

theorem step_opened {i : Nat} : c.step M (.opened i) = some c' ↔
    ∃ w, c.sockets[i]? = some w ∧ w.readyState = .CONNECTING ∧
      onopen i w { c with sockets := c.sockets.modify (Socket.setReadyState .OPEN) i } = c' := by
  simp only [step]; cases c.sockets[i]? <;> simp

theorem step_received {i : Nat} {msg : WSIncomingMessage} : c.step M (.received i msg) = some c' ↔
    ∃ w, c.sockets[i]? = some w ∧ w.readyState = .OPEN ∧ c.onmessage i msg = c' := by
  simp only [step]; cases c.sockets[i]? <;> simp

theorem step_errored {i : Nat} : c.step M (.errored i) = some c' ↔
    ∃ w, c.sockets[i]? = some w ∧ w.readyState ≠ .CLOSED ∧ c.onerror = c' := by
  simp only [step]; cases c.sockets[i]? <;> simp

theorem step_closed {i code : Nat} : c.step M (.closed i code) = some c' ↔
    ∃ w, c.sockets[i]? = some w ∧ w.readyState ≠ .CLOSED ∧ closeCodeOk w code = true ∧
      onclose w code { c with sockets := c.sockets.modify (Socket.setReadyState .CLOSED) i } = c' := by
  simp only [step]; cases c.sockets[i]? <;> simp [and_assoc]

end Inversion

/-! ## Clicks and new tokens -/

section Rerun

variable {P : Client → Prop}

/-- A property that `connect` and `disconnect` keep, and a new selection, is kept by a click. -/
theorem select_preserves (hconnect : ∀ cl c, P c → P (c.connect cl))
    (hdisconnect : ∀ c, P c → P c.disconnect)
    (hsel : ∀ c id, P c → P { c with chat := c.chat.setCurrentConversationId (some id) })
    {c : Client} (id : String) (hc : P c) : P (c.select id) := by
  unfold select rerunEffect; dsimp only
  split_ifs
  exacts [hc, hconnect _ _ (hdisconnect _ (hsel c id hc)), hconnect _ _ (hsel c id hc)]

/-- A property that `connect` and `disconnect` keep, and a new token, is kept by a new token. -/
theorem setAccessToken_preserves (hconnect : ∀ cl c, P c → P (c.connect cl))
    (hdisconnect : ∀ c, P c → P c.disconnect)
    (htoken : ∀ c t, P c → P { c with auth := c.auth.setAccessToken t })
    {c : Client} (t : Option String) (hc : P c) : P (c.setAccessToken t) := by
  unfold setAccessToken rerunEffect; dsimp only
  split_ifs
  exacts [hc, hconnect _ _ (hdisconnect _ (htoken c t hc)), htoken c t hc]

@[simp] theorem select_reconnectAttempts (id : String) (c : Client) :
    (c.select id).reconnectAttempts = c.reconnectAttempts := by
  unfold select rerunEffect; split_ifs <;> simp

@[simp] theorem select_timers (id : String) (c : Client) : (c.select id).timers = c.timers := by
  unfold select rerunEffect; split_ifs <;> simp

/-- A click puts `id` in the chat store, and changes nothing else of it. -/
@[simp] theorem select_chat (id : String) (c : Client) :
    (c.select id).chat = c.chat.setCurrentConversationId (some id) := by
  unfold select rerunEffect; split_ifs with h
  · rw [ChatState.setCurrentConversationId, ← h]
  all_goals simp

@[simp] theorem select_auth (id : String) (c : Client) : (c.select id).auth = c.auth := by
  unfold select rerunEffect; split_ifs <;> simp

@[simp] theorem setAccessToken_reconnectAttempts (t : Option String) (c : Client) :
    (c.setAccessToken t).reconnectAttempts = c.reconnectAttempts := by
  unfold setAccessToken rerunEffect; split_ifs <;> simp

@[simp] theorem setAccessToken_timers (t : Option String) (c : Client) :
    (c.setAccessToken t).timers = c.timers := by
  unfold setAccessToken rerunEffect; split_ifs <;> simp

@[simp] theorem setAccessToken_chat (t : Option String) (c : Client) :
    (c.setAccessToken t).chat = c.chat := by
  unfold setAccessToken rerunEffect; split_ifs <;> simp

end Rerun

section Runs

variable {M : Nat}

@[simp] theorem exec_nil (c : Client) : exec M c [] = some c := rfl

@[simp] theorem exec_cons (c : Client) (e : Event) (es : List Event) :
    exec M c (e :: es) = (c.step M e).bind (exec M · es) := rfl

theorem exec_append (c : Client) (es fs : List Event) :
    exec M c (es ++ fs) = (exec M c es).bind (exec M · fs) := by
  induction es generalizing c with
  | nil => rfl
  | cons e es ih => cases h : c.step M e <;> simp [h, ih]

/-- The last event of a run. -/
theorem exec_concat {c c' : Client} {es : List Event} {e : Event}
    (h : exec M c (es ++ [e]) = some c') : ∃ d, exec M c es = some d ∧ d.step M e = some c' := by
  rw [exec_append] at h
  obtain ⟨d, hd, h⟩ := Option.bind_eq_some.mp h
  exact ⟨d, hd, by simpa using h⟩

/-- A property that every step by an event satisfying `Q` keeps holds after every run of such
    events. -/
theorem exec_preserves (P : Client → Prop) (Q : Event → Prop)
    (hstep : ∀ c e c', Q e → P c → c.step M e = some c' → P c') :
    ∀ (es : List Event) (c c' : Client), (∀ e ∈ es, Q e) → P c → exec M c es = some c' → P c'
  | [], c, c', _, hc, h => by cases h; exact hc
  | e :: es, c, c', hq, hc, h => by
    obtain ⟨d, hd, h⟩ := Option.bind_eq_some.mp h
    exact exec_preserves P Q hstep es d c' (fun e he => hq e (.tail _ he))
      (hstep c e d (hq e (.head _)) hc hd) h

end Runs

end Client

end ChatClient
