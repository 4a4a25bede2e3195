import ChatClient.Browser

/-
  `useWebSocket` (`hooks/useWebSocket.ts`) with the callbacks `ChatArea` passes to it and
  `MessageInput.handleSend`, over the whole client: the three stores, the refs of one
  instance of the hook (`Hook`), the sockets and timers that instance created, and the query
  cache. Each `ChatArea` that mounts gets an instance of its own, with `wsRef` null and the
  counter at 0 (`Hook.fresh`), and the stores are shared; the chat page holds the instances
  (`Page`), and `Client.withHook` puts one under the stores for its handlers to run.

  The hook's `connect` is a closure: its handlers, and the `connect` its `onclose` hands to
  `setTimeout`, keep the `conversationId` and `accessToken` of the render that created them,
  while `wsRef`, `reconnectAttempts` and `reconnectTimeoutRef` are shared by every closure of
  one hook instance. So each socket carries its own closure (`Socket.closure`), a timer the
  closure it calls, and a handler runs on whatever the shared refs hold when its event
  arrives. Socket and timer ids are positions in `sockets` and `timers`, which only grow.
  `ChatArea` passes no `onConnected` or `onDisconnected`; its `onStream` and `onError` are
  inlined below. The project builds with React Compiler (README), which memoizes those
  inline callbacks, so `connect` changes, and the hook's effect re-runs, only with
  `conversationId` or `accessToken`. `invalidateMessages` only marks a query stale, so it
  leaves the modelled cache (the keys it holds) unchanged.
-/

namespace ChatClient

/-- The client: stores, hook refs, and the browser's sockets and timers. `pendingTimers`
    are the timers neither fired nor cleared. -/
structure Client where
  auth : AuthState
  chat : ChatState
  ws : WebSocketState
  queryCache : List (List String)
  wsRef : Option Nat
  reconnectAttempts : Nat
  reconnectTimeoutRef : Option Nat
  sockets : List Socket
  timers : List Timer
  pendingTimers : List Nat
  deriving DecidableEq, Repr

/-- `∀ a ∈ l, P a` survives `l.modify f i` when `f` keeps `P` at position `i`. -/
theorem List.forall_mem_modify {α : Type} {P : α → Prop} {l : List α} {f : α → α} {i : Nat}
    (hl : ∀ a ∈ l, P a) (hf : ∀ a, l[i]? = some a → P (f a)) : ∀ a ∈ l.modify f i, P a := by
  intro a ha
  obtain ⟨n, hn⟩ := List.mem_iff_getElem?.mp ha
  simp only [List.getElem?_modify, Option.map_eq_map, Option.map_eq_some'] at hn
  obtain ⟨b, hb, rfl⟩ := hn
  split_ifs with h
  · exact hf b (h ▸ hb)
  · exact hl b (List.getElem?_mem hb)

/-- What belongs to one `useWebSocket` instance: its three refs, and the sockets and timers its
    `connect` created. Each `ChatArea` that mounts has one; the stores are shared. -/
structure Hook where
  wsRef : Option Nat
  reconnectAttempts : Nat
  reconnectTimeoutRef : Option Nat
  sockets : List Socket
  timers : List Timer
  pendingTimers : List Nat
  deriving DecidableEq, Repr

/-- The hook of a `ChatArea` that has just mounted: `useRef(null)`, `useRef(0)`, `useRef(null)`,
    and nothing created yet. -/
def Hook.fresh : Hook := ⟨none, 0, none, [], [], []⟩

/-- `maxReconnectAttempts`. -/
def maxReconnectAttempts : Nat := 3

/-- `Math.min(1000 * 2 ** attempts, 10000)`. -/
def backoffDelay (attempts : Nat) : Nat := Nat.min (1000 * Nat.pow 2 attempts) 10000

namespace Client

/-- A client before `ChatArea` mounts: no conversation selected, the stores at their initial
    values but the auth store, and no hook state yet. -/
def init (auth : AuthState) : Client :=
  ⟨auth, ChatState.init, WebSocketState.init, [], none, 0, none, [], [], []⟩

/-- The hook part of the client. -/
def hook (c : Client) : Hook :=
  ⟨c.wsRef, c.reconnectAttempts, c.reconnectTimeoutRef, c.sockets, c.timers, c.pendingTimers⟩

/-- The stores of `c` with the refs, sockets and timers of `h`: what the handlers of `h`'s
    sockets and timers read and write. -/
def withHook (h : Hook) (c : Client) : Client :=
  { c with wsRef := h.wsRef, reconnectAttempts := h.reconnectAttempts,
           reconnectTimeoutRef := h.reconnectTimeoutRef, sockets := h.sockets, timers := h.timers,
           pendingTimers := h.pendingTimers }

@[simp] theorem withHook_auth (h : Hook) (c : Client) : (c.withHook h).auth = c.auth := rfl
@[simp] theorem withHook_chat (h : Hook) (c : Client) : (c.withHook h).chat = c.chat := rfl
@[simp] theorem withHook_ws (h : Hook) (c : Client) : (c.withHook h).ws = c.ws := rfl
@[simp] theorem withHook_sockets (h : Hook) (c : Client) : (c.withHook h).sockets = h.sockets := rfl
@[simp] theorem hook_withHook (h : Hook) (c : Client) : (c.withHook h).hook = h := rfl
@[simp] theorem hook_sockets (c : Client) : c.hook.sockets = c.sockets := rfl
@[simp] theorem init_hook (auth : AuthState) : (init auth).hook = Hook.fresh := rfl

/-- `ChatPage` renders `ChatArea` while a conversation is selected. -/
def mounted (c : Client) : Bool := c.chat.currentConversationId.isSome

/-- The closure of the latest render: `ChatPage` hands `currentConversationId` to `ChatArea`,
    which hands it to `useWebSocket` with the auth store's token. -/
def closure (c : Client) : Closure := ⟨c.chat.currentConversationId, c.auth.accessToken⟩

/-- `readyState` of socket `i`. -/
def readyStateOf (c : Client) (i : Nat) : Option ReadyState := (c.sockets[i]?).map (·.readyState)

/-- `wsRef.current?.readyState === WebSocket.OPEN`. -/
def currentOpen (c : Client) : Bool :=
  match c.wsRef with
  | some i => c.readyStateOf i = some .OPEN
  | none => false

@[simp] theorem currentOpen_with_chat (chat : ChatState) (c : Client) :
    ({ c with chat } : Client).currentOpen = c.currentOpen := rfl

theorem wsRef_of_currentOpen {c : Client} (h : c.currentOpen = true) :
    ∃ i, c.wsRef = some i ∧ c.readyStateOf i = some .OPEN := by
  unfold currentOpen at h
  split at h
  · exact ⟨_, ‹_›, by simpa using h⟩
  · cases h

theorem lt_length_of_readyStateOf {c : Client} {s : Nat} {r : ReadyState}
    (h : c.readyStateOf s = some r) : s < c.sockets.length := by
  by_contra hs
  simp [readyStateOf, List.getElem?_eq_none_iff.mpr (by omega : c.sockets.length ≤ s)] at h

/-- Sending on a socket changes no ready state. -/
@[simp] theorem readyStateOf_modify_send (f : WSOutgoingMessage) (i s : Nat) (c : Client) :
    ({ c with sockets := c.sockets.modify (Socket.send f) i } : Client).readyStateOf s =
      c.readyStateOf s := by
  simp only [readyStateOf, List.getElem?_modify]
  cases c.sockets[s]? <;> simp; split_ifs <;> rfl

theorem readyStateOf_modify_ne {f : Socket → Socket} {i s : Nat} (h : i ≠ s) (c : Client) :
    ({ c with sockets := c.sockets.modify f i } : Client).readyStateOf s = c.readyStateOf s := by
  simp [readyStateOf, List.getElem?_modify_ne _ _ h]

/-- `connect` of closure `cl`. -/
def connect (cl : Closure) (c : Client) : Client :=
  match cl.conversationId, cl.accessToken with
  | some conv, some token =>
    if conv = "" ∨ token = "" then c
    else if c.currentOpen then c
    else { c with ws := c.ws.setStatus .connecting,
                  sockets := c.sockets ++ [Socket.create conv token],
                  wsRef := some c.sockets.length }
  | _, _ => c

@[simp] theorem connect_reconnectAttempts (cl : Closure) (c : Client) :
    (c.connect cl).reconnectAttempts = c.reconnectAttempts := by
  unfold connect; split <;> (try split_ifs) <;> rfl

@[simp] theorem connect_timers (cl : Closure) (c : Client) : (c.connect cl).timers = c.timers := by
  unfold connect; split <;> (try split_ifs) <;> rfl

@[simp] theorem connect_chat (cl : Closure) (c : Client) : (c.connect cl).chat = c.chat := by
  unfold connect; split <;> (try split_ifs) <;> rfl

@[simp] theorem connect_auth (cl : Closure) (c : Client) : (c.connect cl).auth = c.auth := by
  unfold connect; split <;> (try split_ifs) <;> rfl

/-- `connect` leaves the connection store, or sets status `connecting`. -/
theorem connect_ws (cl : Closure) (c : Client) :
    (c.connect cl).ws = c.ws ∨ (c.connect cl).ws = c.ws.setStatus .connecting := by
  unfold connect; split <;> (try split_ifs) <;> simp

/-- `connect` does nothing, or, for a closure with a conversation and a token and no OPEN
    `wsRef.current`, opens a socket for them and makes it current. -/
theorem connect_cases (cl : Closure) (c : Client) : c.connect cl = c ∨
    ∃ conv token, cl = ⟨some conv, some token⟩ ∧ conv ≠ "" ∧ token ≠ "" ∧
      c.currentOpen = false ∧ c.connect cl =
        { c with ws := c.ws.setStatus .connecting,
                 sockets := c.sockets ++ [Socket.create conv token],
                 wsRef := some c.sockets.length } := by
  unfold connect
  split
  · rename_i conv token hconv htoken
    split_ifs with hempty hopen
    · exact .inl rfl
    · exact .inl rfl
    · obtain ⟨hc, ht⟩ := not_or.mp hempty
      exact .inr ⟨conv, token, by cases cl; simp_all, hc, ht, by simpa using hopen, rfl⟩
  · exact .inl rfl

/-- `connect` is a no-op while `wsRef.current` is OPEN. -/
theorem connect_of_currentOpen (cl : Closure) {c : Client} (h : c.currentOpen = true) :
    c.connect cl = c := by
  unfold connect; split <;> simp [h]

/-- Otherwise, given a conversation and a token, it opens a socket and makes it current,
    whatever socket `wsRef.current` held. -/
theorem connect_creates {conv token : String} {c : Client} (hconv : conv ≠ "") (htoken : token ≠ "")
    (hopen : c.currentOpen = false) :
    c.connect ⟨some conv, some token⟩ =
      { c with ws := c.ws.setStatus .connecting, sockets := c.sockets ++ [Socket.create conv token],
               wsRef := some c.sockets.length } := by
  simp [connect, hconv, htoken, hopen]

/-- `connect` changes the ready state of no existing socket. -/
theorem readyStateOf_connect {s : Nat} {c : Client} (cl : Closure) (h : s < c.sockets.length) :
    (c.connect cl).readyStateOf s = c.readyStateOf s := by
  unfold connect; split <;> (try split_ifs) <;> simp [readyStateOf, List.getElem?_append_left h]

/-- `if (reconnectTimeoutRef.current) clearTimeout(reconnectTimeoutRef.current)`. -/
def clearTimeout : Option Nat → List Nat → List Nat
  | some t, pending => pending.erase t
  | none, pending => pending

/-- `if (wsRef.current) wsRef.current.close(1000)`. -/
def closeRef : Option Nat → List Socket → List Socket
  | some i, sockets => sockets.modify Socket.close i
  | none, sockets => sockets

@[simp] theorem length_closeRef (r : Option Nat) (sockets : List Socket) :
    (closeRef r sockets).length = sockets.length := by
  cases r <;> simp [closeRef]

/-- `disconnect`: cancel the timer in `reconnectTimeoutRef`, close `wsRef.current`, null both
    refs, `reset()` the connection store. -/
def disconnect (c : Client) : Client :=
  { c with pendingTimers := clearTimeout c.reconnectTimeoutRef c.pendingTimers,
           reconnectTimeoutRef := none,
           sockets := closeRef c.wsRef c.sockets,
           wsRef := none,
           ws := c.ws.reset }

@[simp] theorem disconnect_reconnectAttempts (c : Client) :
    c.disconnect.reconnectAttempts = c.reconnectAttempts := rfl

@[simp] theorem disconnect_timers (c : Client) : c.disconnect.timers = c.timers := rfl

@[simp] theorem disconnect_chat (c : Client) : c.disconnect.chat = c.chat := rfl

@[simp] theorem disconnect_auth (c : Client) : c.disconnect.auth = c.auth := rfl

@[simp] theorem disconnect_wsRef (c : Client) : c.disconnect.wsRef = none := rfl

@[simp] theorem disconnect_ws (c : Client) : c.disconnect.ws = WebSocketState.init := rfl

@[simp] theorem disconnect_sockets (c : Client) :
    c.disconnect.sockets = closeRef c.wsRef c.sockets := rfl

@[simp] theorem disconnect_pendingTimers (c : Client) :
    c.disconnect.pendingTimers = clearTimeout c.reconnectTimeoutRef c.pendingTimers := rfl

/-- `disconnect` moves `wsRef.current` to CLOSING, unless it is already closing or closed. -/
theorem readyStateOf_disconnect (s : Nat) (c : Client) : c.disconnect.readyStateOf s =
    if c.wsRef = some s then (c.readyStateOf s).map Socket.afterClose else c.readyStateOf s := by
  rcases hr : c.wsRef with _ | i
  · simp [readyStateOf, closeRef, hr]
  · by_cases his : i = s
    · subst his; simp [readyStateOf, closeRef, hr, Function.comp_def, Socket.close_readyState]
    · simp [readyStateOf, closeRef, hr, his, List.getElem?_modify_ne _ _ his]

/-- `sendMessage(content)`, with `streamId` for its `crypto.randomUUID()`: whether the frame
    was sent, and the client after. -/
def sendMessage (content streamId : String) (c : Client) : Bool × Client :=
  match c.wsRef with
  | some i =>
    if c.readyStateOf i = some .OPEN then
      (true, { c with chat := c.chat.startStreaming streamId,
                      sockets := c.sockets.modify (Socket.send (.chatMessage content)) i })
    else (false, c)
  | none => (false, c)

@[simp] theorem sendMessage_reconnectAttempts (content streamId : String) (c : Client) :
    (c.sendMessage content streamId).2.reconnectAttempts = c.reconnectAttempts := by
  unfold sendMessage; split <;> (try split_ifs) <;> rfl

@[simp] theorem sendMessage_timers (content streamId : String) (c : Client) :
    (c.sendMessage content streamId).2.timers = c.timers := by
  unfold sendMessage; split <;> (try split_ifs) <;> rfl

/-- `sendMessage` sends exactly when `wsRef.current` is OPEN, and then on that socket. -/
theorem sendMessage_spec (content streamId : String) (c : Client) :
    (c.currentOpen = true ∧ ∃ i, c.wsRef = some i ∧ c.sendMessage content streamId =
      (true, { c with chat := c.chat.startStreaming streamId,
                      sockets := c.sockets.modify (Socket.send (.chatMessage content)) i })) ∨
    (c.currentOpen = false ∧ c.sendMessage content streamId = (false, c)) := by
  unfold sendMessage currentOpen
  split <;> (try split_ifs) <;> simp_all

/-- `ws.onopen` of socket `i` (its record `w`): status `authenticating`, and the auth frame
    with the token of `w`'s closure. -/
def onopen (i : Nat) (w : Socket) (c : Client) : Client :=
  { c with ws := c.ws.setStatus .authenticating,
           sockets := c.sockets.modify (Socket.send (.auth w.accessToken)) i }

@[simp] theorem onopen_readyStateOf (i s : Nat) (w : Socket) (c : Client) :
    (c.onopen i w).readyStateOf s = c.readyStateOf s := readyStateOf_modify_send _ _ _ _

/-- The `chat.stream` case of `onmessage` on the chat store, before `onStream`:
    `if (message.content)` append, `if (message.done && message.message_id)` finish. -/
def streamFrame (content : String) (done : Bool) (messageId : Option String)
    (s : ChatState) : ChatState :=
  let s := if content ≠ "" then s.appendStreamContent content else s
  match done, messageId with
  | true, some id => if id ≠ "" then s.finishStreaming id else s
  | _, _ => s

/-- `ChatArea`'s `onStream`: a `done` frame clears the optimistic message. -/
def onStream (done : Bool) (s : ChatState) : ChatState :=
  if done then s.setPendingUserMessage none else s

/-- `ChatArea`'s `onError`. -/
def onError (s : ChatState) : ChatState :=
  (s.setPendingUserMessage none).clearStreaming

/-- `ws.onmessage` of socket `i`, on the frame as parsed. -/
def onmessage (i : Nat) (msg : WSIncomingMessage) (c : Client) : Client :=
  match msg with
  | .authSuccess conversationId =>
    { c with ws := ((c.ws.setStatus .connected).setError none).setConversationId (some conversationId),
             reconnectAttempts := 0 }
  | .chatStream content done messageId =>
    { c with chat := onStream done (streamFrame content done messageId c.chat) }
  | .chatError error code =>
    { c with ws := c.ws.setError (some ⟨error, code⟩), chat := onError c.chat.clearStreaming }
  | .ping => { c with sockets := c.sockets.modify (Socket.send .pong) i }
  | .unhandled => c

@[simp] theorem onmessage_timers (i : Nat) (msg : WSIncomingMessage) (c : Client) :
    (c.onmessage i msg).timers = c.timers := by
  cases msg <;> rfl

/-- Only the `ping` case of `onmessage` sends, a `pong` on the socket that delivered it. -/
theorem onmessage_sockets (i : Nat) (msg : WSIncomingMessage) (c : Client) :
    (c.onmessage i msg).sockets = c.sockets ∨
      (c.onmessage i msg).sockets = c.sockets.modify (Socket.send .pong) i := by
  cases msg <;> simp [onmessage]

@[simp] theorem onmessage_wsRef (i : Nat) (msg : WSIncomingMessage) (c : Client) :
    (c.onmessage i msg).wsRef = c.wsRef := by
  cases msg <;> rfl

@[simp] theorem onmessage_pendingTimers (i : Nat) (msg : WSIncomingMessage) (c : Client) :
    (c.onmessage i msg).pendingTimers = c.pendingTimers := by
  cases msg <;> rfl

@[simp] theorem onmessage_reconnectTimeoutRef (i : Nat) (msg : WSIncomingMessage) (c : Client) :
    (c.onmessage i msg).reconnectTimeoutRef = c.reconnectTimeoutRef := by
  cases msg <;> rfl

/-- Only `auth.success` touches the counter, and it resets it. -/
theorem onmessage_reconnectAttempts (i : Nat) (msg : WSIncomingMessage) (c : Client) :
    (c.onmessage i msg).reconnectAttempts = c.reconnectAttempts ∨
      ∃ id, msg = .authSuccess id ∧ (c.onmessage i msg).reconnectAttempts = 0 := by
  cases msg <;> simp [onmessage]

@[simp] theorem onmessage_readyStateOf (i s : Nat) (msg : WSIncomingMessage) (c : Client) :
    (c.onmessage i msg).readyStateOf s = c.readyStateOf s := by
  cases msg <;> simp only [onmessage, readyStateOf_modify_send] <;> rfl

theorem streamFrame_currentConversationId (content : String) (done : Bool)
    (messageId : Option String) (s : ChatState) :
    (streamFrame content done messageId s).currentConversationId = s.currentConversationId := by
  cases done <;> cases messageId <;> simp only [streamFrame] <;> split_ifs <;> rfl

/-- No handler of a frame changes the selected conversation. -/
@[simp] theorem onmessage_currentConversationId (i : Nat) (msg : WSIncomingMessage) (c : Client) :
    (c.onmessage i msg).chat.currentConversationId = c.chat.currentConversationId := by
  cases msg <;> simp [onmessage, onStream, onError, apply_ite, streamFrame_currentConversationId]

/-- `ws.onerror`. -/
def onerror (c : Client) : Client :=
  { c with ws := c.ws.setError (some ⟨"WebSocket connection error", .INTERNAL_ERROR⟩) }

/-- `ws.onclose` of a socket with record `w`, on a close event with `code`. -/
def onclose (w : Socket) (code : Nat) (c : Client) : Client :=
  let c := { c with wsRef := none, chat := c.chat.clearStreaming }
  if code = 4001 then
    { c with ws := (c.ws.setError (some ⟨"Authentication failed", .AUTH_FAILED⟩)).reset }
  else if code ≠ 1000 ∧ c.reconnectAttempts < maxReconnectAttempts then
    { c with reconnectAttempts := c.reconnectAttempts + 1,
             timers := c.timers ++ [⟨w.closure, backoffDelay (c.reconnectAttempts + 1)⟩],
             pendingTimers := c.pendingTimers ++ [c.timers.length],
             reconnectTimeoutRef := some c.timers.length }
  else { c with ws := c.ws.reset }

/-- Whichever socket closed, `onclose` nulls `wsRef.current` and drops the accumulator. -/
@[simp] theorem onclose_wsRef (w : Socket) (code : Nat) (c : Client) :
    (c.onclose w code).wsRef = none := by
  unfold onclose; dsimp only; split_ifs <;> rfl

@[simp] theorem onclose_streamingMessage (w : Socket) (code : Nat) (c : Client) :
    (c.onclose w code).chat.streamingMessage = none := by
  unfold onclose; dsimp only; split_ifs <;> rfl

@[simp] theorem onclose_sockets (w : Socket) (code : Nat) (c : Client) :
    (c.onclose w code).sockets = c.sockets := by
  unfold onclose; dsimp only; split_ifs <;> rfl

@[simp] theorem onclose_readyStateOf (w : Socket) (code s : Nat) (c : Client) :
    (c.onclose w code).readyStateOf s = c.readyStateOf s := by
  simp [readyStateOf]

@[simp] theorem onclose_currentConversationId (w : Socket) (code : Nat) (c : Client) :
    (c.onclose w code).chat.currentConversationId = c.chat.currentConversationId := by
  unfold onclose; dsimp only; split_ifs <;> rfl

/-- `onclose` keeps the counter and the timers, or, for a code other than 1000 and 4001 and
    below the cap, counts one more attempt and schedules one timer for the socket's closure. -/
theorem onclose_backoff (w : Socket) (code : Nat) (c : Client) :
    ((c.onclose w code).reconnectAttempts = c.reconnectAttempts ∧
      (c.onclose w code).timers = c.timers) ∨
    (code ≠ 1000 ∧ code ≠ 4001 ∧ c.reconnectAttempts < maxReconnectAttempts ∧
      (c.onclose w code).reconnectAttempts = c.reconnectAttempts + 1 ∧
      (c.onclose w code).timers = c.timers ++ [⟨w.closure, backoffDelay (c.reconnectAttempts + 1)⟩]) := by
  unfold onclose; dsimp only; split_ifs <;> simp_all

end Client

/-- What `MessageInput.handleSend` takes from outside the model: the two
    `crypto.randomUUID()` values, `new Date().toISOString()` and the selected model. -/
structure SendInput where
  messageId : String
  createdAt : String
  model : String
  streamId : String
  deriving DecidableEq, Repr

/-- The optimistic user message `handleSend` builds from the trimmed text. -/
def SendInput.pendingMessage (inp : SendInput) (trimmed : String) : Message :=
  ⟨inp.messageId, .user, trimmed, none, none, inp.model, inp.createdAt⟩

namespace Client

/-- `canSend` of `MessageInput`, on the text already trimmed. -/
def canSend (trimmed : String) (c : Client) : Bool :=
  c.ws.status = .connected && !c.chat.isStreaming && 0 < jsLength trimmed

/-- `MessageInput.handleSend` with textarea `content`, sending through `ChatArea.handleSend`
    (that is, `sendMessage`). `MAX_USER_MESSAGE_LENGTH` comes from `@/schemas`, which is not
    in the sources, so it is a parameter. -/
def handleSend (MAX_USER_MESSAGE_LENGTH : Nat) (content : String) (inp : SendInput)
    (c : Client) : Client :=
  let trimmed := jsTrim content
  if !c.canSend trimmed then c
  else if MAX_USER_MESSAGE_LENGTH < jsLength trimmed then c
  else
    let c := { c with chat := c.chat.setPendingUserMessage (some (inp.pendingMessage trimmed)) }
    let sent := c.sendMessage trimmed inp.streamId
    if sent.1 then sent.2 else { sent.2 with chat := sent.2.chat.setPendingUserMessage none }

@[simp] theorem handleSend_reconnectAttempts (M : Nat) (content : String) (inp : SendInput)
    (c : Client) : (c.handleSend M content inp).reconnectAttempts = c.reconnectAttempts := by
  unfold handleSend; dsimp only; split_ifs <;> simp

@[simp] theorem handleSend_timers (M : Nat) (content : String) (inp : SendInput) (c : Client) :
    (c.handleSend M content inp).timers = c.timers := by
  unfold handleSend; dsimp only; split_ifs <;> simp

/-- While `MessageInput` disables sending, `handleSend` does nothing. -/
theorem handleSend_of_not_canSend {M : Nat} {content : String} {inp : SendInput} {c : Client}
    (h : c.canSend (jsTrim content) = false) : c.handleSend M content inp = c := by
  simp [handleSend, h]

section Enabled

variable {M : Nat} {content : String} {inp : SendInput} {c : Client}
  (hcan : c.canSend (jsTrim content) = true) (hlen : jsLength (jsTrim content) ≤ M)
include hcan hlen

/-- Sending enabled and `wsRef.current` OPEN: the optimistic message is kept, the accumulator
    starts and the frame goes out on `wsRef.current`. -/
theorem handleSend_sends {i : Nat} (hi : c.wsRef = some i) (ho : c.currentOpen = true) :
    c.handleSend M content inp =
      { c with chat := (c.chat.setPendingUserMessage (some (inp.pendingMessage (jsTrim content)))).startStreaming inp.streamId,
               sockets := c.sockets.modify (Socket.send (.chatMessage (jsTrim content))) i } := by
  have hM : ¬ M < jsLength (jsTrim content) := by omega
  rcases sendMessage_spec (jsTrim content) inp.streamId
      { c with chat := c.chat.setPendingUserMessage (some (inp.pendingMessage (jsTrim content))) }
    with ⟨-, j, hj, hs⟩ | ⟨ho', -⟩
  · obtain rfl : j = i := Option.some.inj (hj.symm.trans hi)
    dsimp only [handleSend]; rw [if_neg (by simp [hcan]), if_neg hM, hs]; rfl
  · rw [currentOpen_with_chat, ho] at ho'; cases ho'

/-- Sending enabled but `wsRef.current` not OPEN: nothing goes out and the optimistic message
    is taken back. -/
theorem handleSend_undoes (ho : c.currentOpen = false) :
    c.handleSend M content inp = { c with chat := c.chat.setPendingUserMessage none } := by
  have hM : ¬ M < jsLength (jsTrim content) := by omega
  rcases sendMessage_spec (jsTrim content) inp.streamId
      { c with chat := c.chat.setPendingUserMessage (some (inp.pendingMessage (jsTrim content))) }
    with ⟨ho', -⟩ | ⟨-, hs⟩
  · simp_all
  · dsimp only [handleSend]; rw [if_neg (by simp [hcan]), if_neg hM, hs]; rfl

end Enabled

/-- `handleSend` does nothing, or sends on the OPEN `wsRef.current`, or takes back its
    optimistic message. -/
theorem handleSend_cases (M : Nat) (content : String) (inp : SendInput) (c : Client) :
    c.handleSend M content inp = c ∨
    (∃ i, c.wsRef = some i ∧ c.handleSend M content inp =
      { c with chat := (c.chat.setPendingUserMessage (some (inp.pendingMessage (jsTrim content)))).startStreaming inp.streamId,
               sockets := c.sockets.modify (Socket.send (.chatMessage (jsTrim content))) i }) ∨
    c.handleSend M content inp = { c with chat := c.chat.setPendingUserMessage none } := by
  cases hcan : c.canSend (jsTrim content)
  · exact .inl (handleSend_of_not_canSend hcan)
  by_cases hlen : M < jsLength (jsTrim content)
  · exact .inl (by simp [handleSend, hcan, hlen])
  cases ho : c.currentOpen
  · exact .inr (.inr (handleSend_undoes hcan (by omega) ho))
  · obtain ⟨i, hi, -⟩ := wsRef_of_currentOpen ho
    exact .inr (.inl ⟨i, hi, handleSend_sends hcan (by omega) hi ho⟩)


@[simp] theorem handleSend_readyStateOf (M : Nat) (content : String) (inp : SendInput) (s : Nat)
    (c : Client) : (c.handleSend M content inp).readyStateOf s = c.readyStateOf s := by
  rcases handleSend_cases M content inp c with h | ⟨i, -, h⟩ | h <;> rw [h]
  · exact readyStateOf_modify_send _ _ _ _
  · rfl

@[simp] theorem handleSend_currentConversationId (M : Nat) (content : String) (inp : SendInput)
    (c : Client) :
    (c.handleSend M content inp).chat.currentConversationId = c.chat.currentConversationId := by
  rcases handleSend_cases M content inp c with h | ⟨i, -, h⟩ | h <;> rw [h] <;> rfl

/-- `useLogout`'s `onSettled`: `logout()` then `queryClient.clear()`. -/
def onSettled (c : Client) : Client :=
  { c with auth := c.auth.logout, queryCache := [] }

end Client

end ChatClient
