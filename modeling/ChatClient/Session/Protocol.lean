import Mathlib.Algebra.BigOperators.Group.List
import ChatClient.Page

/-
  The frames the client sends on each socket.

  The backend authenticates a socket in band: the first frame on it must be `auth` with the
  access token. `Socket.WireOk` says what every socket of the client has sent: before its
  `onopen` nothing, and it is not OPEN; from its `onopen` on, first the `auth` frame with the
  token of its own closure, then only `pong`s and `chat.message`s whose content is trimmed,
  non-empty and within `MAX_USER_MESSAGE_LENGTH` UTF-16 units, never a second `auth`.

  One lemma per socket operation (`create`, `close()`, the browser's ready-state changes,
  `send`) and one per hook function that touches sockets (`connect`, `disconnect`,
  `handleSend`, the `ping` case of `onmessage`) give the step lemma `wireOk_step` for every
  event. Every run of the chat page keeps it for the sockets of every hook, those of the
  `ChatArea`s that unmounted included (`sockets_authenticate_first`), whatever the order in
  which the events of the sockets, the timers, the user and the requests interleave. Stale
  sockets and timers (the defects of `Session.Stale`) send on no other socket's behalf: each
  socket carries its own token in its `auth`.

  Requests. `MessageInput` sends only while no stream is in flight, and a sent
  `chat.message` starts one; only `finishStreaming` and `clearStreaming` end it, and they run
  on a finishing `chat.stream` frame, a `chat.error` frame or a close event of any socket of
  any hook (`Event.releases`). So over any run of the page without such an event the hooks
  send at most one `chat.message` between them (`one_request_in_flight`). Since the
  accumulator is shared by all sockets, the release may come from a socket other than the one
  the request went out on.
-/

namespace ChatClient

/-- A frame allowed after the opening `auth`: a `pong`, or a `chat.message` whose content is
    its own `trim()`, non-empty and at most `MAX_USER_MESSAGE_LENGTH` UTF-16 units. -/
def WSOutgoingMessage.AfterAuth (MAX_USER_MESSAGE_LENGTH : Nat) : WSOutgoingMessage → Prop
  | .auth _ => False
  | .chatMessage content =>
    jsTrim content = content ∧ 0 < jsLength content ∧ jsLength content ≤ MAX_USER_MESSAGE_LENGTH
  | .pong => True

/-- `chat.message` frames. -/
def WSOutgoingMessage.isChatMessage : WSOutgoingMessage → Bool
  | .chatMessage _ => true
  | _ => false

/-- The events after which the client may start its next request: `finishStreaming` (a
    `chat.stream` frame with `done` and a non-empty `message_id`) and `clearStreaming` (a
    `chat.error` frame, and any close event), on any socket. -/
def Event.releases : Event → Bool
  | .received _ (.chatStream _ true (some id)) => id ≠ ""
  | .received _ (.chatError _ _) => true
  | .closed _ _ => true
  | _ => false

/-- Only the events of a hook release; a request's success does not. -/
def PageEvent.releases : PageEvent → Bool
  | .client e | .unmounted _ e => e.releases
  | _ => false

/-- The `chat.message` frames sent on a list of sockets. -/
def chatFrameCount : List Socket → Nat
  | [] => 0
  | w :: ws => w.sent.countP WSOutgoingMessage.isChatMessage + chatFrameCount ws

theorem chatFrameCount_append (ws : List Socket) (w : Socket) :
    chatFrameCount (ws ++ [w]) =
      chatFrameCount ws + w.sent.countP WSOutgoingMessage.isChatMessage := by
  induction ws with
  | nil => simp [chatFrameCount]
  | cons v ws ih => simp [chatFrameCount, ih]; omega

/-- Updating socket `i` by an `f` that adds `k` chat frames to any socket. -/
theorem chatFrameCount_modify {f : Socket → Socket} {k : Nat}
    (hf : ∀ w, (f w).sent.countP WSOutgoingMessage.isChatMessage =
      w.sent.countP WSOutgoingMessage.isChatMessage + k) :
    ∀ (ws : List Socket) (i : Nat),
      chatFrameCount (ws.modify f i) = chatFrameCount ws + if i < ws.length then k else 0
  | [], _ => by simp [chatFrameCount]
  | w :: ws, 0 => by simp only [List.modify_zero_cons, chatFrameCount, hf]; simp; omega
  | w :: ws, i + 1 => by
    rw [List.modify_succ_cons, chatFrameCount, chatFrameCount, chatFrameCount_modify hf ws i,
      List.length_cons]
    simp only [Nat.add_lt_add_iff_right]
    omega

theorem countP_send (f : WSOutgoingMessage) (w : Socket) :
    (w.send f).sent.countP WSOutgoingMessage.isChatMessage =
      w.sent.countP WSOutgoingMessage.isChatMessage + if f.isChatMessage then 1 else 0 := by
  simp [List.countP_singleton]

/-- `onStream` leaves the flag of the accumulator. -/
@[simp] theorem isStreaming_onStream (done : Bool) (s : ChatState) :
    (Client.onStream done s).isStreaming = s.isStreaming := by
  unfold Client.onStream; split_ifs <;> rfl

/-- A `chat.stream` frame that is not a release leaves the flag of the accumulator. -/
theorem isStreaming_streamFrame {content : String} {done : Bool} {messageId : Option String}
    (h : ∀ id, done = true → messageId = some id → id = "") (s : ChatState) :
    (Client.streamFrame content done messageId s).isStreaming = s.isStreaming := by
  have happ : ((if content ≠ "" then s.appendStreamContent content else s)).isStreaming =
      s.isStreaming := by
    split_ifs
    · simp only [ChatState.appendStreamContent, ChatState.isStreaming]
      cases s.streamingMessage <;> rfl
    · rfl
  unfold Client.streamFrame
  cases done <;> cases messageId with
  | some id => simp_all
  | none => exact happ

namespace Socket

/-- What a socket has sent, as the in-band authentication reads it: nothing, on a socket that
    is not OPEN; or, on one that left CONNECTING, the `auth` frame with the socket's own token
    followed by frames allowed after it. -/
def WireOk (M : Nat) (w : Socket) : Prop :=
  (w.sent = [] ∧ w.readyState ≠ .OPEN) ∨
  (w.readyState ≠ .CONNECTING ∧
    ∃ rest, w.sent = .auth w.accessToken :: rest ∧ ∀ f ∈ rest, f.AfterAuth M)

variable {M : Nat} {w : Socket}

theorem wireOk_create (conversationId accessToken : String) :
    (create conversationId accessToken).WireOk M :=
  .inl ⟨rfl, nofun⟩

/-- A change of ready state that neither reaches OPEN nor returns to CONNECTING keeps
    `WireOk`. -/
theorem WireOk.of_readyState {w' : Socket} (h : w.WireOk M) (hs : w'.sent = w.sent)
    (ht : w'.accessToken = w.accessToken) (ho : w'.readyState = .OPEN → w.readyState = .OPEN)
    (hc : w'.readyState = .CONNECTING → w.readyState = .CONNECTING) : w'.WireOk M := by
  rcases h with ⟨h1, h2⟩ | ⟨h1, rest, h2, h3⟩
  · exact .inl ⟨hs.trans h1, mt ho h2⟩
  · exact .inr ⟨mt hc h1, rest, by rw [hs, ht, h2], h3⟩

/-- `close()` moves OPEN and CONNECTING to CLOSING. -/
theorem WireOk.close (h : w.WireOk M) : w.close.WireOk M := by
  refine h.of_readyState w.close_sent w.close_accessToken ?_ ?_ <;>
    (rw [close_readyState]; cases w.readyState <;> simp [afterClose])

/-- The close event: CLOSED is neither OPEN nor CONNECTING. -/
theorem WireOk.setClosed (h : w.WireOk M) : (w.setReadyState .CLOSED).WireOk M :=
  h.of_readyState rfl rfl nofun nofun

/-- A frame allowed after `auth`, sent on an OPEN socket. -/
theorem WireOk.send {f : WSOutgoingMessage} (h : w.WireOk M) (ho : w.readyState = .OPEN)
    (hf : f.AfterAuth M) : (w.send f).WireOk M := by
  rcases h with ⟨-, h2⟩ | ⟨h1, rest, h2, h3⟩
  · exact absurd ho h2
  · refine .inr ⟨h1, rest ++ [f], by simp [h2], fun g hg => ?_⟩
    rcases List.mem_append.mp hg with hg | hg
    exacts [h3 g hg, (List.mem_singleton.mp hg) ▸ hf]

/-- The open event and `onopen`: a CONNECTING socket becomes OPEN and sends `auth` with its
    own token as its first frame. -/
theorem WireOk.opened (h : w.WireOk M) (hc : w.readyState = .CONNECTING) :
    ((w.setReadyState .OPEN).send (.auth w.accessToken)).WireOk M := by
  rcases h with ⟨h1, -⟩ | ⟨h1, -⟩
  · exact .inr ⟨nofun, [], by simp [h1], nofun⟩
  · exact absurd hc h1

end Socket

namespace Client

/-- Every socket of the client satisfies `Socket.WireOk`. -/
def WireOk (M : Nat) (c : Client) : Prop := ∀ w ∈ c.sockets, w.WireOk M

variable {M : Nat} {c c' : Client}

theorem wireOk_init (auth : AuthState) : (init auth).WireOk M := nofun

theorem WireOk.of_sockets (h : c.WireOk M) (hs : c'.sockets = c.sockets) : c'.WireOk M :=
  fun w hw => h w (hs ▸ hw)

theorem WireOk.connect (h : c.WireOk M) (cl : Closure) : (c.connect cl).WireOk M := by
  unfold Client.connect
  split <;> (try split_ifs) <;> try exact h
  intro w hw
  rcases List.mem_append.mp hw with hw | hw
  exacts [h w hw, (List.mem_singleton.mp hw) ▸ Socket.wireOk_create _ _]

theorem WireOk.disconnect (h : c.WireOk M) : c.disconnect.WireOk M := by
  intro w hw
  rw [disconnect_sockets] at hw
  cases hr : c.wsRef with
  | none => exact h w (by simpa [closeRef, hr] using hw)
  | some i =>
    rw [hr, closeRef] at hw
    exact List.forall_mem_modify h (fun v hv => (h v (List.getElem?_mem hv)).close) w hw

theorem WireOk.select (h : c.WireOk M) (id : String) : (c.select id).WireOk M :=
  select_preserves (fun cl _ h => h.connect cl) (fun _ h => h.disconnect) (fun _ _ h => h) id h

theorem WireOk.setAccessToken (h : c.WireOk M) (t : Option String) :
    (c.setAccessToken t).WireOk M :=
  setAccessToken_preserves (fun cl _ h => h.connect cl) (fun _ h => h.disconnect)
    (fun _ _ h => h) t h

/-- `handleSend` with the guards of the branch that sends: nothing happens, or the trimmed
    text goes out on the OPEN `wsRef.current` while sending is enabled, or the optimistic
    message is taken back. -/
theorem handleSend_guarded (M : Nat) (content : String) (inp : SendInput) (c : Client) :
    c.handleSend M content inp = c ∨
    (c.canSend (jsTrim content) = true ∧ jsLength (jsTrim content) ≤ M ∧
      ∃ i, c.wsRef = some i ∧ c.readyStateOf i = some .OPEN ∧ c.handleSend M content inp =
        { c with
          chat := (c.chat.setPendingUserMessage
            (some (inp.pendingMessage (jsTrim content)))).startStreaming inp.streamId,
          sockets := c.sockets.modify (Socket.send (.chatMessage (jsTrim content))) i }) ∨
    c.handleSend M content inp = { c with chat := c.chat.setPendingUserMessage none } := by
  cases hcan : c.canSend (jsTrim content)
  · exact .inl (handleSend_of_not_canSend hcan)
  by_cases hlen : M < jsLength (jsTrim content)
  · exact .inl (by simp [handleSend, hcan, hlen])
  cases ho : c.currentOpen
  · exact .inr (.inr (handleSend_undoes hcan (by omega) ho))
  · obtain ⟨i, hi, hio⟩ := wsRef_of_currentOpen ho
    exact .inr (.inl ⟨rfl, by omega, i, hi, hio, handleSend_sends hcan (by omega) hi ho⟩)

/-- The sockets after `handleSend`: unchanged, or the trimmed text sent on an OPEN socket as a
    frame allowed after `auth`. -/
theorem handleSend_sockets (M : Nat) (content : String) (inp : SendInput) (c : Client) :
    (c.handleSend M content inp).sockets = c.sockets ∨
    ∃ i, c.readyStateOf i = some .OPEN ∧
      (WSOutgoingMessage.chatMessage (jsTrim content)).AfterAuth M ∧
      (c.handleSend M content inp).sockets =
        c.sockets.modify (Socket.send (.chatMessage (jsTrim content))) i := by
  rcases handleSend_guarded M content inp c with h | ⟨hcan, hlen, i, -, hio, h⟩ | h <;> rw [h]
  · exact .inl rfl
  · have hpos : 0 < jsLength (jsTrim content) := by simp [canSend] at hcan; exact hcan.2
    exact .inr ⟨i, hio, ⟨jsTrim_jsTrim content, hpos, hlen⟩, rfl⟩
  · exact .inl rfl

/-- A frame allowed after `auth`, sent on socket `i` while it is OPEN. -/
theorem WireOk.send {i : Nat} {f : WSOutgoingMessage} (h : c.WireOk M)
    (ho : ∀ w, c.sockets[i]? = some w → w.readyState = .OPEN) (hf : f.AfterAuth M) :
    ∀ w ∈ c.sockets.modify (Socket.send f) i, w.WireOk M :=
  List.forall_mem_modify h fun v hv => (h v (List.getElem?_mem hv)).send (ho v hv) hf

/-- No event breaks `WireOk`. -/
theorem wireOk_step {e : Event} (hc : c.WireOk M) (h : c.step M e = some c') : c'.WireOk M := by
  cases e with
  | select id => obtain ⟨-, rfl⟩ := step_select.mp h; exact hc.select id
  | setAccessToken t =>
    simp only [step_setAccessToken, Option.some.injEq] at h; subst h; exact hc.setAccessToken t
  | retry => simp only [step_retry, Option.some.injEq] at h; subst h; exact hc.connect _
  | fire t =>
    obtain ⟨tm, -, -, rfl⟩ := step_fire.mp h
    exact WireOk.connect (c := { c with pendingTimers := c.pendingTimers.erase t }) hc _
  | send content inp =>
    simp only [step_send, Option.some.injEq] at h; subst h
    rcases handleSend_sockets M content inp c with hs | ⟨i, ho, hf, hs⟩
    · exact hc.of_sockets hs
    · rw [WireOk, hs]
      exact hc.send (fun v hv => by simpa [readyStateOf, hv] using ho) hf
  | opened i =>
    obtain ⟨w, hw, hcw, rfl⟩ := step_opened.mp h
    show ∀ v ∈ (c.sockets.modify _ i).modify _ i, _
    rw [List.modify_modify_eq]
    refine List.forall_mem_modify hc fun v hv => ?_
    obtain rfl := Option.some.inj (hv.symm.trans hw)
    exact (hc v (List.getElem?_mem hv)).opened hcw
  | received i msg =>
    obtain ⟨w, hw, ho, rfl⟩ := step_received.mp h
    rcases onmessage_sockets i msg c with hs | hs
    · exact hc.of_sockets hs
    · rw [WireOk, hs]
      exact hc.send (fun v hv => Option.some.inj (hv.symm.trans hw) ▸ ho) trivial
  | errored i => obtain ⟨w, -, -, rfl⟩ := step_errored.mp h; exact hc
  | closed i code =>
    obtain ⟨w, -, -, -, rfl⟩ := step_closed.mp h
    refine WireOk.of_sockets ?_ (onclose_sockets w code _)
    exact List.forall_mem_modify hc fun v hv => (hc v (List.getElem?_mem hv)).setClosed

/-! ## One request in flight -/

/-- The `chat.message` frames the client has sent, over all its sockets. -/
def chatFrames (c : Client) : Nat := chatFrameCount c.sockets

@[simp] theorem chatFrames_connect (cl : Closure) (c : Client) :
    (c.connect cl).chatFrames = c.chatFrames := by
  unfold connect; split <;> (try split_ifs) <;>
    simp [chatFrames, chatFrameCount_append, chatFrameCount]

@[simp] theorem chatFrameCount_closeRef (r : Option Nat) (ws : List Socket) :
    chatFrameCount (closeRef r ws) = chatFrameCount ws := by
  cases r with
  | none => rfl
  | some i => simp [closeRef, chatFrameCount_modify (k := 0) (f := Socket.close) (by simp)]

@[simp] theorem chatFrames_disconnect (c : Client) : c.disconnect.chatFrames = c.chatFrames :=
  chatFrameCount_closeRef c.wsRef c.sockets

@[simp] theorem chatFrames_select (id : String) (c : Client) :
    (c.select id).chatFrames = c.chatFrames :=
  select_preserves (P := fun d => d.chatFrames = c.chatFrames)
    (fun cl _ h => (chatFrames_connect cl _).trans h) (fun _ h => (chatFrames_disconnect _).trans h)
    (fun _ _ h => h) id rfl

@[simp] theorem chatFrames_setAccessToken (t : Option String) (c : Client) :
    (c.setAccessToken t).chatFrames = c.chatFrames :=
  setAccessToken_preserves (P := fun d => d.chatFrames = c.chatFrames)
    (fun cl _ h => (chatFrames_connect cl _).trans h) (fun _ h => (chatFrames_disconnect _).trans h)
    (fun _ _ h => h) t rfl

/-- The accumulator's flag and the `chat.message` frames sent. -/
def flight (c : Client) : Bool × Nat := (c.chat.isStreaming, c.chatFrames)

end Client

/-- What an event that does not release the accumulator does to its flag and to the count of
    frames sent: nothing, or, from no stream in flight, one `chat.message` sent and a stream
    started. -/
def StartsAtMostOne (a b : Bool × Nat) : Prop :=
  (b.1 = a.1 ∧ b.2 = a.2) ∨ (a.1 = false ∧ b.1 = true ∧ b.2 = a.2 + 1)

theorem StartsAtMostOne.trans {a b d : Bool × Nat} (h : StartsAtMostOne a b)
    (h' : StartsAtMostOne b d) : StartsAtMostOne a d := by
  unfold StartsAtMostOne at *
  rcases h with ⟨hs, hf⟩ | ⟨hs, hs', hf⟩ <;> rcases h' with ⟨hs₂, hf₂⟩ | ⟨hs₂, hs₂', hf₂⟩
  · exact .inl ⟨hs₂.trans hs, hf₂.trans hf⟩
  · exact .inr ⟨hs ▸ hs₂, hs₂', by omega⟩
  · exact .inr ⟨hs, hs₂ ▸ hs', by omega⟩
  · exact absurd (hs'.symm.trans hs₂) (by decide)

/-- The frames of other sockets, counted on both sides. -/
theorem StartsAtMostOne.shift {s s' : Bool} {n n' N N' r : Nat}
    (h : StartsAtMostOne (s, n) (s', n')) (hN : N = r + n) (hN' : N' = r + n') :
    StartsAtMostOne (s, N) (s', N') := by
  rcases h with ⟨h₁, h₂⟩ | ⟨h₁, h₂, h₃⟩
  · exact .inl ⟨h₁, by dsimp only at h₂ ⊢; omega⟩
  · exact .inr ⟨h₁, h₂, by dsimp only at h₃ ⊢; omega⟩

namespace Client

variable {M : Nat} {c c' : Client}

/-- A `chat.message` sent on an existing socket is one more frame. -/
theorem chatFrames_sendChat {i : Nat} {r : ReadyState} (hio : c.readyStateOf i = some r)
    (chat : ChatState) (content : String) :
    ({ c with chat, sockets := c.sockets.modify (Socket.send (.chatMessage content)) i } :
      Client).chatFrames = c.chatFrames + 1 := by
  show chatFrameCount (c.sockets.modify _ i) = _
  simp [chatFrameCount_modify (countP_send _), lt_length_of_readyStateOf hio,
    WSOutgoingMessage.isChatMessage, chatFrames]

theorem handleSend_startsAtMostOne (M : Nat) (content : String) (inp : SendInput) (c : Client) :
    StartsAtMostOne c.flight (c.handleSend M content inp).flight := by
  dsimp only [StartsAtMostOne, flight]
  rcases handleSend_guarded M content inp c with h | ⟨hcan, -, i, -, hio, h⟩ | h <;> rw [h]
  · exact .inl ⟨rfl, rfl⟩
  · have hs : c.chat.isStreaming = false := by simp [canSend] at hcan; exact hcan.1.2
    exact .inr ⟨hs, rfl, chatFrames_sendChat hio _ _⟩
  · exact .inl ⟨rfl, rfl⟩

theorem onmessage_startsAtMostOne {i : Nat} {msg : WSIncomingMessage}
    (he : (Event.received i msg).releases = false) (c : Client) :
    StartsAtMostOne c.flight (c.onmessage i msg).flight := by
  dsimp only [StartsAtMostOne, flight]
  refine .inl ?_
  cases msg with
  | chatStream content done messageId =>
    refine ⟨?_, rfl⟩
    simp only [onmessage, isStreaming_onStream]
    refine isStreaming_streamFrame (fun id hd hm => ?_) _
    subst hd hm; simpa [Event.releases] using he
  | chatError => simp [Event.releases] at he
  | ping =>
    refine ⟨rfl, ?_⟩
    show chatFrameCount (c.sockets.modify _ i) = _
    simp [chatFrameCount_modify (countP_send _), WSOutgoingMessage.isChatMessage, chatFrames]
  | authSuccess | unhandled => exact ⟨rfl, rfl⟩

/-- No event but a release starts a second request while one is in flight. -/
theorem startsAtMostOne_step {e : Event} (he : e.releases = false) (h : c.step M e = some c') :
    StartsAtMostOne c.flight c'.flight := by
  dsimp only [StartsAtMostOne, flight]
  cases e with
  | select id =>
    obtain ⟨-, rfl⟩ := step_select.mp h; exact .inl ⟨by simp [flight]; rfl, chatFrames_select id c⟩
  | setAccessToken t =>
    simp only [step_setAccessToken, Option.some.injEq] at h; subst h
    exact .inl ⟨by simp [flight], chatFrames_setAccessToken t c⟩
  | retry =>
    simp only [step_retry, Option.some.injEq] at h; subst h
    exact .inl ⟨by rw [connect_chat], chatFrames_connect _ _⟩
  | fire t =>
    obtain ⟨tm, -, -, rfl⟩ := step_fire.mp h
    exact .inl ⟨by rw [connect_chat], (chatFrames_connect _ _).trans rfl⟩
  | send content inp =>
    simp only [step_send, Option.some.injEq] at h; subst h
    exact handleSend_startsAtMostOne M content inp c
  | opened i =>
    obtain ⟨w, -, -, rfl⟩ := step_opened.mp h
    refine .inl ⟨rfl, ?_⟩
    show chatFrameCount ((c.sockets.modify _ i).modify _ i) = _
    rw [List.modify_modify_eq, chatFrameCount_modify (k := 0) (fun w => by
      simp [countP_send, WSOutgoingMessage.isChatMessage])]
    simp [chatFrames]
  | received i msg =>
    obtain ⟨w, -, -, rfl⟩ := step_received.mp h; exact onmessage_startsAtMostOne he c
  | errored i => obtain ⟨w, -, -, rfl⟩ := step_errored.mp h; exact .inl ⟨rfl, rfl⟩
  | closed => simp [Event.releases] at he

/-! ## On the chat page -/

/-- In every state a run of the chat page reaches from its mount, every socket of every hook,
    mounted or unmounted, satisfies `Socket.WireOk`. -/
theorem sockets_authenticate_first {auth : AuthState} {es : List PageEvent} {p : Page}
    (h : Page.exec M (Page.init (init auth)) es = some p) :
    ∀ hk ∈ p.hooks, ∀ w ∈ hk.sockets, w.WireOk M :=
  Page.exec_preserves_hooks (fun hk => ∀ w ∈ hk.sockets, w.WireOk M) (fun _ => True)
    (fun _ h => absurd h (List.not_mem_nil _))
    (fun _ _ _ _ hc hs => wireOk_step hc hs) (fun _ hc => WireOk.disconnect hc)
    (fun _ id hc => WireOk.select hc id) es (Page.init (init auth)) p (fun _ _ => trivial)
    (Page.forall_mem_hooks.mpr ⟨fun _ h => absurd h (List.not_mem_nil _), wireOk_init auth⟩) h

/-- Conversation `A` authenticated, `" hi "` sent and a `ping` answered, then `A` deleted,
    which unmounts `ChatArea`. -/
def pingThenDelete : List PageEvent :=
  (authenticated ++
    ([.send " hi " ⟨"m1", "t0", "gpt-4o", "s1"⟩, .received 0 .ping] : List Event)).map
      PageEvent.client ++ [.delete "A", .deleted 0]

theorem pingThenDelete_authenticates_first : ∃ p,
    Page.exec 2 (Page.init (init signedIn)) pingThenDelete = some p ∧
    p.hooks.map (fun hk => hk.sockets.map fun w => (w.readyState, w.sent)) =
      [[(.CLOSING, [.auth "token-1", .chatMessage "hi", .pong])], []] ∧
    ∀ hk ∈ p.hooks, ∀ w ∈ hk.sockets, w.WireOk 2 :=
  ⟨_, rfl, rfl, @sockets_authenticate_first 2 signedIn pingThenDelete
    ((Page.exec 2 (Page.init (init signedIn)) pingThenDelete).getD (Page.init (init signedIn))) rfl⟩

end Client

namespace Page

variable {M : Nat} {p p' : Page}

/-- The `chat.message` frames sent over the sockets of every hook of the page. -/
def chatFrames (p : Page) : Nat := (p.hooks.map fun h => chatFrameCount h.sockets).sum

/-- The accumulator's flag and the frames of all hooks. -/
def flight (p : Page) : Bool × Nat := (p.client.chat.isStreaming, p.chatFrames)

theorem chatFrames_eq (p : Page) :
    p.chatFrames = (p.unmounted.map fun h => chatFrameCount h.sockets).sum + p.client.chatFrames := by
  simp [chatFrames, hooks, Client.chatFrames, List.sum_append]

theorem flight_deleteSucceeded (r : DeleteRequest) (p : Page) :
    (p.deleteSucceeded r).flight = p.flight := by
  have hs : (p.deleteSucceeded r).client.chat.isStreaming = p.client.chat.isStreaming := by
    simp [ChatState.isStreaming]
  rcases deleteSucceeded_hooks r p with hd | hd <;> simp only [flight, chatFrames, hd, hs]
  simp [hooks, Hook.fresh, chatFrameCount, List.sum_append]

theorem flight_createSucceeded (r : CreateRequest) (id : String) (p : Page) :
    (p.createSucceeded r id).flight = p.flight := by
  rcases createSucceeded_client r id p with hc | hc
  · simp only [flight, chatFrames_eq, hc, createSucceeded_unmounted, Client.chatFrames_select,
      Client.select_chat]; rfl
  · rw [hc]

/-- No event of the page but a release starts a second request while one is in flight. -/
theorem startsAtMostOne_step {e : PageEvent} (he : e.releases = false)
    (h : p.step M e = some p') : StartsAtMostOne p.flight p'.flight := by
  cases e with
  | client e =>
    obtain ⟨-, c, hs, rfl⟩ := step_client.mp h
    exact (Client.startsAtMostOne_step he hs).shift (chatFrames_eq p) (chatFrames_eq _)
  | unmounted k e =>
    obtain ⟨hh, c, hk, -, hs, rfl⟩ := step_unmounted.mp h
    obtain ⟨r, h₁, h₂⟩ :=
      List.sum_map_set (fun h : Hook => chatFrameCount h.sockets) (x := c.hook) hk
    refine (Client.startsAtMostOne_step he hs).shift (r := r + p.client.chatFrames) ?_ ?_
    · rw [chatFrames_eq, h₁]; simp [Client.chatFrames]; omega
    · rw [chatFrames_eq, h₂]; simp [Client.chatFrames]; omega
  | delete => simp only [step_delete, Option.some.injEq] at h; subst h; exact .inl ⟨rfl, rfl⟩
  | deleted k =>
    obtain ⟨r, -, -, rfl⟩ := step_deleted.mp h
    have hd := flight_deleteSucceeded r p
    exact .inl ⟨congrArg Prod.fst hd, congrArg Prod.snd hd⟩
  | create => obtain ⟨-, rfl⟩ := step_create.mp h; exact .inl ⟨rfl, rfl⟩
  | created k id =>
    obtain ⟨r, -, -, -, rfl⟩ := step_created.mp h
    have hd := flight_createSucceeded r id p
    exact .inl ⟨congrArg Prod.fst hd, congrArg Prod.snd hd⟩

/-- Over any run of the chat page in which no socket of any hook delivers a `chat.stream`
    frame that finishes the stream, a `chat.error` frame or a close event, the hooks send at
    most one `chat.message` between them, and none if a stream was in flight at the start. -/
theorem one_request_in_flight {es : List PageEvent}
    (hes : ∀ e ∈ es, e.releases = false) (h : exec M p es = some p') :
    p'.chatFrames ≤ p.chatFrames + 1 ∧
      (p.client.chat.isStreaming = true → p'.chatFrames = p.chatFrames) := by
  have hm : StartsAtMostOne p.flight p'.flight :=
    exec_preserves (fun q : Page => StartsAtMostOne p.flight q.flight) (fun e => e.releases = false)
      (fun _ _ _ he hc hd => hc.trans (startsAtMostOne_step he hd)) es p p' hes
      (.inl ⟨rfl, rfl⟩) h
  rcases hm with ⟨-, hf⟩ | ⟨hs, -, hf⟩
  · exact ⟨by simp only [flight] at hf; omega, fun _ => hf⟩
  · exact ⟨by simp only [flight] at hf; omega, fun h => absurd (hs.symm.trans h) Bool.false_ne_true⟩

/-- Two sends with no reply in between, and a delete request of another conversation. -/
def twoSends : List PageEvent :=
  [.client (.send "hi" ⟨"m1", "t0", "gpt-4o", "s1"⟩), .delete "B", .deleted 0,
    .client (.send "again" ⟨"m2", "t1", "gpt-4o", "s2"⟩)]

theorem twoSends_send_one : ∃ p p',
    exec 5 (init (Client.init Client.signedIn)) (Client.authenticated.map PageEvent.client) = some p ∧
    (∀ e ∈ twoSends, e.releases = false) ∧ exec 5 p twoSends = some p' ∧
    p.chatFrames = 0 ∧ p'.chatFrames = 1 ∧
    (p'.chatFrames ≤ p.chatFrames + 1 ∧
      (p.client.chat.isStreaming = true → p'.chatFrames = p.chatFrames)) :=
  ⟨_, _, rfl, by decide, rfl, rfl, rfl, @one_request_in_flight 5
    ((exec 5 (init (Client.init Client.signedIn)) (Client.authenticated.map PageEvent.client)).getD
      (init (Client.init Client.signedIn)))
    ((exec 5 ((exec 5 (init (Client.init Client.signedIn))
      (Client.authenticated.map PageEvent.client)).getD (init (Client.init Client.signedIn)))
        twoSends).getD (init (Client.init Client.signedIn))) twoSends (by decide) rfl⟩

end Page

end ChatClient
