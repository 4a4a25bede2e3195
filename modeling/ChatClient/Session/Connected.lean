import ChatClient.Step

/-
  What status `connected` says about `wsRef.current`.

  Only `auth.success` sets status `connected`, and the reconnect branch of `onclose` nulls
  `wsRef.current` without touching the status. So after an abnormal close of an authenticated
  socket the store stays `connected` with no socket, and `sendMessage` returns `false` while
  `MessageInput` enables sending (`abnormalClose_connected_without_socket`).

  That is the only way the two come apart on the runs of one selection with neither the retry
  button nor a new token, whose only other `connect()` calls are the reconnect timers'. On
  those runs the hook keeps at most one socket that is not CLOSED, `wsRef.current`, and at
  most one pending timer, `reconnectTimeoutRef`, and only while no socket is current
  (`Linear`, kept by every step: `inv_step`). So whenever the status is `connected`,
  `wsRef.current` is OPEN and has delivered `auth.success` during the run, and `sendMessage`
  sends; or it is null with a reconnect pending, and `sendMessage` returns `false`
  (`connected_on_authenticated_socket`). A switch or the retry button breaks `Linear`
  (`Session.Stale`).
-/

namespace ChatClient

/-- The events that call `connect()` other than the reconnect timers: a click on a
    conversation, the retry button and a new token. -/
def Event.connectsAnew : Event → Bool
  | .select _ | .retry | .setAccessToken _ => true
  | _ => false

/-- A socket that `connect` opened: for a conversation, with a token. -/
def Socket.Opened (w : Socket) : Prop := w.conversationId ≠ "" ∧ w.accessToken ≠ ""

namespace Client

variable {M : Nat} {c c' : Client}

/-- At most one socket not CLOSED, `wsRef.current`; at most one pending timer, in
    `reconnectTimeoutRef` and only while no socket is current; every socket opened by
    `connect`, and every timer's `connect` for a conversation and a token. -/
structure Linear (c : Client) : Prop where
  closed : ∀ j r, c.readyStateOf j = some r → c.wsRef ≠ some j → r = .CLOSED
  pending : c.pendingTimers = [] ∨
    (c.wsRef = none ∧ ∃ t, c.pendingTimers = [t] ∧ c.reconnectTimeoutRef = some t)
  sockets : ∀ w ∈ c.sockets, w.Opened
  timers : ∀ tm ∈ c.timers, ∃ w : Socket, w.Opened ∧ tm.callback = w.closure

/-- A socket that is not CLOSED is `wsRef.current`. -/
theorem Linear.current (hl : c.Linear) {i : Nat} {w : Socket} (hw : c.sockets[i]? = some w)
    (hr : w.readyState ≠ .CLOSED) : c.wsRef = some i :=
  Classical.byContradiction fun hne => hr (hl.closed i _ (by simp [readyStateOf, hw]) hne)

/-- While `wsRef.current` is some socket, no timer is pending. -/
theorem Linear.pending_of_wsRef (hl : c.Linear) {i : Nat} (h : c.wsRef = some i) :
    c.pendingTimers = [] := by
  rcases hl.pending with hp | ⟨hn, -⟩
  exacts [hp, absurd (hn.symm.trans h) nofun]

/-- Sending on a socket, and changing its ready state, keep what it was opened for. -/
theorem opened_modify (f : Socket → Socket) (hf : ∀ w, w.Opened → (f w).Opened)
    (hl : ∀ w ∈ c.sockets, w.Opened) (i : Nat) : ∀ w ∈ c.sockets.modify f i, w.Opened :=
  List.forall_mem_modify hl fun v hv => hf v (hl v (List.getElem?_mem hv))

/-- `connect` with no socket current and no timer pending. -/
theorem Linear.connect (hl : c.Linear) (hw : c.wsRef = none) (hp : c.pendingTimers = [])
    (cl : Closure) : (c.connect cl).Linear := by
  rcases connect_cases cl c with h | ⟨conv, token, -, hconv, htoken, -, h⟩ <;> rw [h]
  · exact hl
  refine ⟨fun j r hj hne => ?_, .inl hp, fun w hw' => ?_, hl.timers⟩
  · have hlt := lt_length_of_readyStateOf hj
    simp only [List.length_append, List.length_singleton] at hlt
    have hj' : j < c.sockets.length := by
      rcases Nat.lt_succ_iff_lt_or_eq.mp hlt with hj' | rfl
      exacts [hj', absurd rfl hne]
    refine hl.closed j r ?_ (by simp [hw])
    simpa [readyStateOf, List.getElem?_append_left hj'] using hj
  · rcases List.mem_append.mp hw' with hw' | hw'
    exacts [hl.sockets w hw', (List.mem_singleton.mp hw') ▸ ⟨hconv, htoken⟩]

/-- The close event of `wsRef.current`, its socket marked CLOSED. -/
theorem Linear.onclose (hl : c.Linear) {i code : Nat} {w : Socket} (hi : c.sockets[i]? = some w)
    (hwi : c.wsRef = some i) :
    (onclose w code { c with sockets := c.sockets.modify (Socket.setReadyState .CLOSED) i }).Linear := by
  have hp := hl.pending_of_wsRef hwi
  have closed : ∀ j r,
      ({ c with sockets := c.sockets.modify (Socket.setReadyState .CLOSED) i } : Client).readyStateOf j =
        some r → r = .CLOSED := by
    intro j r hj
    by_cases hij : i = j
    · subst hij; simpa [readyStateOf, List.getElem?_modify, hi] using hj.symm
    · rw [readyStateOf_modify_ne hij] at hj
      exact hl.closed j r hj (by simp [hwi, hij])
  have hs : ∀ v ∈ c.sockets.modify (Socket.setReadyState .CLOSED) i, v.Opened :=
    opened_modify (Socket.setReadyState .CLOSED) (fun _ h => h) hl.sockets i
  unfold Client.onclose; dsimp only
  split_ifs
  · exact ⟨fun j r hj _ => closed j r hj, .inl hp, hs, hl.timers⟩
  · refine ⟨fun j r hj _ => closed j r hj, .inr ⟨rfl, _, by simp [hp], rfl⟩, hs, ?_⟩
    intro tm htm
    rcases List.mem_append.mp htm with htm | htm
    · exact hl.timers tm htm
    · exact ⟨w, hl.sockets w (List.getElem?_mem hi), by rw [List.mem_singleton.mp htm]⟩
  · exact ⟨fun j r hj _ => closed j r hj, .inl hp, hs, hl.timers⟩

/-- Status `connected` comes with an OPEN `wsRef.current` that delivered `auth.success` in
    `tr`, or with no current socket and a reconnect pending. -/
def ConnectedOk (tr : List Event) (c : Client) : Prop :=
  c.ws.status = .connected →
    (∃ i, c.wsRef = some i ∧ c.readyStateOf i = some .OPEN ∧
      ∃ id, Event.received i (.authSuccess id) ∈ tr) ∨
    (c.wsRef = none ∧ ∃ t, c.reconnectTimeoutRef = some t ∧ t ∈ c.pendingTimers)

/-- An event that leaves the refs, the ready states and the pending timers, and sets status
    `connected` only where it was, keeps `ConnectedOk`. -/
theorem ConnectedOk.congr {tr : List Event} (hk : ConnectedOk tr c) (e : Event)
    (hs : c'.ws.status = .connected → c.ws.status = .connected) (hw : c'.wsRef = c.wsRef)
    (hr : ∀ j, c'.readyStateOf j = c.readyStateOf j)
    (ht : c'.reconnectTimeoutRef = c.reconnectTimeoutRef)
    (hp : c'.pendingTimers = c.pendingTimers) : ConnectedOk (tr ++ [e]) c' := fun hc => by
  rcases hk (hs hc) with ⟨i, hi, ho, id, hid⟩ | ⟨hn, t, hrt, htp⟩
  · exact .inl ⟨i, hw ▸ hi, (hr i).trans ho, id, List.mem_append_left _ hid⟩
  · exact .inr ⟨hw ▸ hn, t, ht ▸ hrt, hp ▸ htp⟩

/-- No status but `connected` needs a witness. -/
theorem connectedOk_of_status {tr : List Event} (h : c.ws.status ≠ .connected) :
    ConnectedOk tr c := fun hc => absurd hc h

/-- The invariant, with the events delivered so far. -/
def Inv (tr : List Event) (c : Client) : Prop := c.Linear ∧ ConnectedOk tr c

/-- The events of one selection with neither the retry button nor a new token keep the
    invariant. -/
theorem inv_step {tr : List Event} {e : Event} (he : e.connectsAnew = false)
    (hc : Inv tr c) (h : c.step M e = some c') : Inv (tr ++ [e]) c' := by
  obtain ⟨hl, hk⟩ := hc
  cases e with
  | select | retry | setAccessToken => simp [Event.connectsAnew] at he
  | fire t =>
    obtain ⟨tm, htm, ht, rfl⟩ := step_fire.mp h
    rcases hl.pending with hp | ⟨hn, t', hp, -⟩
    · simp [hp] at ht
    obtain ⟨w, ⟨hconv, htoken⟩, hcb⟩ := hl.timers tm (List.getElem?_mem htm)
    have hp' : c.pendingTimers.erase t = [] := by simp_all
    have hd : ({ c with pendingTimers := c.pendingTimers.erase t } : Client).Linear :=
      ⟨hl.closed, .inl hp', hl.sockets, hl.timers⟩
    refine ⟨hd.connect hn hp' _, connectedOk_of_status ?_⟩
    rw [hcb, Socket.closure, connect_creates hconv htoken (by simp [currentOpen, hn])]
    simp
  | send content inp =>
    simp only [step_send, Option.some.injEq] at h; subst h
    have hr : ∀ j, (c.handleSend M content inp).readyStateOf j = c.readyStateOf j :=
      fun j => handleSend_readyStateOf M content inp j c
    rcases handleSend_cases M content inp c with h | ⟨i, -, h⟩ | h <;> rw [h] at hr ⊢
    · exact ⟨hl, hk.congr _ id rfl (fun _ => rfl) rfl rfl⟩
    · exact ⟨⟨fun j r hj => hl.closed j r ((hr j).symm.trans hj), hl.pending,
        opened_modify (Socket.send (.chatMessage (jsTrim content))) (fun _ h => h) hl.sockets i,
        hl.timers⟩,
        hk.congr _ id rfl hr rfl rfl⟩
    · exact ⟨⟨hl.closed, hl.pending, hl.sockets, hl.timers⟩,
        hk.congr _ id rfl (fun _ => rfl) rfl rfl⟩
  | opened i =>
    obtain ⟨w, hw, hcw, rfl⟩ := step_opened.mp h
    have hwi := hl.current hw (by simp [hcw])
    refine ⟨⟨fun j r hj hne => ?_, hl.pending, ?_, hl.timers⟩, connectedOk_of_status (by simp [onopen])⟩
    · have hij : i ≠ j := fun hij => hne (hij ▸ hwi)
      rw [onopen_readyStateOf, readyStateOf_modify_ne hij] at hj
      exact hl.closed j r hj hne
    · exact opened_modify (Socket.send (.auth w.accessToken)) (fun _ h => h)
        (opened_modify (Socket.setReadyState .OPEN) (fun _ h => h) hl.sockets i) i
  | received i msg =>
    obtain ⟨w, hw, ho, rfl⟩ := step_received.mp h
    have hwi := hl.current hw (by simp [ho])
    have hl' : (c.onmessage i msg).Linear := by
      refine ⟨fun j r hj hne => hl.closed j r ((onmessage_readyStateOf i j msg c).symm.trans hj)
        (by simpa using hne), by simpa using hl.pending, ?_, by simpa using hl.timers⟩
      rcases onmessage_sockets i msg c with hs | hs <;> rw [hs]
      exacts [hl.sockets, opened_modify (Socket.send .pong) (fun _ h => h) hl.sockets i]
    refine ⟨hl', ?_⟩
    cases msg with
    | authSuccess id =>
      exact fun _ => .inl ⟨i, hwi, (onmessage_readyStateOf i i _ c).trans
        (by simp [readyStateOf, hw, ho]), id, by simp⟩
    | chatError e code => exact connectedOk_of_status (by simp [onmessage])
    | _ => exact hk.congr _ id rfl (fun j => onmessage_readyStateOf i j _ c) rfl rfl
  | errored i =>
    obtain ⟨w, -, -, rfl⟩ := step_errored.mp h
    exact ⟨⟨hl.closed, hl.pending, hl.sockets, hl.timers⟩,
      connectedOk_of_status (by simp [onerror])⟩
  | closed i code =>
    obtain ⟨w, hw, hcl, -, rfl⟩ := step_closed.mp h
    have hwi := hl.current hw hcl
    refine ⟨hl.onclose hw hwi, fun hs => .inr ⟨onclose_wsRef w code _, ?_⟩⟩
    revert hs
    unfold Client.onclose; dsimp only
    split_ifs
    · simp
    · exact fun _ => ⟨_, rfl, by simp⟩
    · simp

/-- Over the runs of one selection with neither the retry button nor a new token, the
    invariant holds with the events delivered so far. -/
theorem inv_exec : ∀ (es : List Event) {tr : List Event} {c c' : Client},
    (∀ e ∈ es, e.connectsAnew = false) → Inv tr c → exec M c es = some c' → Inv (tr ++ es) c'
  | [], tr, c, c', _, hc, h => by cases h; simpa using hc
  | e :: es, tr, c, c', he, hc, h => by
    obtain ⟨d, hd, h⟩ := Option.bind_eq_some.mp h
    simpa using inv_exec es (fun e h => he e (.tail _ h)) (inv_step (he e (.head _)) hc hd) h

/-- The first click of the chat page mounts `ChatArea`, whose `connect()` opens the only
    socket. -/
theorem inv_select {auth : AuthState} {id : String} (h : (init auth).step M (.select id) = some c) :
    Inv [.select id] c := by
  obtain ⟨-, rfl⟩ := step_select.mp h
  let d : Client := { init auth with chat := (init auth).chat.setCurrentConversationId (some id) }
  have hl : d.Linear := ⟨nofun, .inl rfl, nofun, nofun⟩
  show Inv [.select id] (d.connect ⟨some id, auth.accessToken⟩)
  refine ⟨hl.connect rfl rfl _, connectedOk_of_status ?_⟩
  rcases connect_ws ⟨some id, auth.accessToken⟩ d with hw | hw <;> rw [hw] <;> simp [d, init]

/-- A socket that authenticated, then closed abnormally: a reconnect is pending. -/
def abnormalClose : List Event :=
  [.select "A", .opened 0, .received 0 (.authSuccess "A"), .closed 0 1006]

theorem abnormalClose_connected_without_socket : ∃ c,
    exec 10000 (init signedIn) abnormalClose = some c ∧ c.ws.status = .connected ∧
    c.chat.isStreaming = false ∧ c.wsRef = none ∧ (c.sendMessage "hi" "s1").1 = false :=
  ⟨_, rfl, rfl, rfl, rfl, rfl⟩

/-- Over every run from a signed-in client that selects one conversation and then neither
    clicks retry nor gets a new token: whenever the status is `connected`, `wsRef.current` is
    OPEN and has delivered `auth.success`, and `sendMessage` sends; or no socket is current,
    a reconnect is pending, and `sendMessage` returns `false`. -/
theorem connected_on_authenticated_socket {auth : AuthState} {id : String} {es : List Event}
    (hes : ∀ e ∈ es, e.connectsAnew = false) (h : exec M (init auth) (.select id :: es) = some c)
    (hs : c.ws.status = .connected) :
    (∃ i, c.wsRef = some i ∧ c.readyStateOf i = some .OPEN ∧
      (∃ cid, Event.received i (.authSuccess cid) ∈ es) ∧
      ∀ content streamId, (c.sendMessage content streamId).1 = true) ∨
    (c.wsRef = none ∧ (∃ t, c.reconnectTimeoutRef = some t ∧ t ∈ c.pendingTimers) ∧
      ∀ content streamId, (c.sendMessage content streamId).1 = false) := by
  obtain ⟨d, hd, h⟩ := Option.bind_eq_some.mp h
  rcases (inv_exec es hes (inv_select hd) h).2 hs with ⟨i, hi, ho, cid, hcid⟩ | ⟨hn, hp⟩
  · refine .inl ⟨i, hi, ho, ⟨cid, by simpa using hcid⟩, fun content streamId => ?_⟩
    simp [sendMessage, hi, ho]
  · exact .inr ⟨hn, hp, fun content streamId => by simp [sendMessage, hn]⟩

theorem abnormalClose_reconnect_pending : ∃ c,
    exec 2 (init signedIn) abnormalClose = some c ∧ c.ws.status = .connected ∧
    ((∃ i, c.wsRef = some i ∧ c.readyStateOf i = some .OPEN ∧
      (∃ cid, Event.received i (.authSuccess cid) ∈ abnormalClose.tail) ∧
      ∀ content streamId, (c.sendMessage content streamId).1 = true) ∨
    (c.wsRef = none ∧ (∃ t, c.reconnectTimeoutRef = some t ∧ t ∈ c.pendingTimers) ∧
      ∀ content streamId, (c.sendMessage content streamId).1 = false)) :=
  ⟨_, rfl, rfl, @connected_on_authenticated_socket 2
    ((exec 2 (init signedIn) abnormalClose).getD (init signedIn)) signedIn "A" abnormalClose.tail
    (by decide) rfl rfl⟩

end Client

end ChatClient
