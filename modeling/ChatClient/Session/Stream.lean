import ChatClient.Session.Stale

/-
  The accumulator of a streamed reply.

  `sendMessage` starts it under a client id, each non-terminal `chat.stream` frame appends its
  `content`, and a `done` frame with a `message_id` puts that id and clears `isStreaming`. The
  accumulator is one field of the global chat store, and the handlers of every socket write it.

  `stream_accumulates`: after `handleSend` sends on socket `s`, let every event up to a `done`
  frame of `s` carrying a non-empty `message_id` be a user action, a timer, an `open`, `error`,
  `auth.success`, `ping` or unparsable frame of any socket, or a non-terminal `chat.stream`
  frame of `s`. Then after the `done` frame the accumulator holds that id and the contents of
  the frames of `s` in arrival order, and `isStreaming` is false. The invariant is `StreamsOn`:
  `s` is the OPEN current socket and the accumulator holds what `s` streamed so far, or `s` is
  closing or closed and delivers nothing more (a switch of conversation or of token closes it).
  The events left out are not harmless. A replaced socket's close clears the accumulator
  under the live generation, whose reply is then lost (`staleClose_loses_reply`); and a
  switch keeps a streaming accumulator although nothing was sent on the new socket
  (`switchWhileStreaming_keeps_stream`).
-/

namespace ChatClient

/-- The text one event streams into a generation on socket `s`: the `content` of a
    non-terminal `chat.stream` frame of `s`. -/
def Event.deltaOn (s : Nat) : Event → String
  | .received i (.chatStream content false _) => if i = s then content else ""
  | _ => ""

/-- The text a run streams into a generation on socket `s`, in order. -/
def deltas (s : Nat) : List Event → String
  | [] => ""
  | e :: es => e.deltaOn s ++ deltas s es

/-- The events `stream_accumulates` lets through between the send and the `done` frame. -/
def Event.keepsStreamOn (s : Nat) : Event → Bool
  | .closed _ _ => false
  | .received i (.chatStream _ done _) => i = s && !done
  | .received _ (.chatError _ _) => false
  | _ => true

namespace Client

variable {M : Nat} {c c' : Client} {s : Nat} {id acc : String}

theorem streamFrame_delta {st : ChatState} (x : String) (mid : Option String)
    (h : st.streamingMessage = some ⟨id, acc, true⟩) :
    (streamFrame x false mid st).streamingMessage = some ⟨id, acc ++ x, true⟩ := by
  by_cases hx : x = "" <;> simp [streamFrame, hx, h]

theorem streamFrame_done {st : ChatState} (x : String) {m : String} (hm : m ≠ "")
    (h : st.streamingMessage = some ⟨id, acc, true⟩) :
    (streamFrame x true (some m) st).streamingMessage = some ⟨m, acc ++ x, false⟩ := by
  by_cases hx : x = "" <;> simp [streamFrame, hx, h, hm]

/-- Socket `s` is closing or closed. -/
def Gone (s : Nat) (c : Client) : Prop :=
  c.readyStateOf s = some .CLOSING ∨ c.readyStateOf s = some .CLOSED

theorem gone_map_afterClose {r : Option ReadyState} (h : r = some .CLOSING ∨ r = some .CLOSED) :
    r.map Socket.afterClose = some .CLOSING ∨ r.map Socket.afterClose = some .CLOSED := by
  rcases h with rfl | rfl <;> simp [Socket.afterClose]

theorem Gone.lt_length (hg : c.Gone s) : s < c.sockets.length := by
  rcases hg with hg | hg <;> exact lt_length_of_readyStateOf hg

theorem Gone.connect (hg : c.Gone s) (cl : Closure) : (c.connect cl).Gone s := by
  rw [Gone, readyStateOf_connect cl hg.lt_length]; exact hg

theorem Gone.disconnect (hg : c.Gone s) : c.disconnect.Gone s := by
  unfold Gone; rw [readyStateOf_disconnect]; split_ifs
  exacts [gone_map_afterClose hg, hg]

/-- No event reopens a closing or closed socket. -/
theorem gone_step {e : Event} (hg : c.Gone s) (h : c.step M e = some c') : c'.Gone s := by
  have hs := hg.lt_length
  cases e with
  | select id =>
    obtain ⟨-, rfl⟩ := step_select.mp h
    exact select_preserves (fun cl _ h => h.connect cl) (fun _ h => h.disconnect) (fun _ _ h => h)
      id hg
  | setAccessToken t =>
    simp only [step_setAccessToken, Option.some.injEq] at h; subst h
    exact setAccessToken_preserves (fun cl _ h => h.connect cl) (fun _ h => h.disconnect)
      (fun _ _ h => h) t hg
  | retry => simp only [step_retry, Option.some.injEq] at h; subst h; exact hg.connect _
  | fire t =>
    obtain ⟨tm, -, -, rfl⟩ := step_fire.mp h
    exact Gone.connect (c := { c with pendingTimers := c.pendingTimers.erase t }) hg _
  | send content inp =>
    simp only [step_send, Option.some.injEq] at h; subst h
    unfold Gone at hg ⊢; rwa [handleSend_readyStateOf]
  | opened i =>
    obtain ⟨w, hw, hc, rfl⟩ := step_opened.mp h
    have his : i ≠ s := by rintro rfl; rcases hg with hg | hg <;> simp [readyStateOf, hw, hc] at hg
    unfold Gone at hg ⊢; rwa [onopen_readyStateOf, readyStateOf_modify_ne his]
  | received i msg =>
    obtain ⟨w, -, -, rfl⟩ := step_received.mp h; unfold Gone at hg ⊢; rwa [onmessage_readyStateOf]
  | errored i => obtain ⟨w, -, -, rfl⟩ := step_errored.mp h; exact hg
  | closed i code =>
    obtain ⟨w, hw, -, -, rfl⟩ := step_closed.mp h
    unfold Gone at hg ⊢
    rw [onclose_readyStateOf]
    by_cases his : i = s
    · subst his; right; simp [readyStateOf, hw]
    · rwa [readyStateOf_modify_ne his]

/-- `s` is the OPEN `wsRef.current` and the accumulator streams under `id` with text `acc`. -/
def Live (s : Nat) (id acc : String) (c : Client) : Prop :=
  c.wsRef = some s ∧ c.readyStateOf s = some .OPEN ∧ c.chat.streamingMessage = some ⟨id, acc, true⟩

/-- The invariant of `stream_accumulates`: the generation on `s` is live, or `s` is gone. -/
def StreamsOn (s : Nat) (id acc : String) (c : Client) : Prop := c.Live s id acc ∨ c.Gone s

theorem Live.congr (h : c.Live s id acc) (hw : c'.wsRef = c.wsRef)
    (hr : c'.readyStateOf s = c.readyStateOf s)
    (hm : c'.chat.streamingMessage = c.chat.streamingMessage) : c'.Live s id acc :=
  ⟨hw ▸ h.1, hr ▸ h.2.1, hm ▸ h.2.2⟩

theorem Live.currentOpen (h : c.Live s id acc) : c.currentOpen = true := by
  simp [Client.currentOpen, h.1, h.2.1]

/-- While the accumulator streams, `MessageInput` cannot send. -/
theorem Live.handleSend (h : c.Live s id acc) (content : String) (inp : SendInput) :
    c.handleSend M content inp = c :=
  handleSend_of_not_canSend (by simp [canSend, ChatState.isStreaming, h.2.2])

theorem StreamsOn.connect (h : c.StreamsOn s id acc) (cl : Closure) :
    (c.connect cl).StreamsOn s id acc := by
  rcases h with hl | hg
  · rw [connect_of_currentOpen cl hl.currentOpen]; exact .inl hl
  · exact .inr (hg.connect cl)

/-- `disconnect` closes the live socket. -/
theorem StreamsOn.disconnect (h : c.StreamsOn s id acc) : c.disconnect.StreamsOn s id acc := by
  right
  rcases h with hl | hg
  · rw [Gone, readyStateOf_disconnect, if_pos hl.1, hl.2.1]; exact .inl rfl
  · exact hg.disconnect

/-- One admitted event appends what it streams on `s`, or leaves `s` gone. -/
theorem streamsOn_step {e : Event} (hk : e.keepsStreamOn s = true) (hc : c.StreamsOn s id acc)
    (h : c.step M e = some c') : c'.StreamsOn s id (acc ++ e.deltaOn s) := by
  rcases hc with hl | hg
  swap; · exact .inr (gone_step hg h)
  have quiet : ∀ {d : Client}, e.deltaOn s = "" → d.StreamsOn s id acc →
      d.StreamsOn s id (acc ++ e.deltaOn s) := fun hd h => by
    rw [hd, String.append_empty]; exact h
  cases e with
  | select id' =>
    obtain ⟨-, rfl⟩ := step_select.mp h
    exact quiet rfl (select_preserves (fun cl _ h => h.connect cl) (fun _ h => h.disconnect)
      (fun _ _ h => h) id' (.inl hl))
  | setAccessToken t =>
    simp only [step_setAccessToken, Option.some.injEq] at h; subst h
    exact quiet rfl (setAccessToken_preserves (fun cl _ h => h.connect cl) (fun _ h => h.disconnect)
      (fun _ _ h => h) t (.inl hl))
  | retry =>
    simp only [step_retry, Option.some.injEq, connect_of_currentOpen _ hl.currentOpen] at h
    exact h ▸ quiet rfl (.inl hl)
  | fire t =>
    obtain ⟨tm, -, -, rfl⟩ := step_fire.mp h
    rw [connect_of_currentOpen _ (by exact hl.currentOpen)]
    exact quiet rfl (.inl (hl.congr rfl rfl rfl))
  | send content inp =>
    simp only [step_send, Option.some.injEq, hl.handleSend] at h
    exact h ▸ quiet rfl (.inl hl)
  | opened i =>
    obtain ⟨w, hw, hc, rfl⟩ := step_opened.mp h
    have his : i ≠ s := by rintro rfl; have := hl.2.1; simp [readyStateOf, hw, hc] at this
    exact quiet rfl
      (.inl (hl.congr rfl (by rw [onopen_readyStateOf, readyStateOf_modify_ne his]) rfl))
  | received i msg =>
    obtain ⟨w, -, -, rfl⟩ := step_received.mp h
    cases msg with
    | chatStream x done mid =>
      obtain ⟨rfl, rfl⟩ : i = s ∧ done = false := by simpa [Event.keepsStreamOn] using hk
      refine .inl ⟨hl.1, hl.2.1, ?_⟩
      simp [onmessage, onStream, Event.deltaOn, streamFrame_delta x mid hl.2.2]
    | chatError => simp [Event.keepsStreamOn] at hk
    | authSuccess | ping | unhandled =>
      exact quiet rfl (.inl (hl.congr rfl (onmessage_readyStateOf _ _ _ _) rfl))
  | errored i =>
    obtain ⟨w, -, -, rfl⟩ := step_errored.mp h; exact quiet rfl (.inl (hl.congr rfl rfl rfl))
  | closed => simp [Event.keepsStreamOn] at hk

/-- Over a run of admitted events the text grows by exactly what the run streams on `s`. -/
theorem streamsOn_exec :
    ∀ (es : List Event) {c c' : Client} {acc : String}, (∀ e ∈ es, e.keepsStreamOn s = true) →
      c.StreamsOn s id acc → exec M c es = some c' → c'.StreamsOn s id (acc ++ deltas s es)
  | [], c, c', acc, _, hc, h => by cases h; simpa [deltas] using hc
  | e :: es, c, c', acc, hk, hc, h => by
    obtain ⟨d, hd, h⟩ := Option.bind_eq_some.mp h
    simpa [deltas, String.append_assoc] using
      streamsOn_exec es (fun e he => hk e (.tail _ he))
        (streamsOn_step (hk e (.head _)) hc hd) h

/-- A send that goes out on `s` starts a live generation with empty text. -/
theorem handleSend_live {content : String} {inp : SendInput}
    (hcan : c.canSend (jsTrim content) = true) (hlen : jsLength (jsTrim content) ≤ M)
    (hs : c.wsRef = some s) (ho : c.currentOpen = true) :
    (c.handleSend M content inp).Live s inp.streamId "" := by
  obtain ⟨i, hi, hr⟩ := wsRef_of_currentOpen ho
  obtain rfl : i = s := Option.some.inj (hi.symm.trans hs)
  rw [handleSend_sends hcan hlen hs ho]
  exact ⟨hs, (readyStateOf_modify_send _ _ _ _).trans hr, rfl⟩

theorem stream_accumulates {content : String} {inp : SendInput} {es : List Event} {fc m : String}
    (hcan : c.canSend (jsTrim content) = true) (hlen : jsLength (jsTrim content) ≤ M)
    (hs : c.wsRef = some s) (ho : c.currentOpen = true)
    (hes : ∀ e ∈ es, e.keepsStreamOn s = true) (hm : m ≠ "")
    (h : exec M c (.send content inp :: es ++ [.received s (.chatStream fc true (some m))]) = some c') :
    c'.chat.streamingMessage = some ⟨m, deltas s es ++ fc, false⟩ := by
  obtain ⟨d, hd, h⟩ := exec_concat h
  rw [exec_cons, step_send, Option.some_bind] at hd
  obtain ⟨w, hw, hr, rfl⟩ := step_received.mp h
  rcases streamsOn_exec es hes (.inl (handleSend_live hcan hlen hs ho)) hd with hl | hg
  · simp [onmessage, onStream, streamFrame_done fc hm hl.2.2]
  · rcases hg with hg | hg <;> simp [readyStateOf, hw, hr] at hg

/-- Three frames of a reply on socket 0, a `ping` between them. -/
def helloReply : List Event :=
  [.received 0 (.chatStream "Hel" false none), .received 0 .ping,
    .received 0 (.chatStream "l" false none)]

theorem helloReply_accumulates : ∃ c c', exec 10000 (init signedIn) authenticated = some c ∧
    exec 10000 c (.send "hi" ⟨"m1", "t0", "gpt-4o", "s1"⟩ :: helloReply ++
      [.received 0 (.chatStream "lo" true (some "m2"))]) = some c' ∧
    c'.chat.streamingMessage = some ⟨"m2", deltas 0 helloReply ++ "lo", false⟩ :=
  ⟨_, _, rfl, rfl, @stream_accumulates 10000
    ((exec 10000 (init signedIn) authenticated).getD (init signedIn)) _ 0 "hi" _ helloReply "lo" "m2"
    (by decide) (by decide) rfl rfl (by decide) (by decide) rfl⟩

/-! ## Runs the invariant leaves out -/

/-- Conversation `A` authenticated, then `B` selected and authenticated on socket 1, and `"hi"`
    sent there; then the close event of socket 0, which `disconnect()` closed with 1000,
    arrives, and socket 1 streams its reply. -/
def staleCloseRun : List Event :=
  authenticated ++ [.select "B", .opened 1, .received 1 (.authSuccess "B"),
    .send "hi" ⟨"m1", "t0", "gpt-4o", "s1"⟩, .closed 0 1000,
    .received 1 (.chatStream "Hel" false none), .received 1 (.chatStream "lo" true (some "m2"))]

theorem staleClose_loses_reply : ∀ M, ∃ c, exec (M + 2) (init signedIn) staleCloseRun = some c ∧
    (c.sockets[1]?).map (·.sent) = some [.auth "token-1", .chatMessage "hi"] ∧
    c.readyStateOf 1 = some .OPEN ∧ c.wsRef = none ∧ c.ws.status = .disconnected ∧
    c.chat.streamingMessage = none :=
  fun _ => ⟨_, rfl, rfl, rfl, rfl, rfl, rfl⟩

/-- `"hi"` sent in conversation `A`, then `B` selected; its socket opens and authenticates. -/
def switchWhileStreaming : List Event :=
  authenticated ++ [.send "hi" ⟨"m1", "t0", "gpt-4o", "s1"⟩, .select "B", .opened 1,
    .received 1 (.authSuccess "B")]

theorem switchWhileStreaming_keeps_stream : ∀ M, ∃ c,
    exec (M + 2) (init signedIn) switchWhileStreaming = some c ∧
    c.wsRef = some 1 ∧ c.currentOpen = true ∧ (c.sockets[1]?).map (·.sent) = some [.auth "token-1"] ∧
    c.chat.streamingMessage = some ⟨"s1", "", true⟩ ∧ c.chat.pendingUserMessage.isSome ∧
    c.canSend "hi" = false :=
  fun _ => ⟨_, rfl, rfl, rfl, rfl, rfl, rfl, rfl⟩

end Client

end ChatClient
