import ChatClient.Page
import ChatClient.View

/-
  The optimistic message at the end of `MessageList`.

  `MessageInput.handleSend` stores the user's text as `pendingUserMessage` before it sends,
  and only three things take it away: the next send, which replaces it or, when nothing goes
  out, drops it; `ChatArea`'s `onStream` on a `done` frame; and its `onError` on a
  `chat.error` frame. A close drops the accumulator but not the optimistic message, and a
  selection re-runs the hook without touching it. So whatever else happens, sockets closing
  and reconnecting, other conversations selected, deletes settling, the message stays in the
  list `MessageList` renders for whichever conversation is shown, whatever that
  conversation's fetched messages (`pendingMessage_stays`), also in one it was not sent to.
  The handlers of an unmounted `ChatArea`'s hook still call its `onStream` and `onError`, so
  their frames settle it too.
-/

namespace ChatClient

/-- The events after which the optimistic message may have changed: a send, and a
    `chat.stream` frame with `done` or a `chat.error` frame, from any socket. -/
def Event.settlesPending : Event → Bool
  | .send _ _ => true
  | .received _ (.chatStream _ true _) => true
  | .received _ (.chatError _ _) => true
  | _ => false

def PageEvent.settlesPending : PageEvent → Bool
  | .client e | .unmounted _ e => e.settlesPending
  | _ => false

namespace Client

variable {M : Nat} {c c' : Client}

theorem streamFrame_pendingUserMessage (content : String) (done : Bool)
    (messageId : Option String) (s : ChatState) :
    (streamFrame content done messageId s).pendingUserMessage = s.pendingUserMessage := by
  cases done <;> cases messageId <;> simp only [streamFrame] <;> split_ifs <;> rfl

theorem onmessage_pendingUserMessage {i : Nat} {msg : WSIncomingMessage}
    (he : (Event.received i msg).settlesPending = false) (c : Client) :
    (c.onmessage i msg).chat.pendingUserMessage = c.chat.pendingUserMessage := by
  cases msg with
  | chatStream content done messageId =>
    cases done
    · exact streamFrame_pendingUserMessage content false messageId c.chat
    · simp [Event.settlesPending] at he
  | chatError => simp [Event.settlesPending] at he
  | _ => rfl

@[simp] theorem onclose_pendingUserMessage (w : Socket) (code : Nat) (c : Client) :
    (c.onclose w code).chat.pendingUserMessage = c.chat.pendingUserMessage := by
  unfold onclose; dsimp only; split_ifs <;> rfl

/-- No event but a send, a `done` frame and a `chat.error` frame touches the optimistic
    message. -/
theorem pendingUserMessage_step {e : Event} (he : e.settlesPending = false)
    (h : c.step M e = some c') : c'.chat.pendingUserMessage = c.chat.pendingUserMessage := by
  cases e with
  | select id => obtain ⟨-, rfl⟩ := step_select.mp h; simp
  | setAccessToken t => simp only [step_setAccessToken, Option.some.injEq] at h; subst h; simp
  | retry => simp only [step_retry, Option.some.injEq] at h; subst h; simp
  | fire t => obtain ⟨tm, -, -, rfl⟩ := step_fire.mp h; simp
  | send => simp [Event.settlesPending] at he
  | opened i => obtain ⟨w, -, -, rfl⟩ := step_opened.mp h; rfl
  | received i msg =>
    obtain ⟨w, -, -, rfl⟩ := step_received.mp h
    exact onmessage_pendingUserMessage he c
  | errored i => obtain ⟨w, -, -, rfl⟩ := step_errored.mp h; rfl
  | closed i code => obtain ⟨w, -, -, -, rfl⟩ := step_closed.mp h; simp

end Client

/-- The optimistic message, when there is one, is in the list whatever was fetched. -/
theorem messageList_pending {chat : ChatState} {m : Message}
    (h : chat.pendingUserMessage = some m) (messages : List Message) :
    ∃ items, messageList messages false chat = .items items ∧ ListItem.message m ∈ items :=
  ⟨allItems messages chat, by simp [messageList, h], by simp [allItems, h]⟩

/-- Over every run of the chat page without a send, a `done` frame or a `chat.error` frame,
    the optimistic message stays, and `MessageList` shows it at the end of every
    conversation's list once the messages have loaded. -/
theorem pendingMessage_stays {M : Nat} {es : List PageEvent} {p p' : Page}
    (hes : ∀ e ∈ es, e.settlesPending = false) (h : Page.exec M p es = some p') {m : Message}
    (hm : p.client.chat.pendingUserMessage = some m) (messages : List Message) :
    p'.client.chat.pendingUserMessage = some m ∧
      ∃ items, messageList messages false p'.client.chat = .items items ∧
        ListItem.message m ∈ items := by
  have hp : p'.client.chat.pendingUserMessage = some m :=
    Page.exec_preserves_stores (fun c => c.chat.pendingUserMessage = some m)
      (fun e => e.settlesPending = false) (fun _ _ h => h)
      (fun _ e _ he hc hd => (Client.pendingUserMessage_step (by
        rcases he with he | ⟨k, he⟩ <;> exact he) hd).trans hc)
      (fun _ h => h) (fun _ _ h => h) (fun _ _ h => by simpa using h) es p p' hes hm h
  exact ⟨hp, messageList_pending hp messages⟩

/-- `hi` sent in conversation `A`; its socket then closes abnormally, and `B` is selected. -/
def hiSentInA : List PageEvent :=
  (Client.authenticated ++ ([.send "hi" ⟨"m1", "t0", "gpt-4o", "s1"⟩] : List Event)).map
    PageEvent.client

def closedThenB : List PageEvent := [.client (.closed 0 1006), .client (.select "B")]

theorem hi_follows_to_B : ∃ p p',
    Page.exec 2 (Page.init (Client.init Client.signedIn)) hiSentInA = some p ∧
    (∀ e ∈ closedThenB, e.settlesPending = false) ∧ Page.exec 2 p closedThenB = some p' ∧
    p'.client.chat.currentConversationId = some "B" ∧
    p.client.chat.pendingUserMessage =
      some (SendInput.pendingMessage ⟨"m1", "t0", "gpt-4o", "s1"⟩ "hi") ∧
    (p'.client.chat.pendingUserMessage =
        some (SendInput.pendingMessage ⟨"m1", "t0", "gpt-4o", "s1"⟩ "hi") ∧
      ∃ items, messageList [] false p'.client.chat = .items items ∧
        ListItem.message (SendInput.pendingMessage ⟨"m1", "t0", "gpt-4o", "s1"⟩ "hi") ∈ items) :=
  ⟨_, _, rfl, by decide, rfl, rfl, rfl, @pendingMessage_stays 2 closedThenB
    ((Page.exec 2 (Page.init (Client.init Client.signedIn)) hiSentInA).getD
      (Page.init (Client.init Client.signedIn)))
    ((Page.exec 2 ((Page.exec 2 (Page.init (Client.init Client.signedIn)) hiSentInA).getD
      (Page.init (Client.init Client.signedIn))) closedThenB).getD
        (Page.init (Client.init Client.signedIn)))
    (by decide) rfl (SendInput.pendingMessage ⟨"m1", "t0", "gpt-4o", "s1"⟩ "hi") rfl []⟩

end ChatClient
