import Mathlib.Algebra.Order.BigOperators.Group.List
import ChatClient.Page

/-
  How many sockets the hooks open on their own.

  A socket is opened by `connect`: on a selection, on the retry button, on a new token, or when
  a reconnect timer fires. A timer is scheduled by `onclose` only below the cap of
  `reconnectAttempts`, and only an `auth.success` frame lowers the counter again. So a hook's
  sockets, its pending timers and its attempts left (`Hook.budget`; a hook with neither
  sockets nor timers, such as the fresh one a `ChatArea` mounts with, has no attempts to
  spend until a selection) never grow on an event other than those (`budget_step`): a firing
  timer trades a pending timer for at most one socket, and a scheduling close trades an
  attempt for a timer. The unmount of `ChatArea` by a delete request's success cancels at most
  a timer of the hook it retires. Whatever the interleaving, and however many sockets of
  however many hooks close abnormally, stale ones included, a run of the chat page without
  those events ends with at most as many sockets as the hooks had sockets, pending timers and
  attempts left (`reconnects_bounded`): from a fresh mount, four.
-/

namespace ChatClient

/-- The events after which a hook may open sockets beyond its budget: a selection, the retry
    button and a new token, and an `auth.success` frame, which resets the counter. -/
def Event.rearms : Event → Bool
  | .select _ | .retry | .setAccessToken _ => true
  | .received _ (.authSuccess _) => true
  | _ => false

/-- The rearming events of any hook, and a create request's success, which selects. -/
def PageEvent.rearms : PageEvent → Bool
  | .client e | .unmounted _ e => e.rearms
  | .created _ _ => true
  | _ => false

namespace Hook

/-- The sockets, the pending timers and, on a hook that has either, the reconnect attempts
    left. -/
def budget (h : Hook) : Nat :=
  h.sockets.length + h.pendingTimers.length +
    if h.sockets.length + h.pendingTimers.length = 0 then 0
    else maxReconnectAttempts - h.reconnectAttempts

/-- Fewer sockets and timers under the same counter: a smaller budget. -/
theorem budget_le {h h' : Hook}
    (hn : h'.sockets.length + h'.pendingTimers.length ≤ h.sockets.length + h.pendingTimers.length)
    (ha : h'.reconnectAttempts = h.reconnectAttempts) : h'.budget ≤ h.budget := by
  unfold budget; split_ifs <;> omega

@[simp] theorem budget_fresh : fresh.budget = 0 := rfl

end Hook

namespace Client

variable {M : Nat} {c c' : Client}

theorem length_sockets_connect (cl : Closure) (c : Client) :
    (c.connect cl).sockets.length ≤ c.sockets.length + 1 := by
  unfold connect; split <;> (try split_ifs) <;> simp

@[simp] theorem connect_pendingTimers (cl : Closure) (c : Client) :
    (c.connect cl).pendingTimers = c.pendingTimers := by
  unfold connect; split <;> (try split_ifs) <;> rfl

theorem budget_disconnect (c : Client) : c.disconnect.hook.budget ≤ c.hook.budget := by
  refine Hook.budget_le ?_ rfl
  cases ht : c.reconnectTimeoutRef with
  | none => simp [hook, ht, clearTimeout]
  | some t =>
    have := List.length_erase_le t c.pendingTimers
    simp only [hook, disconnect_sockets, length_closeRef, disconnect_pendingTimers, ht,
      clearTimeout]
    omega

theorem handleSend_budget (content : String) (inp : SendInput) (c : Client) :
    (c.handleSend M content inp).hook.budget ≤ c.hook.budget := by
  rcases handleSend_cases M content inp c with h | ⟨i, -, h⟩ | h <;> rw [h] <;>
    exact Hook.budget_le (by simp [hook]) rfl

theorem onmessage_budget {i : Nat} {msg : WSIncomingMessage}
    (he : (Event.received i msg).rearms = false) (c : Client) :
    (c.onmessage i msg).hook.budget ≤ c.hook.budget := by
  cases msg with
  | authSuccess => simp [Event.rearms] at he
  | ping => exact Hook.budget_le (by simp [hook, onmessage]) rfl
  | chatStream | chatError | unhandled => exact le_rfl

/-- On a hook with a socket, a close trades an attempt for a pending timer, or changes
    neither. -/
theorem onclose_budget (w : Socket) (code : Nat) (hs : 0 < c.sockets.length) :
    (c.onclose w code).hook.budget = c.hook.budget := by
  unfold onclose Hook.budget; dsimp only [hook]
  split_ifs <;> simp only [List.length_append, List.length_singleton] at * <;> omega

/-- No event but a selection, the retry button, a new token and an `auth.success` raises the
    budget of the hook it runs on. -/
theorem budget_step {e : Event} (he : e.rearms = false) (h : c.step M e = some c') :
    c'.hook.budget ≤ c.hook.budget := by
  cases e with
  | select | retry | setAccessToken => simp [Event.rearms] at he
  | fire t =>
    obtain ⟨tm, -, ht, rfl⟩ := step_fire.mp h
    have hs :=
      length_sockets_connect tm.callback { c with pendingTimers := c.pendingTimers.erase t }
    have hp := List.length_erase_of_mem ht
    have hpos := List.length_pos_of_mem ht
    refine Hook.budget_le ?_ (connect_reconnectAttempts _ _)
    simp only [hook, connect_pendingTimers] at hs ⊢
    omega
  | send content inp =>
    simp only [step_send, Option.some.injEq] at h; subst h
    exact handleSend_budget content inp c
  | opened i =>
    obtain ⟨w, -, -, rfl⟩ := step_opened.mp h
    exact Hook.budget_le (by simp [hook, onopen]) rfl
  | received i msg =>
    obtain ⟨w, -, -, rfl⟩ := step_received.mp h
    exact onmessage_budget he c
  | errored i => obtain ⟨w, -, -, rfl⟩ := step_errored.mp h; exact le_rfl
  | closed i code =>
    obtain ⟨w, hw, -, -, rfl⟩ := step_closed.mp h
    have hi := (List.getElem?_eq_some_iff.mp hw).1
    rw [onclose_budget w code (by simpa using Nat.zero_lt_of_lt hi)]
    exact Hook.budget_le (by simp [hook]) rfl

end Client

namespace Page

variable {M : Nat} {p p' : Page}

/-- The budgets of every hook of the page. -/
def budget (p : Page) : Nat := (p.hooks.map Hook.budget).sum

/-- The sockets of every hook of the page. -/
def socketCount (p : Page) : Nat := (p.hooks.map fun h => h.sockets.length).sum

theorem budget_eq (p : Page) :
    p.budget = (p.unmounted.map Hook.budget).sum + p.client.hook.budget := by
  simp [budget, hooks]

theorem socketCount_le_budget (p : Page) : p.socketCount ≤ p.budget :=
  List.sum_le_sum fun h _ => by unfold Hook.budget; omega

/-- A delete request's success retires the mounted hook at most, after its `disconnect()`. -/
theorem budget_deleteSucceeded (r : DeleteRequest) (p : Page) :
    (p.deleteSucceeded r).budget ≤ p.budget := by
  unfold budget
  rcases deleteSucceeded_hooks r p with hd | hd <;> rw [hd]
  have := Client.budget_disconnect p.client
  simp only [hooks, List.map_append, List.sum_append, List.map_cons, List.map_nil,
    List.sum_cons, List.sum_nil, Hook.budget_fresh]
  omega

/-- No event of the page but the rearming ones raises the page's budget. -/
theorem budget_step {e : PageEvent} (he : e.rearms = false) (h : p.step M e = some p') :
    p'.budget ≤ p.budget := by
  cases e with
  | client e =>
    obtain ⟨-, c, hs, rfl⟩ := step_client.mp h
    rw [budget_eq, budget_eq]
    exact Nat.add_le_add_left (Client.budget_step he hs) _
  | unmounted k e =>
    obtain ⟨hh, c, hk, -, hs, rfl⟩ := step_unmounted.mp h
    obtain ⟨r, h₁, h₂⟩ := List.sum_map_set Hook.budget (x := c.hook) hk
    have hc := Client.budget_step he hs
    rw [Client.hook_withHook] at hc
    rw [budget_eq, budget_eq]
    simp only [h₁, h₂, Client.hook_withHook]
    omega
  | delete => exact le_of_eq (by simp only [step_delete, Option.some.injEq] at h; subst h; rfl)
  | deleted k => obtain ⟨r, -, -, rfl⟩ := step_deleted.mp h; exact budget_deleteSucceeded r p
  | create => obtain ⟨-, rfl⟩ := step_create.mp h; exact le_rfl
  | created => simp [PageEvent.rearms] at he

/-- Over any run of the chat page without a selection, the retry button, a new token, a create
    request's success or an `auth.success` frame of any hook, the hooks end with at most as
    many sockets as they had sockets, pending timers and attempts left. -/
theorem reconnects_bounded {es : List PageEvent} (hes : ∀ e ∈ es, e.rearms = false)
    (h : exec M p es = some p') : p'.socketCount ≤ p.budget :=
  (socketCount_le_budget p').trans <|
    exec_preserves (fun q : Page => q.budget ≤ p.budget) (fun e => e.rearms = false)
      (fun _ _ _ he hc hd => (budget_step he hd).trans hc) es p p' hes le_rfl h

/-- The server drops every socket before it opens, four times in a row. -/
def refusedFourTimes : List PageEvent :=
  ([.closed 0 1006, .fire 0, .closed 1 1006, .fire 1, .closed 2 1006, .fire 2, .closed 3 1006] :
    List Event).map PageEvent.client

/-- From conversation `A`'s first socket, the three reconnects reach the bound. -/
theorem refusedFourTimes_opens_three : ∃ p p',
    exec 2 (init (Client.init Client.signedIn)) [.client (.select "A")] = some p ∧
    (∀ e ∈ refusedFourTimes, e.rearms = false) ∧
    exec 2 p refusedFourTimes = some p' ∧ p.budget = 4 ∧ p'.socketCount = 4 ∧
    p'.socketCount ≤ p.budget :=
  ⟨_, _, rfl, by decide, rfl, rfl, rfl, @reconnects_bounded 2
    ((exec 2 (init (Client.init Client.signedIn)) [.client (.select "A")]).getD
      (init (Client.init Client.signedIn)))
    ((exec 2 ((exec 2 (init (Client.init Client.signedIn)) [.client (.select "A")]).getD
      (init (Client.init Client.signedIn))) refusedFourTimes).getD
        (init (Client.init Client.signedIn))) refusedFourTimes (by decide) rfl⟩

end Page

end ChatClient
