import ChatClient.Step

/-
  The reconnect backoff of `ws.onclose`.

  `step_backoff` says what one event does to `reconnectAttempts` and to the list of timers:
  nothing; or one more attempt below the cap of 3, with one timer whose delay is
  `backoffDelay` of the new count; or, for an `auth.success` frame from any socket, a reset to
  0. Every handler of every socket of the hook shares the counter, so this covers the sockets
  that a later `connect` replaced too. `reconnectAttempts_counts_backoff_timers`: after the
  last `auth.success` of a run (or from the hook's creation), the counter is at most 3 and is
  the number of timers scheduled since, whose delays are `min(1000·2^k, 10000)` for
  `k = 1, 2, 3`, that is 2000, 4000, 8000, in order (`backoffSchedule_eq_take`); a close with
  code 1000 or 4001 schedules none.
-/

namespace ChatClient

/-- Whether an event is an `auth.success` frame. -/
def Event.isAuthSuccess : Event → Bool
  | .received _ (.authSuccess _) => true
  | _ => false

/-- The delays of the first `n` reconnects after a reset: `min(1000·2^k, 10000)`, `k = 1..n`. -/
def backoffSchedule (n : Nat) : List Nat := (List.range n).map fun k => backoffDelay (k + 1)

theorem backoffSchedule_succ (n : Nat) :
    backoffSchedule (n + 1) = backoffSchedule n ++ [backoffDelay (n + 1)] := by
  simp [backoffSchedule, List.range_succ]

/-- Up to the cap, the schedule is 2000, 4000, 8000. -/
theorem backoffSchedule_eq_take : ∀ {n : Nat}, n ≤ maxReconnectAttempts →
    backoffSchedule n = [2000, 4000, 8000].take n
  | 0, _ | 1, _ | 2, _ | 3, _ => rfl
  | _ + 4, h => absurd h (by simp [maxReconnectAttempts])

namespace Client

variable {M : Nat} {c c' : Client} {e : Event}

/-- What one event does to the counter and the timers. -/
theorem step_backoff (h : c.step M e = some c') :
    (c'.reconnectAttempts = c.reconnectAttempts ∧ c'.timers = c.timers) ∨
    (c.reconnectAttempts < maxReconnectAttempts ∧
      c'.reconnectAttempts = c.reconnectAttempts + 1 ∧
      ∃ cl, c'.timers = c.timers ++ [⟨cl, backoffDelay (c.reconnectAttempts + 1)⟩]) ∨
    (e.isAuthSuccess = true ∧ c'.reconnectAttempts = 0 ∧ c'.timers = c.timers) := by
  cases e with
  | select id => obtain ⟨-, rfl⟩ := step_select.mp h; simp
  | setAccessToken t => simp only [step_setAccessToken, Option.some.injEq] at h; subst h; simp
  | retry => simp only [step_retry, Option.some.injEq] at h; subst h; simp
  | send content inp => simp only [step_send, Option.some.injEq] at h; subst h; simp
  | fire t => obtain ⟨tm, -, -, rfl⟩ := step_fire.mp h; simp
  | opened i => obtain ⟨w, -, -, rfl⟩ := step_opened.mp h; simp [onopen]
  | errored i => obtain ⟨w, -, -, rfl⟩ := step_errored.mp h; simp [onerror]
  | received i msg =>
    obtain ⟨w, -, -, rfl⟩ := step_received.mp h
    rcases onmessage_reconnectAttempts i msg c with hk | ⟨id, rfl, h0⟩
    · exact .inl ⟨hk, onmessage_timers _ _ c⟩
    · exact .inr (.inr ⟨rfl, h0, onmessage_timers _ _ c⟩)
  | closed i code =>
    obtain ⟨w, -, -, -, rfl⟩ := step_closed.mp h
    rcases onclose_backoff w code { c with sockets := _ } with hk | ⟨-, -, hlt, hn, ht⟩
    · exact .inl hk
    · exact .inr (.inl ⟨hlt, hn, _, ht⟩)

/-- A close with code 1000 or 4001 schedules no timer and leaves the counter. -/
theorem closed_normal_no_timer {i code : Nat} (hcode : code = 1000 ∨ code = 4001)
    (h : c.step M (.closed i code) = some c') :
    c'.timers = c.timers ∧ c'.reconnectAttempts = c.reconnectAttempts := by
  obtain ⟨w, -, -, -, rfl⟩ := step_closed.mp h
  rcases onclose_backoff w code { c with sockets := _ } with ⟨hn, ht⟩ | ⟨h1, h4, -⟩
  · exact ⟨ht, hn⟩
  · omega

/-- Counted from `τ`: the counter is at most 3 and is the number of timers scheduled after
    `τ`, whose delays are the backoff schedule. -/
def CountsFrom (τ c : Client) : Prop :=
  c.reconnectAttempts ≤ maxReconnectAttempts ∧
    ∃ sched, c.timers = τ.timers ++ sched ∧ sched.length = c.reconnectAttempts ∧
      sched.map Timer.delay = backoffSchedule c.reconnectAttempts

theorem countsFrom_self {τ : Client} (h : τ.reconnectAttempts = 0) : CountsFrom τ τ :=
  ⟨by simp [h, maxReconnectAttempts], [], by simp, by simp [h], by simp [h, backoffSchedule]⟩

theorem countsFrom_step {τ : Client} (hc : CountsFrom τ c) (he : e.isAuthSuccess = false)
    (h : c.step M e = some c') : CountsFrom τ c' := by
  obtain ⟨hle, sched, ht, hl, hd⟩ := hc
  rcases step_backoff h with ⟨hn, ht'⟩ | ⟨hlt, hn, cl, ht'⟩ | ⟨he', -, -⟩
  · exact ⟨hn ▸ hle, sched, ht' ▸ ht, hn ▸ hl, hn ▸ hd⟩
  · refine ⟨by omega, sched ++ [⟨cl, _⟩], by rw [ht', ht, List.append_assoc], by simp [hl, hn], ?_⟩
    rw [hn, backoffSchedule_succ, List.map_append, hd]; rfl
  · simp [he] at he'

/-- An `auth.success` frame resets the counter. -/
theorem reconnectAttempts_after_authSuccess {i : Nat} {id : String}
    (h : c.step M (.received i (.authSuccess id)) = some c') : c'.reconnectAttempts = 0 := by
  obtain ⟨w, -, -, rfl⟩ := step_received.mp h
  rfl

theorem reconnectAttempts_counts_backoff_timers :
    (∀ (auth : AuthState) (pre post : List Event) (τ c : Client),
      exec M (init auth) pre = some τ → exec M τ post = some c →
      (pre = [] ∨ ∃ pre' i id, pre = pre' ++ [.received i (.authSuccess id)]) →
      (∀ e ∈ post, e.isAuthSuccess = false) →
      c.reconnectAttempts ≤ maxReconnectAttempts ∧
        ∃ sched, c.timers = τ.timers ++ sched ∧ sched.length = c.reconnectAttempts ∧
          sched.map Timer.delay = [2000, 4000, 8000].take c.reconnectAttempts) ∧
    (∀ (c c' : Client) (i code : Nat), (code = 1000 ∨ code = 4001) →
      c.step M (.closed i code) = some c' → c'.timers = c.timers) := by
  refine ⟨fun auth pre post τ c hpre hpost hlast hnone => ?_,
    fun c c' i code hcode h => (closed_normal_no_timer hcode h).1⟩
  have hτ : τ.reconnectAttempts = 0 := by
    rcases hlast with rfl | ⟨pre', i, id, rfl⟩
    · cases hpre; rfl
    · obtain ⟨d, -, hd⟩ := exec_concat hpre
      exact reconnectAttempts_after_authSuccess hd
  obtain ⟨hle, sched, ht, hl, hd⟩ := exec_preserves (CountsFrom τ) (fun e => e.isAuthSuccess = false)
    (fun _ _ _ he hc h => countsFrom_step hc he h) post τ c hnone (countsFrom_self hτ) hpost
  exact ⟨hle, sched, ht, hl, hd.trans (backoffSchedule_eq_take hle)⟩

/-- Four abnormal closes in a row from a fresh client, each of a socket the previous timer
    opened. -/
def fourCloses : List Event :=
  [.select "c1", .closed 0 1006, .fire 0, .closed 1 1006, .fire 1, .closed 2 1006, .fire 2,
    .closed 3 1006]

theorem fourCloses_schedule_three_timers : ∃ c, exec 10000 (init signedIn) fourCloses = some c ∧
    c.reconnectAttempts ≤ maxReconnectAttempts ∧
      ∃ sched, c.timers = (init signedIn).timers ++ sched ∧ sched.length = c.reconnectAttempts ∧
        sched.map Timer.delay = [2000, 4000, 8000].take c.reconnectAttempts :=
  ⟨_, rfl, (@reconnectAttempts_counts_backoff_timers 10000).1 signedIn [] fourCloses _ _ rfl rfl (.inl rfl)
    (by decide)⟩

end Client

end ChatClient
