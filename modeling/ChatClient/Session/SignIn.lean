import ChatClient.View

/-
  Signing in and out, on the auth store (`hooks/queries/useAuth.ts`), and what the router
  shows of it.

  Three things write the store: `initAuth`, the body of `useAuthInit`'s effect, which
  `AuthInitializer` starts while the store is not initialized; `useLogin`'s `onSuccess`; and
  `useLogout`'s `onSettled`. Their requests are inputs: how `initAuth`'s `refresh()` and
  `getMe()` end is an `InitOutcome`. While `initAuth` awaits, both layouts show the spinner,
  so no other event falls between its writes and it is one event here. Its guard is read
  when the effect starts, not when it finishes, so a finish is taken whatever the store holds
  (an effect started twice finishes twice).

  Every event keeps `AuthState.Valid`: a user is stored exactly when `isAuthenticated`, and
  then a token is stored too. Every `setUser` with a user follows a `setAccessToken`, and
  `logout()` clears both. So whenever the router renders `ChatPage`, the store holds a user
  and the token that `useWebSocket` sends in its `auth` frame (`chatPage_has_user_and_token`).
  `isInitialized` is set by the end of `initAuth` and by `login`, and cleared by nothing:
  the spinner is shown exactly until one of them has happened (`spinner_iff_not_initialized`).
-/

namespace ChatClient

/-- How `initAuth`'s requests end: `authApi.refresh()` throws; it returns `access` and
    `authApi.getMe()` throws; both return. -/
inductive InitOutcome
  | refreshFailed
  | getMeFailed (access : String)
  | succeeded (access : String) (user : User)
  deriving DecidableEq, Repr

/-- An event on the auth store. -/
inductive AuthEvent
  /-- `initAuth` finishes. -/
  | initialized (outcome : InitOutcome)
  /-- `useLogin`'s `onSuccess`. -/
  | loggedIn (user : User) (access : String)
  /-- `useLogout`'s `onSettled`. -/
  | loggedOut
  deriving DecidableEq, Repr

/-- The events that leave the store initialized. -/
def AuthEvent.initializes : AuthEvent → Bool
  | .loggedOut => false
  | _ => true

namespace AuthState

/-- `initAuth`: `setAccessToken(access)` and `setUser(user)` as the requests return,
    `logout()` in the `catch`, `setInitialized(true)` in the `finally`. -/
def initAuth : InitOutcome → AuthState → AuthState
  | .refreshFailed, s => s.logout.setInitialized true
  | .getMeFailed access, s => ((s.setAccessToken (some access)).logout).setInitialized true
  | .succeeded access user, s =>
    ((s.setAccessToken (some access)).setUser (some user)).setInitialized true

/-- One event. -/
def step (s : AuthState) : AuthEvent → AuthState
  | .initialized outcome => s.initAuth outcome
  | .loggedIn user access => s.login user access
  | .loggedOut => s.logout

/-- A run of events. -/
def run (s : AuthState) (es : List AuthEvent) : AuthState := es.foldl step s

@[simp] theorem run_nil (s : AuthState) : s.run [] = s := rfl

@[simp] theorem run_append (s : AuthState) (es fs : List AuthEvent) :
    s.run (es ++ fs) = (s.run es).run fs := List.foldl_append _ _ _ _

@[simp] theorem run_singleton (s : AuthState) (e : AuthEvent) : s.run [e] = s.step e := rfl

/-- A user is stored exactly when `isAuthenticated`, and then a token is stored too. -/
def Valid (s : AuthState) : Prop :=
  s.isAuthenticated = s.user.isSome ∧ (s.isAuthenticated = true → s.accessToken.isSome)

theorem valid_init : init.Valid := ⟨rfl, nofun⟩

/-- Each event writes the user, the flag and the token together, so it leaves a valid store
    whatever it started from. -/
theorem valid_step (s : AuthState) (e : AuthEvent) : (s.step e).Valid := by
  cases e with
  | initialized outcome => cases outcome <;> simp [Valid, step, initAuth]
  | loggedIn => exact ⟨rfl, fun _ => rfl⟩
  | loggedOut => exact ⟨rfl, nofun⟩

theorem valid_run {s : AuthState} (hs : s.Valid) (es : List AuthEvent) : (s.run es).Valid := by
  rcases List.eq_nil_or_concat es with rfl | ⟨es, e, rfl⟩
  · exact hs
  · simpa using valid_step (s.run es) e

theorem step_isInitialized (s : AuthState) (e : AuthEvent) :
    (s.step e).isInitialized = (s.isInitialized || e.initializes) := by
  cases e with
  | initialized outcome => cases outcome <;> simp [step, initAuth, AuthEvent.initializes]
  | _ => simp [step, AuthEvent.initializes]

/-- The store is initialized after a run exactly when it was, or an event of the run
    initializes it. -/
theorem run_isInitialized (s : AuthState) (es : List AuthEvent) :
    (s.run es).isInitialized = (s.isInitialized || es.any AuthEvent.initializes) := by
  induction es using List.reverseRecOn with
  | nil => simp
  | append_singleton es e ih => simp [step_isInitialized, ih, Bool.or_assoc]

end AuthState

section Routes

variable {s : AuthState} {l : Location}

/-- The router renders `ChatPage` only on `/chat`, with the store initialized and
    authenticated. -/
theorem route_eq_chatPage (h : route s l = .chatPage) :
    l = .chat ∧ s.isInitialized = true ∧ s.isAuthenticated = true := by
  cases l <;> cases hi : s.isInitialized <;> cases ha : s.isAuthenticated <;>
    simp_all [route, authLayout, chatLayout]

/-- Under the layouts, the spinner shows exactly while the store is not initialized. -/
theorem route_eq_spinner (hl : l = .login ∨ l = .register ∨ l = .chat) :
    route s l = .spinner ↔ s.isInitialized = false := by
  rcases hl with rfl | rfl | rfl <;> cases hi : s.isInitialized <;>
    cases ha : s.isAuthenticated <;> simp [route, authLayout, chatLayout, hi, ha]

/-- In every state a run of sign-in events reaches from the initial store, whenever the router
    renders `ChatPage` the store holds a user and an access token. -/
theorem chatPage_has_user_and_token {es : List AuthEvent}
    (h : route (AuthState.init.run es) l = .chatPage) :
    ∃ user token, (AuthState.init.run es).user = some user ∧
      (AuthState.init.run es).accessToken = some token := by
  obtain ⟨-, -, ha⟩ := route_eq_chatPage h
  obtain ⟨hu, ht⟩ := AuthState.valid_run AuthState.valid_init es
  obtain ⟨user, hu⟩ := Option.isSome_iff_exists.mp (hu ▸ ha)
  obtain ⟨token, ht⟩ := Option.isSome_iff_exists.mp (ht ha)
  exact ⟨user, token, hu, ht⟩

/-- The spinner of the layouts shows exactly until `initAuth` finishes or a login succeeds. -/
theorem spinner_iff_not_initialized (es : List AuthEvent)
    (hl : l = .login ∨ l = .register ∨ l = .chat) :
    route (AuthState.init.run es) l = .spinner ↔ es.any AuthEvent.initializes = false := by
  rw [route_eq_spinner hl, AuthState.run_isInitialized]
  rfl

/-- Over every run of sign-in events from the initial store: under the layouts the spinner
    shows exactly until `initAuth` has finished or a login has succeeded, and the router
    renders `ChatPage` only with a user and an access token stored. -/
theorem signIn_routes (es : List AuthEvent) (l : Location) :
    ((l = .login ∨ l = .register ∨ l = .chat) →
      (route (AuthState.init.run es) l = .spinner ↔ es.any AuthEvent.initializes = false)) ∧
    (route (AuthState.init.run es) l = .chatPage →
      ∃ user token, (AuthState.init.run es).user = some user ∧
        (AuthState.init.run es).accessToken = some token) :=
  ⟨spinner_iff_not_initialized es, chatPage_has_user_and_token⟩

end Routes

end ChatClient
