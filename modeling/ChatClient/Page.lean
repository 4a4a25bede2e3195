import Mathlib.Algebra.Order.Ring.Nat
import ChatClient.Step

/-
  `ChatPage`: `ConversationList` beside `ChatArea`, over the client of `Step`.

  `ChatPage` renders `ChatArea` while a conversation is selected and `ChatAreaEmpty` while
  none is. A click on a `ConversationItem` is `Event.select` (the first click mounts
  `ChatArea`). When the selection is cleared, `ChatArea` unmounts and its cleanup runs
  `disconnect()`, which closes only `wsRef.current` and cancels only `reconnectTimeoutRef`:
  the hook's other sockets and timers live on, and their handlers keep writing the shared
  stores through the refs of the unmounted hook (`Page.unmounted`; their events are
  `PageEvent.unmounted`). The next `ChatArea` starts with a hook of its own (`Hook.fresh`)
  and its `selectedModel` undefined. No `ChatArea` control (the retry button, `MessageInput`,
  the model selector) exists while none is mounted.

  `handleDelete(id)` calls `deleteConversation.mutate(id, { onSuccess })`, whose `onSuccess`
  compares `id` with the `currentConversationId` of the render that defined `handleDelete`,
  so a request keeps that value from the click (`DeleteRequest`). When a request succeeds,
  `useDeleteConversation`'s `onSuccess` drops the conversation's detail query, then the
  callback of the click clears the selection if the captured id was the deleted one.
  `handleNewConversation` and `ChatArea`'s `handleModelChange(modelId)` call
  `createConversation.mutate`; on success `useCreateConversation` only marks the
  conversation queries stale, and the callbacks select the new conversation,
  `handleModelChange`'s also setting `selectedModel`. TanStack Query runs a `mutate` call's
  callbacks only while its component is mounted, so those of a `ChatArea` that unmounted do
  not run. Every request's callbacks may run (the library runs only the latest `mutate`
  call's: those runs are among these); a request that fails runs none.
-/

namespace ChatClient

/-- A `deleteConversation.mutate` call: the conversation, and the `currentConversationId` its
    `onSuccess` compares against. -/
structure DeleteRequest where
  id : String
  currentConversationId : Option String
  deriving DecidableEq, Repr

/-- A `createConversation.mutate` call. -/
inductive CreateRequest
  /-- `ConversationList.handleNewConversation`. -/
  | newConversation
  /-- `ChatArea.handleModelChange(modelId)`, from the `ChatArea` whose hook is number `hook`. -/
  | modelChange (modelId : String) (hook : Nat)
  deriving DecidableEq, Repr

/-- `queryClient.removeQueries({ queryKey })`: drops the cached queries under `queryKey`. -/
def removeQueries (queryKey : List String) (cache : List (List String)) : List (List String) :=
  cache.filter fun k => !queryKey.isPrefixOf k

/-- `queryKeys.conversations.detail(id)`. -/
def conversationDetailKey (id : String) : List String := ["conversations", "detail", id]

/-- The chat page. `client` holds the stores and the hook of the mounted `ChatArea` (a fresh
    one while none is mounted), `unmounted` the hooks of the `ChatArea`s that unmounted, in
    order, so the mounted one is number `unmounted.length`; `selectedModel` is the mounted
    `ChatArea`'s state. Request ids are positions in `deletes` and `creates`, which only grow;
    the pending lists hold the requests not settled. -/
structure Page where
  client : Client
  unmounted : List Hook
  selectedModel : Option String
  deletes : List DeleteRequest
  pendingDeletes : List Nat
  creates : List CreateRequest
  pendingCreates : List Nat
  deriving DecidableEq, Repr

/-- An event of the page. -/
inductive PageEvent
  /-- An event of the client: the user, a new token, or a socket or timer of the mounted
      `ChatArea`'s hook. -/
  | client (e : Event)
  /-- An event of a socket or timer of unmounted hook `hook`. -/
  | unmounted (hook : Nat) (e : Event)
  /-- A click on a conversation's delete button. -/
  | delete (id : String)
  | deleted (request : Nat)
  /-- A click on the new-conversation button (`none`), or a model chosen in `ChatArea`. -/
  | create (modelId : Option String)
  /-- The success of a create request, with the new conversation's id. -/
  | created (request : Nat) (id : String)
  deriving DecidableEq, Repr

/-- The controls of `ChatArea`: the retry button and `MessageInput`. -/
def Event.inChatArea : Event → Bool
  | .retry | .send _ _ => true
  | _ => false

/-- The events of sockets and timers. -/
def Event.fromBrowser : Event → Bool
  | .fire _ | .opened _ | .received _ _ | .errored _ | .closed _ _ => true
  | _ => false

/-- Replacing element `k` of a list replaces its term in the sum. -/
theorem List.sum_map_set {α : Type} (f : α → Nat) {x y : α} :
    ∀ {l : List α} {k : Nat}, l[k]? = some y →
      ∃ r, (l.map f).sum = r + f y ∧ ((l.set k x).map f).sum = r + f x
  | a :: l, 0, h => by
    simp only [List.getElem?_cons_zero, Option.some.injEq] at h; subst h
    exact ⟨_, by rw [List.map_cons, List.sum_cons, Nat.add_comm],
      by rw [List.set_cons_zero, List.map_cons, List.sum_cons, Nat.add_comm]⟩
  | a :: l, k + 1, h => by
    obtain ⟨r, h₁, h₂⟩ := sum_map_set f (x := x) (l := l) (k := k) (by simpa using h)
    exact ⟨f a + r, by rw [List.map_cons, List.sum_cons, h₁, Nat.add_assoc],
      by rw [List.set_cons_succ, List.map_cons, List.sum_cons, h₂, Nat.add_assoc]⟩

namespace Page

/-- The page on a client, with no `ChatArea` unmounted and no request made. -/
def init (c : Client) : Page := ⟨c, [], none, [], [], [], []⟩

/-- Every hook of the page: the unmounted ones, then the mounted `ChatArea`'s. -/
def hooks (p : Page) : List Hook := p.unmounted ++ [p.client.hook]

/-- `handleDelete(id)`: a request that captures the selection of this render. -/
def handleDelete (id : String) (p : Page) : Page :=
  { p with deletes := p.deletes ++ [⟨id, p.client.chat.currentConversationId⟩],
           pendingDeletes := p.pendingDeletes ++ [p.deletes.length] }

/-- `setCurrentConversationId(null)`: with a selection, `ChatArea` unmounts, its cleanup runs
    `disconnect()`, and its hook joins the unmounted ones; without one nothing changes. -/
def clearSelection (p : Page) : Page :=
  if p.client.mounted then
    let c := { p.client with chat := p.client.chat.setCurrentConversationId none }.disconnect
    { p with client := c.withHook Hook.fresh, unmounted := p.unmounted ++ [c.hook],
             selectedModel := none }
  else p

/-- A delete request's success: `useDeleteConversation`'s `onSuccess`, then the click's. -/
def deleteSucceeded (r : DeleteRequest) (p : Page) : Page :=
  let p := { p with client := { p.client with
    queryCache := removeQueries (conversationDetailKey r.id) p.client.queryCache } }
  if r.currentConversationId = some r.id then p.clearSelection else p

/-- `createConversation.mutate` from the new-conversation button, or from the model selector
    of the mounted `ChatArea`. -/
def handleCreate (modelId : Option String) (p : Page) : Page :=
  let r : CreateRequest := match modelId with
    | none => .newConversation
    | some m => .modelChange m p.unmounted.length
  { p with creates := p.creates ++ [r], pendingCreates := p.pendingCreates ++ [p.creates.length] }

/-- A create request's success with the new conversation `id`: the callback of the
    `mutate` call, `setCurrentConversationId(id)`, and for `handleModelChange` also
    `setSelectedModel(modelId)`, which runs only if its `ChatArea` is still the mounted one. -/
def createSucceeded (r : CreateRequest) (id : String) (p : Page) : Page :=
  match r with
  | .newConversation => { p with client := p.client.select id }
  | .modelChange modelId hook =>
    if hook = p.unmounted.length ∧ p.client.mounted then
      { p with client := p.client.select id, selectedModel := some modelId }
    else p

/-- One event. -/
def step (MAX_USER_MESSAGE_LENGTH : Nat) (p : Page) : PageEvent → Option Page
  | .client e =>
    if e.inChatArea && !p.client.mounted then none
    else (p.client.step MAX_USER_MESSAGE_LENGTH e).map fun c => { p with client := c }
  | .unmounted k e =>
    match p.unmounted[k]? with
    | some h =>
      if e.fromBrowser then
        ((p.client.withHook h).step MAX_USER_MESSAGE_LENGTH e).map fun c =>
          { p with client := c.withHook p.client.hook, unmounted := p.unmounted.set k c.hook }
      else none
    | none => none
  | .delete id => some (p.handleDelete id)
  | .deleted k =>
    match p.deletes[k]? with
    | some r =>
      if k ∈ p.pendingDeletes then
        some { p.deleteSucceeded r with pendingDeletes := p.pendingDeletes.erase k }
      else none
    | none => none
  | .create modelId =>
    if modelId.isSome && !p.client.mounted then none else some (p.handleCreate modelId)
  | .created k id =>
    match p.creates[k]? with
    | some r =>
      if k ∈ p.pendingCreates ∧ id ≠ "" then
        some { p.createSucceeded r id with pendingCreates := p.pendingCreates.erase k }
      else none
    | none => none

/-- A run of events. -/
def exec (MAX_USER_MESSAGE_LENGTH : Nat) : Page → List PageEvent → Option Page
  | p, [] => some p
  | p, e :: es => (p.step MAX_USER_MESSAGE_LENGTH e).bind (exec MAX_USER_MESSAGE_LENGTH · es)

section Inversion

variable {M : Nat} {p p' : Page}

theorem step_client {e : Event} : p.step M (.client e) = some p' ↔
    (e.inChatArea = false ∨ p.client.mounted = true) ∧
      ∃ c, p.client.step M e = some c ∧ { p with client := c } = p' := by
  simp only [step]
  cases e.inChatArea <;> cases p.client.mounted <;> simp

theorem step_unmounted {k : Nat} {e : Event} : p.step M (.unmounted k e) = some p' ↔
    ∃ h c, p.unmounted[k]? = some h ∧ e.fromBrowser = true ∧
      (p.client.withHook h).step M e = some c ∧
      { p with client := c.withHook p.client.hook, unmounted := p.unmounted.set k c.hook } = p' := by
  simp only [step]
  cases p.unmounted[k]? <;> cases e.fromBrowser <;> simp

@[simp] theorem step_delete (id : String) : p.step M (.delete id) = some (p.handleDelete id) := rfl

theorem step_deleted {k : Nat} : p.step M (.deleted k) = some p' ↔
    ∃ r, p.deletes[k]? = some r ∧ k ∈ p.pendingDeletes ∧
      { p.deleteSucceeded r with pendingDeletes := p.pendingDeletes.erase k } = p' := by
  simp only [step]; cases p.deletes[k]? <;> simp

theorem step_create {modelId : Option String} : p.step M (.create modelId) = some p' ↔
    (modelId.isSome = false ∨ p.client.mounted = true) ∧ p.handleCreate modelId = p' := by
  simp only [step]
  cases modelId.isSome <;> cases p.client.mounted <;> simp

theorem step_created {k : Nat} {id : String} : p.step M (.created k id) = some p' ↔
    ∃ r, p.creates[k]? = some r ∧ k ∈ p.pendingCreates ∧ id ≠ "" ∧
      { p.createSucceeded r id with pendingCreates := p.pendingCreates.erase k } = p' := by
  simp only [step]; cases p.creates[k]? <;> simp [and_assoc]

end Inversion

/-- `clearSelection` leaves the page, or unmounts `ChatArea`. -/
theorem clearSelection_cases (p : Page) : p.clearSelection = p ∨
    (p.client.mounted = true ∧ p.clearSelection =
      { p with
        client := ({ p.client with chat := p.client.chat.setCurrentConversationId none }.disconnect).withHook Hook.fresh,
        unmounted := p.unmounted ++
          [({ p.client with chat := p.client.chat.setCurrentConversationId none }.disconnect).hook],
        selectedModel := none }) := by
  unfold clearSelection; split_ifs with h
  exacts [.inr ⟨h, rfl⟩, .inl rfl]

@[simp] theorem deleteSucceeded_deletes (r : DeleteRequest) (p : Page) :
    (p.deleteSucceeded r).deletes = p.deletes := by
  unfold deleteSucceeded clearSelection; dsimp only; split_ifs <;> rfl

@[simp] theorem deleteSucceeded_streamingMessage (r : DeleteRequest) (p : Page) :
    (p.deleteSucceeded r).client.chat.streamingMessage = p.client.chat.streamingMessage := by
  unfold deleteSucceeded clearSelection; dsimp only; split_ifs <;> rfl

/-- A delete request's success keeps the hooks, or retires the mounted one after its
    `disconnect()` and mounts none. -/
theorem deleteSucceeded_hooks (r : DeleteRequest) (p : Page) :
    (p.deleteSucceeded r).hooks = p.hooks ∨
      (p.deleteSucceeded r).hooks = p.unmounted ++ [p.client.disconnect.hook, Hook.fresh] := by
  unfold deleteSucceeded; dsimp only; split_ifs
  · rcases clearSelection_cases { p with client := { p.client with queryCache := _ } }
      with hc | ⟨-, hc⟩ <;> rw [hc]
    exacts [.inl rfl, .inr (by simp [hooks]; rfl)]
  · exact .inl rfl

/-- A create request's success selects the new conversation, or changes nothing. -/
theorem createSucceeded_client (r : CreateRequest) (id : String) (p : Page) :
    (p.createSucceeded r id).client = p.client.select id ∨ p.createSucceeded r id = p := by
  cases r with
  | newConversation => exact .inl rfl
  | modelChange m n =>
    by_cases hc : n = p.unmounted.length ∧ p.client.mounted = true
    · exact .inl (by simp only [createSucceeded, if_pos hc])
    · exact .inr (by simp only [createSucceeded, if_neg hc])

@[simp] theorem createSucceeded_unmounted (r : CreateRequest) (id : String) (p : Page) :
    (p.createSucceeded r id).unmounted = p.unmounted := by
  cases r with
  | newConversation => rfl
  | modelChange m n => dsimp only [createSucceeded]; split_ifs <;> rfl

theorem forall_mem_hooks {P : Hook → Prop} {p : Page} :
    (∀ h ∈ p.hooks, P h) ↔ (∀ h ∈ p.unmounted, P h) ∧ P p.client.hook := by
  simp [hooks, or_imp, forall_and]

/-- A property of pages that every step by an event satisfying `Q` keeps holds after every run
    of such events. -/
theorem exec_preserves {M : Nat} (I : Page → Prop) (Q : PageEvent → Prop)
    (hstep : ∀ p e p', Q e → I p → p.step M e = some p' → I p') :
    ∀ (es : List PageEvent) (p p' : Page), (∀ e ∈ es, Q e) → I p → exec M p es = some p' → I p'
  | [], p, p', _, hp, h => by cases h; exact hp
  | e :: es, p, p', hq, hp, h => by
    obtain ⟨d, hd, h⟩ := Option.bind_eq_some.mp h
    exact exec_preserves I Q hstep es d p' (fun e he => hq e (.tail _ he))
      (hstep p e d (hq e (.head _)) hp hd) h

/-- A property of the client's stores, kept by `withHook`, by every step of an event of the
    client or of an unmounted hook that satisfies `Q`, by a click, by the cache's changes and by
    the unmount of `ChatArea`, holds after every run of the page by events satisfying `Q`. -/
theorem exec_preserves_stores {M : Nat} (P : Client → Prop) (Q : PageEvent → Prop)
    (hhook : ∀ c h, P c → P (c.withHook h))
    (hstep : ∀ c e c', (Q (.client e) ∨ ∃ k, Q (.unmounted k e)) → P c → c.step M e = some c' →
      P c')
    (hunmount : ∀ c, P c → P { c with chat := c.chat.setCurrentConversationId none }.disconnect)
    (hcache : ∀ c q, P c → P { c with queryCache := q })
    (hselect : ∀ c id, P c → P (c.select id)) :
    ∀ (es : List PageEvent) (p p' : Page), (∀ e ∈ es, Q e) → P p.client →
      exec M p es = some p' → P p'.client :=
  exec_preserves (fun p => P p.client) Q fun p e p' hq hp h => by
    cases e with
    | client e => obtain ⟨-, c, hs, rfl⟩ := step_client.mp h; exact hstep _ e c (.inl hq) hp hs
    | unmounted k e =>
      obtain ⟨hk, c, -, -, hs, rfl⟩ := step_unmounted.mp h
      exact hhook _ _ (hstep _ e c (.inr ⟨k, hq⟩) (hhook _ _ hp) hs)
    | delete => simp only [step_delete, Option.some.injEq] at h; subst h; exact hp
    | deleted k =>
      obtain ⟨r, -, -, rfl⟩ := step_deleted.mp h
      have hq : P { p.client with
          queryCache := removeQueries (conversationDetailKey r.id) p.client.queryCache } :=
        hcache _ _ hp
      show P (deleteSucceeded r p).client
      unfold deleteSucceeded; dsimp only; split_ifs
      · rcases clearSelection_cases { p with client := { p.client with queryCache := _ } }
          with hc | ⟨-, hc⟩ <;> rw [hc]
        exacts [hq, hhook _ _ (hunmount _ hq)]
      · exact hq
    | create => obtain ⟨-, rfl⟩ := step_create.mp h; exact hp
    | created k id =>
      obtain ⟨r, -, -, -, rfl⟩ := step_created.mp h
      show P (createSucceeded r id p).client
      rcases createSucceeded_client r id p with hc | hc <;> rw [hc]
      exacts [hselect _ id hp, hp]

/-- A property of hooks that a fresh hook has, and that the step of an event satisfying `Q`,
    the unmount's `disconnect` and a click keep, holds of every hook along every run of the
    page by events satisfying `Q`. -/
theorem exec_preserves_hooks {M : Nat} (P : Hook → Prop) (Q : PageEvent → Prop)
    (hfresh : P Hook.fresh)
    (hstep : ∀ (c : Client) e c', (Q (.client e) ∨ ∃ k, Q (.unmounted k e)) → P c.hook →
      c.step M e = some c' → P c'.hook)
    (hunmount : ∀ c : Client, P c.hook → P c.disconnect.hook)
    (hselect : ∀ (c : Client) id, P c.hook → P (c.select id).hook) :
    ∀ (es : List PageEvent) (p p' : Page), (∀ e ∈ es, Q e) → (∀ h ∈ p.hooks, P h) →
      exec M p es = some p' → ∀ h ∈ p'.hooks, P h :=
  exec_preserves (fun p => ∀ h ∈ p.hooks, P h) Q fun p e p' hq hp h => by
    have hp' := forall_mem_hooks.mp hp
    cases e with
    | client e =>
      obtain ⟨-, c, hs, rfl⟩ := step_client.mp h
      exact forall_mem_hooks.mpr ⟨hp'.1, hstep _ e c (.inl hq) hp'.2 hs⟩
    | unmounted k e =>
      obtain ⟨hh, c, hk, -, hs, rfl⟩ := step_unmounted.mp h
      have hc : P c.hook := hstep _ e c (.inr ⟨k, hq⟩)
        (by rw [Client.hook_withHook]; exact hp'.1 hh (List.getElem?_mem hk)) hs
      refine forall_mem_hooks.mpr ⟨fun x hx => ?_, by simpa using hp'.2⟩
      rcases List.mem_or_eq_of_mem_set hx with hx | rfl
      exacts [hp'.1 x hx, hc]
    | delete => simp only [step_delete, Option.some.injEq] at h; subst h; exact hp
    | deleted k =>
      obtain ⟨r, -, -, rfl⟩ := step_deleted.mp h
      show ∀ h ∈ (deleteSucceeded r p).hooks, P h
      rcases deleteSucceeded_hooks r p with hd | hd <;> rw [hd]
      · exact hp
      · exact List.forall_mem_append.mpr ⟨hp'.1, List.forall_mem_cons.mpr
          ⟨hunmount _ hp'.2, List.forall_mem_singleton.mpr hfresh⟩⟩
    | create => obtain ⟨-, rfl⟩ := step_create.mp h; exact hp
    | created k id =>
      obtain ⟨r, -, -, -, rfl⟩ := step_created.mp h
      refine forall_mem_hooks.mpr ?_
      show (∀ h ∈ (createSucceeded r id p).unmounted, P h) ∧ P (createSucceeded r id p).client.hook
      rw [createSucceeded_unmounted]
      rcases createSucceeded_client r id p with hc | hc <;> rw [hc]
      exacts [⟨hp'.1, hselect _ id hp'.2⟩, hp']

end Page

end ChatClient
