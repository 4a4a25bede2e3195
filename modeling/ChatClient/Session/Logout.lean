import ChatClient.Step

/-
  Logout (`useLogout` in `hooks/queries/useAuth.ts`). Its `onSettled` runs `logout()` on the
  auth store and `queryClient.clear()`; the auth store then sends `ChatLayout` to `/login`,
  which unmounts `ChatPage` and so runs the cleanup `disconnect()` of `useWebSocket`.

  The chat store is not among the stores this path writes: `disconnect()` resets only the
  connection store, and `logout()` only the auth store (`onSettled_disconnect_stores`). So
  a signed-in client carries its chat store past logout (`logout_keeps_chat_store`): the
  selected conversation, the accumulator and the optimistic message, which the next user's
  `ChatPage` reads.
-/

namespace ChatClient

namespace Client

/-- The stores and the query cache: what the pages of the next signed-in user read. -/
def stores (c : Client) : AuthState × ChatState × WebSocketState × List (List String) :=
  (c.auth, c.chat, c.ws, c.queryCache)

/-- Logout and the unmount's `disconnect()` clear the auth store, the cache and the connection
    store, and leave the chat store as it was. -/
theorem onSettled_disconnect_stores (c : Client) :
    c.onSettled.disconnect.stores = (c.auth.logout, c.chat, WebSocketState.init, []) := rfl

/-- Conversation `A` authenticated and `"hi"` sent; the reply has not arrived. -/
def sentInA : List Event := authenticated ++ [.send "hi" ⟨"m1", "t0", "gpt-4o", "s1"⟩]

theorem logout_keeps_chat_store : ∀ M, ∃ c₁ c₂,
    exec (M + 2) (init signedIn) sentInA = some c₁ ∧ exec (M + 2) (init signedIn) [] = some c₂ ∧
    c₁.onSettled.disconnect.stores ≠ c₂.onSettled.disconnect.stores ∧
    c₁.onSettled.disconnect.chat.currentConversationId = some "A" ∧
    c₁.onSettled.disconnect.chat.streamingMessage = some ⟨"s1", "", true⟩ ∧
    c₁.onSettled.disconnect.chat.pendingUserMessage.isSome :=
  fun _ => ⟨_, _, rfl, rfl, fun h => Option.noConfusion (congrArg (·.2.1.currentConversationId) h),
    rfl, rfl, rfl⟩

end Client

end ChatClient
