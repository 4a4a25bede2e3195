import ChatClient.Types

/-
  The three zustand stores of the client (`src/frontend/src/stores`, and the connection
  store at the end of `hooks/useWebSocket.ts`). A store is its record of fields; each action
  is the function that `set` applies to it. `reset` and `logout` overwrite a fixed set of
  fields and leave the rest, as the object they pass to `set` does. The setters are
  `@[simp]`: every later proof reads a field of a store through them.
-/

namespace ChatClient

/-! ## Connection store (`useWebSocketStore`) -/

/-- `WebSocketState`: the connection status the UI renders, the last error, and the
    conversation id bound by `auth.success`. -/
structure WebSocketState where
  status : WSConnectionStatus
  error : Option StoreError
  conversationId : Option String
  deriving DecidableEq, Repr

namespace WebSocketState

/-- The store's initial value, which `reset` restores. -/
def init : WebSocketState := ⟨.disconnected, none, none⟩

@[simp] def setStatus (status : WSConnectionStatus) (s : WebSocketState) : WebSocketState :=
  { s with status }

/-- `setError`: a non-null error also moves the status to `error`; `null` keeps it. -/
@[simp] def setError (error : Option StoreError) (s : WebSocketState) : WebSocketState :=
  { s with error, status := if error.isSome then .error else s.status }

@[simp] def setConversationId (id : Option String) (s : WebSocketState) : WebSocketState :=
  { s with conversationId := id }

/-- `reset` sets all three fields, so its result does not depend on the store. -/
@[simp] def reset (_ : WebSocketState) : WebSocketState := init

@[simp] theorem init_status : init.status = .disconnected := rfl
@[simp] theorem init_error : init.error = none := rfl

end WebSocketState

/-! ## Chat store (`useChatStore`) -/

/-- The reply being streamed: a client-side id until `finishStreaming` puts the server's. -/
structure StreamingMessage where
  id : String
  content : String
  isStreaming : Bool
  deriving DecidableEq, Repr

/-- `ChatState`. -/
structure ChatState where
  currentConversationId : Option String
  streamingMessage : Option StreamingMessage
  pendingUserMessage : Option Message
  deriving DecidableEq, Repr

namespace ChatState

def init : ChatState := ⟨none, none, none⟩

@[simp] def setCurrentConversationId (id : Option String) (s : ChatState) : ChatState :=
  { s with currentConversationId := id }

@[simp] def startStreaming (id : String) (s : ChatState) : ChatState :=
  { s with streamingMessage := some ⟨id, "", true⟩ }

/-- `appendStreamContent`: appends to the accumulator; without one it stays `null`. -/
@[simp] def appendStreamContent (content : String) (s : ChatState) : ChatState :=
  { s with streamingMessage := s.streamingMessage.map fun m => { m with content := m.content ++ content } }

/-- `finishStreaming`: puts the server's id and clears `isStreaming`; `null` stays `null`. -/
@[simp] def finishStreaming (messageId : String) (s : ChatState) : ChatState :=
  { s with streamingMessage := s.streamingMessage.map fun m => { m with id := messageId, isStreaming := false } }

@[simp] def clearStreaming (s : ChatState) : ChatState :=
  { s with streamingMessage := none }

@[simp] def setPendingUserMessage (message : Option Message) (s : ChatState) : ChatState :=
  { s with pendingUserMessage := message }

/-- `streamingMessage?.isStreaming ?? false`, as `MessageInput` reads it. -/
def isStreaming (s : ChatState) : Bool :=
  (s.streamingMessage.map (·.isStreaming)).getD false

end ChatState

/-! ## Auth store (`useAuthStore`) -/

/-- `AuthState`. -/
structure AuthState where
  user : Option User
  accessToken : Option String
  isAuthenticated : Bool
  isInitialized : Bool
  deriving DecidableEq, Repr

namespace AuthState

/-- The store before `useAuthInit` has run. -/
def init : AuthState := ⟨none, none, false, false⟩

/-- `setUser`: `isAuthenticated` becomes `!!user`. -/
@[simp] def setUser (user : Option User) (s : AuthState) : AuthState :=
  { s with user, isAuthenticated := user.isSome }

@[simp] def setAccessToken (token : Option String) (s : AuthState) : AuthState :=
  { s with accessToken := token }

/-- `login` sets all four fields. -/
@[simp] def login (user : User) (accessToken : String) (_ : AuthState) : AuthState :=
  ⟨some user, some accessToken, true, true⟩

/-- `logout` clears the user and the token; `isInitialized` is not among its fields. -/
@[simp] def logout (s : AuthState) : AuthState :=
  { s with user := none, accessToken := none, isAuthenticated := false }

@[simp] def setInitialized (initialized : Bool) (s : AuthState) : AuthState :=
  { s with isInitialized := initialized }

end AuthState

end ChatClient
