import ChatClient.Stores

/-
  The browser objects `useWebSocket` drives: `WebSocket` instances and `setTimeout` timers.

  A socket keeps what its handlers close over (the `conversationId` of its url and the
  `accessToken` its `onopen` sends), its `readyState`, whether `close()` failed it while it
  was still CONNECTING (its close event then reports 1006), and the frames the client sent
  on it. The url's `WS_BASE_URL` prefix is left out: nothing reads it. A timer keeps the
  `connect` it will call and its delay; whether it is still pending is kept by the client.
-/

namespace ChatClient

/-- `WebSocket.readyState`. -/
inductive ReadyState
  | CONNECTING | OPEN | CLOSING | CLOSED
  deriving DecidableEq, Repr

/-- What a `connect` callback closes over: the render's `conversationId` prop and
    `accessToken`. Two renders with the same values give callbacks that act the same. -/
structure Closure where
  conversationId : Option String
  accessToken : Option String
  deriving DecidableEq, Repr

/-- A `WebSocket` created by `connect`. -/
structure Socket where
  conversationId : String
  accessToken : String
  readyState : ReadyState
  failed : Bool
  sent : List WSOutgoingMessage
  deriving DecidableEq, Repr

namespace Socket

/-- `new WebSocket(wsUrl)` for the closure's conversation and token. -/
def create (conversationId accessToken : String) : Socket :=
  ⟨conversationId, accessToken, .CONNECTING, false, []⟩

/-- The `connect` whose handlers are attached to the socket, which `onclose` passes to
    `setTimeout`. -/
def closure (w : Socket) : Closure := ⟨some w.conversationId, some w.accessToken⟩

/-- `ws.send(JSON.stringify(frame))`. -/
@[simp] def send (frame : WSOutgoingMessage) (w : Socket) : Socket :=
  { w with sent := w.sent ++ [frame] }

@[simp] def setReadyState (r : ReadyState) (w : Socket) : Socket :=
  { w with readyState := r }

/-- `ws.close(1000)`: a CONNECTING socket is failed, an OPEN one starts the closing
    handshake; both become CLOSING. A CLOSING or CLOSED socket is left as it is. -/
def close (w : Socket) : Socket :=
  match w.readyState with
  | .CONNECTING => { w with readyState := .CLOSING, failed := true }
  | .OPEN => { w with readyState := .CLOSING }
  | _ => w

@[simp] theorem create_readyState (conversationId accessToken : String) :
    (create conversationId accessToken).readyState = .CONNECTING := rfl

@[simp] theorem create_sent (conversationId accessToken : String) :
    (create conversationId accessToken).sent = [] := rfl

@[simp] theorem create_conversationId (conversationId accessToken : String) :
    (create conversationId accessToken).conversationId = conversationId := rfl

@[simp] theorem close_sent (w : Socket) : w.close.sent = w.sent := by
  unfold close; split <;> rfl

@[simp] theorem close_conversationId (w : Socket) : w.close.conversationId = w.conversationId := by
  unfold close; split <;> rfl

@[simp] theorem close_accessToken (w : Socket) : w.close.accessToken = w.accessToken := by
  unfold close; split <;> rfl

/-- What `close()` does to a ready state. -/
def afterClose : ReadyState → ReadyState
  | .CONNECTING | .OPEN => .CLOSING
  | r => r

theorem close_readyState (w : Socket) : w.close.readyState = afterClose w.readyState := by
  unfold close afterClose; split <;> simp_all

end Socket

/-- A `setTimeout(connect, delay)` timer. -/
structure Timer where
  callback : Closure
  delay : Nat
  deriving DecidableEq, Repr

end ChatClient
