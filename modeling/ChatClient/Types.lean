import Mathlib.Data.List.Basic

/-
  Wire and domain types of the chat client (`src/frontend/src/types`).

  `WSIncomingMessage` is what the `onmessage` handler sees after `JSON.parse`: the four
  variants of the TypeScript union, plus `unhandled` for a frame that `JSON.parse` rejects
  or whose `type` no case of the handler's `switch` names. Both end in the handler doing
  nothing, so one constructor stands for them. Close codes and timer delays are `Nat`
  (a `CloseEvent.code` is an unsigned short; every theorem holds for every `Nat`).
-/

namespace ChatClient

/-- `WSErrorCode` (`types/websocket.ts`). -/
inductive WSErrorCode
  | INVALID_JSON | UNKNOWN_TYPE | AUTH_REQUIRED | AUTH_FAILED | AUTH_TIMEOUT
  | NO_CONVERSATION | RATE_LIMIT_EXCEEDED | ALREADY_PROCESSING | INTERNAL_ERROR
  | EMPTY_CONTENT | MESSAGE_TOO_LONG | AI_TIMEOUT | AI_ERROR
  deriving DecidableEq, Repr

/-- Server-to-client frames: `auth.success`, `chat.stream`, `chat.error`, `ping`. -/
inductive WSIncomingMessage
  | authSuccess (conversation_id : String)
  | chatStream (content : String) (done : Bool) (message_id : Option String)
  | chatError (error : String) (code : WSErrorCode)
  | ping
  | unhandled
  deriving DecidableEq, Repr

/-- Client-to-server frames: `auth`, `chat.message`, `pong`. -/
inductive WSOutgoingMessage
  | auth (token : String)
  | chatMessage (content : String)
  | pong
  deriving DecidableEq, Repr

/-- `WSConnectionStatus`. -/
inductive WSConnectionStatus
  | disconnected | connecting | authenticating | connected | error
  deriving DecidableEq, Repr

/-- `MessageRole` (`types/message.ts`). -/
inductive MessageRole
  | system | user | assistant
  deriving DecidableEq, Repr

/-- `Message`: a persisted chat message, and the optimistic one `MessageInput` builds. -/
structure Message where
  id : String
  role : MessageRole
  content : String
  prompt_tokens : Option Nat
  completion_tokens : Option Nat
  model_used : String
  created_at : String
  deriving DecidableEq, Repr

/-- `User` (`types/auth.ts`). -/
structure User where
  id : String
  email : String
  username : String
  deriving DecidableEq, Repr

/-- The `{ message, code }` object the connection store keeps as its last error. -/
structure StoreError where
  message : String
  code : WSErrorCode
  deriving DecidableEq, Repr

/-! ## JavaScript strings -/

/-- The code points `String.prototype.trim` removes: ECMAScript's `WhiteSpace` (TAB, VT, FF,
    ZWNBSP and the `Zs` category) and `LineTerminator` (LF, CR, LS, PS). -/
def isJsWhiteSpace (ch : Char) : Bool :=
  let n := ch.toNat
  n = 0x09 || n = 0x0A || n = 0x0B || n = 0x0C || n = 0x0D || n = 0x20 || n = 0xA0 ||
    n = 0x1680 || (0x2000 ≤ n && n ≤ 0x200A) || n = 0x2028 || n = 0x2029 || n = 0x202F ||
    n = 0x205F || n = 0x3000 || n = 0xFEFF

/-- `s.trim()`. -/
def jsTrim (s : String) : String :=
  ⟨((s.data.dropWhile isJsWhiteSpace).reverse.dropWhile isJsWhiteSpace).reverse⟩

/-- UTF-16 code units of a list of code points: one each, two above U+FFFF. -/
def utf16Units : List Char → Nat
  | [] => 0
  | ch :: rest => (if 0xFFFF < ch.toNat then 2 else 1) + utf16Units rest

/-- `s.length`, which counts UTF-16 code units. -/
def jsLength (s : String) : Nat := utf16Units s.data

/-- `s.startsWith(p)`. UTF-16 is a prefix code, so a prefix of code units is a prefix of
    code points. -/
def jsStartsWith (s p : String) : Bool := p.data.isPrefixOf s.data

theorem jsLength_pos_iff (s : String) : 0 < jsLength s ↔ s ≠ "" := by
  obtain ⟨l⟩ := s
  cases l with
  | nil => simp [jsLength, utf16Units]
  | cons ch rest =>
    have hpos : 0 < jsLength ⟨ch :: rest⟩ := by simp only [jsLength, utf16Units]; split <;> omega
    exact iff_of_true hpos fun h => List.cons_ne_nil ch rest (congrArg String.data h)

theorem dropWhile_idem {α : Type} (p : α → Bool) (l : List α) :
    (l.dropWhile p).dropWhile p = l.dropWhile p := by
  induction l with
  | nil => rfl
  | cons x xs ih => cases hx : p x <;> simp [List.dropWhile_cons, hx, ih]

/-- A list whose first element, if any, fails `p` loses nothing to `dropWhile p`. -/
theorem dropWhile_of_head? {α : Type} {p : α → Bool} {l : List α}
    (h : ∀ x, l.head? = some x → p x = false) : l.dropWhile p = l := by
  cases l with
  | nil => rfl
  | cons x xs => exact List.dropWhile_cons_of_neg (by simp [h x rfl])

/-- A trimmed string is its own `trim()`: what is left starts and ends with a code point that
    is not white space. -/
theorem jsTrim_jsTrim (s : String) : jsTrim (jsTrim s) = jsTrim s := by
  let m := s.data.dropWhile isJsWhiteSpace
  let r := m.reverse.dropWhile isJsWhiteSpace
  -- `r.reverse` is a prefix of `m`, whose head is not white space
  have hm : m = r.reverse ++ (m.reverse.takeWhile isJsWhiteSpace).reverse := by
    rw [← List.reverse_append, List.takeWhile_append_dropWhile, List.reverse_reverse]
  have hr : r.reverse.dropWhile isJsWhiteSpace = r.reverse := by
    refine dropWhile_of_head? fun x hx => ?_
    have := List.head?_dropWhile_not isJsWhiteSpace s.data
    rw [show s.data.dropWhile isJsWhiteSpace = m from rfl, hm, List.head?_append, hx] at this
    exact this
  show (⟨((r.reverse.dropWhile isJsWhiteSpace).reverse.dropWhile isJsWhiteSpace).reverse⟩ : String) =
    ⟨r.reverse⟩
  rw [hr, List.reverse_reverse, dropWhile_idem]

end ChatClient
