import ChatClient.Stores

/-
  What the pages render, as functions of the stores: `ChatArea`'s branches and the model its
  selector shows, `MessageList`'s items, the router (`routes/index.tsx`) with `AuthLayout`
  and `ChatLayout`, and the relative time of `ConversationItem` (`formatRelativeTime_eq`:
  below a minute "剛剛", then minutes, hours and days up to a week, then the date).

  A render is reduced to the branch it takes and the texts it shows that depend on the
  stores; markup, styles and icons are left out. `ChatArea` and `MessageList` also read the
  messages query (`data?.messages ?? []` and `isLoading`), which is an input here. The
  router matches a URL to one of its entries by react-router's rules, which are not
  modelled: a location is the entry that matched.
-/

namespace ChatClient

/-! ## `ChatArea` -/

/-- The branch `ChatArea` renders. -/
inductive ChatAreaScreen
  /-- The spinner with `"連接中..."` or `"認證中..."`. -/
  | spinner (label : String)
  /-- The `"連接失敗"` empty state with its description and the `"重新連接"` button. -/
  | failed (description : String)
  /-- The spinner while the messages load. -/
  | loadingMessages
  | welcome
  /-- `MessageList` and `MessageInput`. -/
  | conversation
  deriving DecidableEq, Repr

/-- `messages.length > 0 || pendingUserMessage || streamingMessage`. -/
def hasMessages (messages : List Message) (chat : ChatState) : Bool :=
  0 < messages.length || chat.pendingUserMessage.isSome || chat.streamingMessage.isSome

/-- `ChatArea`'s render. The failure description is `error?.message || "無法連接到伺服器"`: an
    empty message falls back as well. -/
def chatAreaScreen (ws : WebSocketState) (chat : ChatState) (messages : List Message)
    (isLoadingMessages : Bool) : ChatAreaScreen :=
  if ws.status = .connecting ∨ ws.status = .authenticating then
    .spinner (if ws.status = .connecting then "連接中..." else "認證中...")
  else if ws.status = .error ∨ ws.error.isSome then
    .failed (match ws.error with
      | some e => if e.message ≠ "" then e.message else "無法連接到伺服器"
      | none => "無法連接到伺服器")
  else if isLoadingMessages then .loadingMessages
  else if hasMessages messages chat then .conversation
  else .welcome

/-! ## The model selector -/

/-- `SUPPORTED_MODELS` (`lib/constants.ts`): value and label. -/
def SUPPORTED_MODELS : List (String × String) :=
  [("gpt-4o", "GPT-4o"), ("gpt-4o-mini", "GPT-4o Mini"), ("gpt-4-turbo", "GPT-4 Turbo"),
    ("gpt-3.5-turbo", "GPT-3.5 Turbo")]

/-- `MessageInput`'s `selectedModel`: the supported model whose value is the `selectedModel`
    prop, else its own state. Its label is the dropdown's, its value the optimistic message's
    `model_used`. -/
def MessageInput.selectedModel (externalModel : Option String)
    (internalModel : String × String) : String × String :=
  (SUPPORTED_MODELS.find? fun m => some m.1 = externalModel).getD internalModel

/-! ## `MessageList` -/

/-- An item of `MessageList`'s list: a message, or the item it builds from
    `streamingMessage`. -/
inductive ListItem
  | message (m : Message)
  | streaming (s : StreamingMessage)
  deriving DecidableEq, Repr

/-- `allItems`: the fetched messages, the optimistic one, then the accumulator unless a
    fetched message has its id. -/
def allItems (messages : List Message) (chat : ChatState) : List ListItem :=
  messages.map .message ++ (chat.pendingUserMessage.map .message).toList ++
    match chat.streamingMessage with
    | some s => if messages.any (·.id = s.id) then [] else [.streaming s]
    | none => []

/-- The branch `MessageList` renders. -/
inductive MessageListScreen
  | loading
  /-- The `"開始對話"` empty state. -/
  | empty
  | items (items : List ListItem)
  deriving DecidableEq, Repr

/-- `MessageList`'s render, with the messages query's `messages` and `isLoading`. -/
def messageList (messages : List Message) (isLoading : Bool) (chat : ChatState) :
    MessageListScreen :=
  if isLoading then .loading
  else if messages.length = 0 ∧ chat.pendingUserMessage.isNone ∧ chat.streamingMessage.isNone then
    .empty
  else .items (allItems messages chat)

/-! ## Routes -/

/-- The entry of the router that matched the URL. -/
inductive Location
  | login | register | chat
  /-- `"/"`, and `"*"` for every other URL. -/
  | root | other
  deriving DecidableEq, Repr

/-- What a route renders: `FullPageSpinner`, a page, or `<Navigate to replace />`. -/
inductive Rendered
  | spinner
  | loginPage | registerPage | chatPage
  | navigate (target : Location)
  deriving DecidableEq, Repr

/-- `AuthLayout` around `outlet`. -/
def authLayout (s : AuthState) (outlet : Rendered) : Rendered :=
  if !s.isInitialized then .spinner
  else if s.isAuthenticated then .navigate .chat
  else outlet

/-- `ChatLayout` around `outlet`. -/
def chatLayout (s : AuthState) (outlet : Rendered) : Rendered :=
  if !s.isInitialized then .spinner
  else if !s.isAuthenticated then .navigate .login
  else outlet

/-- The router: `/login` and `/register` under `AuthLayout`, `/chat` under `ChatLayout`, and
    `/` and `*` redirect to `/chat`. -/
def route (s : AuthState) : Location → Rendered
  | .login => authLayout s .loginPage
  | .register => authLayout s .registerPage
  | .chat => chatLayout s .chatPage
  | .root | .other => .navigate .chat

/-! ## Relative times -/

/-- `formatRelativeTime(date)` (`lib/utils.ts`) on the milliseconds elapsed since the date,
    `now.getTime() - d.getTime()`, with `formatDate(d)` as a parameter: it is an
    `Intl.DateTimeFormat` of the date. `Math.floor` of a quotient by a positive constant is
    `Int` division, which rounds down. -/
def formatRelativeTime (formatDate : String) (diffMs : Int) : String :=
  let diffSecs := diffMs / 1000
  let diffMins := diffSecs / 60
  let diffHours := diffMins / 60
  let diffDays := diffHours / 24
  if diffSecs < 60 then "剛剛"
  else if diffMins < 60 then s!"{diffMins} 分鐘前"
  else if diffHours < 24 then s!"{diffHours} 小時前"
  else if diffDays < 7 then s!"{diffDays} 天前"
  else formatDate

/-- The label as one division of the elapsed milliseconds per unit: flooring twice is flooring
    once by the product, so each label counts the whole units of the elapsed milliseconds, and
    a label is chosen by comparing the milliseconds with the unit's threshold. "剛剛" covers
    every date in the future. -/
theorem formatRelativeTime_eq (formatDate : String) (diffMs : Int) :
    formatRelativeTime formatDate diffMs =
      if diffMs < 60000 then "剛剛"
      else if diffMs < 3600000 then s!"{diffMs / 60000} 分鐘前"
      else if diffMs < 86400000 then s!"{diffMs / 3600000} 小時前"
      else if diffMs < 604800000 then s!"{diffMs / 86400000} 天前"
      else formatDate := by
  have hmin : diffMs / 1000 / 60 = diffMs / 60000 := by omega
  have hhour : diffMs / 60000 / 60 = diffMs / 3600000 := by omega
  have hday : diffMs / 3600000 / 24 = diffMs / 86400000 := by omega
  have hs : diffMs / 1000 < 60 ↔ diffMs < 60000 := by omega
  have hm : diffMs / 60000 < 60 ↔ diffMs < 3600000 := by omega
  have hh : diffMs / 3600000 < 24 ↔ diffMs < 86400000 := by omega
  have hd : diffMs / 86400000 < 7 ↔ diffMs < 604800000 := by omega
  simp only [formatRelativeTime, hmin, hhour, hday, hs, hm, hh, hd]

end ChatClient
