import ChatClient.Types
import ChatClient.Stores
import ChatClient.Browser
import ChatClient.Hook
import ChatClient.Step
import ChatClient.Page
import ChatClient.Markdown
import ChatClient.View
import ChatClient.Schemas
import ChatClient.Session.Backoff
import ChatClient.Session.Stale
import ChatClient.Session.Connected
import ChatClient.Session.Errors
import ChatClient.Session.Stream
import ChatClient.Session.Logout
import ChatClient.Session.Delete
import ChatClient.Session.Protocol
import ChatClient.Session.Screen
import ChatClient.Session.SignIn
import ChatClient.Session.Reconnect
import ChatClient.Session.Forms
import ChatClient.Session.Pending
import ChatClient.Session.ModelChoice
