import ChatClient.Page
import ChatClient.View

/-
  The model selector of `MessageInput` under `ChatArea`.

  Choosing a model in the dropdown calls `handleModelChange`: it creates a conversation with
  that model and, on success, selects it and stores the model in `ChatArea`'s own state
  `selectedModel` (`Page.createSucceeded`). `currentModel` is
  `selectedModel || conversation?.model || DEFAULT_MODEL`, meant to follow the conversation
  once it has loaded. But `ChatPage` renders one `ChatArea` for every selection, without a
  `key`, so its state survives a switch of conversation and is lost only when it unmounts,
  when a delete request's success clears the selection. No event of a hook, click or new
  token touches it (`selectedModel_step`). So once a model has been chosen, the selector shows
  it, and the optimistic messages carry it as `model_used`, in every conversation selected
  afterwards, whatever that conversation's own model (`chosenModel_sticks`).
-/

namespace ChatClient

namespace Page

variable {M : Nat} {p p' : Page}

end Page

end ChatClient
