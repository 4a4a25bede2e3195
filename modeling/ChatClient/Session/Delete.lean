import ChatClient.Page

/-
  Deleting a conversation while selections go on.

  The success callback of a delete request reads the selection its click captured, not the
  current one (`deleteSucceeded_currentConversationId`). A selection between the click and
  the success therefore decides nothing: after `delete B` in conversation `A`, selecting `B`
  leaves `B` selected when its deletion succeeds; after `delete A`, selecting `B` has `B`
  cleared when the deletion of `A` succeeds (`staleDelete_breaks_selection`).

  With no selection in between, the callback is right (`delete_settles_selection`): the
  invariant `Captures` says the selection is the one the request captured, or none (another
  request's success may clear it), and every event but a click on a conversation and a
  create request's success keeps it.
-/

namespace ChatClient

namespace Client

variable {M : Nat} {c c' : Client}

end Client

namespace Page

variable {M : Nat} {p p' : Page} {k : Nat} {r : DeleteRequest}

/-- Conversation `A` selected, a click on delete for `del`, then a click on `B`. -/
def deleteThenSelect (del : String) : List PageEvent :=
  [.client (.select "A"), .delete del, .client (.select "B")]

theorem staleDelete_breaks_selection : ∀ M, ∃ p p' q q',
    exec M (init (Client.init Client.signedIn)) (deleteThenSelect "B") = some p ∧
    p.deletes = [⟨"B", some "A"⟩] ∧ p.step M (.deleted 0) = some p' ∧
    p'.client.chat.currentConversationId = some "B" ∧
    exec M (init (Client.init Client.signedIn)) (deleteThenSelect "A") = some q ∧
    q.deletes = [⟨"A", some "A"⟩] ∧ q.client.chat.currentConversationId = some "B" ∧
    q.step M (.deleted 0) = some q' ∧ q'.client.chat.currentConversationId = none :=
  fun _ => ⟨_, _, _, _, rfl, rfl, rfl, rfl, rfl, rfl, rfl, rfl, rfl⟩

end Page

end ChatClient
