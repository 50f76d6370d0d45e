import Autoplay.Document.Basic
import Autoplay.Queue.Basic

/-!
# Queues as documents

What can be seen of a queue, written as a document: its folder, how far it has come, and its
accounts, each with its name, its file and what became of it.
-/

namespace Autoplay

/-- The words for an outcome. -/
def Outcome.text : Outcome → String
  | .pending => "pending"
  | .succeeded => "succeeded"
  | .failed message => "failed: " ++ message
  | .discarded => "discarded"

/-- An account as a document. -/
def Account.encode (a : Account) : Document :=
  .list [.text a.id, .text a.path, .text a.outcome.text]

/-- A queue as a document. -/
def AccountQueue.encode (q : AccountQueue) : Document :=
  .record [("folder", match q.folder with
      | some folder => .text folder
      | none => .null),
    ("total", .integer q.total), ("processed", .integer q.processedCount),
    ("remaining", .integer q.remaining), ("accounts", .list (q.accounts.map Account.encode))]

end Autoplay
