import ClusterGuard.Fault

/-!
# Commands issued without waiting

Model of `CommandFuture` and its `CommandCompleter`: `complete` is `answer`, a dropped completer is
`cancel`, what `wait` and polls give is `result?`.

The driver gives at most one answer to a command and may cancel it instead. Its caller polls for
the answer and receives it once.
-/

namespace ClusterGuard

/-- What is known of the answer to a command. -/
inductive Command (α : Type) where
  | outstanding
  | answered (result : Except Fault α)
  | cancelled

namespace Command

variable {α : Type}

/-- The driver answers. -/
def answer (result : Except Fault α) : Command α → Command α
  | outstanding => answered result
  | settled => settled

/-- The driver gives up. -/
def cancel : Command α → Command α
  | outstanding => cancelled
  | settled => settled

/-- The result of a settled command. -/
def result? : Command α → Option (Except CommandError α)
  | outstanding => none
  | answered result => some (result.mapError .failed)
  | cancelled => some (.error .cancelled)

end Command

end ClusterGuard
