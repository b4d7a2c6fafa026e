import ClusterGuard.Command

/-!
# In-memory command connections

Model of `MockConnection`: `push_response`, `push_timeouts`, `get`, `blpop` (`pop`), `blpop_async`
(`popLater`), `close`. What `begin_command` checks and counts is in `issue`.

A connection that answers from a list of prepared responses and never touches a network.

Results:
* `get_of_closed`, `pop_of_closed`: a closed connection fails every command and counts none.
-/

namespace ClusterGuard.Memory

/-- A command connection with prepared responses. -/
structure Connection where
  isOpen : Bool := true
  /-- How many commands were issued while the connection was open. -/
  calls : Nat := 0
  /-- The results of the next reads. -/
  responses : List (Except Fault String) := []
  commandTimeout : Duration := .ofSeconds 3

namespace Connection

/-- Prepares the result of one more read. -/
def push (response : Except Fault String) (c : Connection) : Connection :=
  { c with responses := c.responses ++ [response] }

/-- The fault of a command that gets no reply. -/
def timeout (c : Connection) : Fault := .timedOut c.commandTimeout

/-- Prepares a number of missing replies. -/
def pushTimeouts (n : Nat) (c : Connection) : Connection :=
  { c with responses := c.responses ++ List.replicate n (.error c.timeout) }

/-- Closes the connection for good. -/
def close (c : Connection) : Connection := { c with isOpen := false }

/-- Issues a command, unless the connection is closed. -/
def issue {α : Type} (command : Connection → Except Fault α × Connection) (c : Connection) :
    Except Fault α × Connection :=
  if c.isOpen then command { c with calls := c.calls + 1 } else (.error .disconnected, c)

/-- Reads a key: the next prepared response, or the key itself when there is none. -/
def get (key : String) : Connection → Except Fault String × Connection :=
  issue fun c =>
    match c.responses with
    | [] => (.ok key, c)
    | response :: responses => (response, { c with responses })

/-- Waits for an element of a list that never gets one. -/
def pop : Connection → Except Fault (Option String) × Connection :=
  issue fun c => (.error c.timeout, c)

/-- The same without waiting for the reply, which is there at once. -/
def popLater (c : Connection) : Command (Option String) × Connection :=
  (.answered c.pop.1, c.pop.2)

/-- The same once more, the reply waited for after all. -/
def popAwaited (c : Connection) : Except CommandError (Option String) × Connection :=
  ((c.popLater.1.result?).getD (.error .cancelled), c.popLater.2)

theorem get_of_closed {c : Connection} (h : c.isOpen = false) (key : String) :
    c.get key = (.error .disconnected, c) := by
  simp [get, issue, h]

theorem pop_of_closed {c : Connection} (h : c.isOpen = false) :
    c.pop = (.error .disconnected, c) := by
  simp [pop, issue, h]

end Connection

end ClusterGuard.Memory
