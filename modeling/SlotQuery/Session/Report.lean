import SlotQuery.Session.Log
import SlotQuery.Template.Prepared
/-!
# Reports

A script of commands leaves a report for every command: how it ended and what the session looked
like then.  A unit of work leaves one where it starts and one where it ends.  Each report says how
long the trace of the wire was, so reports and requests can be put in one order.
-/

namespace SlotQuery

/-- What a command returns. -/
inductive Answer
  | unit
  | output (o : Output)
  | prepared (p : Template.Prepared)
  | settings (s : Settings)
  | text (s : Option String)
  | bool (b : Bool)
  | entries (es : List LogEntry)
  | entry (e : Option LogEntry)
  | ids (is : List Int64)
deriving Inhabited

/-- What a session looks like between two commands. -/
structure View where
  connected : Bool
  inTransaction : Bool
  logLength : Nat
  lastError : Option String
  /-- The length of the wire's trace. -/
  traceLength : Nat
deriving DecidableEq, Inhabited

/-- What happens while a tree runs. -/
inductive Report
  | command (result : Except Error Answer) (view : View)
  /-- A unit of work starts, under a savepoint if it stands in another. -/
  | entered (savepoint : Option String) (view : View)
  /-- A unit of work has ended; the answer says whether it came to a value. -/
  | left (result : Except Error Bool) (view : View)
  /-- A unit of work could not start. -/
  | notEntered (result : Except Error Bool) (view : View)
deriving Inhabited

end SlotQuery
