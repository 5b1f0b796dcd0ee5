import BranchDistance.Proofs.Evaluate.Run

/-!
# The queries that a driver receives

The trace of a run keeps the calls and not the replies.  As a driver is a function of the calls that
it has received before, the replies can be read off the calls: every query among them is an
`Inquiry`, which knows the calls before it.  `Inquiry.among` takes the queries out of some calls,
`among_append` cuts them in two.

When a query is asked is not in the trace, but its budget is what the deadline leaves at that time:
a reply is late if it outlasts the budget (`Inquiry.isLate`).
-/

namespace BranchDistance

/-- A query in the place where a driver receives it. -/
structure Inquiry where
  /-- The calls before it. -/
  history : List Call
  query : String
  budget : Option Nat
  deriving DecidableEq

namespace Inquiry

/-- What a driver replies. -/
def reply (driver : Driver) (i : Inquiry) : Reply := driver.execute i.history i.query i.budget

/-- The driver gives the query up. -/
def TimesOut (driver : Driver) (i : Inquiry) : Prop := (i.reply driver).answer.isTimeout = true

instance (driver : Driver) (i : Inquiry) : Decidable (i.TimesOut driver) :=
  inferInstanceAs (Decidable (_ = true))

/-- The reply takes as long as the budget, or longer. -/
def isLate (driver : Driver) (i : Inquiry) : Bool :=
  (Deadline.mk i.budget).isExpired (i.reply driver).latency

/-- The queries among some calls that come after others. -/
def among (history : List Call) : List Call → List Inquiry
  | [] => []
  | .execute query budget :: later =>
    ⟨history, query, budget⟩ :: among (history ++ [.execute query budget]) later
  | .dumpState :: later => among (history ++ [.dumpState]) later

theorem among_append (history calls later : List Call) :
    among history (calls ++ later) = among history calls ++ among (history ++ calls) later := by
  induction calls generalizing history with
  | nil => simp [among]
  | cons call calls ih => cases call <;> simp [among, ih]

theorem among_execute (history : List Call) (query : String) (budget : Option Nat) :
    among history [.execute query budget] = [⟨history, query, budget⟩] := rfl

/-- Asking for the state is no query. -/
theorem among_dumps {dumps : List Call} (h : ∀ c ∈ dumps, c = .dumpState) (history : List Call) :
    among history dumps = [] := by
  induction dumps generalizing history with
  | nil => rfl
  | cons call dumps ih =>
    obtain ⟨rfl, hdumps⟩ := List.forall_mem_cons.1 h
    exact ih hdumps _

end Inquiry

end BranchDistance
