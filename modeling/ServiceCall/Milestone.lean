/-! Milestones of a call, told to a listener. -/

namespace ServiceCall

inductive Milestone where
  | callStarted
  | requestLength (bytes : Nat)
  | retryStarted
  | dispatchStarted
  | dispatchCompleted
  | responseStarted
  | responseLength (bytes : Nat)
  | responseCompleted
  | callSucceeded
  | callFailed
  deriving DecidableEq, Repr

/-- A listener acts on the surroundings `σ` of a call. -/
abbrev MilestoneListener (σ : Type) := Milestone → StateM σ Unit

end ServiceCall
