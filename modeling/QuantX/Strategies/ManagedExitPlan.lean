import QuantX.Trading.ExitPlanSnapshot

/-! # The managed exit plan strategy

`AshareManagedExitPlanStrategy.step`: one market input, evaluated on the plan of the runtime snapshot. An
empty snapshot stands for a plan that was not started yet. A step that raises keeps the snapshot. -/

namespace QuantX
open Lib

inductive StrategyCadence where
  | bar | tick | snapshot | order | trade | reconcile
  deriving DecidableEq, Repr

structure ManagedExitParameters where
  template : ExitPlanTemplate
  /-- `exit_plan_enabled` is exactly `True`. -/
  exitPlanEnabled : Bool
  exitPlanReplay : Bool := false
  initialProtectedVolume : Int := 0
  initialEntryAvgPrice : Rat := 0
  initialEntryTime : Option DateTime := none

structure ManagedExitInput where
  (inputId instrumentCode : String)
  cadence : StrategyCadence
  context : ExitEvaluationContext
  completeDepth : Bool := true

namespace ManagedExitPlan

abbrev Snapshot := List (String × PyVal)

def newPlan (parameters : ManagedExitParameters) : ExitPlan :=
  let plan := ({ template := parameters.template } : ExitPlan).registerEntryFill parameters.initialProtectedVolume
    parameters.initialEntryAvgPrice parameters.initialEntryTime
  if parameters.exitPlanEnabled then plan else plan.setStatus .paused

def planFromInput (uuid4 : Nat → String) (parameters : ManagedExitParameters) (snapshot : Snapshot) :
    Except String ExitPlan :=
  if snapshot.isEmpty then .ok (newPlan parameters) else ExitPlan.fromDict uuid4 (.dict snapshot)

def switchOff (plan : ExitPlan) : ExitPlan :=
  if plan.status ≠ .completed ∧ plan.status ≠ .cancelled then plan.setStatus .paused else plan

def switchOn (plan : ExitPlan) : ExitPlan :=
  if plan.status = .paused ∧ plan.remainingVolume > 0 then plan.setStatus .active else plan

def requiresDepth (plan : ExitPlan) : Bool :=
  plan.template.rules.any fun rule => rule.enabled && rule.strategy = "ADAPTIVE_VOLUME_PRICE_TRAILING"

def intentId (plan : ExitPlan) (decision : ExitDecision) (input : ManagedExitInput) : String :=
  "exit:" ++ plan.planId ++ ":" ++ decision.ruleId ++ ":" ++ input.inputId

def evaluatePlan (registry : ExitStrategyRegistry) (plan : ExitPlan) (input : ManagedExitInput) :
    ExitPlan × Except String (Option ExitDecision) :=
  if plan.template.instrumentCode ≠ input.instrumentCode then (plan, .ok none) else plan.evaluate registry input.context

def step (registry : ExitStrategyRegistry) (uuid4 : Nat → String) (parameters : ManagedExitParameters)
    (input : ManagedExitInput) (snapshot : Snapshot) : Except String (Snapshot × Option ExitDecision) :=
  if input.instrumentCode ≠ parameters.template.instrumentCode then .ok (snapshot, none)
  else if input.cadence ≠ .bar ∧ input.cadence ≠ .tick ∧ input.cadence ≠ .reconcile then .ok (snapshot, none)
  else do
    let plan ← planFromInput uuid4 parameters snapshot
    if ¬parameters.exitPlanEnabled then return ((switchOff plan).toDict, none)
    else
      let plan := switchOn plan
      if parameters.exitPlanReplay ∧ requiresDepth plan ∧ ¬input.completeDepth then
        throw ("EXIT_PLAN_REPLAY_DEPTH_DATA_MISSING:" ++ input.instrumentCode ++ ":" ++
          input.context.timestamp.isoformat)
      else
        let result := evaluatePlan registry plan input
        match ← result.2 with
        | none => return (result.1.toDict, none)
        | some decision =>
          let marked ← result.1.markIntent decision (intentId result.1 decision input)
          return (marked.toDict, some decision)

end ManagedExitPlan

namespace ExitPlanBook

def snapshotOf (book : ExitPlanBook) (id : String) : ManagedExitPlan.Snapshot :=
  match book.plans.get? id with
  | some plan => plan.toDict
  | none => []

/-- A step of the strategy that manages a plan of the book: the plan goes through its snapshot on the way in and out. -/
def managedStep (registry : ExitStrategyRegistry) (uuid4 : Nat → String) (parameters : ManagedExitParameters)
    (input : ManagedExitInput) (book : ExitPlanBook) : ExitPlanBook × Option ExitDecision :=
  match ManagedExitPlan.step registry uuid4 parameters input (book.snapshotOf parameters.template.planId) with
  | .error _ => (book, none)
  | .ok (snapshot, decision) =>
    match ExitPlan.fromDict uuid4 (.dict snapshot) with
    | .ok plan => (book.put plan, decision)
    | .error _ => (book, decision)

end ExitPlanBook
end QuantX
