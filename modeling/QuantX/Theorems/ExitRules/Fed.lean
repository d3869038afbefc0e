import QuantX.Lib.Run
import QuantX.Trading.PriceRules

namespace QuantX
open Lib

namespace ExitRules

structure Observation where
  plan : ExitPlan
  context : ExitEvaluationContext

namespace Observation

abbrev timestampMs (o : Observation) : Int := o.context.timestampMs
abbrev tradeDate (o : Observation) : String := o.context.tradeDate

def planWith (o : Observation) (rule : ExitRuleSpec) (own : Dict String PyVal) : ExitPlan :=
  { o.plan with ruleState := o.plan.ruleState.set rule.ruleId own }

end Observation

variable (evaluator : ExitRuleEvaluator) (rule : ExitRuleSpec)

def evaluated (own : Dict String PyVal) (o : Observation) : RuleScratch × Except String ExitRuleMatch :=
  evaluator rule (o.planWith rule own) o.context

def feed (own : Dict String PyVal) (o : Observation) : Dict String PyVal :=
  (evaluated evaluator rule own o).1.ruleState.getD rule.ruleId .empty

def triggers (own : Dict String PyVal) (o : Observation) : Bool := (evaluated evaluator rule own o).2.toOption.any (·.triggered)

abbrev Fed (legal : List (Moment (Dict String PyVal) Observation) → Dict String PyVal → Observation → Prop)
    (log : List (Moment (Dict String PyVal) Observation)) (own : Dict String PyVal) : Prop :=
  Run (· = .empty) (feed evaluator rule) legal log own

abbrev observations (log : List (Moment (Dict String PyVal) Observation)) : List Observation := log.map Moment.op

abbrev onDate (tradeDate : String) (history : List Observation) : List Observation :=
  history.takeWhile fun o => o.tradeDate = tradeDate

variable {rule}

theorem ownState_planWith (o : Observation) (own : Dict String PyVal) : ownState rule (o.planWith rule own) = own := by
  rw [ownState, Dict.getD, Observation.planWith, Dict.get?_set_self]
  rfl

end ExitRules
end QuantX
