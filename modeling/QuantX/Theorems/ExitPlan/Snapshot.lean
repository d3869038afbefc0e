import QuantX.Trading.ExitPlanSnapshot

/-! What a snapshot keeps. Writing a plan and reading it back gives the plan with the reader's defaults. -/

namespace QuantX
open Lib

theorem ExitPlanStatus.ofText_value (status : ExitPlanStatus) : ofText status.value = .ok status := by cases status <;> rfl
theorem ExitSizingMode.ofText_value (mode : ExitSizingMode) : ofText mode.value = .ok mode := by cases mode <;> rfl
theorem ExitT1Policy.ofText_value (policy : ExitT1Policy) : ofText policy.value = .ok policy := by cases policy <;> rfl

theorem ExitPriceReference.ofText_value (reference : ExitPriceReference) : ofText reference.value = .ok reference := by
  cases reference <;> rfl

theorem TradingCostPolicy.ofFields_toDict (costs : TradingCostPolicy) : ofFields (.dict costs.toDict) = .ok costs := by
  simp [ofFields, toDict, floatField, bind, Except.bind, pure, Except.pure, Dict.lookup]

theorem ExitSizingPolicy.build_self (sizing : ExitSizingPolicy) :
    build sizing.mode sizing.value sizing.lotSize sizing.allowOddLotFullExit = .ok sizing := by
  unfold build
  rw [dif_pos sizing.lotSize_pos, dif_pos sizing.value_ok]

theorem ExitSizingPolicy.fromDict_toDict (sizing : ExitSizingPolicy) : fromDict (.dict sizing.toDict) = .ok sizing := by
  have hlot : (if sizing.lotSize = 0 then 100 else sizing.lotSize) = sizing.lotSize :=
    if_neg (ne_of_gt sizing.lotSize_pos)
  simp [fromDict, toDict, intOrField, boolField, PyVal.get, bind, Except.bind, Dict.lookup,
    ExitSizingMode.ofText_value, PyVal.int_or, hlot, build_self]

def ExitRuleSpec.reloaded (uuid4 : String) (rule : ExitRuleSpec) : ExitRuleSpec :=
  { rule with
    ruleId := PyVal.orText rule.ruleId uuid4, strategy := rule.strategy.toUpper
    priority := if rule.priority = 0 then 500 else rule.priority }

theorem ExitRuleSpec.fromDict_toDict (uuid4 : String) (rule : ExitRuleSpec) :
    fromDict uuid4 (.dict rule.toDict) = .ok (rule.reloaded uuid4) := by
  simp [fromDict, toDict, requiredText, intOrField, boolField, textField, PyVal.get, bind, Except.bind, pure,
    Except.pure, Dict.lookup, PyVal.int_or, ExitSizingPolicy.fromDict_toDict, reloaded]

/-- The rules of a template as they are read back, with the generated ids of their positions. -/
def ExitRuleSpec.reloadedAll (uuid4 : Nat → String) : List ExitRuleSpec → Nat → List ExitRuleSpec
  | [], _ => []
  | rule :: rest, n => rule.reloaded (uuid4 n) :: reloadedAll uuid4 rest (n + 1)

theorem ExitRuleSpec.fromDicts_toDict (uuid4 : Nat → String) : ∀ (rules : List ExitRuleSpec) (n : Nat),
    fromDicts uuid4 (rules.map fun rule => .dict rule.toDict) n = .ok (reloadedAll uuid4 rules n)
  | [], _ => rfl
  | rule :: rest, n => by
    simp [fromDicts, fromDict_toDict, fromDicts_toDict uuid4 rest (n + 1), bind, Except.bind, pure, Except.pure, reloadedAll]

theorem ExitRuleSpec.reloadedAll_ne {uuid4 : Nat → String} {rules : List ExitRuleSpec} (h : rules ≠ []) (n : Nat) :
    reloadedAll uuid4 rules n ≠ [] := by
  cases rules with
  | nil => exact absurd rfl h
  | cons rule rest => exact List.cons_ne_nil _ _

def ExitExecutionPolicy.reloaded (execution : ExitExecutionPolicy) : ExitExecutionPolicy :=
  { execution with
    priceType := (PyVal.orText (PyVal.orText execution.priceType "LIMIT").toUpper "LIMIT").toUpper
    executionMode := (PyVal.orText (PyVal.orText execution.executionMode "AUTO").toUpper "AUTO").toUpper }

theorem ExitExecutionPolicy.fromDict_toDict (execution : ExitExecutionPolicy) :
    fromDict (.dict execution.toDict) = .ok execution.reloaded := by
  simp [fromDict, toDict, upperField, textField, boolField, floatField, bind, Except.bind, pure, Except.pure,
    Dict.lookup, ExitPriceReference.ofText_value, reloaded]

def ExitPlanTemplate.reloaded (uuid4 : Nat → String) (template : ExitPlanTemplate) : ExitPlanTemplate :=
  { template with
    rules := ExitRuleSpec.reloadedAll uuid4 template.rules 0
    configVersion := if template.configVersion = 0 then 1 else template.configVersion
    execution := template.execution.reloaded, rules_ne := ExitRuleSpec.reloadedAll_ne template.rules_ne 0 }

theorem ExitPlanTemplate.fromDict_toDict (uuid4 : Nat → String) (template : ExitPlanTemplate) :
    fromDict uuid4 (.dict template.toDict) = .ok (template.reloaded uuid4) := by
  have hrules : ExitRuleSpec.reloadedAll uuid4 template.rules 0 ≠ [] := ExitRuleSpec.reloadedAll_ne template.rules_ne 0
  simp only [fromDict, toDict, requiredText, intOrField, boolField, textField, PyVal.get, mappingOrEmpty_dict,
    listOrEmpty_list, bind, Except.bind, pure, Except.pure, Dict.lookup, String.reduceEq, ↓reduceIte, Option.getD_some,
    PyVal.text_str, PyVal.str_or, PyVal.orText_empty, PyVal.int_or, PyVal.toInt_int, PyVal.truthy_bool,
    Dict.ofList_entries, ExitRuleSpec.fromDicts_toDict, TradingCostPolicy.ofFields_toDict, ExitT1Policy.ofText_value,
    ExitExecutionPolicy.fromDict_toDict]
  rw [dif_pos template.identified, dif_pos hrules]
  rfl

namespace ExitPlan

theorem volumesOf_volumes (d : Dict String Int) : volumesOf (volumes d) = .ok d := by
  have hread : ∀ e : String × Int, volumeEntry (e.1, .int e.2) = .ok e := fun e => by
    simp only [volumeEntry, PyVal.int_or_zero, PyVal.toInt_int]
    rfl
  simp only [volumesOf, volumes, mappingOrEmpty_dict, bind, Except.bind, pure, Except.pure, mapM_written hread,
    Dict.ofList_entries]

theorem ruleStateOf_entries (d : Dict String (Dict String PyVal)) :
    ruleStateOf (.dict (d.entries.map fun e => (e.1, .dict e.2.entries))) = .ok d := by
  have hread : ∀ e : String × Dict String PyVal, ruleStateEntry (e.1, .dict e.2.entries) = .ok e := fun e => by
    simp only [ruleStateEntry, mappingOrEmpty_dict, bind, Except.bind, pure, Except.pure, Dict.ofList_entries]
  simp only [ruleStateOf, mappingOrEmpty_dict, bind, Except.bind, pure, Except.pure, mapM_written hread,
    Dict.ofList_entries]

theorem textsOf_texts (items : List String) : textsOf (texts items) = .ok items := by
  simp only [textsOf, texts, listOrEmpty_list, bind, Except.bind, pure, Except.pure, List.map_map, Except.ok.injEq]
  exact List.map_id items

theorem optionalNonNegativeInt_written (target : Option Int) :
    optionalNonNegativeInt ((target.map PyVal.int).getD .none) = target.filter (0 ≤ ·) := by
  cases target with
  | none => rfl
  | some n =>
    show (if n ≥ 0 then some n else none) = _
    by_cases h : 0 ≤ n <;> simp [Option.filter, h]

def reloaded (uuid4 : Nat → String) (plan : ExitPlan) : ExitPlan :=
  { plan with
    template := plan.template.reloaded uuid4
    pendingTerminalCumulativeFill := plan.pendingTerminalCumulativeFill.filter (0 ≤ ·)
    reconciledZeroFillIntentIds := plan.reconciledZeroFillIntentIds.filter (· ≠ "") }

theorem fromDict_toDict (uuid4 : Nat → String) (plan : ExitPlan) :
    fromDict uuid4 (.dict plan.toDict) = .ok (plan.reloaded uuid4) := by
  simp [fromDict, toDict, intField, floatField, boolField, textField, PyVal.get, bind, Except.bind, pure, Except.pure,
    Dict.lookup, ExitPlanTemplate.fromDict_toDict, ExitPlanStatus.ofText_value, optionalNonNegativeInt_written,
    volumesOf_volumes, ruleStateOf_entries, textsOf_texts, reloaded]

theorem reloaded_planId (uuid4 : Nat → String) (plan : ExitPlan) : (plan.reloaded uuid4).planId = plan.planId := rfl

end ExitPlan

namespace ExitPlanBook

theorem load_get? (uuid4 : String → Nat → String) {l : List (String × ExitPlan)} :
    ∀ {book : ExitPlanBook}, (∀ e ∈ l, e.2.planId = e.1) → (l.map Prod.fst).Nodup → ∀ id,
      (load uuid4 (l.map fun e => (e.1, .dict e.2.toDict)) book).plans.get? id =
        match Dict.lookup id l with
        | some plan => some (plan.reloaded (uuid4 id))
        | none => book.plans.get? id := by
  induction l with
  | nil => intro book _ _ id; rfl
  | cons e rest ih =>
    intro book hkeyed hnodup id
    obtain ⟨key, plan⟩ := e
    rw [List.map_cons, List.nodup_cons] at hnodup
    have hkey : plan.planId = key := hkeyed (key, plan) List.mem_cons_self
    have hput : ∀ id, (book.put (plan.reloaded (uuid4 key))).plans.get? id =
        if key = id then some (plan.reloaded (uuid4 key)) else book.plans.get? id := fun id => by
      rw [← hkey]
      exact Dict.get?_set _ _ _ _
    simp only [List.map_cons, load, ExitPlan.fromDict_toDict]
    rw [ih (fun e he => hkeyed e (List.mem_cons_of_mem _ he)) hnodup.2, hput]
    by_cases hid : key = id
    · subst hid
      rw [Dict.lookup_eq_none.mpr hnodup.1, Dict.lookup, if_pos rfl, if_pos rfl]
    · rw [Dict.lookup, if_neg hid, if_neg hid]

theorem fromDict_toDict (uuid4 : String → Nat → String) (book : ExitPlanBook) :
    ∃ next, fromDict uuid4 (.dict book.toDict) = .ok next ∧
      ∀ id, next.plans.get? id = (book.plans.get? id).map (·.reloaded (uuid4 id)) := by
  refine ⟨load uuid4 (book.plans.entries.map fun e => (e.1, .dict e.2.toDict)) empty, ?_, fun id => ?_⟩
  · simp [fromDict, toDict, PyVal.get, bind, Except.bind, pure, Except.pure, Dict.lookup]
  · rw [load_get? uuid4 (fun e he => book.keyed (Dict.mem_entries.mp he)) book.plans.nodup]
    unfold Dict.get?
    cases Dict.lookup id book.plans.entries <;> rfl

end ExitPlanBook
end QuantX
