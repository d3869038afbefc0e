import QuantX.Text
import QuantX.Trading.EntryPlan

/-! # Snapshots of entry plans

`to_dict` and `from_dict` of the plan's state. Fields are taken as they stand; only the statuses, the
announced volume and the sets of completed ids are checked and converted. -/

namespace QuantX
open Lib

def EntryPlanStatus.ofText : String → Except String EntryPlanStatus
  | "ARMED" => .ok .armed
  | "ACCUMULATING" => .ok .accumulating
  | "AWAITING_APPROVAL" => .ok .awaitingApproval
  | "ENTRY_PENDING" => .ok .entryPending
  | "PAUSED" => .ok .paused
  | "DRAINING" => .ok .draining
  | "COMPLETED" => .ok .completed
  | "EXPIRED" => .ok .expired
  | "CANCELLED" => .ok .cancelled
  | "ERROR" => .ok .error
  | _ => .error "ValueError"

def EntryPlanStatus.read (value : PyVal) : Except String EntryPlanStatus := do ofText (← readText value)

def TerminalRequest.read : PyVal → Except String (Option TerminalRequest)
  | .none => .ok none
  | .str "" => .ok none
  | value => do
    match ← EntryPlanStatus.read value with
    | .cancelled => return some .cancelled
    | .expired => return some .expired
    | _ => throw "terminal_requested must be CANCELLED or EXPIRED"

def readAnnounced : PyVal → Except String (Option Nat)
  | .none => .ok none
  | value => do
    let volume ← value.toInt
    if volume < 0 then throw "terminal_expected_filled_volume must be non-negative"
    return some volume.toNat

namespace ManagedEntryPlanState

def writeIds (ids : Finset String) : PyVal := writeList .str (sortedTexts ids)

def readIds (value : PyVal) : Except String (Finset String) := do return (← readList readText value).toFinset

def toDict (state : ManagedEntryPlanState) : List (String × PyVal) :=
  [("phase", .str state.phase.value),
    ("terminal_requested", writeOption (fun requested => .str requested.status.value) state.terminalRequested),
    ("terminal_request_reason", .str state.terminalRequestReason), ("filled_volume", .int state.filledVolume),
    ("filled_amount_cny", .float state.filledAmountCny), ("pending_intent_id", .str state.pendingIntentId),
    ("pending_stage_id", .str state.pendingStageId), ("pending_rule_id", .str state.pendingRuleId),
    ("pending_rule_type", .str state.pendingRuleType), ("pending_activation_id", .str state.pendingActivationId),
    ("pending_requested_volume", .int state.pendingRequestedVolume),
    ("pending_requested_amount_cny", .float state.pendingRequestedAmountCny),
    ("pending_filled_volume", .int state.pendingFilledVolume),
    ("pending_filled_amount_cny", .float state.pendingFilledAmountCny),
    ("reserved_amount_cny", .float state.reservedAmountCny), ("order_terminal_seen", .bool state.orderTerminalSeen),
    ("terminal_expected_filled_volume", writeOption (fun n => .int (Int.ofNat n)) state.terminalExpectedFilledVolume),
    ("trade_reconciled", .bool state.tradeReconciled),
    ("rule_state", writeDict (writeDict id) state.ruleState),
    ("rule_activation_counts", writeDict .int state.ruleActivationCounts),
    ("completed_rule_ids", writeIds state.completedRuleIds),
    ("completed_activation_ids", writeIds state.completedActivationIds),
    ("rule_filled_volumes", writeDict .int state.ruleFilledVolumes),
    ("rule_filled_amounts_cny", writeDict .float state.ruleFilledAmountsCny),
    ("daily_order_counts", writeDict .int state.dailyOrderCounts),
    ("daily_filled_amounts_cny", writeDict .float state.dailyFilledAmountsCny),
    ("last_fill_at_ms", writeOption .int state.lastFillAtMs), ("last_intent_at_ms", writeOption .int state.lastIntentAtMs),
    ("retry_after_ms", writeOption .int state.retryAfterMs), ("last_decision", writeDict id state.lastDecision),
    ("data_quality", .str state.dataQuality), ("processed_trade_keys", writeList .str state.processedTradeKeys)]

/-- `from_dict`: missing fields get their defaults. -/
def fromDict (raw : List (String × PyVal)) : Except String ManagedEntryPlanState := do
  return {
    phase := ← fieldOr raw "phase" .armed EntryPlanStatus.read
    terminalRequested := ← fieldOr raw "terminal_requested" none TerminalRequest.read
    terminalRequestReason := ← fieldOr raw "terminal_request_reason" "" readText
    filledVolume := ← fieldOr raw "filled_volume" 0 readInt
    filledAmountCny := ← fieldOr raw "filled_amount_cny" 0 readNumber
    pendingIntentId := ← fieldOr raw "pending_intent_id" "" readText
    pendingStageId := ← fieldOr raw "pending_stage_id" "" readText
    pendingRuleId := ← fieldOr raw "pending_rule_id" "" readText
    pendingRuleType := ← fieldOr raw "pending_rule_type" "" readText
    pendingActivationId := ← fieldOr raw "pending_activation_id" "" readText
    pendingRequestedVolume := ← fieldOr raw "pending_requested_volume" 0 readInt
    pendingRequestedAmountCny := ← fieldOr raw "pending_requested_amount_cny" 0 readNumber
    pendingFilledVolume := ← fieldOr raw "pending_filled_volume" 0 readInt
    pendingFilledAmountCny := ← fieldOr raw "pending_filled_amount_cny" 0 readNumber
    reservedAmountCny := ← fieldOr raw "reserved_amount_cny" 0 readNumber
    orderTerminalSeen := ← fieldOr raw "order_terminal_seen" false readBool
    terminalExpectedFilledVolume := ← fieldOr raw "terminal_expected_filled_volume" none readAnnounced
    tradeReconciled := ← fieldOr raw "trade_reconciled" false readBool
    ruleState := ← fieldOr raw "rule_state" .empty (readDict (readDict readAny))
    ruleActivationCounts := ← fieldOr raw "rule_activation_counts" .empty (readDict readInt)
    completedRuleIds := ← fieldOr raw "completed_rule_ids" ∅ readIds
    completedActivationIds := ← fieldOr raw "completed_activation_ids" ∅ readIds
    ruleFilledVolumes := ← fieldOr raw "rule_filled_volumes" .empty (readDict readInt)
    ruleFilledAmountsCny := ← fieldOr raw "rule_filled_amounts_cny" .empty (readDict readNumber)
    dailyOrderCounts := ← fieldOr raw "daily_order_counts" .empty (readDict readInt)
    dailyFilledAmountsCny := ← fieldOr raw "daily_filled_amounts_cny" .empty (readDict readNumber)
    lastFillAtMs := ← fieldOr raw "last_fill_at_ms" none (readOption readInt)
    lastIntentAtMs := ← fieldOr raw "last_intent_at_ms" none (readOption readInt)
    retryAfterMs := ← fieldOr raw "retry_after_ms" none (readOption readInt)
    lastDecision := ← fieldOr raw "last_decision" .empty (readDict readAny)
    dataQuality := ← fieldOr raw "data_quality" "OK" readText
    processedTradeKeys := ← fieldOr raw "processed_trade_keys" [] (readList readText) }

end ManagedEntryPlanState

end QuantX
