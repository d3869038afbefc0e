import QuantX.Trading.EntryPlanSnapshot

namespace QuantX
open Lib

theorem EntryPlanStatus.read_value (status : EntryPlanStatus) : read (.str status.value) = .ok status := by
  cases status <;> rfl

theorem TerminalRequest.read_written (requested : Option TerminalRequest) :
    read (writeOption (fun requested => .str requested.status.value) requested) = .ok requested := by
  cases requested with
  | none => rfl
  | some requested => cases requested <;> rfl

theorem readAnnounced_written (expected : Option Nat) :
    readAnnounced (writeOption (fun n => .int (Int.ofNat n)) expected) = .ok expected := by
  cases expected <;> rfl

namespace ManagedEntryPlanState

theorem readIds_writeIds (ids : Finset String) : readIds (writeIds ids) = .ok ids := by
  simp only [readIds, writeIds, readList_text, bind, Except.bind, pure, Except.pure,
    toFinset_sortedTexts]

/-! ### The fields, group by group -/

section Fields
variable (state : ManagedEntryPlanState)

theorem status_written : fieldOr state.toDict "phase" .armed EntryPlanStatus.read = .ok state.phase ∧
    fieldOr state.toDict "terminal_requested" none TerminalRequest.read = .ok state.terminalRequested ∧
    fieldOr state.toDict "terminal_request_reason" "" readText = .ok state.terminalRequestReason ∧
    fieldOr state.toDict "filled_volume" 0 readInt = .ok state.filledVolume ∧
    fieldOr state.toDict "filled_amount_cny" 0 readNumber = .ok state.filledAmountCny := by
  refine ⟨?_, ?_, ?_, ?_, ?_⟩ <;>
    simp [fieldOr, toDict, Dict.lookup, EntryPlanStatus.read_value, TerminalRequest.read_written, readText, readInt,
      readNumber]

theorem slice_written : fieldOr state.toDict "pending_intent_id" "" readText = .ok state.pendingIntentId ∧
    fieldOr state.toDict "pending_stage_id" "" readText = .ok state.pendingStageId ∧
    fieldOr state.toDict "pending_rule_id" "" readText = .ok state.pendingRuleId ∧
    fieldOr state.toDict "pending_rule_type" "" readText = .ok state.pendingRuleType ∧
    fieldOr state.toDict "pending_activation_id" "" readText = .ok state.pendingActivationId ∧
    fieldOr state.toDict "pending_requested_volume" 0 readInt = .ok state.pendingRequestedVolume ∧
    fieldOr state.toDict "pending_requested_amount_cny" 0 readNumber = .ok state.pendingRequestedAmountCny ∧
    fieldOr state.toDict "pending_filled_volume" 0 readInt = .ok state.pendingFilledVolume ∧
    fieldOr state.toDict "pending_filled_amount_cny" 0 readNumber = .ok state.pendingFilledAmountCny ∧
    fieldOr state.toDict "reserved_amount_cny" 0 readNumber = .ok state.reservedAmountCny ∧
    fieldOr state.toDict "order_terminal_seen" false readBool = .ok state.orderTerminalSeen ∧
    fieldOr state.toDict "terminal_expected_filled_volume" none readAnnounced = .ok state.terminalExpectedFilledVolume ∧
    fieldOr state.toDict "trade_reconciled" false readBool = .ok state.tradeReconciled := by
  refine ⟨?_, ?_, ?_, ?_, ?_, ?_, ?_, ?_, ?_, ?_, ?_, ?_, ?_⟩ <;>
    simp only [fieldOr, toDict, Dict.lookup, String.reduceEq, ↓reduceIte, readAnnounced_written, readText, readInt,
      readNumber, readBool]

theorem rules_written : fieldOr state.toDict "rule_state" .empty (readDict (readDict readAny)) = .ok state.ruleState ∧
    fieldOr state.toDict "rule_activation_counts" .empty (readDict readInt) = .ok state.ruleActivationCounts ∧
    fieldOr state.toDict "completed_rule_ids" ∅ readIds = .ok state.completedRuleIds ∧
    fieldOr state.toDict "completed_activation_ids" ∅ readIds = .ok state.completedActivationIds ∧
    fieldOr state.toDict "rule_filled_volumes" .empty (readDict readInt) = .ok state.ruleFilledVolumes ∧
    fieldOr state.toDict "rule_filled_amounts_cny" .empty (readDict readNumber) = .ok state.ruleFilledAmountsCny := by
  have hruleState := readDict_writeDict readDict_any state.ruleState
  refine ⟨?_, ?_, ?_, ?_, ?_, ?_⟩ <;>
    simp [fieldOr, toDict, Dict.lookup, hruleState, readIds_writeIds]

theorem pacing_written : fieldOr state.toDict "daily_order_counts" .empty (readDict readInt) = .ok state.dailyOrderCounts ∧
    fieldOr state.toDict "daily_filled_amounts_cny" .empty (readDict readNumber) = .ok state.dailyFilledAmountsCny ∧
    fieldOr state.toDict "last_fill_at_ms" none (readOption readInt) = .ok state.lastFillAtMs ∧
    fieldOr state.toDict "last_intent_at_ms" none (readOption readInt) = .ok state.lastIntentAtMs ∧
    fieldOr state.toDict "retry_after_ms" none (readOption readInt) = .ok state.retryAfterMs ∧
    fieldOr state.toDict "last_decision" .empty (readDict readAny) = .ok state.lastDecision ∧
    fieldOr state.toDict "data_quality" "OK" readText = .ok state.dataQuality ∧
    fieldOr state.toDict "processed_trade_keys" [] (readList readText) = .ok state.processedTradeKeys := by
  refine ⟨?_, ?_, ?_, ?_, ?_, ?_, ?_, ?_⟩ <;>
    simp [fieldOr, toDict, Dict.lookup, readText]

end Fields

theorem fromDict_toDict (state : ManagedEntryPlanState) : fromDict state.toDict = .ok state := by
  obtain ⟨hphase, hrequested, hreason, hvolume, hamount⟩ := state.status_written
  obtain ⟨hintent, hstage, hrule, htype, hactivation, hwanted, hwantedAmount, hfilled, hfilledAmount, hreserved, hseen,
    hexpected, hreconciled⟩ := state.slice_written
  obtain ⟨hruleState, hcounts, hdone, hdoneActivations, hruleVolumes, hruleAmounts⟩ := state.rules_written
  obtain ⟨horders, hdaily, hlastFill, hlastIntent, hretry, hdecision, hquality, hkeys⟩ := state.pacing_written
  unfold fromDict
  exact bind_written hphase <| bind_written hrequested <| bind_written hreason <| bind_written hvolume <|
    bind_written hamount <| bind_written hintent <| bind_written hstage <| bind_written hrule <| bind_written htype <|
    bind_written hactivation <| bind_written hwanted <| bind_written hwantedAmount <| bind_written hfilled <|
    bind_written hfilledAmount <| bind_written hreserved <| bind_written hseen <| bind_written hexpected <|
    bind_written hreconciled <| bind_written hruleState <| bind_written hcounts <| bind_written hdone <|
    bind_written hdoneActivations <| bind_written hruleVolumes <| bind_written hruleAmounts <| bind_written horders <|
    bind_written hdaily <| bind_written hlastFill <| bind_written hlastIntent <| bind_written hretry <|
    bind_written hdecision <| bind_written hquality <| bind_written hkeys rfl

end ManagedEntryPlanState

end QuantX
