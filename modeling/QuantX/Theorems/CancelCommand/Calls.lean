import QuantX.Theorems.CancelCommand.Attempts

namespace QuantX
open Lib

theorem le_foldl_maxNumber {numbers : List Int} {first number : Int} (h : number ≤ first ∨ number ∈ numbers) : number ≤ numbers.foldl max first := by
  induction numbers generalizing first with
  | nil =>
    rcases h with h | h
    · exact h
    · cases h
  | cons other numbers ih =>
    refine ih ?_
    rcases h with h | h
    · exact .inl (h.trans (le_max_left _ _))
    · rcases List.mem_cons.mp h with rfl | h
      · exact .inl (le_max_right _ _)
      · exact .inr h

theorem insertCommand_some {outbox outbox' : List TradeCommandOutbox} {command : TradeCommandOutbox} (h : insertCommand outbox command = some outbox') :
    outbox' = outbox ++ [command] ∧ ∀ row ∈ outbox, row.messageId ≠ command.messageId ∧ row.clientOrderId ≠ command.clientOrderId ∧
      row.idempotencyKey ≠ command.idempotencyKey := by
  unfold insertCommand at h
  split at h
  · cases h
  · rename_i hfree
    cases h
    refine ⟨rfl, fun row hrow => ?_⟩
    simp only [List.any_eq_true, decide_eq_true_eq, not_exists, not_and, not_or] at hfree
    exact hfree row hrow

namespace CancelCall
variable {sha256 : String → String} {call : CancelCall} {outbox : List TradeCommandOutbox} {mode : String}

theorem payload_eq_ok {clientOrderId accountId : String} {payload : CancelCommandPayload}
    (h : call.payload mode clientOrderId accountId = .ok payload) :
    payload.brokerOrderId = call.target ∧ payload.clientOrderId = clientOrderId ∧ payload.accountId = accountId ∧
      payload.expiresAt = call.now + 120000000 := by
  rw [CancelCall.payload, require_bind] at h
  cases h.2
  exact ⟨rfl, rfl, rfl, rfl⟩

def retired (sha256 : String → String) (call : CancelCall) (outbox : List TradeCommandOutbox) : List TradeCommandOutbox :=
  outbox.map fun row => if isCancelAttempt (call.identity sha256) row then row.retire else row

def revivedOutbox (outbox : List TradeCommandOutbox) (attempt : TradeCommandOutbox) (payload : CancelCommandPayload) :
    List TradeCommandOutbox := outbox.map fun row => if row.messageId = attempt.messageId then row.revive payload else row

def nextNumber (sha256 : String → String) (call : CancelCall) (outbox : List TradeCommandOutbox) : Int :=
  ((cancelAttempts (call.identity sha256) outbox).map (·.attemptNumber (call.identity sha256))).foldl max 0 + 1

inductive Effect (sha256 : String → String) (call : CancelCall) (outbox : List TradeCommandOutbox) :
    List TradeCommandOutbox → Except String QueuedTradeCommand → Prop
  | refused (message : String) : Effect sha256 call outbox outbox (.error message)
  | active {a : TradeCommandOutbox} (ha : a ∈ cancelAttempts (call.identity sha256) outbox) (h : a.active call.now = true) :
      Effect sha256 call outbox outbox (.ok a.answer)
  | revived {a : TradeCommandOutbox} {mode : String} {payload : CancelCommandPayload}
      (ha : a ∈ cancelAttempts (call.identity sha256) outbox) (h : a.safelyReusable call.now = true)
      (idle : ∀ b ∈ cancelAttempts (call.identity sha256) outbox, ¬ b.active call.now = true)
      (written : call.payload mode a.clientOrderId a.accountId = .ok payload) :
      Effect sha256 call outbox (revivedOutbox outbox a payload)
        (.ok ⟨a.clientOrderId, a.messageId, .queued⟩)
  | retired (message : String) (idle : ∀ b ∈ cancelAttempts (call.identity sha256) outbox, ¬ b.active call.now = true)
      (spent : ∀ b ∈ cancelAttempts (call.identity sha256) outbox, ¬ b.safelyReusable call.now = true) :
      Effect sha256 call outbox (call.retired sha256 outbox) (.error message)
  | created {mode deviceId : String} {payload : CancelCommandPayload}
      (idle : ∀ b ∈ cancelAttempts (call.identity sha256) outbox, ¬ b.active call.now = true)
      (spent : ∀ b ∈ cancelAttempts (call.identity sha256) outbox, ¬ b.safelyReusable call.now = true)
      (written : call.payload mode ("cancel:" ++ call.clientUuid) call.accountId = .ok payload)
      (fresh : ∀ row ∈ call.retired sha256 outbox, row.messageId ≠ call.messageUuid ∧ row.clientOrderId ≠ "cancel:" ++ call.clientUuid ∧
        row.idempotencyKey ≠ attemptKey (call.identity sha256) (call.nextNumber sha256 outbox)) :
      Effect sha256 call outbox
        (call.retired sha256 outbox ++ [call.newCommand sha256 deviceId (call.nextNumber sha256 outbox) payload])
        (.ok (call.newCommand sha256 deviceId (call.nextNumber sha256 outbox) payload).answer)

theorem afterCollision_error {rows : List TradeCommandOutbox} (h : ∀ a ∈ cancelAttempts (call.identity sha256) rows, ¬ a.active call.later = true) :
    ∃ message, call.afterCollision sha256 rows = .error message := by
  have hnone : (cancelAttempts (call.identity sha256) rows).find? (·.active call.later) = none := List.find?_eq_none.mpr h
  cases hanswer : call.afterCollision sha256 rows with
  | error message => exact ⟨message, rfl⟩
  | ok answer =>
    rw [afterCollision, check_bind, hnone] at hanswer
    cases hanswer.2

theorem mem_retired {b : TradeCommandOutbox} (h : b ∈ cancelAttempts (call.identity sha256) (call.retired sha256 outbox)) :
    ∃ a ∈ cancelAttempts (call.identity sha256) outbox, b = a.retire := by
  obtain ⟨hb, hattempt⟩ := mem_cancelAttempts.mp h
  obtain ⟨a, ha, rfl⟩ := List.mem_map.mp hb
  split at hattempt
  · rename_i hown
    rw [if_pos hown]
    exact ⟨a, mem_cancelAttempts.mpr ⟨ha, hown⟩, rfl⟩
  · rename_i hother
    exact absurd hattempt hother

theorem retired_attempts : cancelAttempts (call.identity sha256) (call.retired sha256 outbox) =
    (cancelAttempts (call.identity sha256) outbox).map (·.retire) := by
  rw [CancelCall.retired, cancelAttempts_map]
  · refine List.map_congr_left fun row hrow => if_pos (mem_cancelAttempts.mp hrow).2
  · intro row
    split
    · exact row.retire_eq.2.2.1
    · rfl

theorem create_effect (hlater : call.now ≤ call.later) (idle : ∀ b ∈ cancelAttempts (call.identity sha256) outbox, ¬ b.active call.now = true)
    (spent : ∀ b ∈ cancelAttempts (call.identity sha256) outbox, ¬ b.safelyReusable call.now = true) :
    call.Effect sha256 outbox (call.create sha256 outbox mode).1 (call.create sha256 outbox mode).2 := by
  have hstill : ∀ a ∈ cancelAttempts (call.identity sha256) outbox, ¬ a.active call.later = true := by
    intro a ha hactive
    obtain ⟨hstatus, hlive⟩ := TradeCommandOutbox.active_iff.mp hactive
    exact idle a ha (TradeCommandOutbox.active_iff.mpr ⟨hstatus, hlater.trans_lt hlive⟩)
  have hstill' : ∀ a ∈ cancelAttempts (call.identity sha256) (call.retired sha256 outbox), ¬ a.active call.later = true := by
    intro b hb hactive
    obtain ⟨a, ha, rfl⟩ := mem_retired hb
    obtain ⟨hstatus, hlive⟩ := TradeCommandOutbox.active_iff.mp hactive
    obtain ⟨-, -, -, -, hexpires, -, hsame | ⟨-, hretired⟩⟩ := a.retire_eq
    · rw [hsame] at hactive
      exact hstill a ha hactive
    · rw [hretired] at hstatus
      simp at hstatus
  unfold create
  simp only
  cases hdevice : call.device with
  | error message => exact .retired message idle spent
  | ok deviceId =>
    simp only
    cases hpayload : call.payload mode ("cancel:" ++ call.clientUuid) call.accountId with
    | error message => exact .retired message idle spent
    | ok payload =>
      simp only
      cases hinsert : insertCommand (call.retired sha256 outbox)
          (call.newCommand sha256 deviceId (call.nextNumber sha256 outbox) payload) with
      | some outbox' =>
        obtain ⟨rfl, hfresh⟩ := insertCommand_some hinsert
        unfold CancelCall.retired nextNumber at hinsert
        simp only [hinsert]
        exact .created idle spent hpayload hfresh
      | none =>
        unfold CancelCall.retired nextNumber at hinsert
        simp only [hinsert]
        split
        · obtain ⟨message, herror⟩ := afterCollision_error hstill
          rw [herror]
          exact .refused message
        · obtain ⟨message, herror⟩ := afterCollision_error hstill'
          unfold CancelCall.retired at herror
          rw [herror]
          exact .retired message idle spent

theorem enqueueCancel_effect (hlater : call.now ≤ call.later) :
    call.Effect sha256 outbox (call.enqueueCancel sha256 outbox).1 (call.enqueueCancel sha256 outbox).2 := by
  unfold enqueueCancel
  cases call.checked sha256 outbox with
  | error message => exact .refused message
  | ok mode =>
    simp only
    cases hactive : (cancelAttempts (call.identity sha256) outbox).find? (·.active call.now) with
    | some attempt =>
      exact .active (List.mem_of_find?_eq_some hactive) (List.find?_some hactive)
    | none =>
      have idle := List.find?_eq_none.mp hactive
      simp only
      cases hreusable : (cancelAttempts (call.identity sha256) outbox).find? (·.safelyReusable call.now) with
      | some attempt =>
        simp only [CancelCall.revive]
        cases hpayload : call.payload mode attempt.clientOrderId attempt.accountId with
        | error message => exact .refused message
        | ok payload =>
          exact .revived (List.mem_of_find?_eq_some hreusable) (List.find?_some hreusable) idle hpayload
      | none => exact create_effect hlater idle (List.find?_eq_none.mp hreusable)

theorem enqueueCancel_other {a : TradeCommandOutbox} (ha : a ∈ cancelAttempts (call.identity sha256) outbox)
    (htarget : stripText a.payload.brokerOrderId ≠ call.target) :
    ∃ message, call.enqueueCancel sha256 outbox = (outbox, .error message) := by
  unfold enqueueCancel
  cases hchecks : call.checked sha256 outbox with
  | error message => exact ⟨message, rfl⟩
  | ok mode =>
    rw [checked, check_bind, check_bind, bind_eq_ok] at hchecks
    obtain ⟨-, -, _, -, hchecked⟩ := hchecks
    rw [check_bind, forM_eq_ok] at hchecked
    have hcheck := hchecked.1 a ha
    rw [TradeCommandOutbox.checkAttempt, require_bind, TradeCommandOutbox.checkTargets, require_eq_ok, TradeCommandOutbox.matchesRequest,
      decide_eq_true_eq] at hcheck
    obtain ⟨-, -, -, -, -, -, -, -, -, hbroker, -⟩ := hcheck
    exact absurd hbroker htarget

end CancelCall
end QuantX
