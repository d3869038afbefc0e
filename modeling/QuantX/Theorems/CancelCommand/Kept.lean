import QuantX.Theorems.CancelCommand.Calls

namespace QuantX
open Lib

structure CancelState where
  outbox : List TradeCommandOutbox
  clock : Int

/-- `keeps`: the caller commits what its session has after a call that raised. `others` is what happens to commands of
    other identities. -/
inductive CancelOp where
  | enqueue (call : CancelCall) (keeps : Bool)
  | update (messageId : String) (update : DeliveryUpdate) (now : Int)
  | others (outbox : List TradeCommandOutbox) (now : Int)

def updateCommand (outbox : List TradeCommandOutbox) (messageId : String) (update : DeliveryUpdate) (now : Int) : List TradeCommandOutbox :=
  outbox.map fun row => if row.messageId = messageId then row.update now update else row

/-- The outbox after a call: what the session has, or the old one if the call raised and its caller rolls back. -/
def CancelCall.commit (sha256 : String → String) (call : CancelCall) (keeps : Bool) (outbox : List TradeCommandOutbox) : List TradeCommandOutbox :=
  let result := call.enqueueCancel sha256 outbox
  if result.2.isOk || keeps then result.1 else outbox

def CancelState.step (sha256 : String → String) (s : CancelState) : CancelOp → CancelState
  | .enqueue call keeps => ⟨call.commit sha256 keeps s.outbox, call.now⟩
  | .update messageId update now => ⟨updateCommand s.outbox messageId update now, now⟩
  | .others outbox now => ⟨outbox, now⟩

/-- A failure outside the delivery leaves a final status, and a requeue follows a delivery attempt. -/
def DeliveryUpdate.Sound : DeliveryUpdate → Prop
  | .withdraw status _ => status ≠ .queued ∧ status ≠ .delivered ∧ status ≠ .acknowledged ∧ status ≠ .expired
  | .requeue deliveredAt attempts => deliveredAt ≠ none ∨ 0 < attempts
  | _ => True

/-- Time goes on, the calls are for the identity, and what happens to other commands leaves its attempts alone. -/
def CancelLegal (sha256 : String → String) (identity : String) (_ : List (Moment CancelState CancelOp)) (s : CancelState) : CancelOp → Prop
  | .enqueue call _ => s.clock ≤ call.now ∧ call.now ≤ call.later ∧ call.identity sha256 = identity
  | .update _ update now => s.clock ≤ now ∧ update.Sound
  | .others outbox now => s.clock ≤ now ∧ (cancelAttempts identity outbox).Perm (cancelAttempts identity s.outbox)

abbrev CancelRun (sha256 : String → String) (identity : String) : List (Moment CancelState CancelOp) → CancelState → Prop :=
  Run (fun s => cancelAttempts identity s.outbox = []) (CancelState.step sha256) (CancelLegal sha256 identity)

def TimelyRequeue (s : CancelState) : CancelOp → Prop
  | .update messageId (.requeue _ _) now => ∀ row ∈ s.outbox, row.messageId = messageId → row.deliveryStatus = .delivered ∧ now < row.expiresAt
  | _ => True

namespace TradeCommandOutbox
variable {now clock : Int} {attempt : TradeCommandOutbox} {update : DeliveryUpdate}

theorem update_eq (now : Int) (attempt : TradeCommandOutbox) (update : DeliveryUpdate) :
    (attempt.update now update).messageId = attempt.messageId ∧ (attempt.update now update).clientOrderId = attempt.clientOrderId ∧
      (attempt.update now update).idempotencyKey = attempt.idempotencyKey ∧ (attempt.update now update).payload = attempt.payload ∧
      (attempt.update now update).expiresAt = attempt.expiresAt := by
  cases update with
  | deliver =>
    simp only [TradeCommandOutbox.update, deliver]
    split <;> exact ⟨rfl, rfl, rfl, rfl, rfl⟩
  | ack accepted reason =>
    simp only [TradeCommandOutbox.update, recordAck]
    split_ifs <;> exact ⟨rfl, rfl, rfl, rfl, rfl⟩
  | expire =>
    simp only [TradeCommandOutbox.update, expire]
    split_ifs <;> exact ⟨rfl, rfl, rfl, rfl, rfl⟩
  | withdraw => exact ⟨rfl, rfl, rfl, rfl, rfl⟩
  | requeue => exact ⟨rfl, rfl, rfl, rfl, rfl⟩

theorem recordAck_cases (now : Int) (accepted : Bool) (reason : String) (attempt : TradeCommandOutbox) :
    attempt.recordAck now accepted reason = attempt ∨
      (attempt.deliveryStatus = .queued ∨ attempt.deliveryStatus = .delivered) ∧
        (attempt.recordAck now accepted reason).deliveryStatus = .delivered ∧ (attempt.recordAck now accepted reason).deliveredAt = some now ∨
      (attempt.recordAck now accepted reason).acknowledgedAt = some now ∧
        (attempt.recordAck now accepted reason).deliveryStatus ≠ .queued ∧ (attempt.recordAck now accepted reason).deliveryStatus ≠ .delivered := by
  unfold recordAck
  simp only
  split
  · split
    · rename_i hopen
      exact .inr (.inl ⟨hopen, rfl, rfl⟩)
    · exact .inl rfl
  · refine .inr (.inr ?_)
    split
    · exact ⟨rfl, by simp, by simp⟩
    · split
      · refine ⟨rfl, ?_, ?_⟩
        · show (if _ then DeliveryStatus.expired else .rejected) ≠ _
          split <;> simp
        · show (if _ then DeliveryStatus.expired else .rejected) ≠ _
          split <;> simp
      · exact ⟨rfl, by simp, by simp⟩

theorem update_sent (hsound : update.Sound) (h : attempt.Sent) : (attempt.update now update).Sent := by
  cases update with
  | deliver =>
    simp only [TradeCommandOutbox.update, deliver]
    split
    · exact .inl (by simp)
    · exact h
  | ack accepted reason =>
    show (attempt.recordAck now accepted reason).Sent
    rcases recordAck_cases now accepted reason attempt with hsame | ⟨-, -, hdelivered⟩ | ⟨hacknowledged, -⟩
    · rw [hsame]
      exact h
    · exact .inl (by simp [hdelivered])
    · exact .inr (.inl (by simp [hacknowledged]))
  | expire =>
    simp only [TradeCommandOutbox.update, expire]
    split_ifs
    · exact h
    · exact h
    · exact h
    · exact h
  | withdraw => exact h
  | requeue => exact hsound.imp_right .inr

theorem update_lapsed (hsound : update.Sound) (h : attempt.deliveryStatus = .expired → attempt.Sent ∨ attempt.expiresAt ≤ now)
    (hexpired : (attempt.update now update).deliveryStatus = .expired) :
    (attempt.update now update).Sent ∨ (attempt.update now update).expiresAt ≤ now := by
  cases update with
  | deliver =>
    simp only [TradeCommandOutbox.update, deliver] at hexpired ⊢
    split at hexpired
    · cases hexpired
    · rename_i hkept
      rw [if_neg hkept]
      exact h hexpired
  | ack accepted reason =>
    change (attempt.recordAck now accepted reason).deliveryStatus = .expired at hexpired
    show (attempt.recordAck now accepted reason).Sent ∨ (attempt.recordAck now accepted reason).expiresAt ≤ now
    rcases recordAck_cases now accepted reason attempt with hsame | ⟨-, hdelivered, -⟩ | ⟨hacknowledged, -⟩
    · rw [hsame] at hexpired ⊢
      exact h hexpired
    · rw [hdelivered] at hexpired
      cases hexpired
    · exact .inl (.inr (.inl (by simp [hacknowledged])))
  | expire =>
    simp only [TradeCommandOutbox.update, expire] at hexpired ⊢
    split_ifs at hexpired ⊢ with hover hqueued hdelivered
    · exact .inr hover
    · exact h hexpired
    · exact h hexpired
  | withdraw status reason => exact absurd hexpired hsound.2.2.2
  | requeue => cases hexpired

theorem update_settled (hclock : clock ≤ now) (hsound : update.Sound) (h : attempt.Settled clock)
    (htimely : ∀ deliveredAt attempts, update = .requeue deliveredAt attempts → attempt.deliveryStatus = .delivered ∧ now < attempt.expiresAt) :
    (attempt.update now update).Settled now := by
  obtain ⟨hqueued, hdelivered, hexpired⟩ := h
  have hover : attempt.deliveryStatus = .delivered → attempt.expiresAt ≤ now := fun h => (hdelivered h).trans hclock
  cases update with
  | deliver =>
    simp only [TradeCommandOutbox.update, deliver]
    split
    · rename_i hdeliver
      rcases hdeliver.1 with hstatus | hstatus
      · exact absurd hstatus hqueued
      · exact absurd (hover hstatus) hdeliver.2.not_ge
    · exact ⟨hqueued, hover, hexpired⟩
  | ack accepted reason =>
    have hexpires : (attempt.recordAck now accepted reason).expiresAt = attempt.expiresAt :=
      (update_eq now attempt (.ack accepted reason)).2.2.2.2
    show (attempt.recordAck now accepted reason).Settled now
    rcases recordAck_cases now accepted reason attempt with hsame | ⟨hopen, hstatus, -⟩ | ⟨hacknowledged, hqueued', hdelivered'⟩
    · rw [hsame]
      exact ⟨hqueued, hover, hexpired⟩
    · refine ⟨by simp [hstatus], fun _ => ?_, by simp [hstatus]⟩
      rw [hexpires]
      exact hover (hopen.resolve_left hqueued)
    · exact ⟨hqueued', fun h => absurd h hdelivered', fun _ => .inr (.inl (by simp [hacknowledged]))⟩
  | expire =>
    simp only [TradeCommandOutbox.update, expire]
    split
    · split
      · exact ⟨by simp, by simp, by simp⟩
      · exact ⟨hqueued, hover, hexpired⟩
    · exact ⟨hqueued, hover, hexpired⟩
  | withdraw status reason => exact ⟨hsound.1, fun h => absurd h hsound.2.1, fun h => absurd h hsound.2.2.2⟩
  | requeue deliveredAt attempts =>
    obtain ⟨hstatus, hlive⟩ := htimely deliveredAt attempts rfl
    exact absurd (hover hstatus) hlive.not_ge

end TradeCommandOutbox

section Step
variable {sha256 : String → String} {identity : String} {log : List (Moment CancelState CancelOp)} {s : CancelState} {op : CancelOp}
  {outbox outbox' : List TradeCommandOutbox} {call : CancelCall} {clock : Int} {answer : Except String QueuedTradeCommand}

theorem updateCommand_attempts (messageId : String) (update : DeliveryUpdate) (now : Int) :
    cancelAttempts identity (updateCommand outbox messageId update now) =
      (cancelAttempts identity outbox).map fun row => if row.messageId = messageId then row.update now update else row := by
  rw [updateCommand, cancelAttempts_map]
  intro row
  split
  · exact (row.update_eq now update).2.2.1
  · rfl

theorem revived_attempts (a : TradeCommandOutbox) (payload : CancelCommandPayload) :
    cancelAttempts identity (CancelCall.revivedOutbox outbox a payload) =
      (cancelAttempts identity outbox).map fun row => if row.messageId = a.messageId then row.revive payload else row := by
  rw [CancelCall.revivedOutbox, cancelAttempts_map]
  intro row
  split
  · rfl
  · rfl

theorem created_attempts {deviceId : String} {number : Int} {payload : CancelCommandPayload} :
    cancelAttempts (call.identity sha256) (call.retired sha256 outbox ++ [call.newCommand sha256 deviceId number payload]) =
      (cancelAttempts (call.identity sha256) outbox).map (·.retire) ++ [call.newCommand sha256 deviceId number payload] := by
  have hnew : isCancelAttempt (call.identity sha256) (call.newCommand sha256 deviceId number payload) = true := isCancelAttempt_key rfl
  rw [cancelAttempts, List.filter_append, List.filter_singleton, hnew]
  exact congrArg (· ++ _) CancelCall.retired_attempts

theorem commit_cases (sha256 : String → String) (call : CancelCall) (keeps : Bool) (outbox : List TradeCommandOutbox) :
    call.commit sha256 keeps outbox = (call.enqueueCancel sha256 outbox).1 ∨ call.commit sha256 keeps outbox = outbox := by
  unfold CancelCall.commit
  simp only
  split
  · exact .inl rfl
  · exact .inr rfl

theorem answered_target {q : QueuedTradeCommand} (h : (call.enqueueCancel sha256 outbox).2 = .ok q) :
    ∀ a ∈ cancelAttempts (call.identity sha256) outbox, stripText a.payload.brokerOrderId = call.target := by
  intro a ha
  by_contra hne
  obtain ⟨message, hrefused⟩ := CancelCall.enqueueCancel_other ha hne
  rw [hrefused] at h
  cases h

theorem nextNumber_gt (a : TradeCommandOutbox) (ha : a ∈ cancelAttempts (call.identity sha256) outbox) :
    a.attemptNumber (call.identity sha256) < call.nextNumber sha256 outbox :=
  Int.lt_add_one_of_le (le_foldl_maxNumber (.inr (List.mem_map_of_mem ha)))

theorem nextNumber_pos (sha256 : String → String) (call : CancelCall) (outbox : List TradeCommandOutbox) : 1 ≤ call.nextNumber sha256 outbox := by
  have h := @le_foldl_maxNumber ((cancelAttempts (call.identity sha256) outbox).map (·.attemptNumber (call.identity sha256))) 0 0 (.inl le_rfl)
  unfold CancelCall.nextNumber
  omega

theorem AttemptsSound.enqueue (h : AttemptsSound (call.identity sha256) (cancelAttempts (call.identity sha256) outbox)) (hlater : call.now ≤ call.later) :
    AttemptsSound (call.identity sha256) (cancelAttempts (call.identity sha256) (call.enqueueCancel sha256 outbox).1) := by
  have htarget := fun q => @answered_target sha256 outbox call q
  have heffect := @CancelCall.enqueueCancel_effect sha256 call outbox hlater
  generalize (call.enqueueCancel sha256 outbox).1 = outbox' at heffect ⊢
  generalize (call.enqueueCancel sha256 outbox).2 = answer at heffect htarget
  cases heffect with
  | refused => exact h
  | active => exact h
  | @revived a mode payload ha hreusable idle written =>
    rw [revived_attempts]
    refine h.map _ fun b hb => ?_
    split
    · refine ⟨rfl, rfl, rfl, ?_⟩
      show payload.brokerOrderId = b.payload.brokerOrderId
      rw [(CancelCall.payload_eq_ok written).1, ← htarget _ rfl b hb, h.stripped b hb]
    · exact ⟨rfl, rfl, rfl, rfl⟩
  | retired =>
    rw [CancelCall.retired_attempts]
    exact h.map _ fun b _ => ⟨b.retire_eq.2.2.1, b.retire_eq.1, b.retire_eq.2.1, congrArg _ b.retire_eq.2.2.2.1⟩
  | @created mode deviceId payload idle spent written fresh =>
    have hretired := h.map (·.retire) fun b _ => ⟨b.retire_eq.2.2.1, b.retire_eq.1, b.retire_eq.2.1, congrArg _ b.retire_eq.2.2.2.1⟩
    have hbroker := (CancelCall.payload_eq_ok written).1
    rw [created_attempts]
    refine hretired.concat (nextNumber_pos sha256 call outbox) rfl (fun b hb => ?_) ?_ fun b hb => ?_
    · rw [← CancelCall.retired_attempts] at hb
      obtain ⟨hmessage, hclient, hkey⟩ := fresh b (mem_cancelAttempts.mp hb).1
      exact ⟨hkey, hmessage, hclient⟩
    · show stripText payload.brokerOrderId = payload.brokerOrderId
      rw [hbroker]
      exact stripText_stripText _
    · obtain ⟨a, ha, rfl⟩ := List.mem_map.mp hb
      show a.retire.payload.brokerOrderId = payload.brokerOrderId
      rw [a.retire_eq.2.2.2.1, hbroker, ← htarget _ rfl a ha, h.stripped a ha]

theorem AttemptsSound.step (h : AttemptsSound identity (cancelAttempts identity s.outbox)) (hlegal : CancelLegal sha256 identity log s op) :
    AttemptsSound identity (cancelAttempts identity (s.step sha256 op).outbox) := by
  cases op with
  | enqueue call keeps =>
    obtain ⟨-, hlater, rfl⟩ := hlegal
    show AttemptsSound _ (cancelAttempts _ (call.commit sha256 keeps s.outbox))
    rcases commit_cases sha256 call keeps s.outbox with hcommit | hcommit
    · rw [hcommit]
      exact h.enqueue hlater
    · rw [hcommit]
      exact h
  | update messageId update now =>
    show AttemptsSound _ (cancelAttempts _ (updateCommand s.outbox messageId update now))
    rw [updateCommand_attempts]
    refine h.map _ fun a _ => ?_
    obtain ⟨hmessage, hclient, hkey, hpayload, -⟩ := a.update_eq now update
    split
    · exact ⟨hkey, hmessage, hclient, congrArg _ hpayload⟩
    · exact ⟨rfl, rfl, rfl, rfl⟩
  | others outbox now => exact h.perm hlegal.2

theorem CancelRun.sound (h : CancelRun sha256 identity log s) : AttemptsSound identity (cancelAttempts identity s.outbox) := by
  refine h.invariant (fun _ s => AttemptsSound identity (cancelAttempts identity s.outbox)) ?_ fun _ _ _ h hlegal => h.step hlegal
  intro s hs
  rw [hs]
  exact .nil

/-! ### The newest attempt -/

theorem TradeCommandOutbox.Settled.mono {a : TradeCommandOutbox} {now : Int} (h : a.Settled clock) (hclock : clock ≤ now) : a.Settled now :=
  ⟨h.1, fun hdelivered => (h.2.1 hdelivered).trans hclock, h.2.2⟩

theorem TradeCommandOutbox.Settled.retire {a : TradeCommandOutbox} (h : a.Settled clock) : a.retire = a :=
  a.retire_eq.2.2.2.2.2.2.resolve_right fun hqueued => h.1 hqueued.1

namespace AttemptsOrderly
variable {attempts attempts' : List TradeCommandOutbox} {now : Int}

theorem nil : AttemptsOrderly identity clock [] := ⟨by simp, by simp⟩

theorem mono (h : AttemptsOrderly identity clock attempts) (hclock : clock ≤ now) : AttemptsOrderly identity now attempts where
  lapsed := fun a ha hexpired => (h.lapsed a ha hexpired).imp_right (·.trans hclock)
  settled := fun a ha b hb hlt => (h.settled a ha b hb hlt).mono hclock

theorem perm (h : AttemptsOrderly identity clock attempts) (hperm : attempts'.Perm attempts) : AttemptsOrderly identity clock attempts' where
  lapsed := fun a ha => h.lapsed a (hperm.mem_iff.mp ha)
  settled := fun a ha b hb => h.settled a (hperm.mem_iff.mp ha) b (hperm.mem_iff.mp hb)

/-- A change of each attempt that keeps its key, and that neither expires it early nor unsettles it. -/
theorem map (h : AttemptsOrderly identity clock attempts) (f : TradeCommandOutbox → TradeCommandOutbox)
    (hkey : ∀ a ∈ attempts, (f a).idempotencyKey = a.idempotencyKey)
    (hlapsed : ∀ a ∈ attempts, (f a).deliveryStatus = .expired → (f a).Sent ∨ (f a).expiresAt ≤ now)
    (hsettled : ∀ a ∈ attempts, a.Settled clock → (f a).Settled now) : AttemptsOrderly identity now (attempts.map f) := by
  refine ⟨?_, ?_⟩
  · intro a' ha'
    obtain ⟨a, ha, rfl⟩ := List.mem_map.mp ha'
    exact hlapsed a ha
  · intro a' ha' b' hb' hlt
    obtain ⟨a, ha, rfl⟩ := List.mem_map.mp ha'
    obtain ⟨b, hb, rfl⟩ := List.mem_map.mp hb'
    rw [attemptNumber_congr (hkey a ha), attemptNumber_congr (hkey b hb)] at hlt
    exact hsettled a ha (h.settled a ha b hb hlt)

theorem retire (h : AttemptsOrderly identity clock attempts) (hclock : clock ≤ now) :
    AttemptsOrderly identity now (attempts.map (·.retire)) := by
  refine h.map (·.retire) (fun a _ => a.retire_eq.2.2.1) (fun a ha hexpired => ?_) fun a _ hsettled => ?_
  · rcases a.retire_eq.2.2.2.2.2.2 with hsame | ⟨-, hretired⟩
    · rw [hsame] at hexpired ⊢
      exact (h.lapsed a ha hexpired).imp_right (·.trans hclock)
    · rw [hretired] at hexpired
      cases hexpired
  · rw [hsettled.retire]
    exact hsettled.mono hclock

theorem settle (h : AttemptsOrderly identity clock attempts) (hclock : clock ≤ now) {a : TradeCommandOutbox} (ha : a ∈ attempts)
    (idle : ¬ a.active now = true) (spent : ¬ a.safelyReusable now = true) : a.retire.Settled now := by
  refine ⟨a.retire_status, fun hdelivered => ?_, fun hexpired => ?_⟩
  · rcases a.retire_eq.2.2.2.2.2.2 with hsame | ⟨-, hretired⟩
    · rw [hsame] at hdelivered ⊢
      by_contra hlive
      exact idle (TradeCommandOutbox.active_iff.mpr ⟨.inr (.inl hdelivered), not_le.mp hlive⟩)
    · rw [hretired] at hdelivered
      cases hdelivered
  · rcases a.retire_eq.2.2.2.2.2.2 with hsame | ⟨-, hretired⟩
    · rw [hsame] at hexpired ⊢
      by_contra hsent
      have hover := (h.lapsed a ha hexpired).resolve_left hsent
      exact spent (TradeCommandOutbox.safelyReusable_iff.mpr ⟨.inr hexpired, hover.trans hclock, hsent⟩)
    · rw [hretired] at hexpired
      cases hexpired

theorem enqueue (h : AttemptsOrderly (call.identity sha256) clock (cancelAttempts (call.identity sha256) outbox))
    (hsound : AttemptsSound (call.identity sha256) (cancelAttempts (call.identity sha256) outbox)) (hclock : clock ≤ call.now)
    (hlater : call.now ≤ call.later) :
    AttemptsOrderly (call.identity sha256) call.now (cancelAttempts (call.identity sha256) (call.enqueueCancel sha256 outbox).1) := by
  have heffect := @CancelCall.enqueueCancel_effect sha256 call outbox hlater
  generalize (call.enqueueCancel sha256 outbox).1 = outbox' at heffect ⊢
  generalize (call.enqueueCancel sha256 outbox).2 = answer at heffect
  cases heffect with
  | refused => exact h.mono hclock
  | active => exact h.mono hclock
  | @revived a mode payload ha hreusable idle written =>
    rw [revived_attempts]
    obtain ⟨hstatus, -, hunsent⟩ := TradeCommandOutbox.safelyReusable_iff.mp hreusable
    refine h.map _ (fun b _ => ?_) (fun b hb hexpired => ?_) fun b hb hsettled => ?_
    · split <;> rfl
    · split at hexpired
      · cases hexpired
      · rename_i hother
        rw [if_neg hother]
        exact (h.lapsed b hb hexpired).imp_right (·.trans hclock)
    · split
      · rename_i hown
        obtain rfl := List.inj_on_of_nodup_map hsound.messages hb ha hown
        rcases hstatus with hqueued | hexpired
        · exact absurd hqueued hsettled.1
        · exact absurd (hsettled.2.2 hexpired) hunsent
      · exact hsettled.mono hclock
  | retired =>
    rw [CancelCall.retired_attempts]
    exact h.retire hclock
  | @created mode deviceId payload idle spent written fresh =>
    rw [created_attempts]
    have hretired := h.retire hclock
    have hnumber : (call.newCommand sha256 deviceId (call.nextNumber sha256 outbox) payload).attemptNumber (call.identity sha256) =
        call.nextNumber sha256 outbox := attemptNumber_key (nextNumber_pos sha256 call outbox) rfl
    have hold : ∀ b ∈ (cancelAttempts (call.identity sha256) outbox).map (·.retire),
        b.attemptNumber (call.identity sha256) < call.nextNumber sha256 outbox := by
      intro b hb
      obtain ⟨a, ha, rfl⟩ := List.mem_map.mp hb
      rw [attemptNumber_congr a.retire_eq.2.2.1]
      exact nextNumber_gt a ha
    refine ⟨fun a ha hexpired => ?_, fun a ha b hb hlt => ?_⟩
    · rcases List.mem_append.mp ha with ha | ha
      · exact hretired.lapsed a ha hexpired
      · rw [List.mem_singleton.mp ha] at hexpired
        cases hexpired
    · rcases List.mem_append.mp ha with ha | ha
      · rcases List.mem_append.mp hb with hb | hb
        · exact hretired.settled a ha b hb hlt
        · obtain ⟨c, hc, rfl⟩ := List.mem_map.mp ha
          exact h.settle hclock hc (idle c hc) (spent c hc)
      · rw [List.mem_singleton.mp ha, hnumber] at hlt
        rcases List.mem_append.mp hb with hb | hb
        · exact absurd hlt (hold b hb).not_gt
        · rw [List.mem_singleton.mp hb, hnumber] at hlt
          exact absurd hlt (lt_irrefl _)

theorem step (h : AttemptsOrderly identity s.clock (cancelAttempts identity s.outbox)) (hsound : AttemptsSound identity (cancelAttempts identity s.outbox))
    (hlegal : CancelLegal sha256 identity log s op) (htimely : TimelyRequeue s op) :
    AttemptsOrderly identity (s.step sha256 op).clock (cancelAttempts identity (s.step sha256 op).outbox) := by
  cases op with
  | enqueue call keeps =>
    obtain ⟨hclock, hlater, rfl⟩ := hlegal
    show AttemptsOrderly _ call.now (cancelAttempts _ (call.commit sha256 keeps s.outbox))
    rcases commit_cases sha256 call keeps s.outbox with hcommit | hcommit
    · rw [hcommit]
      exact h.enqueue hsound hclock hlater
    · rw [hcommit]
      exact h.mono hclock
  | update messageId update now =>
    obtain ⟨hclock, hupdate⟩ := hlegal
    show AttemptsOrderly _ now (cancelAttempts _ (updateCommand s.outbox messageId update now))
    rw [updateCommand_attempts]
    have hlapsed := fun a ha => (h.mono hclock).lapsed a ha
    refine h.map _ (fun a _ => ?_) (fun a ha hexpired => ?_) fun a ha hsettled => ?_
    · split
      · exact (a.update_eq now update).2.2.1
      · rfl
    · split at hexpired
      · rename_i hown
        rw [if_pos hown]
        exact TradeCommandOutbox.update_lapsed hupdate (hlapsed a ha) hexpired
      · rename_i hother
        rw [if_neg hother]
        exact hlapsed a ha hexpired
    · split
      · rename_i hown
        refine TradeCommandOutbox.update_settled hclock hupdate hsettled ?_
        rintro deliveredAt attempts rfl
        exact htimely a (mem_cancelAttempts.mp ha).1 hown
      · exact hsettled.mono hclock
  | others outbox now => exact (h.mono hlegal.1).perm hlegal.2

theorem one_queued (h : AttemptsOrderly identity clock attempts) (hsound : AttemptsSound identity attempts) :
    (attempts.filter (·.deliveryStatus = .queued)).length ≤ 1 := by
  have hone : ∀ a ∈ attempts.filter (·.deliveryStatus = .queued), ∀ b ∈ attempts.filter (·.deliveryStatus = .queued), a = b := by
    intro a ha b hb
    obtain ⟨ha, hqueued⟩ := List.mem_filter.mp ha
    obtain ⟨hb, hqueued'⟩ := List.mem_filter.mp hb
    rcases lt_trichotomy (a.attemptNumber identity) (b.attemptNumber identity) with hlt | heq | hlt
    · exact absurd (of_decide_eq_true hqueued) (h.settled a ha b hb hlt).1
    · exact hsound.eq_of_number ha hb heq
    · exact absurd (of_decide_eq_true hqueued') (h.settled b hb a ha hlt).1
  have hnodup : (attempts.filter (·.deliveryStatus = .queued)).Nodup := (List.Nodup.of_map _ hsound.messages).filter _
  generalize attempts.filter (·.deliveryStatus = .queued) = queued at hone hnodup
  rcases queued with _ | ⟨a, _ | ⟨b, rest⟩⟩
  · simp
  · simp
  · obtain rfl := hone a (List.mem_cons_self ..) b (List.mem_cons_of_mem _ (List.mem_cons_self ..))
    exact absurd (List.mem_cons_self ..) (List.nodup_cons.mp hnodup).1

end AttemptsOrderly

/-- The attempts that may have left are still there, with the same identities and payload. -/
def KeepsSent (identity : String) (s s' : CancelState) : Prop :=
  ∀ a ∈ cancelAttempts identity s.outbox, a.Sent → ∃ b ∈ cancelAttempts identity s'.outbox,
    b.messageId = a.messageId ∧ b.clientOrderId = a.clientOrderId ∧ b.payload = a.payload ∧ b.Sent

theorem enqueue_sent (hsound : AttemptsSound (call.identity sha256) (cancelAttempts (call.identity sha256) outbox))
    (hlater : call.now ≤ call.later) {a : TradeCommandOutbox} (ha : a ∈ cancelAttempts (call.identity sha256) outbox) (hsent : a.Sent) :
    ∃ b ∈ cancelAttempts (call.identity sha256) (call.enqueueCancel sha256 outbox).1, b.messageId = a.messageId ∧
      b.clientOrderId = a.clientOrderId ∧ b.payload = a.payload ∧ b.Sent ∧ (b.deliveryStatus = .queued → a.deliveryStatus = .queued) := by
  have heffect := @CancelCall.enqueueCancel_effect sha256 call outbox hlater
  generalize (call.enqueueCancel sha256 outbox).1 = outbox' at heffect ⊢
  generalize (call.enqueueCancel sha256 outbox).2 = answer at heffect
  have hretire : a.retire ∈ (cancelAttempts (call.identity sha256) outbox).map (·.retire) := List.mem_map_of_mem ha
  obtain ⟨hmessage, hclient, -, hpayload, -, hkept, -⟩ := a.retire_eq
  cases heffect with
  | refused => exact ⟨a, ha, rfl, rfl, rfl, hsent, id⟩
  | active => exact ⟨a, ha, rfl, rfl, rfl, hsent, id⟩
  | @revived c mode payload hc hreusable idle written =>
    refine ⟨a, ?_, rfl, rfl, rfl, hsent, id⟩
    rw [revived_attempts]
    refine List.mem_map.mpr ⟨a, ha, if_neg fun hown => ?_⟩
    obtain rfl := List.inj_on_of_nodup_map hsound.messages ha hc hown
    exact (TradeCommandOutbox.safelyReusable_iff.mp hreusable).2.2 hsent
  | retired =>
    rw [CancelCall.retired_attempts]
    exact ⟨_, hretire, hmessage, hclient, hpayload, hkept.mpr hsent, fun hqueued => absurd hqueued a.retire_status⟩
  | created =>
    rw [created_attempts]
    exact ⟨_, List.mem_append_left _ hretire, hmessage, hclient, hpayload, hkept.mpr hsent, fun hqueued => absurd hqueued a.retire_status⟩

theorem step_sent (hsound : AttemptsSound identity (cancelAttempts identity s.outbox)) (hlegal : CancelLegal sha256 identity log s op) :
    KeepsSent identity s (s.step sha256 op) := by
  intro a ha hsent
  cases op with
  | enqueue call keeps =>
    obtain ⟨-, hlater, rfl⟩ := hlegal
    show ∃ b ∈ cancelAttempts _ (call.commit sha256 keeps s.outbox), _
    rcases commit_cases sha256 call keeps s.outbox with hcommit | hcommit
    · rw [hcommit]
      obtain ⟨b, hb, hmessage, hclient, hpayload, hsent', -⟩ := enqueue_sent hsound hlater ha hsent
      exact ⟨b, hb, hmessage, hclient, hpayload, hsent'⟩
    · rw [hcommit]
      exact ⟨a, ha, rfl, rfl, rfl, hsent⟩
  | update messageId update now =>
    show ∃ b ∈ cancelAttempts identity (updateCommand s.outbox messageId update now), _
    rw [updateCommand_attempts]
    refine ⟨_, List.mem_map_of_mem ha, ?_⟩
    obtain ⟨hmessage, hclient, -, hpayload, -⟩ := a.update_eq now update
    split
    · exact ⟨hmessage, hclient, hpayload, TradeCommandOutbox.update_sent hlegal.2 hsent⟩
    · exact ⟨rfl, rfl, rfl, hsent⟩
  | others outbox now => exact ⟨a, hlegal.2.mem_iff.mpr ha, rfl, rfl, rfl, hsent⟩

/-- What a call answers: an active attempt, as it is; a reusable one, revived under its identities; or, where no attempt
    was active, a new one with the next number. Another order is refused. -/
structure CancelAnswered (sha256 : String → String) (outbox : List TradeCommandOutbox) (call : CancelCall) : Prop where
  sent : ∀ a ∈ cancelAttempts (call.identity sha256) outbox, a.Sent →
    ∃ b ∈ cancelAttempts (call.identity sha256) (call.enqueueCancel sha256 outbox).1, b.messageId = a.messageId ∧
      b.clientOrderId = a.clientOrderId ∧ b.payload = a.payload ∧ b.Sent ∧ (b.deliveryStatus = .queued → a.deliveryStatus = .queued)
  active : ∀ a ∈ cancelAttempts (call.identity sha256) outbox, a.active call.now = true → (call.enqueueCancel sha256 outbox).1 = outbox
  answers : ∀ q, (call.enqueueCancel sha256 outbox).2 = .ok q →
    (∃ a ∈ cancelAttempts (call.identity sha256) outbox, a.active call.now = true ∧ q = a.answer) ∨
    (∃ a ∈ cancelAttempts (call.identity sha256) outbox, a.safelyReusable call.now = true ∧ q = ⟨a.clientOrderId, a.messageId, .queued⟩ ∧
      ∃ payload, (call.enqueueCancel sha256 outbox).1 = CancelCall.revivedOutbox outbox a payload) ∨
    ∃ new, q = new.answer ∧ cancelAttempts (call.identity sha256) (call.enqueueCancel sha256 outbox).1 =
        (cancelAttempts (call.identity sha256) outbox).map (·.retire) ++ [new] ∧
      ∀ a ∈ cancelAttempts (call.identity sha256) outbox, ¬ a.active call.now = true ∧ ¬ a.safelyReusable call.now = true ∧
        a.attemptNumber (call.identity sha256) < new.attemptNumber (call.identity sha256)
  other : ∀ a ∈ cancelAttempts (call.identity sha256) outbox, a.payload.brokerOrderId ≠ call.target →
    ∃ message, call.enqueueCancel sha256 outbox = (outbox, .error message)

theorem cancel_answered (hsound : AttemptsSound (call.identity sha256) (cancelAttempts (call.identity sha256) outbox))
    (hlater : call.now ≤ call.later) : CancelAnswered sha256 outbox call := by
  have heffect := @CancelCall.enqueueCancel_effect sha256 call outbox hlater
  refine ⟨fun a ha hsent => enqueue_sent hsound hlater ha hsent, fun a ha hactive => ?_, fun q hq => ?_, fun a ha hother => ?_⟩
  · generalize (call.enqueueCancel sha256 outbox).1 = outbox' at heffect ⊢
    generalize (call.enqueueCancel sha256 outbox).2 = answer at heffect
    cases heffect with
    | refused => rfl
    | active => rfl
    | revived _ _ idle => exact absurd hactive (idle a ha)
    | retired _ idle => exact absurd hactive (idle a ha)
    | created idle => exact absurd hactive (idle a ha)
  · generalize (call.enqueueCancel sha256 outbox).1 = outbox' at heffect ⊢
    rw [hq] at heffect
    cases heffect with
    | active ha hactive => exact .inl ⟨_, ha, hactive, rfl⟩
    | revived ha hreusable => exact .inr (.inl ⟨_, ha, hreusable, rfl, _, rfl⟩)
    | @created mode deviceId payload idle spent written fresh =>
      refine .inr (.inr ⟨_, rfl, created_attempts, fun a ha => ⟨idle a ha, spent a ha, ?_⟩⟩)
      have hnumber : (call.newCommand sha256 deviceId (call.nextNumber sha256 outbox) payload).attemptNumber (call.identity sha256) =
          call.nextNumber sha256 outbox := attemptNumber_key (nextNumber_pos sha256 call outbox) rfl
      rw [hnumber]
      exact nextNumber_gt a ha
  · exact CancelCall.enqueueCancel_other ha (by rw [hsound.stripped a ha]; exact hother)

/-- In every run of cancel requests of one identity, numbers, message ids and client order ids of the attempts are
    distinct and their target is one; what may have left keeps identities and payload; a call answers an active attempt,
    revives one that never left, or adds one with a higher number; and if only delivered commands in time are put back,
    at most one is queued. -/
theorem cancel_attempts_kept (sha256 : String → String) (identity : String) (log : List (Moment CancelState CancelOp)) (s : CancelState)
    (h : CancelRun sha256 identity log s) :
    (((cancelAttempts identity s.outbox).map (·.attemptNumber identity)).Nodup ∧ ((cancelAttempts identity s.outbox).map (·.messageId)).Nodup ∧
      ((cancelAttempts identity s.outbox).map (·.clientOrderId)).Nodup ∧
      ∀ a ∈ cancelAttempts identity s.outbox, ∀ b ∈ cancelAttempts identity s.outbox, a.payload.brokerOrderId = b.payload.brokerOrderId) ∧
    (∀ m ∈ log, KeepsSent identity m.after s) ∧
    (∀ call keeps, CancelLegal sha256 identity log s (.enqueue call keeps) → CancelAnswered sha256 s.outbox call) ∧
    ((∀ m ∈ log, TimelyRequeue m.before m.op) → ((cancelAttempts identity s.outbox).filter (·.deliveryStatus = .queued)).length ≤ 1) := by
  have hsound := h.sound
  refine ⟨⟨hsound.numbers, hsound.messages, hsound.clients, hsound.target⟩, ?_, ?_, fun htimely => ?_⟩
  · refine Run.since h (fun _ a ha hsent => ⟨a, ha, rfl, rfl, rfl, hsent⟩) ?_ fun log s op hrun hlegal => step_sent (CancelRun.sound hrun) hlegal
    intro s s' s'' hfirst hnext a ha hsent
    obtain ⟨b, hb, hmessage, hclient, hpayload, hsent'⟩ := hfirst a ha hsent
    obtain ⟨c, hc, hmessage', hclient', hpayload', hsent''⟩ := hnext b hb hsent'
    exact ⟨c, hc, hmessage'.trans hmessage, hclient'.trans hclient, hpayload'.trans hpayload, hsent''⟩
  · rintro call keeps ⟨-, hlater, rfl⟩
    exact cancel_answered hsound hlater
  · have horderly : ∀ (log : List (Moment CancelState CancelOp)) (s : CancelState), CancelRun sha256 identity log s →
        (∀ m ∈ log, TimelyRequeue m.before m.op) → AttemptsOrderly identity s.clock (cancelAttempts identity s.outbox) := by
      intro log s h htimely
      induction h with
      | start hs =>
        rw [hs]
        exact .nil
      | step hrun op hlegal ih =>
        have hbefore := ih (fun m hm => htimely m (List.mem_cons_of_mem _ hm))
        exact hbefore.step (CancelRun.sound hrun) hlegal (htimely _ (List.mem_cons_self ..))
    exact (horderly log s h htimely).one_queued hsound

end Step

/-! ### A command that is put back late -/

namespace CancelRetry

def identityText : String := "cancel:user-1:account-1:PAPER:MANUAL_COMMAND:manual-cancel-retry:cancel-business-1"

def digest (text : String) : String :=
  if text = identityText then "435296d9c80b010b0281ba153081f93a7b0f8dc26e366871785b9a795b4dec31" else ""

/-- The request for order `broker-order-1`, with the identities that a new attempt would get. -/
def request (clientUuid messageUuid : String) (now : Int) : CancelCall where
  userId := "user-1"
  accountId := "account-1"
  brokerOrderId := "broker-order-1"
  executionRef := ⟨"MANUAL_COMMAND", "manual-cancel-retry"⟩
  environment := .paper
  idempotencyKey := "cancel-business-1"
  pendings := [⟨"place-1", "user-1", "account-1", "MANUAL_COMMAND", "manual-cancel-retry", "PAPER", "", "broker-order-1"⟩]
  correlations := [⟨"place-1", "broker-order-1", "account-1", "MANUAL_COMMAND", "manual-cancel-retry", "PAPER"⟩]
  device := .ok "device-1"
  clientUuid := clientUuid
  messageUuid := messageUuid
  now := now
  later := now

def first : CancelCall := request "c-1" "m-1" 1000000

def second : CancelCall := request "c-2" "m-2" 200000000

theorem first_identity : first.identity digest = digest identityText := by decide +kernel

theorem second_identity : second.identity digest = digest identityText := by decide +kernel

def empty : CancelState := ⟨[], 0⟩

def queued : CancelState := empty.step digest (.enqueue first false)

def delivered : CancelState := queued.step digest (.update "m-1" .deliver 2000000)

def retried : CancelState := delivered.step digest (.enqueue second false)

def putBack : CancelState := retried.step digest (.update "m-1" (.requeue (some 2000000) 1) 200000000)

def retriedLog : List (Moment CancelState CancelOp) :=
  [⟨delivered, .enqueue second false, retried⟩, ⟨queued, .update "m-1" .deliver 2000000, delivered⟩, ⟨empty, .enqueue first false, queued⟩]

theorem retried_run : CancelRun digest (digest identityText) retriedLog retried := by
  have hstart : CancelRun digest (digest identityText) [] empty := .start rfl
  have hqueued : CancelRun digest (digest identityText) [⟨empty, .enqueue first false, queued⟩] queued :=
    .step hstart (.enqueue first false) ⟨by decide +kernel, by decide +kernel, first_identity⟩
  have hdelivered : CancelRun digest (digest identityText)
      [⟨queued, .update "m-1" .deliver 2000000, delivered⟩, ⟨empty, .enqueue first false, queued⟩] delivered :=
    .step hqueued (.update "m-1" .deliver 2000000) ⟨by decide +kernel, trivial⟩
  have hlegal : CancelLegal digest (digest identityText)
      [⟨queued, .update "m-1" .deliver 2000000, delivered⟩, ⟨empty, .enqueue first false, queued⟩] delivered (.enqueue second false) :=
    ⟨by decide +kernel, by decide +kernel, second_identity⟩
  exact .step hdelivered (.enqueue second false) hlegal

/-- The second request adds an attempt, and only that is queued. -/
theorem cancel_attempts_retried : (cancelAttempts (digest identityText) retried.outbox).length = 2 ∧
    ((cancelAttempts (digest identityText) retried.outbox).filter (·.deliveryStatus = .queued)).length ≤ 1 := by
  have htwo : (cancelAttempts (digest identityText) retried.outbox).length = 2 := by decide +kernel
  obtain ⟨-, -, -, hone⟩ := cancel_attempts_kept digest (digest identityText) retriedLog retried retried_run
  refine ⟨htwo, hone fun m hm => ?_⟩
  simp only [retriedLog, List.mem_cons, List.not_mem_nil, or_false] at hm
  rcases hm with rfl | rfl | rfl
  · trivial
  · trivial
  · trivial

/-- The first attempt was delivered and its time is over. If it is put back now, two attempts are queued. -/
theorem late_requeue : CancelRun digest (digest identityText)
      (⟨retried, .update "m-1" (.requeue (some 2000000) 1) 200000000, putBack⟩ :: retriedLog) putBack ∧
    ((cancelAttempts (digest identityText) putBack.outbox).filter (·.deliveryStatus = .queued)).length = 2 :=
  ⟨.step retried_run (.update "m-1" (.requeue (some 2000000) 1) 200000000) ⟨by decide +kernel, .inl (by decide)⟩, by decide +kernel⟩

end CancelRetry
end QuantX
