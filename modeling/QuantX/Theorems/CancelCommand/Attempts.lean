import QuantX.Services.CancelCommand
import QuantX.Lib.Run
import Mathlib.Data.List.DropRight

namespace QuantX
variable {number : Int}
open Lib

theorem stripText_stripText (s : String) : stripText (stripText s) = stripText s := by
  have hstrip : ∀ t : String, (stripText t).toList = (t.toList.dropWhile isSpace).rdropWhile isSpace := by
    intro t
    rw [stripText, String.toList_ofList]
    rfl
  have hkept : ∀ {l l' : List Char}, l.dropWhile isSpace = l → l' <+: l → l'.dropWhile isSpace = l' := by
    rintro (_ | ⟨c, l⟩) l' hl hprefix
    · rw [List.prefix_nil.mp hprefix]
      rfl
    · cases l' with
      | nil => rfl
      | cons c' l' =>
        obtain ⟨rfl, -⟩ := List.cons_prefix_cons.mp hprefix
        rw [List.dropWhile_cons] at hl ⊢
        split at hl
        · have hlength := congrArg List.length hl
          have hle := (List.dropWhile_sublist (l := l) isSpace).length_le
          rw [List.length_cons] at hlength
          omega
        · rename_i hfirst
          rw [if_neg hfirst]
  refine String.toList_inj.mp ?_
  rw [hstrip, hstrip, hkept (List.dropWhile_idempotent isSpace _) (List.rdropWhile_prefix _ _), List.rdropWhile_idempotent]

theorem attemptKey_first (identity : String) : attemptKey identity 1 = identity := if_pos rfl

theorem attemptKey_later (identity : String) (h : number ≠ 1) :
    (attemptKey identity number).toList = (identity ++ ":attempt:").toList ++ (toString number).toList := by
  rw [attemptKey, if_neg h, String.toList_append]

theorem attemptKey_ne (identity : String) (h : number ≠ 1) : attemptKey identity number ≠ identity := by
  intro heq
  have hlength := congrArg (·.toList.length) heq
  simp only [attemptKey_later identity h, String.toList_append, List.length_append] at hlength
  have hmark : ":attempt:".toList.length = 9 := by decide
  omega

theorem isCancelAttempt_key {identity : String} {row : TradeCommandOutbox}
    (h : row.idempotencyKey = attemptKey identity number) : isCancelAttempt identity row = true := by
  rw [isCancelAttempt, h, decide_eq_true_eq]
  by_cases hone : number = 1
  · exact .inl (hone ▸ attemptKey_first identity)
  · rw [attemptKey_later identity hone, List.isPrefixOf_iff_prefix]
    exact .inr (List.prefix_append _ _)

theorem attemptNumber_key {identity : String} (hpos : 1 ≤ number) {row : TradeCommandOutbox}
    (h : row.idempotencyKey = attemptKey identity number) : row.attemptNumber identity = number := by
  rw [TradeCommandOutbox.attemptNumber, h]
  by_cases hone : number = 1
  · rw [hone, attemptKey_first, if_pos rfl]
  · have hprefix : (identity ++ ":attempt:").toList.isPrefixOf (attemptKey identity number).toList = true := by
      rw [attemptKey_later identity hone, List.isPrefixOf_iff_prefix]
      exact List.prefix_append _ _
    rw [if_neg (attemptKey_ne identity hone), if_pos hprefix, attemptKey_later identity hone, List.drop_left, decimal?_toString (by omega)]
    exact max_eq_right hpos

/-! ### The state of the attempts -/

namespace TradeCommandOutbox

def Sent (attempt : TradeCommandOutbox) : Prop := attempt.deliveredAt ≠ none ∨ attempt.acknowledgedAt ≠ none ∨ 0 < attempt.attempts

/-- The attempt is not queued, and neither a delivery nor a request can queue it again. -/
def Settled (clock : Int) (attempt : TradeCommandOutbox) : Prop :=
  attempt.deliveryStatus ≠ .queued ∧ (attempt.deliveryStatus = .delivered → attempt.expiresAt ≤ clock) ∧
    (attempt.deliveryStatus = .expired → attempt.Sent)

variable {now : Int} {attempt : TradeCommandOutbox}

theorem active_iff : attempt.active now = true ↔
    (attempt.deliveryStatus = .queued ∨ attempt.deliveryStatus = .delivered ∨ attempt.deliveryStatus = .acknowledged) ∧
      now < attempt.expiresAt := by
  rw [active, decide_eq_true_eq]

theorem safelyReusable_iff : attempt.safelyReusable now = true ↔
    (attempt.deliveryStatus = .queued ∨ attempt.deliveryStatus = .expired) ∧ attempt.expiresAt ≤ now ∧ ¬ attempt.Sent := by
  rw [safelyReusable, decide_eq_true_eq, Sent]
  simp [not_not, Nat.pos_iff_ne_zero]

theorem retire_status (attempt : TradeCommandOutbox) : attempt.retire.deliveryStatus ≠ .queued := by
  unfold retire
  split
  · simp
  · assumption

theorem retire_eq (attempt : TradeCommandOutbox) :
    attempt.retire.messageId = attempt.messageId ∧ attempt.retire.clientOrderId = attempt.clientOrderId ∧
      attempt.retire.idempotencyKey = attempt.idempotencyKey ∧ attempt.retire.payload = attempt.payload ∧
      attempt.retire.expiresAt = attempt.expiresAt ∧ (attempt.retire.Sent ↔ attempt.Sent) ∧
      (attempt.retire = attempt ∨ attempt.deliveryStatus = .queued ∧ attempt.retire.deliveryStatus = .reconcileRequired) := by
  unfold retire
  split
  · rename_i hqueued
    exact ⟨rfl, rfl, rfl, rfl, rfl, .rfl, .inr ⟨hqueued, rfl⟩⟩
  · exact ⟨rfl, rfl, rfl, rfl, rfl, .rfl, .inl rfl⟩

end TradeCommandOutbox

/-- The attempts of an identity: their keys are numbered, nothing of their identities repeats, and they have one target. -/
structure AttemptsSound (identity : String) (attempts : List TradeCommandOutbox) : Prop where
  keyed : ∀ a ∈ attempts, ∃ number, 1 ≤ number ∧ a.idempotencyKey = attemptKey identity number
  keys : (attempts.map (·.idempotencyKey)).Nodup
  messages : (attempts.map (·.messageId)).Nodup
  clients : (attempts.map (·.clientOrderId)).Nodup
  stripped : ∀ a ∈ attempts, stripText a.payload.brokerOrderId = a.payload.brokerOrderId
  target : ∀ a ∈ attempts, ∀ b ∈ attempts, a.payload.brokerOrderId = b.payload.brokerOrderId

/-- An expired attempt has lived out its time or left, and all attempts but the newest are settled. -/
structure AttemptsOrderly (identity : String) (clock : Int) (attempts : List TradeCommandOutbox) : Prop where
  lapsed : ∀ a ∈ attempts, a.deliveryStatus = .expired → a.Sent ∨ a.expiresAt ≤ clock
  settled : ∀ a ∈ attempts, ∀ b ∈ attempts, a.attemptNumber identity < b.attemptNumber identity → a.Settled clock

section Attempts
variable {identity : String} {outbox : List TradeCommandOutbox} {attempts attempts' : List TradeCommandOutbox}

theorem mem_cancelAttempts {a : TradeCommandOutbox} : a ∈ cancelAttempts identity outbox ↔ a ∈ outbox ∧ isCancelAttempt identity a = true :=
  List.mem_filter

theorem cancelAttempts_map (f : TradeCommandOutbox → TradeCommandOutbox) (h : ∀ row, (f row).idempotencyKey = row.idempotencyKey) :
    cancelAttempts identity (outbox.map f) = (cancelAttempts identity outbox).map f := by
  rw [cancelAttempts, cancelAttempts, List.filter_map]
  congr 1
  refine List.filter_congr fun row _ => ?_
  rw [Function.comp_apply, isCancelAttempt, isCancelAttempt, h]

theorem attemptNumber_congr {a b : TradeCommandOutbox} (h : a.idempotencyKey = b.idempotencyKey) :
    a.attemptNumber identity = b.attemptNumber identity := by
  rw [TradeCommandOutbox.attemptNumber, TradeCommandOutbox.attemptNumber, h]

namespace AttemptsSound

theorem nil : AttemptsSound identity [] :=
  ⟨by simp, .nil, .nil, .nil, by simp, by simp⟩

theorem perm (h : AttemptsSound identity attempts) (hperm : attempts'.Perm attempts) : AttemptsSound identity attempts' where
  keyed := fun a ha => h.keyed a (hperm.mem_iff.mp ha)
  keys := (hperm.map _).nodup_iff.mpr h.keys
  messages := (hperm.map _).nodup_iff.mpr h.messages
  clients := (hperm.map _).nodup_iff.mpr h.clients
  stripped := fun a ha => h.stripped a (hperm.mem_iff.mp ha)
  target := fun a ha b hb => h.target a (hperm.mem_iff.mp ha) b (hperm.mem_iff.mp hb)

theorem eq_of_number (h : AttemptsSound identity attempts) {a b : TradeCommandOutbox} (ha : a ∈ attempts) (hb : b ∈ attempts)
    (hnumber : a.attemptNumber identity = b.attemptNumber identity) : a = b := by
  obtain ⟨number, hpos, hkey⟩ := h.keyed a ha
  obtain ⟨number', hpos', hkey'⟩ := h.keyed b hb
  rw [attemptNumber_key hpos hkey, attemptNumber_key hpos' hkey'] at hnumber
  subst hnumber
  exact List.inj_on_of_nodup_map h.keys ha hb (hkey.trans hkey'.symm)

theorem numbers (h : AttemptsSound identity attempts) : (attempts.map (·.attemptNumber identity)).Nodup :=
  List.Nodup.map_on (fun _ ha _ hb hnumber => h.eq_of_number ha hb hnumber) (List.Nodup.of_map _ h.keys)

theorem map (h : AttemptsSound identity attempts) (f : TradeCommandOutbox → TradeCommandOutbox)
    (hf : ∀ a ∈ attempts, (f a).idempotencyKey = a.idempotencyKey ∧ (f a).messageId = a.messageId ∧ (f a).clientOrderId = a.clientOrderId ∧
      (f a).payload.brokerOrderId = a.payload.brokerOrderId) : AttemptsSound identity (attempts.map f) := by
  have hmap : ∀ {α : Type} (g : TradeCommandOutbox → α), (∀ a ∈ attempts, g (f a) = g a) → (attempts.map f).map g = attempts.map g := by
    intro α g hg
    rw [List.map_map]
    exact List.map_congr_left hg
  refine ⟨?_, ?_, ?_, ?_, ?_, ?_⟩
  · intro a' ha'
    obtain ⟨a, ha, rfl⟩ := List.mem_map.mp ha'
    rw [(hf a ha).1]
    exact h.keyed a ha
  · rw [hmap _ fun a ha => (hf a ha).1]
    exact h.keys
  · rw [hmap _ fun a ha => (hf a ha).2.1]
    exact h.messages
  · rw [hmap _ fun a ha => (hf a ha).2.2.1]
    exact h.clients
  · intro a' ha'
    obtain ⟨a, ha, rfl⟩ := List.mem_map.mp ha'
    rw [(hf a ha).2.2.2]
    exact h.stripped a ha
  · intro a' ha' b' hb'
    obtain ⟨a, ha, rfl⟩ := List.mem_map.mp ha'
    obtain ⟨b, hb, rfl⟩ := List.mem_map.mp hb'
    rw [(hf a ha).2.2.2, (hf b hb).2.2.2]
    exact h.target a ha b hb

theorem concat (h : AttemptsSound identity attempts) {a : TradeCommandOutbox} {number : Int} (hpos : 1 ≤ number)
    (hkey : a.idempotencyKey = attemptKey identity number)
    (hfresh : ∀ b ∈ attempts, b.idempotencyKey ≠ a.idempotencyKey ∧ b.messageId ≠ a.messageId ∧ b.clientOrderId ≠ a.clientOrderId)
    (hstripped : stripText a.payload.brokerOrderId = a.payload.brokerOrderId)
    (htarget : ∀ b ∈ attempts, b.payload.brokerOrderId = a.payload.brokerOrderId) : AttemptsSound identity (attempts ++ [a]) := by
  have hnodup : ∀ {α : Type} (g : TradeCommandOutbox → α), (attempts.map g).Nodup → (∀ b ∈ attempts, g b ≠ g a) →
      ((attempts ++ [a]).map g).Nodup := by
    intro α g hg hne
    rw [List.map_append, List.map_singleton, List.nodup_append]
    refine ⟨hg, List.nodup_singleton _, ?_⟩
    rintro x hx y hy rfl
    obtain ⟨b, hb, rfl⟩ := List.mem_map.mp hx
    exact hne b hb (List.mem_singleton.mp hy)
  refine ⟨?_, hnodup _ h.keys fun b hb => (hfresh b hb).1, hnodup _ h.messages fun b hb => (hfresh b hb).2.1,
    hnodup _ h.clients fun b hb => (hfresh b hb).2.2, ?_, ?_⟩
  · intro b hb
    rcases List.mem_append.mp hb with hb | hb
    · exact h.keyed b hb
    · rw [List.mem_singleton.mp hb]
      exact ⟨number, hpos, hkey⟩
  · intro b hb
    rcases List.mem_append.mp hb with hb | hb
    · exact h.stripped b hb
    · rw [List.mem_singleton.mp hb]
      exact hstripped
  · intro b hb c hc
    rcases List.mem_append.mp hb with hb | hb
    · rcases List.mem_append.mp hc with hc | hc
      · exact h.target b hb c hc
      · rw [List.mem_singleton.mp hc]
        exact htarget b hb
    · rw [List.mem_singleton.mp hb]
      rcases List.mem_append.mp hc with hc | hc
      · exact (htarget c hc).symm
      · rw [List.mem_singleton.mp hc]

end AttemptsSound
end Attempts

end QuantX
