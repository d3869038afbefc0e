import QuantX.Theorems.EntryPlan.Stopped

namespace QuantX
open Lib

namespace ManagedEntryPlanState
variable {config : ManagedEntryPlanConfig} {s next : ManagedEntryPlanState} {trade : EntryTradeEvent}
  {trades : List EntryTradeEvent} {announced : Option Nat}
variable {pre post : List EntryTradeEvent}

def boughtVolume (trades : List EntryTradeEvent) : Int := (trades.map (·.volume)).sum

def boughtAmountCny (trades : List EntryTradeEvent) : Rat := (trades.map fun trade => (trade.volume : Rat) * trade.price).sum

def ruleOf (s : ManagedEntryPlanState) (trade : EntryTradeEvent) : String :=
  PyVal.orText ((trade.metadata.getD "entry_rule_id" .none).or (.str s.pendingRuleId)).pyStr s.pendingRuleId

def ruleVolumes (s : ManagedEntryPlanState) (trades : List EntryTradeEvent) : List (String × Int) :=
  (trades.filter fun trade => s.ruleOf trade ≠ "").map fun trade => (s.ruleOf trade, trade.volume)

def ruleAmountsCny (s : ManagedEntryPlanState) (trades : List EntryTradeEvent) : List (String × Rat) :=
  (trades.filter fun trade => s.ruleOf trade ≠ "").map fun trade => (s.ruleOf trade, (trade.volume : Rat) * trade.price)

def activationsAfter (s : ManagedEntryPlanState) (trades : List EntryTradeEvent) : Finset String :=
  if trades ≠ [] ∧ s.pendingActivationId ≠ "" then insert s.pendingActivationId s.completedActivationIds
  else s.completedActivationIds

/-- A rule that is activated once is completed with its activation. -/
def rulesAfter (s : ManagedEntryPlanState) (trades : List EntryTradeEvent) : Finset String :=
  if trades ≠ [] ∧ s.pendingActivationId ≠ "" ∧ s.pendingActivationId = s.pendingRuleId then
    insert s.pendingRuleId s.completedRuleIds
  else s.completedRuleIds

@[simp] theorem boughtVolume_concat : boughtVolume (trades ++ [trade]) = boughtVolume trades + trade.volume := by
  simp [boughtVolume]

@[simp] theorem boughtAmountCny_concat :
    boughtAmountCny (trades ++ [trade]) = boughtAmountCny trades + trade.volume * trade.price := by
  simp [boughtAmountCny]

/-- `next` is `s` with the trades of the pending slice in its totals. -/
structure Booked (s : ManagedEntryPlanState) (trades : List EntryTradeEvent) (next : ManagedEntryPlanState) : Prop where
  volume : next.filledVolume = s.filledVolume + boughtVolume trades
  amountCny : next.filledAmountCny = s.filledAmountCny + boughtAmountCny trades
  ruleVolumes : next.ruleFilledVolumes = s.ruleFilledVolumes.tally (s.ruleVolumes trades)
  ruleAmountsCny : next.ruleFilledAmountsCny = s.ruleFilledAmountsCny.tally (s.ruleAmountsCny trades)
  activations : next.completedActivationIds = s.activationsAfter trades
  rules : next.completedRuleIds = s.rulesAfter trades
  retry : next.retryAfterMs = s.retryAfterMs
  requested : next.terminalRequested = s.terminalRequested

/-- The slice of `s` is still pending in `next`, with the trades booked on it and at most one report heard. -/
structure Waiting (s : ManagedEntryPlanState) (trades : List EntryTradeEvent) (announced : Option Nat)
    (next : ManagedEntryPlanState) : Prop where
  booked : Booked s trades next
  intent : next.pendingIntentId = s.pendingIntentId
  stage : next.pendingStageId = s.pendingStageId
  rule : next.pendingRuleId = s.pendingRuleId
  activation : next.pendingActivationId = s.pendingActivationId
  filled : next.pendingFilledVolume = boughtVolume trades
  seen : next.orderTerminalSeen = announced.isSome
  expected : next.terminalExpectedFilledVolume = announced
  going : next.phase.terminal = false
  keys : ∀ key ∈ next.processedTradeKeys, key ∈ s.processedTradeKeys ∨ key ∈ trades.map (·.tradeKey)
  lastFill : trades ≠ [] → next.lastFillAtMs.isSome = true

structure FreshSlice (s : ManagedEntryPlanState) : Prop where
  intent : s.pendingIntentId ≠ ""
  filled : s.pendingFilledVolume = 0
  unseen : s.orderTerminalSeen = false
  unannounced : s.terminalExpectedFilledVolume = none
  going : s.phase.terminal = false

theorem FreshSlice.requestTerminal (h : s.FreshSlice) (requested : TerminalRequest) (reason : String) (pendingWork : Bool) :
    (s.requestTerminal requested reason pendingWork).FreshSlice := by
  have hpending : s.hasPending = true := by
    simp [hasPending, h.intent]
  unfold ManagedEntryPlanState.requestTerminal
  rw [hpending]
  split
  · exact h
  · split
    · exact ⟨h.intent, h.filled, h.unseen, h.unannounced, rfl⟩
    · split
      · exact h
      · exact ⟨h.intent, h.filled, h.unseen, h.unannounced, rfl⟩

theorem FreshSlice.waiting (h : s.FreshSlice) : Waiting s [] none s where
  booked := ⟨(add_zero _).symm, (add_zero _).symm, rfl, rfl, rfl, rfl, rfl, rfl⟩
  intent := rfl
  stage := rfl
  rule := rfl
  activation := rfl
  filled := h.filled
  seen := h.unseen
  expected := h.unannounced
  going := h.going
  keys _ hkey := .inl hkey
  lastFill hne := absurd rfl hne

structure SliceTrade (s : ManagedEntryPlanState) (trade : EntryTradeEvent) : Prop where
  matched : matchesPendingEntry trade.metadata s = true
  named : trade.tradeKey ≠ ""
  fresh : trade.tradeKey ∉ s.processedTradeKeys
  volume : 0 < trade.volume
  price : 0 < trade.price

/-- Book a trade with the arguments that `on_trade` computes for it. -/
def bookTrade (config : ManagedEntryPlanConfig) (s : ManagedEntryPlanState) (trade : EntryTradeEvent) :
    ManagedEntryPlanState := (s.applyTradeFill (trade.fill config s)).1

/-- Apply a terminal report with the target as `on_order` computes it. -/
def hearReport (config : ManagedEntryPlanConfig) (s : ManagedEntryPlanState) (report : EntryOrderReport) :
    ManagedEntryPlanState :=
  s.applyOrderTerminal { report with targetReached := s.cumulativeTargetReached config }

theorem Waiting.hasPending (h : Waiting s trades announced next) (hfresh : s.FreshSlice) : next.hasPending = true := by
  unfold ManagedEntryPlanState.hasPending
  rw [h.intent]
  simp [hfresh.intent]

theorem Waiting.matches (h : Waiting s trades announced next) (htrade : s.SliceTrade trade) :
    (trade.fill config next).matchesPending = true := by
  have hmatched := htrade.matched
  unfold matchesPendingEntry at hmatched
  show matchesPendingEntry trade.metadata next = true
  unfold matchesPendingEntry
  rw [h.intent, h.stage]
  exact hmatched

theorem Waiting.selectedRule (h : Waiting s trades announced next) (htrade : s.SliceTrade trade) :
    next.selectedRule (trade.fill config next) = s.ruleOf trade := by
  unfold ManagedEntryPlanState.selectedRule
  rw [if_pos (h.matches htrade), h.rule]
  unfold EntryTradeEvent.fill
  rw [h.rule]
  rfl

theorem ruleVolumes_concat : s.ruleVolumes (trades ++ [trade]) =
    if s.ruleOf trade = "" then s.ruleVolumes trades else s.ruleVolumes trades ++ [(s.ruleOf trade, trade.volume)] := by
  by_cases h : s.ruleOf trade = "" <;> simp [ruleVolumes, h]

theorem ruleAmountsCny_concat : s.ruleAmountsCny (trades ++ [trade]) =
    if s.ruleOf trade = "" then s.ruleAmountsCny trades
    else s.ruleAmountsCny trades ++ [(s.ruleOf trade, (trade.volume : Rat) * trade.price)] := by
  by_cases h : s.ruleOf trade = "" <;> simp [ruleAmountsCny, h]

theorem Waiting.count (h : Waiting s trades announced next) (config : ManagedEntryPlanConfig) (htrade : s.SliceTrade trade) :
    Waiting s (trades ++ [trade]) announced
      ((next.recordFill (trade.fill config next)).matchFill (trade.fill config next)) := by
  have hrule : next.selectedRule (trade.fill config next) = s.ruleOf trade := h.selectedRule htrade
  refine ⟨⟨?_, ?_, ?_, ?_, ?_, ?_, h.booked.retry, h.booked.requested⟩, h.intent, h.stage, h.rule, h.activation, ?_, h.seen,
    h.expected, h.going, ?_, fun _ => rfl⟩
  · show next.filledVolume + trade.volume = _
    rw [h.booked.volume, boughtVolume_concat, add_assoc]
  · show next.filledAmountCny + trade.volume * trade.price = _
    rw [h.booked.amountCny, boughtAmountCny_concat, add_assoc]
  · show (if next.selectedRule (trade.fill config next) = "" then next.ruleFilledVolumes else
      next.ruleFilledVolumes.set (next.selectedRule (trade.fill config next)) _) = _
    rw [hrule, ruleVolumes_concat, h.booked.ruleVolumes]
    split
    · rfl
    · rw [Dict.tally_concat]
      rfl
  · show (if next.selectedRule (trade.fill config next) = "" then next.ruleFilledAmountsCny else
      next.ruleFilledAmountsCny.set (next.selectedRule (trade.fill config next)) _) = _
    rw [hrule, ruleAmountsCny_concat, h.booked.ruleAmountsCny]
    split
    · rfl
    · rw [Dict.tally_concat]
      rfl
  · show (if next.pendingActivationId ≠ "" then insert next.pendingActivationId next.completedActivationIds else
      next.completedActivationIds) = _
    rw [h.activation, h.booked.activations]
    unfold activationsAfter
    by_cases hactivation : s.pendingActivationId = "" <;> by_cases hnone : trades = [] <;> simp [hactivation, hnone]
  · show (if next.pendingActivationId ≠ "" ∧ next.pendingActivationId = next.pendingRuleId then
      insert next.pendingRuleId next.completedRuleIds else next.completedRuleIds) = _
    rw [h.activation, h.rule, h.booked.rules]
    by_cases honce : s.pendingActivationId ≠ "" ∧ s.pendingActivationId = s.pendingRuleId
    · have hafter : s.rulesAfter (trades ++ [trade]) = insert s.pendingRuleId s.completedRuleIds :=
        if_pos ⟨by simp, honce⟩
      rw [if_pos honce, hafter]
      unfold rulesAfter
      split
      · exact Finset.insert_idem _ _
      · rfl
    · unfold rulesAfter
      rw [if_neg honce, if_neg fun h => honce h.2, if_neg fun h => honce h.2]
  · show next.pendingFilledVolume + trade.volume = _
    rw [h.filled, boughtVolume_concat]
  · intro key hkey
    rcases List.mem_append.mp hkey with hold | hnew
    · rcases h.keys key ((recent_sublist _ _).subset hold) with hbefore | hbooked
      · exact .inl hbefore
      · exact .inr (by simp [hbooked])
    · obtain rfl := List.mem_singleton.mp hnew
      exact .inr (by simp [EntryTradeEvent.fill])

theorem Waiting.bookTrade_eq (h : Waiting s trades announced next) (htrade : s.SliceTrade trade)
    (hnew : trade.tradeKey ∉ trades.map (·.tradeKey)) :
    bookTrade config next trade = ((next.recordFill (trade.fill config next)).matchFill
      (trade.fill config next)).advanceAfterFill (trade.fill config next).targetReached := by
  have happlies : next.Applies (trade.fill config next) := by
    refine ⟨htrade.named, fun hkey => ?_, htrade.volume, htrade.price⟩
    rcases h.keys _ hkey with hbefore | hbooked
    · exact htrade.fresh hbefore
    · exact hnew hbooked
  have hmatched : (trade.fill config next).matchesPending = true := h.matches htrade
  unfold bookTrade
  rcases next.applyTradeFill_cases (trade.fill config next) with ⟨-, hno⟩ | ⟨-, hother, -⟩ | ⟨-, -, hafter⟩
  · exact absurd happlies hno
  · rw [hmatched] at hother
    cases hother
  · exact hafter

def targetMet (config : ManagedEntryPlanConfig) (volume : Int) (amountCny : Rat) : Bool :=
  ({ filledVolume := volume, filledAmountCny := amountCny } : ManagedEntryPlanState).cumulativeTargetReached config

theorem cumulativeTargetReached_eq (h : s.phase.terminal = false) :
    s.cumulativeTargetReached config = targetMet config s.filledVolume s.filledAmountCny := by
  have hphase : s.phase ≠ .completed := by
    intro hdone
    rw [hdone] at h
    cases h
  unfold targetMet cumulativeTargetReached
  rw [if_neg hphase]
  rfl

def endPhase (s : ManagedEntryPlanState) (config : ManagedEntryPlanConfig) (trades : List EntryTradeEvent) :
    EntryPlanStatus :=
  if targetMet config (s.filledVolume + boughtVolume trades) (s.filledAmountCny + boughtAmountCny trades) then .completed
  else match s.terminalRequested with
    | some requested => requested.status
    | none => .accumulating

/-- The end of a slice: its trades are in the totals, and nothing is pending. -/
structure Settled (s : ManagedEntryPlanState) (config : ManagedEntryPlanConfig) (trades : List EntryTradeEvent)
    (next : ManagedEntryPlanState) : Prop where
  booked : Booked s trades next
  phase : next.phase = s.endPhase config trades
  cleared : next.hasPending = false

theorem Booked.settlePending (h : Booked s trades next) (targetReached : Bool) :
    Booked s trades (next.settlePending targetReached) := by
  obtain ⟨phase, hwritten⟩ := next.settlePending_writes targetReached
  rw [hwritten]
  exact ⟨h.volume, h.amountCny, h.ruleVolumes, h.ruleAmountsCny, h.activations, h.rules, h.retry, h.requested⟩

theorem Waiting.settle (h : Waiting s trades announced next) (config : ManagedEntryPlanConfig) (hbought : trades ≠ []) :
    Settled s config trades
      (next.settlePending (targetMet config (s.filledVolume + boughtVolume trades)
        (s.filledAmountCny + boughtAmountCny trades))) := by
  refine ⟨h.booked.settlePending _, ?_, settlePending_hasPending _⟩
  have herror : next.phase ≠ .error := by
    intro herror
    have hgoing := h.going
    rw [herror] at hgoing
    cases hgoing
  unfold settlePending endPhase
  rw [if_neg herror, h.booked.requested]
  split
  · rfl
  · cases s.terminalRequested with
    | some requested => rfl
    | none =>
      rw [h.going, h.lastFill hbought]
      rfl

theorem Waiting.barrier (h : Waiting s trades announced next) :
    next.barrierSatisfied = true ↔ ∃ total : Nat, announced = some total ∧ (total : Int) ≤ boughtVolume trades := by
  unfold barrierSatisfied
  rw [h.seen, h.expected, h.filled]
  cases announced <;> simp

theorem Waiting.more (hfresh : s.FreshSlice) (h : Waiting s trades announced next) (htrade : s.SliceTrade trade)
    (hnew : trade.tradeKey ∉ trades.map (·.tradeKey))
    (hshort : ∀ total : Nat, announced = some total → boughtVolume (trades ++ [trade]) < total) :
    Waiting s (trades ++ [trade]) announced (bookTrade config next trade) := by
  have hcount := h.count config htrade
  rw [h.bookTrade_eq htrade hnew]
  generalize (next.recordFill (trade.fill config next)).matchFill (trade.fill config next) = counted at hcount ⊢
  rcases advanceAfterFill_cases (trade.fill config next).targetReached (hcount.hasPending hfresh) with
    ⟨hbarrier, -⟩ | ⟨-, phase, hgoing, hafter⟩
  · obtain ⟨total, htotal, hreached⟩ := hcount.barrier.mp hbarrier
    exact absurd (hshort total htotal) (not_lt.mpr hreached)
  · rw [hafter]
    exact ⟨⟨hcount.booked.volume, hcount.booked.amountCny, hcount.booked.ruleVolumes, hcount.booked.ruleAmountsCny,
      hcount.booked.activations, hcount.booked.rules, hcount.booked.retry, hcount.booked.requested⟩, hcount.intent,
      hcount.stage, hcount.rule, hcount.activation, hcount.filled, hcount.seen, hcount.expected, hgoing hcount.going,
      hcount.keys, hcount.lastFill⟩

theorem Waiting.last (h : Waiting s trades announced next) (htrade : s.SliceTrade trade)
    (hnew : trade.tradeKey ∉ trades.map (·.tradeKey)) {total : Nat} (htotal : announced = some total)
    (hreached : (total : Int) ≤ boughtVolume (trades ++ [trade])) :
    Settled s config (trades ++ [trade]) (bookTrade config next trade) := by
  have hcount := h.count config htrade
  have htarget : (trade.fill config next).targetReached = targetMet config (s.filledVolume + boughtVolume (trades ++ [trade]))
      (s.filledAmountCny + boughtAmountCny (trades ++ [trade])) := by
    have hmet : (trade.fill config next).targetReached = targetMet config (next.filledVolume + max 0 trade.volume)
        (next.filledAmountCny + (max 0 trade.volume : Int) * max 0 trade.price) :=
      cumulativeTargetReached_eq (s := { next with
        filledVolume := next.filledVolume + max 0 trade.volume
        filledAmountCny := next.filledAmountCny + (max 0 trade.volume : Int) * max 0 trade.price }) h.going
    rw [hmet, max_eq_right (Int.le_of_lt htrade.volume), max_eq_right (le_of_lt htrade.price), h.booked.volume,
      h.booked.amountCny, boughtVolume_concat, boughtAmountCny_concat, add_assoc, add_assoc]
  rw [h.bookTrade_eq htrade hnew, htarget]
  have hsettle := hcount.settle config (by simp)
  unfold advanceAfterFill
  rw [if_pos (.inl (hcount.barrier.mpr ⟨total, htotal, hreached⟩))]
  exact hsettle

theorem Waiting.report {report : EntryOrderReport} {total : Int} (h : Waiting s trades none next)
    (config : ManagedEntryPlanConfig)
    (hterminal : report.terminal ≠ none) (hzero : report.terminal ≠ some .reconciledZeroFill)
    (htotal : report.expectedFilledVolume = some total) (hpos : 0 < total) :
    (boughtVolume trades < total → Waiting s trades (some total.toNat) (hearReport config next report)) ∧
      (boughtVolume trades = total → Settled s config trades (hearReport config next report)) := by
  have hheard : ∀ terminal, Waiting s trades (some total.toNat)
      ({ next with orderTerminalSeen := true }.announceExpected terminal report.expectedFilledVolume) := by
    intro terminal
    unfold announceExpected
    rw [htotal, Option.getD_some, if_pos hpos, h.expected, Option.getD_none, Nat.zero_max]
    exact ⟨⟨h.booked.volume, h.booked.amountCny, h.booked.ruleVolumes, h.booked.ruleAmountsCny, h.booked.activations,
      h.booked.rules, h.booked.retry, h.booked.requested⟩, h.intent, h.stage, h.rule, h.activation, h.filled, rfl, rfl,
      h.going, h.keys, h.lastFill⟩
  unfold hearReport
  rcases next.applyOrderTerminal_cases { report with targetReached := next.cumulativeTargetReached config } with
    ⟨hnone, -⟩ | ⟨hreconciled, -⟩ | ⟨terminal, -, -, hafter⟩
  · exact absurd hnone hterminal
  · exact absurd hreconciled hzero
  rw [hafter, endOrder]
  have hwait := hheard terminal
  generalize announceExpected { next with orderTerminalSeen := true } terminal report.expectedFilledVolume = heard at hwait ⊢
  refine ⟨fun hshort => ?_, fun hall => ?_⟩
  · rw [if_pos]
    · exact hwait
    · rw [Bool.not_eq_true', Bool.eq_false_iff]
      intro hbarrier
      obtain ⟨total', htotal', hreached⟩ := hwait.barrier.mp hbarrier
      cases htotal'
      omega
  · have hbarrier : heard.barrierSatisfied = true := hwait.barrier.mpr ⟨_, rfl, by omega⟩
    have hbought : trades ≠ [] := by
      rintro rfl
      exact absurd hall (ne_of_lt hpos)
    have hfilled : ¬(heard.pendingFilledVolume ≤ 0 ∧ terminal ≠ .filled) := by
      rw [hwait.filled]
      omega
    rw [hbarrier, if_neg (by decide), if_neg hfilled, cumulativeTargetReached_eq h.going, h.booked.volume, h.booked.amountCny]
    exact hwait.settle config hbought

/-! ## All reports of a slice -/

theorem boughtVolume_append (pre post : List EntryTradeEvent) :
    boughtVolume (pre ++ post) = boughtVolume pre + boughtVolume post := by
  simp [boughtVolume]

theorem boughtVolume_pos (h : ∀ trade ∈ trades, s.SliceTrade trade) (hne : trades ≠ []) : 0 < boughtVolume trades :=
  List.sum_pos _ (by
    intro volume hmem
    obtain ⟨trade, htrade, rfl⟩ := List.mem_map.mp hmem
    exact (h trade htrade).volume) (by simpa using hne)

theorem Waiting.bookAll {done more : List EntryTradeEvent} (h : Waiting s done announced next)
    (config : ManagedEntryPlanConfig) (hfresh : s.FreshSlice)
    (hmore : ∀ trade ∈ more, s.SliceTrade trade) (hkeys : ((done ++ more).map (·.tradeKey)).Nodup)
    (hshort : ∀ total : Nat, announced = some total → boughtVolume (done ++ more) < total) :
    Waiting s (done ++ more) announced (more.foldl (bookTrade config) next) := by
  induction more using List.reverseRecOn with
  | nil => simpa using h
  | append_singleton more trade ih =>
    have htrade := hmore trade (by simp)
    rw [← List.append_assoc] at hkeys hshort ⊢
    have hnew : trade.tradeKey ∉ (done ++ more).map (·.tradeKey) := by
      rw [List.map_append, List.nodup_append] at hkeys
      intro hmem
      exact hkeys.2.2 _ hmem _ (by simp) rfl
    have hbefore := ih (fun trade' hmem => hmore trade' (by simp [hmem]))
      (hkeys.sublist (by simp)) fun total htotal => by
        have hless := hshort total htotal
        rw [boughtVolume_concat] at hless
        have hpos := htrade.volume
        omega
    rw [List.foldl_append]
    exact hbefore.more hfresh htrade hnew hshort

def applyReports (config : ManagedEntryPlanConfig) (s : ManagedEntryPlanState) (pre : List EntryTradeEvent)
    (report : EntryOrderReport) (post : List EntryTradeEvent) : ManagedEntryPlanState :=
  post.foldl (bookTrade config) (hearReport config (pre.foldl (bookTrade config) s) report)

theorem Settled.of_reports (hfresh : s.FreshSlice) {report : EntryOrderReport}
    (htrades : ∀ trade ∈ pre ++ post, s.SliceTrade trade) (hkeys : ((pre ++ post).map (·.tradeKey)).Nodup)
    (hterminal : report.terminal ≠ none) (hzero : report.terminal ≠ some .reconciledZeroFill)
    (htotal : report.expectedFilledVolume = some (boughtVolume (pre ++ post))) (hpos : 0 < boughtVolume (pre ++ post)) :
    Settled s config (pre ++ post) (applyReports config s pre report post) := by
  have hpre : Waiting s pre none (pre.foldl (bookTrade config) s) :=
    hfresh.waiting.bookAll config hfresh (fun trade hmem => htrades trade (List.mem_append_left _ hmem))
      (hkeys.sublist (by simp)) fun _ hnone => by cases hnone
  obtain ⟨hshort, hall⟩ := hpre.report config hterminal hzero htotal hpos
  unfold applyReports
  cases post using List.reverseRecOn with
  | nil =>
    rw [List.append_nil] at hall ⊢
    exact hall rfl
  | append_singleton post trade =>
    rw [← List.append_assoc] at htrades hkeys hshort hpos ⊢
    have htrade := htrades trade (by simp)
    have hvolume := htrade.volume
    have hfirst : ∀ trade' ∈ post, s.SliceTrade trade' := fun trade' hmem => htrades trade' (by simp [hmem])
    have hnew : trade.tradeKey ∉ (pre ++ post).map (·.tradeKey) := by
      rw [List.map_append, List.nodup_append] at hkeys
      intro hmem
      exact hkeys.2.2 _ hmem _ (by simp) rfl
    have hrest : 0 ≤ boughtVolume post := by
      by_cases hnone : post = []
      · rw [hnone]
        exact le_refl 0
      · exact le_of_lt (boughtVolume_pos hfirst hnone)
    have hsum := boughtVolume_append pre post
    rw [boughtVolume_concat] at hshort hpos
    have hheard := hshort (by omega)
    have hbefore := hheard.bookAll config hfresh hfirst (hkeys.sublist (by simp)) (by
      rintro total htotal'
      cases htotal'
      omega)
    rw [List.foldl_append]
    exact hbefore.last htrade hnew rfl (by rw [boughtVolume_concat]; omega)

def Buys (trade : EntryTradeEvent) : Bool := decide (0 < trade.volume)

theorem bookTrade_of_not_buys (h : ¬Buys trade = true) : bookTrade config s trade = s := by
  rcases s.applyTradeFill_cases (trade.fill config s) with ⟨hafter, -⟩ | ⟨happlies, -⟩ | ⟨happlies, -⟩
  · exact hafter
  · exact absurd (decide_eq_true happlies.volume) h
  · exact absurd (decide_eq_true happlies.volume) h

theorem foldl_bookTrade_filter (trades : List EntryTradeEvent) (s : ManagedEntryPlanState) :
    trades.foldl (bookTrade config) s = (trades.filter Buys).foldl (bookTrade config) s := by
  induction trades generalizing s with
  | nil => rfl
  | cons trade trades ih =>
    rw [List.filter_cons, List.foldl_cons]
    split
    · exact ih _
    · rename_i hno
      rw [bookTrade_of_not_buys hno]
      exact ih s

theorem boughtVolume_filter (h : ∀ trade ∈ trades, 0 ≤ trade.volume) :
    boughtVolume (trades.filter Buys) = boughtVolume trades := by
  induction trades with
  | nil => rfl
  | cons trade trades ih =>
    have htail := ih fun trade' hmem => h trade' (List.mem_cons_of_mem _ hmem)
    have hhead := h trade List.mem_cons_self
    rw [List.filter_cons]
    split
    · simp only [boughtVolume, List.map_cons, List.sum_cons] at htail ⊢
      rw [htail]
    · rename_i hno
      have hzero : trade.volume = 0 := by
        simp only [Buys, decide_eq_true_eq] at hno
        omega
      simp only [boughtVolume, List.map_cons, List.sum_cons, hzero, zero_add] at htail ⊢
      exact htail

/-- The reports of a pending slice: trades with new keys, and a report of the order's end that announces
    their total. -/
structure SliceReports (s : ManagedEntryPlanState) (trades : List EntryTradeEvent) (report : EntryOrderReport) : Prop where
  matched : ∀ trade ∈ trades, matchesPendingEntry trade.metadata s = true
  named : ∀ trade ∈ trades, trade.tradeKey ≠ ""
  fresh : ∀ trade ∈ trades, trade.tradeKey ∉ s.processedTradeKeys
  distinct : (trades.map (·.tradeKey)).Nodup
  price : ∀ trade ∈ trades, 0 < trade.price
  volume : ∀ trade ∈ trades, 0 ≤ trade.volume
  total : 0 < boughtVolume trades
  terminal : report.terminal ≠ none ∧ report.terminal ≠ some .reconciledZeroFill
  announced : report.expectedFilledVolume = some (boughtVolume trades)

/-- Two states that agree on the totals, on what is completed and on what may come next, with no slice
    pending. -/
structure SameEnd (a b : ManagedEntryPlanState) : Prop where
  phase : a.phase = b.phase
  filledVolume : a.filledVolume = b.filledVolume
  filledAmountCny : a.filledAmountCny = b.filledAmountCny
  ruleFilledVolumes : ∀ rule, a.ruleFilledVolumes.get? rule = b.ruleFilledVolumes.get? rule
  ruleFilledAmountsCny : ∀ rule, a.ruleFilledAmountsCny.get? rule = b.ruleFilledAmountsCny.get? rule
  completedRuleIds : a.completedRuleIds = b.completedRuleIds
  completedActivationIds : a.completedActivationIds = b.completedActivationIds
  retryAfterMs : a.retryAfterMs = b.retryAfterMs
  cleared : a.hasPending = false ∧ b.hasPending = false

theorem SliceReports.settled {report : EntryOrderReport} (h : s.SliceReports trades report) (hfresh : s.FreshSlice)
    (hperm : (pre ++ post).Perm trades) :
    Settled s config ((pre ++ post).filter Buys) (applyReports config s pre report post) := by
  have hmem : ∀ trade ∈ (pre ++ post).filter Buys, s.SliceTrade trade := by
    intro trade hmem
    obtain ⟨hin, hbuys⟩ := List.mem_filter.mp hmem
    have htrade := hperm.mem_iff.mp hin
    exact ⟨h.matched trade htrade, h.named trade htrade, h.fresh trade htrade, of_decide_eq_true hbuys, h.price trade htrade⟩
  have hkeys : (((pre ++ post).filter Buys).map (·.tradeKey)).Nodup :=
    ((hperm.map _).nodup_iff.mpr h.distinct).sublist (List.filter_sublist.map _)
  have htotal : boughtVolume ((pre ++ post).filter Buys) = boughtVolume trades := by
    rw [boughtVolume_filter fun trade hin => h.volume trade (hperm.mem_iff.mp hin)]
    exact (hperm.map _).sum_eq
  have hreports : applyReports config s pre report post =
      applyReports config s (pre.filter Buys) report (post.filter Buys) := by
    unfold applyReports
    rw [foldl_bookTrade_filter pre, foldl_bookTrade_filter post]
  rw [hreports]
  rw [List.filter_append] at hmem hkeys htotal ⊢
  refine Settled.of_reports hfresh hmem hkeys h.terminal.1 h.terminal.2 ?_ ?_
  · rw [htotal]
    exact h.announced
  · rw [htotal]
    exact h.total

theorem Settled.sameEnd {trades' : List EntryTradeEvent} {next' : ManagedEntryPlanState} (h : Settled s config trades next)
    (h' : Settled s config trades' next') (hperm : trades.Perm trades') : SameEnd next next' := by
  have hvolume : boughtVolume trades = boughtVolume trades' := (hperm.map _).sum_eq
  have hamount : boughtAmountCny trades = boughtAmountCny trades' := (hperm.map _).sum_eq
  have hnone : trades = [] ↔ trades' = [] := ⟨fun hnil => (hnil ▸ hperm).nil_eq.symm, fun hnil => (hnil ▸ hperm).eq_nil⟩
  exact {
    phase := by
      rw [h.phase, h'.phase]
      unfold endPhase
      rw [hvolume, hamount]
    filledVolume := by rw [h.booked.volume, h'.booked.volume, hvolume]
    filledAmountCny := by rw [h.booked.amountCny, h'.booked.amountCny, hamount]
    ruleFilledVolumes := fun rule => by
      rw [h.booked.ruleVolumes, h'.booked.ruleVolumes]
      exact Dict.get?_tally_perm _ ((hperm.filter _).map _) rule
    ruleFilledAmountsCny := fun rule => by
      rw [h.booked.ruleAmountsCny, h'.booked.ruleAmountsCny]
      exact Dict.get?_tally_perm _ ((hperm.filter _).map _) rule
    completedRuleIds := by
      rw [h.booked.rules, h'.booked.rules]
      simp [rulesAfter, hnone]
    completedActivationIds := by
      rw [h.booked.activations, h'.booked.activations]
      simp [activationsAfter, hnone]
    retryAfterMs := h.booked.retry.trans h'.booked.retry.symm, cleared := ⟨h.cleared, h'.cleared⟩ }

/-- However the trades and the terminal report of a fresh slice interleave, the plan ends in the same state with the
    slice cleared, asked to end or not. -/
theorem slice_reports_confluent {report : EntryOrderReport} (config : ManagedEntryPlanConfig) (hfresh : s.FreshSlice)
    (h : s.SliceReports trades report) {pre post pre' post' : List EntryTradeEvent} (hperm : (pre ++ post).Perm trades)
    (hperm' : (pre' ++ post').Perm trades) :
    SameEnd (applyReports config s pre report post) (applyReports config s pre' report post') :=
  (h.settled hfresh hperm).sameEnd (h.settled hfresh hperm') ((hperm.trans hperm'.symm).filter _)

/-- A trade of 100 shares for the slice that `openedState` has pending. -/
def sliceTrade (tradeId : String) (price : Rat) : EntryTradeEvent where
  metadata := Dict.ofList [("intent_id", .str "plan:1:r1:1"), ("entry_stage_id", .str "entry-stage:plan:1:r1:1:stage"),
    ("trade_id", .str tradeId)]
  executionRef := none
  instrumentCode := "600000.SH"
  tradeType := "BUY"
  volume := 100
  price := price
  tradeDate := "2026-01-05"
  timestampMs := 2000
  composedKey := ""

def sliceReport : EntryOrderReport where
  status := "CANCELLED"
  timestampMs := 3000
  cooldownAfterRejectSeconds := 60
  expectedFilledVolume := some 200

def stoppingState : ManagedEntryPlanState := openedState.requestTerminal .cancelled "STOP" false

/-- The report between the trades and after both. -/
theorem stopping_plan_confluent :
    SameEnd (applyReports manualEntryConfig stoppingState [sliceTrade "t1" 10] sliceReport [sliceTrade "t2" 11])
      (applyReports manualEntryConfig stoppingState [sliceTrade "t2" 11, sliceTrade "t1" 10] sliceReport []) := by
  have hopened : openedState.FreshSlice := ⟨by decide +kernel, by decide +kernel, by decide +kernel, by decide +kernel,
    by decide +kernel⟩
  refine slice_reports_confluent manualEntryConfig (hopened.requestTerminal .cancelled "STOP" false) ?_
    (.refl [sliceTrade "t1" 10, sliceTrade "t2" 11]) (List.Perm.swap _ _ _)
  exact {
    matched := by decide +kernel
    named := by decide +kernel
    fresh := by decide +kernel
    distinct := by decide +kernel
    price := by decide +kernel
    volume := by decide +kernel
    total := by decide +kernel
    terminal := by decide +kernel
    announced := by decide +kernel }

end ManagedEntryPlanState

end QuantX
