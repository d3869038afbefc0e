import QuantX.Theorems.PaperMatching.Liquidity

namespace QuantX
open Lib PaperBroker PaperBrokerMatching

variable {host : PaperHost} {eventId orderId key code : String} {matcher : PaperBrokerMatching} {order own : PaperOrder} {quote : PaperQuote}
  {request : PaperRequest} {now acceptedAt : Int} {trade : PaperTrade} {result : PaperMatchingResult}
variable {log : List PaperMoment} {moment : PaperMoment}

/-- What happens to a matcher: a call, or it is replaced by one restored from its checkpoint. -/
inductive PaperOp where
  | called (taken : PaperCall)
  | restarted

/-- The matcher after that. Where the checkpoint is not accepted there is no other matcher to go on with. -/
def PaperBrokerMatching.operate (host : PaperHost) (matcher : PaperBrokerMatching) : PaperOp → PaperBrokerMatching
  | .called taken => matcher.step host taken
  | .restarted => (restore host matcher.scopeExecutionId (matcher.exportCheckpoint host)).toOption.getD matcher

theorem Waiting.restarted (h : Waiting host matcher) : matcher.operate host .restarted = matcher := by
  unfold PaperBrokerMatching.operate
  cases hrestore : PaperBrokerMatching.restore host matcher.scopeExecutionId (matcher.exportCheckpoint host) with
  | error error => rfl
  | ok restored => exact (h.restore.mp hrestore).2

theorem Waiting.operate (h : Waiting host matcher) (op : PaperOp) : Waiting host (matcher.operate host op) := by
  cases op with
  | called taken => exact h.take taken
  | restarted =>
    rw [h.restarted]
    exact h

abbrev PaperMoment := Moment PaperBrokerMatching PaperOp

def returned (host : PaperHost) (moment : PaperMoment) : Option PaperMatchingResult :=
  match moment.op with
  | .called taken => (moment.before.take host taken).2.toOption
  | .restarted => none

theorem returned_called (matcher : PaperBrokerMatching) (taken : PaperCall) (after : PaperBrokerMatching) :
    returned host ⟨matcher, .called taken, after⟩ = (matcher.take host taken).2.toOption := rfl

def CarriedOut (host : PaperHost) (moment : PaperMoment) (taken : PaperCall) : Prop :=
  moment.op = .called taken ∧ ∃ result, returned host moment = some result ∧ result.duplicate = false

def Cancels (host : PaperHost) (moment : PaperMoment) (orderId : String) : Prop :=
  ∃ now result, moment.op = .called (.cancel orderId now) ∧ returned host moment = some result

def PlacedSince (host : PaperHost) (log : List PaperMoment) (orderId : String) (request : PaperRequest) (submitTime : Int) : Prop :=
  ∃ later moment earlier, log = later ++ moment :: earlier ∧ CarriedOut host moment (.place orderId request submitTime) ∧
    ∀ other ∈ later, ¬ Cancels host other orderId

theorem PlacedSince.later {submitTime : Int} (h : PlacedSince host log orderId request submitTime)
    (hcancels : ¬ Cancels host moment orderId) : PlacedSince host (moment :: log) orderId request submitTime := by
  obtain ⟨later, placing, earlier, rfl, hplacing, hlater⟩ := h
  refine ⟨moment :: later, placing, earlier, rfl, hplacing, fun other hother => ?_⟩
  rcases List.mem_cons.mp hother with rfl | hother
  · exact hcancels
  · exact hlater other hother

theorem result_orders {previous : Dict String PaperOrder} {tradeCount : Nat} {duplicate : Bool} {id : Option String} {reasonCodes : List String} :
    (done (matcher.result previous tradeCount duplicate id reasonCodes)).1.broker.orders.get? key = some order ↔
      matcher.broker.orders.get? key = some order ∧ order.isOpen = true := by
  have hkept : (done (matcher.result previous tradeCount duplicate id reasonCodes)).1.broker.orders.get? key =
      (matcher.broker.orders.get? key).filter (·.isOpen) := Dict.get?_filter _ _ _
  rw [hkept, Option.filter_eq_some_iff]

theorem cancelOrder_closed {broker : PaperBroker} (h : (broker.cancelOrder orderId).1.orders.get? orderId = some order) : order.isOpen = false := by
  unfold cancelOrder at h
  split at h
  · rename_i hnone
    rw [hnone] at h
    cases h
  · rename_i own hown
    split at h
    · rw [Dict.get?_set_self] at h
      obtain rfl := Option.some.inj h
      rfl
    · rename_i hclosed
      rw [hown] at h
      obtain rfl := Option.some.inj h
      simpa using hclosed

/-- An order that a call leaves is as it was asked for before, and has not been cancelled, or the call has placed it. -/
theorem Waiting.traces (h : Waiting host matcher) {taken : PaperCall} (horder : (matcher.step host taken).broker.orders.get? key = some order) :
    (∃ own, matcher.broker.orders.get? key = some own ∧ own.submission = order.submission) ∧
        ¬ Cancels host ⟨matcher, .called taken, matcher.step host taken⟩ key ∨
      CarriedOut host ⟨matcher, .called taken, matcher.step host taken⟩ (.place key order.paperRequest order.submitTime) := by
  cases taken with
  | place orderId request now =>
    have hidle : ¬ Cancels host ⟨matcher, .called (.place orderId request now), matcher.step host (.place orderId request now)⟩ key := by
      rintro ⟨_, _, hop, -⟩
      cases hop
    simp only [PaperBrokerMatching.step, PaperBrokerMatching.take] at horder
    rcases place_cases h orderId request now with ⟨_, hplace⟩ | hplace | ⟨advanced, placed, hplaced, hplace⟩
    · rw [hplace] at horder
      exact .inl ⟨⟨order, horder, rfl⟩, hidle⟩
    · rw [hplace] at horder
      exact .inl ⟨⟨order, (result_orders.mp horder).1, rfl⟩, hidle⟩
    · rw [hplace] at horder
      have hkey := hplaced.submissions h.toWorking key
      have hfound : placed.orders.get? key = some order := (result_orders.mp horder).1
      rw [hfound, Option.map_some] at hkey
      split at hkey
      · rename_i hsame
        subst hsame
        have hsubmission := Option.some.inj hkey
        simp only [PaperOrder.submission, PaperManifest.submission.injEq] at hsubmission
        obtain ⟨hrequest, hnow⟩ := hsubmission
        have hreturned := @returned_called host matcher (.place orderId request now) (matcher.step host (.place orderId request now))
        rw [PaperBrokerMatching.take, hplace] at hreturned
        exact .inr ⟨by rw [hrequest, hnow], _, hreturned, rfl⟩
      · obtain ⟨own, hown, hsubmission⟩ := Option.map_eq_some_iff.mp hkey.symm
        exact .inl ⟨⟨own, hown, hsubmission⟩, hidle⟩
  | processQuote eventId quote acceptedAt =>
    have hidle : ¬ Cancels host ⟨matcher, .called (.processQuote eventId quote acceptedAt),
        matcher.step host (.processQuote eventId quote acceptedAt)⟩ key := by
      rintro ⟨_, _, hop, -⟩
      cases hop
    simp only [PaperBrokerMatching.step, PaperBrokerMatching.take] at horder
    rcases processQuote_cases h eventId quote acceptedAt with ⟨_, hprocess⟩ | ⟨_, hprocess⟩ | ⟨-, hprocess⟩
    · rw [hprocess] at horder
      exact .inl ⟨⟨order, horder, rfl⟩, hidle⟩
    · rw [hprocess] at horder
      exact .inl ⟨⟨order, (result_orders.mp horder).1, rfl⟩, hidle⟩
    · rw [hprocess] at horder
      have hkeeps := @keeps_update host matcher.scopeExecutionId eventId matcher.broker quote (!matcher.sameSource quote) acceptedAt
      exact .inl ⟨(hkeeps.submissions (h.queue.congr rfl rfl)).found (result_orders.mp horder).1, hidle⟩
  | cancel orderId now =>
    simp only [PaperBrokerMatching.step, PaperBrokerMatching.take] at horder
    rcases cancel_cases h orderId now with ⟨_, hcancel⟩ | ⟨advanced, hadvance, -, hcancel⟩
    · rw [hcancel] at horder
      refine .inl ⟨⟨order, horder, rfl⟩, ?_⟩
      rintro ⟨_, result, -, hreturned⟩
      simp only [returned, PaperBrokerMatching.take] at hreturned
      rw [hcancel] at hreturned
      cases hreturned
    · rw [hcancel] at horder
      obtain ⟨hfound, hopen⟩ := result_orders.mp horder
      have hkeeps := (@keeps_advance host matcher.scopeExecutionId matcher.broker advanced now hadvance).trans (keeps_cancel orderId)
      refine .inl ⟨(hkeeps.submissions (h.queue.congr rfl rfl)).found hfound, ?_⟩
      rintro ⟨_, result, hop, -⟩
      obtain ⟨rfl, -⟩ : orderId = key ∧ now = _ := by simpa using hop
      rw [cancelOrder_closed hfound] at hopen
      cases hopen

def acceptedQuote (host : PaperHost) (moment : PaperMoment) : Option PaperQuote :=
  match moment.op with
  | .called (.processQuote _ quote _) => ((returned host moment).filter (!·.duplicate)).map fun _ => quote
  | _ => none

structure Quiet (host : PaperHost) (moment : PaperMoment) : Prop where
  accepted : acceptedQuote host moment = none
  quotes : moment.after.broker.marketSnapshots = moment.before.broker.marketSnapshots
  trades : ∀ result, returned host moment = some result → result.trades = []

structure Quoted (host : PaperHost) (moment : PaperMoment) (eventId : String) (quote : PaperQuote) (acceptedAt : Int) : Prop where
  op : moment.op = .called (.processQuote eventId quote acceptedAt)
  processed : Processed moment.before eventId quote acceptedAt
  accepted : acceptedQuote host moment = some quote
  quotes : moment.after.broker.marketSnapshots = moment.before.broker.marketSnapshots.set quote.instrumentCode quote
  trades : ∃ result, returned host moment = some result ∧ result.trades = (quotedMatcher host moment.before eventId quote acceptedAt).broker.trades

theorem Quiet.rejected {taken : PaperCall} {error : String} (h : matcher.take host taken = (matcher, .error error)) :
    Quiet host ⟨matcher, .called taken, matcher.step host taken⟩ := by
  have hreturned := @returned_called host matcher taken (matcher.step host taken)
  rw [h] at hreturned
  refine ⟨?_, ?_, fun result hresult => ?_⟩
  · cases taken with
    | processQuote eventId quote acceptedAt =>
      rw [acceptedQuote, hreturned]
      rfl
    | place orderId request now => rfl
    | cancel orderId now => rfl
  · simp only [PaperBrokerMatching.step]
    rw [h]
  · rw [hreturned] at hresult
    cases hresult

theorem Waiting.call_cases (h : Waiting host matcher) (taken : PaperCall) :
    Quiet host ⟨matcher, .called taken, matcher.step host taken⟩ ∨
      ∃ eventId quote acceptedAt, Quoted host ⟨matcher, .called taken, matcher.step host taken⟩ eventId quote acceptedAt := by
  have hreturned := @returned_called host matcher taken (matcher.step host taken)
  cases taken with
  | place orderId request now =>
    rw [PaperBrokerMatching.take] at hreturned
    rcases place_cases h orderId request now with ⟨_, hplace⟩ | hplace | ⟨advanced, placed, hplaced, hplace⟩
    · exact .inl (.rejected hplace)
    · rw [hplace] at hreturned
      refine .inl ⟨rfl, ?_, fun result hresult => ?_⟩
      · simp only [PaperBrokerMatching.step, PaperBrokerMatching.take]
        rw [hplace]
        rfl
      · obtain rfl := Option.some.inj (hreturned.symm.trans hresult)
        exact h.trades
    · rw [hplace] at hreturned
      refine .inl ⟨rfl, ?_, fun result hresult => ?_⟩
      · simp only [PaperBrokerMatching.step, PaperBrokerMatching.take]
        rw [hplace]
        have hadvance := @keeps_advance host matcher.scopeExecutionId matcher.broker advanced now hplaced.advance
        have hsettle := @keeps_advance host matcher.scopeExecutionId _ placed now hplaced.settle
        exact (hsettle.surroundings.quotes.trans (placeOrder_surroundings advanced orderId request).quotes).trans hadvance.surroundings.quotes
      · obtain rfl := Option.some.inj (hreturned.symm.trans hresult)
        exact List.drop_length
  | processQuote eventId quote acceptedAt =>
    rw [PaperBrokerMatching.take] at hreturned
    rcases processQuote_cases h eventId quote acceptedAt with ⟨_, hprocess⟩ | ⟨_, hprocess⟩ | ⟨hprocessed, hprocess⟩
    · exact .inl (.rejected hprocess)
    · rw [hprocess] at hreturned
      refine .inl ⟨?_, ?_, fun result hresult => ?_⟩
      · rw [acceptedQuote, hreturned]
        rfl
      · simp only [PaperBrokerMatching.step, PaperBrokerMatching.take]
        rw [hprocess]
        rfl
      · obtain rfl := Option.some.inj (hreturned.symm.trans hresult)
        exact h.trades
    · rw [hprocess] at hreturned
      refine .inr ⟨eventId, quote, acceptedAt, rfl, hprocessed, ?_, ?_, _, hreturned, rfl⟩
      · rw [acceptedQuote, hreturned]
        rfl
      · simp only [PaperBrokerMatching.step, PaperBrokerMatching.take]
        rw [hprocess]
        exact (@keeps_update host matcher.scopeExecutionId eventId matcher.broker quote (!matcher.sameSource quote) acceptedAt).surroundings.quotes
  | cancel orderId now =>
    rw [PaperBrokerMatching.take] at hreturned
    rcases cancel_cases h orderId now with ⟨_, hcancel⟩ | ⟨advanced, hadvance, -, hcancel⟩
    · exact .inl (.rejected hcancel)
    · rw [hcancel] at hreturned
      refine .inl ⟨rfl, ?_, fun result hresult => ?_⟩
      · simp only [PaperBrokerMatching.step, PaperBrokerMatching.take]
        rw [hcancel]
        exact ((@keeps_advance host matcher.scopeExecutionId matcher.broker advanced now hadvance).trans (keeps_cancel orderId)).surroundings.quotes
      · obtain rfl := Option.some.inj (hreturned.symm.trans hresult)
        exact List.drop_length

theorem Waiting.quiet_restart (h : Waiting host matcher) : Quiet host ⟨matcher, .restarted, matcher.operate host .restarted⟩ where
  accepted := rfl
  quotes := congrArg (·.broker.marketSnapshots) h.restarted
  trades _ hreturned := by cases hreturned

/-! ## Causality and liquidity -/

/-- The volume of a side that a moment has filled on the quotes of an instrument and a source instant. -/
def momentVolume (host : PaperHost) (code : String) (sourceTime : Int) (buys : Bool) (moment : PaperMoment) : Int :=
  match moment.op with
  | .called (.processQuote _ quote _) =>
    if quote.instrumentCode = code ∧ quote.sourceTime = sourceTime then paperVolume ((returned host moment).elim [] (·.trades)) buys else 0
  | _ => 0

def runVolume (host : PaperHost) (log : List PaperMoment) (code : String) (sourceTime : Int) (buys : Bool) : Int :=
  (log.map (momentVolume host code sourceTime buys)).sum

def firstQuote (host : PaperHost) (log : List PaperMoment) (code : String) (sourceTime : Int) : Option PaperQuote :=
  ((log.filterMap (acceptedQuote host)).filter fun quote => quote.instrumentCode = code ∧ quote.sourceTime = sourceTime).getLast?

structure PaperHistory (host : PaperHost) (log : List PaperMoment) (matcher : PaperBrokerMatching) : Prop where
  waiting : Waiting host matcher
  placed : ∀ key order, matcher.broker.orders.get? key = some order → PlacedSince host log key order.paperRequest order.submitTime
  latest : ∀ quote ∈ log.filterMap (acceptedQuote host), ∃ snapshot, matcher.broker.marketSnapshots.get? quote.instrumentCode = some snapshot ∧
    quote.sourceTime ≤ snapshot.sourceTime
  volume : ∀ code sourceTime buys, runVolume host log code sourceTime buys ≤
    (firstQuote host log code sourceTime).elim 0 fun quote => quoteDepth host quote buys

theorem PlacedSince.congr (h : PlacedSince host log key own.paperRequest own.submitTime)
    (hsubmission : own.submission = order.submission) : PlacedSince host log key order.paperRequest order.submitTime := by
  simp only [PaperOrder.submission, PaperManifest.submission.injEq] at hsubmission
  rwa [← hsubmission.1, ← hsubmission.2]

theorem Quiet.volume {moment : PaperMoment} (h : Quiet host moment) (sourceTime : Int) (buys : Bool) :
    momentVolume host code sourceTime buys moment = 0 := by
  unfold momentVolume
  split
  · split
    · cases hreturned : returned host moment with
      | none => rfl
      | some result =>
        rw [Option.elim_some, h.trades result hreturned]
        rfl
    · rfl
  · rfl

theorem firstQuote_idle (h : acceptedQuote host moment = none) (sourceTime : Int) :
    firstQuote host (moment :: log) code sourceTime = firstQuote host log code sourceTime := by
  rw [firstQuote, List.filterMap_cons_none h, firstQuote]

theorem firstQuote_cons (h : acceptedQuote host moment = some quote) (sourceTime : Int) :
    firstQuote host (moment :: log) code sourceTime =
      (firstQuote host log code sourceTime).or (if quote.instrumentCode = code ∧ quote.sourceTime = sourceTime then some quote else none) := by
  rw [firstQuote, List.filterMap_cons_some h, List.filter_cons, firstQuote]
  by_cases hmatch : quote.instrumentCode = code ∧ quote.sourceTime = sourceTime
  · simp only [hmatch, and_self, decide_true, if_true, List.getLast?_cons]
    cases List.getLast? _ <;> rfl
  · simp [hmatch]

theorem firstQuote_mem {sourceTime : Int} (h : firstQuote host log code sourceTime = some quote) :
    quote ∈ log.filterMap (acceptedQuote host) ∧ quote.instrumentCode = code ∧ quote.sourceTime = sourceTime := by
  have hmem := List.mem_of_getLast? h
  simpa using hmem

theorem PaperHistory.quote_volume (h : PaperHistory host log matcher) (hprocessed : Processed matcher eventId quote acceptedAt)
    (buys : Bool) : paperVolume (quotedMatcher host matcher eventId quote acceptedAt).broker.trades buys ≤
      if (firstQuote host log quote.instrumentCode quote.sourceTime).isSome then 0 else quoteDepth host quote buys := by
  have hle := (hprocessed.fills h.waiting).2 buys
  cases hfirst : firstQuote host log quote.instrumentCode quote.sourceTime with
  | none =>
    have hnonneg : 0 ≤ quoteDepth host quote buys := by
      rw [← hprocessed.depth]
      refine List.sum_nonneg fun volume hvolume => ?_
      obtain ⟨level, hlevel, rfl⟩ := List.mem_map.mp hvolume
      exact side_nonneg (buildStrictBook_sound _ _) buys level hlevel
    split at hle
    · exact hle.trans hnonneg
    · exact hle
  | some first =>
    obtain ⟨hmem, hcode, htime⟩ := firstQuote_mem hfirst
    obtain ⟨snapshot, hsnapshot, holder⟩ := h.latest first hmem
    rw [hcode] at hsnapshot
    have hsame : matcher.sameSource quote = true := by
      have hcausal := hprocessed.causal snapshot hsnapshot
      simp only [sameSource, hsnapshot, Option.any_some, decide_eq_true_eq]
      omega
    rw [if_pos hsame] at hle
    exact hle

theorem PaperHistory.quiet (h : PaperHistory host log matcher) {op : PaperOp}
    (hquiet : Quiet host ⟨matcher, op, matcher.operate host op⟩)
    (hplaced : ∀ key order, (matcher.operate host op).broker.orders.get? key = some order →
      PlacedSince host (⟨matcher, op, matcher.operate host op⟩ :: log) key order.paperRequest order.submitTime) :
    PaperHistory host (⟨matcher, op, matcher.operate host op⟩ :: log) (matcher.operate host op) := by
  have hquotes : (matcher.operate host op).broker.marketSnapshots = matcher.broker.marketSnapshots := hquiet.quotes
  refine ⟨h.waiting.operate op, hplaced, ?_, fun code sourceTime buys => ?_⟩
  · rw [List.filterMap_cons_none hquiet.accepted, hquotes]
    exact h.latest
  · rw [runVolume, List.map_cons, List.sum_cons, ← runVolume, hquiet.volume, zero_add, firstQuote_idle hquiet.accepted]
    exact h.volume code sourceTime buys

theorem PaperHistory.quoted (h : PaperHistory host log matcher) {op : PaperOp}
    (hquoted : Quoted host ⟨matcher, op, matcher.operate host op⟩ eventId quote acceptedAt)
    (hplaced : ∀ key order, (matcher.operate host op).broker.orders.get? key = some order →
      PlacedSince host (⟨matcher, op, matcher.operate host op⟩ :: log) key order.paperRequest order.submitTime) :
    PaperHistory host (⟨matcher, op, matcher.operate host op⟩ :: log) (matcher.operate host op) := by
  have hquotes : (matcher.operate host op).broker.marketSnapshots = matcher.broker.marketSnapshots.set quote.instrumentCode quote := hquoted.quotes
  have hprocessed : Processed matcher eventId quote acceptedAt := hquoted.processed
  refine ⟨h.waiting.operate op, hplaced, ?_, fun code sourceTime buys => ?_⟩
  · rw [List.filterMap_cons_some hquoted.accepted, hquotes]
    intro other hother
    rcases List.mem_cons.mp hother with rfl | hother
    · exact ⟨other, Dict.get?_set_self _ _ _, le_rfl⟩
    · obtain ⟨snapshot, hsnapshot, holder⟩ := h.latest other hother
      by_cases hcode : quote.instrumentCode = other.instrumentCode
      · rw [← hcode] at hsnapshot ⊢
        exact ⟨quote, Dict.get?_set_self _ _ _, holder.trans (hprocessed.causal snapshot hsnapshot)⟩
      · exact ⟨snapshot, (Dict.get?_set_ne _ _ hcode).trans hsnapshot, holder⟩
  · have hbefore := h.volume code sourceTime buys
    obtain ⟨result, hreturned, htrades⟩ := hquoted.trades
    have hmoment : momentVolume host code sourceTime buys ⟨matcher, op, matcher.operate host op⟩ =
        if quote.instrumentCode = code ∧ quote.sourceTime = sourceTime then
          paperVolume (quotedMatcher host matcher eventId quote acceptedAt).broker.trades buys else 0 := by
      have hop := hquoted.op
      simp only [momentVolume] at hop ⊢
      rw [hop] at hreturned ⊢
      simp [hreturned, htrades]
    rw [runVolume, List.map_cons, List.sum_cons, ← runVolume, hmoment, firstQuote_cons hquoted.accepted]
    split
    · rename_i hmatch
      obtain ⟨rfl, rfl⟩ := hmatch
      have hvolume := h.quote_volume hprocessed buys
      cases hfirst : firstQuote host log quote.instrumentCode quote.sourceTime with
      | none =>
        rw [hfirst] at hbefore hvolume
        simp only [Option.isSome_none, Bool.false_eq_true, if_false, Option.elim_none] at hbefore hvolume
        simp only [Option.none_or, Option.elim_some]
        omega
      | some first =>
        rw [hfirst] at hbefore hvolume
        simp only [Option.isSome_some, if_true, Option.elim_some] at hbefore hvolume
        simp only [Option.some_or, Option.elim_some]
        omega
    · rw [zero_add, Option.or_none]
      exact hbefore

theorem PaperHistory.operate (h : PaperHistory host log matcher) (op : PaperOp) :
    PaperHistory host (⟨matcher, op, matcher.operate host op⟩ :: log) (matcher.operate host op) := by
  cases op with
  | called taken =>
    have hplaced : ∀ key order, (matcher.step host taken).broker.orders.get? key = some order →
        PlacedSince host (⟨matcher, .called taken, matcher.step host taken⟩ :: log) key order.paperRequest order.submitTime := by
      intro key order horder
      rcases h.waiting.traces horder with ⟨⟨own, hown, hsubmission⟩, hcancels⟩ | hplaced
      · exact ((h.placed key own hown).later hcancels).congr hsubmission
      · exact ⟨[], _, log, rfl, hplaced, by simp⟩
    rcases h.waiting.call_cases taken with hquiet | ⟨eventId, quote, acceptedAt, hquoted⟩
    · exact h.quiet hquiet hplaced
    · exact h.quoted hquoted hplaced
  | restarted =>
    refine h.quiet h.waiting.quiet_restart fun key order horder => ?_
    rw [h.waiting.restarted] at horder
    refine (h.placed key order horder).later ?_
    rintro ⟨_, _, hop, -⟩
    cases hop

theorem run_history
    (hrun : Run (PaperOpened host) (PaperBrokerMatching.operate host) (fun _ _ _ => True) log matcher) : PaperHistory host log matcher := by
  refine hrun.invariant (PaperHistory host) (fun matcher hopened => ?_) (fun _ _ op h _ => h.operate op)
  obtain ⟨scope, cash, nonTradingAssetValue, positions, now, hcreate⟩ := hopened
  refine ⟨create_waiting hcreate, fun key order horder => ?_, by simp, fun code sourceTime buys => le_rfl⟩
  unfold create at hcreate
  obtain ⟨-, hcreate⟩ := check_bind.mp hcreate
  obtain ⟨-, hcreate⟩ := check_bind.mp hcreate
  obtain ⟨-, hcreate⟩ := check_bind.mp hcreate
  obtain ⟨-, hcreate⟩ := check_bind.mp hcreate
  obtain rfl := Except.ok.inj hcreate
  cases horder

structure PaperFilled (host : PaperHost) (log : List PaperMoment) (matcher : PaperBrokerMatching) (quote : PaperQuote) (acceptedAt : Int)
    (trade : PaperTrade) (order : PaperOrder) : Prop extends CausalFill host matcher quote acceptedAt trade order where
  placed : PlacedSince host log trade.paperOrderId order.paperRequest order.submitTime

structure PaperCausality (host : PaperHost) (log : List PaperMoment) (matcher : PaperBrokerMatching) : Prop where
  fills : ∀ taken result, (matcher.take host taken).2 = .ok result → ∀ trade ∈ result.trades, ∃ eventId quote acceptedAt order,
    taken = .processQuote eventId quote acceptedAt ∧ PaperFilled host log matcher quote acceptedAt trade order
  liquidity : ∀ code sourceTime buys, runVolume host log code sourceTime buys ≤
    (firstQuote host log code sourceTime).elim 0 fun quote => quoteDepth host quote buys

end QuantX
