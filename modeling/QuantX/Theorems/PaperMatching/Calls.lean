import QuantX.Theorems.PaperMatching.Matcher

namespace QuantX
open Lib PaperBroker PaperBrokerMatching

variable {host : PaperHost} {eventId orderId key code : String} {matcher : PaperBrokerMatching} {broker next advanced placed : PaperBroker}
  {order : PaperOrder} {quote : PaperQuote} {request : PaperRequest} {now acceptedAt : Int} {call : PaperCall}

/-- A request that is carried out: the clock moves, the order is placed, and what has expired leaves. -/
structure Placed (host : PaperHost) (matcher : PaperBrokerMatching) (orderId : String) (request : PaperRequest) (now : Int)
    (advanced placed : PaperBroker) : Prop where
  valid : validateRequest host matcher.scopeExecutionId request = .ok ()
  new : matcher.orderWitnesses.get? orderId = none
  advance : matcher.broker.advanceTime host now = .ok advanced
  settle : (advanced.placeOrder host orderId request).advanceTime host now = .ok placed

def placedMatcher (host : PaperHost) (matcher : PaperBrokerMatching) (orderId : String) (request : PaperRequest) (now : Int)
    (placed : PaperBroker) : PaperBrokerMatching :=
  { matcher with
    broker := placed
    orderWitnesses := matcher.orderWitnesses.set orderId (host.manifestHash (.submission request now)) }

theorem advanceTime_time {timestamp : Int} (h : broker.advanceTime host timestamp = .ok next) : next.currentTime = timestamp :=
  (@keeps_advance host "" broker next timestamp h).surroundings.time

theorem place_cases (h : Waiting host matcher) (orderId : String) (request : PaperRequest) (now : Int) :
    (∃ error, matcher.place host orderId request now = (matcher, .error error)) ∨
      matcher.place host orderId request now = done (matcher.result matcher.broker.orders 0 true (some orderId) []) ∨
      ∃ advanced placed, Placed host matcher orderId request now advanced placed ∧
        matcher.place host orderId request now =
          done ((placedMatcher host matcher orderId request now placed).result matcher.broker.orders placed.trades.length false none []) := by
  unfold place
  split
  · exact .inl ⟨_, rfl⟩
  · rename_i hcheck
    obtain ⟨-, hvalid⟩ := check_bind.mp hcheck
    dsimp only
    split
    · split
      · exact .inl ⟨_, rfl⟩
      · rw [h.trades]
        exact .inr (.inl rfl)
    · rename_i hnew
      split
      · exact .inl (h.reload _)
      · rename_i advanced hadvanced
        have htime : (advanced.placeOrder host orderId request).currentTime = now :=
          (placeOrder_surroundings advanced orderId request).time.trans (advanceTime_time hadvanced)
        split
        · rename_i error hlate
          rw [advanceTime, if_neg (not_lt.mpr htime.le)] at hlate
          cases hlate
        · rename_i placed hplaced
          exact .inr (.inr ⟨advanced, placed, ⟨hvalid, hnew, hadvanced, hplaced⟩, rfl⟩)

theorem Working.no_order (h : Working host matcher) (hnew : matcher.orderWitnesses.get? orderId = none) :
    matcher.broker.orders.get? orderId = none := by
  rw [h.witnesses] at hnew
  exact Option.map_eq_none_iff.mp hnew

theorem Placed.submissions (hplaced : Placed host matcher orderId request now advanced placed) (h : Working host matcher) (key : String) :
    (placed.orders.get? key).map PaperOrder.submission =
      if orderId = key then some (.submission request now) else (matcher.broker.orders.get? key).map PaperOrder.submission := by
  have hadvance := @keeps_advance host matcher.scopeExecutionId matcher.broker advanced now hplaced.advance
  have hsettle := @keeps_advance host matcher.scopeExecutionId _ placed now hplaced.settle
  have hclock : QueueSound host matcher.scopeExecutionId { matcher.broker with currentTime := now } := h.queue.congr rfl rfl
  have hsame := hadvance.submissions hclock
  have hnew : advanced.orders.get? orderId = none := by
    have hkept := hsame orderId
    rw [h.no_order hplaced.new] at hkept
    exact Option.map_eq_none_iff.mp hkept
  have hqueue := (hadvance.queue hclock).placeOrder hplaced.valid hnew
  have hkept := hsettle.submissions (hqueue.congr rfl rfl) key
  have hplace := @placeOrder_submission host advanced orderId request key
  rw [hkept, hplace, advanceTime_time hplaced.advance]
  split
  · rfl
  · exact hsame key

theorem Placed.working (hplaced : Placed host matcher orderId request now advanced placed) (h : Working host matcher) :
    Working host (placedMatcher host matcher orderId request now placed) := by
  have hadvance := @keeps_advance host matcher.scopeExecutionId matcher.broker advanced now hplaced.advance
  have hsettle := @keeps_advance host matcher.scopeExecutionId _ placed now hplaced.settle
  have hclock : QueueSound host matcher.scopeExecutionId { matcher.broker with currentTime := now } := h.queue.congr rfl rfl
  have hnew : advanced.orders.get? orderId = none := by
    have hkept := hadvance.submissions hclock orderId
    rw [h.no_order hplaced.new] at hkept
    exact Option.map_eq_none_iff.mp hkept
  have hqueue := (hadvance.queue hclock).placeOrder hplaced.valid hnew
  have hplace := @placeOrder_surroundings host advanced orderId request
  refine ⟨h.scope, hsettle.queue (hqueue.congr rfl rfl), fun key => ?_, ?_, ?_, ?_⟩
  · have hkey := hplaced.submissions h key
    have hcomp : (placed.orders.get? key).map (fun order => host.manifestHash order.submission) =
        ((placed.orders.get? key).map PaperOrder.submission).map host.manifestHash := (Option.map_map _ _ _).symm
    simp only [placedMatcher]
    rw [hcomp, hkey, Dict.get?_set]
    split
    · rfl
    · rw [h.witnesses, Option.map_map]
      rfl
  · have hquotes := (hsettle.surroundings.quotes.trans hplace.quotes).trans hadvance.surroundings.quotes
    have hforward := (advanceTime_eq hplaced.advance).1
    simp only [placedMatcher]
    rw [hquotes, advanceTime_time hplaced.settle]
    exact h.quotes.later hforward
  · exact h.frozen.trans_eq ((hsettle.surroundings.frozen.trans hplace.frozen).trans hadvance.surroundings.frozen).symm
  · exact h.nonTrading.trans_eq ((hsettle.surroundings.nonTrading.trans hplace.nonTrading).trans hadvance.surroundings.nonTrading).symm

/-- A quote that is processed: it has passed its checks, its event is new, and it is not older than what is known. -/
structure Processed (matcher : PaperBrokerMatching) (eventId : String) (quote : PaperQuote) (acceptedAt : Int) : Prop where
  checked : checkQuote eventId quote acceptedAt = .ok ()
  forward : matcher.broker.currentTime ≤ acceptedAt
  causal : ∀ previous, matcher.broker.marketSnapshots.get? quote.instrumentCode = some previous → previous.sourceTime ≤ quote.sourceTime

def quoteReasons (matcher : PaperBrokerMatching) (quote : PaperQuote) : List String :=
  if matcher.sameSource quote then [sameSourceNoNewLiquidity] else []

def quotedMatcher (host : PaperHost) (matcher : PaperBrokerMatching) (eventId : String) (quote : PaperQuote) (acceptedAt : Int) :
    PaperBrokerMatching :=
  { matcher with
    broker := (matcher.broker.updateMarketData host matcher.scopeExecutionId eventId (!matcher.sameSource quote) quote acceptedAt).1
    latestQuoteEvents := matcher.latestQuoteEvents.set quote.instrumentCode
      ⟨eventId, host.manifestHash (.quote quote), acceptedAt, quoteReasons matcher quote⟩ }

theorem processQuote_cases (h : Waiting host matcher) (eventId : String) (quote : PaperQuote) (acceptedAt : Int) :
    (∃ error, matcher.processQuote host eventId quote acceptedAt = (matcher, .error error)) ∨
      (∃ reasonCodes, matcher.processQuote host eventId quote acceptedAt = done (matcher.result matcher.broker.orders 0 true none reasonCodes)) ∨
      Processed matcher eventId quote acceptedAt ∧ matcher.processQuote host eventId quote acceptedAt =
        done ((quotedMatcher host matcher eventId quote acceptedAt).result matcher.broker.orders 0 false none (quoteReasons matcher quote)) := by
  unfold processQuote
  split
  · exact .inl ⟨_, rfl⟩
  · rename_i hcheck
    dsimp only
    split
    · split
      · exact .inl ⟨_, rfl⟩
      · rw [h.trades]
        exact .inr (.inl ⟨_, rfl⟩)
    · split
      · exact .inl ⟨_, rfl⟩
      · rename_i hcausal
        obtain ⟨hforward, hprevious⟩ := not_or.mp hcausal
        have hprocessed : Processed matcher eventId quote acceptedAt := by
          refine ⟨hcheck, not_lt.mp hforward, fun previous hfound => ?_⟩
          rw [hfound] at hprevious
          simpa using hprevious
        have hok := @updateMarketData_ok host matcher.scopeExecutionId eventId matcher.broker quote (!matcher.sameSource quote) acceptedAt
        split
        · rename_i error herror
          rw [hok] at herror
          cases herror
        · rw [h.trades]
          exact .inr (.inr ⟨hprocessed, rfl⟩)

theorem Processed.working (hprocessed : Processed matcher eventId quote acceptedAt) (h : Working host matcher) :
    Working host (quotedMatcher host matcher eventId quote acceptedAt) := by
  have hkeeps := @keeps_update host matcher.scopeExecutionId eventId matcher.broker quote (!matcher.sameSource quote) acceptedAt
  have hqueue : QueueSound host matcher.scopeExecutionId (matcher.broker.observe quote acceptedAt) := h.queue.congr rfl rfl
  obtain ⟨hidentity, hrest⟩ := check_bind.mp hprocessed.checked
  obtain ⟨-, hsource⟩ := check_bind.mp hrest
  refine ⟨h.scope, hkeeps.queue hqueue, fun key => ?_, ?_, ?_, ?_⟩
  · have hkey := hkeeps.submissions hqueue key
    have hcomp : ∀ orders : Dict String PaperOrder, (orders.get? key).map (fun order => host.manifestHash order.submission) =
        ((orders.get? key).map PaperOrder.submission).map host.manifestHash := fun orders => (Option.map_map _ _ _).symm
    simp only [quotedMatcher]
    rw [hcomp, hkey, h.witnesses, hcomp]
    rfl
  · simp only [quotedMatcher]
    rw [hkeeps.surroundings.quotes, hkeeps.surroundings.time]
    refine (h.quotes.later hprocessed.forward).set ⟨hidentity, rfl, rfl, ?_, require_eq_ok.mp hsource, le_rfl⟩
    unfold quoteReasons
    split
    · exact .inr rfl
    · exact .inl rfl
  · exact h.frozen.trans_eq hkeeps.surroundings.frozen.symm
  · exact h.nonTrading.trans_eq hkeeps.surroundings.nonTrading.symm

def cancelledMatcher (matcher : PaperBrokerMatching) (advanced : PaperBroker) (orderId : String) : PaperBrokerMatching :=
  { matcher with broker := (advanced.cancelOrder orderId).1 }

theorem cancel_cases (h : Waiting host matcher) (orderId : String) (now : Int) :
    (∃ error, matcher.cancel host orderId now = (matcher, .error error)) ∨
      ∃ advanced, matcher.broker.advanceTime host now = .ok advanced ∧ (∃ order, matcher.broker.orders.get? orderId = some order) ∧
        matcher.cancel host orderId now = done ((cancelledMatcher matcher advanced orderId).result matcher.broker.orders
          (advanced.cancelOrder orderId).1.trades.length (!(advanced.cancelOrder orderId).2) (some orderId) []) := by
  unfold cancel
  split
  · exact .inl ⟨_, rfl⟩
  · split
    · exact .inl ⟨_, rfl⟩
    · rename_i hfound
      split
      · exact .inl (h.reload _)
      · rename_i advanced hadvanced
        exact .inr ⟨advanced, hadvanced, Option.ne_none_iff_exists'.mp (by simpa [Dict.contains] using hfound), rfl⟩

theorem Working.cancel (h : Working host matcher) (hadvance : matcher.broker.advanceTime host now = .ok advanced) (orderId : String) :
    Working host (cancelledMatcher matcher advanced orderId) := by
  have hclock : QueueSound host matcher.scopeExecutionId { matcher.broker with currentTime := now } := h.queue.congr rfl rfl
  have hkeeps := (@keeps_advance host matcher.scopeExecutionId matcher.broker advanced now hadvance).trans (keeps_cancel orderId)
  have hforward := (advanceTime_eq hadvance).1
  refine ⟨h.scope, hkeeps.queue hclock, fun key => ?_, ?_, ?_, ?_⟩
  · have hkey := hkeeps.submissions hclock key
    have hcomp : ∀ orders : Dict String PaperOrder, (orders.get? key).map (fun order => host.manifestHash order.submission) =
        ((orders.get? key).map PaperOrder.submission).map host.manifestHash := fun orders => (Option.map_map _ _ _).symm
    simp only [cancelledMatcher]
    rw [hcomp, hkey, h.witnesses, hcomp]
  · simp only [cancelledMatcher]
    rw [hkeeps.surroundings.quotes, hkeeps.surroundings.time]
    exact h.quotes.later hforward
  · exact h.frozen.trans_eq hkeeps.surroundings.frozen.symm
  · exact h.nonTrading.trans_eq hkeeps.surroundings.nonTrading.symm

/-! ## Every call -/

theorem Waiting.rejected (h : Waiting host matcher) {error : String} (hrejected : (matcher.take host call).2 = .error error) :
    (matcher.take host call).1 = matcher := by
  cases call with
  | place orderId request now =>
    simp only [PaperBrokerMatching.take] at hrejected ⊢
    rcases place_cases h orderId request now with ⟨_, hplace⟩ | hplace | ⟨_, _, -, hplace⟩
    · rw [hplace]
    · rw [hplace] at hrejected
      cases hrejected
    · rw [hplace] at hrejected
      cases hrejected
  | processQuote eventId quote acceptedAt =>
    simp only [PaperBrokerMatching.take] at hrejected ⊢
    rcases processQuote_cases h eventId quote acceptedAt with ⟨_, hprocess⟩ | ⟨_, hprocess⟩ | ⟨-, hprocess⟩
    · rw [hprocess]
    · rw [hprocess] at hrejected
      cases hrejected
    · rw [hprocess] at hrejected
      cases hrejected
  | cancel orderId now =>
    simp only [PaperBrokerMatching.take] at hrejected ⊢
    rcases cancel_cases h orderId now with ⟨_, hcancel⟩ | ⟨_, -, -, hcancel⟩
    · rw [hcancel]
    · rw [hcancel] at hrejected
      cases hrejected

theorem Working.done (h : Working host matcher) {previous : Dict String PaperOrder} {tradeCount : Nat} {duplicate : Bool} {id : Option String}
    {reasonCodes : List String} : Waiting host (PaperBrokerMatching.done (matcher.result previous tradeCount duplicate id reasonCodes)).1 :=
  h.result previous tradeCount duplicate id reasonCodes

theorem Waiting.take (h : Waiting host matcher) (call : PaperCall) : Waiting host (matcher.take host call).1 := by
  cases call with
  | place orderId request now =>
    simp only [PaperBrokerMatching.take]
    rcases place_cases h orderId request now with ⟨_, hplace⟩ | hplace | ⟨_, _, hplaced, hplace⟩
    · rw [hplace]
      exact h
    · rw [hplace]
      exact h.toWorking.done
    · rw [hplace]
      exact (hplaced.working h.toWorking).done
  | processQuote eventId quote acceptedAt =>
    simp only [PaperBrokerMatching.take]
    rcases processQuote_cases h eventId quote acceptedAt with ⟨_, hprocess⟩ | ⟨_, hprocess⟩ | ⟨hprocessed, hprocess⟩
    · rw [hprocess]
      exact h
    · rw [hprocess]
      exact h.toWorking.done
    · rw [hprocess]
      exact (hprocessed.working h.toWorking).done
  | cancel orderId now =>
    simp only [PaperBrokerMatching.take]
    rcases cancel_cases h orderId now with ⟨_, hcancel⟩ | ⟨_, hadvance, -, hcancel⟩
    · rw [hcancel]
      exact h
    · rw [hcancel]
      exact (h.toWorking.cancel hadvance orderId).done

theorem create_waiting {scope : String} {cash nonTradingAssetValue : Rat} {positions : Dict String Holding}
    (h : create host scope cash nonTradingAssetValue positions now = .ok matcher) : Waiting host matcher := by
  unfold create at h
  obtain ⟨hscope, h⟩ := check_bind.mp h
  obtain ⟨-, h⟩ := check_bind.mp h
  obtain ⟨-, h⟩ := check_bind.mp h
  obtain ⟨-, h⟩ := check_bind.mp h
  obtain rfl := Except.ok.inj h
  exact {
    scope := hscope
    queue := ⟨⟨fun key order horder => by simp at horder, List.nodup_nil, fun key order horder => by simp at horder⟩, by simp⟩
    witnesses := fun key => rfl
    quotes := ⟨fun code event hevent => by simp at hevent, fun code quote hquote => by simp at hquote⟩
    frozen := le_rfl
    nonTrading := le_max_left _ _, active := fun key order horder => by simp at horder
    trades := rfl }

end QuantX
