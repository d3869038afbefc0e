import QuantX.Theorems.PaperMatching.Restore

namespace QuantX
open Lib PaperBroker PaperBrokerMatching

variable {host : PaperHost} {scope eventId orderId key : String} {start current next : PaperBroker}
  {book book' : Option StrictBook} {order order' : PaperOrder} {quote : PaperQuote}

def paperVolume (trades : List PaperTrade) (buys : Bool) : Int := tradedVolume (trades.map (·.toTradeRecord)) buys

structure GoodFill (host : PaperHost) (start : PaperBroker) (quote : PaperQuote) (trade : PaperTrade) (order : PaperOrder) : Prop where
  found : start.orders.get? trade.paperOrderId = some order
  pending : trade.paperOrderId ∈ start.pendingOrders
  older : order.submitTime < quote.sourceTime
  sameDay : host.tradingDate quote.sourceTime = host.tradingDate start.currentTime
  within : PriceWithin order.request trade.price

structure Filling (host : PaperHost) (scope : String) (start : PaperBroker) (quote : PaperQuote) (current : PaperBroker)
    (book : Option StrictBook) : Prop where
  sound : OrdersSound host scope current
  given : BookSound book
  queue : current.pendingOrders = start.pendingOrders
  same : SameSubmissions start current
  trades : ∀ trade ∈ current.trades, ∃ order, GoodFill host start quote trade order
  volume : ∀ buys, paperVolume current.trades buys + bookDepth book buys ≤
    bookDepth (some (buildStrictBook host.params quote.toQuoteSnapshot)) buys

theorem submission_request (h : order'.submission = order.submission) : order'.request = order.request ∧ order'.submitTime = order.submitTime := by
  simp only [PaperOrder.submission, PaperOrder.paperRequest, PaperManifest.submission.injEq, PaperRequest.mk.injEq] at h
  exact ⟨h.1.1, h.2⟩

theorem SameSubmissions.found (h : SameSubmissions start current) (horder : current.orders.get? key = some order) :
    ∃ own, start.orders.get? key = some own ∧ own.submission = order.submission := by
  have hkey := h key
  rw [horder, Option.map_some] at hkey
  exact Option.map_eq_some_iff.mp hkey.symm

theorem Filling.step (h : Filling host scope start quote current book) (heligible : orderId ∈ start.pendingOrders.filter (start.eligible host quote))
    (hmatch : current.matchPendingOrder host scope eventId
      ⟨quote.instrumentCode, quote.price, some quote.toQuoteSnapshot, some start.currentTime⟩ book orderId = .ok (next, book')) :
    Filling host scope start quote next book' := by
  rcases matchPendingOrder_cases hmatch with ⟨rfl, hlook⟩ | ⟨order, volume, price, hfill, rfl⟩
  · exact ⟨h.sound, (hlook.given h.given).sound, h.queue, h.same, h.trades, fun buys =>
      (add_le_add_right (hlook.depth h.given buys) _).trans (h.volume buys)⟩
  · obtain ⟨hpending, hnewer⟩ := List.mem_filter.mp heligible
    have hsound := h.sound.sound orderId order hfill.found
    have hstrict := hfill.strict h.given
    obtain ⟨own, hown, hsubmission⟩ := h.same.found hfill.found
    obtain ⟨hrequest, hsubmitted⟩ := submission_request hsubmission
    have hlimit : order.request.priceType = .limit := (validateRequest_valid hsound.valid).limit
    simp only [eligible, hown, Option.any_some, Bool.and_eq_true, decide_eq_true_eq] at hnewer
    refine ⟨h.sound.fill h.given (h.queue ▸ hpending) hfill, hstrict.given.sound, h.queue,
      h.same.trans (executeTrade_submission order price volume (hsound.id ▸ hfill.found)), fun trade htrade => ?_, fun buys => ?_⟩
    · rcases List.mem_append.mp htrade with htrade | htrade
      · exact h.trades trade htrade
      · obtain rfl := List.mem_singleton.mp htrade
        refine ⟨own, ⟨?_, ?_, hnewer.1, hnewer.2, ?_⟩⟩
        · simp only [hsound.id]
          exact hown
        · simp only [hsound.id]
          exact hpending
        · rw [hrequest]
          exact consumeStrictBook_within hlimit hfill.positive hfill.fill
    · have hbefore := h.volume buys
      have htraded : paperVolume (current.executeTrade host scope eventId order price volume).trades buys =
          paperVolume current.trades buys + if order.request.orderType.isBuy = buys then volume else 0 := by
        simp only [paperVolume, PaperBroker.executeTrade, List.map_append, List.map_cons, List.map_nil, tradedVolume_concat]
        rfl
      rw [htraded]
      by_cases hside : order.request.orderType.isBuy = buys
      · have hdepth := hstrict.depth
        rw [hside] at hdepth
        rw [if_pos hside]
        omega
      · have hother : (!order.request.orderType.isBuy) = buys := by
          cases hbuy : order.request.orderType.isBuy <;> cases buys <;> simp_all
        have hdepth := hstrict.other
        rw [hother] at hdepth
        rw [if_neg hside]
        omega

theorem processPendingOrders_filling (hqueue : QueueSound host scope start) (htrades : start.trades = []) (newLiquidity : Bool) :
    (∀ trade ∈ (start.processPendingOrders host scope eventId newLiquidity quote).1.trades, ∃ order, GoodFill host start quote trade order) ∧
      ∀ buys, paperVolume (start.processPendingOrders host scope eventId newLiquidity quote).1.trades buys ≤
        if newLiquidity then bookDepth (some (buildStrictBook host.params quote.toQuoteSnapshot)) buys else 0 := by
  unfold processPendingOrders
  cases newLiquidity with
  | false => simp [htrades, paperVolume, tradedVolume]
  | true =>
    have hstart : Filling host scope start quote start (some (buildStrictBook host.params quote.toQuoteSnapshot)) :=
      ⟨hqueue.toOrdersSound, buildStrictBook_sound _ _, rfl, .refl start, by simp [htrades], fun buys => by
        simp [htrades, paperVolume, tradedVolume]⟩
    obtain ⟨book', hfilling⟩ := @matchPendingOrders_keeps host scope eventId
      ⟨quote.instrumentCode, quote.price, some quote.toQuoteSnapshot, some start.currentTime⟩ start
      (some (buildStrictBook host.params quote.toQuoteSnapshot)) (Filling host scope start quote)
      (start.pendingOrders.filter (start.eligible host quote))
      (fun current book orderId next book' heligible h hmatch => h.step heligible hmatch) hstart
    refine ⟨hfilling.trades, fun buys => ?_⟩
    have hvolume := hfilling.volume buys
    have hdepth : 0 ≤ bookDepth book' buys := by
      cases book' with
      | none => exact le_rfl
      | some book' =>
        refine List.sum_nonneg fun volume hvolume => ?_
        obtain ⟨level, hlevel, rfl⟩ := List.mem_map.mp hvolume
        exact side_nonneg hfilling.given buys level hlevel
    have hle : paperVolume (matchPendingOrders host scope eventId
        ⟨quote.instrumentCode, quote.price, some quote.toQuoteSnapshot, some start.currentTime⟩ start
        (some (buildStrictBook host.params quote.toQuoteSnapshot)) (start.pendingOrders.filter (start.eligible host quote))).1.trades buys ≤
        bookDepth (some (buildStrictBook host.params quote.toQuoteSnapshot)) buys := by omega
    exact hle

end QuantX

namespace QuantX
open Lib PaperBroker PaperBrokerMatching

variable {host : PaperHost} {eventId key : String} {matcher : PaperBrokerMatching}
  {order own : PaperOrder} {quote : PaperQuote} {acceptedAt : Int} {trade : PaperTrade}

def quoteDepth (host : PaperHost) (quote : PaperQuote) (buys : Bool) : Int :=
  ((if buys then quote.askVol else quote.bidVol).map fun volume => (volume * host.params.bookDepthParticipationPct).floor).sum

theorem pyInt_floor {q : Rat} (h : 0 ≤ q) : pyInt q = q.floor := by
  rw [pyInt, Int.tdiv_eq_ediv_of_nonneg (Rat.num_nonneg.mpr h), Rat.floor_def]

theorem strictSide_depth {p : BacktestParams} {prices volumes : List Rat} (hshare : 0 ≤ p.bookDepthParticipationPct)
    (h : validateSide prices volumes = .ok ()) :
    depth (strictSide p prices volumes) = (volumes.map fun volume => (volume * p.bookDepthParticipationPct).floor).sum := by
  obtain ⟨⟨hprices, hvolumes⟩, h⟩ := require_bind.mp h
  obtain ⟨-, h⟩ := check_bind.mp h
  have hlevels : depth (strictSide p prices volumes) = ((((prices.take 5).zip (volumes.take 5)).map Prod.snd).map (scaledVolume p)).sum := by
    rw [strictSide, if_neg (by simp [hprices, hvolumes]), depth, List.map_map, List.map_map]
    rfl
  rw [hlevels, List.map_snd_zip (by simp [hprices, hvolumes]), List.take_of_length_le hvolumes.le]
  congr 1
  refine List.map_congr_left fun volume hvolume => ?_
  have hnonneg := mul_nonneg (require_eq_ok.mp (forM_eq_ok.mp h volume hvolume)) hshare
  rw [scaledVolume, pyInt_floor hnonneg]
  exact max_eq_right (Rat.le_floor_iff.mpr (by simpa using hnonneg))

theorem Processed.depth (h : Processed matcher eventId quote acceptedAt) (buys : Bool) :
    bookDepth (some (buildStrictBook host.params quote.toQuoteSnapshot)) buys = quoteDepth host quote buys := by
  obtain ⟨-, hrest⟩ := check_bind.mp h.checked
  obtain ⟨hquote, -⟩ := check_bind.mp hrest
  unfold validateQuote at hquote
  obtain ⟨-, hquote⟩ := check_bind.mp hquote
  obtain ⟨-, hquote⟩ := check_bind.mp hquote
  obtain ⟨-, hquote⟩ := check_bind.mp hquote
  obtain ⟨-, hquote⟩ := check_bind.mp hquote
  obtain ⟨hbid, hquote⟩ := check_bind.mp hquote
  obtain ⟨hask, -⟩ := check_bind.mp hquote
  have hshare : 0 ≤ host.params.bookDepthParticipationPct := by norm_num [PaperHost.params]
  cases buys with
  | true => exact strictSide_depth hshare hask
  | false => exact strictSide_depth hshare hbid

/-! ## The fills of a call -/

/-- A fill on a quote: the order is older, the quote is accepted on its own day, and the order has not expired. -/
structure CausalFill (host : PaperHost) (matcher : PaperBrokerMatching) (quote : PaperQuote) (acceptedAt : Int) (trade : PaperTrade)
    (order : PaperOrder) : Prop where
  found : matcher.broker.orders.get? trade.paperOrderId = some order
  older : order.submitTime < quote.sourceTime
  sameDay : host.tradingDate quote.sourceTime = host.tradingDate acceptedAt
  within : PriceWithin order.request trade.price
  alive : acceptedAt < 1000 * BacktestBroker.expireAtMs order.request

theorem alive_of_pending {broker : PaperBroker} (hexpiry : hasExpiry order.request.metadata = true) (horder : broker.orders.get? key = some order)
    (hpending : key ∈ broker.expirePendingOrders.pendingOrders) : broker.currentTime < 1000 * BacktestBroker.expireAtMs order.request := by
  obtain ⟨hwaits, hstays⟩ := List.mem_filter.mp hpending
  have hpositive : 0 < BacktestBroker.expireAtMs order.request := by
    unfold hasExpiry at hexpiry
    split at hexpiry
    · rename_i expiry hget
      simp only [decide_eq_true_eq] at hexpiry
      have htruthy : (PyVal.int expiry).truthy = true := by simpa [PyVal.truthy] using hexpiry.ne'
      simpa [BacktestBroker.expireAtMs, hget, PyVal.or, htruthy, PyVal.optionalInt, PyVal.toInt, Except.toOption] using hexpiry
    · cases hexpiry
  have hnot : broker.expires key = false := by simpa using hstays
  simp only [expires, horder, Option.any_some, hwaits, decide_true, Bool.true_and, hpositive, decide_eq_false_iff_not, not_le] at hnot
  by_cases hsign : 0 ≤ broker.currentTime
  · rw [Int.tdiv_eq_ediv_of_nonneg hsign] at hnot
    omega
  · omega

theorem Processed.fills (hprocessed : Processed matcher eventId quote acceptedAt) (h : Waiting host matcher) :
    (∀ trade ∈ (quotedMatcher host matcher eventId quote acceptedAt).broker.trades, ∃ order, CausalFill host matcher quote acceptedAt trade order) ∧
      ∀ buys, paperVolume (quotedMatcher host matcher eventId quote acceptedAt).broker.trades buys ≤
        if matcher.sameSource quote then 0 else quoteDepth host quote buys := by
  have hqueue : QueueSound host matcher.scopeExecutionId (matcher.broker.observe quote acceptedAt) := h.queue.congr rfl rfl
  have hsettle := @keeps_settle host matcher.scopeExecutionId (matcher.broker.observe quote acceptedAt) (host.tradingDate acceptedAt)
  have hsettled := hsettle.queue hqueue
  have hexpire := @keeps_expire host matcher.scopeExecutionId ((matcher.broker.observe quote acceptedAt).settleIfNewDay (host.tradingDate acceptedAt))
  have hvalue : Keeps host matcher.scopeExecutionId _ (matcher.broker.atQuote host quote acceptedAt) :=
    (hsettle.trans hexpire).trans (.same rfl rfl ⟨rfl, rfl, rfl, rfl⟩)
  have htrades : (matcher.broker.atQuote host quote acceptedAt).trades = [] := by
    have hkept : ((matcher.broker.observe quote acceptedAt).settleIfNewDay (host.tradingDate acceptedAt)).trades = matcher.broker.trades := by
      unfold settleIfNewDay
      split <;> rfl
    exact hkept.trans h.trades
  obtain ⟨hfills, hvolume⟩ := @processPendingOrders_filling host matcher.scopeExecutionId eventId _ quote (hvalue.queue hqueue) htrades
    (!matcher.sameSource quote)
  refine ⟨fun trade htrade => ?_, fun buys => ?_⟩
  · obtain ⟨order, hgood⟩ := hfills trade htrade
    obtain ⟨own, hown, hsubmission⟩ := SameSubmissions.found (hvalue.submissions hqueue) hgood.found
    obtain ⟨hrequest, hsubmitted⟩ := submission_request hsubmission
    obtain ⟨sold, hsold, hsubmission'⟩ := SameSubmissions.found (hexpire.submissions hsettled) hgood.found
    obtain ⟨hrequest', -⟩ := submission_request hsubmission'
    have hexpiry : hasExpiry sold.request.metadata = true := (validateRequest_valid (hsettled.sound _ _ hsold).valid).expiry
    have halive := alive_of_pending hexpiry hsold hgood.pending
    have htime : (matcher.broker.atQuote host quote acceptedAt).currentTime = acceptedAt := hvalue.surroundings.time
    refine ⟨own, hown, hsubmitted ▸ hgood.older, ?_, hrequest ▸ hgood.within, ?_⟩
    · rw [← htime]
      exact hgood.sameDay
    · rw [hsettle.surroundings.time, hrequest'] at halive
      rw [hrequest]
      exact halive
  · have hle := hvolume buys
    rw [hprocessed.depth] at hle
    cases hsame : matcher.sameSource quote with
    | true =>
      simp only [hsame, Bool.not_true, Bool.false_eq_true, if_false] at hle
      simp only [quotedMatcher, hsame, Bool.not_true, if_true]
      exact hle
    | false =>
      simp only [hsame, Bool.not_false, if_true] at hle
      simp only [quotedMatcher, hsame, Bool.not_false, Bool.false_eq_true, if_false]
      exact hle

end QuantX
