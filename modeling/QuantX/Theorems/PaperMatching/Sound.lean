import QuantX.Brokers.PaperMatching
import QuantX.Theorems.Brokers.Strict

namespace QuantX
open Lib PaperBroker

variable {host : PaperHost} {scope eventId orderId : String} {context : QuoteContext} {broker next : PaperBroker} {book book' : Option StrictBook}
  {order : PaperOrder} {volume : Int} {price : Rat} {quote : PaperQuote}

theorem params_fair (host : PaperHost) : FairFees host.params := by
  constructor <;> norm_num [PaperHost.params]

structure PaperFill (host : PaperHost) (context : QuoteContext) (broker : PaperBroker) (book book' : Option StrictBook) (orderId : String)
    (order : PaperOrder) (volume : Int) (price : Rat) : Prop where
  found : broker.orders.get? orderId = some order
  instrument : order.request.instrumentCode = context.instrumentCode
  fill : consumeStrictBook host.params broker.account (order.request.volume - order.filledVolume) context.marketData order.toOrderResponse book =
    .ok (volume, price, book')
  positive : 0 < volume

def Looked (host : PaperHost) (context : QuoteContext) (broker : PaperBroker) (book book' : Option StrictBook) : Prop :=
  book' = book ∨ ∃ (order : PaperOrder) (volume : Int) (price : Rat), volume ≤ 0 ∧
    consumeStrictBook host.params broker.account (order.request.volume - order.filledVolume) context.marketData order.toOrderResponse book =
      .ok (volume, price, book')

theorem matchPendingOrder_cases (h : broker.matchPendingOrder host scope eventId context book orderId = .ok (next, book')) :
    (next = broker ∧ Looked host context broker book book') ∨
      ∃ order volume price, PaperFill host context broker book book' orderId order volume price ∧
        next = broker.executeTrade host scope eventId order price volume := by
  unfold matchPendingOrder at h
  split at h
  · obtain ⟨rfl, rfl⟩ := Prod.mk.inj (Except.ok.inj h)
    exact .inl ⟨rfl, .inl rfl⟩
  · rename_i order hfound
    split at h
    · obtain ⟨rfl, rfl⟩ := Prod.mk.inj (Except.ok.inj h)
      exact .inl ⟨rfl, .inl rfl⟩
    · rename_i hmatchable
      simp only [not_or, not_not] at hmatchable
      obtain ⟨⟨volume, price, left⟩, hfill, h⟩ := bind_eq_ok.mp h
      dsimp only at h
      split at h
      · rename_i hnothing
        obtain ⟨rfl, rfl⟩ := Prod.mk.inj (Except.ok.inj h)
        exact .inl ⟨rfl, .inr ⟨order, volume, price, hnothing, hfill⟩⟩
      · rename_i hsomething
        obtain ⟨rfl, rfl⟩ := Prod.mk.inj (Except.ok.inj h)
        exact .inr ⟨order, volume, price, ⟨hfound, hmatchable.1, hfill, not_le.mp hsomething⟩, rfl⟩

theorem matchPendingOrder_ok (host : PaperHost) (scope eventId : String) (context : QuoteContext) (broker : PaperBroker)
    (book : Option StrictBook) (orderId : String) :
    ∃ result, broker.matchPendingOrder host scope eventId context book orderId = .ok result := by
  unfold matchPendingOrder
  split
  · exact ⟨_, rfl⟩
  · rename_i order hfound
    split
    · exact ⟨_, rfl⟩
    · obtain ⟨⟨volume, price, left⟩, hfill⟩ := @consumeStrictBook_ok host.params order.toOrderResponse book broker.account
        (order.request.volume - order.filledVolume) context.marketData rfl
      have hmatched : matchedFill host.params context ⟨broker.account, book⟩ order.toOrderResponse = .ok (volume, price, left) := hfill
      rw [hmatched]
      dsimp only [bind, Except.bind]
      split <;> exact ⟨_, rfl⟩

theorem matchPendingOrders_keeps {Inv : PaperBroker → Option StrictBook → Prop} {orderIds : List String}
    (hstep : ∀ broker book orderId next book', orderId ∈ orderIds → Inv broker book →
      broker.matchPendingOrder host scope eventId context book orderId = .ok (next, book') → Inv next book')
    (h : Inv broker book) : ∃ book', Inv (matchPendingOrders host scope eventId context broker book orderIds).1 book' := by
  induction orderIds generalizing broker book with
  | nil => exact ⟨book, h⟩
  | cons orderId orderIds ih =>
    obtain ⟨⟨next, book'⟩, hmatch⟩ := matchPendingOrder_ok host scope eventId context broker book orderId
    rw [matchPendingOrders, hmatch]
    refine ih (fun broker book other next book' hother => ?_) (hstep broker book orderId next book' List.mem_cons_self h hmatch)
    exact hstep broker book other next book' (List.mem_cons_of_mem orderId hother)

theorem matchPendingOrders_ok (host : PaperHost) (scope eventId : String) (context : QuoteContext) (orderIds : List String) :
    (matchPendingOrders host scope eventId context broker book orderIds).2 = none := by
  induction orderIds generalizing broker book with
  | nil => rfl
  | cons orderId orderIds ih =>
    obtain ⟨⟨next, book'⟩, hmatch⟩ := matchPendingOrder_ok host scope eventId context broker book orderId
    rw [matchPendingOrders, hmatch]
    exact ih

theorem updateMarketData_ok (newLiquidity : Bool) (timestamp : Int) :
    (broker.updateMarketData host scope eventId newLiquidity quote timestamp).2 = none := by
  unfold updateMarketData processPendingOrders
  split
  · rfl
  · exact matchPendingOrders_ok host scope eventId _ _

/-! ## The book -/

theorem buildStrictBook_sound (p : BacktestParams) (quote : QuoteSnapshot) : BookSound (some (buildStrictBook p quote)) :=
  quoteBook_sound 0 (some quote)

theorem Looked.given (h : Looked host context broker book book') (hbook : BookSound book) : BookGiven book book' := by
  rcases h with rfl | ⟨order, volume, price, -, hlook⟩
  · exact hbook
  · exact (consumeStrictBook_fill hbook hlook).given

theorem Looked.depth (h : Looked host context broker book book') (hbook : BookSound book) (buys : Bool) :
    bookDepth book' buys ≤ bookDepth book buys := by
  rcases h with rfl | ⟨order, volume, price, -, hlook⟩
  · exact le_rfl
  · have hfill := consumeStrictBook_fill hbook hlook
    by_cases hside : order.request.orderType.isBuy = buys
    · have hdepth := hfill.depth
      have hnonneg := hfill.nonneg
      rw [hside] at hdepth
      omega
    · have hother : (!order.request.orderType.isBuy) = buys := by
        cases hbuy : order.request.orderType.isBuy <;> cases buys <;> simp_all
      rw [← hother]
      exact hfill.other.le

end QuantX

/-! # Orders in order

What every step of the paper broker keeps: each order has passed its checks, has paid its fees and is pending as
long as it is open. Steps change what an order has got, never what was asked for. -/

namespace QuantX
open Lib PaperBroker

variable {host : PaperHost} {scope eventId orderId key : String} {context : QuoteContext} {broker next : PaperBroker} {book book' : Option StrictBook}
  {order order' : PaperOrder} {volume : Int} {price : Rat} {quote : PaperQuote} {request : PaperRequest}

def PaperOrder.submission (order : PaperOrder) : PaperManifest := .submission order.paperRequest order.submitTime

structure PaperOrderSound (host : PaperHost) (scope key : String) (order : PaperOrder) : Prop where
  valid : validateRequest host scope order.paperRequest = .ok ()
  id : order.id = key
  paid : PaidUp host.params order.toOrderResponse
  filled : 0 ≤ order.filledVolume
  mean : 0 ≤ order.avgPrice
  unfinished : order.isOpen = true → order.filledVolume < order.request.volume

theorem PaperOrderSound.close (h : PaperOrderSound host scope key order) (hsubmission : order'.paperRequest = order.paperRequest)
    (hid : order'.id = order.id) (hrequest : order'.request = order.request) (hvolume : order'.filledVolume = order.filledVolume)
    (hamount : order'.filledAmount = order.filledAmount) (hcommission : order'.commission = order.commission)
    (hmean : order'.avgPrice = order.avgPrice) (hclosed : order'.isOpen = false) : PaperOrderSound host scope key order' where
  valid := by
    rw [hsubmission]
    exact h.valid
  id := hid.trans h.id
  paid := ⟨h.paid.amount.trans_eq hamount.symm, by rw [hcommission, hamount, hrequest, h.paid.commission]⟩
  filled := h.filled.trans_eq hvolume.symm
  mean := h.mean.trans_eq hmean.symm
  unfinished hopen := by
    rw [hclosed] at hopen
    cases hopen

structure ValidRequest (host : PaperHost) (scope : String) (request : PaperRequest) : Prop where
  limit : request.priceType = .limit
  volume : 0 < request.volume
  expiry : hasExpiry request.metadata = true

theorem validateRequest_valid (h : validateRequest host scope request = .ok ()) : ValidRequest host scope request := by
  unfold validateRequest at h
  obtain ⟨-, h⟩ := require_bind.mp h
  obtain ⟨-, h⟩ := require_bind.mp h
  obtain ⟨hlimit, h⟩ := require_bind.mp h
  obtain ⟨-, h⟩ := check_bind.mp h
  obtain ⟨-, h⟩ := check_bind.mp h
  obtain ⟨hvolume, h⟩ := require_bind.mp h
  obtain ⟨-, h⟩ := require_bind.mp h
  exact ⟨hlimit, hvolume, require_eq_ok.mp h⟩

/-- The orders of a broker are sound, and no open order is missing from the queue. -/
structure OrdersSound (host : PaperHost) (scope : String) (broker : PaperBroker) : Prop where
  sound : ∀ key order, broker.orders.get? key = some order → PaperOrderSound host scope key order
  unique : broker.pendingOrders.Nodup
  waits : ∀ key order, broker.orders.get? key = some order → order.isOpen = true → key ∈ broker.pendingOrders

structure QueueSound (host : PaperHost) (scope : String) (broker : PaperBroker) : Prop extends OrdersSound host scope broker where
  pending : ∀ key ∈ broker.pendingOrders, ∃ order, broker.orders.get? key = some order ∧ order.isOpen = true

def SameSubmissions (before after : PaperBroker) : Prop :=
  ∀ key, (after.orders.get? key).map PaperOrder.submission = (before.orders.get? key).map PaperOrder.submission

theorem SameSubmissions.refl (broker : PaperBroker) : SameSubmissions broker broker := fun _ => rfl

theorem SameSubmissions.trans {third : PaperBroker} (h : SameSubmissions broker next) (h' : SameSubmissions next third) :
    SameSubmissions broker third := fun key => (h' key).trans (h key)

/-- What a step leaves alone: the money that is not traded with, the quotes and the clock. -/
structure SameSurroundings (before after : PaperBroker) : Prop where
  frozen : after.frozenCash = before.frozenCash
  nonTrading : after.nonTradingAssetValue = before.nonTradingAssetValue
  quotes : after.marketSnapshots = before.marketSnapshots
  time : after.currentTime = before.currentTime

theorem SameSurroundings.trans {third : PaperBroker} (h : SameSurroundings broker next) (h' : SameSurroundings next third) :
    SameSurroundings broker third :=
  ⟨h'.frozen.trans h.frozen, h'.nonTrading.trans h.nonTrading, h'.quotes.trans h.quotes, h'.time.trans h.time⟩

theorem SameSubmissions.set (horders : next.orders = broker.orders.set key order') (hfound : broker.orders.get? key = some order)
    (hsubmission : order'.submission = order.submission) : SameSubmissions broker next := by
  intro other
  rw [horders, Dict.get?_set]
  split
  · rename_i hsame
    rw [← hsame, hfound, Option.map_some, Option.map_some, hsubmission]
  · rfl

theorem PaperFill.strict (h : PaperFill host context broker book book' orderId order volume price) (hbook : BookSound book) :
    StrictFill host.params broker.account order.toOrderResponse (order.request.volume - order.filledVolume) book book' volume price :=
  consumeStrictBook_fill hbook h.fill

theorem fill_isOpen {p : BacktestParams} {order : OrderResponse} (h : (order.fill p price volume).isOpen = true) :
    (order.fill p price volume).filledVolume < (order.fill p price volume).request.volume := by
  by_contra hdone
  have hstatus : (order.fill p price volume).status = .filled := if_pos (not_lt.mp hdone)
  simp [OrderResponse.isOpen, hstatus] at h

theorem PaperOrderSound.fill (h : PaperOrderSound host scope key order)
    (hfill : StrictFill host.params broker.account order.toOrderResponse (order.request.volume - order.filledVolume) book book' volume price)
    (hpositive : 0 < volume) : PaperOrderSound host scope key (broker.filledOrder host order price volume) where
  valid := h.valid
  id := h.id
  paid := h.paid.fill (params_fair host) hfill.worth
  filled := add_nonneg h.filled hpositive.le
  mean := by
    have hfilled := h.filled
    have hmore : (0 : Rat) < ((order.filledVolume + volume : Int) : Rat) := by
      have : 0 < order.filledVolume + volume := by omega
      exact_mod_cast this
    simp only [filledOrder, OrderResponse.fill, if_pos (show 0 < order.filledVolume + volume by omega)]
    exact div_nonneg (add_nonneg h.paid.amount hfill.worth) hmore.le
  unfinished := fill_isOpen

theorem executeTrade_submission (order : PaperOrder) (price : Rat) (volume : Int) (hfound : broker.orders.get? order.id = some order) :
    SameSubmissions broker (broker.executeTrade host scope eventId order price volume) :=
  .set rfl hfound rfl

theorem executeTrade_get? (order : PaperOrder) (price : Rat) (volume : Int) (key : String) :
    (broker.executeTrade host scope eventId order price volume).orders.get? key =
      if order.id = key then some (broker.filledOrder host order price volume) else broker.orders.get? key := Dict.get?_set ..

theorem OrdersSound.fill (h : OrdersSound host scope broker) (hbook : BookSound book) (hpending : orderId ∈ broker.pendingOrders)
    (hfill : PaperFill host context broker book book' orderId order volume price) :
    OrdersSound host scope (broker.executeTrade host scope eventId order price volume) := by
  have hid := (h.sound orderId order hfill.found).id
  refine ⟨fun key other hother => ?_, h.unique, fun key other hother hopen => ?_⟩
  · rw [executeTrade_get?, hid] at hother
    split at hother
    · rename_i hsame
      obtain rfl := Option.some.inj hother
      rw [← hsame]
      exact (h.sound orderId order hfill.found).fill (hfill.strict hbook) hfill.positive
    · exact h.sound key other hother
  · rw [executeTrade_get?, hid] at hother
    split at hother
    · rename_i hsame
      rw [← hsame]
      exact hpending
    · exact h.waits key other hother hopen

/-! ## Steps -/

structure Keeps (host : PaperHost) (scope : String) (before after : PaperBroker) : Prop where
  queue : QueueSound host scope before → QueueSound host scope after
  submissions : QueueSound host scope before → SameSubmissions before after
  surroundings : SameSurroundings before after

theorem Keeps.trans {third : PaperBroker} (h : Keeps host scope broker next) (h' : Keeps host scope next third) : Keeps host scope broker third where
  queue hqueue := h'.queue (h.queue hqueue)
  submissions hqueue := (h.submissions hqueue).trans (h'.submissions (h.queue hqueue))
  surroundings := h.surroundings.trans h'.surroundings

theorem QueueSound.congr (h : QueueSound host scope broker) (horders : next.orders = broker.orders)
    (hpending : next.pendingOrders = broker.pendingOrders) : QueueSound host scope next := by
  obtain ⟨⟨hsound, hunique, hwaits⟩, hqueue⟩ := h
  refine ⟨⟨?_, ?_, ?_⟩, ?_⟩
  · rwa [horders]
  · rwa [hpending]
  · rwa [horders, hpending]
  · rwa [horders, hpending]

theorem Keeps.same (horders : next.orders = broker.orders) (hpending : next.pendingOrders = broker.pendingOrders)
    (hsurroundings : SameSurroundings broker next) : Keeps host scope broker next where
  queue h := h.congr horders hpending
  submissions _ key := by rw [horders]
  surroundings := hsurroundings

theorem keeps_settle (tradingDate : Int) : Keeps host scope broker (broker.settleIfNewDay tradingDate) := by
  unfold settleIfNewDay
  split <;> exact .same rfl rfl ⟨rfl, rfl, rfl, rfl⟩

theorem expirePendingOrders_get? (broker : PaperBroker) (key : String) :
    broker.expirePendingOrders.orders.get? key = (broker.orders.get? key).map fun order =>
      if broker.expires key then
        { order with status := .expired, lastUpdateTime := some broker.currentTime, errorMessage := some "订单超过策略有效期，已按回测规则过期" }
      else order := Dict.get?_mapEntries ..

theorem keeps_expire : Keeps host scope broker broker.expirePendingOrders where
  queue h := by
    refine ⟨⟨fun key order horder => ?_, h.unique.filter _, fun key order horder hopen => ?_⟩, fun key hkey => ?_⟩
    · rw [expirePendingOrders_get?] at horder
      obtain ⟨own, hown, rfl⟩ := Option.map_eq_some_iff.mp horder
      split
      · exact (h.sound key own hown).close rfl rfl rfl rfl rfl rfl rfl rfl
      · exact h.sound key own hown
    · rw [expirePendingOrders_get?] at horder
      obtain ⟨own, hown, rfl⟩ := Option.map_eq_some_iff.mp horder
      split at hopen
      · simp [OrderResponse.isOpen] at hopen
      · rename_i hstays
        exact List.mem_filter.mpr ⟨h.waits key own hown hopen, by simpa using hstays⟩
    · obtain ⟨hwaits, hstays⟩ := List.mem_filter.mp hkey
      obtain ⟨own, hown, hopen⟩ := h.pending key hwaits
      refine ⟨own, ?_, hopen⟩
      simp only [Bool.not_eq_true'] at hstays
      rw [expirePendingOrders_get?, hown, Option.map_some, hstays]
      rfl
  submissions _ key := by
    rw [expirePendingOrders_get?, Option.map_map]
    congr 1
    funext order
    simp only [Function.comp_apply]
    split <;> rfl
  surroundings := ⟨rfl, rfl, rfl, rfl⟩

theorem advanceTime_eq {timestamp : Int} (h : broker.advanceTime host timestamp = .ok next) :
    broker.currentTime ≤ timestamp ∧
      next = ({ broker with currentTime := timestamp }.settleIfNewDay (host.tradingDate timestamp)).expirePendingOrders := by
  unfold advanceTime at h
  split at h
  · cases h
  · rename_i hforward
    exact ⟨not_lt.mp hforward, (Except.ok.inj h).symm⟩

theorem keeps_advance {timestamp : Int} (h : broker.advanceTime host timestamp = .ok next) :
    Keeps host scope { broker with currentTime := timestamp } next := by
  obtain ⟨-, rfl⟩ := advanceTime_eq h
  exact (keeps_settle _).trans keeps_expire

theorem keeps_process (newLiquidity : Bool) : Keeps host scope broker (broker.processPendingOrders host scope eventId newLiquidity quote).1 := by
  unfold processPendingOrders
  split
  · exact .same rfl rfl ⟨rfl, rfl, rfl, rfl⟩
  · dsimp only
    have hloop := fun (hqueue : QueueSound host scope broker) => @matchPendingOrders_keeps host scope eventId
      ⟨quote.instrumentCode, quote.price, some quote.toQuoteSnapshot, some broker.currentTime⟩ broker
      (some (buildStrictBook host.params quote.toQuoteSnapshot))
      (fun next book => OrdersSound host scope next ∧ BookSound book ∧ next.pendingOrders = broker.pendingOrders ∧ SameSubmissions broker next)
      (broker.pendingOrders.filter (broker.eligible host quote))
      (fun current book orderId next book' horder hinv hmatch => by
        obtain ⟨hsound, hbook, hpending, hsame⟩ := hinv
        rcases matchPendingOrder_cases hmatch with ⟨rfl, hlook⟩ | ⟨order, volume, price, hfill, rfl⟩
        · exact ⟨hsound, (hlook.given hbook).sound, hpending, hsame⟩
        · have hwaits : orderId ∈ current.pendingOrders := by
            rw [hpending]
            exact (List.mem_filter.mp horder).1
          have hid := (hsound.sound orderId order hfill.found).id
          refine ⟨hsound.fill hbook hwaits hfill, (hfill.strict hbook).given.sound, hpending, hsame.trans ?_⟩
          exact executeTrade_submission order price volume (hid ▸ hfill.found))
      ⟨hqueue.toOrdersSound, buildStrictBook_sound _ _, rfl, .refl broker⟩
    have hsurroundings := @matchPendingOrders_keeps host scope eventId
      ⟨quote.instrumentCode, quote.price, some quote.toQuoteSnapshot, some broker.currentTime⟩ broker
      (some (buildStrictBook host.params quote.toQuoteSnapshot)) (fun next _ => SameSurroundings broker next)
      (broker.pendingOrders.filter (broker.eligible host quote))
      (fun current book orderId next book' _ hinv hmatch => by
        rcases matchPendingOrder_cases hmatch with ⟨rfl, -⟩ | ⟨order, volume, price, -, rfl⟩
        · exact hinv
        · exact hinv.trans ⟨rfl, rfl, rfl, rfl⟩)
      ⟨rfl, rfl, rfl, rfl⟩
    generalize matchPendingOrders host scope eventId _ broker _ _ = outcome at hloop hsurroundings ⊢
    obtain ⟨matched, error⟩ := outcome
    obtain ⟨-, hsurroundings⟩ := hsurroundings
    refine ⟨fun hqueue => ?_, fun hqueue => ?_, ⟨hsurroundings.frozen, hsurroundings.nonTrading, hsurroundings.quotes, hsurroundings.time⟩⟩
    · obtain ⟨book', hsound, -, hpending, -⟩ := hloop hqueue
      refine ⟨⟨hsound.sound, hsound.unique.filter _, fun key order horder hopen => ?_⟩, fun key hkey => ?_⟩
      · exact List.mem_filter.mpr ⟨hsound.waits key order horder hopen, by
          have hfound : matched.orders.get? key = some order := horder
          rw [hfound]
          exact hopen⟩
      · obtain ⟨-, hopen⟩ := List.mem_filter.mp hkey
        simp only [Option.any_eq_true] at hopen
        obtain ⟨order, horder, hopen⟩ := hopen
        exact ⟨order, horder, hopen⟩
    · obtain ⟨book', -, -, -, hsame⟩ := hloop hqueue
      exact hsame

theorem keeps_update (newLiquidity : Bool) (timestamp : Int) :
    Keeps host scope (broker.observe quote timestamp) (broker.updateMarketData host scope eventId newLiquidity quote timestamp).1 := by
  have hexpire := (@keeps_settle host scope (broker.observe quote timestamp) (host.tradingDate timestamp)).trans keeps_expire
  have hvalue : Keeps host scope (broker.observe quote timestamp) (broker.atQuote host quote timestamp) := hexpire.trans (.same rfl rfl ⟨rfl, rfl, rfl, rfl⟩)
  exact hvalue.trans (keeps_process newLiquidity)

theorem keeps_cancel (orderId : String) : Keeps host scope broker (broker.cancelOrder orderId).1 := by
  unfold cancelOrder
  split
  · exact .same rfl rfl ⟨rfl, rfl, rfl, rfl⟩
  · rename_i order hfound
    split
    · refine ⟨fun h => ⟨⟨fun key other hother => ?_, h.unique.filter _, fun key other hother hopen => ?_⟩, fun key hkey => ?_⟩,
        fun _ => ?_, ⟨rfl, rfl, rfl, rfl⟩⟩
      · rw [Dict.get?_set] at hother
        split at hother
        · rename_i hsame
          obtain rfl := Option.some.inj hother
          rw [← hsame]
          exact (h.sound orderId order hfound).close rfl rfl rfl rfl rfl rfl rfl rfl
        · exact h.sound key other hother
      · rw [Dict.get?_set] at hother
        split at hother
        · obtain rfl := Option.some.inj hother
          simp [OrderResponse.isOpen] at hopen
        · rename_i hother'
          exact List.mem_filter.mpr ⟨h.waits key other hother hopen, by simpa using fun hsame => hother' hsame.symm⟩
      · obtain ⟨hwaits, hother⟩ := List.mem_filter.mp hkey
        obtain ⟨own, hown, hopen⟩ := h.pending key hwaits
        refine ⟨own, ?_, hopen⟩
        rw [Dict.get?_set_ne _ _ fun hsame => by simp [hsame] at hother]
        exact hown
      · exact .set rfl hfound rfl
    · exact .same rfl rfl ⟨rfl, rfl, rfl, rfl⟩

/-! ## Placing -/

def acceptedOrder (broker : PaperBroker) (orderId : String) (request : PaperRequest) (status : OrderStatus) (errorMessage : Option String) :
    PaperOrder :=
  { orderId := 0, request := request.toOrderRequest, status, id := orderId, executionRef := request.executionRef
    environment := request.environment, submitTime := broker.currentTime, errorMessage }

theorem placeOrder_cases (broker : PaperBroker) (orderId : String) (request : PaperRequest) :
    (∃ message, broker.placeOrder host orderId request =
        { broker with orders := broker.orders.set orderId (acceptedOrder broker orderId request .rejected (some message)) }) ∨
      broker.placeOrder host orderId request =
        { broker with
          orders := broker.orders.set orderId (acceptedOrder broker orderId request .submitted none)
          pendingOrders := broker.pendingOrders ++ [orderId] } := by
  unfold placeOrder
  split
  · exact .inl ⟨_, rfl⟩
  · split
    · exact .inl ⟨_, rfl⟩
    · exact .inr rfl

theorem acceptedOrder_sound {status : OrderStatus} {errorMessage : Option String} (hvalid : validateRequest host scope request = .ok ()) :
    PaperOrderSound host scope orderId (acceptedOrder broker orderId request status errorMessage) where
  valid := hvalid
  id := rfl
  paid := ⟨le_rfl, (calculateCosts_zero _ _).symm⟩
  filled := le_rfl
  mean := le_rfl
  unfinished _ := (validateRequest_valid hvalid).volume

theorem QueueSound.placeOrder (h : QueueSound host scope broker) (hvalid : validateRequest host scope request = .ok ())
    (hnew : broker.orders.get? orderId = none) : QueueSound host scope (broker.placeOrder host orderId request) := by
  have hfresh : orderId ∉ broker.pendingOrders := by
    intro hmem
    obtain ⟨order, horder, -⟩ := h.pending orderId hmem
    rw [hnew] at horder
    cases horder
  have hsound : ∀ {status : OrderStatus} {errorMessage : Option String} key order,
      (broker.orders.set orderId (acceptedOrder broker orderId request status errorMessage)).get? key = some order →
        PaperOrderSound host scope key order := by
    intro status errorMessage key order horder
    rw [Dict.get?_set] at horder
    split at horder
    · rename_i hsame
      obtain rfl := Option.some.inj horder
      rw [← hsame]
      exact acceptedOrder_sound hvalid
    · exact h.sound key order horder
  have hkept : ∀ accepted, ∀ key ∈ broker.pendingOrders, ∃ order, (broker.orders.set orderId accepted).get? key = some order ∧
      order.isOpen = true := by
    intro accepted key hkey
    obtain ⟨order, horder, hopen⟩ := h.pending key hkey
    have hother : orderId ≠ key := by
      rintro rfl
      exact hfresh hkey
    exact ⟨order, (Dict.get?_set_ne _ _ hother).trans horder, hopen⟩
  rcases @placeOrder_cases host broker orderId request with ⟨message, hplaced⟩ | hplaced
  · rw [hplaced]
    refine ⟨⟨hsound, h.unique, fun key order horder hopen => ?_⟩, hkept _⟩
    rw [Dict.get?_set] at horder
    split at horder
    · obtain rfl := Option.some.inj horder
      simp [acceptedOrder, OrderResponse.isOpen] at hopen
    · exact h.waits key order horder hopen
  · rw [hplaced]
    refine ⟨⟨hsound, ?_, fun key order horder hopen => ?_⟩, fun key hkey => ?_⟩
    · exact List.nodup_append.mpr ⟨h.unique, List.nodup_singleton orderId, fun key hkey other hother hsame => by
        obtain rfl := List.mem_singleton.mp hother
        exact hfresh (hsame ▸ hkey)⟩
    · rw [Dict.get?_set] at horder
      split at horder
      · rename_i hsame
        simp [hsame]
      · exact List.mem_append_left _ (h.waits key order horder hopen)
    · rcases List.mem_append.mp hkey with hkey | hkey
      · exact hkept _ key hkey
      · obtain rfl := List.mem_singleton.mp hkey
        exact ⟨_, Dict.get?_set_self _ _ _, rfl⟩

theorem placeOrder_submission (broker : PaperBroker) (orderId : String) (request : PaperRequest) (key : String) :
    ((broker.placeOrder host orderId request).orders.get? key).map PaperOrder.submission =
      if orderId = key then some (.submission request broker.currentTime) else (broker.orders.get? key).map PaperOrder.submission := by
  rcases @placeOrder_cases host broker orderId request with ⟨message, hplaced⟩ | hplaced <;>
  · rw [hplaced, Dict.get?_set]
    split <;> rfl

theorem placeOrder_surroundings (broker : PaperBroker) (orderId : String) (request : PaperRequest) :
    SameSurroundings broker (broker.placeOrder host orderId request) := by
  rcases @placeOrder_cases host broker orderId request with ⟨message, hplaced⟩ | hplaced <;>
  · rw [hplaced]
    exact ⟨rfl, rfl, rfl, rfl⟩

end QuantX
