import QuantX.Theorems.Brokers.Account
import QuantX.Theorems.Brokers.Quote

/-! # Strict replays

With a strict book and deferred orders only quotes trade, each with orders that were queued before it. -/

namespace QuantX
open Lib

variable {p : BacktestParams} {start broker : BacktestBroker} {order : OrderResponse}

def BacktestBroker.after (p : BacktestParams) (broker : BacktestBroker) (events : List BrokerEvent) : BacktestBroker :=
  events.foldl (BacktestBroker.handle p) broker

structure Fresh (broker : BacktestBroker) : Prop where
  orders : broker.orders = []
  trades : broker.trades = []
  held : AllHeld broker.positions

structure StrictAccounting (p : BacktestParams) (start broker : BacktestBroker) : Prop where
  account : Accounted start.toBrokerAccount broker.toBrokerAccount
  sound : ∀ order ∈ broker.orders, OrderSound p order
  ids : broker.orders.map (·.orderId) = List.range broker.orders.length

theorem StrictAccounting.fresh (h : Fresh start) : StrictAccounting p start start where
  account := .fresh h.trades h.held
  sound := by simp [h.orders]
  ids := by simp [h.orders]

theorem StrictAccounting.unique (h : StrictAccounting p start broker) {order order' : OrderResponse} (hmem : order ∈ broker.orders)
    (hmem' : order' ∈ broker.orders) (hid : order.orderId = order'.orderId) : order = order' :=
  List.inj_on_of_nodup_map (h.ids ▸ List.nodup_range) hmem hmem' hid

theorem StrictAccounting.settleIfNewDay (h : StrictAccounting p start broker) (tradingDate : Int) :
    StrictAccounting p start (broker.settleIfNewDay tradingDate) := by
  unfold BacktestBroker.settleIfNewDay
  split
  · exact h
  · exact ⟨⟨h.account.toAccountBooked.settle rfl rfl rfl, h.account.solvent⟩, h.sound, h.ids⟩

theorem StrictAccounting.leave {broker' : BacktestBroker} (h : StrictAccounting p start broker) (leave : OrderResponse → OrderResponse)
    (hleave : ∀ order, Leaves order (leave order)) (haccount : broker'.toBrokerAccount = broker.toBrokerAccount)
    (horders : broker'.orders = broker.orders.map leave) : StrictAccounting p start broker' where
  account := by
    rw [haccount]
    exact h.account
  sound order hmem := by
    rw [horders] at hmem
    obtain ⟨own, hown, rfl⟩ := List.mem_map.mp hmem
    rcases (hleave own).stays with hstays | ⟨hrequest, hvolume, hamount, hcommission, hqueued⟩
    · rw [hstays]
      exact h.sound own hown
    · exact (h.sound own hown).leave hrequest hvolume hamount hcommission hqueued
  ids := by
    have hsame : (fun order => (leave order).orderId) = OrderResponse.orderId := funext fun order => (hleave order).orderId
    rw [horders, List.map_map, Function.comp_def, hsame, List.length_map]
    exact h.ids

theorem StrictAccounting.expirePendingOrders (h : StrictAccounting p start broker) (now : Int) :
    StrictAccounting p start (broker.expirePendingOrders now) := by
  refine h.leave _ ?_ rfl rfl
  exact fun order => .of_if ⟨rfl, .inr ⟨rfl, rfl, rfl, rfl, rfl⟩⟩

theorem StrictAccounting.cancelOrder (h : StrictAccounting p start broker) (orderId : Nat) :
    StrictAccounting p start (broker.cancelOrder orderId).1 := by
  refine h.leave _ ?_ rfl rfl
  exact fun order => .of_if ⟨rfl, .inr ⟨rfl, rfl, rfl, rfl, rfl⟩⟩

theorem placeOrder_deferred (broker : BacktestBroker) (hdefer : p.deferNewOrders = true) (request : OrderRequest) :
    ∃ order, broker.placeOrder p request = { broker with orders := broker.orders ++ [order] } ∧ order.orderId = broker.orders.length ∧
      order.request = request ∧ order.filledVolume = 0 ∧ order.filledAmount = 0 ∧ order.commission = 0 ∧ order.status ≠ .cancelled := by
  unfold BacktestBroker.placeOrder
  split
  · exact ⟨_, rfl, rfl, rfl, rfl, rfl, rfl, by simp⟩
  · split
    · exact ⟨_, rfl, rfl, rfl, rfl, rfl, rfl, by simp⟩
    · rw [if_neg (by simp [hdefer])]
      exact ⟨_, rfl, rfl, rfl, rfl, rfl, rfl, by simp⟩

theorem StrictAccounting.placeOrder (hdefer : p.deferNewOrders = true) (h : StrictAccounting p start broker) (request : OrderRequest) :
    StrictAccounting p start (broker.placeOrder p request) := by
  obtain ⟨order, hplaced, hid, -, hvolume, hamount, hcommission, hstatus⟩ := placeOrder_deferred broker hdefer request
  rw [hplaced]
  refine ⟨h.account, fun order' hmem => ?_, ?_⟩
  · rcases List.mem_append.mp hmem with hmem | hmem
    · exact h.sound order' hmem
    · obtain rfl := List.mem_singleton.mp hmem
      exact .unfilled hvolume hamount hcommission fun _ => hstatus
  · rw [List.map_append, h.ids, List.map_singleton, hid, List.length_append, List.length_singleton, List.range_succ]

theorem strictSide_nonneg (prices volumes : List Rat) : ∀ level ∈ strictSide p prices volumes, 0 ≤ level.volume := by
  unfold strictSide
  split
  · simp
  · intro level hmem
    obtain ⟨own, -, rfl⟩ := List.mem_map.mp hmem
    exact le_max_left _ _

theorem quoteBook_sound (price : Rat) (marketData : Option QuoteSnapshot) : BookSound (some (quoteBook p price marketData)) :=
  .some ⟨.refl (strictSide_nonneg _ _), .refl (strictSide_nonneg _ _)⟩

theorem StrictAccounting.atQuote (h : StrictAccounting p start broker) (code : String) (price : Rat) (time : Int)
    (marketData : Option QuoteSnapshot) : StrictAccounting p start (broker.atQuote p code price time marketData) := by
  refine StrictAccounting.expirePendingOrders (StrictAccounting.settleIfNewDay ?_ _) _
  exact ⟨h.account, h.sound, h.ids⟩

theorem StrictAccounting.matched (hstrict : p.strictBookDepth = true) (hfees : FairFees p) (h : StrictAccounting p start broker)
    (code : String) (price : Rat) (time : Int) (marketData : Option QuoteSnapshot) :
    Matched p start.toBrokerAccount (broker.atQuote p code price time marketData).orders (broker.found p code price time marketData)
      (broker.matched p code price time marketData).1 ((broker.matched p code price time marketData).2.1.map Prod.fst) := by
  have hquote := h.atQuote code price time marketData
  have hfound : Matched p start.toBrokerAccount (broker.atQuote p code price time marketData).orders (broker.found p code price time marketData)
      (broker.found p code price time marketData) ([] ++ (broker.atQuote p code price time marketData).orders) :=
    .fresh hquote.account hquote.sound (found_strict hstrict ▸ quoteBook_sound price marketData)
  refine @matchOrders_keeps p (quoteContext code price time marketData) (broker.found p code price time marketData)
    (broker.atQuote p code price time marketData).orders []
    (Matched p start.toBrokerAccount (broker.atQuote p code price time marketData).orders (broker.found p code price time marketData)) ?_ hfound
  intro matching first order rest next order' done hbefore horder
  exact hbefore.step hstrict hfees horder

theorem StrictAccounting.updateMarketData (hstrict : p.strictBookDepth = true) (hfees : FairFees p) (h : StrictAccounting p start broker)
    (code : String) (price : Rat) (time : Int) (marketData : Option QuoteSnapshot) :
    StrictAccounting p start (broker.updateMarketData p code price time marketData).1 := by
  have hmatched := h.matched hstrict hfees code price time marketData
  have hids := (h.atQuote code price time marketData).ids
  have hfilled : StrictAccounting p start { broker.atQuote p code price time marketData with
      toBrokerAccount := (broker.matched p code price time marketData).1.account
      orders := (broker.matched p code price time marketData).2.1.map Prod.fst } := by
    have hlength : (broker.atQuote p code price time marketData).orders.length =
        ((broker.matched p code price time marketData).2.1.map Prod.fst).length := by simpa using (congrArg List.length hmatched.ids).symm
    exact ⟨hmatched.account, hmatched.sound, hmatched.ids.trans (hids.trans (congrArg List.range hlength))⟩
  rw [updateMarketData_matched]
  refine ⟨hfilled.account, fun order hmem => ?_, ?_⟩
  · obtain ⟨⟨own, done⟩, hown, rfl⟩ := List.mem_map.mp hmem
    have hsound := hmatched.sound own (List.mem_map_of_mem (f := Prod.fst) hown)
    split
    · exact hsound.leave rfl rfl rfl rfl rfl
    · exact hsound
  · have hown := hfilled.ids
    simp only [List.map_map, List.length_map] at hown ⊢
    rw [← hown]
    refine List.map_congr_left fun result hmem => ?_
    simp only [Function.comp_apply]
    split <;> rfl

/-! ## Events -/

theorem StrictAccounting.handle (hstrict : p.strictBookDepth = true) (hdefer : p.deferNewOrders = true) (hfees : FairFees p)
    (h : StrictAccounting p start broker) (event : BrokerEvent) : StrictAccounting p start (broker.handle p event) := by
  cases event with
  | placeOrder request => exact h.placeOrder hdefer request
  | cancelOrder orderId => exact h.cancelOrder orderId
  | updateMarketData code price time marketData => exact h.updateMarketData hstrict hfees code price time marketData
  | advanceTime time =>
    simp only [BacktestBroker.handle, BacktestBroker.advanceTime]
    split
    · exact h
    · refine StrictAccounting.expirePendingOrders (StrictAccounting.settleIfNewDay ?_ _) _
      exact ⟨h.account, h.sound, h.ids⟩

theorem StrictAccounting.after (hstrict : p.strictBookDepth = true) (hdefer : p.deferNewOrders = true) (hfees : FairFees p)
    (h : StrictAccounting p start broker) (events : List BrokerEvent) : StrictAccounting p start (broker.after p events) := by
  induction events generalizing broker with
  | nil => exact h
  | cons event events ih => exact ih (h.handle hstrict hdefer hfees event)

structure StrictQuote (p : BacktestParams) (broker : BacktestBroker) (code : String) (price : Rat) (time : Int)
    (marketData : Option QuoteSnapshot) : Prop where
  delivers : ∀ visit ∈ visits p (quoteContext code price time marketData) (broker.found p code price time marketData)
      (broker.atQuote p code price time marketData).orders,
    ∀ volume price' book, Fills p (quoteContext code price time marketData) visit.1 visit.2 volume price' book →
      visit.2.request.orderType.isBuy = false → volume ≤ visit.1.account.availableVolume visit.2.request.instrumentCode
  given : BookGiven (some (quoteBook p price marketData)) (broker.matched p code price time marketData).1.book
  taken : ∃ new, (broker.updateMarketData p code price time marketData).1.trades = broker.trades ++ new ∧
    (∀ trade ∈ new, OfQueue broker.orders trade) ∧
    ∀ buys, bookDepth (some (quoteBook p price marketData)) buys - bookDepth (broker.matched p code price time marketData).1.book buys =
      tradedVolume new buys

theorem StrictAccounting.quote (hstrict : p.strictBookDepth = true) (hfees : FairFees p) (h : StrictAccounting p start broker)
    (code : String) (price : Rat) (time : Int) (marketData : Option QuoteSnapshot) : StrictQuote p broker code price time marketData where
  delivers visit hvisit volume price' book hfills hsell := by
    have hquote := h.atQuote code price time marketData
    have hfound : Matched p start.toBrokerAccount (broker.atQuote p code price time marketData).orders (broker.found p code price time marketData)
        (broker.found p code price time marketData) ([] ++ (broker.atQuote p code price time marketData).orders) :=
      .fresh hquote.account hquote.sound (found_strict hstrict ▸ quoteBook_sound price marketData)
    obtain ⟨before, after, hmatched⟩ := @visits_find p (quoteContext code price time marketData) (broker.found p code price time marketData)
      (broker.atQuote p code price time marketData).orders []
      (Matched p start.toBrokerAccount (broker.atQuote p code price time marketData).orders (broker.found p code price time marketData))
      (fun matching first order rest next order' done hbefore horder => hbefore.step hstrict hfees horder) hfound visit hvisit
    have hdelivers := (matchedFill_strict hstrict hmatched.given.sound hfills.fill).delivers hsell
    have hpositive := hfills.positive
    omega
  given := found_strict hstrict ▸ (h.matched hstrict hfees code price time marketData).given
  taken := by
    obtain ⟨new, htrades, hofQueue, hdepth⟩ := (h.matched hstrict hfees code price time marketData).trades
    rw [found_strict hstrict] at hdepth
    refine ⟨new, ?_, fun trade htrade => ?_, hdepth⟩
    · have hbefore : (broker.atQuote p code price time marketData).trades = broker.trades := turn_trades (p.tradingDate time) time
      rw [updateMarketData_matched]
      exact htrades.trans (congrArg (· ++ new) hbefore)
    · obtain ⟨order, hmem, hid, hqueued⟩ := hofQueue trade htrade
      exact ⟨order, atQuote_queued hmem hqueued, hid, hqueued⟩

def BrokerEvent.isQuote : BrokerEvent → Bool
  | .updateMarketData .. => true
  | _ => false

theorem handle_trades (hstrict : p.strictBookDepth = true) (hdefer : p.deferNewOrders = true) (hfees : FairFees p)
    (h : StrictAccounting p start broker) (event : BrokerEvent) :
    ∃ new, (broker.handle p event).trades = broker.trades ++ new ∧ (event.isQuote = false → new = []) ∧
      ∀ trade ∈ new, OfQueue broker.orders trade := by
  cases event with
  | placeOrder request =>
    obtain ⟨order, hplaced, -⟩ := placeOrder_deferred broker hdefer request
    refine ⟨[], ?_, fun _ => rfl, by simp⟩
    rw [BacktestBroker.handle, hplaced, List.append_nil]
  | cancelOrder orderId => exact ⟨[], (List.append_nil _).symm, fun _ => rfl, by simp⟩
  | updateMarketData code price time marketData =>
    obtain ⟨new, htrades, hofQueue, -⟩ := (h.quote hstrict hfees code price time marketData).taken
    exact ⟨new, htrades, fun hquote => absurd hquote (by simp [BrokerEvent.isQuote]), hofQueue⟩
  | advanceTime time =>
    refine ⟨[], ?_, fun _ => rfl, by simp⟩
    simp only [BacktestBroker.handle, BacktestBroker.advanceTime, List.append_nil]
    split
    · rfl
    · exact turn_trades _ _

def BacktestBroker.tradesOf (broker : BacktestBroker) (orderId : Nat) : List TradeRecord := broker.trades.filter (·.orderId = orderId)

theorem updateMarketData_idle (hstrict : p.strictBookDepth = true) (hfees : FairFees p) (h : StrictAccounting p start broker)
    (hmem : order ∈ broker.orders) (hidle : order.queued = false) (code : String) (price : Rat) (time : Int)
    (marketData : Option QuoteSnapshot) : order ∈ (broker.updateMarketData p code price time marketData).1.orders := by
  have hquote : order ∈ (broker.atQuote p code price time marketData).orders := by
    refine turn_idle ?_ hidle (p.tradingDate time) time
    exact hmem
  have hstays := (h.matched hstrict hfees code price time marketData).idle order hquote hidle
  obtain ⟨⟨own, done⟩, hown, rfl⟩ := List.mem_map.mp hstays
  rw [updateMarketData_matched]
  refine List.mem_map.mpr ⟨(own, done), hown, ?_⟩
  split
  · rw [← hidle]
  · rfl

theorem handle_cancelled (hstrict : p.strictBookDepth = true) (hdefer : p.deferNewOrders = true) (hfees : FairFees p)
    (h : StrictAccounting p start broker) (hmem : order ∈ broker.orders) (hcancelled : order.status = .cancelled) (event : BrokerEvent) :
    order ∈ (broker.handle p event).orders ∧ (broker.handle p event).tradesOf order.orderId = broker.tradesOf order.orderId := by
  have hidle : order.queued = false := by
    rw [← Bool.not_eq_true]
    exact fun hqueued => (h.sound order hmem).waits hqueued hcancelled
  refine ⟨?_, ?_⟩
  · cases event with
    | placeOrder request =>
      obtain ⟨placed, hplaced, -⟩ := placeOrder_deferred broker hdefer request
      rw [BacktestBroker.handle, hplaced]
      exact List.mem_append_left _ hmem
    | cancelOrder orderId => exact List.mem_map.mpr ⟨order, hmem, if_neg (by simp [OrderResponse.isOpen, hcancelled])⟩
    | updateMarketData code price time marketData => exact updateMarketData_idle hstrict hfees h hmem hidle code price time marketData
    | advanceTime time =>
      simp only [BacktestBroker.handle, BacktestBroker.advanceTime]
      split
      · exact hmem
      · refine turn_idle ?_ hidle (p.tradingDate time) time
        exact hmem
  · obtain ⟨new, htrades, -, hofQueue⟩ := handle_trades hstrict hdefer hfees h event
    have hnone : new.filter (·.orderId = order.orderId) = [] := by
      refine List.filter_eq_nil_iff.mpr fun trade htrade hid => ?_
      obtain ⟨other, hother, hother_id, hqueued⟩ := hofQueue trade htrade
      obtain rfl := h.unique hmem hother ((of_decide_eq_true hid).symm.trans hother_id.symm)
      rw [hidle] at hqueued
      cases hqueued
    rw [BacktestBroker.tradesOf, htrades, List.filter_append, hnone, List.append_nil, BacktestBroker.tradesOf]

theorem after_cancelled (hstrict : p.strictBookDepth = true) (hdefer : p.deferNewOrders = true) (hfees : FairFees p)
    (h : StrictAccounting p start broker) (hmem : order ∈ broker.orders) (hcancelled : order.status = .cancelled) (later : List BrokerEvent) :
    order ∈ (broker.after p later).orders ∧ (broker.after p later).tradesOf order.orderId = broker.tradesOf order.orderId := by
  induction later generalizing broker with
  | nil => exact ⟨hmem, rfl⟩
  | cons event later ih =>
    obtain ⟨hstays, htrades⟩ := handle_cancelled hstrict hdefer hfees h hmem hcancelled event
    obtain ⟨hlast, hsame⟩ := ih (h.handle hstrict hdefer hfees event) hstays
    exact ⟨hlast, hsame.trans htrades⟩

/-- The books of every strict replay, what each quote does, that only quotes trade, and that a cancelled order is done
    with. -/
theorem strict_replay (hstrict : p.strictBookDepth = true) (hdefer : p.deferNewOrders = true) (hfees : FairFees p) (hstart : Fresh start)
    (events : List BrokerEvent) :
    StrictAccounting p start (start.after p events) ∧ (∀ code, 0 ≤ (start.after p events).longVolume code) ∧
      (∀ code price time marketData, StrictQuote p (start.after p events) code price time marketData) ∧
      (∀ event, ∃ new, ((start.after p events).handle p event).trades = (start.after p events).trades ++ new ∧
        (event.isQuote = false → new = []) ∧ ∀ trade ∈ new, OfQueue (start.after p events).orders trade) ∧
      ∀ order ∈ (start.after p events).orders, order.status = .cancelled → ∀ later,
        order ∈ ((start.after p events).after p later).orders ∧
          ((start.after p events).after p later).tradesOf order.orderId = (start.after p events).tradesOf order.orderId := by
  have h : StrictAccounting p start (start.after p events) := (StrictAccounting.fresh hstart).after hstrict hdefer hfees events
  refine ⟨h, h.account.longVolume_nonneg, ?_, ?_, ?_⟩
  · exact fun code price time marketData => h.quote hstrict hfees code price time marketData
  · exact fun event => handle_trades hstrict hdefer hfees h event
  · exact fun order hmem hcancelled later => after_cancelled hstrict hdefer hfees h hmem hcancelled later

def replayParams (transferFeeRate : Rat) : BacktestParams :=
  { strictBookDepth := true, deferNewOrders := true, transferFeeRate, tradingDate := fun _ => 0,
    slippage_nonneg := noSlippage_nonneg, slippage_lt_one := noSlippage_lt_one }

def replayStart : BacktestBroker :=
  { cash := 0, positions := Dict.ofList [("600000.SH", { longVolume := 100, availableVolume := 100 })] }

/-- A limit sell of `volume` shares, and a quote whose best bid takes it. -/
def replaySell (volume : Int) : List BrokerEvent :=
  [.placeOrder { instrumentCode := "600000.SH", orderType := .sell, priceType := .limit, volume, price := 10 },
    .updateMarketData "600000.SH" 10 0
      (some { price := 10, bidPrice := [10, 9, 8, 7, 6], bidVol := [400, 400, 400, 400, 400] })]

theorem replayStart_fresh : Fresh replayStart where
  orders := rfl
  trades := rfl
  held code position hget := by
    simp only [replayStart, Dict.ofList, Dict.update, List.foldl_cons, List.foldl_nil, Dict.get?_set] at hget
    split at hget
    · obtain rfl := Option.some.inj hget
      exact ⟨by decide, by decide, by decide, by decide⟩
    · cases hget

theorem strict_replay_sells : ((replayStart.after (replayParams 0) (replaySell 100)).trades.map (·.volume)) = [100] ∧
    StrictAccounting (replayParams 0) replayStart (replayStart.after (replayParams 0) (replaySell 100)) :=
  ⟨by decide +kernel, (strict_replay rfl rfl ⟨by decide +kernel, by decide +kernel, by decide +kernel, by decide +kernel⟩ replayStart_fresh
    (replaySell 100)).1⟩

/-- A request for less than nothing is rejected with more filled than it asks for; and where a fee is a gain, an order
    does not pay the costs of its amount. -/
theorem strict_replay_unguarded :
    (¬ ∀ order ∈ (replayStart.after (replayParams 0) (replaySell (-1))).orders, order.filledVolume ≤ order.request.volume) ∧
      ¬ ∀ order ∈ (replayStart.after (replayParams (-1)) (replaySell 100)).orders,
        order.commission = (calculateCosts (replayParams (-1)) order.filledAmount order.request.orderType).total := by
  decide +kernel

end QuantX
