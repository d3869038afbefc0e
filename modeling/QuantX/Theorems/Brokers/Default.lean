import QuantX.Theorems.Brokers.Reserved
import QuantX.Lib.Run

namespace QuantX
open Lib

variable {p : BacktestParams} {start account : BrokerAccount} {broker : BacktestBroker} {order order' : OrderResponse} {trade : TradeRecord}
  {orders first rest queue : List OrderResponse} {code : String} {volume : Int} {day : Option Int} {time : Int} {matching next : Matching}
  {context : QuoteContext} {done : Bool} {marketData : Option QuoteSnapshot} {request : OrderRequest}

/-! ## The queue and its cover -/

def buysQueued (orders : List OrderResponse) : Prop := ∃ order ∈ orders, order.queued = true ∧ order.request.orderType.isBuy = true

structure Backed (p : BacktestParams) (account : BrokerAccount) (orders : List OrderResponse) : Prop where
  paid : ∀ order ∈ orders, order.queued = true → PaidUp p order ∧ 0 ≤ order.request.price
  sells : ∀ code, (orders.map (sellNeed code)).sum ≤ account.longVolume code - account.todayBuyVolume code
  buys : buysQueued orders → (orders.map (buyNeed p)).sum ≤ account.cash

theorem sum_middle {M : Type} [AddCommMonoid M] (f : OrderResponse → M) (first : List OrderResponse) (order : OrderResponse)
    (rest : List OrderResponse) : ((first ++ order :: rest).map f).sum = f order + ((first ++ rest).map f).sum := by
  simp only [List.map_append, List.map_cons, List.sum_append, List.sum_cons]
  exact add_left_comm _ _ _

theorem needs_nonneg (p : BacktestParams) (orders : List OrderResponse) : 0 ≤ (orders.map (buyNeed p)).sum :=
  List.sum_nonneg fun _ hmem => by
    obtain ⟨order, -, rfl⟩ := List.mem_map.mp hmem
    exact buyNeed_nonneg p order

theorem sellNeeds_nonneg (code : String) (orders : List OrderResponse) : 0 ≤ (orders.map (sellNeed code)).sum :=
  List.sum_nonneg fun _ hmem => by
    obtain ⟨order, -, rfl⟩ := List.mem_map.mp hmem
    exact sellNeed_nonneg code order

theorem book_sellable (h : AllHeld account.positions) (hdeliver : Deliverable account trade) (code : String) :
    (account.book trade).longVolume code - (account.book trade).todayBuyVolume code = account.longVolume code - account.todayBuyVolume code -
      if trade.instrumentCode = code ∧ trade.tradeType.isBuy = false then trade.volume else 0 := by
  rw [book_longVolume h hdeliver, book_todayBuyVolume h hdeliver, TradeRecord.volumeFlow]
  by_cases hcode : trade.instrumentCode = code
  · cases hside : trade.tradeType.isBuy
    · simp only [hcode, if_true, Bool.false_eq_true, if_false, and_false, and_true]
      ring
    · simp only [hcode, if_true, and_true, Bool.true_eq_false, and_false, if_false]
      ring
  · simp only [hcode, if_false, false_and]
    ring

theorem Backed.fill (h : Backed p account (first ++ order :: rest)) (hheld : AllHeld account.positions) (hfees : FairFees p)
    (hqueued : order.queued = true) (hpositive : 0 < volume) (hremaining : volume ≤ order.request.volume - order.filledVolume)
    (htrade : trade = tradeRecord p order order.request.price volume (some time))
    (hcovers : order.request.orderType.isBuy = false → buysQueued (first ++ order :: rest) → 0 ≤ trade.cashFlow) :
    Deliverable account trade ∧ (trade.tradeType.isBuy = true → 0 ≤ account.cash + trade.cashFlow) ∧
      Backed p (account.book trade) (first ++ order.fill p order.request.price volume :: rest) := by
  obtain ⟨hpaid, hsells, hbuys⟩ := h
  have hmem : order ∈ first ++ order :: rest := List.mem_append_right first List.mem_cons_self
  obtain ⟨hown, hprice⟩ := hpaid order hmem hqueued
  have hside : trade.tradeType = order.request.orderType := by rw [htrade, tradeRecord]
  have hcode : trade.instrumentCode = order.request.instrumentCode := by rw [htrade, tradeRecord]
  have hvolume : trade.volume = volume := by rw [htrade, tradeRecord]
  have hdeliver : Deliverable account trade := by
    refine ⟨hvolume ▸ hpositive, fun hsell => ?_⟩
    have hsum := hsells order.request.instrumentCode
    have hrest := sellNeeds_nonneg order.request.instrumentCode (first ++ rest)
    have hneed : sellNeed order.request.instrumentCode order = max 0 (order.request.volume - order.filledVolume) :=
      if_pos (by simpa [hqueued] using hside ▸ hsell)
    rw [sum_middle, hneed] at hsum
    rw [hvolume, hcode]
    omega
  have hneeds : ((first ++ order.fill p order.request.price volume :: rest).map (buyNeed p)).sum =
      ((first ++ order :: rest).map (buyNeed p)).sum + if order.request.orderType.isBuy then trade.cashFlow else 0 := by
    rw [sum_middle, sum_middle, buyNeed_fill hown hfees hqueued hprice hpositive hremaining time, htrade]
    exact add_right_comm _ _ _
  refine ⟨hdeliver, fun hbuy => ?_, fun order' hmem' hqueued' => ?_, fun code => ?_, fun hqueue => ?_⟩
  · have hbuys := hbuys ⟨order, hmem, hqueued, hside ▸ hbuy⟩
    have hleft := needs_nonneg p (first ++ order.fill p order.request.price volume :: rest)
    rw [hneeds, if_pos (hside ▸ hbuy)] at hleft
    linarith
  · rcases List.mem_append.mp hmem' with hfirst | hrest
    · exact hpaid order' (List.mem_append_left _ hfirst) hqueued'
    · rcases List.mem_cons.mp hrest with rfl | hrest
      · exact ⟨hown.fill hfees (mul_nonneg hprice (by exact_mod_cast hpositive.le)), hprice⟩
      · exact hpaid order' (List.mem_append_right first (List.mem_cons_of_mem order hrest)) hqueued'
  · have hsum := hsells code
    rw [sum_middle] at hsum
    rw [sum_middle, sellNeed_fill hqueued hpositive hremaining, book_sellable hheld hdeliver, hcode, hside, hvolume]
    omega
  · have hbefore : buysQueued (first ++ order :: rest) := by
      obtain ⟨order', hmem', hqueued', hbuy'⟩ := hqueue
      rcases List.mem_append.mp hmem' with hfirst | hrest
      · exact ⟨order', List.mem_append_left _ hfirst, hqueued', hbuy'⟩
      · rcases List.mem_cons.mp hrest with rfl | hrest
        · exact ⟨order, hmem, hqueued, hbuy'⟩
        · exact ⟨order', List.mem_append_right first (List.mem_cons_of_mem order hrest), hqueued', hbuy'⟩
    have hbuys := hbuys hbefore
    rw [hneeds, book_cash]
    by_cases hbuy : order.request.orderType.isBuy = true
    · rw [if_pos hbuy]
      exact add_le_add_left hbuys _
    · rw [if_neg hbuy, add_zero]
      exact hbuys.trans (le_add_of_nonneg_right (hcovers (by simpa using hbuy) hbefore))

def requests (orders : List OrderResponse) : List (Nat × OrderRequest) := orders.map fun order => (order.orderId, order.request)

def isLimit (orders : List OrderResponse) (orderId : Nat) : Prop :=
  ∃ placed ∈ requests orders, placed.1 = orderId ∧ placed.2.priceType = .limit

def LimitBuysPaid (start account : BrokerAccount) (orders : List OrderResponse) : Prop :=
  ∀ before trade after, account.trades = before ++ trade :: after → trade.tradeType.isBuy = true → isLimit orders trade.orderId →
    0 ≤ start.cash + ((before ++ [trade]).map (·.cashFlow)).sum

theorem LimitBuysPaid.book (h : LimitBuysPaid start account orders) (hcash : account.cash = start.cash + (account.trades.map (·.cashFlow)).sum)
    (hpays : trade.tradeType.isBuy = true → isLimit orders trade.orderId → 0 ≤ account.cash + trade.cashFlow) :
    LimitBuysPaid start (account.book trade) orders := by
  intro before trade' after hsplit hbuy hlimit
  rw [book_trades] at hsplit
  rcases split_concat hsplit with ⟨rfl, rfl⟩ | ⟨after, hsplit⟩
  · have hpays := hpays hbuy hlimit
    rw [hcash] at hpays
    rwa [List.map_append, List.sum_append, List.map_singleton, List.sum_singleton, ← add_assoc]
  · exact h before trade' after hsplit hbuy hlimit

def Named (account : BrokerAccount) (count : Nat) : Prop := ∀ trade ∈ account.trades, trade.orderId < count

theorem LimitBuysPaid.placed (h : LimitBuysPaid start account orders) (hnamed : Named account orders.length)
    (hid : order.orderId = orders.length) : LimitBuysPaid start account (orders ++ [order]) := by
  rintro before trade after hsplit hbuy ⟨placed, hmem, hnumber, hlimit⟩
  refine h before trade after hsplit hbuy ⟨placed, ?_, hnumber, hlimit⟩
  rw [requests, List.map_append] at hmem
  rcases List.mem_append.mp hmem with hmem | hmem
  · exact hmem
  · have hless := hnamed trade (hsplit ▸ List.mem_append_right before List.mem_cons_self)
    obtain rfl := List.mem_singleton.mp hmem
    have hnumber : order.orderId = trade.orderId := hnumber
    omega

theorem ite_le_bound {c : Prop} [Decidable c] {a b x : Int} (ha : a ≤ x) (hb : b ≤ x) : (if c then a else b) ≤ x := by
  split
  · exact ha
  · exact hb

theorem determineFillVolume_le (p : BacktestParams) (volume : Int) (marketData : Option QuoteSnapshot) (request : OrderRequest) :
    determineFillVolume p volume marketData request ≤ max 0 volume := by
  have hzero : (0 : Int) ≤ max 0 volume := le_max_left _ _
  have hvolume : volume ≤ max 0 volume := le_max_right _ _
  have hcapped : ∀ depth, max 0 (min volume depth) ≤ max 0 volume := fun depth => max_le_max_left 0 (min_le_left volume depth)
  refine ite_le_bound hzero ?_
  cases marketData with
  | none => exact hvolume
  | some quote =>
    refine ite_le_bound (hcapped _) ?_
    cases quote.volume with
    | none => exact hvolume
    | some traded => exact ite_le_bound hvolume (ite_le_bound hzero (hcapped _))

def CoversFees (p : BacktestParams) (marketData : Option QuoteSnapshot) (order : OrderResponse) : Prop :=
  0 ≤ (tradeRecord p order order.request.price (determineFillVolume p (order.request.volume - order.filledVolume) marketData order.request)
    none).cashFlow

structure Traded (p : BacktestParams) (day : Option Int) (start : BrokerAccount) (queue : List OrderResponse) (matching : Matching)
    (visited left : List OrderResponse) : Prop where
  ledger : Ledgered p day start matching.account
  backed : Backed p matching.account (visited ++ left)
  paid : LimitBuysPaid start matching.account queue
  named : Named matching.account queue.length
  same : requests (visited ++ left) = requests queue
  buys : buysQueued (visited ++ left) → buysQueued queue
  left : ∀ order ∈ left, order ∈ queue

theorem Traded.step (hstrict : p.strictBookDepth = false) (hfees : FairFees p) (htime : context.time = some time)
    (hday : day = some (p.tradingDate time)) (hids : queue.map (·.orderId) = List.range queue.length)
    (hcovers : ∀ order ∈ queue, matchable p context order = true → order.request.orderType.isBuy = false → buysQueued queue →
      CoversFees p context.marketData order)
    (h : Traded p day start queue matching first (order :: rest)) (horder : matchOrder p context matching order = .ok (next, order', done)) :
    Traded p day start queue next (first ++ [order']) rest := by
  obtain ⟨hledger, hbacked, hpaid, hnamed, hsame, hbuys, hleft⟩ := h
  have hmem := hleft order List.mem_cons_self
  have hrest : ∀ order ∈ rest, order ∈ queue := fun order' hmem' => hleft order' (List.mem_cons_of_mem order hmem')
  rcases matchOrder_cases horder with ⟨rfl, rfl, haccount, -⟩ | ⟨volume, price, hfills, hbooked, rfl, rfl⟩
  · rw [List.append_cons] at hbacked hsame hbuys
    exact ⟨haccount ▸ hledger, haccount ▸ hbacked, haccount ▸ hpaid, haccount ▸ hnamed, hsame, hbuys, hrest⟩
  · obtain ⟨hmatchable, hfill, hpositive⟩ := hfills
    have hqueued := (matchable_queued hmatchable).1
    rw [matchedFill, if_neg (by simp [hstrict])] at hfill
    obtain ⟨hvolume, hprice, -⟩ := Prod.mk.inj (Except.ok.inj hfill) |>.imp_right Prod.mk.inj
    subst hprice
    have hremaining : volume ≤ order.request.volume - order.filledVolume := by
      have hle := determineFillVolume_le p (order.request.volume - order.filledVolume) context.marketData order.request
      omega
    rw [htime] at hbooked
    obtain ⟨hdeliver, hpays, hnext⟩ := hbacked.fill hledger.held hfees hqueued hpositive hremaining rfl fun hsell hqueue => by
      have hcovers := hcovers order hmem hmatchable hsell (hbuys hqueue)
      rw [CoversFees, hvolume] at hcovers
      exact hcovers
    refine ⟨?_, ?_, ?_, ?_, ?_, ?_, hrest⟩
    · rw [hbooked]
      exact hledger.book hdeliver rfl hday
    · rw [hbooked, List.append_assoc]
      exact hnext
    · rw [hbooked]
      exact hpaid.book hledger.cash fun hbuy _ => hpays hbuy
    · rw [hbooked]
      intro trade htrade
      rw [book_trades] at htrade
      rcases List.mem_append.mp htrade with htrade | htrade
      · exact hnamed trade htrade
      · obtain rfl := List.mem_singleton.mp htrade
        have hid : order.orderId ∈ queue.map (·.orderId) := List.mem_map_of_mem hmem
        rw [hids] at hid
        exact List.mem_range.mp hid
    · rw [← hsame]
      simp [requests]
    · rintro ⟨order', hmem', hqueued', hbuy'⟩
      rw [List.append_assoc] at hmem'
      rcases List.mem_append.mp hmem' with hfirst | hrest'
      · exact hbuys ⟨order', List.mem_append_left _ hfirst, hqueued', hbuy'⟩
      · rcases List.mem_cons.mp hrest' with rfl | hrest'
        · exact ⟨order, hmem, hqueued, hbuy'⟩
        · exact ⟨order', hrest order' hrest', hqueued', hbuy'⟩

structure QueueCovered (p : BacktestParams) (start broker : BacktestBroker) : Prop where
  ledger : Ledgered p broker.currentTradingDate start.toBrokerAccount broker.toBrokerAccount
  backed : Backed p broker.toBrokerAccount broker.orders
  paid : LimitBuysPaid start.toBrokerAccount broker.toBrokerAccount broker.orders
  named : Named broker.toBrokerAccount broker.orders.length
  ids : broker.orders.map (·.orderId) = List.range broker.orders.length
  clock : ∀ time, broker.currentTime = some time → broker.currentTradingDate = some (p.tradingDate time)
  priced : broker.currentTime = none → ∀ code, broker.currentPrices.getD code 0 = 0

structure Opening (broker : BacktestBroker) : Prop where
  orders : broker.orders = []
  trades : broker.trades = []
  held : AllHeld broker.positions
  time : broker.currentTime = none
  prices : broker.currentPrices = Dict.empty

theorem QueueCovered.opening {broker : BacktestBroker} (h : Opening broker) : QueueCovered p broker broker where
  ledger := {
    toAccountBooked := .fresh h.trades h.held
    today := fun code => by
      rw [h.trades]
      exact (h.held.getD code).today
    dated := by simp [h.trades] }
  backed := {
    paid := by simp [h.orders]
    sells := fun code => by
      obtain ⟨havailable, -, -, hwithin⟩ := h.held.getD code
      rw [h.orders, List.map_nil, List.sum_nil, BrokerAccount.longVolume, BrokerAccount.todayBuyVolume]
      omega
    buys := by simp [buysQueued, h.orders] }
  paid before trade after hsplit := by simp [h.trades] at hsplit
  named := by simp [Named, h.trades]
  ids := by simp [h.orders]
  clock time htime := by simp [h.time] at htime
  priced _ code := by simp [h.prices, Dict.getD]

section Leave
variable {ι : Type} {items : List ι} {own left : ι → OrderResponse}

theorem Backed.leave (h : Backed p account (items.map own)) (hleave : ∀ item, Leaves (own item) (left item)) :
    Backed p account (items.map left) where
  paid order hmem hqueued := by
    obtain ⟨item, hitem, rfl⟩ := List.mem_map.mp hmem
    rcases (hleave item).stays with hstays | ⟨-, -, -, -, hout⟩
    · rw [hstays] at hqueued ⊢
      exact h.paid _ (List.mem_map_of_mem hitem) hqueued
    · rw [hout] at hqueued
      cases hqueued
  sells code := by
    refine le_trans ?_ (h.sells code)
    rw [List.map_map, List.map_map]
    refine List.sum_le_sum fun item _ => ?_
    rw [Function.comp_apply, Function.comp_apply]
    rcases (hleave item).stays with hstays | ⟨-, -, -, -, hout⟩
    · rw [hstays]
    · rw [sellNeed_idle hout]
      exact sellNeed_nonneg code _
  buys hqueue := by
    have hbefore : buysQueued (items.map own) := by
      obtain ⟨order, hmem, hqueued, hbuy⟩ := hqueue
      obtain ⟨item, hitem, rfl⟩ := List.mem_map.mp hmem
      rcases (hleave item).stays with hstays | ⟨-, -, -, -, hout⟩
      · rw [hstays] at hqueued hbuy
        exact ⟨_, List.mem_map_of_mem hitem, hqueued, hbuy⟩
      · rw [hout] at hqueued
        cases hqueued
    refine le_trans ?_ (h.buys hbefore)
    rw [List.map_map, List.map_map]
    refine List.sum_le_sum fun item _ => ?_
    rw [Function.comp_apply, Function.comp_apply]
    rcases (hleave item).stays with hstays | ⟨-, -, -, -, hout⟩
    · rw [hstays]
    · rw [buyNeed_idle hout]
      exact buyNeed_nonneg p _

theorem requests_leave (hleave : ∀ item, Leaves (own item) (left item)) : requests (items.map left) = requests (items.map own) := by
  rw [requests, requests, List.map_map, List.map_map]
  refine List.map_congr_left fun item _ => ?_
  rw [Function.comp_apply, Function.comp_apply, (hleave item).orderId]
  rcases (hleave item).stays with hstays | ⟨hrequest, -⟩
  · rw [hstays]
  · rw [hrequest]

theorem LimitBuysPaid.congr {orders' : List OrderResponse} (h : LimitBuysPaid start account orders) (hsame : requests orders' = requests orders) :
    LimitBuysPaid start account orders' := by
  rintro before trade after hsplit hbuy ⟨placed, hmem, hplaced⟩
  exact h before trade after hsplit hbuy ⟨placed, hsame ▸ hmem, hplaced⟩

theorem requests_ids (orders : List OrderResponse) : (requests orders).map Prod.fst = orders.map (·.orderId) := by
  rw [requests, List.map_map]
  rfl

theorem requests_length (orders : List OrderResponse) : (requests orders).length = orders.length := List.length_map _

theorem QueueCovered.leave {start broker' : BacktestBroker} (h : QueueCovered p start broker) (horders : broker.orders = items.map own)
    (hleave : ∀ item, Leaves (own item) (left item)) (hsame : broker' = { broker with orders := items.map left }) : QueueCovered p start broker' := by
  subst hsame
  obtain ⟨hledger, hbacked, hpaid, hnamed, hids, hclock, hpriced⟩ := h
  have hrequests : requests (items.map left) = requests broker.orders := by rw [horders, requests_leave hleave]
  have hlength : (items.map left).length = broker.orders.length := by rw [← requests_length, hrequests, requests_length]
  refine ⟨hledger, ?_, hpaid.congr hrequests, ?_, ?_, hclock, hpriced⟩
  · rw [horders] at hbacked
    exact hbacked.leave hleave
  · rw [Named, hlength]
    exact hnamed
  · rw [← requests_ids, hrequests, requests_ids, hids, hlength]

end Leave

theorem settled_of_dated (hdated : ∀ trade ∈ account.trades, ∃ time date, trade.tradeTime = some time ∧ day = some date ∧ p.tradingDate time ≤ date)
    {date : Int} (hlater : ∀ day', day = some day' → day' ≤ date) (hnew : day ≠ some date) (code : String) :
    account.trades.filter (freshBuy p (some date) code ·) = [] := by
  refine List.filter_eq_nil_iff.mpr fun trade hmem hfresh => ?_
  obtain ⟨time, day', htime, hday, hle⟩ := hdated trade hmem
  obtain ⟨-, hbuy, hunsettled⟩ := of_decide_eq_true hfresh
  have hne : day' ≠ date := fun hsame => hnew (hsame ▸ hday)
  have hless : p.tradingDate time < date := lt_of_le_of_lt hle (lt_of_le_of_ne (hlater day' hday) hne)
  simp [settledBuy, hbuy, htime, hless] at hunsettled

theorem Ledgered.settle (h : Ledgered p day start account) {account' : BrokerAccount} {date : Int} (hlater : ∀ day', day = some day' → day' ≤ date)
    (hnew : day ≠ some date) (hcash : account'.cash = account.cash) (htrades : account'.trades = account.trades)
    (hpositions : account'.positions = account.positions.map fun position =>
      { position with availableVolume := max 0 (position.longVolume - position.frozenVolume), todayBuyVolume := 0 }) :
    Ledgered p (some date) start account' where
  toAccountBooked := h.toAccountBooked.settle hcash htrades hpositions
  today code := by
    rw [htrades, settled_of_dated h.dated hlater hnew]
    exact ((h.toAccountBooked.settle hcash htrades hpositions).held.getD code).today
  dated trade hmem := by
    rw [htrades] at hmem
    obtain ⟨time, day', htime, hday, hle⟩ := h.dated trade hmem
    exact ⟨time, date, htime, rfl, hle.trans (hlater day' hday)⟩

theorem Backed.settle (h : Backed p account orders) (hheld : AllHeld account.positions) {account' : BrokerAccount}
    (hcash : account'.cash = account.cash)
    (hpositions : account'.positions = account.positions.map fun position =>
      { position with availableVolume := max 0 (position.longVolume - position.frozenVolume), todayBuyVolume := 0 }) :
    Backed p account' orders where
  paid := h.paid
  sells code := by
    have hsum := h.sells code
    have htoday := (hheld.getD code).today
    rw [BrokerAccount.longVolume, BrokerAccount.todayBuyVolume] at hsum ⊢
    rw [hpositions, Dict.getD, Dict.get?_map]
    rw [Dict.getD] at hsum htoday
    cases hown : account.positions.get? code with
    | none =>
      rw [hown] at hsum
      exact hsum
    | some own =>
      rw [hown] at hsum htoday
      simp only [Option.getD_some, Option.map_some] at hsum htoday ⊢
      omega
  buys hqueue := by
    rw [hcash]
    exact h.buys hqueue

theorem QueueCovered.turn {start broker' : BacktestBroker} (h : QueueCovered p start broker) (haccount : broker'.toBrokerAccount = broker.toBrokerAccount)
    (horders : broker'.orders = broker.orders) (hdate : broker'.currentTradingDate = broker.currentTradingDate)
    (htime : broker'.currentTime = some time) (hlater : ∀ day, broker.currentTradingDate = some day → day ≤ p.tradingDate time) :
    QueueCovered p start ((broker'.settleIfNewDay (p.tradingDate time)).expirePendingOrders time) := by
  have hsettled : QueueCovered p start (broker'.settleIfNewDay (p.tradingDate time)) := by
    obtain ⟨hledger, hbacked, hpaid, hnamed, hids, -, -⟩ := h
    rw [← horders] at hbacked hpaid hnamed hids
    rw [← haccount] at hbacked hpaid hnamed hledger
    rw [← hdate] at hledger hlater
    unfold BacktestBroker.settleIfNewDay
    split
    · rename_i hsame
      refine ⟨hledger, hbacked, hpaid, hnamed, hids, fun time' htime' => ?_, fun hnone => ?_⟩
      · obtain rfl := Option.some.inj (htime.symm.trans htime')
        exact hsame
      · rw [htime] at hnone
        cases hnone
    · rename_i hnew
      refine ⟨hledger.settle hlater hnew rfl rfl rfl, hbacked.settle hledger.held rfl rfl, hpaid, hnamed, hids, fun time' htime' => ?_, fun hnone => ?_⟩
      · obtain rfl := Option.some.inj (htime.symm.trans htime')
        rfl
      · rw [show broker'.currentTime = none from hnone] at htime
        cases htime
  refine hsettled.leave (List.map_id _).symm ?_ rfl
  exact fun order => .of_if ⟨rfl, .inr ⟨rfl, rfl, rfl, rfl, rfl⟩⟩

theorem QueueCovered.updateMarketData {start : BacktestBroker} {price : Rat} (hstrict : p.strictBookDepth = false) (hfees : FairFees p)
    (h : QueueCovered p start broker) (hlater : ∀ day, broker.currentTradingDate = some day → day ≤ p.tradingDate time)
    (hcovers : ∀ order ∈ (broker.atQuote p code price time marketData).orders,
      matchable p (quoteContext code price time marketData) order = true → order.request.orderType.isBuy = false →
      buysQueued (broker.atQuote p code price time marketData).orders → CoversFees p (quoteContext code price time marketData).marketData order) :
    QueueCovered p start (broker.updateMarketData p code price time marketData).1 := by
  have hquote : QueueCovered p start (broker.atQuote p code price time marketData) := h.turn rfl rfl rfl rfl hlater
  have htime : (broker.atQuote p code price time marketData).currentTime = some time := by
    simp only [BacktestBroker.atQuote, BacktestBroker.expirePendingOrders, BacktestBroker.settleIfNewDay]
    split <;> rfl
  obtain ⟨visited, left, hsplit, hledger, hbacked, hpaid, hnamed, hsame, -, -⟩ :=
    @matchOrders_advances p (quoteContext code price time marketData) (broker.found p code price time marketData)
      (broker.atQuote p code price time marketData).orders []
      (Traded p (broker.atQuote p code price time marketData).currentTradingDate start.toBrokerAccount
        (broker.atQuote p code price time marketData).orders)
      (fun matching first order rest next order' done hbefore horder =>
        hbefore.step hstrict hfees rfl (hquote.clock time htime) hquote.ids hcovers horder)
      ⟨hquote.ledger, hquote.backed, hquote.paid, hquote.named, rfl, id, fun _ hmem => hmem⟩
  rw [← hsplit] at hbacked hsame
  have hlength : ((broker.matched p code price time marketData).2.1.map Prod.fst).length =
      (broker.atQuote p code price time marketData).orders.length := by
    have hrequests := congrArg List.length hsame
    rwa [requests_length, requests_length] at hrequests
  have hmatched : QueueCovered p start { broker.atQuote p code price time marketData with
      toBrokerAccount := (broker.matched p code price time marketData).1.account
      orders := (broker.matched p code price time marketData).2.1.map Prod.fst } := by
    refine ⟨hledger, hbacked, hpaid.congr hsame, ?_, ?_, hquote.clock, hquote.priced⟩
    · exact fun trade htrade => (hnamed trade htrade).trans_eq hlength.symm
    · have hids := congrArg (List.map Prod.fst) hsame
      rw [requests_ids, requests_ids, hquote.ids, ← hlength] at hids
      exact hids
  rw [updateMarketData_matched]
  refine hmatched.leave rfl (fun matched => ?_) rfl
  exact .of_if ⟨rfl, .inr ⟨rfl, rfl, rfl, rfl, rfl⟩⟩

/-! ## Placing -/

/-- The price at which an order is dealt: a market order at once, any other at its limit. -/
def BacktestBroker.dealPrice (p : BacktestParams) (broker : BacktestBroker) (request : OrderRequest) : Rat :=
  if request.priceType = .market then BacktestBroker.marketPrice p request (broker.currentPrices.getD request.instrumentCode 0)
  else request.price

/-- A request leaves the queue its needs: a sell, or a buy next to queued ones, passes at its price the check of a
    deferring broker, and a market sell next to queued buys pays its fees. -/
structure Uncommitted (p : BacktestParams) (broker : BacktestBroker) (request : OrderRequest) : Prop where
  reserved : request.orderType.isBuy = false ∨ buysQueued broker.orders →
    broker.validateOrder { p with deferNewOrders := true } { request with price := broker.dealPrice p request } = true
  fees : request.priceType = .market → request.orderType.isBuy = false → buysQueued broker.orders →
    (calculateCosts p (broker.dealPrice p request * request.volume) request.orderType).total ≤ broker.dealPrice p request * request.volume

theorem Uncommitted.sell (h : Uncommitted p broker request) (hheld : AllHeld broker.positions) (hsell : request.orderType.isBuy = false) :
    (broker.orders.map (sellNeed request.instrumentCode)).sum + request.volume ≤
      broker.longVolume request.instrumentCode - broker.todayBuyVolume request.instrumentCode := by
  have hvalid := h.reserved (.inl hsell)
  simp only [BacktestBroker.validateOrder, hsell, Bool.false_eq_true, if_false, if_true] at hvalid
  cases hown : broker.positions.get? request.instrumentCode with
  | none =>
    rw [hown] at hvalid
    cases hvalid
  | some own =>
    rw [hown] at hvalid
    have hle := of_decide_eq_true hvalid
    have hwithin := (hheld _ own hown).within
    rw [reservedPendingSellVolume_eq] at hle
    rw [BrokerAccount.longVolume, BrokerAccount.todayBuyVolume, Dict.getD, hown, Option.getD_some]
    omega

theorem Uncommitted.buy (h : Uncommitted p broker request) (hbuy : request.orderType.isBuy = true) (hqueue : buysQueued broker.orders) :
    request.volume * broker.dealPrice p request + (calculateCosts p (request.volume * broker.dealPrice p request) request.orderType).total ≤
      broker.cash - (broker.orders.map (buyNeed p)).sum := by
  have hvalid := h.reserved (.inr hqueue)
  simp only [BacktestBroker.validateOrder, hbuy, if_true] at hvalid
  rw [← reservedPendingBuyCash_eq]
  exact of_decide_eq_true hvalid

theorem buysQueued_concat : buysQueued (orders ++ [order]) ↔ buysQueued orders ∨ order.queued = true ∧ order.request.orderType.isBuy = true := by
  simp only [buysQueued, List.mem_append, List.mem_singleton]
  constructor
  · rintro ⟨order', hmem | rfl, hqueued, hbuy⟩
    · exact .inl ⟨order', hmem, hqueued, hbuy⟩
    · exact .inr ⟨hqueued, hbuy⟩
  · rintro (⟨order', hmem, hqueued, hbuy⟩ | ⟨hqueued, hbuy⟩)
    · exact ⟨order', .inl hmem, hqueued, hbuy⟩
    · exact ⟨order, .inr rfl, hqueued, hbuy⟩

theorem sum_concat {M : Type} [AddMonoid M] (f : OrderResponse → M) (orders : List OrderResponse) (order : OrderResponse) :
    ((orders ++ [order]).map f).sum = (orders.map f).sum + f order := by
  rw [List.map_append, List.sum_append, List.map_singleton, List.sum_singleton]

theorem Backed.placed (h : Backed p account orders) (hpaid : order.queued = true → PaidUp p order ∧ 0 ≤ order.request.price)
    (hsells : ∀ code, (orders.map (sellNeed code)).sum + sellNeed code order ≤ account.longVolume code - account.todayBuyVolume code)
    (hbuys : buysQueued orders ∨ order.queued = true ∧ order.request.orderType.isBuy = true →
      (orders.map (buyNeed p)).sum + buyNeed p order ≤ account.cash) : Backed p account (orders ++ [order]) where
  paid order' hmem hqueued := by
    rcases List.mem_append.mp hmem with hmem | hmem
    · exact h.paid order' hmem hqueued
    · obtain rfl := List.mem_singleton.mp hmem
      exact hpaid hqueued
  sells code := by
    rw [sum_concat]
    exact hsells code
  buys hqueue := by
    rw [sum_concat]
    exact hbuys (buysQueued_concat.mp hqueue)

theorem Backed.idle (h : Backed p account orders) (hidle : order.queued = false) : Backed p account (orders ++ [order]) := by
  refine h.placed (fun hqueued => ?_) (fun code => ?_) fun hqueue => ?_
  · rw [hidle] at hqueued
    cases hqueued
  · rw [sellNeed_idle hidle, add_zero]
    exact h.sells code
  · rw [buyNeed_idle hidle, add_zero]
    refine h.buys (hqueue.resolve_right fun hqueued => ?_)
    rw [hidle] at hqueued
    cases hqueued.1

theorem QueueCovered.placed {start : BacktestBroker} (h : QueueCovered p start broker) (hid : order.orderId = broker.orders.length)
    (hbacked : Backed p broker.toBrokerAccount (broker.orders ++ [order])) :
    QueueCovered p start { broker with orders := broker.orders ++ [order] } := by
  obtain ⟨hledger, -, hpaid, hnamed, hids, hclock, hpriced⟩ := h
  refine ⟨hledger, hbacked, hpaid.placed hnamed hid, fun trade htrade => ?_, ?_, hclock, hpriced⟩
  · rw [List.length_append]
    exact Nat.lt_add_right _ (hnamed trade htrade)
  · rw [List.map_append, hids, List.map_singleton, hid, List.length_append, List.length_singleton, List.range_succ]

def placedOrder (broker : BacktestBroker) (request : OrderRequest) (status : OrderStatus) (queued : Bool) : OrderResponse :=
  { orderId := broker.orders.length, request, status, queued }

theorem placedOrder_paid (status : OrderStatus) (queued : Bool) : PaidUp p (placedOrder broker request status queued) :=
  ⟨le_rfl, (calculateCosts_zero p _).symm⟩

theorem QueueCovered.enqueue {start : BacktestBroker} (h : QueueCovered p start broker) (hdefer : p.deferNewOrders = false) (hfees : FairFees p)
    (hprice : 0 ≤ request.price) (hvolume : 0 < request.volume) (hvalid : broker.validateOrder p request = true)
    (huncommitted : Uncommitted p broker request) (hlimit : request.priceType ≠ .market) :
    QueueCovered p start { broker with orders := broker.orders ++ [placedOrder broker request .submitted true] } := by
  have hdeal : broker.dealPrice p request = request.price := if_neg hlimit
  refine h.placed rfl (h.backed.placed (fun _ => ⟨placedOrder_paid _ _, hprice⟩) (fun code => ?_) fun hqueue => ?_)
  · by_cases hsell : request.instrumentCode = code ∧ request.orderType.isBuy = false
    · obtain ⟨rfl, hsell⟩ := hsell
      have hneed : sellNeed request.instrumentCode (placedOrder broker request .submitted true) = max 0 (request.volume - 0) :=
        if_pos (by simp [placedOrder, hsell])
      rw [hneed, sub_zero, max_eq_right hvolume.le]
      exact huncommitted.sell h.ledger.held hsell
    · have hnone : sellNeed code (placedOrder broker request .submitted true) = 0 := by
        refine if_neg fun hneed => hsell ?_
        simp only [placedOrder, Bool.and_eq_true, Bool.not_eq_true', true_and] at hneed
        exact ⟨of_decide_eq_true hneed.1, hneed.2⟩
      rw [hnone, add_zero]
      exact h.backed.sells code
  · by_cases hbuy : request.orderType.isBuy = true
    · have hamount : (0 : Rat) ≤ request.volume * request.price := mul_nonneg (by exact_mod_cast hvolume.le) hprice
      have hneed : buyNeed p (placedOrder broker request .submitted true) =
          request.volume * request.price + (calculateCosts p (request.volume * request.price) request.orderType).total := by
        rw [buyNeed, if_pos (by simp [placedOrder, hbuy])]
        simp only [placedOrder, sub_zero, zero_add, max_eq_right hvolume.le, max_eq_right hprice]
        rw [max_eq_right (calculateCosts_nonneg hfees)]
      rw [hneed]
      by_cases hothers : buysQueued broker.orders
      · have hbuys := huncommitted.buy hbuy hothers
        rw [hdeal] at hbuys
        linarith
      · have hnone : (broker.orders.map (buyNeed p)).sum = 0 := by
          refine List.sum_eq_zero fun need hmem => ?_
          obtain ⟨order, horder, rfl⟩ := List.mem_map.mp hmem
          refine if_neg fun hbuys => hothers ⟨order, horder, ?_⟩
          simpa using hbuys
        simp only [BacktestBroker.validateOrder, hbuy, hdefer, if_true, Bool.false_eq_true, if_false] at hvalid
        rw [hnone, zero_add]
        exact of_decide_eq_true hvalid
    · have hothers : buysQueued broker.orders := hqueue.resolve_right fun hqueued => hbuy hqueued.2
      rw [buyNeed, if_neg (by simpa [placedOrder] using hbuy), add_zero]
      exact h.backed.buys hothers

theorem QueueCovered.deal {start : BacktestBroker} (h : QueueCovered p start broker) (hfees : FairFees p) (hvolume : 0 < request.volume)
    (huncommitted : Uncommitted p broker request) (hmarket : request.priceType = .market) (htime : broker.currentTime = some time)
    (htrade : trade = tradeRecord p (placedOrder broker request .pending false) (broker.dealPrice p request) request.volume broker.currentTime) :
    QueueCovered p start { broker with
      toBrokerAccount := broker.toBrokerAccount.book trade
      orders := broker.orders ++ [(placedOrder broker request .pending false).fill p (broker.dealPrice p request) request.volume] } := by
  have hside : trade.tradeType = request.orderType := by rw [htrade, tradeRecord, placedOrder]
  have hcode : trade.instrumentCode = request.instrumentCode := by rw [htrade, tradeRecord, placedOrder]
  have htraded : trade.volume = request.volume := by rw [htrade, tradeRecord]
  have hid : trade.orderId = broker.orders.length := by rw [htrade, tradeRecord, placedOrder]
  have hcharge : trade.commission = (calculateCosts p (broker.dealPrice p request * request.volume) request.orderType).total := by
    rw [htrade]
    simp only [tradeRecord, placedOrder, TradeCosts.since, calculateCosts_zero, zero_add, sub_zero]
    exact max_eq_right (calculateCosts_nonneg hfees)
  have hamount : trade.amount = broker.dealPrice p request * request.volume := by rw [htrade, tradeRecord]
  have hsells : ∀ code, (broker.orders.map (sellNeed code)).sum +
      (if trade.instrumentCode = code ∧ trade.tradeType.isBuy = false then trade.volume else 0) ≤
        broker.longVolume code - broker.todayBuyVolume code := by
    intro code
    rw [hcode, hside, htraded]
    split
    · rename_i hsell
      obtain ⟨rfl, hsell⟩ := hsell
      exact huncommitted.sell h.ledger.held hsell
    · rw [add_zero]
      exact h.backed.sells code
  have hdeliver : Deliverable broker.toBrokerAccount trade := by
    refine ⟨htraded ▸ hvolume, fun hsell => ?_⟩
    have hsells := hsells trade.instrumentCode
    have hneeds := sellNeeds_nonneg trade.instrumentCode broker.orders
    rw [if_pos ⟨rfl, hsell⟩] at hsells
    omega
  obtain ⟨hledger, hbacked, hpaid, hnamed, hids, hclock, hpriced⟩ := h
  have hbooked : Backed p (broker.toBrokerAccount.book trade) broker.orders := by
    refine ⟨hbacked.paid, fun code => ?_, fun hqueue => ?_⟩
    · have hsells := hsells code
      rw [book_sellable hledger.held hdeliver]
      omega
    · rw [book_cash, TradeRecord.cashFlow, hside, hcharge, hamount]
      have hbuys := hbacked.buys hqueue
      split
      · rename_i hbuy
        have hreserved := huncommitted.buy hbuy hqueue
        rw [mul_comm (request.volume : Rat)] at hreserved
        linarith
      · rename_i hsell
        have hcovers := huncommitted.fees hmarket (by simpa using hsell) hqueue
        linarith
  have htradeTime : trade.tradeTime = some time := by rw [htrade, tradeRecord, htime]
  refine ⟨hledger.book hdeliver htradeTime (hclock time htime), hbooked.idle rfl, ?_, ?_, ?_, hclock, hpriced⟩
  · refine LimitBuysPaid.book (hpaid.placed hnamed rfl) hledger.cash fun _ hlimit => ?_
    obtain ⟨placed, hmem, hnumber, hlimit⟩ := hlimit
    rw [requests, List.map_append] at hmem
    rcases List.mem_append.mp hmem with hmem | hmem
    · have hlisted : placed.1 ∈ broker.orders.map (·.orderId) := by
        rw [← requests_ids]
        exact List.mem_map_of_mem hmem
      rw [hids, hnumber, hid] at hlisted
      exact absurd (List.mem_range.mp hlisted) (lt_irrefl _)
    · rw [List.mem_singleton.mp hmem] at hlimit
      exact absurd (hmarket.symm.trans hlimit) (by decide)
  · intro trade' htrade'
    rw [book_trades] at htrade'
    rw [List.length_append, List.length_singleton]
    rcases List.mem_append.mp htrade' with htrade' | htrade'
    · exact Nat.lt_add_right _ (hnamed trade' htrade')
    · rw [List.mem_singleton.mp htrade', hid]
      exact Nat.lt_add_one _
  · rw [List.map_append, hids, List.map_singleton, List.length_append, List.length_singleton, List.range_succ]
    rfl

theorem QueueCovered.placeOrder {start : BacktestBroker} (h : QueueCovered p start broker) (hdefer : p.deferNewOrders = false) (hfees : FairFees p)
    (hprice : 0 ≤ request.price) (huncommitted : 0 < request.volume → broker.validateOrder p request = true → Uncommitted p broker request) :
    QueueCovered p start (broker.placeOrder p request) := by
  unfold BacktestBroker.placeOrder
  dsimp only
  split
  · exact h.placed rfl (h.backed.idle rfl)
  · rename_i hvolume
    split
    · exact h.placed rfl (h.backed.idle rfl)
    · rename_i hvalid
      have hvalid' : broker.validateOrder p request = true := by simpa using hvalid
      have hvolume' : 0 < request.volume := not_le.mp hvolume
      split
      · rename_i hmarket
        have hmarket' : request.priceType = .market := by
          simp only [hdefer, Bool.not_false, Bool.and_true, decide_eq_true_eq] at hmarket
          exact hmarket
        unfold BacktestBroker.executeMarketOrder
        dsimp only
        split
        · exact h.placed rfl (h.backed.idle rfl)
        · rename_i hpriced
          split
          · exact h.placed rfl (h.backed.idle rfl)
          · obtain ⟨time, htime⟩ := Option.ne_none_iff_exists'.mp fun hnone => hpriced (h.priced hnone request.instrumentCode)
            have hdealt := h.deal hfees hvolume' (huncommitted hvolume' hvalid') hmarket' htime rfl
            rw [BacktestBroker.dealPrice, if_pos hmarket'] at hdealt
            exact hdealt
      · rename_i hlimit
        exact h.enqueue hdefer hfees hprice hvolume' hvalid' (huncommitted hvolume' hvalid') fun hmarket => hlimit (by simp [hmarket, hdefer])

/-! ## Runs -/

/-- What an event must leave of what the queue needs. Days do not go back. -/
def Careful (p : BacktestParams) (broker : BacktestBroker) : BrokerEvent → Prop
  | .placeOrder request => 0 ≤ request.price ∧
      (0 < request.volume → broker.validateOrder p request = true → Uncommitted p broker request)
  | .cancelOrder _ => True
  | .updateMarketData code price time marketData => (∀ day, broker.currentTradingDate = some day → day ≤ p.tradingDate time) ∧
      ∀ order ∈ (broker.atQuote p code price time marketData).orders, matchable p (quoteContext code price time marketData) order = true →
        order.request.orderType.isBuy = false → buysQueued (broker.atQuote p code price time marketData).orders →
          CoversFees p (quoteContext code price time marketData).marketData order
  | .advanceTime time => ∀ day, broker.currentTradingDate = some day → day ≤ p.tradingDate time

theorem QueueCovered.handle {start : BacktestBroker} {event : BrokerEvent} (hstrict : p.strictBookDepth = false) (hdefer : p.deferNewOrders = false)
    (hfees : FairFees p) (h : QueueCovered p start broker) (hcareful : Careful p broker event) : QueueCovered p start (broker.handle p event) := by
  cases event with
  | placeOrder request => exact h.placeOrder hdefer hfees hcareful.1 hcareful.2
  | cancelOrder orderId =>
    refine h.leave (List.map_id _).symm ?_ rfl
    exact fun order => .of_if ⟨rfl, .inr ⟨rfl, rfl, rfl, rfl, rfl⟩⟩
  | updateMarketData code price time marketData => exact h.updateMarketData hstrict hfees hcareful.1 hcareful.2
  | advanceTime time =>
    simp only [BacktestBroker.handle, BacktestBroker.advanceTime]
    split
    · exact h
    · exact h.turn rfl rfl rfl rfl hcareful

def soldVolume (broker : BacktestBroker) (code : String) : Int :=
  ((broker.trades.filter fun trade => trade.instrumentCode = code && !trade.tradeType.isBuy).map (·.volume)).sum

def settledVolume (p : BacktestParams) (broker : BacktestBroker) (code : String) : Int :=
  ((broker.trades.filter fun trade => trade.instrumentCode = code && settledBuy p broker.currentTradingDate trade).map (·.volume)).sum

structure NeverShort (p : BacktestParams) (start broker : BacktestBroker) : Prop where
  sold : ∀ code, soldVolume broker code ≤ start.longVolume code + settledVolume p broker code
  paid : LimitBuysPaid start.toBrokerAccount broker.toBrokerAccount broker.orders

/-- The volume of an instrument moves by what is bought on earlier days and since, and by what is sold. -/
theorem volumeFlow_split (p : BacktestParams) (day : Option Int) (code : String) (trades : List TradeRecord) :
    ((trades.filter (·.instrumentCode = code)).map (·.volumeFlow)).sum +
        ((trades.filter fun trade => trade.instrumentCode = code && !trade.tradeType.isBuy).map (·.volume)).sum =
      ((trades.filter fun trade => trade.instrumentCode = code && settledBuy p day trade).map (·.volume)).sum +
        ((trades.filter (freshBuy p day code ·)).map (·.volume)).sum := by
  rw [sum_filter_map, sum_filter_map, sum_filter_map, sum_filter_map, ← List.sum_map_add, ← List.sum_map_add]
  refine congrArg List.sum (List.map_congr_left fun trade _ => ?_)
  by_cases hcode : trade.instrumentCode = code
  · cases hbuy : trade.tradeType.isBuy
    · have hsettled : settledBuy p day trade = false := by simp [settledBuy, hbuy]
      simp [hcode, hbuy, hsettled, freshBuy, TradeRecord.volumeFlow]
    · cases hsettled : settledBuy p day trade
      · simp [hcode, hbuy, hsettled, freshBuy, TradeRecord.volumeFlow]
      · simp [hcode, hbuy, hsettled, freshBuy, TradeRecord.volumeFlow]
  · simp [hcode, freshBuy]

theorem QueueCovered.neverShort {start : BacktestBroker} (h : QueueCovered p start broker) : NeverShort p start broker where
  sold code := by
    have hvolume := h.ledger.volume code
    have hsplit := volumeFlow_split p broker.currentTradingDate code broker.trades
    have htoday := h.ledger.today code
    have hsells := h.backed.sells code
    have hneeds := sellNeeds_nonneg code broker.orders
    rw [soldVolume, settledVolume]
    omega
  paid := h.paid

def defaultParams : BacktestParams :=
  { tradingDate := fun _ => 0, slippage_nonneg := noSlippage_nonneg, slippage_lt_one := noSlippage_lt_one }

def plainOrder (orderType : OrderType) : OrderRequest :=
  { instrumentCode := "600000.SH", orderType, priceType := .limit, volume := 100, price := 10 }

def modestBroker : BacktestBroker :=
  { cash := 1010, positions := Dict.ofList [("600000.SH", { longVolume := 100, availableVolume := 100 })] }

theorem modestBroker_opening : Opening modestBroker where
  orders := rfl
  trades := rfl
  held code position hget := by
    simp only [modestBroker, Dict.ofList, Dict.update, List.foldl_cons, List.foldl_nil, Dict.get?_set] at hget
    split at hget
    · obtain rfl := Option.some.inj hget
      exact ⟨by decide, by decide, by decide, by decide⟩
    · cases hget
  time := rfl
  prices := rfl

theorem modestBroker_careful : Careful defaultParams modestBroker (.placeOrder (plainOrder .sell)) :=
  ⟨by decide +kernel, fun _ _ => ⟨fun _ => by decide +kernel, fun hmarket => by cases hmarket⟩⟩

def doubled (orderType : OrderType) : List BrokerEvent :=
  [.placeOrder (plainOrder orderType), .placeOrder (plainOrder orderType), .updateMarketData "600000.SH" 10 0 none]

/-- The trade of an order of `doubled`. -/
def doubledTrade (orderId : Nat) : TradeRecord :=
  tradeRecord defaultParams { orderId, request := plainOrder .buy, status := .submitted, queued := true } 10 100 (some 0)

end QuantX
