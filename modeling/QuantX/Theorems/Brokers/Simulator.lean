import QuantX.Brokers.Simulator
import QuantX.Theorems.Brokers.Trade
import QuantX.Lib.Run

/-! # The tasks of the simulator

What a task may do to an order depends on where it sleeps. -/

namespace QuantX
open Lib

variable {p : BacktestParams} {start broker : SimulatorBroker} {order order' : SimulatedOrder} {account : BrokerAccount} {draw : Draw}
  {now : Int} {orderId : Nat} {event : SimulatorEvent}

/-! ## What a task needs -/

def PartCharged (p : BacktestParams) (order : OrderResponse) : Prop :=
  max (order.filledAmount * p.commissionRate) p.minCommission = (calculateCosts p order.filledAmount order.request.orderType).total

/-- A resumption that finds what its task takes for granted: a part can be drawn where one is dealt, and a rest is dealt
    at a price, after a part that paid its costs, of an order not cancelled. -/
structure Expected (p : BacktestParams) (broker : SimulatorBroker) (order : SimulatedOrder) (draw : Draw) : Prop where
  part : ∀ price, order.task = .dealing price → SimulatorBroker.goesOn order.toOrderResponse = true → draw.isPartial = true →
    100 < order.request.volume → 200 ≤ order.request.volume ∧ 100 ≤ draw.filledVolume ∧ draw.filledVolume ≤ order.request.volume - 100
  rest : ∀ price, order.task = .remaining → broker.latestPrice order.request.instrumentCode = some price →
    order.status ≠ .cancelled ∧ 0 ≤ price ∧ PartCharged p order.toOrderResponse

/-- What is known of an order from where its task sleeps. -/
def TaskSound (p : BacktestParams) (order : SimulatedOrder) : Prop :=
  match order.task with
  | .waiting _ | .dealing _ => order.filledVolume = 0 ∧ order.filledAmount = 0 ∧ order.commission = 0 ∧ order.status ≠ .filled
  | .remaining => order.status ≠ .filled ∧ order.commission = max (order.filledAmount * p.commissionRate) p.minCommission
  | .returned => True
  | .raised => False

structure SimulatedSound (p : BacktestParams) (order : SimulatedOrder) : Prop where
  within : order.filledVolume ≤ order.request.volume
  charged : order.status = .filled → order.commission = (calculateCosts p order.filledAmount order.request.orderType).total
  task : TaskSound p order

theorem TaskSound.cancel (h : TaskSound p order) : TaskSound p { order with status := .cancelled } := by
  obtain ⟨response, task⟩ := order
  cases task with
  | waiting waitTime => exact ⟨h.1, h.2.1, h.2.2.1, by simp⟩
  | dealing price => exact ⟨h.1, h.2.1, h.2.2.1, by simp⟩
  | remaining => exact ⟨by simp, h.2⟩
  | returned => trivial
  | raised => exact h.elim

theorem SimulatedSound.return (h : SimulatedSound p order) : SimulatedSound p { order with task := .returned } :=
  ⟨h.within, h.charged, trivial⟩

theorem pollOrder_sound (h : SimulatedSound p order) {waitTime : Rat} (htask : order.task = .waiting waitTime) :
    SimulatedSound p (broker.pollOrder order waitTime) := by
  have hopen : order.filledVolume = 0 ∧ order.filledAmount = 0 ∧ order.commission = 0 ∧ order.status ≠ .filled := by
    have htaskSound := h.task
    rwa [TaskSound, htask] at htaskSound
  unfold SimulatorBroker.pollOrder
  split
  · split
    · exact ⟨h.within, fun hfilled => absurd (show OrderStatus.expired = .filled from hfilled) (by decide), trivial⟩
    · exact h.return
  · split
    · exact h.return
    · split
      · exact ⟨h.within, h.charged, hopen⟩
      · split
        · exact ⟨h.within, h.charged, hopen⟩
        · exact ⟨h.within, h.charged, hopen⟩

theorem fill_all {price : Rat} {volume : Int} (hvolume : order.filledVolume + volume = order.request.volume)
    (hcharged : order.commission = (calculateCosts p order.filledAmount order.request.orderType).total)
    (hmore : (calculateCosts p order.filledAmount order.request.orderType).total ≤
      (calculateCosts p (order.filledAmount + price * volume) order.request.orderType).total) :
    SimulatedSound p ⟨order.fill p price volume, .returned⟩ where
  within := by
    rw [fill_filledVolume, fill_request, hvolume]
  charged _ := by
    simp only [OrderResponse.fill, TradeCosts.since]
    rw [max_eq_right (sub_nonneg.mpr hmore), hcharged]
    ring
  task := trivial

theorem dealOrder_sound (hfees : FairFees p) (h : SimulatedSound p order) (hexpected : Expected p broker order draw) {price : Rat}
    (htask : order.task = .dealing price) : SimulatedSound p (broker.dealOrder p order price draw now).2 := by
  obtain ⟨hvolume, hamount, hcommission, hstatus⟩ :
      order.filledVolume = 0 ∧ order.filledAmount = 0 ∧ order.commission = 0 ∧ order.status ≠ .filled := by
    have htaskSound := h.task
    rwa [TaskSound, htask] at htaskSound
  unfold SimulatorBroker.dealOrder
  split
  · exact h.return
  · rename_i hgoesOn
    split
    · rename_i hpart
      simp only [Bool.and_eq_true, decide_eq_true_eq] at hpart
      obtain ⟨hlarge, hdrawn, hbound⟩ := hexpected.part price htask (by simpa using hgoesOn) hpart.1 hpart.2
      rw [if_neg (by omega)]
      refine ⟨?_, fun hfilled => absurd (show OrderStatus.partialFilled = .filled from hfilled) (by decide), ?_⟩
      · simp only [executePartialTrade, OrderResponse.fillPartial]
        omega
      · have hless : (order.fillPartial p price draw.filledVolume).filledVolume < order.request.volume := by
          simp only [OrderResponse.fillPartial]
          omega
        simp only [TaskSound, executePartialTrade, hless, if_true]
        refine ⟨by simp [OrderResponse.fillPartial], ?_⟩
        simp [OrderResponse.fillPartial, hamount, hcommission]
    · refine fill_all (by rw [hvolume, zero_add]) ?_ ?_
      · rw [hcommission, hamount, calculateCosts_zero]
      · rw [hamount, calculateCosts_zero]
        exact calculateCosts_nonneg hfees

theorem remainingOrder_sound (hfees : FairFees p) (h : SimulatedSound p order) (hexpected : Expected p broker order draw)
    (htask : order.task = .remaining) : SimulatedSound p (broker.remainingOrder p order now).2 := by
  obtain ⟨hstatus, hcommission⟩ : order.status ≠ .filled ∧ order.commission = max (order.filledAmount * p.commissionRate) p.minCommission := by
    have htaskSound := h.task
    rwa [TaskSound, htask] at htaskSound
  unfold SimulatorBroker.remainingOrder
  split
  · exact h.return
  · rename_i price hprice
    obtain ⟨-, hpositive, hcharged⟩ := hexpected.rest price htask hprice
    refine fill_all (by ring) (hcommission.trans hcharged) (calculateCosts_mono hfees (le_add_of_nonneg_right (mul_nonneg hpositive ?_)))
    exact_mod_cast sub_nonneg.mpr h.within

theorem runTask_sound (hfees : FairFees p) (h : SimulatedSound p order) (hexpected : Expected p broker order draw) :
    SimulatedSound p (broker.runTask p order draw now).2 := by
  unfold SimulatorBroker.runTask
  split
  · rename_i htask
    exact pollOrder_sound h htask
  · rename_i htask
    exact dealOrder_sound hfees h hexpected htask
  · rename_i htask
    exact remainingOrder_sound hfees h hexpected htask
  · exact h
  · exact h

theorem runTask_trades (p : BacktestParams) (broker : SimulatorBroker) (order : SimulatedOrder) (draw : Draw) (now : Int) :
    (broker.runTask p order draw now).1 = broker.toBrokerAccount ∨
    ∃ trade, (broker.runTask p order draw now).1 = broker.toBrokerAccount.book trade ∧ trade.orderId = order.orderId := by
  unfold SimulatorBroker.runTask
  split
  · exact .inl rfl
  · unfold SimulatorBroker.dealOrder
    split
    · exact .inl rfl
    · split
      · split
        · exact .inl rfl
        · exact .inr ⟨_, rfl, rfl⟩
      · exact .inr ⟨_, rfl, rfl⟩
  · unfold SimulatorBroker.remainingOrder
    split
    · exact .inl rfl
    · exact .inr ⟨_, rfl, rfl⟩
  · exact .inl rfl
  · exact .inl rfl

theorem runTask_orderId : (broker.runTask p order draw now).2.orderId = order.orderId := by
  unfold SimulatorBroker.runTask
  split
  · unfold SimulatorBroker.pollOrder
    split
    · split <;> rfl
    · split
      · rfl
      · split
        · rfl
        · split <;> rfl
  · unfold SimulatorBroker.dealOrder
    split
    · rfl
    · split
      · split <;> rfl
      · rfl
  · unfold SimulatorBroker.remainingOrder
    split <;> rfl
  · rfl
  · rfl

theorem runTask_cancelled (now : Int) (hexpected : Expected p broker order draw) (hcancelled : order.status = .cancelled) :
    (broker.runTask p order draw now).1 = broker.toBrokerAccount ∧
      (broker.runTask p order draw now).2.toOrderResponse = order.toOrderResponse := by
  have hstops : SimulatorBroker.goesOn order.toOrderResponse = false := by simp [SimulatorBroker.goesOn, hcancelled]
  unfold SimulatorBroker.runTask
  split
  · refine ⟨rfl, ?_⟩
    simp only [SimulatorBroker.pollOrder, hstops, hcancelled]
    split <;> simp
  · simp [SimulatorBroker.dealOrder, hstops]
  · rename_i htask
    unfold SimulatorBroker.remainingOrder
    split
    · exact ⟨rfl, rfl⟩
    · rename_i price hprice
      exact absurd hcancelled (hexpected.rest price htask hprice).1
  · exact ⟨rfl, rfl⟩
  · exact ⟨rfl, rfl⟩

structure SimulatorSound (p : BacktestParams) (broker : SimulatorBroker) : Prop where
  orders : ∀ orderId order, broker.orders[orderId]? = some order → order.orderId = orderId ∧ SimulatedSound p order
  named : ∀ trade ∈ broker.trades, trade.orderId < broker.orders.length

/-- What an event must find: orders are for a positive volume, and tasks find what they take for granted. -/
def Undisturbed (p : BacktestParams) (broker : SimulatorBroker) : SimulatorEvent → Prop
  | .placeOrder request _ => 0 < request.volume
  | .cancelOrder _ => True
  | .resume orderId draw _ => ∀ order, broker.orders[orderId]? = some order → Expected p broker order draw
  | .updateRealtimePrice _ _ _ => True

def SimulatorBroker.response (broker : SimulatorBroker) (orderId : Nat) : Option OrderResponse :=
  (broker.orders[orderId]?).map (·.toOrderResponse)

def SimulatorBroker.tradesOf (broker : SimulatorBroker) (orderId : Nat) : List TradeRecord := broker.trades.filter (·.orderId = orderId)

theorem simulator_placeOrder (p : BacktestParams) (broker : SimulatorBroker) (request : OrderRequest) (risk : Option String) :
    ∃ order, broker.placeOrder p request risk = { broker with orders := broker.orders ++ [order] } ∧ order.orderId = broker.orders.length ∧
      (0 < request.volume → SimulatedSound p order) := by
  unfold SimulatorBroker.placeOrder
  split
  · rename_i hvolume
    exact ⟨_, rfl, rfl, fun hpositive => absurd hpositive (not_lt.mpr hvolume)⟩
  · split
    · exact ⟨_, rfl, rfl, fun hpositive => ⟨hpositive.le, fun hfilled => absurd (show OrderStatus.rejected = .filled from hfilled) (by decide), trivial⟩⟩
    · split
      · exact ⟨_, rfl, rfl, fun hpositive => ⟨hpositive.le, fun hfilled => absurd (show OrderStatus.rejected = .filled from hfilled) (by decide), trivial⟩⟩
      · exact ⟨_, rfl, rfl, fun hpositive => ⟨hpositive.le, fun hfilled => absurd (show OrderStatus.submitted = .filled from hfilled) (by decide),
          rfl, rfl, rfl, fun hfilled => absurd (show OrderStatus.submitted = .filled from hfilled) (by decide)⟩⟩

theorem SimulatorSound.set (h : SimulatorSound p broker) (hid : order.orderId = orderId) (hsound : SimulatedSound p order)
    (haccount : account = broker.toBrokerAccount ∨ ∃ trade, account = broker.toBrokerAccount.book trade ∧ trade.orderId = orderId)
    (horder : orderId < broker.orders.length) :
    SimulatorSound p { broker with toBrokerAccount := account, orders := broker.orders.set orderId order } where
  orders other order' hother := by
    rw [List.getElem?_set] at hother
    split at hother
    · rename_i hsame
      subst hsame
      obtain rfl := Option.some.inj hother
      exact ⟨hid, hsound⟩
    · exact h.orders other order' hother
  named trade htrade := by
    rw [List.length_set]
    rcases haccount with rfl | ⟨booked, rfl, hbooked⟩
    · exact h.named trade htrade
    · rw [book_trades] at htrade
      rcases List.mem_append.mp htrade with htrade | htrade
      · exact h.named trade htrade
      · rw [List.mem_singleton.mp htrade, hbooked]
        exact horder

theorem SimulatorSound.handle (hfees : FairFees p) (h : SimulatorSound p broker) (hexpected : Undisturbed p broker event) :
    SimulatorSound p (broker.handle p event) := by
  cases event with
  | placeOrder request risk =>
    obtain ⟨order, hplaced, hid, hsound⟩ := simulator_placeOrder p broker request risk
    rw [SimulatorBroker.handle, hplaced]
    refine ⟨fun orderId order' horder' => ?_, fun trade htrade => ?_⟩
    · rcases Nat.lt_trichotomy orderId broker.orders.length with hless | rfl | hgreater
      · rw [List.getElem?_append_left hless] at horder'
        exact h.orders orderId order' horder'
      · rw [List.getElem?_concat_length] at horder'
        obtain rfl := Option.some.inj horder'
        exact ⟨hid, hsound hexpected⟩
      · rw [List.getElem?_eq_none (by simpa using Nat.succ_le_of_lt hgreater)] at horder'
        cases horder'
    · rw [List.length_append]
      exact Nat.lt_add_right _ (h.named trade htrade)
  | cancelOrder orderId =>
    simp only [SimulatorBroker.handle, SimulatorBroker.cancelOrder]
    split
    · exact h
    · rename_i order horder
      obtain ⟨hid, hwithin, hcharged, htask⟩ := h.orders orderId order horder
      split
      · exact h.set hid ⟨hwithin, fun hfilled => absurd (show OrderStatus.cancelled = .filled from hfilled) (by decide), htask.cancel⟩ (.inl rfl)
          (List.getElem?_eq_some_iff.mp horder).1
      · exact h
  | resume orderId draw now =>
    simp only [SimulatorBroker.handle, SimulatorBroker.resume]
    split
    · exact h
    · rename_i order horder
      obtain ⟨hid, hsound⟩ := h.orders orderId order horder
      refine h.set (runTask_orderId.trans hid) (runTask_sound hfees hsound (hexpected order horder)) ?_ (List.getElem?_eq_some_iff.mp horder).1
      rw [← hid]
      exact runTask_trades p broker order draw now
  | updateRealtimePrice code price time => exact ⟨h.orders, h.named⟩

/-! ## Cancelling -/

theorem response_set (horder : orderId < broker.orders.length) (other : Nat) :
    ({ broker with toBrokerAccount := account, orders := broker.orders.set orderId order } : SimulatorBroker).response other =
      if orderId = other then some order.toOrderResponse else broker.response other := by
  simp only [SimulatorBroker.response, List.getElem?_set]
  split
  · rename_i hsame
    subst hsame
    rfl
  · rfl

theorem undisturbed_cancelled (h : SimulatorSound p broker) (hexpected : Undisturbed p broker event) {response : OrderResponse}
    (horder : broker.response orderId = some response) (hcancelled : response.status = .cancelled) :
    (broker.handle p event).response orderId = broker.response orderId ∧
      (broker.handle p event).tradesOf orderId = broker.tradesOf orderId := by
  obtain ⟨own, hown, rfl⟩ := Option.map_eq_some_iff.mp horder
  have hless := (List.getElem?_eq_some_iff.mp hown).1
  cases event with
  | placeOrder request risk =>
    obtain ⟨order, hplaced, -⟩ := simulator_placeOrder p broker request risk
    rw [SimulatorBroker.handle, hplaced]
    refine ⟨?_, rfl⟩
    rw [SimulatorBroker.response, List.getElem?_append_left hless, SimulatorBroker.response]
  | cancelOrder other =>
    simp only [SimulatorBroker.handle, SimulatorBroker.cancelOrder]
    split
    · exact ⟨rfl, rfl⟩
    · rename_i order hother
      split
      · rename_i hopen
        refine ⟨?_, rfl⟩
        rw [response_set (List.getElem?_eq_some_iff.mp hother).1]
        split
        · rename_i hsame
          subst hsame
          obtain rfl := Option.some.inj (hown.symm.trans hother)
          simp [OrderResponse.isOpen, hcancelled] at hopen
        · rfl
      · exact ⟨rfl, rfl⟩
  | resume other draw now =>
    simp only [SimulatorBroker.handle, SimulatorBroker.resume]
    split
    · exact ⟨rfl, rfl⟩
    · rename_i order hother
      rw [response_set (List.getElem?_eq_some_iff.mp hother).1]
      by_cases hsame : other = orderId
      · subst hsame
        obtain rfl := Option.some.inj (hown.symm.trans hother)
        obtain ⟨haccount, hresponse⟩ := runTask_cancelled now (hexpected own hown) hcancelled
        refine ⟨?_, ?_⟩
        · rw [if_pos rfl, hresponse, horder]
        · rw [SimulatorBroker.tradesOf, haccount, SimulatorBroker.tradesOf]
      · refine ⟨if_neg hsame, ?_⟩
        rcases runTask_trades p broker order draw now with haccount | ⟨trade, haccount, hid⟩
        · rw [SimulatorBroker.tradesOf, haccount, SimulatorBroker.tradesOf]
        · have hforeign : ¬ trade.orderId = orderId := by
            rw [hid, (h.orders other order hother).1]
            exact hsame
          simp only [SimulatorBroker.tradesOf, haccount, book_trades, List.filter_append]
          rw [List.filter_cons_of_neg (by simpa using hforeign), List.filter_nil, List.append_nil]
  | updateRealtimePrice code price time => exact ⟨rfl, rfl⟩

theorem cancelOrder_true (h : (broker.cancelOrder orderId).2 = true) :
    ∃ response, (broker.cancelOrder orderId).1.response orderId = some response ∧ response.status = .cancelled := by
  unfold SimulatorBroker.cancelOrder at h ⊢
  split at h
  · cases h
  · rename_i order horder
    split at h
    · rename_i hopen
      rw [if_pos hopen]
      refine ⟨{ order with status := .cancelled }, ?_, rfl⟩
      rw [SimulatorBroker.response, List.getElem?_set_self (List.getElem?_eq_some_iff.mp horder).1]
      rfl
    · cases h

def CancelsHold (log : List (Moment SimulatorBroker SimulatorEvent)) (broker : SimulatorBroker) : Prop :=
  ∀ moment ∈ log, ∀ orderId, moment.op = .cancelOrder orderId → (moment.before.cancelOrder orderId).2 = true →
    broker.response orderId = moment.after.response orderId ∧ broker.tradesOf orderId = moment.after.tradesOf orderId

/-- Cancels hold, no order is filled beyond its request or charged other than its costs, and no task raises. -/
structure SimulatorIntegrity (p : BacktestParams) (log : List (Moment SimulatorBroker SimulatorEvent)) (broker : SimulatorBroker) : Prop where
  cancels : CancelsHold log broker
  within : ∀ order ∈ broker.orders, order.filledVolume ≤ order.request.volume
  runs : ∀ order ∈ broker.orders, order.task ≠ .raised
  charged : ∀ order ∈ broker.orders, order.status = .filled →
    order.commission = (calculateCosts p order.filledAmount order.request.orderType).total

/-- A cancellation of the log that still holds, of an order that is still cancelled. -/
def CancelHolds (moment : Moment SimulatorBroker SimulatorEvent) (broker : SimulatorBroker) : Prop :=
  ∀ orderId, moment.op = .cancelOrder orderId → (moment.before.cancelOrder orderId).2 = true →
    (broker.response orderId = moment.after.response orderId ∧ broker.tradesOf orderId = moment.after.tradesOf orderId) ∧
      ∃ response, broker.response orderId = some response ∧ response.status = .cancelled

theorem CancelHolds.handle {moment : Moment SimulatorBroker SimulatorEvent} (hsound : SimulatorSound p broker)
    (hexpected : Undisturbed p broker event) (h : CancelHolds moment broker) : CancelHolds moment (broker.handle p event) := by
  intro orderId hop hcancel
  obtain ⟨⟨hresponse, htrades⟩, response, horder, hcancelled⟩ := h orderId hop hcancel
  obtain ⟨hsame, hsameTrades⟩ := undisturbed_cancelled hsound hexpected horder hcancelled
  exact ⟨⟨hsame.trans hresponse, hsameTrades.trans htrades⟩, response, hsame.trans horder, hcancelled⟩

def simulatorParams : BacktestParams :=
  { slippageRate := 2 / 10000, tradingDate := fun _ => 0, slippage_nonneg := noSlippage_nonneg, slippage_lt_one := noSlippage_lt_one }

def simulatedBuy (volume : Int) : OrderRequest :=
  { instrumentCode := "600000.SH", orderType := .buy, priceType := .limit, volume, price := 10 }

/-- A buy of `volume` shares, a price, and what the tasks of the order do when a part of 100 shares is drawn. -/
def partialBuy (volume : Int) : List SimulatorEvent :=
  [.placeOrder (simulatedBuy volume) none, .updateRealtimePrice "600000.SH" 10 0, .resume 0 ⟨true, 100, 0⟩ 0,
    .resume 0 ⟨true, 100, 0⟩ 0]

def richSimulator : SimulatorBroker := { cash := 1000000 }

def laterResume : SimulatorEvent := .resume 0 ⟨false, 0, 0⟩ 0

end QuantX
