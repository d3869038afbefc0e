import QuantX.Brokers.Backtest

/-! # The paper simulator

A broker whose orders are dealt by tasks of their own. Between two resumptions of a task anything may happen, to its
order too. -/

namespace QuantX
open Lib

/-- Where the task of an order sleeps: in the loop that waits for a price, with the time waited; before it deals at a
    price; before it deals the rest; or nowhere, when it has returned or raised. -/
inductive OrderTask where
  | waiting (waitTime : Rat)
  | dealing (price : Rat)
  | remaining
  | returned
  | raised
  deriving DecidableEq, Repr

structure SimulatedOrder extends OrderResponse where
  task : OrderTask

structure SimulatorBroker extends BrokerAccount where
  realtimePrices : Dict String Rat := Dict.empty
  currentPrices : Dict String Rat := Dict.empty
  currentTime : Option Int := none
  orders : List SimulatedOrder := []

structure Draw where
  isPartial : Bool
  filledVolume : Int
  slippageFactor : Rat

variable (p : BacktestParams)

/-- The order as `_execute_partial_trade` leaves it. Its fee is that of a commission alone. -/
def OrderResponse.fillPartial (order : OrderResponse) (price : Rat) (filledVolume : Int) : OrderResponse :=
  let amount := price * filledVolume
  { order with
    status := .partialFilled, filledVolume := order.filledVolume + filledVolume
    filledAmount := order.filledAmount + amount
    avgPrice := if 0 < order.filledVolume + filledVolume then (order.filledAmount + amount) / ((order.filledVolume + filledVolume : Int) : Rat)
      else order.avgPrice
    commission := order.commission + max (amount * p.commissionRate) p.minCommission }

def executePartialTrade (account : BrokerAccount) (order : OrderResponse) (price : Rat) (filledVolume : Int) (now : Int) :
    BrokerAccount × OrderResponse :=
  let amount := price * filledVolume
  (account.book
    { orderId := order.orderId, instrumentCode := order.request.instrumentCode, tradeType := order.request.orderType
      price, volume := filledVolume, amount
      commission := max (amount * p.commissionRate) p.minCommission, tradeTime := some now },
    order.fillPartial p price filledVolume)

namespace SimulatorBroker
variable (broker : SimulatorBroker)

def latestPrice (code : String) : Option Rat :=
  let truthy := fun (price : Rat) => price ≠ 0
  ((broker.realtimePrices.get? code).filter truthy).or ((broker.currentPrices.get? code).filter truthy)

def slippedDeal (orderType : OrderType) (basePrice slippageFactor : Rat) : Rat :=
  if orderType.isBuy then basePrice + basePrice * slippageFactor else basePrice - basePrice * slippageFactor

def goesOn (order : OrderResponse) : Bool := order.status = .submitted || order.status = .partialFilled

def shouldDeal (request : OrderRequest) (currentPrice : Rat) : Bool :=
  match request.priceType with
  | .market => true
  | .limit => if request.orderType.isBuy then currentPrice ≤ request.price else request.price ≤ currentPrice
  | _ => false

/-- `_process_order_async` in its loop. -/
def pollOrder (order : SimulatedOrder) (waitTime : Rat) : SimulatedOrder :=
  if 30 ≤ waitTime then
    if order.status = .submitted then { order with status := .expired, task := .returned } else { order with task := .returned }
  else if !goesOn order.toOrderResponse then { order with task := .returned }
  else
    match broker.latestPrice order.request.instrumentCode with
    | none => { order with task := .waiting (waitTime + 1) }
    | some currentPrice =>
      if shouldDeal order.request currentPrice then { order with task := .dealing currentPrice } else { order with task := .waiting (waitTime + 1 / 2) }

/-- `_process_order_async` once it has slept. `random.randint` raises where its range is empty. -/
def dealOrder (order : SimulatedOrder) (currentPrice : Rat) (draw : Draw) (now : Int) : BrokerAccount × SimulatedOrder :=
  if !goesOn order.toOrderResponse then (broker.toBrokerAccount, { order with task := .returned })
  else if draw.isPartial && 100 < order.request.volume then
    if order.request.volume - 100 < 100 then (broker.toBrokerAccount, { order with task := .raised })
    else
      let (account, filled) := executePartialTrade p broker.toBrokerAccount order.toOrderResponse currentPrice draw.filledVolume now
      (account, ⟨filled, if filled.filledVolume < order.request.volume then .remaining else .returned⟩)
  else
    let price := slippedDeal order.request.orderType currentPrice draw.slippageFactor
    let (account, filled) := executeTrade p broker.toBrokerAccount order.toOrderResponse price order.request.volume (broker.currentTime.or (some now))
    (account, ⟨filled, .returned⟩)

/-- `_process_remaining_order` once it has slept. It does not look at the status. -/
def remainingOrder (order : SimulatedOrder) (now : Int) : BrokerAccount × SimulatedOrder :=
  match broker.latestPrice order.request.instrumentCode with
  | none => (broker.toBrokerAccount, { order with task := .returned })
  | some currentPrice =>
    let (account, filled) := executeTrade p broker.toBrokerAccount order.toOrderResponse currentPrice
      (order.request.volume - order.filledVolume) (broker.currentTime.or (some now))
    (account, ⟨filled, .returned⟩)

def runTask (order : SimulatedOrder) (draw : Draw) (now : Int) : BrokerAccount × SimulatedOrder :=
  match order.task with
  | .waiting waitTime => (broker.toBrokerAccount, broker.pollOrder order waitTime)
  | .dealing currentPrice => broker.dealOrder p order currentPrice draw now
  | .remaining => broker.remainingOrder p order now
  | .returned | .raised => (broker.toBrokerAccount, order)

def resume (orderId : Nat) (draw : Draw) (now : Int) : SimulatorBroker :=
  match broker.orders[orderId]? with
  | none => broker
  | some order =>
    let (account, order) := broker.runTask p order draw now
    { broker with toBrokerAccount := account, orders := broker.orders.set orderId order }

/-- `place_order` once it has slept. An order's number is how many came before. Its risk check reads valuations; `risk`
    is the reason with which it refuses. -/
def placeOrder (request : OrderRequest) (risk : Option String) : SimulatorBroker :=
  let order : OrderResponse := { orderId := broker.orders.length, request, status := .pending }
  let rejected := fun (message : String) =>
    { broker with orders := broker.orders ++ [⟨{ order with status := .rejected, errorMessage := some message }, .returned⟩] }
  if request.volume ≤ 0 then rejected "订单数量必须大于0"
  else
    match risk with
    | some reason => rejected reason
    | none =>
      if !({ toBrokerAccount := broker.toBrokerAccount } : BacktestBroker).validateOrder { p with deferNewOrders := false } request then
        rejected "资金或持仓不足"
      else { broker with orders := broker.orders ++ [⟨{ order with status := .submitted }, .waiting 0⟩] }

/-- `cancel_order`, with what it returns. -/
def cancelOrder (orderId : Nat) : SimulatorBroker × Bool :=
  match broker.orders[orderId]? with
  | none => (broker, false)
  | some order =>
    if order.isOpen then ({ broker with orders := broker.orders.set orderId { order with status := .cancelled } }, true) else (broker, false)

def updateRealtimePrice (code : String) (price : Rat) (time : Int) : SimulatorBroker :=
  { broker with realtimePrices := broker.realtimePrices.set code price
                currentPrices := broker.currentPrices.set code price, currentTime := some time }

end SimulatorBroker

inductive SimulatorEvent where
  | placeOrder (request : OrderRequest) (risk : Option String)
  | cancelOrder (orderId : Nat)
  | resume (orderId : Nat) (draw : Draw) (now : Int)
  | updateRealtimePrice (code : String) (price : Rat) (time : Int)

def SimulatorBroker.handle (broker : SimulatorBroker) : SimulatorEvent → SimulatorBroker
  | .placeOrder request risk => broker.placeOrder p request risk
  | .cancelOrder orderId => (broker.cancelOrder orderId).1
  | .resume orderId draw now => broker.resume p orderId draw now
  | .updateRealtimePrice code price time => broker.updateRealtimePrice code price time

end QuantX
