import QuantX.Theorems.Brokers.Match

namespace QuantX
open Lib

variable {p : BacktestParams} {broker : BacktestBroker} {order : OrderResponse}
variable {marketData : Option QuoteSnapshot}

structure Leaves (order order' : OrderResponse) : Prop where
  orderId : order'.orderId = order.orderId
  stays : order' = order ∨ order'.request = order.request ∧ order'.filledVolume = order.filledVolume ∧
    order'.filledAmount = order.filledAmount ∧ order'.commission = order.commission ∧ order'.queued = false

theorem Leaves.of_if {out : Prop} [Decidable out] {order' : OrderResponse} (h : Leaves order order') :
    Leaves order (if out then order' else order) := by
  split
  · exact h
  · exact ⟨rfl, .inl rfl⟩

theorem turn_trades (tradingDate now : Int) : ((broker.settleIfNewDay tradingDate).expirePendingOrders now).trades = broker.trades := by
  simp only [BacktestBroker.expirePendingOrders, BacktestBroker.settleIfNewDay]
  split <;> rfl

theorem turn_idle (hmem : order ∈ broker.orders) (hidle : order.queued = false) (tradingDate now : Int) :
    order ∈ ((broker.settleIfNewDay tradingDate).expirePendingOrders now).orders := by
  refine List.mem_map.mpr ⟨order, ?_, if_neg (by simp [BacktestBroker.isExpired, hidle])⟩
  simp only [BacktestBroker.settleIfNewDay]
  split <;> exact hmem

/-- The broker that a quote finds once it has settled the day and let expired orders go. -/
def BacktestBroker.atQuote (p : BacktestParams) (broker : BacktestBroker) (code : String) (price : Rat) (time : Int)
    (marketData : Option QuoteSnapshot) : BacktestBroker :=
  ({ broker with
      currentPrices := broker.currentPrices.set code price, currentTime := some time
      marketSnapshots := broker.marketSnapshots.set code (marketData.getD { price := price }) }.settleIfNewDay
    (p.tradingDate time)).expirePendingOrders time

theorem atQuote_marketSnapshots (p : BacktestParams) (broker : BacktestBroker) (code : String) (price : Rat) (time : Int) (marketData : Option QuoteSnapshot) :
    (broker.atQuote p code price time marketData).marketSnapshots.get? code = some (marketData.getD { price := price }) := by
  simp only [BacktestBroker.atQuote, BacktestBroker.expirePendingOrders, BacktestBroker.settleIfNewDay]
  split <;> exact Dict.get?_set_self _ _ _

def quoteBook (p : BacktestParams) (price : Rat) (marketData : Option QuoteSnapshot) : StrictBook :=
  buildStrictBook p (marketData.getD { price := price })

def quoteContext (code : String) (price : Rat) (time : Int) (marketData : Option QuoteSnapshot) : QuoteContext :=
  ⟨code, price, some (marketData.getD { price := price }), some time⟩

theorem atQuote_queued {code : String} {price : Rat} {time : Int}
    (hmem : order ∈ (broker.atQuote p code price time marketData).orders) (hqueued : order.queued = true) : order ∈ broker.orders := by
  obtain ⟨own, hown, hsame⟩ := List.mem_map.mp hmem
  split at hsame
  · obtain rfl := hsame
    cases hqueued
  · obtain rfl := hsame
    simp only [BacktestBroker.settleIfNewDay] at hown
    split at hown <;> exact hown

def BacktestBroker.found (p : BacktestParams) (broker : BacktestBroker) (code : String) (price : Rat) (time : Int)
    (marketData : Option QuoteSnapshot) : Matching :=
  ⟨(broker.atQuote p code price time marketData).toBrokerAccount, if p.strictBookDepth then some (quoteBook p price marketData) else none⟩

theorem found_strict (hstrict : p.strictBookDepth = true) {code : String} {price : Rat} {time : Int} :
    (broker.found p code price time marketData).book = some (quoteBook p price marketData) := if_pos hstrict

def BacktestBroker.matched (p : BacktestParams) (broker : BacktestBroker) (code : String) (price : Rat) (time : Int)
    (marketData : Option QuoteSnapshot) : Matching × List (OrderResponse × Bool) × Option String :=
  matchOrders p (quoteContext code price time marketData) (broker.found p code price time marketData)
    (broker.atQuote p code price time marketData).orders

/-- A quote is matched with the queue, and filled orders leave it unless an error has stopped the loop. -/
theorem updateMarketData_matched (code : String) (price : Rat) (time : Int)
    (marketData : Option QuoteSnapshot) :
    (broker.updateMarketData p code price time marketData).1 =
      { broker.atQuote p code price time marketData with
        toBrokerAccount := (broker.matched p code price time marketData).1.account
        orders := (broker.matched p code price time marketData).2.1.map fun matched =>
          if (broker.matched p code price time marketData).2.2.isNone && matched.2 then { matched.1 with queued := false } else matched.1 } := by
  have hquote := atQuote_marketSnapshots p broker code price time marketData
  have htime : (broker.atQuote p code price time marketData).currentTime = some time := by
    simp only [BacktestBroker.atQuote, BacktestBroker.expirePendingOrders, BacktestBroker.settleIfNewDay]
    split <;> rfl
  have hupdate : broker.updateMarketData p code price time marketData =
      (broker.atQuote p code price time marketData).processPendingOrders p code price := rfl
  rw [hupdate]
  simp only [BacktestBroker.processPendingOrders, hquote, htime, Option.map_some]
  rfl

end QuantX
