import QuantX.Brokers.Backtest
import QuantX.Lib.PyEq
import QuantX.Lib.Require
import QuantX.Text
import QuantX.Trading.ExecutionOwner

/-! # The paper matcher

The strict backtest broker behind an adapter that takes orders, quotes and cancellations, with a checkpoint. Money is
exact, times are in microseconds. A JSON document is the record it encodes. What only feeds statistics is left out. -/

namespace QuantX
open Lib

deriving instance DecidableEq for OrderRequest, OrderResponse

structure PaperRequest extends OrderRequest where
  executionRef : ExecutionOwnerRef
  environment : ExecutionEnvironment
  deriving DecidableEq

/-- An order by the id that its caller gives it. It has no number, and `pending_orders` is kept apart. -/
structure PaperOrder extends OrderResponse where
  id : String
  executionRef : ExecutionOwnerRef
  environment : ExecutionEnvironment
  submitTime : Int
  slippage : Rat := 0
  lastUpdateTime : Option Int := none
  deriving DecidableEq

def PaperOrder.paperRequest (order : PaperOrder) : PaperRequest :=
  { order.request with executionRef := order.executionRef, environment := order.environment }

structure Holding extends Position where
  instrumentCode : String
  shortVolume : Int := 0
  longAvgPrice : Rat := 0
  shortAvgPrice : Rat := 0
  marketValue : Rat := 0
  pnl : Rat := 0
  pnlPercent : Rat := 0
  lastPrice : Rat := 0

structure PaperTrade extends TradeRecord where
  (tradeId paperOrderId quoteEventId : String)
  executionRef : ExecutionOwnerRef
  environment : ExecutionEnvironment

structure PaperQuote extends QuoteSnapshot where
  instrumentCode : String
  sourceTime : Int
  source : String

structure QuoteEvent where
  (eventId quoteHash : String)
  acceptedAt : Int
  reasonCodes : List String

structure PaperBroker where
  cash : Rat
  frozenCash : Rat := 0
  initialCapital : Rat
  nonTradingAssetValue : Rat := 0
  positions : Dict String Holding
  (currentTime currentTradingDate : Int)
  currentPrices : Dict String Rat := Dict.empty
  marketSnapshots : Dict String PaperQuote := Dict.empty
  orders : Dict String PaperOrder := Dict.empty
  pendingOrders : List String := []
  trades : List PaperTrade := []

structure PaperBrokerMatching where
  scopeExecutionId : String
  broker : PaperBroker
  orderWitnesses : Dict String String := Dict.empty
  latestQuoteEvents : Dict String QuoteEvent := Dict.empty

structure PaperAccountInfo where
  accountId : String
  (totalAsset cash frozenCash marketValue totalPnl dailyPnl : Rat)
  positions : Dict String Holding
  lastUpdateTime : Int

structure PaperMatchingResult where
  orders : List PaperOrder
  trades : List PaperTrade
  account : PaperAccountInfo
  duplicate : Bool := false
  reasonCodes : List String := []

structure PaperMaterial where
  schemaVersion : Int
  (policyVersion scopeExecutionId : String)
  (cash frozenCash initialCapital nonTradingAssetValue : Rat)
  positions : Dict String Holding
  (currentTime currentTradingDate : Int)
  currentPrices : Dict String Rat
  marketSnapshots : Dict String PaperQuote
  orders : Dict String PaperOrder
  pendingOrderIds : List String
  orderWitnesses : Dict String String
  latestQuoteEvents : Dict String QuoteEvent

structure PaperCheckpoint where
  material : PaperMaterial
  checkpointHash : String

/-- What `stable_manifest_hash` is taken of. -/
inductive PaperManifest where
  | submission (request : PaperRequest) (submittedAt : Int)
  | quote (quote : PaperQuote)
  | checkpoint (material : PaperMaterial)

/-- What the matcher calls: the exchange day of an instant, the digests, and whether metadata survive a trip through
    JSON. -/
structure PaperHost where
  tradingDate : Int → Int
  manifestHash : PaperManifest → String
  uuid5 : String → String
  isJson : List (String × PyVal) → Bool

namespace PaperHost
variable (host : PaperHost)

/-- The parameters of `_StrictPaperBroker`. -/
def params : BacktestParams where
  strictBookDepth := true
  noQueueCredit := true
  deferNewOrders := true
  tradingDate := host.tradingDate

end PaperHost

def matchingPolicyVersion : String := "paper-strict-book-v2"
def sameSourceNoNewLiquidity : String := "PAPER_QUOTE_SAME_SOURCE_NO_NEW_LIQUIDITY"

/-- `_update_position_buy`. -/
def buyHolding (positions : Dict String Holding) (code : String) (volume : Int) (price : Rat) : Dict String Holding :=
  let position := positions.getD code { instrumentCode := code }
  let longVolume := position.longVolume + volume
  positions.set code { position with
    longVolume, todayBuyVolume := position.todayBuyVolume + volume
    longAvgPrice := if 0 < longVolume then (position.longVolume * position.longAvgPrice + volume * price) / longVolume else 0
    lastPrice := price, marketValue := longVolume * price }

/-- `_update_position_sell`. -/
def sellHolding (positions : Dict String Holding) (code : String) (volume : Int) (price : Rat) : Dict String Holding :=
  match positions.get? code with
  | none => positions
  | some position =>
    let longVolume := position.longVolume - volume
    if longVolume ≤ 0 then positions.erase code
    else positions.set code { position with
      longVolume, availableVolume := max 0 (position.availableVolume - volume), lastPrice := price
      marketValue := longVolume * price }

def Holding.quoted (position : Holding) (price : Rat) : Holding :=
  let marketValue := (position.longVolume - position.shortVolume) * price
  let longPnl := if 0 < position.longVolume then (price - position.longAvgPrice) * position.longVolume else position.pnl
  let pnl := if 0 < position.shortVolume then longPnl + (position.shortAvgPrice - price) * position.shortVolume else longPnl
  { position with
    lastPrice := price, marketValue, pnl
    pnlPercent := if marketValue = 0 then position.pnlPercent else pnl / |marketValue| }

/-! ## The broker -/

namespace PaperBroker
variable (host : PaperHost) (broker : PaperBroker)

def account : BrokerAccount where
  cash := broker.cash
  positions := broker.positions.map (·.toPosition)

def pending : List PaperOrder := broker.pendingOrders.filterMap broker.orders.get?

/-- `calculate_slippage`. -/
def slippage (expectedPrice actualPrice : Rat) (orderType : OrderType) : Rat :=
  if orderType.isBuy then expectedPrice - actualPrice else actualPrice - expectedPrice

/-- `generate_trade_id`. -/
def tradeId (scope eventId orderId : String) (filledVolume : Int) : String :=
  host.uuid5 s!"quantx:paper:{scope}:{eventId}:{orderId}:{filledVolume}"

def filledOrder (order : PaperOrder) (price : Rat) (volume : Int) : PaperOrder :=
  { order with
    toOrderResponse := order.toOrderResponse.fill host.params price volume
    slippage := slippage order.request.price price order.request.orderType, lastUpdateTime := some broker.currentTime }

def executeTrade (scope eventId : String) (order : PaperOrder) (price : Rat) (volume : Int) : PaperBroker :=
  let trade := tradeRecord host.params order.toOrderResponse price volume (some broker.currentTime)
  let filled := broker.filledOrder host order price volume
  let code := order.request.instrumentCode
  { broker with
    orders := broker.orders.set order.id filled
    trades := broker.trades ++ [{ trade with
      tradeId := tradeId host scope eventId order.id filled.filledVolume, paperOrderId := order.id
      quoteEventId := eventId, executionRef := order.executionRef, environment := order.environment }]
    cash := if order.request.orderType.isBuy then broker.cash - (trade.amount + trade.commission)
      else broker.cash + (trade.amount - trade.commission)
    positions := if order.request.orderType.isBuy then buyHolding broker.positions code volume price
      else sellHolding broker.positions code volume price }

def matchPendingOrder (scope eventId : String) (context : QuoteContext) (book : Option StrictBook) (orderId : String) :
    Except String (PaperBroker × Option StrictBook) :=
  match broker.orders.get? orderId with
  | none => .ok (broker, book)
  | some order =>
    if order.request.instrumentCode ≠ context.instrumentCode ∨ isBlockedByLimit host.params order.request context.marketData ∨
        !shouldExecute context order.request then .ok (broker, book)
    else do
      let (volume, price, book) ← matchedFill host.params context ⟨broker.account, book⟩ order.toOrderResponse
      if volume ≤ 0 then return (broker, book)
      return (broker.executeTrade host scope eventId order price volume, book)

def matchPendingOrders (scope eventId : String) (context : QuoteContext) :
    PaperBroker → Option StrictBook → List String → PaperBroker × Option String
  | broker, _, [] => (broker, none)
  | broker, book, orderId :: orderIds =>
    match broker.matchPendingOrder host scope eventId context book orderId with
    | .error e => (broker, some e)
    | .ok (broker, book) => matchPendingOrders scope eventId context broker book orderIds

def eligible (quote : PaperQuote) (orderId : String) : Bool :=
  (broker.orders.get? orderId).any fun order => order.submitTime < quote.sourceTime &&
    host.tradingDate quote.sourceTime = host.tradingDate broker.currentTime

def settlePending : PaperBroker :=
  { broker with pendingOrders := broker.pendingOrders.filter fun orderId => (broker.orders.get? orderId).any (·.isOpen) }

def processPendingOrders (scope eventId : String) (newLiquidity : Bool) (quote : PaperQuote) : PaperBroker × Option String :=
  if !newLiquidity then (broker, none)
  else
    let context : QuoteContext := ⟨quote.instrumentCode, quote.price, some quote.toQuoteSnapshot, some broker.currentTime⟩
    let (matched, error) := matchPendingOrders host scope eventId context broker (some (buildStrictBook host.params quote.toQuoteSnapshot))
      (broker.pendingOrders.filter (broker.eligible host quote))
    (matched.settlePending, error)

def settleIfNewDay (tradingDate : Int) : PaperBroker :=
  if broker.currentTradingDate = tradingDate then broker
  else
    { broker with
      currentTradingDate := tradingDate
      positions := broker.positions.map fun position =>
        { position with availableVolume := max 0 (position.longVolume - position.frozenVolume), todayBuyVolume := 0 } }

def expires (orderId : String) : Bool :=
  decide (orderId ∈ broker.pendingOrders) && (broker.orders.get? orderId).any fun order =>
    0 < BacktestBroker.expireAtMs order.request && BacktestBroker.expireAtMs order.request ≤ broker.currentTime.tdiv 1000

def expirePendingOrders : PaperBroker :=
  { broker with
    orders := broker.orders.mapEntries fun (orderId, order) =>
      if broker.expires orderId then
        { order with
          status := .expired, lastUpdateTime := some broker.currentTime, errorMessage := some "订单超过策略有效期，已按回测规则过期" }
      else order
    pendingOrders := broker.pendingOrders.filter fun orderId => !broker.expires orderId }

def advanceTime (timestamp : Int) : Except String PaperBroker :=
  if timestamp < broker.currentTime then .error "BacktestBroker time cannot move backwards"
  else .ok ({ broker with currentTime := timestamp }.settleIfNewDay (host.tradingDate timestamp)).expirePendingOrders

def observe (quote : PaperQuote) (timestamp : Int) : PaperBroker :=
  { broker with
    currentPrices := broker.currentPrices.set quote.instrumentCode quote.price, currentTime := timestamp
    marketSnapshots := broker.marketSnapshots.set quote.instrumentCode quote }

def revalue (quote : PaperQuote) : PaperBroker :=
  { broker with positions := broker.positions.modify quote.instrumentCode fun position => position.quoted quote.price }

def atQuote (quote : PaperQuote) (timestamp : Int) : PaperBroker :=
  (((broker.observe quote timestamp).settleIfNewDay (host.tradingDate timestamp)).expirePendingOrders).revalue quote

/-- `update_market_data`, with the error that stops it. -/
def updateMarketData (scope eventId : String) (newLiquidity : Bool) (quote : PaperQuote) (timestamp : Int) : PaperBroker × Option String :=
  (broker.atQuote host quote timestamp).processPendingOrders host scope eventId newLiquidity quote

def reservedPendingBuyCash : Rat :=
  ((broker.pending.filter fun order => order.request.orderType.isBuy).map fun order =>
    let remaining : Int := max 0 (order.request.volume - order.filledVolume)
    let amount : Rat := remaining * max 0 order.request.price
    amount + max 0 ((calculateCosts host.params (order.filledAmount + amount) order.request.orderType).total - order.commission)).sum

def reservedPendingSellVolume (code : String) : Int :=
  ((broker.pending.filter fun order => order.request.instrumentCode = code && !order.request.orderType.isBuy).map
    fun order => max 0 (order.request.volume - order.filledVolume)).sum

def validateOrder (request : OrderRequest) : Bool :=
  if request.orderType.isBuy then
    let amount := request.volume * request.price
    amount + (calculateCosts host.params amount request.orderType).total ≤ broker.cash - broker.reservedPendingBuyCash host
  else
    match broker.positions.get? request.instrumentCode with
    | none => false
    | some position => request.volume ≤ position.availableVolume - broker.reservedPendingSellVolume request.instrumentCode

def placeOrder (orderId : String) (request : PaperRequest) : PaperBroker :=
  let order : PaperOrder :=
    { orderId := 0, request := request.toOrderRequest, status := .pending, id := orderId, executionRef := request.executionRef
      environment := request.environment, submitTime := broker.currentTime }
  if request.volume ≤ 0 then
    { broker with orders := broker.orders.set orderId { order with status := .rejected, errorMessage := some "订单数量必须大于0" } }
  else if !broker.validateOrder host request.toOrderRequest then
    { broker with orders := broker.orders.set orderId { order with status := .rejected, errorMessage := some "资金或持仓不足" } }
  else
    { broker with
      orders := broker.orders.set orderId { order with status := .submitted }
      pendingOrders := broker.pendingOrders ++ [orderId] }

/-- `cancel_order`, with what it returns. -/
def cancelOrder (orderId : String) : PaperBroker × Bool :=
  match broker.orders.get? orderId with
  | none => (broker, false)
  | some order =>
    if order.isOpen then
      ({ broker with
          orders := broker.orders.set orderId { order with status := .cancelled, lastUpdateTime := some broker.currentTime }
          pendingOrders := broker.pendingOrders.filter (· ≠ orderId) }, true)
    else (broker, false)

/-- `get_account`. -/
def accountInfo (scope : String) : PaperAccountInfo :=
  let marketValue := broker.positions.sum (·.marketValue)
  let totalAsset := broker.cash + marketValue + broker.nonTradingAssetValue
  { accountId := "paper:" ++ scope, totalAsset, cash := broker.cash, frozenCash := broker.frozenCash
    marketValue, totalPnl := totalAsset - broker.initialCapital, dailyPnl := 0
    positions := broker.positions, lastUpdateTime := broker.currentTime }

end PaperBroker

/-- `_identity`. -/
def checkIdentity (value : String) : Except String Unit := require (stripText value ≠ "" ∧ stripText value = value) "PAPER_IDENTITY_REQUIRED"

/-- `_number`. -/
def checkNumber (value : Rat) : Except String Unit := require (0 ≤ value) "PAPER_INVALID_NUMBER"

def checkPositive (value : Rat) : Except String Unit := require (0 < value) "PAPER_INVALID_NUMBER"

/-- `order_expire_at_ms` is a positive whole number. -/
def hasExpiry (metadata : List (String × PyVal)) : Bool :=
  match PyVal.get metadata "order_expire_at_ms" with
  | .int expiry => 0 < expiry
  | _ => false

def validateRequest (host : PaperHost) (scope : String) (request : PaperRequest) : Except String Unit := do
  require (request.environment = .paper) "PAPER_ORDER_ENVIRONMENT_REQUIRED"
  require ((request.executionRef = ⟨"T_ASSISTANT_EXECUTION", scope⟩ ∧ request.orderType = .buy) ∨
    (request.executionRef.ownerType = "EXIT_PLAN" ∧ request.orderType = .sell)) "PAPER_ORDER_OWNER_INVALID"
  require (request.priceType = .limit) "PAPER_LIMIT_ORDER_REQUIRED"
  checkIdentity request.instrumentCode
  checkPositive request.price
  require (0 < request.volume) "PAPER_ORDER_VOLUME_INVALID"
  require (host.isJson request.metadata) "PAPER_METADATA_MUST_BE_JSON"
  require (hasExpiry request.metadata) "PAPER_ORDER_TTL_REQUIRED"

def validateSide (prices volumes : List Rat) : Except String Unit := do
  require (prices.length = 5 ∧ volumes.length = 5) "PAPER_COMPLETE_FIVE_LEVEL_BOOK_REQUIRED"
  prices.forM checkPositive
  volumes.forM checkNumber

def validateQuote (quote : PaperQuote) : Except String Unit := do
  checkIdentity quote.instrumentCode
  checkIdentity quote.source
  checkPositive quote.price
  checkPositive quote.priceTick
  validateSide quote.bidPrice quote.bidVol
  validateSide quote.askPrice quote.askVol
  require (quote.bidPrice.Pairwise (· ≥ ·) ∧ quote.askPrice.Pairwise (· ≤ ·) ∧
    ∀ bid ∈ quote.bidPrice.head?, ∀ ask ∈ quote.askPrice.head?, bid ≤ ask) "PAPER_INVALID_BOOK_ORDER"

def validateHolding (code : String) (position : Holding) : Except String Unit := do
  require (code = position.instrumentCode) "PAPER_POSITION_SCOPE_INVALID"
  require (0 ≤ position.longVolume ∧ 0 ≤ position.shortVolume ∧ 0 ≤ position.availableVolume ∧ 0 ≤ position.frozenVolume ∧
    0 ≤ position.todayBuyVolume) "PAPER_POSITION_VOLUME_INVALID"
  require (position.shortVolume = 0 ∧ position.availableVolume + position.todayBuyVolume ≤ position.longVolume)
    "PAPER_POSITION_VOLUME_INVALID"
  checkNumber position.longAvgPrice
  checkNumber position.marketValue
  checkNumber position.lastPrice

namespace PaperBrokerMatching
variable (host : PaperHost)

def create (scopeExecutionId : String) (cash nonTradingAssetValue : Rat) (positions : Dict String Holding) (now : Int) :
    Except String PaperBrokerMatching := do
  checkIdentity scopeExecutionId
  checkNumber cash
  checkNumber nonTradingAssetValue
  positions.entries.forM fun (code, position) => validateHolding code position
  let totalAsset := cash + nonTradingAssetValue + positions.sum (·.marketValue)
  let components := max 0 cash + positions.sum fun position => max 0 position.marketValue
  let residual := max 0 (max 0 totalAsset - components)
  return {
    scopeExecutionId
    broker := {
      cash := max 0 cash, initialCapital := components + residual, nonTradingAssetValue := residual
      positions, currentTime := now, currentTradingDate := host.tradingDate now } }

/-- The material of `export_checkpoint`. -/
def material (matcher : PaperBrokerMatching) : PaperMaterial where
  schemaVersion := 2
  policyVersion := matchingPolicyVersion
  scopeExecutionId := matcher.scopeExecutionId
  cash := matcher.broker.cash
  frozenCash := matcher.broker.frozenCash
  initialCapital := matcher.broker.initialCapital
  nonTradingAssetValue := matcher.broker.nonTradingAssetValue
  positions := matcher.broker.positions
  currentTime := matcher.broker.currentTime
  currentTradingDate := matcher.broker.currentTradingDate
  currentPrices := matcher.broker.currentPrices
  marketSnapshots := matcher.broker.marketSnapshots
  orders := matcher.broker.orders
  pendingOrderIds := matcher.broker.pendingOrders
  orderWitnesses := matcher.orderWitnesses
  latestQuoteEvents := matcher.latestQuoteEvents

def exportCheckpoint (matcher : PaperBrokerMatching) : PaperCheckpoint where
  material := matcher.material
  checkpointHash := host.manifestHash (.checkpoint matcher.material)

def sameKeySets {α β : Type} (d : Dict String α) (e : Dict String β) : Bool := d.keys.all e.contains && e.keys.all d.contains

def loadQuote (material : PaperMaterial) (code : String) (quote : PaperQuote) : Except String Unit :=
  match material.latestQuoteEvents.get? code with
  | none => .error "KeyError"
  | some event => do
    checkIdentity event.eventId
    require (code = quote.instrumentCode ∧ event.quoteHash = host.manifestHash (.quote quote)) "PAPER_CHECKPOINT_QUOTE_WITNESS_CONFLICT"
    require (event.reasonCodes = [] ∨ event.reasonCodes = [sameSourceNoNewLiquidity]) "PAPER_CHECKPOINT_QUOTE_REASON_CONFLICT"
    require (quote.sourceTime ≤ event.acceptedAt ∧ event.acceptedAt ≤ material.currentTime) "PAPER_CHECKPOINT_QUOTE_TIME_CONFLICT"

def loadOrder (material : PaperMaterial) (key : String) (order : PaperOrder) : Except String Unit := do
  validateRequest host material.scopeExecutionId order.paperRequest
  require (key = order.id) "PAPER_CHECKPOINT_ORDER_ID_CONFLICT"
  require (material.orderWitnesses.get? key = some (host.manifestHash (.submission order.paperRequest order.submitTime)))
    "PAPER_CHECKPOINT_ORDER_WITNESS_CONFLICT"

def isClose (a b : Rat) : Bool := |a - b| ≤ 1 / 1000000000 * max |a| |b|

def loadFill (order : PaperOrder) : Except String Unit := do
  require (order.isOpen ∧ 0 ≤ order.filledVolume ∧ order.filledVolume < order.request.volume) "PAPER_CHECKPOINT_ACTIVE_ORDER_REQUIRED"
  checkNumber order.filledAmount
  checkNumber order.commission
  checkNumber order.avgPrice
  require (isClose order.commission (calculateCosts host.params order.filledAmount order.request.orderType).total)
    "PAPER_CHECKPOINT_FILL_TOTAL_CONFLICT"

def load (scope : String) (checkpoint : PaperCheckpoint) : Except String PaperBrokerMatching := do
  let material := checkpoint.material
  require (checkpoint.checkpointHash = host.manifestHash (.checkpoint material) ∧ material.scopeExecutionId = scope ∧
    material.schemaVersion = 2 ∧ material.policyVersion = matchingPolicyVersion) "PAPER_CHECKPOINT_BINDING_CONFLICT"
  require (sameKeySets material.latestQuoteEvents material.marketSnapshots) "PAPER_CHECKPOINT_QUOTE_WITNESS_CONFLICT"
  material.marketSnapshots.entries.forM fun (code, quote) => loadQuote host material code quote
  material.orders.entries.forM fun (key, order) => loadOrder host material key order
  require (material.pendingOrderIds.Nodup ∧ ∀ key ∈ material.pendingOrderIds ++ material.orders.keys,
    key ∈ material.pendingOrderIds ↔ (material.orders.get? key).any (·.isOpen)) "PAPER_CHECKPOINT_PENDING_CONFLICT"
  require (sameKeySets material.orderWitnesses material.orders) "PAPER_CHECKPOINT_ORDER_WITNESS_CONFLICT"
  material.orders.values.forM (loadFill host)
  checkNumber material.cash
  checkNumber material.frozenCash
  checkNumber material.nonTradingAssetValue
  return {
    scopeExecutionId := scope
    broker := {
      cash := material.cash, frozenCash := material.frozenCash, initialCapital := material.initialCapital
      nonTradingAssetValue := material.nonTradingAssetValue, positions := material.positions
      currentTime := material.currentTime, currentTradingDate := material.currentTradingDate
      currentPrices := material.currentPrices, marketSnapshots := material.marketSnapshots, orders := material.orders
      pendingOrders := material.pendingOrderIds }
    orderWitnesses := material.orderWitnesses, latestQuoteEvents := material.latestQuoteEvents }

def restore (scopeExecutionId : String) (checkpoint : PaperCheckpoint) : Except String PaperBrokerMatching := do
  checkIdentity scopeExecutionId
  load host scopeExecutionId checkpoint

/-! ## Steps -/

variable (matcher : PaperBrokerMatching)

/-- `_result`: what a step has changed. Orders that are not active any more are dropped with their witnesses. -/
def result (previous : Dict String PaperOrder) (tradeCount : Nat) (duplicate : Bool) (orderId : Option String) (reasonCodes : List String) :
    PaperBrokerMatching × PaperMatchingResult :=
  let broker := matcher.broker
  let changed := broker.orders.entries.filter fun (key, order) => some key = orderId || previous.get? key ≠ some order
  let active := broker.orders.filter fun entry => entry.2.isOpen
  ({ matcher with
      broker := { broker with orders := active, trades := [] }
      orderWitnesses := matcher.orderWitnesses.filter fun entry => active.contains entry.1 },
    { orders := changed.map Prod.snd, trades := broker.trades.drop tradeCount
      account := broker.accountInfo matcher.scopeExecutionId, duplicate, reasonCodes })

def reload (before : PaperCheckpoint) (error : String) : PaperBrokerMatching × Except String PaperMatchingResult :=
  match load host matcher.scopeExecutionId before with
  | .ok restored => (restored, .error error)
  | .error error => (matcher, .error error)

def done (outcome : PaperBrokerMatching × PaperMatchingResult) : PaperBrokerMatching × Except String PaperMatchingResult :=
  (outcome.1, .ok outcome.2)

def checkPlace (orderId : String) (request : PaperRequest) : Except String Unit := do
  checkIdentity orderId
  validateRequest host matcher.scopeExecutionId request

def place (orderId : String) (request : PaperRequest) (now : Int) : PaperBrokerMatching × Except String PaperMatchingResult :=
  match matcher.checkPlace host orderId request with
  | .error error => (matcher, .error error)
  | .ok () =>
    let witness := host.manifestHash (.submission request now)
    match matcher.orderWitnesses.get? orderId with
    | some known =>
      if known ≠ witness then (matcher, .error "PAPER_ORDER_IDEMPOTENCY_CONFLICT")
      else done (matcher.result matcher.broker.orders matcher.broker.trades.length true (some orderId) [])
    | none =>
      let before := matcher.exportCheckpoint host
      match matcher.broker.advanceTime host now with
      | .error error => matcher.reload host before error
      | .ok broker =>
        let broker := broker.placeOrder host orderId request
        match broker.advanceTime host now with
        | .error error => { matcher with broker }.reload host before error
        | .ok broker =>
          let placed := { matcher with broker, orderWitnesses := matcher.orderWitnesses.set orderId witness }
          done (placed.result matcher.broker.orders broker.trades.length false none [])

def checkQuote (eventId : String) (quote : PaperQuote) (acceptedAt : Int) : Except String Unit := do
  checkIdentity eventId
  validateQuote quote
  require (quote.sourceTime ≤ acceptedAt) "PAPER_QUOTE_SOURCE_AFTER_ACCEPTANCE"

def sameSource (quote : PaperQuote) : Bool :=
  (matcher.broker.marketSnapshots.get? quote.instrumentCode).any fun previous => quote.sourceTime = previous.sourceTime

def processQuote (eventId : String) (quote : PaperQuote) (acceptedAt : Int) : PaperBrokerMatching × Except String PaperMatchingResult :=
  match checkQuote eventId quote acceptedAt with
  | .error error => (matcher, .error error)
  | .ok () =>
    let witness := host.manifestHash (.quote quote)
    match matcher.latestQuoteEvents.values.find? (·.eventId = eventId) with
    | some previous =>
      if witness ≠ previous.quoteHash ∨ acceptedAt ≠ previous.acceptedAt then (matcher, .error "PAPER_QUOTE_IDEMPOTENCY_CONFLICT")
      else done (matcher.result matcher.broker.orders matcher.broker.trades.length true none previous.reasonCodes)
    | none =>
      let previous := matcher.broker.marketSnapshots.get? quote.instrumentCode
      if acceptedAt < matcher.broker.currentTime ∨ previous.any (quote.sourceTime < ·.sourceTime) then
        (matcher, .error "PAPER_QUOTE_NOT_CAUSAL")
      else
        let reasonCodes := if matcher.sameSource quote then [sameSourceNoNewLiquidity] else []
        let before := matcher.exportCheckpoint host
        let (broker, error) := matcher.broker.updateMarketData host matcher.scopeExecutionId eventId (!matcher.sameSource quote) quote acceptedAt
        match error with
        | some error => { matcher with broker }.reload host before error
        | none =>
          let quoted := { matcher with
            broker
            latestQuoteEvents := matcher.latestQuoteEvents.set quote.instrumentCode ⟨eventId, witness, acceptedAt, reasonCodes⟩ }
          done (quoted.result matcher.broker.orders matcher.broker.trades.length false none reasonCodes)

def cancel (orderId : String) (now : Int) : PaperBrokerMatching × Except String PaperMatchingResult :=
  match checkIdentity orderId with
  | .error error => (matcher, .error error)
  | .ok () =>
    if !matcher.broker.orders.contains orderId then (matcher, .error "PAPER_ORDER_NOT_FOUND")
    else
      let before := matcher.exportCheckpoint host
      match matcher.broker.advanceTime host now with
      | .error error => matcher.reload host before error
      | .ok broker =>
        let (broker, changed) := broker.cancelOrder orderId
        done ({ matcher with broker }.result matcher.broker.orders broker.trades.length (!changed) (some orderId) [])

end PaperBrokerMatching

inductive PaperCall where
  | place (orderId : String) (request : PaperRequest) (now : Int)
  | processQuote (eventId : String) (quote : PaperQuote) (acceptedAt : Int)
  | cancel (orderId : String) (now : Int)

def PaperBrokerMatching.take (host : PaperHost) (matcher : PaperBrokerMatching) :
    PaperCall → PaperBrokerMatching × Except String PaperMatchingResult
  | .place orderId request now => matcher.place host orderId request now
  | .processQuote eventId quote acceptedAt => matcher.processQuote host eventId quote acceptedAt
  | .cancel orderId now => matcher.cancel host orderId now

end QuantX
