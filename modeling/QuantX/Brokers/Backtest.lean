import QuantX.Trading.MarketRules

/-! # The backtest broker

An account that trades against the quotes of a replay; with a strict order book all orders of a quote share its five
visible levels. Money is exact, times are in microseconds. What only feeds statistics, curves and valuations is left out. -/

namespace QuantX
open Lib

inductive OrderStatus where
  | pending
  | submitted
  | partialFilled
  | filled
  | cancelled
  | rejected
  | expired
  deriving DecidableEq, Repr

/-- What a broker reads off a quote beyond the rule checks: the bar and the visible book, where what is missing counts
    as zero. -/
structure QuoteSnapshot extends MarketDataSnapshot where
  high : Option Rat := none
  low : Option Rat := none
  volume : Option Rat := none
  bidPrice : List Rat := []
  askPrice : List Rat := []
  bidVol : List Rat := []
  askVol : List Rat := []

/-- An order by its number. `queued` says that it stands in `pending_orders`, which has the orders as they were
    placed. -/
structure OrderResponse where
  orderId : Nat
  request : OrderRequest
  status : OrderStatus
  filledVolume : Int := 0
  filledAmount : Rat := 0
  avgPrice : Rat := 0
  commission : Rat := 0
  errorMessage : Option String := none
  queued : Bool := false

def OrderResponse.isOpen (order : OrderResponse) : Bool :=
  order.status = .pending || order.status = .submitted || order.status = .partialFilled

structure Position where
  longVolume : Int := 0
  availableVolume : Int := 0
  frozenVolume : Int := 0
  todayBuyVolume : Int := 0
  deriving DecidableEq, Repr

structure TradeCosts where
  (commission transferFee stampTax total : Rat)
  deriving DecidableEq, Repr

structure TradeRecord where
  orderId : Nat
  instrumentCode : String
  tradeType : OrderType
  price : Rat
  volume : Int
  (amount commission : Rat)
  costs : Option TradeCosts := none
  tradeTime : Option Int
  deriving DecidableEq, Repr

def OrderType.isBuy : OrderType → Bool
  | .buy | .buyToCover => true
  | .sell | .sellShort => false

/-- `max(0.001, min(1.0, float(value or default)))`. -/
def clampParticipation (value default : Rat) : Rat := max (1 / 1000) (min 1 (PyVal.orNumber value default))

structure BacktestParams where
  commissionRate : Rat := 3 / 10000
  slippageRate : Rat := 1 / 10000
  minCommission : Rat := 5
  stampTaxRate : Rat := 5 / 10000
  transferFeeRate : Rat := 1 / 100000
  participationCapPct : Rat := 5 / 100
  bookDepthParticipationPct : Rat := 25 / 100
  strictBookDepth : Bool := false
  noQueueCredit : Bool := false
  deferNewOrders : Bool := false
  strictBookSlippageRate : Rat := 0
  tradingDate : Int → Int
  slippage_nonneg : 0 ≤ strictBookSlippageRate := by decide
  slippage_lt_one : strictBookSlippageRate < 1 := by decide

structure BrokerAccount where
  cash : Rat
  positions : Dict String Position := Dict.empty
  trades : List TradeRecord := []

structure BacktestBroker extends BrokerAccount where
  currentPrices : Dict String Rat := Dict.empty
  marketSnapshots : Dict String QuoteSnapshot := Dict.empty
  currentTime : Option Int := none
  currentTradingDate : Option Int := none
  orders : List OrderResponse := []

variable (p : BacktestParams)

def calculateCosts (amount : Rat) (orderType : OrderType) : TradeCosts :=
  if amount ≤ 0 then ⟨0, 0, 0, 0⟩
  else
    let commission := max (amount * p.commissionRate) p.minCommission
    let transferFee := amount * p.transferFeeRate
    let stampTax := if orderType.isBuy then 0 else amount * p.stampTaxRate
    ⟨commission, transferFee, stampTax, commission + transferFee + stampTax⟩

def TradeCosts.since (cumulative previous : TradeCosts) : TradeCosts where
  commission := max 0 (cumulative.commission - previous.commission)
  transferFee := max 0 (cumulative.transferFee - previous.transferFee)
  stampTax := max 0 (cumulative.stampTax - previous.stampTax)
  total := max 0 (cumulative.total - previous.total)

def updatePositionBuy (positions : Dict String Position) (code : String) (volume : Int) : Dict String Position :=
  let position := positions.getD code {}
  positions.set code { position with longVolume := position.longVolume + volume
                                     todayBuyVolume := position.todayBuyVolume + volume }

def updatePositionSell (positions : Dict String Position) (code : String) (volume : Int) : Dict String Position :=
  match positions.get? code with
  | none => positions
  | some position =>
    let position := { position with longVolume := position.longVolume - volume
                                    availableVolume := max 0 (position.availableVolume - volume) }
    if position.longVolume ≤ 0 then positions.erase code else positions.set code position

def OrderResponse.fill (order : OrderResponse) (price : Rat) (volume : Int) : OrderResponse :=
  let amount := price * volume
  let costs := (calculateCosts p (order.filledAmount + amount) order.request.orderType).since
    (calculateCosts p order.filledAmount order.request.orderType)
  let filledVolume := order.filledVolume + volume
  { order with
    filledVolume, filledAmount := order.filledAmount + amount
    avgPrice := if 0 < filledVolume then (order.filledAmount + amount) / filledVolume else price
    commission := order.commission + costs.total
    status := if order.request.volume ≤ filledVolume then .filled else .partialFilled }

def tradeRecord (order : OrderResponse) (price : Rat) (volume : Int) (time : Option Int) : TradeRecord :=
  let amount := price * volume
  let costs := (calculateCosts p (order.filledAmount + amount) order.request.orderType).since
    (calculateCosts p order.filledAmount order.request.orderType)
  { orderId := order.orderId, instrumentCode := order.request.instrumentCode, tradeType := order.request.orderType
    price, volume, amount, commission := costs.total, costs := some costs, tradeTime := time }

def BrokerAccount.book (account : BrokerAccount) (trade : TradeRecord) : BrokerAccount :=
  if trade.tradeType.isBuy then
    { cash := account.cash - (trade.amount + trade.commission)
      positions := updatePositionBuy account.positions trade.instrumentCode trade.volume
      trades := account.trades ++ [trade] }
  else
    { cash := account.cash + (trade.amount - trade.commission)
      positions := updatePositionSell account.positions trade.instrumentCode trade.volume
      trades := account.trades ++ [trade] }

def executeTrade (account : BrokerAccount) (order : OrderResponse) (price : Rat) (volume : Int) (time : Option Int) :
    BrokerAccount × OrderResponse :=
  (account.book (tradeRecord p order price volume time), order.fill p price volume)

def limitTouched (request : OrderRequest) (fallbackPrice : Rat) (marketData : Option QuoteSnapshot) : Bool :=
  let high := (marketData.bind (·.high)).getD fallbackPrice
  let low := (marketData.bind (·.low)).getD fallbackPrice
  if request.orderType.isBuy then low ≤ request.price else request.price ≤ high

def priceExecutable (request : OrderRequest) (levelPrice : Rat) : Bool :=
  if request.priceType = .market then true
  else if request.orderType.isBuy then levelPrice ≤ request.price
  else request.price ≤ levelPrice

def visibleExecutableVolume (request : OrderRequest) (marketData : QuoteSnapshot) : Int :=
  let prices := if request.orderType.isBuy then marketData.askPrice else marketData.bidPrice
  let volumes := if request.orderType.isBuy then marketData.askVol else marketData.bidVol
  let level := fun (price, volume) =>
    if price ≤ 0 || max 0 volume ≤ 0 || !priceExecutable request price then 0 else max 0 volume
  max 0 (pyInt (((prices.take 5).zip (volumes.take 5)).map level).sum)

def isBlockedByLimit (request : OrderRequest) (marketData : Option QuoteSnapshot) : Bool :=
  match marketData with
  | none => false
  | some quote =>
    let sealedUp := quote.limitUp.any fun limit => limit ≤ quote.price && (request.priceType = .market || limit ≤ request.price)
    let sealedDown := quote.limitDown.any fun limit => quote.price ≤ limit && (request.priceType = .market || request.price ≤ limit)
    if quote.suspended || !quote.isTrading then true
    else if (request.orderType.isBuy && sealedUp) || (request.orderType = .sell && sealedDown) then
      if !p.noQueueCredit then true else visibleExecutableVolume request quote ≤ 0
    else false

/-- `_determine_fill_volume`: what the visible depth, or else a share of the bar's volume, leaves of an order. -/
def determineFillVolume (remaining : Int) (marketData : Option QuoteSnapshot) (request : OrderRequest) : Int :=
  if remaining ≤ 0 then 0
  else
    match marketData with
    | none => remaining
    | some quote =>
      let prices := if request.orderType.isBuy then quote.askPrice else quote.bidPrice
      let volumes := if request.orderType.isBuy then quote.askVol else quote.bidVol
      let level := fun ((price, volume) : Rat × Rat) =>
        if request.orderType.isBuy then if 0 < price && price ≤ request.price then max 0 volume else 0
        else if request.price ≤ price then max 0 volume else 0
      if !prices.isEmpty && !volumes.isEmpty then
        max 0 (min remaining (pyInt (((prices.zip volumes).map level).sum * p.bookDepthParticipationPct)))
      else
        match quote.volume with
        | none => remaining
        | some volume =>
          if volume ≤ 0 then remaining
          else
            let available := pyInt (max 0 (volume * p.participationCapPct))
            if available ≤ 0 then 0 else max 0 (min remaining available)

/-! ## The strict book -/

structure BookLevel where
  price : Rat
  volume : Int
  deriving DecidableEq, Repr

structure StrictBook where
  (ask bid : List BookLevel)
  deriving DecidableEq, Repr

def StrictBook.side (book : StrictBook) (buys : Bool) : List BookLevel := if buys then book.ask else book.bid

def StrictBook.setSide (book : StrictBook) (buys : Bool) (levels : List BookLevel) : StrictBook :=
  if buys then { book with ask := levels } else { book with bid := levels }

def scaledVolume (volume : Rat) : Int := max 0 (pyInt (volume * p.bookDepthParticipationPct))

def strictSide (prices volumes : List Rat) : List BookLevel :=
  if prices.length < 5 || volumes.length < 5 then []
  else ((prices.take 5).zip (volumes.take 5)).map fun level => ⟨level.1, scaledVolume p level.2⟩

def buildStrictBook (quote : QuoteSnapshot) : StrictBook where
  ask := strictSide p quote.askPrice quote.askVol
  bid := strictSide p quote.bidPrice quote.bidVol

/-- The cash that an order needs for `additional` more of its amount. -/
def requiredCash (order : OrderResponse) (additional : Rat) : Rat :=
  additional + max 0 ((calculateCosts p (order.filledAmount + additional) order.request.orderType).total -
    (calculateCosts p order.filledAmount order.request.orderType).total)

def cashTolerance : Rat := 1 / 1000000000

/-- The search of `_affordable_level_volume` between a volume that is affordable and one that bounds it. -/
def searchVolume (affordable : Int → Bool) (low high : Int) : Int :=
  if low < high then
    let middle := (low + high + 1) / 2
    if affordable middle then searchVolume affordable middle high else searchVolume affordable low (middle - 1)
  else low
termination_by (high - low).toNat
decreasing_by all_goals omega

def affordableLevelVolume (order : OrderResponse) (levelPrice : Rat) (requestedVolume : Int) (priorFillAmount availableCash : Rat) : Int :=
  searchVolume (fun volume => requiredCash p order (priorFillAmount + volume * levelPrice) ≤ availableCash + cashTolerance)
    0 (max 0 requestedVolume)

def slippedPrice (levelPrice priceTick : Rat) (isBuy : Bool) : Except String Rat :=
  if p.strictBookSlippageRate = 0 then .ok levelPrice
  else if priceTick ≤ 0 then .error "strict book slippage requires a positive price tick"
  else if isBuy then .ok ((levelPrice * (1 + p.strictBookSlippageRate) / priceTick).ceil * priceTick)
  else .ok ((levelPrice * (1 - p.strictBookSlippageRate) / priceTick).floor * priceTick)

structure BookTaker where
  order : OrderResponse
  requested : Int
  (priceTick cash : Rat)
  availableSell : Int

def takeVolume (taker : BookTaker) (filled : Int) (amount levelPrice : Rat) (available : Int) : Int :=
  let take := min (taker.requested - filled) available
  if taker.order.request.orderType.isBuy then affordableLevelVolume p taker.order levelPrice take amount taker.cash
  else min take (max 0 (taker.availableSell - filled))

/-- The levels from best to worst: what is filled, its amount and what is left. A buy stops where the cash does not
    afford one more share. -/
def takeLevels (taker : BookTaker) : List BookLevel → Int → Rat → Except String (Int × Rat × List BookLevel)
  | [], filled, amount => .ok (filled, amount, [])
  | level :: levels, filled, amount =>
    if taker.requested ≤ filled then .ok (filled, amount, level :: levels)
    else if level.price ≤ 0 ∨ level.volume ≤ 0 then do
      let (filled, amount, rest) ← takeLevels taker levels filled amount
      return (filled, amount, level :: rest)
    else do
      let price ← slippedPrice p level.price taker.priceTick taker.order.request.orderType.isBuy
      if !priceExecutable taker.order.request price then
        let (filled, amount, rest) ← takeLevels taker levels filled amount
        return (filled, amount, level :: rest)
      let take := takeVolume p taker filled amount price level.volume
      if taker.order.request.orderType.isBuy ∧ take ≤ 0 then return (filled, amount, level :: levels)
      let (filled, amount, rest) ← takeLevels taker levels (filled + take) (amount + take * price)
      return (filled, amount, { level with volume := level.volume - take } :: rest)

/-- `_consume_strict_book`: the volume and the mean price of a fill, and the book that is left. -/
def consumeStrictBook (account : BrokerAccount) (remaining : Int) (marketData : Option QuoteSnapshot) (order : OrderResponse)
    (book : Option StrictBook) : Except String (Int × Rat × Option StrictBook) :=
  match marketData, book with
  | some quote, some book =>
    let buys := order.request.orderType.isBuy
    if remaining ≤ 0 then .ok (0, 0, some book)
    else if (book.side buys).length ≠ 5 then .ok (0, 0, some book)
    else do
      let availableSell := if buys then 0
        else max 0 ((account.positions.get? order.request.instrumentCode).elim 0 (·.availableVolume))
      let taker : BookTaker := ⟨order, remaining, quote.priceTick, account.cash, availableSell⟩
      let (filled, amount, levels) ← takeLevels p taker (book.side buys) 0 0
      let book := book.setSide buys levels
      return if filled ≤ 0 then (0, 0, some book) else (filled, amount / filled, some book)
  | _, book => .ok (0, 0, book)

structure Matching where
  account : BrokerAccount
  book : Option StrictBook

structure QuoteContext where
  instrumentCode : String
  price : Rat
  marketData : Option QuoteSnapshot
  time : Option Int

def shouldExecute (context : QuoteContext) (request : OrderRequest) : Bool :=
  match request.priceType with
  | .limit => limitTouched request context.price context.marketData
  | .market => true
  | _ => false

def matchable (context : QuoteContext) (order : OrderResponse) : Bool :=
  order.queued && order.request.instrumentCode = context.instrumentCode &&
    !isBlockedByLimit p order.request context.marketData && shouldExecute context order.request

def matchedFill (context : QuoteContext) (matching : Matching) (order : OrderResponse) :
    Except String (Int × Rat × Option StrictBook) :=
  let remaining := order.request.volume - order.filledVolume
  if p.strictBookDepth then consumeStrictBook p matching.account remaining context.marketData order matching.book
  else .ok (determineFillVolume p remaining context.marketData order.request, order.request.price, matching.book)

def matchOrder (context : QuoteContext) (matching : Matching) (order : OrderResponse) :
    Except String (Matching × OrderResponse × Bool) :=
  if !matchable p context order then .ok (matching, order, false)
  else do
    let (volume, price, book) ← matchedFill p context matching order
    if volume ≤ 0 then return ({ matching with book }, order, false)
    let (account, order) := executeTrade p matching.account order price volume context.time
    return (⟨account, book⟩, order, decide (order.request.volume ≤ order.filledVolume))

def matchOrders (context : QuoteContext) : Matching → List OrderResponse → Matching × List (OrderResponse × Bool) × Option String
  | matching, [] => (matching, [], none)
  | matching, order :: orders =>
    match matchOrder p context matching order with
    | .error e => (matching, (order :: orders).map (·, false), some e)
    | .ok (matching, order, done) =>
      let (matching, rest, error) := matchOrders context matching orders
      (matching, (order, done) :: rest, error)

namespace BacktestBroker
variable (broker : BacktestBroker)

/-- `_process_pending_orders`. Filled orders leave the queue at the end, unless an error has stopped the loop. -/
def processPendingOrders (code : String) (price : Rat) : BacktestBroker × Option String :=
  let marketData := broker.marketSnapshots.get? code
  let book := if p.strictBookDepth then marketData.map (buildStrictBook p) else none
  let (matching, matched, error) := matchOrders p ⟨code, price, marketData, broker.currentTime⟩ ⟨broker.toBrokerAccount, book⟩ broker.orders
  let leave := fun (matched : OrderResponse × Bool) =>
    if error.isNone && matched.2 then { matched.1 with queued := false } else matched.1
  ({ broker with toBrokerAccount := matching.account, orders := matched.map leave }, error)

def reservedPendingBuyCash : Rat :=
  ((broker.orders.filter fun order => order.queued && order.request.orderType.isBuy).map fun order =>
    let remaining : Int := max 0 (order.request.volume - order.filledVolume)
    let amount : Rat := remaining * max 0 order.request.price
    amount + max 0 ((calculateCosts p (order.filledAmount + amount) order.request.orderType).total - order.commission)).sum

def reservedPendingSellVolume (code : String) : Int :=
  ((broker.orders.filter fun order => order.queued && order.request.instrumentCode = code && !order.request.orderType.isBuy).map
    fun order => max 0 (order.request.volume - order.filledVolume)).sum

def validateOrder (request : OrderRequest) : Bool :=
  if request.orderType.isBuy then
    let amount := request.volume * request.price
    let available := if p.deferNewOrders then broker.cash - broker.reservedPendingBuyCash p else broker.cash
    amount + (calculateCosts p amount request.orderType).total ≤ available
  else
    match broker.positions.get? request.instrumentCode with
    | none => false
    | some position =>
      let available := if p.deferNewOrders then position.availableVolume - broker.reservedPendingSellVolume request.instrumentCode
        else position.availableVolume
      request.volume ≤ available

def marketPrice (request : OrderRequest) (currentPrice : Rat) : Rat :=
  if request.orderType.isBuy then currentPrice + currentPrice * p.slippageRate else currentPrice - currentPrice * p.slippageRate

def executeMarketOrder (order : OrderResponse) : BrokerAccount × OrderResponse :=
  let currentPrice := broker.currentPrices.getD order.request.instrumentCode 0
  if currentPrice = 0 then
    (broker.toBrokerAccount, { order with status := .rejected, errorMessage := some s!"无法获取 {order.request.instrumentCode} 的当前价格" })
  else if isBlockedByLimit p order.request (broker.marketSnapshots.get? order.request.instrumentCode) then
    (broker.toBrokerAccount, { order with status := .rejected, errorMessage := some "涨跌停或停牌约束下无法成交" })
  else executeTrade p broker.toBrokerAccount order (marketPrice p order.request currentPrice) order.request.volume broker.currentTime

/-- `place_order`. The number of an order is how many there were before it. -/
def placeOrder (request : OrderRequest) : BacktestBroker :=
  let order : OrderResponse := { orderId := broker.orders.length, request, status := .pending }
  if request.volume ≤ 0 then
    { broker with orders := broker.orders ++ [{ order with status := .rejected, errorMessage := some "订单数量必须大于0" }] }
  else if !broker.validateOrder p request then
    { broker with orders := broker.orders ++ [{ order with status := .rejected, errorMessage := some "资金或持仓不足" }] }
  else if request.priceType = .market && !p.deferNewOrders then
    let (account, order) := broker.executeMarketOrder p order
    { broker with toBrokerAccount := account, orders := broker.orders ++ [order] }
  else { broker with orders := broker.orders ++ [{ order with status := .submitted, queued := true }] }

/-- `cancel_order`, with what it returns. -/
def cancelOrder (orderId : Nat) : BacktestBroker × Bool :=
  let found := fun (order : OrderResponse) => decide (order.orderId = orderId) && order.isOpen
  let orders := broker.orders.map fun order =>
    if found order then { order with status := .cancelled, queued := false } else order
  ({ broker with orders }, broker.orders.any found)

def settleIfNewDay (tradingDate : Int) : BacktestBroker :=
  if broker.currentTradingDate = some tradingDate then broker
  else
    { broker with
      currentTradingDate := some tradingDate
      positions := broker.positions.map fun position =>
        { position with availableVolume := max 0 (position.longVolume - position.frozenVolume), todayBuyVolume := 0 } }

def expireAtMs (request : OrderRequest) : Int :=
  ((PyVal.get request.metadata "order_expire_at_ms").or (.int 0)).optionalInt.getD 0

def isExpired (now : Int) (order : OrderResponse) : Bool :=
  order.queued && 0 < expireAtMs order.request && expireAtMs order.request ≤ now.tdiv 1000

def expirePendingOrders (now : Int) : BacktestBroker :=
  { broker with orders := broker.orders.map fun order =>
      if isExpired now order then
        { order with status := .expired, queued := false, errorMessage := some "订单超过策略有效期，已按回测规则过期" }
      else order }

/-- `update_market_data`, with the error that stops it. -/
def updateMarketData (code : String) (price : Rat) (time : Int) (marketData : Option QuoteSnapshot) : BacktestBroker × Option String :=
  let quote := marketData.getD { price := price }
  let broker := { broker with
    currentPrices := broker.currentPrices.set code price, currentTime := some time
    marketSnapshots := broker.marketSnapshots.set code quote }
  ((broker.settleIfNewDay (p.tradingDate time)).expirePendingOrders time).processPendingOrders p code price

def advanceTime (time : Int) : Except String BacktestBroker :=
  if broker.currentTime.any (time < ·) then .error "BacktestBroker time cannot move backwards"
  else .ok (({ broker with currentTime := some time }.settleIfNewDay (p.tradingDate time)).expirePendingOrders time)

end BacktestBroker

inductive BrokerEvent where
  | placeOrder (request : OrderRequest)
  | cancelOrder (orderId : Nat)
  | updateMarketData (code : String) (price : Rat) (time : Int) (marketData : Option QuoteSnapshot)
  | advanceTime (time : Int)

def BacktestBroker.handle (broker : BacktestBroker) : BrokerEvent → BacktestBroker
  | .placeOrder request => broker.placeOrder p request
  | .cancelOrder orderId => (broker.cancelOrder orderId).1
  | .updateMarketData code price time marketData => (broker.updateMarketData p code price time marketData).1
  | .advanceTime time => (broker.advanceTime p time).toOption.getD broker

end QuantX
