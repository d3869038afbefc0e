import QuantX.Theorems.Brokers.Account
import QuantX.Theorems.Brokers.Quote

namespace QuantX
open Lib

variable {p : BacktestParams} {start account : BrokerAccount} {broker : BacktestBroker} {order : OrderResponse} {trade : TradeRecord}
  {code : String} {volume : Int} {day : Option Int} {time : Int}

theorem sum_filter_map {ι M : Type} [AddMonoid M] (q : ι → Bool) (f : ι → M) (items : List ι) :
    ((items.filter q).map f).sum = (items.map fun item => if q item then f item else 0).sum := by
  induction items with
  | nil => rfl
  | cons item items ih =>
    rw [List.map_cons, List.sum_cons, ← ih]
    by_cases hitem : q item = true
    · rw [List.filter_cons_of_pos hitem, List.map_cons, List.sum_cons, if_pos hitem]
    · rw [List.filter_cons_of_neg hitem, if_neg hitem, zero_add]

def buyNeed (p : BacktestParams) (order : OrderResponse) : Rat :=
  if order.queued && order.request.orderType.isBuy then
    let remaining : Int := max 0 (order.request.volume - order.filledVolume)
    let amount : Rat := remaining * max 0 order.request.price
    amount + max 0 ((calculateCosts p (order.filledAmount + amount) order.request.orderType).total - order.commission)
  else 0

/-- The volume of an instrument that an order of the queue still needs. -/
def sellNeed (code : String) (order : OrderResponse) : Int :=
  if order.queued && order.request.instrumentCode = code && !order.request.orderType.isBuy then
    max 0 (order.request.volume - order.filledVolume)
  else 0

theorem reservedPendingBuyCash_eq (p : BacktestParams) (broker : BacktestBroker) :
    broker.reservedPendingBuyCash p = (broker.orders.map (buyNeed p)).sum := sum_filter_map _ _ _

theorem reservedPendingSellVolume_eq (broker : BacktestBroker) (code : String) :
    broker.reservedPendingSellVolume code = (broker.orders.map (sellNeed code)).sum := sum_filter_map _ _ _

theorem buyNeed_nonneg (p : BacktestParams) (order : OrderResponse) : 0 ≤ buyNeed p order := by
  unfold buyNeed
  split
  · refine add_nonneg (mul_nonneg ?_ (le_max_left _ _)) (le_max_left _ _)
    exact_mod_cast le_max_left 0 (order.request.volume - order.filledVolume)
  · exact le_rfl

theorem sellNeed_nonneg (code : String) (order : OrderResponse) : 0 ≤ sellNeed code order := by
  unfold sellNeed
  split
  · exact le_max_left _ _
  · exact le_rfl

theorem buyNeed_idle (h : order.queued = false) : buyNeed p order = 0 := if_neg (by simp [h])
theorem sellNeed_idle (h : order.queued = false) : sellNeed code order = 0 := if_neg (by simp [h])

theorem buyNeed_fill (hpaid : PaidUp p order) (hfees : FairFees p) (hqueued : order.queued = true) (hprice : 0 ≤ order.request.price)
    (hpositive : 0 < volume) (hremaining : volume ≤ order.request.volume - order.filledVolume) (time : Int) :
    buyNeed p (order.fill p order.request.price volume) =
      buyNeed p order + if order.request.orderType.isBuy then (tradeRecord p order order.request.price volume (some time)).cashFlow else 0 := by
  by_cases hbuy : order.request.orderType.isBuy = true
  · have hworth : 0 ≤ order.request.price * volume := mul_nonneg hprice (by exact_mod_cast hpositive.le)
    have hleft : max 0 (order.request.volume - order.filledVolume) = order.request.volume - order.filledVolume := max_eq_right (by omega)
    have hleft' : max 0 (order.request.volume - (order.filledVolume + volume)) = order.request.volume - (order.filledVolume + volume) :=
      max_eq_right (by omega)
    have hamounts : order.filledAmount + order.request.price * volume +
        ((order.request.volume - (order.filledVolume + volume) : Int) : Rat) * order.request.price =
          order.filledAmount + ((order.request.volume - order.filledVolume : Int) : Rat) * order.request.price := by
      push_cast
      ring
    have hpaid' := hpaid.fill hfees hworth
    have hall : 0 ≤ ((order.request.volume - order.filledVolume : Int) : Rat) * order.request.price :=
      mul_nonneg (by exact_mod_cast (show (0 : Int) ≤ order.request.volume - order.filledVolume by omega)) hprice
    have hafter : 0 ≤ ((order.request.volume - (order.filledVolume + volume) : Int) : Rat) * order.request.price :=
      mul_nonneg (by exact_mod_cast (show (0 : Int) ≤ order.request.volume - (order.filledVolume + volume) by omega)) hprice
    have hcosts : (calculateCosts p order.filledAmount order.request.orderType).total ≤ (calculateCosts p (order.filledAmount +
        ((order.request.volume - order.filledVolume : Int) : Rat) * order.request.price) order.request.orderType).total :=
      calculateCosts_mono hfees (le_add_of_nonneg_right hall)
    have hcosts' : (calculateCosts p (order.filledAmount + order.request.price * volume) order.request.orderType).total ≤
        (calculateCosts p (order.filledAmount + order.request.price * volume +
          ((order.request.volume - (order.filledVolume + volume) : Int) : Rat) * order.request.price) order.request.orderType).total :=
      calculateCosts_mono hfees (le_add_of_nonneg_right hafter)
    rw [if_pos hbuy, TradeRecord.cashFlow, if_pos (show (tradeRecord p order order.request.price volume (some time)).tradeType.isBuy = true from hbuy)]
    unfold buyNeed
    rw [if_pos (by simp [hqueued, hbuy]), if_pos (by simp [hqueued, hbuy])]
    dsimp only
    rw [hpaid'.commission, hpaid.commission, fill_filledVolume, fill_filledAmount, fill_request, max_eq_right hprice, hleft, hleft', hamounts]
    rw [hamounts] at hcosts'
    rw [max_eq_right (sub_nonneg.mpr hcosts), max_eq_right (sub_nonneg.mpr hcosts')]
    simp only [tradeRecord, since_total hfees hworth]
    push_cast
    ring
  · rw [if_neg hbuy, add_zero]
    unfold buyNeed
    rw [if_neg (by simp [hbuy]), if_neg (by simp [hbuy])]

theorem sellNeed_fill {price : Rat} (hqueued : order.queued = true) (hpositive : 0 < volume)
    (hremaining : volume ≤ order.request.volume - order.filledVolume) :
    sellNeed code (order.fill p price volume) =
      sellNeed code order - if order.request.instrumentCode = code ∧ order.request.orderType.isBuy = false then volume else 0 := by
  unfold sellNeed
  by_cases hsell : order.request.instrumentCode = code ∧ order.request.orderType.isBuy = false
  · rw [if_pos (by simp [hqueued, hsell]), if_pos (by simp [hqueued, hsell]), if_pos hsell, fill_filledVolume, fill_request]
    omega
  · have hother : ¬ (order.queued && decide (order.request.instrumentCode = code) && !order.request.orderType.isBuy) = true := by
      simpa [hqueued] using hsell
    rw [if_neg hother, if_neg hsell, sub_zero]
    exact if_neg hother

def settledBuy (p : BacktestParams) (day : Option Int) (trade : TradeRecord) : Bool :=
  trade.tradeType.isBuy && trade.tradeTime.any fun time => day.any fun day => p.tradingDate time < day

def freshBuy (p : BacktestParams) (day : Option Int) (code : String) (trade : TradeRecord) : Prop :=
  trade.instrumentCode = code ∧ trade.tradeType.isBuy = true ∧ settledBuy p day trade = false

instance : DecidablePred (freshBuy p day code) := fun _ => inferInstanceAs (Decidable (_ ∧ _ ∧ _))

structure Ledgered (p : BacktestParams) (day : Option Int) (start account : BrokerAccount) : Prop extends AccountBooked start account where
  today : ∀ code, ((account.trades.filter (freshBuy p day code ·)).map (·.volume)).sum ≤ account.todayBuyVolume code
  dated : ∀ trade ∈ account.trades, ∃ time date, trade.tradeTime = some time ∧ day = some date ∧ p.tradingDate time ≤ date

theorem book_todayBuyVolume (h : AllHeld account.positions) (hdeliver : Deliverable account trade) (code : String) :
    (account.book trade).todayBuyVolume code =
      account.todayBuyVolume code + if trade.instrumentCode = code ∧ trade.tradeType.isBuy = true then trade.volume else 0 := by
  obtain ⟨hvolume, hsell⟩ := hdeliver
  unfold BrokerAccount.book
  split
  · rename_i hbuy
    simp only [BrokerAccount.todayBuyVolume, updatePositionBuy, Dict.getD_set, hbuy, and_true]
    split
    · rename_i hcode
      rw [hcode]
    · exact (add_zero _).symm
  · rename_i hside
    rw [if_neg (fun hbuy => hside hbuy.2), add_zero]
    have hle := hsell (by simpa using hside)
    simp only [BrokerAccount.todayBuyVolume, updatePositionSell]
    cases hget : account.positions.get? trade.instrumentCode with
    | none => rfl
    | some own =>
      have htoday := (h _ own hget).today
      rw [BrokerAccount.todayBuyVolume, BrokerAccount.longVolume, Dict.getD, hget, Option.getD_some] at hle
      dsimp only
      by_cases hcode : trade.instrumentCode = code
      · subst hcode
        split
        · rename_i hempty
          rw [Dict.getD, Dict.get?_erase, if_pos rfl, Dict.getD, hget]
          dsimp
          omega
        · rw [Dict.getD_set, if_pos rfl, Dict.getD, hget]
          rfl
      · split
        · rw [Dict.getD, Dict.get?_erase, if_neg hcode, Dict.getD]
        · rw [Dict.getD_set, if_neg hcode]

theorem Ledgered.book (h : Ledgered p day start account) (hdeliver : Deliverable account trade) (htime : trade.tradeTime = some time)
    (hday : day = some (p.tradingDate time)) : Ledgered p day start (account.book trade) where
  toAccountBooked := h.toAccountBooked.book hdeliver
  today code := by
    have hfresh : freshBuy p day code trade ↔ trade.instrumentCode = code ∧ trade.tradeType.isBuy = true := by
      simp [freshBuy, settledBuy, htime, hday]
    rw [book_trades, sum_filter_concat, book_todayBuyVolume h.held hdeliver]
    simp only [hfresh]
    exact add_le_add_left (h.today code) _
  dated trade' hmem := by
    rw [book_trades] at hmem
    rcases List.mem_append.mp hmem with hmem | hmem
    · exact h.dated trade' hmem
    · obtain rfl := List.mem_singleton.mp hmem
      exact ⟨time, _, htime, hday, le_rfl⟩

end QuantX
