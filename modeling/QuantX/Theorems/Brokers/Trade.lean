import QuantX.Brokers.Backtest
import Mathlib.Tactic.Linarith
import Mathlib.Tactic.Ring

namespace QuantX
open Lib

theorem noSlippage_nonneg : (0 : Rat) ≤ 0 := le_rfl
theorem noSlippage_lt_one : (0 : Rat) < 1 := by decide

structure FairFees (p : BacktestParams) : Prop where
  commission : 0 ≤ p.commissionRate
  minimum : 0 ≤ p.minCommission
  stampTax : 0 ≤ p.stampTaxRate
  transferFee : 0 ≤ p.transferFeeRate

variable {p : BacktestParams} {amount amount' price : Rat} {orderType : OrderType} {account : BrokerAccount} {order : OrderResponse}
  {trade : TradeRecord} {code : String} {volume : Int} {position : Position} {positions : Dict String Position}

theorem calculateCosts_zero (p : BacktestParams) (orderType : OrderType) : (calculateCosts p 0 orderType).total = 0 := by
  simp [calculateCosts]

theorem calculateCosts_nonneg (h : FairFees p) : 0 ≤ (calculateCosts p amount orderType).total := by
  unfold calculateCosts
  split
  · exact le_rfl
  · rename_i hamount
    have hpos := (not_le.mp hamount).le
    have hcommission : 0 ≤ max (amount * p.commissionRate) p.minCommission := le_max_of_le_right h.minimum
    have htransfer := mul_nonneg hpos h.transferFee
    have hstamp := mul_nonneg hpos h.stampTax
    split <;> linarith

theorem calculateCosts_mono (h : FairFees p) (hle : amount ≤ amount') :
    (calculateCosts p amount orderType).total ≤ (calculateCosts p amount' orderType).total := by
  by_cases hamount : amount ≤ 0
  · have hzero : (calculateCosts p amount orderType).total = 0 := by rw [calculateCosts, if_pos hamount]
    rw [hzero]
    exact calculateCosts_nonneg h
  · have hamount' : ¬ amount' ≤ 0 := fun hle' => hamount (hle.trans hle')
    have hcommission : max (amount * p.commissionRate) p.minCommission ≤ max (amount' * p.commissionRate) p.minCommission :=
      max_le_max_right _ (mul_le_mul_of_nonneg_right hle h.commission)
    have htransfer := mul_le_mul_of_nonneg_right hle h.transferFee
    have hstamp := mul_le_mul_of_nonneg_right hle h.stampTax
    rw [calculateCosts, if_neg hamount, calculateCosts, if_neg hamount']
    split <;> linarith

theorem since_total (h : FairFees p) (hamount : 0 ≤ amount') :
    ((calculateCosts p (amount + amount') orderType).since (calculateCosts p amount orderType)).total =
      (calculateCosts p (amount + amount') orderType).total - (calculateCosts p amount orderType).total :=
  max_eq_right (sub_nonneg.mpr (calculateCosts_mono h (le_add_of_nonneg_right hamount)))

structure PaidUp (p : BacktestParams) (order : OrderResponse) : Prop where
  amount : 0 ≤ order.filledAmount
  commission : order.commission = (calculateCosts p order.filledAmount order.request.orderType).total

theorem PaidUp.fill (h : PaidUp p order) (hfees : FairFees p) (hamount : 0 ≤ price * volume) : PaidUp p (order.fill p price volume) where
  amount := add_nonneg h.amount hamount
  commission := by
    simp only [OrderResponse.fill, since_total hfees hamount, h.commission]
    ring

@[simp] theorem fill_filledVolume : (order.fill p price volume).filledVolume = order.filledVolume + volume := rfl
@[simp] theorem fill_filledAmount : (order.fill p price volume).filledAmount = order.filledAmount + price * volume := rfl
@[simp] theorem fill_request : (order.fill p price volume).request = order.request := rfl
@[simp] theorem fill_orderId : (order.fill p price volume).orderId = order.orderId := rfl
@[simp] theorem fill_queued : (order.fill p price volume).queued = order.queued := rfl

theorem fill_status : (order.fill p price volume).status ≠ .cancelled := by
  simp only [OrderResponse.fill]
  split <;> simp

/-! ## Cash and volume -/

def TradeRecord.cashFlow (trade : TradeRecord) : Rat :=
  if trade.tradeType.isBuy then -(trade.amount + trade.commission) else trade.amount - trade.commission

def TradeRecord.volumeFlow (trade : TradeRecord) : Int := if trade.tradeType.isBuy then trade.volume else -trade.volume

def BrokerAccount.longVolume (account : BrokerAccount) (code : String) : Int := (account.positions.getD code {}).longVolume

def BrokerAccount.availableVolume (account : BrokerAccount) (code : String) : Int := (account.positions.getD code {}).availableVolume

structure Held (position : Position) : Prop where
  available : 0 ≤ position.availableVolume
  today : 0 ≤ position.todayBuyVolume
  frozen : 0 ≤ position.frozenVolume
  within : position.availableVolume + position.todayBuyVolume ≤ position.longVolume

def AllHeld (positions : Dict String Position) : Prop := ∀ code position, positions.get? code = some position → Held position

theorem AllHeld.getD (h : AllHeld positions) (code : String) : Held (positions.getD code {}) := by
  rw [Dict.getD]
  cases hcode : positions.get? code with
  | none => exact ⟨le_rfl, le_rfl, le_rfl, le_rfl⟩
  | some position => exact h code position hcode

theorem book_cash : (account.book trade).cash = account.cash + trade.cashFlow := by
  unfold BrokerAccount.book TradeRecord.cashFlow
  split
  · exact sub_eq_add_neg _ _
  · rfl

@[simp] theorem book_trades : (account.book trade).trades = account.trades ++ [trade] := by
  unfold BrokerAccount.book
  split <;> rfl

def BrokerAccount.todayBuyVolume (account : BrokerAccount) (code : String) : Int := (account.positions.getD code {}).todayBuyVolume

def Deliverable (account : BrokerAccount) (trade : TradeRecord) : Prop :=
  0 < trade.volume ∧ (trade.tradeType.isBuy = false →
    trade.volume + account.todayBuyVolume trade.instrumentCode ≤ account.longVolume trade.instrumentCode)

theorem book_held (h : AllHeld account.positions) (hdeliver : Deliverable account trade) : AllHeld (account.book trade).positions := by
  obtain ⟨hvolume, hsell⟩ := hdeliver
  unfold BrokerAccount.book
  split
  · intro code position hget
    dsimp only [updatePositionBuy] at hget
    rw [Dict.get?_set] at hget
    split at hget
    · obtain rfl := Option.some.inj hget
      obtain ⟨havailable, htoday, hfrozen, hwithin⟩ := h.getD trade.instrumentCode
      refine ⟨havailable, ?_, hfrozen, ?_⟩ <;> dsimp only <;> omega
    · exact h code position hget
  · rename_i hside
    have hle := hsell (by simpa using hside)
    intro code position hget
    dsimp only [updatePositionSell] at hget
    cases hown : account.positions.get? trade.instrumentCode with
    | none =>
      rw [hown] at hget
      exact h code position hget
    | some own =>
      obtain ⟨havailable, htoday, hfrozen, hwithin⟩ := h _ own hown
      rw [BrokerAccount.todayBuyVolume, BrokerAccount.longVolume, Dict.getD, hown, Option.getD_some] at hle
      rw [hown] at hget
      dsimp only at hget
      split at hget
      · rw [Dict.get?_erase] at hget
        split at hget
        · cases hget
        · exact h code position hget
      · rw [Dict.get?_set] at hget
        split at hget
        · obtain rfl := Option.some.inj hget
          refine ⟨le_max_left _ _, htoday, hfrozen, ?_⟩
          dsimp only
          omega
        · exact h code position hget

theorem book_longVolume (h : AllHeld account.positions) (hdeliver : Deliverable account trade) (code : String) :
    (account.book trade).longVolume code = account.longVolume code + if trade.instrumentCode = code then trade.volumeFlow else 0 := by
  obtain ⟨hvolume, hsell⟩ := hdeliver
  unfold BrokerAccount.book TradeRecord.volumeFlow
  split
  · simp only [BrokerAccount.longVolume, updatePositionBuy, Dict.getD_set]
    split
    · rename_i hcode
      rw [hcode]
    · exact (add_zero _).symm
  · rename_i hside
    have hle := hsell (by simpa using hside)
    have hown := h.getD trade.instrumentCode
    cases hget : account.positions.get? trade.instrumentCode with
    | none =>
      rw [BrokerAccount.todayBuyVolume, BrokerAccount.longVolume, Dict.getD, hget] at hle
      exact absurd hvolume (not_lt.mpr (by simpa using hle))
    | some own =>
      rw [Dict.getD, hget, Option.getD_some] at hown
      rw [BrokerAccount.todayBuyVolume, BrokerAccount.longVolume, Dict.getD, hget, Option.getD_some] at hle
      have htoday := hown.today
      simp only [BrokerAccount.longVolume, updatePositionSell, hget]
      by_cases hcode : trade.instrumentCode = code
      · subst hcode
        split
        · rename_i hempty
          rw [Dict.getD, Dict.get?_erase, if_pos rfl, Dict.getD, hget, if_pos rfl]
          dsimp
          omega
        · rw [Dict.getD_set, if_pos rfl, Dict.getD, hget, if_pos rfl]
          rfl
      · rw [if_neg hcode, add_zero]
        split
        · rw [Dict.getD, Dict.get?_erase, if_neg hcode, Dict.getD]
        · rw [Dict.getD_set, if_neg hcode]

end QuantX
