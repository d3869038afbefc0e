import QuantX.Theorems.Brokers.Match

namespace QuantX
open Lib

variable {p : BacktestParams} {start account : BrokerAccount} {order order' : OrderResponse} {trade : TradeRecord}
  {orders first rest : List OrderResponse} {context : QuoteContext} {matching next : Matching} {done : Bool}
variable {volume : Int}

/-- What an account's trades have moved since `start` is what it has. -/
structure AccountBooked (start account : BrokerAccount) : Prop where
  cash : account.cash = start.cash + (account.trades.map (·.cashFlow)).sum
  volume : ∀ code, account.longVolume code =
    start.longVolume code + ((account.trades.filter (·.instrumentCode = code)).map (·.volumeFlow)).sum
  held : AllHeld account.positions

structure Accounted (start account : BrokerAccount) : Prop extends AccountBooked start account where
  solvent : ∀ before trade after, account.trades = before ++ trade :: after → trade.tradeType.isBuy = true →
    -cashTolerance ≤ start.cash + ((before ++ [trade]).map (·.cashFlow)).sum

theorem AccountBooked.fresh (htrades : start.trades = []) (hheld : AllHeld start.positions) : AccountBooked start start where
  cash := by simp [htrades]
  volume code := by simp [htrades]
  held := hheld

theorem Accounted.fresh (htrades : start.trades = []) (hheld : AllHeld start.positions) : Accounted start start where
  toAccountBooked := .fresh htrades hheld
  solvent before trade after hsplit := by simp [htrades] at hsplit

theorem AccountBooked.longVolume_nonneg (h : AccountBooked start account) (code : String) : 0 ≤ account.longVolume code := by
  obtain ⟨havailable, htoday, hfrozen, hwithin⟩ := h.held.getD code
  exact (add_nonneg havailable htoday).trans hwithin

theorem sum_filter_concat {M : Type} [AddMonoid M] (q : TradeRecord → Prop) [DecidablePred q] (flow : TradeRecord → M)
    (trades : List TradeRecord) (trade : TradeRecord) : (((trades ++ [trade]).filter (q ·)).map flow).sum =
      ((trades.filter (q ·)).map flow).sum + if q trade then flow trade else 0 := by
  rw [List.filter_append, List.map_append, List.sum_append]
  congr 1
  by_cases hkind : q trade
  · rw [if_pos hkind, List.filter_cons_of_pos (by simpa using hkind), List.filter_nil, List.map_singleton, List.sum_singleton]
  · rw [if_neg hkind, List.filter_cons_of_neg (by simpa using hkind)]
    rfl

theorem AccountBooked.book (h : AccountBooked start account) (hdeliver : Deliverable account trade) : AccountBooked start (account.book trade) where
  cash := by
    rw [book_cash, book_trades, h.cash, List.map_append, List.sum_append, List.map_singleton, List.sum_singleton, add_assoc]
  volume code := by rw [book_longVolume h.held hdeliver, book_trades, h.volume code, sum_filter_concat, add_assoc]
  held := book_held h.held hdeliver

theorem split_concat {trades before after : List TradeRecord} {trade last : TradeRecord} (hsplit : trades ++ [last] = before ++ trade :: after) :
    before = trades ∧ trade = last ∨ ∃ after, trades = before ++ trade :: after := by
  rcases List.eq_nil_or_concat' after with rfl | ⟨after, last', rfl⟩
  · obtain ⟨rfl, hlast⟩ := List.append_inj' hsplit rfl
    exact .inl ⟨rfl, (List.singleton_inj.mp hlast).symm⟩
  · rw [← List.cons_append, ← List.append_assoc] at hsplit
    exact .inr ⟨after, (List.append_inj' hsplit rfl).1⟩

theorem Accounted.book (h : Accounted start account) (hdeliver : Deliverable account trade)
    (hpays : trade.tradeType.isBuy = true → -cashTolerance ≤ account.cash + trade.cashFlow) : Accounted start (account.book trade) where
  toAccountBooked := h.toAccountBooked.book hdeliver
  solvent before trade' after hsplit hbuy := by
    rw [book_trades] at hsplit
    rcases split_concat hsplit with ⟨rfl, rfl⟩ | ⟨after, hsplit⟩
    · have hpays := hpays hbuy
      rw [h.cash] at hpays
      rwa [List.map_append, List.sum_append, List.map_singleton, List.sum_singleton, ← add_assoc]
    · exact h.solvent before trade' after hsplit hbuy

theorem AccountBooked.settle {account' : BrokerAccount} (h : AccountBooked start account) (hcash : account'.cash = account.cash)
    (htrades : account'.trades = account.trades)
    (hpositions : account'.positions = account.positions.map fun position =>
      { position with availableVolume := max 0 (position.longVolume - position.frozenVolume), todayBuyVolume := 0 }) :
    AccountBooked start account' where
  cash := by rw [hcash, htrades, h.cash]
  volume code := by
    rw [htrades, ← h.volume code]
    simp only [BrokerAccount.longVolume, hpositions, Dict.getD, Dict.get?_map]
    cases account.positions.get? code <;> rfl
  held code position hget := by
    rw [hpositions, Dict.get?_map] at hget
    obtain ⟨own, hown, rfl⟩ := Option.map_eq_some_iff.mp hget
    obtain ⟨havailable, htoday, hfrozen, hwithin⟩ := h.held code own hown
    refine ⟨le_max_left _ _, le_rfl, hfrozen, ?_⟩
    dsimp only
    omega

structure OrderSound (p : BacktestParams) (order : OrderResponse) : Prop where
  paid : PaidUp p order
  filled : 0 ≤ order.filledVolume
  within : order.filledVolume ≤ max 0 order.request.volume
  waits : order.queued = true → order.status ≠ .cancelled

theorem OrderSound.unfilled (hvolume : order.filledVolume = 0) (hamount : order.filledAmount = 0) (hcommission : order.commission = 0)
    (hwaits : order.queued = true → order.status ≠ .cancelled) : OrderSound p order where
  paid := ⟨hamount.ge, by rw [hamount, hcommission, calculateCosts_zero]⟩
  filled := hvolume.ge
  within := hvolume.trans_le (le_max_left _ _)
  waits := hwaits

theorem OrderSound.leave (h : OrderSound p order) (hrequest : order'.request = order.request) (hvolume : order'.filledVolume = order.filledVolume)
    (hamount : order'.filledAmount = order.filledAmount) (hcommission : order'.commission = order.commission)
    (hqueued : order'.queued = false) : OrderSound p order' where
  paid := ⟨h.paid.amount.trans_eq hamount.symm, by rw [hcommission, hamount, hrequest, h.paid.commission]⟩
  filled := h.filled.trans_eq hvolume.symm
  within := by
    rw [hvolume, hrequest]
    exact h.within
  waits hwaits := by
    rw [hqueued] at hwaits
    cases hwaits

theorem OrderSound.fill {price : Rat} (h : OrderSound p order) (hfees : FairFees p) (hpositive : 0 < volume)
    (hremaining : volume ≤ order.request.volume - order.filledVolume) (hworth : 0 ≤ price * volume) : OrderSound p (order.fill p price volume) where
  paid := h.paid.fill hfees hworth
  filled := add_nonneg h.filled hpositive.le
  within := by
    rw [fill_filledVolume, fill_request]
    have hmax := le_max_right 0 order.request.volume
    omega
  waits _ := fill_status

/-! ## Matching with a strict book -/

theorem StrictFill.bookable {book book' : Option StrictBook} {price : Rat}
    (h : StrictFill p account order (order.request.volume - order.filledVolume) book book' volume price) (hheld : AllHeld account.positions)
    (hfees : FairFees p) (hpositive : 0 < volume)
    (time : Option Int) :
    Deliverable account (tradeRecord p order price volume time) ∧
      ((tradeRecord p order price volume time).tradeType.isBuy = true →
        -cashTolerance ≤ account.cash + (tradeRecord p order price volume time).cashFlow) := by
  refine ⟨⟨hpositive, fun hsell => ?_⟩, fun hbuy => ?_⟩
  · have hdelivers := h.delivers hsell
    have hwithin := (hheld.getD order.request.instrumentCode).within
    simp only [tradeRecord, BrokerAccount.availableVolume, BrokerAccount.todayBuyVolume, BrokerAccount.longVolume] at hdelivers ⊢
    omega
  · have hpays : requiredCash p order (price * volume) ≤ account.cash + cashTolerance := h.pays hbuy hpositive
    have hneeded : requiredCash p order (price * volume) =
        (tradeRecord p order price volume time).amount + (tradeRecord p order price volume time).commission := by
      simp only [requiredCash, tradeRecord, since_total hfees h.worth]
      rw [max_eq_right (sub_nonneg.mpr (calculateCosts_mono hfees (le_add_of_nonneg_right h.worth)))]
    rw [TradeRecord.cashFlow, if_pos hbuy]
    linarith

def tradedVolume (trades : List TradeRecord) (buys : Bool) : Int := ((trades.filter (·.tradeType.isBuy = buys)).map (·.volume)).sum

theorem tradedVolume_concat (trades : List TradeRecord) (trade : TradeRecord) (buys : Bool) :
    tradedVolume (trades ++ [trade]) buys = tradedVolume trades buys + if trade.tradeType.isBuy = buys then trade.volume else 0 :=
  sum_filter_concat (fun trade => trade.tradeType.isBuy = buys) TradeRecord.volume trades trade

def OfQueue (orders : List OrderResponse) (trade : TradeRecord) : Prop :=
  ∃ order ∈ orders, order.orderId = trade.orderId ∧ order.queued = true

/-- What the loop over `queue` has done since `found`. -/
structure Matched (p : BacktestParams) (start : BrokerAccount) (queue : List OrderResponse) (found matching : Matching)
    (orders : List OrderResponse) : Prop where
  account : Accounted start matching.account
  sound : ∀ order ∈ orders, OrderSound p order
  ids : orders.map (·.orderId) = queue.map (·.orderId)
  waiting : ∀ order ∈ orders, order.queued = true → ∃ queued ∈ queue, queued.orderId = order.orderId ∧ queued.queued = true
  idle : ∀ order ∈ queue, order.queued = false → order ∈ orders
  given : BookGiven found.book matching.book
  trades : ∃ new, matching.account.trades = found.account.trades ++ new ∧ (∀ trade ∈ new, OfQueue queue trade) ∧
    ∀ buys, bookDepth found.book buys - bookDepth matching.book buys = tradedVolume new buys

theorem Matched.fresh {found : Matching} (haccount : Accounted start found.account) (hsound : ∀ order ∈ orders, OrderSound p order)
    (hbook : BookSound found.book) : Matched p start orders found found orders where
  account := haccount
  sound := hsound
  ids := rfl
  waiting order hmem hqueued := ⟨order, hmem, rfl, hqueued⟩
  idle _ hmem _ := hmem
  given := hbook
  trades := ⟨[], (List.append_nil _).symm, by simp, fun buys => by simp [tradedVolume]⟩

theorem matchedFill_strict {price : Rat} {book : Option StrictBook} (hstrict : p.strictBookDepth = true)
    (hbook : BookSound matching.book) (h : matchedFill p context matching order = .ok (volume, price, book)) :
    StrictFill p matching.account order (order.request.volume - order.filledVolume) matching.book book volume price := by
  rw [matchedFill, if_pos hstrict] at h
  exact consumeStrictBook_fill hbook h

theorem Matched.step {queue : List OrderResponse} {found : Matching} (hstrict : p.strictBookDepth = true) (hfees : FairFees p)
    (h : Matched p start queue found matching (first ++ order :: rest))
    (horder : matchOrder p context matching order = .ok (next, order', done)) :
    Matched p start queue found next (first ++ order' :: rest) := by
  obtain ⟨haccount, hsound, hids, hwaiting, hidle, hgiven, new, hnew, hofQueue, hdepth⟩ := h
  rcases matchOrder_cases horder with ⟨rfl, rfl, hsame, hbook⟩ | ⟨volume, price, hfills, hbooked, rfl, rfl⟩
  · have hkept : BookGiven matching.book next.book ∧ ∀ buys, bookDepth next.book buys = bookDepth matching.book buys := by
      rcases hbook with hbook | ⟨volume, price, hfill, hnothing⟩
      · rw [hbook]
        exact ⟨hgiven.sound, fun _ => rfl⟩
      · have hstrictFill := matchedFill_strict hstrict hgiven.sound hfill
        have hzero := hstrictFill.nonneg
        refine ⟨hstrictFill.given, fun buys => ?_⟩
        rcases Bool.eq_or_eq_not buys order'.request.orderType.isBuy with rfl | rfl
        · have htaken := hstrictFill.depth
          omega
        · exact hstrictFill.other
    refine ⟨hsame ▸ haccount, hsound, hids, hwaiting, hidle, hgiven.trans hkept.1, new, hsame ▸ hnew, hofQueue, fun buys => ?_⟩
    rw [hkept.2 buys]
    exact hdepth buys
  · obtain ⟨hmatchable, hfill, hpositive⟩ := hfills
    have hstrictFill := matchedFill_strict hstrict hgiven.sound hfill
    obtain ⟨hdeliver, hpays⟩ := hstrictFill.bookable haccount.held hfees hpositive context.time
    have hmem : order ∈ first ++ order :: rest := List.mem_append_right first List.mem_cons_self
    have hqueued := (matchable_queued hmatchable).1
    have hmoved : ∀ order'' ∈ first ++ order.fill p price volume :: rest, order'' = order.fill p price volume ∨
        order'' ∈ first ++ order :: rest := by
      intro order'' hmem''
      rcases List.mem_append.mp hmem'' with hfirst | hrest
      · exact .inr (List.mem_append_left _ hfirst)
      · rcases List.mem_cons.mp hrest with rfl | hrest
        · exact .inl rfl
        · exact .inr (List.mem_append_right first (List.mem_cons_of_mem order hrest))
    refine ⟨?_, ?_, ?_, ?_, ?_, hgiven.trans hstrictFill.given, new ++ [tradeRecord p order price volume context.time], ?_, ?_, fun buys => ?_⟩
    · rw [hbooked]
      exact haccount.book hdeliver hpays
    · intro order'' hmem''
      rcases hmoved order'' hmem'' with rfl | hmem''
      · exact (hsound order hmem).fill hfees hpositive (hstrictFill.remaining hpositive) hstrictFill.worth
      · exact hsound order'' hmem''
    · rw [← hids]
      simp
    · intro order'' hmem'' hqueued''
      rcases hmoved order'' hmem'' with rfl | hmem''
      · exact hwaiting order hmem hqueued
      · exact hwaiting order'' hmem'' hqueued''
    · intro order'' hmem'' hidle''
      have hstays := hidle order'' hmem'' hidle''
      rcases List.mem_append.mp hstays with hfirst | hrest
      · exact List.mem_append_left _ hfirst
      · rcases List.mem_cons.mp hrest with rfl | hrest
        · rw [hidle''] at hqueued
          cases hqueued
        · exact List.mem_append_right first (List.mem_cons_of_mem _ hrest)
    · rw [hbooked, book_trades, hnew, List.append_assoc]
    · intro trade htrade
      rcases List.mem_append.mp htrade with htrade | htrade
      · exact hofQueue trade htrade
      · obtain rfl := List.mem_singleton.mp htrade
        exact hwaiting order hmem hqueued
    · rw [tradedVolume_concat, ← hdepth buys]
      have htaken := hstrictFill.depth
      have hother := hstrictFill.other
      have hside : (tradeRecord p order price volume context.time).tradeType = order.request.orderType := rfl
      have hvolume : (tradeRecord p order price volume context.time).volume = volume := rfl
      rw [hside, hvolume]
      rcases Bool.eq_or_eq_not buys order.request.orderType.isBuy with rfl | rfl
      · rw [if_pos rfl]
        omega
      · rw [if_neg (by simp), hother, add_zero]

end QuantX
