import QuantX.Theorems.Brokers.StrictBook

namespace QuantX
open Lib

variable {p : BacktestParams} {context : QuoteContext} {matching next : Matching} {order order' : OrderResponse}
  {orders first rest : List OrderResponse} {done : Bool} {book book' : Option StrictBook} {account : BrokerAccount} {volume remaining : Int}
  {price : Rat} {marketData : Option QuoteSnapshot}

structure Fills (p : BacktestParams) (context : QuoteContext) (matching : Matching) (order : OrderResponse) (volume : Int) (price : Rat)
    (book : Option StrictBook) : Prop where
  matchable : matchable p context order = true
  fill : matchedFill p context matching order = .ok (volume, price, book)
  positive : 0 < volume

theorem matchable_queued (h : matchable p context order = true) : order.queued = true ∧ order.request.instrumentCode = context.instrumentCode := by
  simp only [matchable, Bool.and_eq_true, decide_eq_true_eq] at h
  exact ⟨h.1.1.1, h.1.1.2⟩

theorem matchOrder_cases (h : matchOrder p context matching order = .ok (next, order', done)) :
    (order' = order ∧ done = false ∧ next.account = matching.account ∧
        (next.book = matching.book ∨ ∃ volume price, matchedFill p context matching order = .ok (volume, price, next.book) ∧ volume ≤ 0)) ∨
      ∃ volume price, Fills p context matching order volume price next.book ∧
        next.account = matching.account.book (tradeRecord p order price volume context.time) ∧ order' = order.fill p price volume ∧
        done = decide (order'.request.volume ≤ order'.filledVolume) := by
  unfold matchOrder at h
  split at h
  · obtain ⟨rfl, rfl, rfl⟩ : matching = next ∧ order = order' ∧ false = done := by simpa using Except.ok.inj h
    exact .inl ⟨rfl, rfl, rfl, .inl rfl⟩
  · rename_i hmatchable
    obtain ⟨⟨volume, price, book⟩, hfill, h⟩ := bind_eq_ok.mp h
    dsimp only at h
    split at h
    · rename_i hvolume
      obtain ⟨rfl, rfl, rfl⟩ : { matching with book } = next ∧ order = order' ∧ false = done := by simpa using Except.ok.inj h
      exact .inl ⟨rfl, rfl, rfl, .inr ⟨volume, price, hfill, hvolume⟩⟩
    · rename_i hvolume
      obtain ⟨rfl, rfl, rfl⟩ := Prod.mk.inj (Except.ok.inj h) |>.imp_right Prod.mk.inj
      exact .inr ⟨volume, price, ⟨by simpa using hmatchable, hfill, not_le.mp hvolume⟩, rfl, rfl, rfl⟩

theorem matchOrders_advances {Inv : Matching → List OrderResponse → List OrderResponse → Prop}
    (hstep : ∀ matching first order rest next order' done, Inv matching first (order :: rest) →
      matchOrder p context matching order = .ok (next, order', done) → Inv next (first ++ [order']) rest)
    (h : Inv matching first orders) :
    ∃ visited left, first ++ (matchOrders p context matching orders).2.1.map Prod.fst = visited ++ left ∧
      Inv (matchOrders p context matching orders).1 visited left := by
  induction orders generalizing matching first with
  | nil => exact ⟨first, [], rfl, h⟩
  | cons order orders ih =>
    rw [matchOrders]
    cases horder : matchOrder p context matching order with
    | error e => exact ⟨first, order :: orders, by simp [Function.comp_def], h⟩
    | ok result =>
      obtain ⟨next, order', done⟩ := result
      obtain ⟨visited, left, hsplit, hinv⟩ := ih (hstep matching first order orders next order' done h horder)
      refine ⟨visited, left, ?_, hinv⟩
      rw [← hsplit, List.append_assoc]
      rfl

theorem matchOrders_keeps {Inv : Matching → List OrderResponse → Prop}
    (hstep : ∀ matching first order rest next order' done, Inv matching (first ++ order :: rest) →
      matchOrder p context matching order = .ok (next, order', done) → Inv next (first ++ order' :: rest))
    (h : Inv matching (first ++ orders)) :
    Inv (matchOrders p context matching orders).1 (first ++ (matchOrders p context matching orders).2.1.map Prod.fst) := by
  obtain ⟨visited, left, hsplit, hinv⟩ := @matchOrders_advances p context matching orders first
    (fun matching visited left => Inv matching (visited ++ left))
    (fun matching first order rest next order' done hbefore horder => by
      rw [← List.append_cons]
      exact hstep matching first order rest next order' done hbefore horder) h
  rw [hsplit]
  exact hinv

/-- The orders that a loop comes to, each with what it finds. -/
def visits (p : BacktestParams) (context : QuoteContext) : Matching → List OrderResponse → List (Matching × OrderResponse)
  | _, [] => []
  | matching, order :: orders => (matching, order) ::
    ((matchOrder p context matching order).toOption.elim [] fun result => visits p context result.1 orders)

theorem visits_find {Inv : Matching → List OrderResponse → Prop}
    (hstep : ∀ matching first order rest next order' done, Inv matching (first ++ order :: rest) →
      matchOrder p context matching order = .ok (next, order', done) → Inv next (first ++ order' :: rest))
    (h : Inv matching (first ++ orders)) :
    ∀ visit ∈ visits p context matching orders, ∃ before after, Inv visit.1 (before ++ visit.2 :: after) := by
  induction orders generalizing matching first with
  | nil => simp [visits]
  | cons order orders ih =>
    intro visit hvisit
    rcases List.mem_cons.mp hvisit with rfl | hvisit
    · exact ⟨first, orders, h⟩
    · cases horder : matchOrder p context matching order with
      | error e =>
        rw [horder] at hvisit
        cases hvisit
      | ok result =>
        obtain ⟨next, order', done⟩ := result
        rw [horder] at hvisit
        have hnext := hstep matching first order orders next order' done h horder
        rw [List.append_cons] at hnext
        exact ih hnext visit hvisit

/-! ## The strict book -/

def BookGiven : Option StrictBook → Option StrictBook → Prop :=
  Option.Rel fun book book' => LevelsGiven book.ask book'.ask ∧ LevelsGiven book.bid book'.bid

def bookDepth (book : Option StrictBook) (buys : Bool) : Int := book.elim 0 fun book => depth (book.side buys)

def BookSound (book : Option StrictBook) : Prop := BookGiven book book

theorem BookGiven.trans {book'' : Option StrictBook} (h : BookGiven book book') (h' : BookGiven book' book'') : BookGiven book book'' := by
  cases h with
  | none =>
    cases h'
    exact .none
  | some hgiven =>
    cases h' with
    | some hgiven' => exact .some ⟨hgiven.1.trans hgiven'.1, hgiven.2.trans hgiven'.2⟩

theorem BookGiven.sound (h : BookGiven book book') : BookSound book' := by
  cases h with
  | none => exact .none
  | some hgiven => exact .some ⟨.refl hgiven.1.nonneg, .refl hgiven.2.nonneg⟩

structure StrictFill (p : BacktestParams) (account : BrokerAccount) (order : OrderResponse) (remaining : Int) (book book' : Option StrictBook)
    (volume : Int) (price : Rat) : Prop where
  given : BookGiven book book'
  depth : bookDepth book order.request.orderType.isBuy - bookDepth book' order.request.orderType.isBuy = volume
  other : bookDepth book' (!order.request.orderType.isBuy) = bookDepth book (!order.request.orderType.isBuy)
  nonneg : 0 ≤ volume
  remaining : 0 < volume → volume ≤ remaining
  worth : 0 ≤ price * volume
  delivers : order.request.orderType.isBuy = false → volume ≤ max 0 (account.availableVolume order.request.instrumentCode)
  pays : order.request.orderType.isBuy = true → 0 < volume → Affords p account.cash order (price * volume)

theorem StrictFill.none (h : BookSound book) : StrictFill p account order remaining book book 0 0 :=
  ⟨h, by simp, rfl, le_rfl, fun hpos => absurd hpos (lt_irrefl 0), by simp, fun _ => le_max_left _ _, fun _ hpos => absurd hpos (lt_irrefl 0)⟩

theorem setSide_side (book : StrictBook) (buys : Bool) (levels : List BookLevel) :
    (book.setSide buys levels).side buys = levels ∧ (book.setSide buys levels).side (!buys) = book.side (!buys) := by
  cases buys <;> exact ⟨rfl, rfl⟩

theorem side_given {book : StrictBook} {levels : List BookLevel} (hbook : BookSound (some book)) {buys : Bool}
    (h : LevelsGiven (book.side buys) levels) : BookGiven (some book) (some (book.setSide buys levels)) := by
  cases hbook with
  | some hsound =>
    cases buys
    · exact .some ⟨hsound.1, h⟩
    · exact .some ⟨h, hsound.2⟩

theorem side_nonneg {book : StrictBook} (h : BookSound (some book)) (buys : Bool) : ∀ level ∈ book.side buys, 0 ≤ level.volume := by
  cases h with
  | some hsound =>
    cases buys
    · exact hsound.2.nonneg
    · exact hsound.1.nonneg

theorem consumeStrictBook_fill (hbook : BookSound book)
    (h : consumeStrictBook p account remaining marketData order book = .ok (volume, price, book')) :
    StrictFill p account order remaining book book' volume price := by
  unfold consumeStrictBook at h
  split at h
  · rename_i quote book
    split at h
    · obtain ⟨rfl, rfl, rfl⟩ := Prod.mk.inj (Except.ok.inj h) |>.imp_right Prod.mk.inj
      exact .none hbook
    · rename_i hremaining
      dsimp only at h
      split at h
      · obtain ⟨rfl, rfl, rfl⟩ := Prod.mk.inj (Except.ok.inj h) |>.imp_right Prod.mk.inj
        exact .none hbook
      · obtain ⟨⟨filled, amount, levels⟩, htakes, h⟩ := bind_eq_ok.mp h
        dsimp only at h
        have htaken := takeLevels_takes (side_nonneg hbook _) (not_le.mp hremaining).le htakes
        obtain ⟨hgiven, hvolume, hmore, hrequested, hworth, hdelivers, hpays⟩ := htaken
        dsimp only at hgiven hvolume hmore hrequested hworth hdelivers hpays
        have hside := setSide_side book order.request.orderType.isBuy levels
        have hbookGiven := side_given hbook hgiven
        have hdepth : bookDepth (some book) order.request.orderType.isBuy -
            bookDepth (some (book.setSide order.request.orderType.isBuy levels)) order.request.orderType.isBuy = filled := by
          simp only [bookDepth, Option.elim_some, hside.1]
          omega
        have hother : bookDepth (some (book.setSide order.request.orderType.isBuy levels)) (!order.request.orderType.isBuy) =
            bookDepth (some book) (!order.request.orderType.isBuy) := by simp [bookDepth, hside.2]
        split at h
        · rename_i hnone
          obtain ⟨rfl, rfl, rfl⟩ := Prod.mk.inj (Except.ok.inj h) |>.imp_right Prod.mk.inj
          exact ⟨hbookGiven, by omega, hother, le_rfl, fun hpos => absurd hpos (lt_irrefl 0), by simp, fun _ => le_max_left _ _,
            fun _ hpos => absurd hpos (lt_irrefl 0)⟩
        · rename_i hsome
          obtain ⟨rfl, rfl, rfl⟩ := Prod.mk.inj (Except.ok.inj h) |>.imp_right Prod.mk.inj
          have hne : (filled : Rat) ≠ 0 := by
            have hpos := not_le.mp hsome
            exact_mod_cast hpos.ne'
          have hamount : amount / filled * filled = amount := div_mul_cancel₀ amount hne
          refine ⟨hbookGiven, hdepth, hother, hmore, fun _ => hrequested, ?_, fun hsell => ?_, fun hbuy hpos => ?_⟩
          · rw [hamount]
            exact hworth
          · have hle := hdelivers hsell (by simp [hsell])
            simp only [hsell, Bool.false_eq_true, if_false] at hle
            have havailable : (account.positions.get? order.request.instrumentCode).elim 0 (·.availableVolume) =
                account.availableVolume order.request.instrumentCode := by
              rw [BrokerAccount.availableVolume, Dict.getD]
              cases account.positions.get? order.request.instrumentCode <;> rfl
            rwa [havailable] at hle
          · rw [hamount]
            rcases hpays hbuy with ⟨hzero, -⟩ | hpays
            · omega
            · exact hpays
  · obtain ⟨rfl, rfl, rfl⟩ := Prod.mk.inj (Except.ok.inj h) |>.imp_right Prod.mk.inj
    exact .none hbook

def PriceWithin (request : OrderRequest) (price : Rat) : Prop := if request.orderType.isBuy then price ≤ request.price else request.price ≤ price

theorem PriceWithin.of_amount {request : OrderRequest} {amount : Rat} (h : WithinLimit request volume amount) (hpositive : 0 < volume) :
    PriceWithin request (amount / volume) := by
  have hvolume : (0 : Rat) < volume := by exact_mod_cast hpositive
  unfold WithinLimit at h
  unfold PriceWithin
  split
  · rename_i hbuy
    rw [if_pos hbuy] at h
    rw [div_le_iff₀ hvolume, mul_comm]
    exact h
  · rename_i hsell
    rw [if_neg hsell] at h
    rw [le_div_iff₀ hvolume, mul_comm]
    exact h

theorem consumeStrictBook_within (hlimit : order.request.priceType = .limit) (hpositive : 0 < volume)
    (h : consumeStrictBook p account remaining marketData order book = .ok (volume, price, book')) : PriceWithin order.request price := by
  unfold consumeStrictBook at h
  split at h
  · rename_i quote book
    split at h
    · obtain ⟨rfl, -⟩ := Prod.mk.inj (Except.ok.inj h)
      exact absurd hpositive (lt_irrefl 0)
    · dsimp only at h
      split at h
      · obtain ⟨rfl, -⟩ := Prod.mk.inj (Except.ok.inj h)
        exact absurd hpositive (lt_irrefl 0)
      · obtain ⟨⟨filled, amount, levels⟩, htakes, h⟩ := bind_eq_ok.mp h
        have hnothing : WithinLimit order.request 0 0 := by simp [WithinLimit]
        have hwithin := takeLevels_within hlimit htakes hnothing
        split at h
        · obtain ⟨rfl, -⟩ := Prod.mk.inj (Except.ok.inj h)
          exact absurd hpositive (lt_irrefl 0)
        · obtain ⟨rfl, rfl, rfl⟩ := Prod.mk.inj (Except.ok.inj h) |>.imp_right Prod.mk.inj
          exact .of_amount hwithin hpositive
  · obtain ⟨rfl, -⟩ := Prod.mk.inj (Except.ok.inj h)
    exact absurd hpositive (lt_irrefl 0)

theorem consumeStrictBook_ok (hslippage : p.strictBookSlippageRate = 0) :
    ∃ result, consumeStrictBook p account remaining marketData order book = .ok result := by
  unfold consumeStrictBook
  split
  · rename_i quote book
    split
    · exact ⟨_, rfl⟩
    · dsimp only
      split
      · exact ⟨_, rfl⟩
      · obtain ⟨inner, hinner⟩ := takeLevels_ok hslippage ⟨order, remaining, quote.priceTick, account.cash,
          if order.request.orderType.isBuy then 0 else max 0 ((account.positions.get? order.request.instrumentCode).elim 0 (·.availableVolume))⟩
          (book.side order.request.orderType.isBuy) 0 0
        exact ⟨_, bind_eq_ok.mpr ⟨inner, hinner, rfl⟩⟩
  · exact ⟨_, rfl⟩

end QuantX
