import QuantX.Theorems.Brokers.Trade

namespace QuantX
open Lib

variable {p : BacktestParams} {taker : BookTaker} {levels levels' levels'' : List BookLevel} {level : BookLevel}
  {filled filled' : Int} {amount amount' price : Rat} {order : OrderResponse}

theorem searchVolume_bounds (affordable : Int → Bool) (low high : Int) (h : low ≤ high) :
    low ≤ searchVolume affordable low high ∧ searchVolume affordable low high ≤ high := by
  induction low, high using searchVolume.induct affordable with
  | case1 low high hless middle hafford ih =>
    have hstep : searchVolume affordable low high = searchVolume affordable middle high := by
      rw [searchVolume, if_pos hless]
      exact if_pos hafford
    obtain ⟨hlow, hhigh⟩ := ih (by omega)
    rw [hstep]
    exact ⟨by omega, hhigh⟩
  | case2 low high hless middle hafford ih =>
    have hstep : searchVolume affordable low high = searchVolume affordable low (middle - 1) := by
      rw [searchVolume, if_pos hless]
      exact if_neg hafford
    obtain ⟨hlow, hhigh⟩ := ih (by omega)
    rw [hstep]
    exact ⟨hlow, by omega⟩
  | case3 low high hless =>
    rw [searchVolume, if_neg hless]
    exact ⟨le_rfl, h⟩

theorem searchVolume_affordable (affordable : Int → Bool) (low high : Int) :
    searchVolume affordable low high = low ∨ affordable (searchVolume affordable low high) = true := by
  induction low, high using searchVolume.induct affordable with
  | case1 low high hless middle hafford ih =>
    rw [searchVolume, if_pos hless, if_pos hafford]
    rcases ih with hsame | hfound
    · rw [hsame]
      exact .inr hafford
    · exact .inr hfound
  | case2 low high hless middle hafford ih =>
    rw [searchVolume, if_pos hless, if_neg hafford]
    exact ih
  | case3 low high hless =>
    rw [searchVolume, if_neg hless]
    exact .inl rfl

def Affords (p : BacktestParams) (cash : Rat) (order : OrderResponse) (amount : Rat) : Prop :=
  requiredCash p order amount ≤ cash + cashTolerance

structure LevelGiven (level level' : BookLevel) : Prop where
  price : level'.price = level.price
  nonneg : 0 ≤ level'.volume
  le : level'.volume ≤ level.volume

def LevelsGiven (levels levels' : List BookLevel) : Prop := List.Forall₂ LevelGiven levels levels'

def depth (levels : List BookLevel) : Int := (levels.map (·.volume)).sum

theorem LevelsGiven.refl (h : ∀ level ∈ levels, 0 ≤ level.volume) : LevelsGiven levels levels := by
  induction levels with
  | nil => exact .nil
  | cons level levels ih =>
    exact .cons ⟨rfl, h level List.mem_cons_self, le_rfl⟩ (ih fun l hl => h l (List.mem_cons_of_mem level hl))

theorem LevelGiven.trans {level' level'' : BookLevel} (h : LevelGiven level level') (h' : LevelGiven level' level'') :
    LevelGiven level level'' := ⟨h'.price.trans h.price, h'.nonneg, h'.le.trans h.le⟩

theorem LevelsGiven.trans (h : LevelsGiven levels levels') (h' : LevelsGiven levels' levels'') : LevelsGiven levels levels'' := by
  induction h generalizing levels'' with
  | nil =>
    cases h'
    exact .nil
  | cons hlevel _ ih =>
    cases h' with
    | cons hlevel' hrest' => exact .cons (hlevel.trans hlevel') (ih hrest')

theorem LevelsGiven.nonneg (h : LevelsGiven levels levels') : ∀ level ∈ levels', 0 ≤ level.volume := by
  induction h with
  | nil => simp
  | cons hlevel _ ih =>
    intro level hmem
    rcases List.mem_cons.mp hmem with rfl | hmem
    · exact hlevel.nonneg
    · exact ih level hmem

theorem slippedPrice_nonneg {tick : Rat} {isBuy : Bool} (hlevel : 0 < price) {slipped : Rat}
    (h : slippedPrice p price tick isBuy = .ok slipped) : 0 ≤ slipped := by
  unfold slippedPrice at h
  split at h
  · obtain rfl := Except.ok.inj h
    exact hlevel.le
  · split at h
    · cases h
    · rename_i htick
      have hpos : 0 < tick := not_le.mp htick
      split at h
      · obtain rfl := Except.ok.inj h
        have hfactor : 0 ≤ 1 + p.strictBookSlippageRate := by linarith [p.slippage_nonneg]
        have hquotient : 0 ≤ price * (1 + p.strictBookSlippageRate) / tick := div_nonneg (mul_nonneg hlevel.le hfactor) hpos.le
        have hceil : (0 : Rat) ≤ ((price * (1 + p.strictBookSlippageRate) / tick).ceil : Rat) := hquotient.trans Rat.le_ceil
        exact mul_nonneg hceil hpos.le
      · obtain rfl := Except.ok.inj h
        have hfactor : 0 ≤ 1 - p.strictBookSlippageRate := by linarith [p.slippage_lt_one]
        have hquotient : 0 ≤ price * (1 - p.strictBookSlippageRate) / tick := div_nonneg (mul_nonneg hlevel.le hfactor) hpos.le
        have hfloor : 0 ≤ (price * (1 - p.strictBookSlippageRate) / tick).floor := Rat.le_floor_iff.mpr (by simpa using hquotient)
        exact mul_nonneg (by exact_mod_cast hfloor) hpos.le

structure Takes (p : BacktestParams) (taker : BookTaker) (levels levels' : List BookLevel) (filled filled' : Int) (amount amount' : Rat) :
    Prop where
  given : LevelsGiven levels levels'
  volume : filled' - filled = depth levels - depth levels'
  more : filled ≤ filled'
  requested : filled' ≤ taker.requested
  worth : amount ≤ amount'
  delivers : taker.order.request.orderType.isBuy = false → filled ≤ taker.availableSell → filled' ≤ taker.availableSell
  pays : taker.order.request.orderType.isBuy = true → (filled' = filled ∧ amount' = amount) ∨ Affords p taker.cash taker.order amount'

theorem Takes.refl (h : ∀ level ∈ levels, 0 ≤ level.volume) (hle : filled ≤ taker.requested) :
    Takes p taker levels levels filled filled amount amount :=
  ⟨.refl h, by ring, le_rfl, hle, le_rfl, fun _ h => h, fun _ => .inl ⟨rfl, rfl⟩⟩

theorem Takes.skip (hlevel : 0 ≤ level.volume) (h : Takes p taker levels levels' filled filled' amount amount') :
    Takes p taker (level :: levels) (level :: levels') filled filled' amount amount' := by
  obtain ⟨hgiven, hvolume, hmore, hrequested, hworth, hdelivers, hpays⟩ := h
  refine ⟨.cons ⟨rfl, hlevel, le_rfl⟩ hgiven, ?_, hmore, hrequested, hworth, hdelivers, hpays⟩
  simp only [depth, List.map_cons, List.sum_cons] at hvolume ⊢
  omega

theorem takeVolume_bounds (p : BacktestParams) (amount price : Rat) (hrequested : filled < taker.requested) (hlevel : 0 < level.volume) :
    0 ≤ takeVolume p taker filled amount price level.volume ∧
      takeVolume p taker filled amount price level.volume ≤ level.volume ∧
      filled + takeVolume p taker filled amount price level.volume ≤ taker.requested := by
  unfold takeVolume
  dsimp only
  split
  · unfold affordableLevelVolume
    have hbounds := searchVolume_bounds (fun volume => decide (requiredCash p taker.order (amount + volume * price) ≤ taker.cash + cashTolerance))
      0 (max 0 (min (taker.requested - filled) level.volume)) (le_max_left _ _)
    omega
  · omega

theorem takes_cons (hlevel : 0 < level.volume) (hwants : filled < taker.requested) (hprice : 0 ≤ price)
    (htaken : ¬ (taker.order.request.orderType.isBuy = true ∧ takeVolume p taker filled amount price level.volume ≤ 0))
    (h : Takes p taker levels levels' (filled + takeVolume p taker filled amount price level.volume) filled'
      (amount + takeVolume p taker filled amount price level.volume * price) amount') :
    Takes p taker (level :: levels) ({ level with volume := level.volume - takeVolume p taker filled amount price level.volume } :: levels')
      filled filled' amount amount' := by
  obtain ⟨hnonneg, hle, -⟩ := takeVolume_bounds p amount price hwants hlevel
  obtain ⟨hgiven, hvolume, hmore, hrequested, hworth, hdelivers, hpays⟩ := h
  refine ⟨.cons ⟨rfl, ?_, ?_⟩ hgiven, ?_, ?_, hrequested, ?_, fun hsell hbefore => hdelivers hsell ?_, fun hbuy => ?_⟩
  · dsimp only
    omega
  · dsimp only
    omega
  · simp only [depth, List.map_cons, List.sum_cons] at hvolume ⊢
    omega
  · omega
  · refine le_trans (le_add_of_nonneg_right (mul_nonneg ?_ hprice)) hworth
    exact_mod_cast hnonneg
  · simp only [takeVolume, hsell, Bool.false_eq_true, if_false]
    omega
  · rcases hpays hbuy with ⟨hfilled, hamount⟩ | hpays
    · have hpositive : 0 < takeVolume p taker filled amount price level.volume := not_le.mp fun hzero => htaken ⟨hbuy, hzero⟩
      refine .inr ?_
      rw [hamount]
      rcases searchVolume_affordable (fun volume => decide (requiredCash p taker.order (amount + volume * price) ≤
        taker.cash + cashTolerance)) 0 (max 0 (min (taker.requested - filled) level.volume)) with hsame | hafford
      · have hzero : takeVolume p taker filled amount price level.volume = 0 := by
          simp only [takeVolume, hbuy, if_true, affordableLevelVolume]
          exact hsame
        rw [hzero] at hpositive
        cases hpositive
      · have hafford' := of_decide_eq_true hafford
        simp only [takeVolume, hbuy, if_true, affordableLevelVolume]
        exact hafford'
    · exact .inr hpays

theorem takeLevels_takes {result : Int × Rat × List BookLevel} (hlevels : ∀ level ∈ levels, 0 ≤ level.volume)
    (hle : filled ≤ taker.requested) (h : takeLevels p taker levels filled amount = .ok result) :
    Takes p taker levels result.2.2 filled result.1 amount result.2.1 := by
  induction levels generalizing filled amount result with
  | nil =>
    obtain rfl := Except.ok.inj h
    exact .refl hlevels hle
  | cons level levels ih =>
    have hown := hlevels level List.mem_cons_self
    have hrest : ∀ level ∈ levels, 0 ≤ level.volume := fun l hl => hlevels l (List.mem_cons_of_mem level hl)
    rw [takeLevels] at h
    split at h
    · obtain rfl := Except.ok.inj h
      exact .refl hlevels hle
    · rename_i hwants
      split at h
      · obtain ⟨inner, hinner, h⟩ := bind_eq_ok.mp h
        obtain rfl := Except.ok.inj h
        exact (ih hrest hle hinner).skip hown
      · rename_i hgives
        simp only [not_or, not_le] at hgives
        obtain ⟨slipped, hslipped, h⟩ := bind_eq_ok.mp h
        have hprice := slippedPrice_nonneg hgives.1 hslipped
        split at h
        · obtain ⟨inner, hinner, h⟩ := bind_eq_ok.mp h
          obtain rfl := Except.ok.inj h
          exact (ih hrest hle hinner).skip hown
        · dsimp only at h
          split at h
          · obtain rfl := Except.ok.inj h
            exact .refl hlevels hle
          · rename_i htaken
            obtain ⟨inner, hinner, h⟩ := bind_eq_ok.mp h
            obtain rfl := Except.ok.inj h
            exact takes_cons hgives.2 (not_le.mp hwants) hprice htaken (ih hrest (takeVolume_bounds p amount slipped (not_le.mp hwants) hgives.2).2.2 hinner)

/-! ## Limits and errors -/

def WithinLimit (request : OrderRequest) (volume : Int) (amount : Rat) : Prop :=
  if request.orderType.isBuy then amount ≤ volume * request.price else volume * request.price ≤ amount

theorem WithinLimit.add {request : OrderRequest} {volume : Int} (h : WithinLimit request filled amount) (hlimit : request.priceType = .limit)
    (hexecutable : priceExecutable request price = true) (hvolume : 0 ≤ volume) :
    WithinLimit request (filled + volume) (amount + volume * price) := by
  have hnonneg : (0 : Rat) ≤ volume := by exact_mod_cast hvolume
  simp only [priceExecutable, hlimit, reduceCtorEq, if_false] at hexecutable
  unfold WithinLimit at h ⊢
  push_cast
  split at h
  · rename_i hbuy
    simp only [hbuy, if_true, decide_eq_true_eq] at hexecutable ⊢
    have := mul_le_mul_of_nonneg_left hexecutable hnonneg
    linarith
  · rename_i hsell
    simp only [hsell, Bool.false_eq_true, if_false, decide_eq_true_eq] at hexecutable ⊢
    have := mul_le_mul_of_nonneg_left hexecutable hnonneg
    linarith

theorem takeLevels_within {result : Int × Rat × List BookLevel} (hlimit : taker.order.request.priceType = .limit)
    (h : takeLevels p taker levels filled amount = .ok result) (hwithin : WithinLimit taker.order.request filled amount) :
    WithinLimit taker.order.request result.1 result.2.1 := by
  induction levels generalizing filled amount result with
  | nil =>
    obtain rfl := Except.ok.inj h
    exact hwithin
  | cons level levels ih =>
    rw [takeLevels] at h
    split at h
    · obtain rfl := Except.ok.inj h
      exact hwithin
    · rename_i hwants
      split at h
      · obtain ⟨inner, hinner, h⟩ := bind_eq_ok.mp h
        obtain rfl := Except.ok.inj h
        have hrest := ih hinner hwithin
        exact hrest
      · rename_i hgives
        simp only [not_or, not_le] at hgives
        obtain ⟨slipped, -, h⟩ := bind_eq_ok.mp h
        split at h
        · obtain ⟨inner, hinner, h⟩ := bind_eq_ok.mp h
          obtain rfl := Except.ok.inj h
          have hrest := ih hinner hwithin
          exact hrest
        · rename_i hexecutable
          dsimp only at h
          split at h
          · obtain rfl := Except.ok.inj h
            exact hwithin
          · obtain ⟨inner, hinner, h⟩ := bind_eq_ok.mp h
            obtain rfl := Except.ok.inj h
            have htaken := hwithin.add hlimit (by simpa using hexecutable) (takeVolume_bounds p amount slipped (not_le.mp hwants) hgives.2).1
            have hrest := ih hinner htaken
            exact hrest

theorem takeLevels_ok (hslippage : p.strictBookSlippageRate = 0) (taker : BookTaker) (levels : List BookLevel) (filled : Int) (amount : Rat) :
    ∃ result, takeLevels p taker levels filled amount = .ok result := by
  induction levels generalizing filled amount with
  | nil => exact ⟨_, rfl⟩
  | cons level levels ih =>
    rw [takeLevels]
    split
    · exact ⟨_, rfl⟩
    · split
      · obtain ⟨inner, hinner⟩ := ih filled amount
        exact ⟨_, bind_eq_ok.mpr ⟨inner, hinner, rfl⟩⟩
      · have hslipped : slippedPrice p level.price taker.priceTick taker.order.request.orderType.isBuy = .ok level.price := by
          rw [slippedPrice, if_pos hslippage]
        rw [hslipped]
        dsimp only [bind, Except.bind]
        split
        · obtain ⟨inner, hinner⟩ := ih filled amount
          rw [hinner]
          exact ⟨_, rfl⟩
        · split
          · exact ⟨_, rfl⟩
          · obtain ⟨inner, hinner⟩ := ih (filled + takeVolume p taker filled amount level.price level.volume)
              (amount + takeVolume p taker filled amount level.price level.volume * level.price)
            rw [hinner]
            exact ⟨_, rfl⟩

end QuantX
