import QuantX.Theorems.EntryPlan.Decision
import QuantX.Theorems.EntryPlan.Barrier
import QuantX.Lib.Budget

namespace QuantX
open Lib

namespace EntryEvaluationContext

/-- The value of the position, from its market value or else at the price of the context. -/
def currentValueCny (context : EntryEvaluationContext) : Rat :=
  max 0 (if 0 < context.currentMarketValueCny then context.currentMarketValueCny
    else context.currentPositionVolume * context.executablePrice)

theorem pendingBuyAmountCny_nonneg (context : EntryEvaluationContext) : 0 ≤ context.pendingBuyAmountCny := by
  refine List.sum_nonneg fun amount hamount => ?_
  obtain ⟨item, -, rfl⟩ := List.mem_map.mp hamount
  have hvolume : (0 : Int) ≤ max 0 item.remainingVolume := le_max_left _ _
  exact mul_nonneg (by exact_mod_cast hvolume) (le_max_left _ _)

theorem pendingBuyVolume_nonneg (context : EntryEvaluationContext) : 0 ≤ context.pendingBuyVolume := by
  refine List.sum_nonneg fun volume hvolume => ?_
  obtain ⟨item, -, rfl⟩ := List.mem_map.mp hvolume
  exact le_max_left _ _

end EntryEvaluationContext

namespace ManagedEntryPlanState
variable {registry : ManagedEntryRuleRegistry} {uuid5 : String → String} {config : ManagedEntryPlanConfig}
  {context : EntryEvaluationContext} {s next : ManagedEntryPlanState} {decision : EntryDecision}
  {log : List (Moment ManagedEntryPlanState EntryOp)} {amount : Rat} {volume : Int}
variable {m : Moment ManagedEntryPlanState EntryOp} {op : EntryOp}

/-! ## The caps of one decision -/

structure Capped (config : ManagedEntryPlanConfig) (context : EntryEvaluationContext) (amount : Rat) : Prop where
  single : amount ≤ config.pacingPolicy.maxSingleIntentAmountCny
  risk : ∀ cap ∈ context.riskMaxBuyAmountCny, amount ≤ cap
  liquidity : ∀ cap ∈ context.liquidityCapCny, amount ≤ cap
  daily : amount ≤ config.pacingPolicy.maxDailyFilledAmountCny - context.dailyFilledAmountCny
  position : amount ≤ context.totalEquityCny * config.targetPolicy.maxPositionPct - context.currentValueCny -
    context.pendingBuyAmountCny
  budget : amount ≤ config.targetPolicy.maxTotalAmountCny - context.planFilledAmountCny - context.pendingBuyAmountCny

theorem le_of_le_max_zero {α : Type} [LinearOrder α] [Zero α] {a b : α} (hpos : 0 < a) (h : a ≤ max 0 b) : a ≤ b :=
  (le_max_iff.mp h).resolve_left (not_le.mpr hpos)

theorem floor_mul_le {price cap : Rat} (hprice : 0 < price) (h : volume ≤ (cap / price).floor) : volume * price ≤ cap := by
  rwa [Rat.le_floor_iff, le_div_iff₀ hprice] at h

theorem capped_volume_le {price cap : Rat} {raw : Int} (hprice : 0 < price)
    (hpos : 0 < (min raw (max 0 (cap / price).floor) : Int) * price) :
    (min raw (max 0 (cap / price).floor) : Int) * price ≤ cap := by
  have hvolume : 0 < min raw (max 0 (cap / price).floor) := by
    exact_mod_cast pos_of_mul_pos_left hpos hprice.le
  exact floor_mul_le hprice (le_of_le_max_zero hvolume (min_le_right _ _))

theorem remaining_le (hcontext : contextReason config context = none) (hpos : 0 < amount)
    (h : amount ≤ (calculateGap config.targetPolicy context).remainingAmountCny) :
    amount ≤ config.targetPolicy.maxTotalAmountCny - context.planFilledAmountCny - context.pendingBuyAmountCny ∧
      amount ≤ context.totalEquityCny * config.targetPolicy.maxPositionPct - context.currentValueCny -
        context.pendingBuyAmountCny := by
  obtain ⟨hprice, hequity⟩ := executablePrice_pos hcontext
  unfold calculateGap at h
  rw [if_neg (not_or.mpr ⟨not_le.mpr hprice, not_le.mpr hequity⟩)] at h
  cases htarget : config.targetPolicy.target with
  | targetPositionPct pct =>
    rw [htarget] at h
    obtain ⟨hbudget, hposition⟩ := le_min_iff.mp h
    exact ⟨le_of_le_max_zero hpos (le_min_iff.mp hbudget).2, le_of_le_max_zero hpos hposition⟩
  | incrementalAmountCny target =>
    rw [htarget] at h
    obtain ⟨hbudget, hposition⟩ := le_min_iff.mp h
    exact ⟨le_of_le_max_zero hpos (le_min_iff.mp hbudget).2, le_of_le_max_zero hpos hposition⟩
  | additionalVolume total =>
    rw [htarget] at h
    have hbound := capped_volume_le hprice (lt_of_lt_of_le hpos h)
    obtain ⟨hbudget, hposition⟩ := le_min_iff.mp (h.trans hbound)
    exact ⟨le_of_le_max_zero hpos hbudget, le_of_le_max_zero hpos hposition⟩

theorem remainingVolume_le {total : Int} (hcontext : contextReason config context = none)
    (htarget : config.targetPolicy.target = .additionalVolume total) (hpos : 0 < volume)
    (h : volume ≤ (calculateGap config.targetPolicy context).remainingVolume.getD 0) :
    volume ≤ total - context.planFilledVolume := by
  have hpending := context.pendingBuyVolume_nonneg
  obtain ⟨hprice, hequity⟩ := executablePrice_pos hcontext
  unfold calculateGap at h
  rw [if_neg (not_or.mpr ⟨not_le.mpr hprice, not_le.mpr hequity⟩)] at h
  rw [htarget] at h
  have hraw : volume ≤ max 0 (total - context.planFilledVolume) - context.pendingBuyVolume :=
    le_of_le_max_zero hpos (h.trans (min_le_left _ _))
  exact le_of_le_max_zero hpos (hraw.trans (sub_le_self _ hpending))

def cutBy (base : Rat) (cap : Option Rat) : Rat := cap.elim base fun cap => min base (max 0 cap)

theorem amountCap_eq (config : ManagedEntryPlanConfig) (context : EntryEvaluationContext) (gap : EntryGapResult) :
    amountCap config context gap = max 0 (cutBy (cutBy (min (min gap.remainingAmountCny
      config.pacingPolicy.maxSingleIntentAmountCny) (max 0 (config.pacingPolicy.maxDailyFilledAmountCny -
        max 0 context.dailyFilledAmountCny))) context.riskMaxBuyAmountCny) context.liquidityCapCny) := by
  unfold amountCap cutBy
  cases context.liquidityCapCny
  all_goals
    cases context.riskMaxBuyAmountCny
    all_goals rfl

theorem le_cutBy {base : Rat} {cap : Option Rat} (hpos : 0 < amount) (h : amount ≤ cutBy base cap) :
    amount ≤ base ∧ ∀ limit ∈ cap, amount ≤ limit := by
  cases cap with
  | none => exact ⟨h, fun _ hnone => by cases hnone⟩
  | some cap =>
    obtain ⟨hbase, hcap⟩ := le_min_iff.mp h
    refine ⟨hbase, fun limit hlimit => ?_⟩
    cases hlimit
    exact le_of_le_max_zero hpos hcap

theorem capped_of_le_amountCap (hcontext : contextReason config context = none) (hpos : 0 < amount)
    (h : amount ≤ amountCap config context (calculateGap config.targetPolicy context)) : Capped config context amount := by
  rw [amountCap_eq] at h
  have hcut := le_of_le_max_zero hpos h
  -- The two optional caps cut the amount down one after the other.
  obtain ⟨hcut, hliquidity⟩ := le_cutBy hpos hcut
  obtain ⟨hcut, hrisked⟩ := le_cutBy hpos hcut
  obtain ⟨hcut, hdaily⟩ := le_min_iff.mp hcut
  obtain ⟨hremaining, hsingle⟩ := le_min_iff.mp hcut
  obtain ⟨hbudget, hposition⟩ := remaining_le hcontext hpos hremaining
  refine ⟨hsingle, hrisked, hliquidity, ?_, hposition, hbudget⟩
  exact (le_of_le_max_zero hpos hdaily).trans (sub_le_sub_left (le_max_right _ _) _)

theorem Decided.capped (h : Decided uuid5 config context s next decision) :
    0 < decision.amountCny context ∧ Capped config context (decision.amountCny context) := by
  obtain ⟨quality, ruleState, rule, found, size, hopen, hcontext, hpacing, hsize⟩ := h
  have hprice := (executablePrice_pos hcontext).1
  cases sliceSize_sized hprice hsize with
  | @volume total volume htarget hpos hremaining hcap =>
    have hamount : (0 : Rat) < volume * context.executablePrice := mul_pos (by exact_mod_cast hpos) hprice
    exact ⟨hamount, capped_of_le_amountCap hcontext hamount (floor_mul_le hprice hcap)⟩
  | @amount amount hpos hcap =>
    have hamount : 0 < amount := lt_trans (by decide +kernel) hpos
    exact ⟨hamount, capped_of_le_amountCap hcontext hamount hcap⟩

theorem Decided.volume_le {total : Int} (h : Decided uuid5 config context s next decision)
    (htarget : config.targetPolicy.target = .additionalVolume total) :
    0 ≤ decision.targetVolume.getD 0 ∧ decision.targetVolume.getD 0 ≤ max 0 (total - context.planFilledVolume) := by
  obtain ⟨quality, ruleState, rule, found, size, hopen, hcontext, hpacing, hsize⟩ := h
  cases sliceSize_sized (executablePrice_pos hcontext).1 hsize with
  | @volume total volume htarget' hpos hremaining hcap =>
    rw [htarget] at htarget'
    cases htarget'
    exact ⟨hpos.le, le_max_of_le_right (remainingVolume_le hcontext htarget hpos hremaining)⟩
  | @amount amount hpos hcap => exact ⟨le_refl 0, le_max_left _ _⟩

/-- One configuration, contexts that count at least the plan's own fills, and fills of the pending slice that stay
    within what it asked for. -/
def Budgeted (config : ManagedEntryPlanConfig) (s : ManagedEntryPlanState) : EntryOp → Prop
  | .evaluate used context => used = config ∧ s.filledAmountCny ≤ context.planFilledAmountCny ∧
      s.filledVolume ≤ context.planFilledVolume ∧
      s.dailyFilledAmountsCny.getD context.tradeDate 0 ≤ context.dailyFilledAmountCny
  | .tradeFill fill => s.Applies fill → fill.matchesPending = true ∧
      s.pendingFilledAmountCny + fill.amountCny ≤ s.pendingRequestedAmountCny
  | _ => True

def BudgetRun (registry : ManagedEntryRuleRegistry) (uuid5 : String → String) (config : ManagedEntryPlanConfig) :
    List (Moment ManagedEntryPlanState EntryOp) → ManagedEntryPlanState → Prop :=
  Run (· = {}) (step registry uuid5) fun _ => Budgeted config

def FillsWithinTargets (log : List (Moment ManagedEntryPlanState EntryOp)) : Prop :=
  ∀ m ∈ log, ∀ fill, m.op = .tradeFill fill → m.before.Applies fill →
    m.before.pendingFilledVolume + fill.volume ≤ m.before.pendingRequestedVolume

def totalTargetVolume (registry : ManagedEntryRuleRegistry) (uuid5 : String → String)
    (log : List (Moment ManagedEntryPlanState EntryOp)) : Int :=
  ((decisions registry uuid5 log).map (·.2.targetVolume.getD 0)).sum

/-- The volume that a slice was still missing when the moment let it go. -/
def releasedBy (m : Moment ManagedEntryPlanState EntryOp) : Int :=
  if m.before.hasPending = true ∧ m.after.hasPending = false then
    m.before.pendingRequestedVolume - m.before.pendingFilledVolume - matchedBy m
  else 0

def releasedVolume (log : List (Moment ManagedEntryPlanState EntryOp)) : Int := (log.map releasedBy).sum

def sliceDate (registry : ManagedEntryRuleRegistry) (uuid5 : String → String)
    (log : List (Moment ManagedEntryPlanState EntryOp)) : Option String :=
  (decisions registry uuid5 log).head?.map (·.1.tradeDate)

def filledOn (day : String) (m : Moment ManagedEntryPlanState EntryOp) : Rat :=
  match m.op with
  | .tradeFill fill => if m.before.Applies fill ∧ fill.tradeDate = day then fill.amountCny else 0
  | _ => 0

/-- The amount filled on a trade date by the slices created that day. -/
def sameDayAmount (registry : ManagedEntryRuleRegistry) (uuid5 : String → String) (day : String) :
    List (Moment ManagedEntryPlanState EntryOp) → Rat
  | [] => 0
  | m :: log =>
    sameDayAmount registry uuid5 day log + if sliceDate registry uuid5 log = some day then filledOn day m else 0

def Slice.openVolume (slice : Slice) : Int := slice.requestedVolume - slice.filledVolume
def Slice.openAmountCny (slice : Slice) : Rat := slice.requestedAmountCny - slice.filledAmountCny

def amountBudget (s : ManagedEntryPlanState) : Budget Rat := ⟨s.books.amountCny, s.slice.openAmountCny⟩
def volumeBudget (s : ManagedEntryPlanState) : Budget Int := ⟨s.books.volume, s.slice.openVolume⟩

/-- The budget of a day covers the slices created that day. -/
def dayBudget (registry : ManagedEntryRuleRegistry) (uuid5 : String → String) (day : String)
    (log : List (Moment ManagedEntryPlanState EntryOp)) (s : ManagedEntryPlanState) : Budget Rat where
  spent := sameDayAmount registry uuid5 day log
  reserved := if sliceDate registry uuid5 log = some day then s.slice.openAmountCny else 0

theorem amountBudget_eq {slice : Slice} {books : Books} (hslice : next.slice = slice) (hbooks : next.books = books) :
    next.amountBudget = ⟨books.amountCny, slice.openAmountCny⟩ := by
  rw [amountBudget, hslice, hbooks]

theorem volumeBudget_eq {slice : Slice} {books : Books} (hslice : next.slice = slice) (hbooks : next.books = books) :
    next.volumeBudget = ⟨books.volume, slice.openVolume⟩ := by
  rw [volumeBudget, hslice, hbooks]

theorem Slice.openAmountCny_fill (slice : Slice) (fill : EntryFill) :
    (slice.fill fill).openAmountCny = slice.openAmountCny - fill.amountCny := sub_add_eq_sub_sub _ _ _

theorem Slice.openVolume_fill (slice : Slice) (fill : EntryFill) :
    (slice.fill fill).openVolume = slice.openVolume - fill.volume := sub_add_eq_sub_sub _ _ _

theorem Slice.openAmountCny_none : Slice.none.openAmountCny = 0 := sub_self 0

theorem Slice.openAmountCny_ofDecision : (Slice.ofDecision context decision).openAmountCny = decision.amountCny context :=
  sub_zero _

theorem Slice.openVolume_ofDecision : (Slice.ofDecision context decision).openVolume = decision.targetVolume.getD 0 :=
  sub_zero _

section Step
variable {op : EntryOp} (hmoves : Moves registry uuid5 s op next) (hop : s.Budgeted config op)
include hmoves hop

theorem amountBudget_move (h : s.amountBudget.Within config.targetPolicy.maxTotalAmountCny) :
    Budget.Move config.targetPolicy.maxTotalAmountCny s.amountBudget next.amountBudget := by
  cases hmoves with
  | rests hdecided hfill hslice hbooks hcounters =>
    rw [amountBudget_eq hslice hbooks]
    exact .rest _
  | releases hslice hbooks hcounters =>
    rw [amountBudget_eq hslice hbooks, Slice.openAmountCny_none]
    exact h.release
  | @fills fill next happlies hslice hbooks hcounters =>
    obtain ⟨hmatched, hfits⟩ := hop happlies
    have hreserved : fill.amountCny ≤ s.amountBudget.reserved := le_sub_iff_add_le'.mpr hfits
    rcases hslice with ⟨hother, -⟩ | ⟨-, hslice | hslice⟩
    · rw [hmatched] at hother
      cases hother
    · rw [amountBudget_eq hslice hbooks, Slice.openAmountCny_fill]
      exact .pay fill.amountCny hreserved
    · rw [amountBudget_eq hslice hbooks, Slice.openAmountCny_none]
      exact .payLast fill.amountCny hreserved
  | @opens used context decision next hdecision hdecided =>
    obtain ⟨rfl, hfilled, -, -⟩ := hop
    obtain ⟨hpos, hcapped⟩ := hdecided.capped
    have hpending := context.pendingBuyAmountCny_nonneg
    have hbudget := hcapped.budget
    rw [amountBudget_eq hdecided.slice hdecided.books, Slice.openAmountCny_ofDecision]
    refine .reserve _ _ hpos.le ?_
    show s.filledAmountCny + decision.amountCny context ≤ used.targetPolicy.maxTotalAmountCny
    linarith

theorem volumeBudget_move {total : Int} (htarget : config.targetPolicy.target = .additionalVolume total)
    (hwithin : ∀ fill, op = .tradeFill fill → s.Applies fill →
      s.pendingFilledVolume + fill.volume ≤ s.pendingRequestedVolume)
    (h : s.volumeBudget.Within total) : Budget.Move total s.volumeBudget next.volumeBudget := by
  cases hmoves with
  | rests hdecided hfill hslice hbooks hcounters =>
    rw [volumeBudget_eq hslice hbooks]
    exact .rest _
  | releases hslice hbooks hcounters =>
    rw [volumeBudget_eq hslice hbooks]
    exact h.release
  | @fills fill next happlies hslice hbooks hcounters =>
    obtain ⟨hmatched, -⟩ := hop happlies
    have hreserved : fill.volume ≤ s.volumeBudget.reserved := le_sub_iff_add_le'.mpr (hwithin fill rfl happlies)
    rcases hslice with ⟨hother, -⟩ | ⟨-, hslice | hslice⟩
    · rw [hmatched] at hother
      cases hother
    · rw [volumeBudget_eq hslice hbooks, Slice.openVolume_fill]
      exact .pay fill.volume hreserved
    · rw [volumeBudget_eq hslice hbooks]
      exact .payLast fill.volume hreserved
  | @opens used context decision next hdecision hdecided =>
    obtain ⟨rfl, -, hfilled, -⟩ := hop
    obtain ⟨hpos, hroom⟩ := hdecided.volume_le htarget
    rw [volumeBudget_eq hdecided.slice hdecided.books, Slice.openVolume_ofDecision]
    have hspent := h.spent_le
    refine .reserve _ _ hpos ?_
    show s.filledVolume + decision.targetVolume.getD 0 ≤ total
    have hspent : s.filledVolume ≤ total := hspent
    omega

end Step

/-! ## The amount of a day -/

section History
variable {m : Moment ManagedEntryPlanState EntryOp} {day : String}

theorem filledOn_eq_zero (h : ∀ fill, m.op = .tradeFill fill → ¬m.before.Applies fill) : filledOn day m = 0 := by
  unfold filledOn
  split
  · rename_i fill hop
    exact if_neg fun hfilled => h fill hop hfilled.1
  · rfl

theorem filledOn_same {fill : EntryFill} (happlies : s.Applies fill) (hday : fill.tradeDate = day) :
    filledOn day ⟨s, .tradeFill fill, next⟩ = fill.amountCny := if_pos ⟨happlies, hday⟩

theorem filledOn_other {fill : EntryFill} (hday : fill.tradeDate ≠ day) :
    filledOn day ⟨s, .tradeFill fill, next⟩ = 0 := if_neg fun hfilled => hday hfilled.2

theorem dayBudget_cons (h : decidedBy registry uuid5 m = none) :
    dayBudget registry uuid5 day (m :: log) next =
      if sliceDate registry uuid5 log = some day then
        ⟨sameDayAmount registry uuid5 day log + filledOn day m, next.slice.openAmountCny⟩
      else ⟨sameDayAmount registry uuid5 day log, 0⟩ := by
  have hdate : sliceDate registry uuid5 (m :: log) = sliceDate registry uuid5 log := by
    rw [sliceDate, decisions_cons_none h]
    rfl
  unfold dayBudget
  rw [sameDayAmount, hdate]
  split
  · rfl
  · rw [add_zero]

theorem dayBudget_opened (h : s.decision? registry uuid5 config context = some decision)
    (hslice : next.slice = .ofDecision context decision) :
    dayBudget registry uuid5 day (⟨s, .evaluate config context, next⟩ :: log) next =
      ⟨sameDayAmount registry uuid5 day log, if context.tradeDate = day then decision.amountCny context else 0⟩ := by
  have hdate : sliceDate registry uuid5 (⟨s, .evaluate config context, next⟩ :: log) = some context.tradeDate := by
    rw [sliceDate, decisions_cons_some (decidedBy_opened h next)]
    rfl
  unfold dayBudget
  rw [sameDayAmount, hdate, hslice, Slice.openAmountCny_ofDecision]
  simp [filledOn]

end History

section Step
variable {op : EntryOp} {day : String} (hmoves : Moves registry uuid5 s op next) (hop : s.Budgeted config op)
include hmoves hop

theorem dayBudget_move
    (h : (dayBudget registry uuid5 day log s).Within config.pacingPolicy.maxDailyFilledAmountCny)
    (hcounted : sameDayAmount registry uuid5 day log ≤ s.dailyFilledAmountsCny.getD day 0) :
    Budget.Move config.pacingPolicy.maxDailyFilledAmountCny (dayBudget registry uuid5 day log s)
      (dayBudget registry uuid5 day (⟨s, op, next⟩ :: log) next) := by
  have hother : ¬sliceDate registry uuid5 log = some day →
      dayBudget registry uuid5 day log s = ⟨sameDayAmount registry uuid5 day log, 0⟩ := by
    intro hother
    rw [dayBudget, if_neg hother]
  have hown : sliceDate registry uuid5 log = some day →
      dayBudget registry uuid5 day log s = ⟨sameDayAmount registry uuid5 day log, s.slice.openAmountCny⟩ := by
    intro hown
    rw [dayBudget, if_pos hown]
  cases hmoves with
  | rests hdecided hfill hslice hbooks hcounters =>
    rw [dayBudget_cons hdecided, filledOn_eq_zero hfill, add_zero, hslice]
    split
    · rename_i hdate
      rw [hown hdate]
      exact .rest _
    · rename_i hdate
      rw [hother hdate]
      exact .rest _
  | releases hslice hbooks hcounters =>
    rw [dayBudget_cons rfl, filledOn_eq_zero (fun _ hop => by cases hop), add_zero, hslice, Slice.openAmountCny_none,
      ite_self]
    exact h.release
  | @fills fill next happlies hslice hbooks hcounters =>
    obtain ⟨hmatched, hfits⟩ := hop happlies
    rw [dayBudget_cons rfl]
    split
    · rename_i hdate
      have hreserved : fill.amountCny ≤ s.slice.openAmountCny := le_sub_iff_add_le'.mpr hfits
      have hpos : 0 ≤ fill.amountCny := mul_nonneg (by exact_mod_cast happlies.volume.le) happlies.price.le
      rw [hown hdate]
      by_cases hday : fill.tradeDate = day
      · rw [filledOn_same happlies hday]
        rcases hslice with ⟨houtside, -⟩ | ⟨-, hslice | hslice⟩
        · rw [hmatched] at houtside
          cases houtside
        · rw [hslice, Slice.openAmountCny_fill]
          exact .pay fill.amountCny hreserved
        · rw [hslice, Slice.openAmountCny_none]
          exact .payLast fill.amountCny hreserved
      · rw [filledOn_other hday]
        rcases hslice with ⟨houtside, -⟩ | ⟨-, hslice | hslice⟩
        · rw [hmatched] at houtside
          cases houtside
        · rw [hslice, Slice.openAmountCny_fill]
          have hmove : Budget.Move config.pacingPolicy.maxDailyFilledAmountCny
              ⟨sameDayAmount registry uuid5 day log, s.slice.openAmountCny⟩
              ⟨sameDayAmount registry uuid5 day log + 0, s.slice.openAmountCny - 0 - fill.amountCny⟩ :=
            .settle _ 0 fill.amountCny hpos (by rw [zero_add]; exact hreserved)
          rwa [sub_zero] at hmove
        · rw [hslice, Slice.openAmountCny_none]
          exact .payLast 0 (hpos.trans hreserved)
    · rename_i hdate
      rw [hother hdate]
      exact .rest _
  | @opens used context decision next hdecision hdecided =>
    obtain ⟨rfl, -, -, hfilled⟩ := hop
    rw [dayBudget_opened hdecision hdecided.slice]
    split
    · rename_i hday
      subst hday
      obtain ⟨hpos, hcapped⟩ := hdecided.capped
      have hdaily := hcapped.daily
      refine .reserve _ _ hpos.le ?_
      show sameDayAmount registry uuid5 context.tradeDate log + decision.amountCny context ≤ _
      linarith
    · exact h.release

end Step

theorem sameDayAmount_counted {day : String} (hmoves : Moves registry uuid5 s op next)
    (h : sameDayAmount registry uuid5 day log ≤ s.dailyFilledAmountsCny.getD day 0) :
    sameDayAmount registry uuid5 day (⟨s, op, next⟩ :: log) ≤ next.dailyFilledAmountsCny.getD day 0 := by
  rw [sameDayAmount]
  cases hmoves with
  | rests hdecided hfill hslice hbooks hcounters =>
    have hdays : next.dailyFilledAmountsCny = s.dailyFilledAmountsCny := congrArg Books.dailyCny hbooks
    rw [filledOn_eq_zero hfill, ite_self, add_zero, hdays]
    exact h
  | releases hslice hbooks hcounters =>
    have hdays : next.dailyFilledAmountsCny = s.dailyFilledAmountsCny := congrArg Books.dailyCny hbooks
    rw [filledOn_eq_zero (fun _ hop => by cases hop), ite_self, add_zero, hdays]
    exact h
  | @fills fill next happlies hslice hbooks hcounters =>
    have hpos : 0 ≤ fill.amountCny := mul_nonneg (by exact_mod_cast happlies.volume.le) happlies.price.le
    have hdays : next.dailyFilledAmountsCny = s.dailyFilledAmountsCny.set fill.tradeDate
        (s.dailyFilledAmountsCny.getD fill.tradeDate 0 + fill.amountCny) := congrArg Books.dailyCny hbooks
    rw [hdays, Dict.getD_set]
    by_cases hday : fill.tradeDate = day
    · rw [filledOn_same happlies hday, if_pos hday, hday]
      split
      · exact add_le_add_left h _
      · rw [add_zero]
        exact h.trans (le_add_of_nonneg_right hpos)
    · rw [filledOn_other hday, if_neg hday, ite_self, add_zero]
      exact h
  | opens hdecision hdecided =>
    have hdays : next.dailyFilledAmountsCny = s.dailyFilledAmountsCny := congrArg Books.dailyCny hdecided.books
    rw [filledOn_eq_zero (fun _ hop => by cases hop), ite_self, add_zero, hdays]
    exact h

theorem releasedVolume_cons (m : Moment ManagedEntryPlanState EntryOp) (log : List (Moment ManagedEntryPlanState EntryOp)) :
    releasedVolume (m :: log) = releasedBy m + releasedVolume log := by
  simp [releasedVolume]

theorem totalTargetVolume_none (h : decidedBy registry uuid5 m = none) :
    totalTargetVolume registry uuid5 (m :: log) = totalTargetVolume registry uuid5 log := by
  rw [totalTargetVolume, decisions_cons_none h]
  rfl

theorem totalTargetVolume_some
    (h : decidedBy registry uuid5 m = some (context, decision)) :
    totalTargetVolume registry uuid5 (m :: log) =
      decision.targetVolume.getD 0 + totalTargetVolume registry uuid5 log := by
  rw [totalTargetVolume, decisions_cons_some h, List.map_cons, List.sum_cons]
  rfl

theorem releasedBy_kept
    (h : m.before.hasPending = true → m.after.hasPending = true) : releasedBy m = 0 := by
  refine if_neg fun hcleared => ?_
  rw [h hcleared.1] at hcleared
  cases hcleared.2

theorem releasedBy_cleared (hpending : m.before.hasPending = true)
    (hslice : m.after.slice = .none) : releasedBy m = m.before.slice.openVolume - matchedBy m := by
  have hcleared : m.after.hasPending = false := by
    rw [hasPending_eq, hslice]
    rfl
  exact if_pos ⟨hpending, hcleared⟩

theorem pending_of_fits {fill : EntryFill} (happlies : s.Applies fill) (hidle : s.hasPending = false → s.slice = .none)
    (hfits : s.pendingFilledAmountCny + fill.amountCny ≤ s.pendingRequestedAmountCny) : s.hasPending = true := by
  cases hpending : s.hasPending with
  | true => rfl
  | false =>
    have hnone := hidle hpending
    have hrequested : s.pendingRequestedAmountCny = 0 := congrArg Slice.requestedAmountCny hnone
    have hfilled : s.pendingFilledAmountCny = 0 := congrArg Slice.filledAmountCny hnone
    have hpos : 0 < fill.amountCny := mul_pos (by exact_mod_cast happlies.volume) happlies.price
    rw [hrequested, hfilled, zero_add] at hfits
    exact absurd hpos (not_lt.mpr hfits)

theorem targetVolume_split (hmoves : Moves registry uuid5 s op next) (hop : s.Budgeted config op)
    (hidle : s.hasPending = false → s.slice = .none)
    (h : totalTargetVolume registry uuid5 log = s.books.volume + s.slice.openVolume + releasedVolume log) :
    totalTargetVolume registry uuid5 (⟨s, op, next⟩ :: log) =
      next.books.volume + next.slice.openVolume + releasedVolume (⟨s, op, next⟩ :: log) := by
  rw [releasedVolume_cons]
  cases hmoves with
  | rests hdecided hfill hslice hbooks hcounters =>
    have hkept : next.hasPending = s.hasPending := congrArg Slice.pending hslice
    rw [totalTargetVolume_none hdecided, hslice, hbooks, releasedBy_kept fun hpending => hkept.trans hpending, h, zero_add]
  | @releases report next hslice hbooks hcounters =>
    rw [totalTargetVolume_none rfl, hbooks, h]
    cases hpending : s.hasPending with
    | true =>
      rw [releasedBy_cleared hpending hslice, hslice]
      show _ = s.books.volume + 0 + (s.slice.openVolume - 0 + releasedVolume log)
      omega
    | false =>
      have hheld : releasedBy ⟨s, .orderTerminal report, next⟩ = 0 :=
        releasedBy_kept fun hheld => absurd (hpending.symm.trans hheld) Bool.false_ne_true
      rw [hheld, hidle hpending, hslice, zero_add]
  | @fills fill next happlies hslice hbooks hcounters =>
    obtain ⟨hmatched, hfits⟩ := hop happlies
    have hpending := pending_of_fits happlies hidle hfits
    rw [totalTargetVolume_none rfl, hbooks, h]
    rcases hslice with ⟨hother, -⟩ | ⟨-, hslice | hslice⟩
    · rw [hmatched] at hother
      cases hother
    · have hkept : next.hasPending = s.hasPending := congrArg Slice.pending hslice
      rw [releasedBy_kept fun hpending => hkept.trans hpending, hslice, Slice.openVolume_fill]
      show _ = s.books.volume + fill.volume + (s.slice.openVolume - fill.volume) + (0 + releasedVolume log)
      omega
    · have hbuys : matchedBy ⟨s, .tradeFill fill, next⟩ = fill.volume := if_pos ⟨happlies, hmatched⟩
      rw [releasedBy_cleared hpending hslice, hbuys, hslice]
      show _ = s.books.volume + fill.volume + 0 + (s.slice.openVolume - fill.volume + releasedVolume log)
      omega
  | @opens used context decision next hdecision hdecided =>
    have hnone := hidle hdecided.idle
    have hheld : releasedBy ⟨s, .evaluate used context, next⟩ = 0 := releasedBy_kept fun _ => hdecided.pending
    rw [totalTargetVolume_some (decidedBy_opened hdecision next), hheld, hdecided.slice, hdecided.books,
      Slice.openVolume_ofDecision, h, hnone]
    show decision.targetVolume.getD 0 + (s.books.volume + 0 + releasedVolume log) = _
    omega

structure BudgetInv (registry : ManagedEntryRuleRegistry) (uuid5 : String → String) (config : ManagedEntryPlanConfig)
    (log : List (Moment ManagedEntryPlanState EntryOp)) (s : ManagedEntryPlanState) : Prop where
  idle : s.hasPending = false → s.slice = .none
  amount : s.amountBudget.Within config.targetPolicy.maxTotalAmountCny
  day : ∀ day, (dayBudget registry uuid5 day log s).Within config.pacingPolicy.maxDailyFilledAmountCny
  counted : ∀ day, sameDayAmount registry uuid5 day log ≤ s.dailyFilledAmountsCny.getD day 0
  split : totalTargetVolume registry uuid5 log = s.books.volume + s.slice.openVolume + releasedVolume log
  volume : ∀ total, config.targetPolicy.target = .additionalVolume total → FillsWithinTargets log →
    s.volumeBudget.Within total
  capped : ∀ m ∈ log, ∀ context decision, decidedBy registry uuid5 m = some (context, decision) →
    Capped config context (decision.amountCny context)

theorem Moves.idle (hmoves : Moves registry uuid5 s op next) (hop : s.Budgeted config op)
    (hidle : s.hasPending = false → s.slice = .none) (hpending : next.hasPending = false) : next.slice = .none := by
  cases hmoves with
  | rests hdecided hfill hslice hbooks hcounters =>
    rw [hslice]
    exact hidle ((congrArg Slice.pending hslice).symm.trans hpending)
  | releases hslice hbooks hcounters => exact hslice
  | fills happlies hslice hbooks hcounters =>
    obtain ⟨hmatched, hfits⟩ := hop happlies
    rcases hslice with ⟨hother, -⟩ | ⟨-, hslice | hslice⟩
    · rw [hmatched] at hother
      cases hother
    · have hheld : s.hasPending = false := (congrArg Slice.pending hslice).symm.trans hpending
      rw [pending_of_fits happlies hidle hfits] at hheld
      cases hheld
    · exact hslice
  | opens hdecision hdecided =>
    rw [hdecided.pending] at hpending
    cases hpending

theorem Moves.capped (hmoves : Moves registry uuid5 s op next) (hop : s.Budgeted config op)
    (hmade : decidedBy registry uuid5 ⟨s, op, next⟩ = some (context, decision)) :
    Capped config context (decision.amountCny context) := by
  cases hmoves with
  | rests hdecided hfill hslice hbooks hcounters =>
    rw [hdecided] at hmade
    cases hmade
  | releases hslice hbooks hcounters => cases hmade
  | fills happlies hslice hbooks hcounters => cases hmade
  | opens hdecision hdecided =>
    rw [decidedBy_opened hdecision] at hmade
    cases hmade
    obtain ⟨rfl, -⟩ := hop
    exact hdecided.capped.2

theorem BudgetInv.step (h : BudgetInv registry uuid5 config log s) (op : EntryOp) (hop : s.Budgeted config op) :
    BudgetInv registry uuid5 config (⟨s, op, s.step registry uuid5 op⟩ :: log) (s.step registry uuid5 op) := by
  have hmoves := s.step_moves registry uuid5 op
  refine ⟨hmoves.idle hop h.idle, h.amount.move (amountBudget_move hmoves hop h.amount),
    fun day => (h.day day).move (dayBudget_move hmoves hop (h.day day) (h.counted day)),
    fun day => sameDayAmount_counted hmoves (h.counted day), targetVolume_split hmoves hop h.idle h.split,
    fun total htarget hwithin => ?_, fun m hm context decision hmade => ?_⟩
  · have hbefore := h.volume total htarget fun m hm => hwithin m (List.mem_cons_of_mem _ hm)
    exact hbefore.move (volumeBudget_move hmoves hop htarget (hwithin _ List.mem_cons_self) hbefore)
  · rcases List.mem_cons.mp hm with rfl | hm
    · exact hmoves.capped hop hmade
    · exact h.capped m hm context decision hmade

theorem BudgetRun.budgetInv (h : BudgetRun registry uuid5 config log s) : BudgetInv registry uuid5 config log s := by
  refine Run.invariant (BudgetInv registry uuid5 config) ?_ (fun _ _ op hinv hop => hinv.step op hop) h
  rintro s rfl
  have hstart : amountBudget {} = ⟨0, 0⟩ := by
    show (⟨0, Slice.none.openAmountCny⟩ : Budget Rat) = ⟨0, 0⟩
    rw [Slice.openAmountCny_none]
  refine ⟨fun _ => rfl, ?_, fun day => .fresh config.pacingPolicy.amounts_pos.2.le, fun day => le_refl _, rfl,
    fun total htarget _ => .fresh ?_, fun m hm => by cases hm⟩
  · rw [hstart]
    exact .fresh config.targetPolicy.maxTotalAmountCny_pos.le
  · have hok := config.targetPolicy.target_ok
    rw [htarget] at hok
    exact le_of_lt hok

/-- Along a run whose fills stay within their slices, the plan keeps its total budget. The decisions of a plan that
    counts volume ask for no more than its volume and what its slices let go unfilled. A day's slices spend no more on
    that day than its amount, and every decision fits into all of its caps. -/
theorem budgets_kept (h : BudgetRun registry uuid5 config log s) :
    s.filledAmountCny ≤ config.targetPolicy.maxTotalAmountCny ∧
      (∀ total, config.targetPolicy.target = .additionalVolume total → FillsWithinTargets log →
        totalTargetVolume registry uuid5 log ≤ total + releasedVolume log) ∧
      (∀ day, sameDayAmount registry uuid5 day log ≤ config.pacingPolicy.maxDailyFilledAmountCny) ∧
      ∀ m ∈ log, ∀ context decision, decidedBy registry uuid5 m = some (context, decision) →
        Capped config context (decision.amountCny context) := by
  have hinv := h.budgetInv
  refine ⟨hinv.amount.spent_le, fun total htarget hwithin => ?_, fun day => (hinv.day day).spent_le, hinv.capped⟩
  have hcovered : s.books.volume + s.slice.openVolume ≤ total := (hinv.volume total htarget hwithin).covered
  rw [hinv.split]
  omega

theorem hundred_pos : (0 : Int) < 100 := by decide

def hundredConfig : ManagedEntryPlanConfig :=
  { manualEntryConfig with
    targetPolicy := { manualEntryConfig.targetPolicy with
      target := .additionalVolume 100, target_ok := hundred_pos } }

theorem BudgetRun.extend (h : BudgetRun registry uuid5 config log s) (op : EntryOp) (hop : s.Budgeted config op) :
    BudgetRun registry uuid5 config (⟨s, op, s.step registry uuid5 op⟩ :: log) (s.step registry uuid5 op) :=
  Run.step h op hop

def hundredState : ManagedEntryPlanState := step .builtins id {} (.evaluate hundredConfig triggeredContext)

def hundredLog : List (Moment ManagedEntryPlanState EntryOp) :=
  [⟨{}, .evaluate hundredConfig triggeredContext, hundredState⟩]

theorem hundredRun : BudgetRun .builtins id hundredConfig hundredLog hundredState := by
  have hstart : BudgetRun .builtins id hundredConfig [] {} := Run.start rfl
  exact hstart.extend (.evaluate hundredConfig triggeredContext)
    ⟨rfl, by decide +kernel, by decide, by decide +kernel⟩

def boughtState : ManagedEntryPlanState := hundredState.step .builtins id (.tradeFill announcedFill)

def boughtLog : List (Moment ManagedEntryPlanState EntryOp) :=
  ⟨hundredState, .tradeFill announcedFill, boughtState⟩ :: hundredLog

theorem bought_slice_kept : boughtState.filledAmountCny = 1000 ∧ boughtState.filledAmountCny ≤ 100000 ∧
    totalTargetVolume .builtins id boughtLog ≤ 100 + releasedVolume boughtLog ∧
    sameDayAmount .builtins id "2026-01-05" boughtLog ≤ 100000 := by
  have hrun : BudgetRun .builtins id hundredConfig boughtLog boughtState :=
    hundredRun.extend (.tradeFill announcedFill) fun _ => ⟨rfl, by decide +kernel⟩
  have hwithin : FillsWithinTargets boughtLog := by
    intro m hm fill hop happlies
    simp only [boughtLog, hundredLog, List.mem_cons, List.not_mem_nil, or_false] at hm
    rcases hm with rfl | rfl <;> cases hop
    decide +kernel
  obtain ⟨hamount, hvolume, hday, -⟩ := budgets_kept hrun
  exact ⟨by decide +kernel, hamount, hvolume 100 rfl hwithin, hday "2026-01-05"⟩

def reissuedLog : List (Moment ManagedEntryPlanState EntryOp) :=
  (play (step .builtins id) {} [.evaluate hundredConfig triggeredContext, .orderTerminal rejectedReport,
    .evaluate hundredConfig { triggeredContext with decisionTimeMs := 5000 }]).1

def reissuedState : ManagedEntryPlanState :=
  (play (step .builtins id) {} [.evaluate hundredConfig triggeredContext, .orderTerminal rejectedReport,
    .evaluate hundredConfig { triggeredContext with decisionTimeMs := 5000 }]).2

theorem reissued_exceeds_volume : hundredConfig.targetPolicy.target = .additionalVolume 100 ∧
    BudgetRun .builtins id hundredConfig reissuedLog reissuedState ∧ FillsWithinTargets reissuedLog ∧
    totalTargetVolume .builtins id reissuedLog = 200 := by
  refine ⟨rfl, ?_, ?_, by decide +kernel⟩
  · have hrejected := hundredRun.extend (.orderTerminal rejectedReport) trivial
    exact hrejected.extend (.evaluate hundredConfig { triggeredContext with decisionTimeMs := 5000 })
      ⟨rfl, by decide +kernel, by decide +kernel, by decide +kernel⟩
  · intro m hm fill hop happlies
    simp only [reissuedLog, play, List.foldl_cons, List.foldl_nil, List.mem_cons, List.not_mem_nil, or_false] at hm
    rcases hm with rfl | rfl | rfl <;> cases hop

end ManagedEntryPlanState

end QuantX
