import QuantX.Theorems.TOrderPolicy.Price
import QuantX.Lib.Run
import QuantX.Lib.Require

namespace QuantX
open Lib

structure TChainOrder where
  volume : Int
  createdAt : ClockTime
  limitPrice : Option Rat
  filled : Int := 0
  live : Bool := true

def TChainOrder.fill (order : TChainOrder) (volume : Int) : TChainOrder := { order with filled := order.filled + volume }
def TChainOrder.settle (order : TChainOrder) : TChainOrder := { order with live := false }

/-- The requested volume, the first order's time, and the orders, the newest first. -/
structure TOrderChain where
  requested : Int
  openedAt : ClockTime
  orders : List TChainOrder

inductive TChainEvent where
  /-- Some volume of the order at a position is filled. -/
  | fill (position : Nat) (volume : Int)
  /-- The order at a position is terminal for certain. -/
  | settle (position : Nat)
  /-- The policy is asked for a replacement. -/
  | replace (now : ClockTime) (terminal resultUnknown cancelUnconfirmed : Bool) (prices : PriceInputs)

namespace TOrderChain
variable (zone : ZoneInfo) (policy : TOrderPolicy)

def filled (chain : TOrderChain) : Int := (chain.orders.map TChainOrder.filled).sum

def replaceRequest (chain : TOrderChain) (now : ClockTime) (terminal resultUnknown cancelUnconfirmed : Bool) : ReplaceRequest where
  now := now
  originalCreatedAt := chain.openedAt
  replaceCount := chain.orders.length - 1
  requestedVolume := chain.requested
  authoritativeFilledVolume := chain.filled
  priorOrderAuthoritativeTerminal := terminal
  resultUnknown := resultUnknown
  cancelUnconfirmed := cancelUnconfirmed
  priorOrderCreatedAt := (chain.orders.head?).map TChainOrder.createdAt

/-- An allowed replacement is ordered for the volume that remains. -/
def ordered (chain : TOrderChain) (now : ClockTime) : Except String TOrderPolicyResult → TOrderChain
  | .error _ => chain
  | .ok result =>
    if result.decision = .allowReplace then
      { chain with orders := ⟨result.remainingVolume, now, result.limitPrice, 0, true⟩ :: chain.orders }
    else chain

def step (chain : TOrderChain) : TChainEvent → TOrderChain
  | .fill position volume => { chain with orders := chain.orders.modify position (·.fill volume) }
  | .settle position => { chain with orders := chain.orders.modify position (·.settle) }
  | .replace now terminal resultUnknown cancelUnconfirmed prices =>
    chain.ordered now (policy.decideReplace zone prices (chain.replaceRequest now terminal resultUnknown cancelUnconfirmed))

def Opened (chain : TOrderChain) : Prop :=
  0 ≤ chain.requested ∧ ∃ limitPrice, chain.orders = [⟨chain.requested, chain.openedAt, limitPrice, 0, true⟩]

/-- Only a living order is filled, up to its own volume, and only an order that has ended is called terminal. -/
def Legal (_ : List (Moment TOrderChain TChainEvent)) (chain : TOrderChain) : TChainEvent → Prop
  | .fill position volume => ∃ order, chain.orders[position]? = some order ∧ order.live = true ∧ 0 ≤ volume ∧
      order.filled + volume ≤ order.volume
  | .settle _ => True
  | .replace _ terminal _ _ _ => terminal = true → ∀ order ∈ chain.orders.head?, order.live = false

abbrev ChainRun (log : List (Moment TOrderChain TChainEvent)) (chain : TOrderChain) : Prop :=
  Run Opened (step zone policy) Legal log chain

variable {zone policy} {chain : TOrderChain} {log : List (Moment TOrderChain TChainEvent)}

/-- The time of a replacement: before the end of the chain's life, and of a purchase before the cut-off of the day. -/
structure Timely (zone : ZoneInfo) (policy : TOrderPolicy) (openedAt now : ClockTime) : Prop where
  ttl : TOrderPolicy.timeBetween zone now openedAt < policy.totalTtlSeconds * 1000000
  cutoff : policy.side = .buy → TOrderPolicy.exchangeTime zone now < TOrderPolicy.cutoffMicros

theorem decideReplace_allowed {prices : PriceInputs} {request : ReplaceRequest} {result : TOrderPolicyResult}
    (h : policy.decideReplace zone prices request = .ok result) (hallowed : result.decision = .allowReplace) :
    request.priorOrderAuthoritativeTerminal = true ∧ request.replaceCount < policy.maxReplaceCount ∧
      Timely zone policy request.originalCreatedAt request.now ∧
      result.remainingVolume = max 0 (request.requestedVolume - max 0 request.authoritativeFilledVolume) ∧
      ∃ price, policy.protectedLimitPrice prices = .ok price ∧ result.limitPrice = some price := by
  simp only [TOrderPolicy.decideReplace] at h
  split at h
  · cases h
    cases hallowed
  · split at h
    · cases h
      cases hallowed
    · rename_i hterminal
      split at h
      · cases h
        cases hallowed
      · rename_i httl
        split at h
        · cases h
          cases hallowed
        · rename_i hcutoff
          split at h
          · cases h
            cases hallowed
          · rename_i hcount
            split at h
            · cases h
              cases hallowed
            · split at h
              · cases h
                cases hallowed
              · obtain ⟨price, hprice, h⟩ := bind_eq_ok.mp h
                cases h
                simp only [Bool.or_eq_true, Bool.not_eq_true', not_or, Bool.not_eq_false] at hterminal
                refine ⟨hterminal.2, ?_, ⟨?_, ?_⟩, rfl, price, hprice, rfl⟩
                · exact (le_max_right _ _).trans_lt (not_le.mp hcount)
                · exact (le_max_right _ _).trans_lt (not_le.mp httl)
                · intro hbuy
                  simpa [TOrderPolicy.afterCutoff, hbuy] using hcutoff

/-! ### The invariant -/

/-- Only the newest order lives; the others' fills with its whole volume are within the request; every order but the
    first came in time. -/
structure Bounded (zone : ZoneInfo) (policy : TOrderPolicy) (chain : TOrderChain) : Prop where
  newest : ∃ order older, chain.orders = order :: older ∧ (∀ o ∈ older, o.live = false) ∧
    order.volume + (older.map TChainOrder.filled).sum ≤ chain.requested
  fills : ∀ o ∈ chain.orders, 0 ≤ o.filled ∧ o.filled ≤ o.volume
  count : (chain.orders.length : Int) ≤ 1 + policy.maxReplaceCount
  timely : ∀ o ∈ chain.orders.dropLast, Timely zone policy chain.openedAt o.createdAt

theorem Bounded.opened (h : Opened chain) : Bounded zone policy chain := by
  obtain ⟨hnonneg, limitPrice, horders⟩ := h
  have hcount : 0 ≤ policy.maxReplaceCount := by
    rcases policy.frozen with h | h
    · rw [(Prod.mk.inj (Prod.mk.inj (Prod.mk.inj (Prod.mk.inj (Prod.mk.inj h).2).2).2).2).1]
      decide
    · rw [(Prod.mk.inj (Prod.mk.inj (Prod.mk.inj (Prod.mk.inj (Prod.mk.inj h).2).2).2).2).1]
      decide
  refine ⟨⟨_, [], horders, by simp, by simp⟩, ?_, ?_, ?_⟩
  · simp [horders, hnonneg]
  · simp [horders, hcount]
  · simp [horders]

theorem map_modify_same {α : Type} {value : TChainOrder → α} (change : TChainOrder → TChainOrder)
    (hchange : ∀ o, value (change o) = value o) (orders : List TChainOrder) (position : Nat) :
    (orders.modify position change).map value = orders.map value := by
  induction orders generalizing position with
  | nil => simp
  | cons order orders ih =>
    cases position with
    | zero => simp [hchange]
    | succ position => simp [ih]

theorem timely_modify (change : TChainOrder → TChainOrder) (hchange : ∀ o, (change o).createdAt = o.createdAt)
    {orders : List TChainOrder} {openedAt : ClockTime} (position : Nat)
    (h : ∀ o ∈ orders.dropLast, Timely zone policy openedAt o.createdAt) :
    ∀ o ∈ (orders.modify position change).dropLast, Timely zone policy openedAt o.createdAt := by
  intro o ho
  have hmem : o.createdAt ∈ orders.dropLast.map TChainOrder.createdAt := by
    rw [List.map_dropLast, ← map_modify_same change hchange orders position, ← List.map_dropLast]
    exact List.mem_map_of_mem ho
  obtain ⟨o', ho', heq⟩ := List.mem_map.mp hmem
  rw [← heq]
  exact h o' ho'

theorem Bounded.living (h : Bounded zone policy chain) {position : Nat} {order : TChainOrder}
    (horder : chain.orders[position]? = some order) (hlive : order.live = true) :
    position = 0 ∧ ∃ older, chain.orders = order :: older ∧ (∀ o ∈ older, o.live = false) ∧
      order.volume + (older.map TChainOrder.filled).sum ≤ chain.requested := by
  obtain ⟨newest, older, horders, hended, hfits⟩ := h.newest
  rw [horders] at horder
  cases position with
  | zero =>
    obtain rfl : newest = order := by simpa using horder
    exact ⟨rfl, older, horders, hended, hfits⟩
  | succ position =>
    have hmem : order ∈ older := List.mem_of_getElem? (by simpa using horder)
    cases (hended order hmem).symm.trans hlive

theorem Bounded.fill (h : Bounded zone policy chain) {position : Nat} {volume : Int} (hlegal : Legal log chain (.fill position volume)) :
    Bounded zone policy (step zone policy chain (.fill position volume)) := by
  obtain ⟨order, horder, hlive, hvolume, hwithin⟩ := hlegal
  obtain ⟨rfl, older, horders, hended, hfits⟩ := h.living horder hlive
  have hfills := h.fills
  have hcount := h.count
  refine ⟨⟨order.fill volume, older, ?_, hended, hfits⟩, ?_, ?_, timely_modify (·.fill volume) (fun _ => rfl) 0 h.timely⟩
  · simp [step, horders]
  · simp only [step, horders, List.modify_zero_cons]
    rw [horders] at hfills
    intro o ho
    rcases List.mem_cons.mp ho with rfl | ho
    · exact ⟨add_nonneg (hfills order (List.mem_cons_self ..)).1 hvolume, hwithin⟩
    · exact hfills o (List.mem_cons_of_mem _ ho)
  · simpa only [step, List.length_modify] using hcount

theorem Bounded.settle (h : Bounded zone policy chain) (position : Nat) :
    Bounded zone policy (step zone policy chain (.settle position)) := by
  obtain ⟨newest, older, horders, hended, hfits⟩ := h.newest
  have hcount := h.count
  refine ⟨?_, ?_, ?_, timely_modify (·.settle) (fun _ => rfl) position h.timely⟩
  · simp only [step, horders]
    cases position with
    | zero =>
      rw [List.modify_zero_cons]
      exact ⟨newest.settle, older, rfl, hended, hfits⟩
    | succ position =>
      rw [List.modify_succ_cons]
      refine ⟨newest, _, rfl, ?_, ?_⟩
      · intro o ho
        obtain ⟨i, hi⟩ := List.mem_iff_getElem?.mp ho
        rw [List.getElem?_modify] at hi
        split at hi
        · obtain ⟨o', -, rfl⟩ := Option.map_eq_some_iff.mp hi
          rfl
        · exact hended o (List.mem_of_getElem? (by simpa using hi))
      · rw [map_modify_same (·.settle) fun _ => rfl]
        exact hfits
  · intro o ho
    have hpairs : (o.filled, o.volume) ∈ chain.orders.map fun o => (o.filled, o.volume) := by
      rw [← map_modify_same (·.settle) (fun _ => rfl) chain.orders position]
      exact List.mem_map_of_mem ho
    obtain ⟨o', ho', heq⟩ := List.mem_map.mp hpairs
    obtain ⟨hfilled, hvolume⟩ := Prod.mk.inj heq
    rw [← hfilled, ← hvolume]
    exact h.fills o' ho'
  · simpa only [step, List.length_modify] using hcount

theorem Bounded.replace (h : Bounded zone policy chain) {now : ClockTime} {terminal resultUnknown cancelUnconfirmed : Bool}
    {prices : PriceInputs} (hlegal : Legal log chain (.replace now terminal resultUnknown cancelUnconfirmed prices)) :
    Bounded zone policy (step zone policy chain (.replace now terminal resultUnknown cancelUnconfirmed prices)) := by
  simp only [step]
  rcases hresult : policy.decideReplace zone prices (chain.replaceRequest now terminal resultUnknown cancelUnconfirmed) with e | result
  · exact h
  · simp only [ordered]
    split
    · rename_i hallowed
      obtain ⟨hterminal, hcount, htimely, hremaining, -⟩ := decideReplace_allowed hresult hallowed
      obtain ⟨newest, older, horders, hended, hfits⟩ := h.newest
      have hnewest : newest.live = false := hlegal hterminal newest (by simp [horders])
      have hnonneg : 0 ≤ chain.filled := List.sum_nonneg (by
        intro v hv
        obtain ⟨o, ho, rfl⟩ := List.mem_map.mp hv
        exact (h.fills o ho).1)
      have hwithin : chain.filled ≤ chain.requested := by
        have hnewestFills := (h.fills newest (by simp [horders])).2
        simp only [TOrderChain.filled, horders, List.map_cons, List.sum_cons]
        omega
      have hvolume : result.remainingVolume = chain.requested - chain.filled := by
        rw [hremaining]
        simp only [replaceRequest]
        omega
      have hremainingNonneg : 0 ≤ result.remainingVolume := by omega
      refine ⟨⟨_, chain.orders, rfl, ?_, ?_⟩, ?_, ?_, ?_⟩
      · intro o ho
        rw [horders] at ho
        rcases List.mem_cons.mp ho with rfl | ho
        · exact hnewest
        · exact hended o ho
      · rw [hvolume]
        simp [TOrderChain.filled]
      · intro o ho
        rcases List.mem_cons.mp ho with rfl | ho
        · exact ⟨le_rfl, hremainingNonneg⟩
        · exact h.fills o ho
      · simp only [replaceRequest] at hcount
        simp only [List.length_cons]
        push_cast
        omega
      · intro o ho
        rw [List.dropLast_cons_of_ne_nil (by simp [horders])] at ho
        rcases List.mem_cons.mp ho with rfl | ho
        · exact htimely
        · exact h.timely o ho
    · exact h

theorem Bounded.run (h : ChainRun zone policy log chain) : Bounded zone policy chain := by
  refine Run.invariant (fun _ chain => Bounded zone policy chain) (fun _ => Bounded.opened) ?_ h
  intro log chain event hbounded hlegal
  cases event with
  | fill position volume => exact hbounded.fill hlegal
  | settle position => exact hbounded.settle position
  | replace now terminal resultUnknown cancelUnconfirmed prices => exact hbounded.replace hlegal

theorem Bounded.filled_le (h : Bounded zone policy chain) : chain.filled ≤ chain.requested := by
  obtain ⟨newest, older, horders, -, hfits⟩ := h.newest
  have hnewest := (h.fills newest (by simp [horders])).2
  simp only [TOrderChain.filled, horders, List.map_cons, List.sum_cons]
  omega

theorem Bounded.one_living (h : Bounded zone policy chain) : chain.orders.Pairwise fun a b => ¬(a.live = true ∧ b.live = true) := by
  obtain ⟨newest, older, horders, hended, -⟩ := h.newest
  rw [horders]
  refine .cons ?_ (List.Pairwise.imp_of_mem ?_ (List.pairwise_of_forall fun _ _ => trivial))
  · rintro o ho ⟨-, hlive⟩
    cases (hended o ho).symm.trans hlive
  · rintro a b ha - - ⟨hlive, -⟩
    cases (hended a ha).symm.trans hlive

/-- Every chain of replacements keeps within its volume, its number of orders and its times with one living order at
    most, and every protected limit price is the best multiple of the tick within its bounds. -/
theorem replacement_chain (zone : ZoneInfo) (policy : TOrderPolicy) :
    (∀ log chain, ChainRun zone policy log chain →
      chain.filled ≤ chain.requested ∧ (chain.orders.length : Int) ≤ 1 + policy.maxReplaceCount ∧
        (chain.orders.Pairwise fun a b => ¬(a.live = true ∧ b.live = true)) ∧
        ∀ o ∈ chain.orders.dropLast,
          (policy.side = .buy → TOrderPolicy.exchangeTime zone o.createdAt < TOrderPolicy.cutoffMicros) ∧
            TOrderPolicy.timeBetween zone o.createdAt chain.openedAt < policy.totalTtlSeconds * 1000000) ∧
    ∀ prices price, TOrderPolicy.PricesOnGrid prices → policy.protectedLimitPrice prices = .ok price →
      ∃ reference tick, prices.referencePrice = some reference ∧ prices.priceTick = some tick ∧ IsMultiple tick price ∧
        (policy.side = .buy → IsGreatest {p | IsMultiple tick p ∧ policy.Respects prices reference p} price) ∧
        (policy.side = .sell → IsLeast {p | IsMultiple tick p ∧ policy.Respects prices reference p} price) := by
  constructor
  · intro log chain hrun
    have hbounded := Bounded.run hrun
    exact ⟨hbounded.filled_le, hbounded.count, hbounded.one_living,
      fun o ho => ⟨(hbounded.timely o ho).cutoff, (hbounded.timely o ho).ttl⟩⟩
  · intro prices price hgrid hprice
    rcases hside : policy.side with _ | _
    · obtain ⟨reference, tick, hreference, htick, hbest⟩ := TOrderPolicy.protectedLimitPrice_buy hside hgrid hprice
      exact ⟨reference, tick, hreference, htick, hbest.1.1, fun _ => hbest, fun h => by cases h⟩
    · obtain ⟨reference, tick, hreference, htick, hbest⟩ := TOrderPolicy.protectedLimitPrice_sell hside hgrid hprice
      exact ⟨reference, tick, hreference, htick, hbest.1.1, fun h => (by cases h), fun _ => hbest⟩

/-- A bound of zero counts as none, and one with more digits than the arithmetic holds is rounded away: either way the
    price ends above the given limit. -/
theorem given_bounds_missed :
    (∃ price, tEntryOrderPolicy.protectedLimitPrice
        { referencePrice := some 10, priceTick := some (1 / 100), limitUp := some 0 } = .ok price ∧ 0 < price) ∧
      ∃ price, tEntryOrderPolicy.protectedLimitPrice
        { referencePrice := some 10, priceTick := some (1 / 100), limitUp := some (10 - 1 / 10 ^ 30) } = .ok price ∧
        10 - 1 / 10 ^ 30 < price := by
  exact ⟨⟨1003 / 100, eq_ok_of_toOption (by decide +kernel), by norm_num⟩, 10, eq_ok_of_toOption (by decide +kernel), by norm_num⟩

def plainZone : ZoneInfo := ⟨id, id⟩

def morning (seconds : Int) : ClockTime := ⟨(10 * 60 * 60 + seconds) * 1000000, none⟩

def tenPrices : PriceInputs where
  referencePrice := some 10
  priceTick := some (1 / 100)
  limitUp := some (1002 / 100)

def entryChain : TOrderChain := ⟨300, morning 0, [⟨300, morning 0, some 10, 0, true⟩]⟩

theorem entryChain_run : ∃ log chain, ChainRun plainZone tEntryOrderPolicy log chain ∧
    chain.orders.map TChainOrder.volume = [200, 300] ∧ chain.requested = 300 := by
  have hopened : Opened entryChain := ⟨by decide, some 10, rfl⟩
  have hstart : ChainRun plainZone tEntryOrderPolicy [] entryChain := .start hopened
  have hfill := Run.step hstart (.fill 0 100) ⟨_, rfl, rfl, by decide, by decide⟩
  have hsettle := Run.step hfill (.settle 0) trivial
  have hreplace := Run.step hsettle (.replace (morning 31) true false false tenPrices)
    (by rintro - order ⟨⟩; rfl)
  exact ⟨_, _, hreplace, by decide +kernel, by decide +kernel⟩

/-- The chain of the example and the price of its replacement. -/
theorem replacement_chain_entry :
    (∃ chain : TOrderChain, chain.orders.map TChainOrder.volume = [200, 300] ∧ chain.filled ≤ 300) ∧
      ∃ price, tEntryOrderPolicy.protectedLimitPrice tenPrices = .ok price ∧ IsMultiple (1 / 100) price := by
  obtain ⟨log, chain, hrun, hvolumes, hrequested⟩ := entryChain_run
  have hchain := (replacement_chain plainZone tEntryOrderPolicy).1 log chain hrun
  refine ⟨⟨chain, hvolumes, hrequested ▸ hchain.1⟩, ?_⟩
  have hgrid : TOrderPolicy.PricesOnGrid tenPrices := by
    refine ⟨-2, fun given hgiven => ?_⟩
    simp only [tenPrices, List.mem_cons, Option.some.injEq, reduceCtorEq, List.not_mem_nil, or_false] at hgiven
    rcases hgiven with rfl | rfl | rfl
    · exact ⟨⟨1000, by norm_num⟩, by norm_num [abs_of_pos]⟩
    · exact ⟨⟨1, by norm_num⟩, by norm_num [abs_of_pos]⟩
    · exact ⟨⟨1002, by norm_num⟩, by norm_num [abs_of_pos]⟩
  have hprice : tEntryOrderPolicy.protectedLimitPrice tenPrices = .ok (1002 / 100) := eq_ok_of_toOption (by decide +kernel)
  obtain ⟨reference, tick, -, htick, hmultiple, -⟩ := (replacement_chain plainZone tEntryOrderPolicy).2 tenPrices _ hgrid hprice
  obtain rfl : 1 / 100 = tick := Option.some.inj htick
  exact ⟨_, hprice, hmultiple⟩

end TOrderChain
end QuantX
