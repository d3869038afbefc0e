import QuantX.Lib.Run
import QuantX.Theorems.PaperMatching.Calls

namespace QuantX
open Lib PaperBroker PaperBrokerMatching

variable {host : PaperHost} {matcher : PaperBrokerMatching}

def PaperOpened (host : PaperHost) (matcher : PaperBrokerMatching) : Prop :=
  ∃ scope cash nonTradingAssetValue positions now, create host scope cash nonTradingAssetValue positions now = .ok matcher

def PaperBrokerMatching.step (host : PaperHost) (matcher : PaperBrokerMatching) (call : PaperCall) : PaperBrokerMatching :=
  (matcher.take host call).1

theorem run_waiting {log : List (Moment PaperBrokerMatching PaperCall)}
    (hrun : Run (PaperOpened host) (PaperBrokerMatching.step host) (fun _ _ _ => True) log matcher) : Waiting host matcher :=
  hrun.invariant (fun _ matcher => Waiting host matcher) (fun _ ⟨_, _, _, _, _, hcreate⟩ => create_waiting hcreate)
    (fun _ _ call h _ => h.take call)

theorem Waiting.restore (h : Waiting host matcher) {restored : PaperBrokerMatching} :
    restore host matcher.scopeExecutionId (matcher.exportCheckpoint host) = .ok restored ↔ 0 ≤ matcher.broker.cash ∧ restored = matcher := by
  unfold PaperBrokerMatching.restore
  rw [check_bind, h.load]
  exact and_iff_right h.scope

def PaperBrokerMatching.results (host : PaperHost) : PaperBrokerMatching → List PaperCall → List (Except String PaperMatchingResult)
  | _, [] => []
  | matcher, call :: calls => (matcher.take host call).2 :: results host (matcher.step host call) calls

/-- What calls return when after each of them the matcher is replaced by one restored from its checkpoint. -/
def PaperBrokerMatching.restoredResults (host : PaperHost) :
    PaperBrokerMatching → List PaperCall → Except String (List (Except String PaperMatchingResult))
  | _, [] => .ok []
  | matcher, call :: calls => do
    let restored ← PaperBrokerMatching.restore host matcher.scopeExecutionId ((matcher.step host call).exportCheckpoint host)
    let rest ← restoredResults host restored calls
    return (matcher.take host call).2 :: rest

def PaperBrokerMatching.visited (host : PaperHost) : PaperBrokerMatching → List PaperCall → List PaperBrokerMatching
  | _, [] => []
  | matcher, call :: calls => matcher.step host call :: visited host (matcher.step host call) calls

theorem Waiting.step_scope (h : Waiting host matcher) (call : PaperCall) :
    (matcher.step host call).scopeExecutionId = matcher.scopeExecutionId := by
  unfold PaperBrokerMatching.step
  cases call with
  | place orderId request now =>
    simp only [PaperBrokerMatching.take]
    rcases place_cases h orderId request now with ⟨_, hplace⟩ | hplace | ⟨_, _, -, hplace⟩
    · rw [hplace]
    · rw [hplace]
      rfl
    · rw [hplace]
      rfl
  | processQuote eventId quote acceptedAt =>
    simp only [PaperBrokerMatching.take]
    rcases processQuote_cases h eventId quote acceptedAt with ⟨_, hprocess⟩ | ⟨_, hprocess⟩ | ⟨-, hprocess⟩
    · rw [hprocess]
    · rw [hprocess]
      rfl
    · rw [hprocess]
      rfl
  | cancel orderId now =>
    simp only [PaperBrokerMatching.take]
    rcases cancel_cases h orderId now with ⟨_, hcancel⟩ | ⟨_, -, -, hcancel⟩
    · rw [hcancel]
    · rw [hcancel]
      rfl

theorem Waiting.restoredResults (h : Waiting host matcher) (calls : List PaperCall) :
    matcher.restoredResults host calls = .ok (matcher.results host calls) ↔ ∀ next ∈ matcher.visited host calls, 0 ≤ next.broker.cash := by
  induction calls generalizing matcher with
  | nil => exact iff_of_true rfl (by simp [visited])
  | cons call calls ih =>
    have hnext : Waiting host (matcher.step host call) := h.take call
    have hrestore := fun restored => @Waiting.restore host (matcher.step host call) hnext restored
    simp only [h.step_scope] at hrestore
    rw [PaperBrokerMatching.restoredResults, PaperBrokerMatching.results, visited, List.forall_mem_cons, ← ih hnext, bind_eq_ok]
    constructor
    · rintro ⟨restored, hrestored, hrest⟩
      obtain ⟨hcash, rfl⟩ := (hrestore restored).mp hrestored
      obtain ⟨rest, hresults, hsame⟩ := bind_eq_ok.mp hrest
      obtain ⟨-, rfl⟩ := List.cons.inj (Except.ok.inj hsame)
      exact ⟨hcash, hresults⟩
    · rintro ⟨hcash, hresults⟩
      exact ⟨_, (hrestore _).mpr ⟨hcash, rfl⟩, bind_eq_ok.mpr ⟨_, hresults, rfl⟩⟩

/-- A matcher can be restored, is not changed by that, and forgets a call that raises. -/
structure PaperRestores (host : PaperHost) (matcher : PaperBrokerMatching) : Prop where
  restored : (∃ restored, restore host matcher.scopeExecutionId (matcher.exportCheckpoint host) = .ok restored) ↔ 0 ≤ matcher.broker.cash
  unnoticed : ∀ calls, matcher.restoredResults host calls = .ok (matcher.results host calls) ↔
    ∀ next ∈ matcher.visited host calls, 0 ≤ next.broker.cash
  rejected : ∀ call error, (matcher.take host call).2 = .error error →
    (matcher.step host call).exportCheckpoint host = matcher.exportCheckpoint host

/-- In every run a matcher comes back from its checkpoint exactly where its cash is not negative, and the calls that
    follow give what a matcher restored after each of them gives exactly where none of them leaves negative cash. A call
    that raises leaves the checkpoint as it was. -/
theorem paper_restores {log : List (Moment PaperBrokerMatching PaperCall)}
    (hrun : Run (PaperOpened host) (PaperBrokerMatching.step host) (fun _ _ _ => True) log matcher) : PaperRestores host matcher where
  restored := by
    simp [(run_waiting hrun).restore]
  unnoticed calls := (run_waiting hrun).restoredResults calls
  rejected call error hrejected := by
    have hsame : matcher.step host call = matcher := (run_waiting hrun).rejected hrejected
    rw [hsame]

/-- Between the calls of every such run the queue and the witnesses belong to open orders and no trade is left over. -/
theorem paper_rests {log : List (Moment PaperBrokerMatching PaperCall)}
    (hrun : Run (PaperOpened host) (PaperBrokerMatching.step host) (fun _ _ _ => True) log matcher) : Waiting host matcher :=
  run_waiting hrun

/-! ## A small sell -/

def paperHost : PaperHost where
  tradingDate time := time / 86400000000
  manifestHash
    | .submission request _ => "submission " ++ request.instrumentCode
    | .quote quote => "quote " ++ quote.instrumentCode
    | .checkpoint _ => "checkpoint"
  uuid5 name := name
  isJson _ := true

def hundredShares : Dict String Holding :=
  Dict.empty.set "600000.SH" { instrumentCode := "600000.SH", longVolume := 100, availableVolume := 100, marketValue := 300 }

def shareholder : PaperBrokerMatching where
  scopeExecutionId := "execution"
  broker := { cash := 0, initialCapital := 300, positions := hundredShares, currentTime := 1000000, currentTradingDate := 0 }

theorem shareholder_opened : PaperOpened paperHost shareholder := by
  refine ⟨"execution", 0, 0, hundredShares, 1000000, ?_⟩
  have hscope : checkIdentity "execution" = .ok () := require_eq_ok.mpr (by decide +kernel)
  have hzero : checkNumber 0 = .ok () := require_eq_ok.mpr (by decide)
  have hpositions : hundredShares.entries.forM (fun entry => validateHolding entry.1 entry.2) = .ok () := by rfl
  have hvalue : hundredShares.sum (·.marketValue) = 300 := by decide +kernel
  have hcomponents : hundredShares.sum (fun position => max 0 position.marketValue) = 300 := by decide +kernel
  refine check_bind.mpr ⟨hscope, check_bind.mpr ⟨hzero, check_bind.mpr ⟨hzero, check_bind.mpr ⟨hpositions, ?_⟩⟩⟩⟩
  simp only [hvalue, hcomponents]
  norm_num [shareholder, paperHost]
  rfl

def smallSell (volume : Int) : PaperRequest where
  instrumentCode := "600000.SH"
  orderType := .sell
  priceType := .limit
  volume := volume
  price := 3
  metadata := [("order_expire_at_ms", .int 60000)]
  executionRef := ⟨"EXIT_PLAN", "plan"⟩
  environment := .paper

def bidQuote (sourceTime : Int) : PaperQuote where
  price := 3
  bidPrice := [3, 3, 3, 3, 3]
  bidVol := [400, 0, 0, 0, 0]
  askPrice := [4, 4, 4, 4, 4]
  askVol := [0, 0, 0, 0, 0]
  instrumentCode := "600000.SH"
  sourceTime := sourceTime
  source := "feed"

def sellCalls (volume : Int) : List PaperCall :=
  [.place "order" (smallSell volume) 2000000, .processQuote "event" (bidQuote 3000000) 3000000]

theorem paper_restores_sells : ∃ restored, restore paperHost "execution" (shareholder.exportCheckpoint paperHost) = .ok restored := by
  have hstart : Run (PaperOpened paperHost) (PaperBrokerMatching.step paperHost) (fun _ _ _ => True) [] shareholder := .start shareholder_opened
  have hcash : (0 : Rat) ≤ shareholder.broker.cash := by decide
  exact (paper_restores hstart).restored.mpr hcash

theorem paper_rests_placed : Waiting paperHost (shareholder.step paperHost (.place "order" (smallSell 1) 2000000)) := by
  have hstart : Run (PaperOpened paperHost) (PaperBrokerMatching.step paperHost) (fun _ _ _ => True) [] shareholder := .start shareholder_opened
  exact paper_rests (hstart.step _ trivial)

/-- A share is sold for less than the commission, and the checkpoint is not accepted any more. -/
theorem small_sell_wedged : PaperOpened paperHost shareholder ∧
    (shareholder.results paperHost (sellCalls 1)).map (fun outcome => outcome.toOption.map fun result => result.trades.map (·.volume)) =
      [some [], some [1]] ∧
    ¬ ∃ restored, restore paperHost "execution"
      (((sellCalls 1).foldl (PaperBrokerMatching.step paperHost) shareholder).exportCheckpoint paperHost) = .ok restored := by
  refine ⟨shareholder_opened, by decide +kernel, ?_⟩
  have hopened := create_waiting shareholder_opened.choose_spec.choose_spec.choose_spec.choose_spec.choose_spec
  have hplaced : Waiting paperHost (shareholder.step paperHost (.place "order" (smallSell 1) 2000000)) := hopened.take _
  have hsold : Waiting paperHost ((sellCalls 1).foldl (PaperBrokerMatching.step paperHost) shareholder) := hplaced.take _
  have hscope : ((sellCalls 1).foldl (PaperBrokerMatching.step paperHost) shareholder).scopeExecutionId = "execution" :=
    (hplaced.step_scope _).trans (hopened.step_scope _)
  rintro ⟨restored, hrestored⟩
  rw [← hscope] at hrestored
  exact absurd (hsold.restore.mp hrestored).1 (by decide +kernel)

end QuantX
