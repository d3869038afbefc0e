import QuantX.Theorems.EntryPlan.Run
import Mathlib.Tactic.Linarith

namespace QuantX
open Lib

def EntryFill.Valid (fill : EntryFill) : Prop := fill.tradeKey ≠ "" ∧ 0 < fill.volume ∧ 0 < fill.price

instance (fill : EntryFill) : Decidable fill.Valid :=
  inferInstanceAs (Decidable (fill.tradeKey ≠ "" ∧ 0 < fill.volume ∧ 0 < fill.price))

def EntryFill.amountCny (fill : EntryFill) : Rat := fill.volume * fill.price

namespace ManagedEntryPlanState
variable {registry : ManagedEntryRuleRegistry} {uuid5 : String → String} {s : ManagedEntryPlanState}
  {log : List (Moment ManagedEntryPlanState EntryOp)}
variable {m : Moment ManagedEntryPlanState EntryOp}

structure Books where
  keys : List String
  volume : Int
  amountCny : Rat
  dailyCny : Dict String Rat

def books (s : ManagedEntryPlanState) : Books :=
  ⟨s.processedTradeKeys, s.filledVolume, s.filledAmountCny, s.dailyFilledAmountsCny⟩

def Books.add (books : Books) (fill : EntryFill) : Books where
  keys := recent 255 books.keys ++ [fill.tradeKey]
  volume := books.volume + fill.volume
  amountCny := books.amountCny + fill.amountCny
  dailyCny := books.dailyCny.set fill.tradeDate (books.dailyCny.getD fill.tradeDate 0 + fill.amountCny)

theorem books_settlePending (targetReached : Bool) : (s.settlePending targetReached).books = s.books := by
  obtain ⟨phase, h⟩ := s.settlePending_writes targetReached
  rw [h]
  rfl

theorem books_advanceAfterFill (targetReached : Bool) : (s.advanceAfterFill targetReached).books = s.books := by
  rcases s.advanceAfterFill_writes targetReached with h | ⟨phase, h⟩
  · rw [h]
    exact books_settlePending targetReached
  · rw [h]
    rfl

theorem books_applyTradeFill (fill : EntryFill) :
    ((s.applyTradeFill fill).1.books = s.books ∧ ¬s.Applies fill) ∨
      ((s.applyTradeFill fill).1.books = s.books.add fill ∧ s.Applies fill) := by
  rcases s.applyTradeFill_cases fill with ⟨h, hnot⟩ | ⟨happlies, -, h⟩ | ⟨happlies, -, h⟩
  · exact .inl ⟨congrArg books h, hnot⟩
  · refine .inr ⟨?_, happlies⟩
    rw [h]
    rfl
  · refine .inr ⟨?_, happlies⟩
    rw [h, books_advanceAfterFill]
    rfl

theorem books_applyOrderTerminal (report : EntryOrderReport) : (s.applyOrderTerminal report).books = s.books := by
  have hcooldown : ∀ (s : ManagedEntryPlanState) (p : Prop) [Decidable p],
      (if p then s.cooldown report else s).books = s.books := by
    intro s p _
    obtain ⟨retry, h⟩ := s.cooldown_writes report p
    rw [h]
    rfl
  have hannounce : ∀ (s : ManagedEntryPlanState) (terminal : EntryTerminal) (expected : Option Int),
      (s.announceExpected terminal expected).books = s.books := by
    intro s terminal expected
    obtain ⟨most, h⟩ := s.announceExpected_writes terminal expected
    rw [h]
    rfl
  rcases s.applyOrderTerminal_cases report with ⟨-, h⟩ | ⟨-, h⟩ | ⟨terminal, -, -, h⟩
  · rw [h]
  · rw [h, reconcileZeroFill, books_settlePending, hcooldown]
  · rw [h, endOrder]
    split
    · rw [hannounce]
      rfl
    · rw [books_settlePending, hcooldown, hannounce]
      rfl

theorem books_requestTerminal (requested : TerminalRequest) (reason : String) (pendingWork : Bool) :
    (s.requestTerminal requested reason pendingWork).books = s.books := by
  obtain ⟨first, noted, phase, h⟩ := s.requestTerminal_writes requested reason pendingWork
  rw [h]
  rfl

theorem books_evaluate (config : ManagedEntryPlanConfig) (context : EntryEvaluationContext) :
    (s.evaluate registry uuid5 config context).1.books = s.books := by
  have h := s.evaluate_evaluated registry uuid5 config context
  generalize s.decision? registry uuid5 config context = decision at h
  generalize (s.evaluate registry uuid5 config context).1 = next at h ⊢
  cases h <;> rfl

theorem books_step (s : ManagedEntryPlanState) (registry : ManagedEntryRuleRegistry) (uuid5 : String → String)
    (op : EntryOp) :
    (s.step registry uuid5 op).books = s.books ∧ (∀ fill, op = .tradeFill fill → ¬s.Applies fill) ∨
      ∃ fill, op = .tradeFill fill ∧ s.Applies fill ∧ (s.step registry uuid5 op).books = s.books.add fill := by
  cases op with
  | evaluate config context => exact .inl ⟨books_evaluate config context, fun _ h => by cases h⟩
  | orderTerminal report => exact .inl ⟨books_applyOrderTerminal report, fun _ h => by cases h⟩
  | requestTerminal requested reason pendingWork =>
    exact .inl ⟨books_requestTerminal requested reason pendingWork, fun _ h => by cases h⟩
  | reload => exact .inl ⟨congrArg books s.reload_eq, fun _ h => by cases h⟩
  | tradeFill fill =>
    rcases books_applyTradeFill (s := s) fill with ⟨h, hnot⟩ | ⟨h, happlies⟩
    · refine .inl ⟨h, fun other heq => ?_⟩
      cases heq
      exact hnot
    · exact .inr ⟨fill, rfl, happlies, h⟩

/-- The first valid report of every key, oldest first. -/
def countedFills : List (Moment ManagedEntryPlanState EntryOp) → List EntryFill
  | [] => []
  | m :: log => match m.op with
    | .tradeFill fill =>
      if fill.Valid ∧ fill.tradeKey ∉ (countedFills log).map (·.tradeKey) then countedFills log ++ [fill]
      else countedFills log
    | _ => countedFills log

def countedKeys (log : List (Moment ManagedEntryPlanState EntryOp)) : List String := (countedFills log).map (·.tradeKey)

/-- A valid report of a key that was counted before comes while the key is among the last 256. -/
def RepeatInTime (log : List (Moment ManagedEntryPlanState EntryOp)) (op : EntryOp) : Prop :=
  ∀ fill, op = .tradeFill fill → fill.Valid → fill.tradeKey ∈ countedKeys log →
    fill.tradeKey ∈ recent 256 (countedKeys log)

def RepeatsInTime : List (Moment ManagedEntryPlanState EntryOp) → Prop
  | [] => True
  | m :: log => RepeatInTime log m.op ∧ RepeatsInTime log

def volumeOf (fills : List EntryFill) : Int := (fills.map (·.volume)).sum
def amountOf (fills : List EntryFill) : Rat := (fills.map (·.amountCny)).sum

/-- The totals are the sums over the distinct executions, and the days make up the amount. -/
structure CountedOnce (log : List (Moment ManagedEntryPlanState EntryOp)) (s : ManagedEntryPlanState) : Prop where
  volume : s.filledVolume = volumeOf (countedFills log)
  amount : s.filledAmountCny = amountOf (countedFills log)
  daily : s.filledAmountCny = s.dailyFilledAmountsCny.sum id

theorem countedFills_new {fill : EntryFill} (hop : m.op = .tradeFill fill)
    (hvalid : fill.Valid) (hnew : fill.tradeKey ∉ countedKeys log) : countedFills (m :: log) = countedFills log ++ [fill] := by
  rw [countedFills, hop]
  exact if_pos ⟨hvalid, hnew⟩

theorem countedFills_old
    (h : ∀ fill, m.op = .tradeFill fill → fill.Valid → fill.tradeKey ∈ countedKeys log) :
    countedFills (m :: log) = countedFills log := by
  rw [countedFills]
  split
  · rename_i fill hop
    exact if_neg fun hnew => hnew.2 (h fill hop hnew.1)
  · rfl

theorem volumeOf_concat (fills : List EntryFill) (fill : EntryFill) : volumeOf (fills ++ [fill]) = volumeOf fills + fill.volume := by
  simp [volumeOf]

theorem amountOf_concat (fills : List EntryFill) (fill : EntryFill) :
    amountOf (fills ++ [fill]) = amountOf fills + fill.amountCny := by
  simp [amountOf]

theorem Applies.valid {fill : EntryFill} (h : s.Applies fill) : fill.Valid := ⟨h.key, h.volume, h.price⟩

def FillRun (registry : ManagedEntryRuleRegistry) (uuid5 : String → String) :
    List (Moment ManagedEntryPlanState EntryOp) → ManagedEntryPlanState → Prop :=
  Run (· = {}) (step registry uuid5) fun _ _ _ => True

theorem FillRun.of_play (ops : List EntryOp) :
    FillRun registry uuid5 (play (step registry uuid5) {} ops).1 (play (step registry uuid5) {} ops).2 := by
  refine Run.of_play ?_ ops
  rfl

/-- The books of a run: the days make up the amount, the window holds counted keys only, and either every
    repetition was in time and the books are those of the distinct executions, or one was counted twice
    and the volume is too large for good. -/
structure BooksInv (log : List (Moment ManagedEntryPlanState EntryOp)) (s : ManagedEntryPlanState) : Prop where
  daily : s.filledAmountCny = s.dailyFilledAmountsCny.sum id
  window : ∀ key ∈ s.processedTradeKeys, key ∈ countedKeys log
  cases : (RepeatsInTime log ∧ s.processedTradeKeys = recent 256 (countedKeys log) ∧
      s.filledVolume = volumeOf (countedFills log) ∧ s.filledAmountCny = amountOf (countedFills log)) ∨
    (¬RepeatsInTime log ∧ volumeOf (countedFills log) < s.filledVolume)

theorem daily_add (books : Books) (fill : EntryFill) (h : books.amountCny = books.dailyCny.sum id) :
    (books.add fill).amountCny = (books.add fill).dailyCny.sum id := by
  have hsum := books.dailyCny.sum_set fill.tradeDate (books.dailyCny.getD fill.tradeDate 0 + fill.amountCny) id
  have hold : ((books.dailyCny.get? fill.tradeDate).map id).getD 0 = books.dailyCny.getD fill.tradeDate 0 := by
    rw [Option.map_id]
    rfl
  rw [hold, id_eq] at hsum
  show books.amountCny + fill.amountCny = (books.dailyCny.set _ _).sum id
  rw [h]
  linarith

theorem BooksInv.keep {next : ManagedEntryPlanState} {op : EntryOp} (h : BooksInv log s) (hbooks : next.books = s.books)
    (hno : ∀ fill, op = .tradeFill fill → ¬s.Applies fill) : BooksInv (⟨s, op, next⟩ :: log) next := by
  obtain ⟨hdaily, hwindow, hcases⟩ := h
  obtain ⟨hkeys, hvolume, hamount, hdays⟩ := Books.mk.inj hbooks
  -- A valid report that was not counted repeats a key of the window.
  have hrepeat : ∀ fill, op = .tradeFill fill → fill.Valid → fill.tradeKey ∈ s.processedTradeKeys := by
    intro fill hop hvalid
    by_contra hfresh
    exact hno fill hop ⟨hvalid.1, hfresh, hvalid.2.1, hvalid.2.2⟩
  have hsame : countedFills (⟨s, op, next⟩ :: log) = countedFills log :=
    countedFills_old fun fill hop hvalid => hwindow _ (hrepeat fill hop hvalid)
  have hsameKeys : countedKeys (⟨s, op, next⟩ :: log) = countedKeys log := congrArg (List.map _) hsame
  refine ⟨?_, ?_, ?_⟩
  · rw [hamount, hdays]
    exact hdaily
  · rw [hkeys, hsameKeys]
    exact hwindow
  · rw [hsame, hsameKeys, hkeys, hvolume, hamount]
    rcases hcases with ⟨hintime, hrecent, htotals⟩ | ⟨hlate, htoo⟩
    · refine .inl ⟨⟨fun fill hop hvalid _ => ?_, hintime⟩, hrecent, htotals⟩
      rw [← hrecent]
      exact hrepeat fill hop hvalid
    · exact .inr ⟨fun hall => hlate hall.2, htoo⟩

theorem BooksInv.count {next : ManagedEntryPlanState} {fill : EntryFill} (h : BooksInv log s)
    (hbooks : next.books = s.books.add fill) (happlies : s.Applies fill) :
    BooksInv (⟨s, .tradeFill fill, next⟩ :: log) next := by
  obtain ⟨hdaily, hwindow, hcases⟩ := h
  obtain ⟨hkeys, hvolume, hamount, hdays⟩ := Books.mk.inj hbooks
  have hnextDaily : next.filledAmountCny = next.dailyFilledAmountsCny.sum id := by
    rw [hamount, hdays]
    exact daily_add s.books fill hdaily
  have hnextVolume : next.filledVolume = s.filledVolume + fill.volume := hvolume
  have hnextAmount : next.filledAmountCny = s.filledAmountCny + fill.amountCny := hamount
  have hkept : ∀ key ∈ next.processedTradeKeys, key ∈ countedKeys log ∨ key = fill.tradeKey := by
    intro key hkey
    rw [hkeys] at hkey
    rcases List.mem_append.mp hkey with hold | hnew
    · exact .inl (hwindow key ((recent_sublist 255 _).subset hold))
    · exact .inr (List.mem_singleton.mp hnew)
  have hpositive := happlies.volume
  by_cases hcounted : fill.tradeKey ∈ countedKeys log
  · -- The key was counted and has left the window: this report is counted a second time.
    have hsame : countedFills (⟨s, .tradeFill fill, next⟩ :: log) = countedFills log :=
      countedFills_old fun other hop _ => by cases hop; exact hcounted
    have hsameKeys : countedKeys (⟨s, .tradeFill fill, next⟩ :: log) = countedKeys log := congrArg (List.map _) hsame
    refine ⟨hnextDaily, ?_, .inr ⟨?_, ?_⟩⟩
    · intro key hkey
      rw [hsameKeys]
      exact (hkept key hkey).elim id fun heq => heq ▸ hcounted
    · rintro ⟨hnow, hintime⟩
      rcases hcases with ⟨-, hrecent, -⟩ | ⟨hlate, -⟩
      · have hin := hnow fill rfl happlies.valid hcounted
        rw [← hrecent] at hin
        exact happlies.fresh hin
      · exact hlate hintime
    · rw [hsame]
      rcases hcases with ⟨-, -, htotal, -⟩ | ⟨-, htoo⟩ <;> omega
  · have hnew : countedFills (⟨s, .tradeFill fill, next⟩ :: log) = countedFills log ++ [fill] :=
      countedFills_new rfl happlies.valid hcounted
    have hnewKeys : countedKeys (⟨s, .tradeFill fill, next⟩ :: log) = countedKeys log ++ [fill.tradeKey] := by
      rw [countedKeys, hnew, List.map_append]
      rfl
    refine ⟨hnextDaily, ?_, ?_⟩
    · intro key hkey
      rw [hnewKeys, List.mem_append, List.mem_singleton]
      exact hkept key hkey
    · rw [hnew, hnewKeys, volumeOf_concat, amountOf_concat]
      rcases hcases with ⟨hintime, hrecent, htotal, hsum⟩ | ⟨hlate, htoo⟩
      · refine .inl ⟨⟨fun other hop _ hold => ?_, hintime⟩, ?_, ?_, ?_⟩
        · cases hop
          exact absurd hold hcounted
        · rw [hkeys, recent_concat 255]
          show recent 255 s.processedTradeKeys ++ _ = _
          rw [hrecent, recent_recent (by decide)]
        · rw [hnextVolume, htotal]
        · rw [hnextAmount, hsum]
      · refine .inr ⟨fun hall => hlate hall.2, ?_⟩
        omega

theorem FillRun.booksInv (h : FillRun registry uuid5 log s) : BooksInv log s := by
  refine Run.invariant BooksInv ?_ ?_ h
  · rintro s rfl
    exact ⟨rfl, fun _ hkey => absurd hkey List.not_mem_nil, .inl ⟨trivial, rfl, rfl, rfl⟩⟩
  · intro log s op hinv _
    rcases s.books_step registry uuid5 op with ⟨hbooks, hno⟩ | ⟨fill, rfl, happlies, hbooks⟩
    · exact hinv.keep hbooks hno
    · exact hinv.count hbooks happlies

/-- After any run the totals count every execution once exactly if every repetition came before 256 further keys were
    counted. -/
theorem counted_once_iff (h : FillRun registry uuid5 log s) : CountedOnce log s ↔ RepeatsInTime log := by
  obtain ⟨hdaily, -, hcases⟩ := h.booksInv
  constructor
  · intro honce
    rcases hcases with ⟨hintime, -⟩ | ⟨-, htoo⟩
    · exact hintime
    · exact absurd honce.volume (Ne.symm (ne_of_lt htoo))
  · intro hintime
    rcases hcases with ⟨-, -, hvolume, hamount⟩ | ⟨hlate, -⟩
    · exact ⟨hvolume, hamount, hdaily⟩
    · exact absurd hintime hlate

/-! ## A report that comes too late -/

/-- The key of the `n`-th report: one letter more for every report. -/
def reportKey (n : Nat) : String := String.ofList (List.replicate (n + 1) 'k')

def report (n : Nat) : EntryFill where
  tradeKey := reportKey n
  matchesPending := false
  volume := 100
  price := 10
  tradeDate := "2026-01-05"
  timestampMs := 1

def reports (n : Nat) : List EntryOp := (List.range n).map fun i => .tradeFill (report i)

theorem reportKey_inj {m n : Nat} (h : reportKey m = reportKey n) : m = n := by
  have hlist := congrArg (fun key : String => key.toList.length) h
  simpa [reportKey] using hlist

theorem report_valid (n : Nat) : (report n).Valid := by
  refine ⟨fun h => ?_, (by decide : (0 : Int) < 100), (by decide +kernel : (0 : Rat) < 10)⟩
  have hlist := congrArg (fun key : String => key.toList.length) h
  simp [report, reportKey] at hlist

theorem countedFills_reports (n : Nat) :
    countedFills (play (step registry uuid5) {} (reports n)).1 = (List.range n).map report := by
  induction n with
  | zero => rfl
  | succ n ih =>
    have hops : reports (n + 1) = reports n ++ [.tradeFill (report n)] := by
      simp [reports, List.range_succ]
    have hnew : reportKey n ∉ countedKeys (play (step registry uuid5) {} (reports n)).1 := by
      rw [countedKeys, ih, List.map_map]
      intro hmem
      obtain ⟨i, hi, heq⟩ := List.mem_map.mp hmem
      exact absurd (reportKey_inj heq) (ne_of_lt (List.mem_range.mp hi))
    rw [hops, play_concat, countedFills_new rfl (report_valid n) hnew, ih, List.range_succ, List.map_append]
    rfl

def lateRun : List (Moment ManagedEntryPlanState EntryOp) × ManagedEntryPlanState :=
  play (step .builtins id) {} (reports 257 ++ [.tradeFill (report 0)])

/-- The repeated report finds its key gone from the window and is counted again. -/
theorem late_report_counted_twice : volumeOf (countedFills lateRun.1) < lateRun.2.filledVolume ∧ ¬CountedOnce lateRun.1 lateRun.2 := by
  have hrun : FillRun .builtins id lateRun.1 lateRun.2 := FillRun.of_play _
  have hlate : ¬RepeatsInTime lateRun.1 := by
    intro hintime
    rw [lateRun, play_concat] at hintime
    have hkeys : countedKeys (play (step .builtins id) {} (reports 257)).1 = (List.range 257).map reportKey := by
      rw [countedKeys, countedFills_reports, List.map_map]
      rfl
    have hin := hintime.1 (report 0) rfl (report_valid 0) (by
      rw [hkeys]
      exact List.mem_map.mpr ⟨0, by decide, rfl⟩)
    rw [hkeys, recent, List.length_map, List.length_range, ← List.map_drop] at hin
    obtain ⟨i, hi, heq⟩ := List.mem_map.mp hin
    obtain rfl := reportKey_inj heq
    exact absurd hi (by decide)
  rcases hrun.booksInv.cases with ⟨hintime, -⟩ | ⟨-, htoo⟩
  · exact absurd hintime hlate
  · exact ⟨htoo, fun honce => absurd honce.volume (Ne.symm (ne_of_lt htoo))⟩

/-- A report that is repeated at once is counted once. -/
theorem prompt_repeat_counted_once :
    CountedOnce (play (step .builtins id) {} [.tradeFill (report 0), .tradeFill (report 0)]).1
      (play (step .builtins id) {} [.tradeFill (report 0), .tradeFill (report 0)]).2 := by
  have hrun : FillRun .builtins id _ _ := FillRun.of_play [.tradeFill (report 0), .tradeFill (report 0)]
  refine (counted_once_iff hrun).mpr ⟨?_, ?_, trivial⟩
  · intro fill _ _ hcounted
    have hkeys : countedKeys (play (step .builtins id) {} (reports 1)).1 = [reportKey 0] := by
      rw [countedKeys, countedFills_reports]
      rfl
    exact hcounted
  · intro fill _ _ hcounted
    exact absurd hcounted List.not_mem_nil

end ManagedEntryPlanState

end QuantX
