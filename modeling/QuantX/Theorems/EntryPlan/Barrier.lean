import QuantX.Theorems.EntryPlan.Stopped

namespace QuantX
open Lib

namespace ManagedEntryPlanState
variable {registry : ManagedEntryRuleRegistry} {uuid5 : String → String} {s next : ManagedEntryPlanState}
  {log slice : List (Moment ManagedEntryPlanState EntryOp)} {m : Moment ManagedEntryPlanState EntryOp} {volume : Int}

instance (s : ManagedEntryPlanState) (fill : EntryFill) : Decidable (s.Applies fill) :=
  decidable_of_iff (fill.tradeKey ≠ "" ∧ fill.tradeKey ∉ s.processedTradeKeys ∧ 0 < fill.volume ∧ 0 < fill.price)
    ⟨fun h => ⟨h.1, h.2.1, h.2.2.1, h.2.2.2⟩, fun h => ⟨h.key, h.fresh, h.volume, h.price⟩⟩

/-! ## The history of a slice -/

/-- The moment is an evaluation that returned a decision. -/
def opens (registry : ManagedEntryRuleRegistry) (uuid5 : String → String) (m : Moment ManagedEntryPlanState EntryOp) :
    Bool :=
  match m.op with
  | .evaluate config context => (m.before.decision? registry uuid5 config context).isSome
  | _ => false

def sliceLog (registry : ManagedEntryRuleRegistry) (uuid5 : String → String)
    (log : List (Moment ManagedEntryPlanState EntryOp)) : List (Moment ManagedEntryPlanState EntryOp) :=
  log.takeWhile fun m => !opens registry uuid5 m

/-- The volume that a moment bought for the pending slice. -/
def matchedBy (m : Moment ManagedEntryPlanState EntryOp) : Int :=
  match m.op with
  | .tradeFill fill => if m.before.Applies fill ∧ fill.matchesPending then fill.volume else 0
  | _ => 0

def matchedVolume (slice : List (Moment ManagedEntryPlanState EntryOp)) : Int := (slice.map matchedBy).sum

/-- The executions that a report announces for the pending slice: the volume it carries, or all that was asked for if
    the order was filled. -/
def announced (s : ManagedEntryPlanState) (report : EntryOrderReport) : Option Int :=
  match report.terminal with
  | none => none
  | some terminal =>
    if terminal = .reconciledZeroFill then none
    else if 0 < report.expectedFilledVolume.getD 0 then some (report.expectedFilledVolume.getD 0)
    else if terminal = .filled ∧ 0 < s.pendingRequestedVolume then some s.pendingRequestedVolume
    else none

def Announces (slice : List (Moment ManagedEntryPlanState EntryOp)) (volume : Int) : Prop :=
  ∃ m ∈ slice, ∃ report, m.op = .orderTerminal report ∧ m.before.announced report = some volume

def Ended (slice : List (Moment ManagedEntryPlanState EntryOp)) : Prop :=
  ∃ m ∈ slice, ∃ report, m.op = .orderTerminal report ∧ report.terminal.isSome = true

structure Complete (slice : List (Moment ManagedEntryPlanState EntryOp)) : Prop where
  ended : Ended slice
  arrived : ∀ volume, Announces slice volume → volume ≤ matchedVolume slice

def ZeroFills (op : EntryOp) : Prop := ∃ report, op = .orderTerminal report ∧ report.terminal = some .reconciledZeroFill

def Accounted (slice : List (Moment ManagedEntryPlanState EntryOp)) : Prop :=
  (∃ m ∈ slice, ZeroFills m.op) ∨ Complete slice

theorem sliceLog_opened (h : opens registry uuid5 m = true) : sliceLog registry uuid5 (m :: log) = [] := by
  simp [sliceLog, h]

theorem sliceLog_cons (h : opens registry uuid5 m = false) :
    sliceLog registry uuid5 (m :: log) = m :: sliceLog registry uuid5 log := by
  simp [sliceLog, h]

@[simp] theorem matchedVolume_cons : matchedVolume (m :: slice) = matchedBy m + matchedVolume slice := by
  simp [matchedVolume]

theorem matchedBy_nonneg (m : Moment ManagedEntryPlanState EntryOp) : 0 ≤ matchedBy m := by
  unfold matchedBy
  split
  · split
    · rename_i fill hmatched
      exact Int.le_of_lt hmatched.1.volume
    · exact le_refl 0
  · exact le_refl 0

theorem matchedVolume_nonneg (slice : List (Moment ManagedEntryPlanState EntryOp)) : 0 ≤ matchedVolume slice := by
  induction slice with
  | nil => exact le_refl 0
  | cons m slice ih =>
    have hmore := matchedBy_nonneg m
    rw [matchedVolume_cons]
    omega

theorem announced_pos {report : EntryOrderReport} (h : s.announced report = some volume) : 0 < volume := by
  unfold announced at h
  split at h
  · cases h
  · split_ifs at h with hzero hpos hfilled
    · cases h
      exact hpos
    · cases h
      exact hfilled.2

theorem Announces.pos (h : Announces slice volume) : 0 < volume := by
  obtain ⟨m, -, report, -, hvolume⟩ := h
  exact announced_pos hvolume

theorem Ended.cons (h : Ended slice) (m : Moment ManagedEntryPlanState EntryOp) : Ended (m :: slice) := by
  obtain ⟨m', hm, hended⟩ := h
  exact ⟨m', List.mem_cons_of_mem m hm, hended⟩

def Silent (m : Moment ManagedEntryPlanState EntryOp) : Prop :=
  ∀ report, m.op = .orderTerminal report → m.before.announced report = none

theorem Announces.of_cons (h : Announces (m :: slice) volume) :
    (∃ report, m.op = .orderTerminal report ∧ m.before.announced report = some volume) ∨ Announces slice volume := by
  obtain ⟨m', hm, report, hop, hvolume⟩ := h
  rcases List.mem_cons.mp hm with rfl | hm
  · exact .inl ⟨report, hop, hvolume⟩
  · exact .inr ⟨m', hm, report, hop, hvolume⟩

theorem Announces.cons (h : Announces slice volume) (m : Moment ManagedEntryPlanState EntryOp) :
    Announces (m :: slice) volume := by
  obtain ⟨m', hm, hannounced⟩ := h
  exact ⟨m', List.mem_cons_of_mem m hm, hannounced⟩

theorem Announces.of_silent (h : Announces (m :: slice) volume) (hsilent : Silent m) : Announces slice volume := by
  rcases h.of_cons with ⟨report, hop, hvolume⟩ | h
  · rw [hsilent report hop] at hvolume
    cases hvolume
  · exact h

theorem Accounted.cons (h : Accounted slice) (hsilent : Silent m) : Accounted (m :: slice) := by
  rcases h with ⟨m', hm, hzero⟩ | ⟨hended, harrived⟩
  · exact .inl ⟨m', List.mem_cons_of_mem m hm, hzero⟩
  · refine .inr ⟨hended.cons m, fun volume hannounced => ?_⟩
    have hbefore := harrived volume (hannounced.of_silent hsilent)
    have hmore := matchedBy_nonneg m
    rw [matchedVolume_cons]
    omega

def Reported (s : ManagedEntryPlanState) (op : EntryOp) : Prop :=
  s.Delivered op ∧ ∀ report, op = .orderTerminal report → s.hasPending = true

theorem onTrade_reported (registry : ManagedEntryRuleRegistry) (uuid5 : String → String) (strategy : EntryStrategyRef)
    (config : ManagedEntryPlanConfig) (event : EntryTradeEvent) :
    onTrade strategy config s event = s ∨
      s.Reported (.tradeFill (event.fill config s)) ∧
        onTrade strategy config s event = s.step registry uuid5 (.tradeFill (event.fill config s)) := by
  unfold onTrade
  split
  · exact .inl rfl
  · split
    · exact .inl rfl
    · split
      · exact .inl rfl
      · exact .inr ⟨⟨⟨event.metadata, rfl⟩, fun _ hop => by cases hop⟩, rfl⟩

theorem onOrder_reported (registry : ManagedEntryRuleRegistry) (uuid5 : String → String) {strategy : EntryStrategyRef}
    {config : ManagedEntryPlanConfig} {event : EntryOrderEvent} (h : onOrder strategy config s event = .ok next) :
    next = s ∨ ∃ report, s.Reported (.orderTerminal report) ∧ next = s.step registry uuid5 (.orderTerminal report) := by
  unfold onOrder at h
  split at h
  · cases h
    exact .inl rfl
  · split at h
    · cases h
      exact .inl rfl
    · split at h
      · cases h
        exact .inl rfl
      · rename_i terminal _ hmatched
        have hpending := hasPending_of_matches (by simpa using hmatched)
        cases hexpected : QuantX.terminalExpectedFilledVolume event terminal with
        | error e =>
          rw [hexpected] at h
          cases h
        | ok expected =>
          rw [hexpected] at h
          cases h
          exact .inr ⟨_, ⟨trivial, fun _ _ => hpending⟩, rfl⟩

/-- A rejection without a volume, for an order of which earlier reports announced executions. -/
def Overrules (s : ManagedEntryPlanState) (op : EntryOp) : Prop :=
  ∃ report, op = .orderTerminal report ∧ (report.terminal = some .rejected ∨ report.terminal = some .brokerRejected) ∧
    report.expectedFilledVolume.getD 0 ≤ 0 ∧ 0 < s.terminalExpectedFilledVolume.getD 0

def SliceRun (registry : ManagedEntryRuleRegistry) (uuid5 : String → String) :
    List (Moment ManagedEntryPlanState EntryOp) → ManagedEntryPlanState → Prop :=
  Run (· = {}) (step registry uuid5) fun _ => Reported

/-- Every moment that cleared a slice did so for a zero-fill reconciliation or a complete slice. -/
def ClearsComplete (registry : ManagedEntryRuleRegistry) (uuid5 : String → String) :
    List (Moment ManagedEntryPlanState EntryOp) → Prop
  | [] => True
  | m :: log =>
    (m.before.hasPending = true → m.after.hasPending = false →
      ZeroFills m.op ∨ Complete (sliceLog registry uuid5 (m :: log))) ∧ ClearsComplete registry uuid5 log

/-- No decision while an execution of the slice before is missing. -/
def DecidesAccounted (registry : ManagedEntryRuleRegistry) (uuid5 : String → String)
    (log : List (Moment ManagedEntryPlanState EntryOp)) (s : ManagedEntryPlanState) : Prop :=
  ∀ config context, (s.decision? registry uuid5 config context).isSome = true →
    (∃ m ∈ log, opens registry uuid5 m = true) → Accounted (sliceLog registry uuid5 log)

structure Recorded (slice : List (Moment ManagedEntryPlanState EntryOp)) (s : ManagedEntryPlanState) : Prop where
  filled : s.pendingFilledVolume = matchedVolume slice
  seen : s.orderTerminalSeen = true → Ended slice
  told : s.terminalExpectedFilledVolume ≠ none → s.orderTerminalSeen = true
  expected : ∀ volume, Announces slice volume → ∃ most : Nat, s.terminalExpectedFilledVolume = some most ∧ volume ≤ most
  source : ∀ most : Nat, s.terminalExpectedFilledVolume = some most → 0 < most → Announces slice most

theorem barrierSatisfied_iff :
    s.barrierSatisfied = true ↔ s.orderTerminalSeen = true ∧
      ∃ most : Nat, s.terminalExpectedFilledVolume = some most ∧ (most : Int) ≤ s.pendingFilledVolume := by
  unfold barrierSatisfied
  cases s.terminalExpectedFilledVolume with
  | none => simp
  | some most => simp

theorem Recorded.complete (h : Recorded slice s) (hbarrier : s.barrierSatisfied = true) : Complete slice := by
  obtain ⟨hseen, most, hmost, hreached⟩ := barrierSatisfied_iff.mp hbarrier
  refine ⟨h.seen hseen, fun volume hannounced => ?_⟩
  obtain ⟨most', hmost', hle⟩ := h.expected volume hannounced
  rw [hmost] at hmost'
  cases hmost'
  rw [← h.filled]
  exact hle.trans hreached

structure SameSlice (s next : ManagedEntryPlanState) : Prop where
  pending : next.hasPending = s.hasPending
  filled : next.pendingFilledVolume = s.pendingFilledVolume
  seen : next.orderTerminalSeen = s.orderTerminalSeen
  expected : next.terminalExpectedFilledVolume = s.terminalExpectedFilledVolume

theorem SameSlice.recorded (h : SameSlice s next) (hrecorded : Recorded slice s) : Recorded slice next where
  filled := h.filled.trans hrecorded.filled
  seen hseen := hrecorded.seen (h.seen.symm.trans hseen)
  told htold := h.seen.trans (hrecorded.told (h.expected ▸ htold))
  expected volume hannounced := by rw [h.expected]; exact hrecorded.expected volume hannounced
  source most hmost hpos := hrecorded.source most (h.expected.symm.trans hmost) hpos

theorem SameSlice.barrier (h : SameSlice s next) : next.barrierSatisfied = s.barrierSatisfied := by
  unfold barrierSatisfied
  rw [h.seen, h.expected, h.filled]

theorem Recorded.cons (h : Recorded slice s) (hsilent : Silent m) (hbuys : matchedBy m = 0) : Recorded (m :: slice) s where
  filled := by rw [matchedVolume_cons, hbuys, zero_add]; exact h.filled
  seen hseen := (h.seen hseen).cons m
  told := h.told
  expected volume hannounced := h.expected volume (hannounced.of_silent hsilent)
  source most hmost hpos := (h.source most hmost hpos).cons m

/-- The state of the barrier along a run: a pending slice waits for something, and of a cleared one nothing
    is missing. -/
structure BarrierInv (registry : ManagedEntryRuleRegistry) (uuid5 : String → String)
    (log : List (Moment ManagedEntryPlanState EntryOp)) (s : ManagedEntryPlanState) : Prop where
  recorded : s.hasPending = true → Recorded (sliceLog registry uuid5 log) s
  waiting : s.hasPending = true → s.barrierSatisfied = false
  idle : s.hasPending = false → (∃ m ∈ log, opens registry uuid5 m = true) → Accounted (sliceLog registry uuid5 log)

structure Guarded (registry : ManagedEntryRuleRegistry) (uuid5 : String → String)
    (log : List (Moment ManagedEntryPlanState EntryOp)) (m : Moment ManagedEntryPlanState EntryOp) : Prop where
  inv : BarrierInv registry uuid5 (m :: log) m.after
  clears : m.before.hasPending = true → m.after.hasPending = false →
    ZeroFills m.op ∨ Complete (sliceLog registry uuid5 (m :: log))

theorem BarrierInv.quiet (h : BarrierInv registry uuid5 log m.before) (hopens : opens registry uuid5 m = false)
    (hsilent : Silent m) (hbuys : matchedBy m = 0) (hsame : SameSlice m.before m.after) : Guarded registry uuid5 log m := by
  refine ⟨⟨fun hpending => ?_, fun hpending => ?_, fun hidle hopened => ?_⟩, fun hpending hcleared => ?_⟩
  · rw [sliceLog_cons hopens]
    exact ((hsame.recorded (h.recorded (hsame.pending.symm.trans hpending))).cons hsilent hbuys)
  · rw [hsame.barrier]
    exact h.waiting (hsame.pending.symm.trans hpending)
  · rw [sliceLog_cons hopens]
    refine (h.idle (hsame.pending.symm.trans hidle) ?_).cons hsilent
    obtain ⟨m', hm, hopened⟩ := hopened
    rcases List.mem_cons.mp hm with rfl | hm
    · rw [hopens] at hopened
      cases hopened
    · exact ⟨m', hm, hopened⟩
  · rw [hsame.pending, hpending] at hcleared
    cases hcleared

theorem BarrierInv.of_recorded {recorded : ManagedEntryPlanState} (hopens : opens registry uuid5 m = false)
    (hrecorded : Recorded (m :: sliceLog registry uuid5 log) recorded)
    (hafter : (recorded.barrierSatisfied = true ∧ m.after.hasPending = false) ∨
      (recorded.barrierSatisfied = false ∧ recorded.hasPending = true ∧ SameSlice recorded m.after)) :
    Guarded registry uuid5 log m := by
  rcases hafter with ⟨hbarrier, hcleared⟩ | ⟨hbarrier, hheld, hsame⟩
  · have hcomplete := hrecorded.complete hbarrier
    rw [← sliceLog_cons hopens] at hcomplete
    refine ⟨⟨fun hpending => ?_, fun hpending => ?_, fun _ _ => .inr hcomplete⟩, fun _ _ => .inr hcomplete⟩
    · rw [hcleared] at hpending
      cases hpending
    · rw [hcleared] at hpending
      cases hpending
  · refine ⟨⟨fun _ => ?_, fun _ => ?_, fun hidle _ => ?_⟩, fun _ hcleared => ?_⟩
    · rw [sliceLog_cons hopens]
      exact hsame.recorded hrecorded
    · rw [hsame.barrier]
      exact hbarrier
    · rw [hsame.pending, hheld] at hidle
      cases hidle
    · rw [hsame.pending, hheld] at hcleared
      cases hcleared

theorem advanceAfterFill_slice (targetReached : Bool) (hpending : s.hasPending = true) :
    (s.barrierSatisfied = true ∧ (s.advanceAfterFill targetReached).hasPending = false) ∨
      (s.barrierSatisfied = false ∧ s.hasPending = true ∧ SameSlice s (s.advanceAfterFill targetReached)) := by
  rcases advanceAfterFill_cases targetReached hpending with ⟨hbarrier, h⟩ | ⟨hbarrier, phase, -, h⟩
  · rw [h]
    exact .inl ⟨hbarrier, settlePending_hasPending targetReached⟩
  · rw [h]
    exact .inr ⟨hbarrier, hpending, ⟨rfl, rfl, rfl, rfl⟩⟩

theorem Recorded.matchFill {fill : EntryFill} (h : Recorded slice s) (happlies : s.Applies fill)
    (hmatched : fill.matchesPending = true) (next : ManagedEntryPlanState) :
    Recorded (⟨s, .tradeFill fill, next⟩ :: slice) ((s.recordFill fill).matchFill fill) := by
  have hbuys : matchedBy ⟨s, .tradeFill fill, next⟩ = fill.volume := if_pos ⟨happlies, hmatched⟩
  have hsilent : Silent ⟨s, .tradeFill fill, next⟩ := fun _ hop => by cases hop
  refine ⟨?_, fun hseen => (h.seen hseen).cons _, h.told, fun volume hannounced => ?_, fun most hmost hpos => ?_⟩
  · rw [matchedVolume_cons, hbuys, ← h.filled]
    exact Int.add_comm _ _
  · exact h.expected volume (hannounced.of_silent hsilent)
  · exact (h.source most hmost hpos).cons _

theorem BarrierInv.tradeFill {fill : EntryFill} {metadata : Dict String PyVal} (h : BarrierInv registry uuid5 log s)
    (hmatch : fill.matchesPending = matchesPendingEntry metadata s) :
    Guarded registry uuid5 log ⟨s, .tradeFill fill, (s.applyTradeFill fill).1⟩ := by
  have hsilent : Silent ⟨s, .tradeFill fill, (s.applyTradeFill fill).1⟩ := fun _ hop => by cases hop
  rcases s.applyTradeFill_cases fill with ⟨hafter, hno⟩ | ⟨-, hother, hafter⟩ | ⟨happlies, hmatched, hafter⟩
  · refine h.quiet rfl hsilent (if_neg fun hyes => hno hyes.1) ?_
    rw [hafter]
    exact ⟨rfl, rfl, rfl, rfl⟩
  · refine h.quiet rfl hsilent (if_neg fun hyes => ?_) ?_
    · rw [hother] at hyes
      cases hyes.2
    · rw [hafter]
      exact ⟨rfl, rfl, rfl, rfl⟩
  · have hpending : s.hasPending = true := hasPending_of_matches (hmatch ▸ hmatched)
    refine BarrierInv.of_recorded rfl ((h.recorded hpending).matchFill happlies hmatched _) ?_
    rw [hafter]
    exact advanceAfterFill_slice fill.targetReached hpending

/-! ## Order reports -/

theorem announceExpected_cases {report : EntryOrderReport} {terminal : EntryTerminal}
    (hterminal : report.terminal = some terminal) (hzero : terminal ≠ .reconciledZeroFill) :
    (∃ volume, s.announced report = some volume ∧
        (s.announceExpected terminal report.expectedFilledVolume).terminalExpectedFilledVolume =
          some (max (s.terminalExpectedFilledVolume.getD 0) volume.toNat)) ∨
      (s.announced report = none ∧ (terminal = .rejected ∨ terminal = .brokerRejected) ∧
        report.expectedFilledVolume.getD 0 ≤ 0 ∧
        (s.announceExpected terminal report.expectedFilledVolume).terminalExpectedFilledVolume = some 0) ∨
      (s.announced report = none ∧ s.announceExpected terminal report.expectedFilledVolume = s) := by
  unfold announceExpected announced
  rw [hterminal]
  dsimp only
  rw [if_neg hzero]
  by_cases hpos : 0 < report.expectedFilledVolume.getD 0
  · simp only [if_pos hpos]
    exact .inl ⟨_, rfl, rfl⟩
  · simp only [if_neg hpos]
    by_cases hfilled : terminal = .filled ∧ 0 < s.pendingRequestedVolume
    · simp only [if_pos hfilled]
      exact .inl ⟨_, rfl, rfl⟩
    · simp only [if_neg hfilled]
      by_cases hrejected : terminal = .rejected ∨ terminal = .brokerRejected
      · simp only [if_pos hrejected]
        exact .inr (.inl ⟨trivial, hrejected, not_lt.mp hpos, trivial⟩)
      · simp only [if_neg hrejected]
        exact .inr (.inr ⟨trivial, trivial⟩)

theorem announceExpected_keeps (terminal : EntryTerminal) (expected : Option Int) :
    (s.announceExpected terminal expected).hasPending = s.hasPending ∧
      (s.announceExpected terminal expected).pendingFilledVolume = s.pendingFilledVolume ∧
      (s.announceExpected terminal expected).orderTerminalSeen = s.orderTerminalSeen := by
  obtain ⟨most, h⟩ := s.announceExpected_writes terminal expected
  rw [h]
  exact ⟨rfl, rfl, rfl⟩

theorem Recorded.raise (h : Recorded slice s) {report : EntryOrderReport} (hop : m.op = .orderTerminal report)
    (hvolume : m.before.announced report = some volume) (hbuys : matchedBy m = 0) (hseen : next.orderTerminalSeen = true)
    (hfilled : next.pendingFilledVolume = s.pendingFilledVolume)
    (hmost : next.terminalExpectedFilledVolume = some (max (s.terminalExpectedFilledVolume.getD 0) volume.toNat)) :
    Recorded (m :: slice) next := by
  have hpos := announced_pos hvolume
  have hnow : Announces (m :: slice) volume := ⟨m, List.mem_cons_self, report, hop, hvolume⟩
  refine ⟨?_, fun _ => ⟨m, List.mem_cons_self, report, hop, ?_⟩, fun _ => hseen,
    fun volume' hannounced => ⟨_, hmost, ?_⟩, ?_⟩
  · rw [matchedVolume_cons, hbuys, zero_add, hfilled]
    exact h.filled
  · unfold announced at hvolume
    cases hterminal : report.terminal with
    | none => rw [hterminal] at hvolume; cases hvolume
    | some terminal => rfl
  · rcases hannounced.of_cons with ⟨report', hop', hvolume'⟩ | hold
    · obtain rfl : report = report' := by simpa using hop.symm.trans hop'
      obtain rfl : volume = volume' := by simpa using hvolume.symm.trans hvolume'
      omega
    · obtain ⟨most, hsome, hle⟩ := h.expected volume' hold
      rw [hsome, Option.getD_some]
      omega
  · intro most hsome hpositive
    obtain rfl : max (s.terminalExpectedFilledVolume.getD 0) volume.toNat = most := by simpa using hmost.symm.trans hsome
    rcases le_total (s.terminalExpectedFilledVolume.getD 0) volume.toNat with hle | hle
    · rw [max_eq_right hle, Int.toNat_of_nonneg (Int.le_of_lt hpos)]
      exact hnow
    · rw [max_eq_left hle] at hpositive ⊢
      cases hknown : s.terminalExpectedFilledVolume with
      | none => rw [hknown] at hpositive; exact absurd hpositive (Nat.lt_irrefl 0)
      | some known => exact (h.source known hknown (by simpa [hknown] using hpositive)).cons m

/-- A moment that announces nothing leaves the expectation, or finds none and sets it to zero. -/
theorem Recorded.silent (h : Recorded slice s) (hsilent : Silent m) (hbuys : matchedBy m = 0) (hended : Ended (m :: slice))
    (hseen : next.orderTerminalSeen = true) (hfilled : next.pendingFilledVolume = s.pendingFilledVolume)
    (hmost : next.terminalExpectedFilledVolume = s.terminalExpectedFilledVolume ∨
      s.terminalExpectedFilledVolume.getD 0 = 0 ∧ next.terminalExpectedFilledVolume = some 0) :
    Recorded (m :: slice) next := by
  refine ⟨?_, fun _ => hended, fun _ => hseen, fun volume hannounced => ?_, fun most hsome hpositive => ?_⟩
  · rw [matchedVolume_cons, hbuys, zero_add, hfilled]
    exact h.filled
  · have hold := hannounced.of_silent hsilent
    obtain ⟨most, hsome, hle⟩ := h.expected volume hold
    rcases hmost with hsame | ⟨hknown, -⟩
    · exact ⟨most, hsame.trans hsome, hle⟩
    · have hpos := hold.pos
      rw [hsome, Option.getD_some] at hknown
      omega
  · rcases hmost with hsame | ⟨-, hzero⟩
    · exact (h.source most (hsame.symm.trans hsome) hpositive).cons m
    · obtain rfl : 0 = most := by simpa using hzero.symm.trans hsome
      exact absurd hpositive (Nat.lt_irrefl 0)

theorem Recorded.announce {report : EntryOrderReport} {terminal : EntryTerminal} (h : Recorded slice s)
    (hterminal : report.terminal = some terminal) (hzero : terminal ≠ .reconciledZeroFill)
    (hpolite : ¬s.Overrules (.orderTerminal report)) (next : ManagedEntryPlanState) :
    Recorded (⟨s, .orderTerminal report, next⟩ :: slice)
      ({ s with orderTerminalSeen := true }.announceExpected terminal report.expectedFilledVolume) := by
  have hended : Ended (⟨s, .orderTerminal report, next⟩ :: slice) :=
    ⟨_, List.mem_cons_self, report, rfl, by rw [hterminal]; rfl⟩
  have hsilent : s.announced report = none → Silent ⟨s, .orderTerminal report, next⟩ := by
    intro hnone report' hop
    cases hop
    exact hnone
  obtain ⟨-, hfilled, hseen⟩ := announceExpected_keeps (s := { s with orderTerminalSeen := true }) terminal
    report.expectedFilledVolume
  rcases announceExpected_cases (s := { s with orderTerminalSeen := true }) hterminal hzero with
    ⟨volume, hvolume, hmost⟩ | ⟨hnone, hrejected, hbare, hmost⟩ | ⟨hnone, hsame⟩
  · exact h.raise rfl hvolume rfl hseen hfilled hmost
  · refine h.silent (hsilent hnone) rfl hended hseen hfilled (.inr ⟨?_, hmost⟩)
    by_contra hknown
    refine hpolite ⟨report, rfl, ?_, hbare, Nat.pos_of_ne_zero hknown⟩
    rcases hrejected with rfl | rfl
    · exact .inl hterminal
    · exact .inr hterminal
  · exact h.silent (hsilent hnone) rfl hended hseen hfilled (.inl (by rw [hsame]))

theorem endOrder_slice (terminal : EntryTerminal) (report : EntryOrderReport) (hpending : s.hasPending = true) :
    let heard := { s with orderTerminalSeen := true }.announceExpected terminal report.expectedFilledVolume
    (heard.barrierSatisfied = true ∧ (s.endOrder terminal report).hasPending = false) ∨
      (heard.barrierSatisfied = false ∧ heard.hasPending = true ∧ SameSlice heard (s.endOrder terminal report)) := by
  have hheld := (announceExpected_keeps (s := { s with orderTerminalSeen := true }) terminal
    report.expectedFilledVolume).1
  unfold endOrder
  dsimp only
  split
  · rename_i hbarrier
    exact .inr ⟨by simpa using hbarrier, hheld.trans hpending, ⟨rfl, rfl, rfl, rfl⟩⟩
  · rename_i hbarrier
    exact .inl ⟨by simpa using hbarrier, settlePending_hasPending _⟩

theorem BarrierInv.orderTerminal {report : EntryOrderReport} (h : BarrierInv registry uuid5 log s)
    (hpending : s.hasPending = true) (hpolite : ¬s.Overrules (.orderTerminal report)) :
    Guarded registry uuid5 log ⟨s, .orderTerminal report, s.applyOrderTerminal report⟩ := by
  rcases s.applyOrderTerminal_cases report with ⟨hnone, hafter⟩ | ⟨hzero, hafter⟩ | ⟨terminal, hterminal, hzero, hafter⟩
  · refine h.quiet rfl (fun report' hop => ?_) rfl ?_
    · cases hop
      unfold announced
      rw [hnone]
    · rw [hafter]
      exact ⟨rfl, rfl, rfl, rfl⟩
  · have hcleared : (s.applyOrderTerminal report).hasPending = false := by
      rw [hafter]
      exact settlePending_hasPending _
    refine ⟨⟨fun hheld => ?_, fun hheld => ?_, fun _ _ => ?_⟩, fun _ _ => .inl ⟨report, rfl, hzero⟩⟩
    · rw [hcleared] at hheld
      cases hheld
    · rw [hcleared] at hheld
      cases hheld
    · rw [sliceLog_cons rfl]
      exact .inl ⟨_, List.mem_cons_self, report, rfl, hzero⟩
  · refine BarrierInv.of_recorded rfl ((h.recorded hpending).announce hterminal hzero hpolite _) ?_
    rw [hafter]
    exact endOrder_slice terminal report hpending

theorem guarded_of_opened (hopens : opens registry uuid5 m = true) (hidle : m.before.hasPending = false)
    (hpending : m.after.hasPending = true) (hfilled : m.after.pendingFilledVolume = 0)
    (hseen : m.after.orderTerminalSeen = false) (hexpected : m.after.terminalExpectedFilledVolume = none) :
    Guarded registry uuid5 log m := by
  refine ⟨⟨fun _ => ?_, fun _ => ?_, fun hnone _ => ?_⟩, fun hheld _ => ?_⟩
  · rw [sliceLog_opened hopens]
    refine ⟨hfilled, fun h => ?_, fun htold => absurd hexpected htold, fun _ hannounced => ?_, fun _ hsome => ?_⟩
    · rw [hseen] at h
      cases h
    · obtain ⟨m', hm, -⟩ := hannounced
      cases hm
    · rw [hexpected] at hsome
      cases hsome
  · simp [barrierSatisfied, hseen]
  · rw [hpending] at hnone
    cases hnone
  · rw [hidle] at hheld
    cases hheld

theorem BarrierInv.evaluate (h : BarrierInv registry uuid5 log s) (config : ManagedEntryPlanConfig)
    (context : EntryEvaluationContext) :
    Guarded registry uuid5 log ⟨s, .evaluate config context, (s.evaluate registry uuid5 config context).1⟩ := by
  have hdone := s.evaluate_evaluated registry uuid5 config context
  have hopens : opens registry uuid5 ⟨s, .evaluate config context, (s.evaluate registry uuid5 config context).1⟩ =
      (s.decision? registry uuid5 config context).isSome := rfl
  have hsilent : Silent ⟨s, .evaluate config context, (s.evaluate registry uuid5 config context).1⟩ :=
    fun _ hop => by cases hop
  revert hopens hsilent
  generalize s.decision? registry uuid5 config context = decision at hdone
  generalize (s.evaluate registry uuid5 config context).1 = next at hdone ⊢
  intro hopens hsilent
  cases hdone with
  | noted quality noted => exact h.quiet hopens hsilent rfl ⟨rfl, rfl, rfl, rfl⟩
  | waited hopen quality noted ruleState => exact h.quiet hopens hsilent rfl ⟨rfl, rfl, rfl, rfl⟩
  | expired hopen quality noted => exact h.quiet hopens hsilent rfl ⟨rfl, rfl, rfl, rfl⟩
  | completed hopen quality noted => exact h.quiet hopens hsilent rfl ⟨rfl, rfl, rfl, rfl⟩
  | opened hopen quality ruleState config context rule found size decision activation hstage =>
    refine guarded_of_opened hopens hopen.noPending ?_ rfl rfl rfl
    simp only [hasPending, openSlice, Bool.or_eq_true]
    exact .inr (decide_eq_true hstage)

theorem requestTerminal_slice (requested : TerminalRequest) (reason : String) (pendingWork : Bool) :
    SameSlice s (s.requestTerminal requested reason pendingWork) := by
  obtain ⟨first, noted, phase, h⟩ := s.requestTerminal_writes requested reason pendingWork
  rw [h]
  exact ⟨rfl, rfl, rfl, rfl⟩

theorem BarrierInv.step (h : BarrierInv registry uuid5 log s) (op : EntryOp) (hop : s.Reported op)
    (hpolite : ¬s.Overrules op) : Guarded registry uuid5 log ⟨s, op, s.step registry uuid5 op⟩ := by
  obtain ⟨hdelivered, hslice⟩ := hop
  cases op with
  | evaluate config context => exact h.evaluate config context
  | tradeFill fill =>
    obtain ⟨metadata, hmatch⟩ := hdelivered
    exact h.tradeFill hmatch
  | orderTerminal report => exact h.orderTerminal (hslice report rfl) hpolite
  | requestTerminal requested reason pendingWork =>
    exact h.quiet rfl (fun _ hop => by cases hop) rfl (requestTerminal_slice requested reason pendingWork)
  | reload =>
    refine h.quiet rfl (fun _ hop => by cases hop) rfl ?_
    show SameSlice s s.reload
    rw [reload_eq]
    exact ⟨rfl, rfl, rfl, rfl⟩

theorem barrierInv_start : BarrierInv registry uuid5 [] {} where
  recorded hpending := by cases hpending
  waiting hpending := by cases hpending
  idle _ hopened := by
    obtain ⟨m, hm, -⟩ := hopened
    cases hm

theorem SliceRun.barrierInv (h : SliceRun registry uuid5 log s) (hpolite : ∀ m ∈ log, ¬m.before.Overrules m.op) :
    BarrierInv registry uuid5 log s ∧ ClearsComplete registry uuid5 log := by
  induction h with
  | start h =>
    subst h
    exact ⟨barrierInv_start, trivial⟩
  | step _ op hop ih =>
    obtain ⟨hinv, hclears⟩ := ih fun m hm => hpolite m (List.mem_cons_of_mem _ hm)
    have hguarded := hinv.step op hop (hpolite _ List.mem_cons_self)
    exact ⟨hguarded.inv, hguarded.clears, hclears⟩

theorem announceExpected_rejected {terminal : EntryTerminal} {expected : Option Int}
    (hrejected : terminal = .rejected ∨ terminal = .brokerRejected) (hbare : expected.getD 0 ≤ 0)
    (hseen : s.orderTerminalSeen = true) (hfilled : 0 ≤ s.pendingFilledVolume) :
    (s.announceExpected terminal expected).barrierSatisfied = true := by
  have hnot : ¬(terminal = .filled ∧ 0 < s.pendingRequestedVolume) := by
    rcases hrejected with rfl | rfl <;> simp
  unfold announceExpected
  simp only [if_neg (not_lt.mpr hbare), if_neg hnot, if_pos hrejected]
  exact barrierSatisfied_iff.mpr ⟨hseen, 0, rfl, hfilled⟩

/-- A rejection that takes back an announcement clears a slice of which executions are missing. -/
theorem BarrierInv.overruled {op : EntryOp} (h : BarrierInv registry uuid5 log s) (hop : s.Reported op)
    (hoverrules : s.Overrules op) :
    s.hasPending = true ∧ (s.step registry uuid5 op).hasPending = false ∧ ¬ZeroFills op ∧
      ¬Complete (sliceLog registry uuid5 (⟨s, op, s.step registry uuid5 op⟩ :: log)) := by
  obtain ⟨report, rfl, hrejected, hbare, hknown⟩ := hoverrules
  have hpending := hop.2 report rfl
  have hrecorded := h.recorded hpending
  have hzero : report.terminal ≠ some .reconciledZeroFill := by
    rcases hrejected with hrejected | hrejected <;> rw [hrejected] <;> decide
  refine ⟨hpending, ?_, ?_, fun hcomplete => ?_⟩
  · rcases s.applyOrderTerminal_cases report with ⟨hnone, -⟩ | ⟨hreconciled, -⟩ | ⟨terminal, hterminal, hother, hafter⟩
    · rcases hrejected with hrejected | hrejected <;> rw [hnone] at hrejected <;> cases hrejected
    · exact absurd hreconciled hzero
    · show (s.applyOrderTerminal report).hasPending = false
      rw [hafter]
      rcases endOrder_slice terminal report hpending with ⟨-, hcleared⟩ | ⟨hwaits, -, -⟩
      · exact hcleared
      · have hkind : terminal = .rejected ∨ terminal = .brokerRejected := by simpa [hterminal] using hrejected
        have hfilled : 0 ≤ s.pendingFilledVolume := by
          rw [hrecorded.filled]
          exact matchedVolume_nonneg _
        rw [announceExpected_rejected (s := { s with orderTerminalSeen := true }) hkind hbare rfl hfilled] at hwaits
        cases hwaits
  · rintro ⟨report', hop', hreconciled⟩
    cases hop'
    exact hzero hreconciled
  · -- The volume that the state expects was announced, and the barrier waits for it.
    cases hexpected : s.terminalExpectedFilledVolume with
    | none =>
      rw [hexpected] at hknown
      exact absurd hknown (Nat.lt_irrefl 0)
    | some most =>
      rw [hexpected, Option.getD_some] at hknown
      have hseen := hrecorded.told (by rw [hexpected]; exact Option.some_ne_none most)
      have hreached := hcomplete.arrived most (by
        rw [sliceLog_cons rfl]
        exact (hrecorded.source most hexpected hknown).cons _)
      rw [sliceLog_cons rfl, matchedVolume_cons, ← hrecorded.filled] at hreached
      have hbarrier := barrierSatisfied_iff.mpr ⟨hseen, most, hexpected, by simpa [matchedBy] using hreached⟩
      rw [h.waiting hpending] at hbarrier
      cases hbarrier

theorem ClearsComplete.polite (h : SliceRun registry uuid5 log s) (hclears : ClearsComplete registry uuid5 log) :
    ∀ m ∈ log, ¬m.before.Overrules m.op := by
  induction h with
  | start _ => exact fun m hm => absurd hm List.not_mem_nil
  | step hrun op hop ih =>
    have hpolite := ih hclears.2
    intro m hm hoverrules
    rcases List.mem_cons.mp hm with rfl | hm
    · obtain ⟨hpending, hcleared, hzero, hmissing⟩ := (SliceRun.barrierInv hrun hpolite).1.overruled hop hoverrules
      rcases hclears.1 hpending hcleared with hno | hno
      · exact hzero hno
      · exact hmissing hno
    · exact hpolite m hm hoverrules

/-- Slices are cleared only when a reconciliation found no execution or nothing announced is missing, exactly in the
    runs where no rejection takes back an announcement; there the plan never decides while an announced execution is
    missing. -/
theorem clears_complete_iff (h : SliceRun registry uuid5 log s) :
    (ClearsComplete registry uuid5 log ↔ ∀ m ∈ log, ¬m.before.Overrules m.op) ∧
      ((∀ m ∈ log, ¬m.before.Overrules m.op) → DecidesAccounted registry uuid5 log s) := by
  refine ⟨⟨fun hclears => hclears.polite h, fun hpolite => (h.barrierInv hpolite).2⟩, fun hpolite config context hsome => ?_⟩
  have hinv := (h.barrierInv hpolite).1
  have hdone := s.evaluate_evaluated registry uuid5 config context
  obtain ⟨decision, hdecision⟩ := Option.isSome_iff_exists.mp hsome
  rw [hdecision] at hdone
  generalize (s.evaluate registry uuid5 config context).1 = next at hdone
  cases hdone with
  | opened hopen => exact hinv.idle hopen.noPending

/-- What reaches the strategy: its own calls on the plan, and order and trade events of any owner. -/
inductive EntryEvent where
  | call (op : EntryOp)
  | order (event : EntryOrderEvent)
  | trade (event : EntryTradeEvent)

def IsCall : EntryEvent → Prop
  | .call (.tradeFill _) => False
  | .call (.orderTerminal _) => False
  | _ => True

/-- An order event that raises leaves the state as it was. -/
def respond (registry : ManagedEntryRuleRegistry) (uuid5 : String → String) (strategy : EntryStrategyRef)
    (config : ManagedEntryPlanConfig) (s : ManagedEntryPlanState) : EntryEvent → ManagedEntryPlanState
  | .call op => s.step registry uuid5 op
  | .order event => (onOrder strategy config s event).toOption.getD s
  | .trade event => onTrade strategy config s event

theorem respond_step (strategy : EntryStrategyRef) (config : ManagedEntryPlanConfig) {event : EntryEvent} (h : IsCall event) :
    respond registry uuid5 strategy config s event = s ∨
      ∃ op, s.Reported op ∧ respond registry uuid5 strategy config s event = s.step registry uuid5 op := by
  cases event with
  | call op =>
    refine .inr ⟨op, ?_, rfl⟩
    cases op with
    | tradeFill fill => exact h.elim
    | orderTerminal report => exact h.elim
    | _ => exact ⟨trivial, fun _ hop => by cases hop⟩
  | order event =>
    simp only [respond]
    cases hnext : onOrder strategy config s event with
    | error e => exact .inl rfl
    | ok next =>
      exact (onOrder_reported registry uuid5 hnext).imp_right fun ⟨report, hreported, hstep⟩ => ⟨_, hreported, hstep⟩
  | trade event =>
    exact (onTrade_reported registry uuid5 strategy config event).imp_right fun ⟨hreported, hstep⟩ => ⟨_, hreported, hstep⟩

/-- The strategy refines the plan: whatever events reach it, each is ignored or is a step of one run of slices, and
    unless a rejection takes back an announcement nothing is missing of a slice that was cleared. -/
theorem strategy_refines {strategy : EntryStrategyRef} {config : ManagedEntryPlanConfig}
    {events : List (Moment ManagedEntryPlanState EntryEvent)}
    (h : Run (· = {}) (respond registry uuid5 strategy config) (fun _ _ => IsCall) events s) :
    ∃ log, SliceRun registry uuid5 log s ∧ (∀ m ∈ events, m.after = m.before ∨ ∃ op, ⟨m.before, op, m.after⟩ ∈ log) ∧
      ((∀ m ∈ log, ¬m.before.Overrules m.op) → BarrierInv registry uuid5 log s ∧ ClearsComplete registry uuid5 log) := by
  have hrefines : ∃ log, SliceRun registry uuid5 log s ∧
      ∀ m ∈ events, m.after = m.before ∨ ∃ op, ⟨m.before, op, m.after⟩ ∈ log := by
    induction h with
    | start h => exact ⟨[], .start h, by simp⟩
    | step _ event hcall ih =>
      obtain ⟨log, hrun, hevents⟩ := ih
      rcases respond_step strategy config hcall with hsame | ⟨op, hop, hstep⟩
      · rw [hsame]
        exact ⟨log, hrun, List.forall_mem_cons.mpr ⟨.inl rfl, hevents⟩⟩
      · rw [hstep]
        refine ⟨_, Run.step hrun op hop, List.forall_mem_cons.mpr ⟨.inr ⟨op, List.mem_cons_self⟩, fun m hm => ?_⟩⟩
        exact (hevents m hm).imp_right (Exists.imp fun _ => List.mem_cons_of_mem _)
  obtain ⟨log, hrun, hevents⟩ := hrefines
  exact ⟨log, hrun, hevents, hrun.barrierInv⟩

/-- The order event of another owner is ignored, the evaluation is the run. -/
theorem strategy_refines_opened : ∃ log, SliceRun .builtins id log openedState := by
  have hstart : Run (· = {}) (respond .builtins id ⟨"r1", "p1"⟩ manualEntryConfig) (fun _ _ => IsCall) [] {} := .start rfl
  have hevents := (hstart.step (.call (.evaluate manualEntryConfig triggeredContext)) trivial).step
    (.order ⟨.empty, none, "CANCELLED", 2000, none, 0⟩) trivial
  obtain ⟨log, hrun, -⟩ := strategy_refines hevents
  exact ⟨log, hrun⟩

/-! ## A rejection after a cancellation -/

theorem SliceRun.extend (h : SliceRun registry uuid5 log s) (op : EntryOp) (hop : s.Reported op) :
    SliceRun registry uuid5 (⟨s, op, s.step registry uuid5 op⟩ :: log) (s.step registry uuid5 op) := Run.step h op hop

def partlyFilledReport : EntryOrderReport where
  status := "CANCELLED"
  timestampMs := 2000
  cooldownAfterRejectSeconds := 0
  expectedFilledVolume := some 100

def rejectedReport : EntryOrderReport where
  status := "REJECTED"
  timestampMs := 3000
  cooldownAfterRejectSeconds := 0

def cancelledState : ManagedEntryPlanState := openedState.step .builtins id (.orderTerminal partlyFilledReport)

def rejectedState : ManagedEntryPlanState := cancelledState.step .builtins id (.orderTerminal rejectedReport)

def cancelledLog : List (Moment ManagedEntryPlanState EntryOp) :=
  [⟨openedState, .orderTerminal partlyFilledReport, cancelledState⟩,
    ⟨{}, .evaluate manualEntryConfig triggeredContext, openedState⟩]

def rejectedLog : List (Moment ManagedEntryPlanState EntryOp) :=
  ⟨cancelledState, .orderTerminal rejectedReport, rejectedState⟩ :: cancelledLog

theorem cancelledRun : SliceRun .builtins id cancelledLog cancelledState := by
  have hstart : SliceRun .builtins id [] {} := Run.start rfl
  have hopened := SliceRun.extend hstart (.evaluate manualEntryConfig triggeredContext) ⟨trivial, fun _ h => by cases h⟩
  exact SliceRun.extend hopened (.orderTerminal partlyFilledReport) ⟨trivial, fun _ _ => by decide +kernel⟩

theorem rejectedRun : SliceRun .builtins id rejectedLog rejectedState :=
  SliceRun.extend cancelledRun (.orderTerminal rejectedReport) ⟨trivial, fun _ _ => by decide +kernel⟩

/-- The rejection takes back the 100 shares: the slice is cleared without them, and the plan buys again. -/
theorem rejection_drops_announced :
    SliceRun .builtins id rejectedLog rejectedState ∧ ¬ClearsComplete .builtins id rejectedLog ∧
      ¬DecidesAccounted .builtins id rejectedLog rejectedState := by
  refine ⟨rejectedRun, fun hclears => ?_, fun hdecides => ?_⟩
  · exact hclears.polite rejectedRun _ List.mem_cons_self
      ⟨rejectedReport, rfl, .inl (by decide +kernel), by decide, by decide +kernel⟩
  · have hopens : opens .builtins id ⟨{}, .evaluate manualEntryConfig triggeredContext, openedState⟩ = true := by
      decide +kernel
    have hslice : sliceLog .builtins id rejectedLog = [⟨cancelledState, .orderTerminal rejectedReport, rejectedState⟩,
        ⟨openedState, .orderTerminal partlyFilledReport, cancelledState⟩] := by
      rw [rejectedLog, sliceLog_cons rfl, cancelledLog, sliceLog_cons rfl, sliceLog_opened hopens]
    have haccounted := hdecides manualEntryConfig { triggeredContext with decisionTimeMs := 1000000 } (by decide +kernel)
      ⟨_, List.mem_cons_of_mem _ (List.mem_cons_of_mem _ List.mem_cons_self), hopens⟩
    rw [hslice] at haccounted
    rcases haccounted with ⟨m, hm, report, hop, hzero⟩ | hcomplete
    · rcases List.mem_cons.mp hm with rfl | hm
      · cases hop
        exact absurd hzero (by decide +kernel)
      · obtain rfl := List.mem_singleton.mp hm
        cases hop
        exact absurd hzero (by decide +kernel)
    · have harrived := hcomplete.arrived 100
        ⟨_, List.mem_cons_of_mem _ List.mem_cons_self, partlyFilledReport, rfl, by decide +kernel⟩
      exact absurd harrived (by decide)

def announcedFill : EntryFill where
  tradeKey := "t1"
  matchesPending := true
  volume := 100
  price := 10
  tradeDate := "2026-01-05"
  timestampMs := 4000

def arrivedLog : List (Moment ManagedEntryPlanState EntryOp) :=
  ⟨cancelledState, .tradeFill announcedFill, cancelledState.step .builtins id (.tradeFill announcedFill)⟩ :: cancelledLog

/-- Without the rejection the slice is cleared when the 100 shares arrive. -/
theorem announced_fill_clears_slice :
    (cancelledState.hasPending = true ∧ (cancelledState.step .builtins id (.tradeFill announcedFill)).hasPending = false) ∧
      ClearsComplete .builtins id arrivedLog ∧
      DecidesAccounted .builtins id arrivedLog (cancelledState.step .builtins id (.tradeFill announcedFill)) := by
  have hrun := SliceRun.extend cancelledRun (.tradeFill announcedFill)
    ⟨⟨Dict.ofList [("intent_id", .str "plan:1:r1:1"), ("entry_stage_id", .str "entry-stage:plan:1:r1:1:stage")],
      by decide +kernel⟩, fun _ h => by cases h⟩
  have hpolite : ∀ m ∈ arrivedLog, ¬m.before.Overrules m.op := by
    rintro m hm ⟨report, hop, hrejected, -⟩
    simp only [arrivedLog, cancelledLog, List.mem_cons, List.not_mem_nil, or_false] at hm
    rcases hm with rfl | rfl | rfl <;> cases hop
    rcases hrejected with hrejected | hrejected <;> exact absurd hrejected (by decide +kernel)
  obtain ⟨hiff, hdecides⟩ := clears_complete_iff hrun
  exact ⟨by decide +kernel, hiff.mpr hpolite, hdecides hpolite⟩

end ManagedEntryPlanState

end QuantX
