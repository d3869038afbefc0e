import QuantX.Theorems.EntryPlan.Run

namespace QuantX
open Lib

namespace ManagedEntryPlanState
variable {registry : ManagedEntryRuleRegistry} {uuid5 : String → String} {s next : ManagedEntryPlanState}
  {log log' : List (Moment ManagedEntryPlanState EntryOp)}
variable {metadata : Dict String PyVal}

def Stopped (s : ManagedEntryPlanState) : Prop := s.phase.terminal = true ∨ s.terminalRequested ≠ none

/-- The adapter tells whether a fill belongs to the pending slice by its intent and stage ids. -/
def Delivered (s : ManagedEntryPlanState) : EntryOp → Prop
  | .tradeFill fill => ∃ metadata, fill.matchesPending = matchesPendingEntry metadata s
  | _ => True

def EntryRun (registry : ManagedEntryRuleRegistry) (uuid5 : String → String) :
    List (Moment ManagedEntryPlanState EntryOp) → ManagedEntryPlanState → Prop :=
  Run (· = {}) (step registry uuid5) fun _ => Delivered

def RunFrom (registry : ManagedEntryRuleRegistry) (uuid5 : String → String) (s : ManagedEntryPlanState) :
    List (Moment ManagedEntryPlanState EntryOp) → ManagedEntryPlanState → Prop :=
  Run (· = s) (step registry uuid5) fun _ => Delivered

theorem EntryRun.start : EntryRun registry uuid5 [] {} := Run.start rfl

theorem EntryRun.extend (h : EntryRun registry uuid5 log s) (op : EntryOp) (hop : s.Delivered op) :
    EntryRun registry uuid5 (⟨s, op, s.step registry uuid5 op⟩ :: log) (s.step registry uuid5 op) := Run.step h op hop

theorem RunFrom.here : RunFrom registry uuid5 s [] s := Run.start rfl

theorem RunFrom.extend {t : ManagedEntryPlanState} (h : RunFrom registry uuid5 s log t) (op : EntryOp) (hop : t.Delivered op) :
    RunFrom registry uuid5 s (⟨t, op, t.step registry uuid5 op⟩ :: log) (t.step registry uuid5 op) := Run.step h op hop

theorem hasPending_of_matches (h : matchesPendingEntry metadata s = true) :
    s.hasPending = true := by
  simp only [matchesPendingEntry, Bool.and_eq_true, decide_eq_true_eq] at h
  simp only [hasPending, Bool.or_eq_true, decide_eq_true_eq]
  exact .inl h.1.1

/-- A cancelled or expired plan was asked to end, and a completed one has no slice. -/
structure EndsInv (s : ManagedEntryPlanState) : Prop where
  requested : s.phase = .expired ∨ s.phase = .cancelled → s.terminalRequested ≠ none
  completed : s.phase = .completed → s.hasPending = false

structure SameControl (s next : ManagedEntryPlanState) : Prop where
  phase : next.phase = s.phase
  requested : next.terminalRequested = s.terminalRequested
  pending : next.hasPending = s.hasPending

theorem SameControl.endsInv (h : SameControl s next) (hinv : s.EndsInv) : next.EndsInv := by
  refine ⟨?_, ?_⟩
  · rw [h.phase, h.requested]
    exact hinv.requested
  · rw [h.phase, h.pending]
    exact hinv.completed

theorem SameControl.stopped (h : SameControl s next) (hstop : s.Stopped) : next.Stopped := by
  unfold Stopped
  rw [h.phase, h.requested]
  exact hstop

theorem terminal_phases {phase : EntryPlanStatus} (h : phase.terminal = true) :
    phase = .completed ∨ phase = .expired ∨ phase = .cancelled ∨ phase = .error := by
  cases phase <;> simp [EntryPlanStatus.terminal] at h ⊢

theorem status_ne_completed (requested : TerminalRequest) : requested.status ≠ .completed := by
  cases requested <;> exact EntryPlanStatus.noConfusion

/-- A request that is there stays, and a plan that has ended or was asked to end stays so. -/
structure Keeps (s next : ManagedEntryPlanState) : Prop where
  endsInv : s.EndsInv → next.EndsInv
  stopped : s.EndsInv → s.Stopped → next.Stopped
  requested : ∀ first, s.terminalRequested = some first → next.terminalRequested = some first

theorem SameControl.keeps (h : SameControl s next) : Keeps s next where
  endsInv := h.endsInv
  stopped _ := h.stopped
  requested first hfirst := by rw [h.requested]; exact hfirst

theorem Keeps.trans {last : ManagedEntryPlanState} (h : Keeps s next) (h' : Keeps next last) : Keeps s last where
  endsInv hinv := h'.endsInv (h.endsInv hinv)
  stopped hinv hstop := h'.stopped (h.endsInv hinv) (h.stopped hinv hstop)
  requested first hfirst := h'.requested first (h.requested first hfirst)

theorem clearPending_hasPending (s : ManagedEntryPlanState) : s.clearPending.hasPending = false := by
  simp [hasPending, clearPending]

theorem settlePending_hasPending (targetReached : Bool) : (s.settlePending targetReached).hasPending = false := by
  obtain ⟨phase, h⟩ := s.settlePending_writes targetReached
  rw [h]
  exact clearPending_hasPending s

theorem settlePending_requested (targetReached : Bool) :
    (s.settlePending targetReached).terminalRequested = s.terminalRequested := by
  obtain ⟨phase, h⟩ := s.settlePending_writes targetReached
  rw [h]
  rfl

/-- The phase that settling leaves: an error and an end without a request stay; else the plan is completed, gets the
    requested end, or goes on. -/
theorem settlePending_phase (targetReached : Bool) :
    ((s.settlePending targetReached).phase = s.phase ∧ s.phase.terminal = true) ∨
      (s.settlePending targetReached).phase = .completed ∨
      (∃ requested, s.terminalRequested = some requested ∧ (s.settlePending targetReached).phase = requested.status) ∨
      (s.terminalRequested = none ∧ s.phase.terminal = false ∧
        ((s.settlePending targetReached).phase = .accumulating ∨ (s.settlePending targetReached).phase = .armed)) := by
  unfold settlePending
  split
  · rename_i herror
    refine .inl ⟨rfl, ?_⟩
    rw [herror]
    rfl
  · split
    · exact .inr (.inl rfl)
    · cases hrequested : s.terminalRequested with
      | some requested => exact .inr (.inr (.inl ⟨requested, rfl, rfl⟩))
      | none =>
        dsimp only
        split
        · rename_i hterminal
          exact .inl ⟨rfl, hterminal⟩
        · rename_i hterminal
          refine .inr (.inr (.inr ⟨rfl, by simpa using hterminal, ?_⟩))
          by_cases hfilled : s.lastFillAtMs.isSome = true <;> simp [hfilled]

theorem settlePending_keeps (targetReached : Bool) : Keeps s (s.settlePending targetReached) := by
  have hpending := settlePending_hasPending (s := s) targetReached
  have hrequested := settlePending_requested (s := s) targetReached
  refine ⟨fun hinv => ⟨?_, fun _ => hpending⟩, fun _ hstop => ?_, fun first hfirst => hrequested.trans hfirst⟩
  · intro hended
    rw [hrequested]
    rcases settlePending_phase (s := s) targetReached with ⟨hphase, -⟩ | hphase | ⟨requested, hsome, -⟩ | ⟨-, -, hphase⟩
    · rw [hphase] at hended
      exact hinv.requested hended
    · rw [hphase] at hended
      rcases hended with h | h <;> cases h
    · rw [hsome]
      exact Option.some_ne_none requested
    · rcases hphase with h | h <;> rw [h] at hended <;> rcases hended with h | h <;> cases h
  · rcases settlePending_phase (s := s) targetReached with ⟨hphase, hterminal⟩ | hphase | ⟨requested, hsome, -⟩ |
        ⟨hnone, hgoing, -⟩
    · refine .inl ?_
      rw [hphase]
      exact hterminal
    · refine .inl ?_
      rw [hphase]
      rfl
    · refine .inr ?_
      rw [hrequested, hsome]
      exact Option.some_ne_none requested
    · rcases hstop with hterminal | hasked
      · rw [hgoing] at hterminal
        cases hterminal
      · exact absurd hnone hasked

theorem keeps_of_phase (phase : EntryPlanStatus) (hphase : next.phase = phase) (hgoing : phase.terminal = false)
    (hrequested : next.terminalRequested = s.terminalRequested)
    (hstop : s.EndsInv → s.Stopped → s.terminalRequested ≠ none) : Keeps s next := by
  refine ⟨fun _ => ⟨fun hended => ?_, fun hended => ?_⟩, fun hinv hstopped => ?_, fun first hfirst => hrequested.trans hfirst⟩
  · rw [hphase] at hended
    rcases hended with h | h <;> rw [h] at hgoing <;> cases hgoing
  · rw [hphase] at hended
    rw [hended] at hgoing
    cases hgoing
  · refine .inr ?_
    rw [hrequested]
    exact hstop hinv hstopped

theorem advanceAfterFill_keeps (targetReached : Bool) (hpending : s.hasPending = true) :
    Keeps s (s.advanceAfterFill targetReached) := by
  unfold advanceAfterFill
  split
  · exact settlePending_keeps targetReached
  · split
    · exact SameControl.keeps ⟨rfl, rfl, rfl⟩
    · rename_i herror
      split
      · rename_i hasked
        refine keeps_of_phase .draining rfl rfl rfl fun _ _ hnone => ?_
        rw [hnone] at hasked
        cases hasked
      · split
        · rename_i hdone
          rw [hpending] at hdone
          cases hdone.2
        · -- The one way out of an end: it would need a slice and no request.
          refine keeps_of_phase .accumulating rfl rfl rfl fun hinv hstop hnone => ?_
          rcases hstop with hterminal | hasked
          · rcases terminal_phases hterminal with hphase | hphase | hphase | hphase
            · have hslice := hinv.completed hphase
              rw [hpending] at hslice
              cases hslice
            · exact hinv.requested (.inl hphase) hnone
            · exact hinv.requested (.inr hphase) hnone
            · exact herror hphase
          · exact hasked hnone

theorem applyTradeFill_keeps (fill : EntryFill)
    (hmatch : fill.matchesPending = matchesPendingEntry metadata s) : Keeps s (s.applyTradeFill fill).1 := by
  rcases s.applyTradeFill_cases fill with ⟨h, -⟩ | ⟨-, -, h⟩ | ⟨-, hmatched, h⟩
  · rw [h]
    exact SameControl.keeps ⟨rfl, rfl, rfl⟩
  · rw [h]
    refine ⟨fun _ => ⟨fun hended => ?_, fun hended => by cases hended⟩, fun _ _ => .inl rfl, fun first hfirst => hfirst⟩
    rcases hended with h | h <;> cases h
  · rw [h]
    have hpending : s.hasPending = true := hasPending_of_matches (hmatch ▸ hmatched)
    have hcounted : SameControl s ((s.recordFill fill).matchFill fill) := ⟨rfl, rfl, rfl⟩
    exact hcounted.keeps.trans (advanceAfterFill_keeps fill.targetReached (hcounted.pending.trans hpending))

theorem announceExpected_control (terminal : EntryTerminal) (expected : Option Int) :
    SameControl s ({ s with orderTerminalSeen := true }.announceExpected terminal expected) := by
  obtain ⟨most, h⟩ := announceExpected_writes { s with orderTerminalSeen := true } terminal expected
  rw [h]
  exact ⟨rfl, rfl, rfl⟩

theorem cooldown_control (report : EntryOrderReport) (p : Prop) [Decidable p] :
    SameControl s (if p then s.cooldown report else s) := by
  obtain ⟨retry, h⟩ := s.cooldown_writes report p
  rw [h]
  exact ⟨rfl, rfl, rfl⟩

theorem applyOrderTerminal_keeps (report : EntryOrderReport) : Keeps s (s.applyOrderTerminal report) := by
  rcases s.applyOrderTerminal_cases report with ⟨-, h⟩ | ⟨-, h⟩ | ⟨terminal, -, -, h⟩
  · rw [h]
    exact SameControl.keeps ⟨rfl, rfl, rfl⟩
  · rw [h, reconcileZeroFill]
    exact (cooldown_control report _).keeps.trans (settlePending_keeps _)
  · rw [h, endOrder]
    split
    · exact (announceExpected_control terminal _).keeps
    · exact (announceExpected_control terminal _).keeps.trans
        ((cooldown_control report _).keeps.trans (settlePending_keeps _))

theorem requestTerminal_keeps (requested : TerminalRequest) (reason : String) (pendingWork : Bool) :
    Keeps s (s.requestTerminal requested reason pendingWork) := by
  have hphase : ∀ (requested : TerminalRequest) (b : Bool),
      (if b then EntryPlanStatus.draining else requested.status) ≠ .completed := by
    intro requested b
    cases b
    · exact status_ne_completed requested
    · exact EntryPlanStatus.noConfusion
  unfold requestTerminal
  split
  · exact SameControl.keeps ⟨rfl, rfl, rfl⟩
  · cases hfirst : s.terminalRequested with
    | none =>
      refine ⟨fun _ => ⟨fun _ => Option.some_ne_none _, fun hdone => absurd hdone (hphase _ _)⟩,
        fun _ _ => .inr (Option.some_ne_none _), fun first hsome => ?_⟩
      rw [hfirst] at hsome
      cases hsome
    | some first =>
      dsimp only
      split
      · exact SameControl.keeps ⟨rfl, rfl, rfl⟩
      · exact ⟨fun _ => ⟨fun _ => Option.some_ne_none _, fun hdone => absurd hdone (hphase _ _)⟩,
          fun _ _ => .inr (Option.some_ne_none _), fun _ hsome => hfirst.symm.trans hsome⟩

theorem Open.not_stopped (h : s.Open) : ¬s.Stopped := by
  rintro (hterminal | hasked)
  · rw [h.phase] at hterminal
    cases hterminal
  · exact hasked h.requested

theorem evaluate_keeps (config : ManagedEntryPlanConfig) (context : EntryEvaluationContext) :
    Keeps s (s.evaluate registry uuid5 config context).1 := by
  have h := s.evaluate_evaluated registry uuid5 config context
  generalize s.decision? registry uuid5 config context = decision at h
  generalize (s.evaluate registry uuid5 config context).1 = next at h ⊢
  cases h with
  | noted quality noted => exact SameControl.keeps ⟨rfl, rfl, rfl⟩
  | waited hopen quality noted ruleState => exact SameControl.keeps ⟨rfl, rfl, rfl⟩
  | expired hopen quality noted =>
    refine ⟨fun _ => ⟨fun _ => Option.some_ne_none _, fun hdone => by cases hdone⟩,
      fun _ hstop => absurd hstop hopen.not_stopped, fun first hsome => ?_⟩
    rw [hopen.requested] at hsome
    cases hsome
  | completed hopen quality noted =>
    refine ⟨fun _ => ⟨fun hended => ?_, fun _ => hopen.noPending⟩, fun _ _ => .inl rfl, fun _ hsome => hsome⟩
    rcases hended with h | h <;> cases h
  | opened hopen quality ruleState config context rule found size decision activation hstage =>
    have hgoing : (if config.authorizationMode = .manualConfirm then EntryPlanStatus.awaitingApproval
        else .entryPending).terminal = false := by
      split <;> rfl
    exact keeps_of_phase _ rfl hgoing rfl fun _ hstop => absurd hstop hopen.not_stopped

theorem step_keeps (op : EntryOp) (hop : s.Delivered op) : Keeps s (s.step registry uuid5 op) := by
  cases op with
  | evaluate config context => exact evaluate_keeps config context
  | tradeFill fill =>
    obtain ⟨metadata, hmatch⟩ := hop
    exact applyTradeFill_keeps fill hmatch
  | orderTerminal report => exact applyOrderTerminal_keeps report
  | requestTerminal requested reason pendingWork => exact requestTerminal_keeps requested reason pendingWork
  | reload => exact SameControl.keeps (by rw [step, reload_eq]; exact ⟨rfl, rfl, rfl⟩)

theorem EntryRun.endsInv (h : EntryRun registry uuid5 log s) : s.EndsInv := by
  refine Run.invariant (fun _ s => s.EndsInv) ?_ (fun _ _ op hinv hop => (step_keeps op hop).endsInv hinv) h
  rintro s rfl
  refine ⟨fun hended => ?_, fun hdone => by cases hdone⟩
  rcases hended with h | h <;> cases h

theorem RunFrom.keeps (h : RunFrom registry uuid5 s log next) : Keeps s next := by
  refine Run.invariant (fun _ next => Keeps s next) ?_ (fun _ _ op hkeeps hop => hkeeps.trans (step_keeps op hop)) h
  rintro next rfl
  exact SameControl.keeps ⟨rfl, rfl, rfl⟩

theorem decision?_of_stopped (hstop : s.Stopped) (config : ManagedEntryPlanConfig) (context : EntryEvaluationContext) :
    s.decision? registry uuid5 config context = none := by
  have h := s.evaluate_evaluated registry uuid5 config context
  cases hdecision : s.decision? registry uuid5 config context with
  | none => rfl
  | some decision =>
    rw [hdecision] at h
    generalize (s.evaluate registry uuid5 config context).1 = next at h
    cases h with
    | opened hopen => exact absurd hstop hopen.not_stopped

def outsideFill : EntryFill where
  tradeKey := "t1"
  matchesPending := false
  volume := 100
  price := 10
  tradeDate := "2026-01-05"
  timestampMs := 1

end ManagedEntryPlanState

end QuantX
