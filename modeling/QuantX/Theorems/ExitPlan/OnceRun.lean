import QuantX.Theorems.ExitPlan.OnceRule

namespace QuantX.OnceRule
open Lib ExitPlan SellGate ExitVolume

/-- The rule of the mark of intent `i`. -/
def ruleOf (p i : String) : History → Option String
  | [] => none
  | m :: log => match m.op with
    | .markIntent d j => if d.planId = p ∧ j = i then some d.ruleId else ruleOf p i log
    | _ => ruleOf p i log

/-- The volume that was reported for intents of rule `r`. -/
def executed (p r : String) : History → Int
  | [] => 0
  | m :: log => match m.op with
    | .applyExitFill f => (if f.planId = p ∧ ruleOf p f.intentId log = some r then reported f else 0) + executed p r log
    | _ => executed p r log

/-- The volume of the first intent of rule `r`. -/
def firstVolume (p r : String) : History → Option Int
  | [] => none
  | m :: log => match m.op with
    | .markIntent d _ => (firstVolume p r log).or (if d.planId = p ∧ d.ruleId = r then some d.volume else none)
    | _ => firstVolume p r log

def Flagged (once : String → Bool) (template : ExitPlanTemplate) : Prop := ∀ rule ∈ template.rules, rule.once = once rule.ruleId

/-- The templates of plan `p` keep the flags of the rule ids. -/
def KeepsFlags (p : String) (once : String → Bool) : ExitOp → Prop
  | .registerEntryFill template _ _ _ => template.planId = p → Flagged once template
  | .applyCommand command => command.planId = p → ∀ template, command.template = some template → Flagged once template
  | _ => True

def NamesRule (p : String) (s : ExitRun) : ExitOp → Prop
  | .applyExitFill f => f.planId = p → f.ruleId = "" ∨ f.ruleId = (s.book.ruleView p).rule
  | _ => True

def openOf (v : RuleView) (r : String) : Int :=
  if v.intent ≠ "" ∧ v.rule = r then v.requested - v.filled else 0

/-- How the volumes of the once rules follow from the history of an honest run. -/
structure RulesInv (p : String) (once : String → Bool) (log : History) (v : RuleView) : Prop where
  rule : v.intent ≠ "" → ruleOf p v.intent log = some v.rule
  filled_le : v.filled ≤ v.requested
  targets : ∀ r, once r = true → v.targets.get? r = firstVolume p r log
  fills : ∀ r, once r = true → r ≠ "" → v.fills.getD r 0 = executed p r log
  within : ∀ r, once r = true → r ≠ "" → executed p r log + openOf v r ≤ (firstVolume p r log).getD 0

structure OnceInv (p : String) (once : String → Bool) (log : History) (s : ExitRun) : Prop where
  flags : ∀ plan, s.book.plans.get? p = some plan → Flagged once plan.template
  sizes : ∀ d ∈ s.offered, s.book.Sizes d
  rules : RulesInv p once log (s.book.ruleView p)

section Step
variable {registry : ExitStrategyRegistry} {log : History} {s : ExitRun} {p r : String} {once : String → Bool} {op : ExitOp}
  {m : Moment ExitRun ExitOp} {v : RuleView} {d : ExitDecision} {f : ExitFill} {i : String}

theorem openOf_nonneg {v : RuleView} (h : v.filled ≤ v.requested) (r : String) : 0 ≤ openOf v r := by
  unfold openOf
  split <;> omega

theorem openOf_idle {v : RuleView} (h : v.intent = "") (r : String) : openOf v r = 0 := by
  unfold openOf
  rw [if_neg fun hc => hc.1 h]

/-- A step that is neither a mark nor an execution of `p` adds nothing to the history of its rules. -/
theorem history_quiet (hmark : ∀ d i, op = .markIntent d i → d.planId ≠ p) (hfill : ∀ f, op = .applyExitFill f → f.planId ≠ p)
    {m : Moment ExitRun ExitOp} (hm : m.op = op) :
    (∀ i, ruleOf p i (m :: log) = ruleOf p i log) ∧ (∀ r, executed p r (m :: log) = executed p r log) ∧
      ∀ r, firstVolume p r (m :: log) = firstVolume p r log := by
  cases op with
  | markIntent d i =>
    have hother : d.planId ≠ p := hmark d i rfl
    refine ⟨fun i => ?_, fun r => ?_, fun r => ?_⟩
    · rw [ruleOf, hm]
      exact if_neg fun h => hother h.1
    · rw [executed, hm]
    · rw [firstVolume, hm]
      simp [hother]
  | applyExitFill f =>
    have hother : f.planId ≠ p := hfill f rfl
    refine ⟨fun i => ?_, fun r => ?_, fun r => ?_⟩
    · rw [ruleOf, hm]
    · rw [executed, hm]
      simp [hother]
    · rw [firstVolume, hm]
  | _ => exact ⟨fun i => by rw [ruleOf, hm], fun r => by rw [executed, hm], fun r => by rw [firstVolume, hm]⟩

theorem flags_step (h : ∀ plan, s.book.plans.get? p = some plan → Flagged once plan.template) (hkeeps : KeepsFlags p once op) :
    ∀ plan, (s.step registry op).book.plans.get? p = some plan → Flagged once plan.template := by
  intro next hnext
  have hstep := s.step_plan registry op p
  generalize hplan : s.book.plans.get? p = stored at hstep
  rw [hnext] at hstep
  have hfill : ∀ (plan : ExitPlan) volume price time, Flagged once plan.template →
      Flagged once (plan.registerEntryFill volume price time).template := by
    intro plan volume price time hflag
    rw [registerEntryFill_template]
    exact hflag
  have happlied : ∀ {plan next : ExitPlan} {template : ExitPlanTemplate}, plan.applyTemplate template = .ok next →
      Flagged once template → Flagged once next.template := by
    intro plan next template happly hflag
    unfold applyTemplate at happly
    split at happly
    · cases happly
    · cases happly
      exact hflag
  cases hstep with
  | same => exact h next hplan
  | created template volume price time own => exact hfill _ _ _ _ (hkeeps own)
  | entryFill template volume price time own hcurrent =>
    rcases hcurrent with rfl | happly
    · exact hfill _ _ _ _ (h _ hplan)
    · exact hfill _ _ _ _ (happlied happly (hkeeps own))
  | upserted command template own _ given happly => exact happlied happly (hkeeps own template given)
  | paused plan => exact h plan hplan
  | @resumed plan => exact h plan hplan
  | cancelled plan => exact h plan hplan
  | evaluated plan code context =>
    rw [(evaluate_spec registry plan context).1.position.template]
    exact h _ hplan
  | marked d i own hmark =>
    rw [(markIntent_sameEntry hmark).template]
    exact h _ hplan
  | ordered plan event own =>
    rw [(plan.applyOrderEvent_sameEntry event).template]
    exact h _ hplan
  | filled plan fill own =>
    rw [(plan.applyExitFill_sameEntry fill).template]
    exact h _ hplan

namespace RulesInv

theorem release (h : RulesInv p once log v) : RulesInv p once log v.release where
  rule := fun hne => absurd rfl hne
  filled_le := le_rfl
  targets := h.targets
  fills := h.fills
  within := fun r hr hne => by
    have hwithin := h.within r hr hne
    have hopen := openOf_nonneg h.filled_le r
    rw [openOf_idle rfl]
    omega

theorem quiet (h : RulesInv p once log v) (hrule : ∀ i, ruleOf p i (m :: log) = ruleOf p i log)
    (hexecuted : ∀ r, executed p r (m :: log) = executed p r log) (hfirst : ∀ r, firstVolume p r (m :: log) = firstVolume p r log) :
    RulesInv p once (m :: log) v where
  rule := fun hne => (hrule _).trans (h.rule hne)
  filled_le := h.filled_le
  targets := fun r hr => (h.targets r hr).trans (hfirst r).symm
  fills := fun r hr hne => (h.fills r hr hne).trans (hexecuted r).symm
  within := fun r hr hne => by
    rw [hexecuted, hfirst]
    exact h.within r hr hne

/-- A mark opens the intent of a decision. The first decision of a once rule fixes its target; a later one fits in what is left. -/
theorem mark (h : RulesInv p once log v) (hm : m.op = .markIntent d i) (own : d.planId = p) (hpos : 0 < d.volume)
    {next : RuleView} (hintent : next.intent = i) (hrule : next.rule = d.ruleId) (hrequested : next.requested = d.volume)
    (hfilled : next.filled = 0)
    (htargets : ∀ r, once r = true → next.targets.get? r = (v.targets.get? r).or (if d.ruleId = r then some d.volume else none))
    (hfills : ∀ r, next.fills.getD r 0 = v.fills.getD r 0)
    (hlater : once d.ruleId = true → ∀ target, v.targets.get? d.ruleId = some target →
      d.volume ≤ max 0 (target - v.fills.getD d.ruleId 0)) : RulesInv p once (m :: log) next := by
  have hfirst : ∀ r, firstVolume p r (m :: log) = (firstVolume p r log).or (if d.ruleId = r then some d.volume else none) := by
    intro r
    rw [firstVolume, hm]
    simp [own]
  have hexecuted : ∀ r, executed p r (m :: log) = executed p r log := by
    intro r
    rw [executed, hm]
  refine ⟨fun _ => ?_, ?_, fun r hr => ?_, fun r hr hne => ?_, fun r hr hne => ?_⟩
  · rw [ruleOf, hm, hintent, hrule]
    exact if_pos ⟨own, rfl⟩
  · rw [hfilled, hrequested]
    exact hpos.le
  · rw [hfirst, htargets r hr, h.targets r hr]
  · rw [hexecuted, hfills, h.fills r hr hne]
  · have hwithin := h.within r hr hne
    have hopen := openOf_nonneg h.filled_le r
    rw [hexecuted, hfirst, openOf, hrule, hrequested, hfilled]
    by_cases hown : d.ruleId = r
    · subst hown
      have hnew : (if next.intent ≠ "" ∧ d.ruleId = d.ruleId then d.volume - 0 else 0) ≤ d.volume := by
        split <;> omega
      cases htarget : firstVolume p d.ruleId log with
      | none =>
        rw [htarget] at hwithin
        simp only [Option.getD_none] at hwithin
        simp only [Option.none_or, if_true, Option.getD_some]
        omega
      | some target =>
        rw [htarget] at hwithin
        have hfits := hlater hr target ((h.targets _ hr).trans htarget)
        rw [h.fills _ hr hne] at hfits
        simp only [Option.some_or, Option.getD_some]
        omega
    · rw [if_neg fun hc => hown hc.2, if_neg hown, Option.or_none]
      omega

theorem fill (h : RulesInv p once log v) (hm : m.op = .applyExitFill f) (own : f.planId = p) (hintent : v.intent ≠ "")
    (hpending : f.intentId = v.intent) (hfits : v.filled + reported f ≤ v.requested) {next : RuleView}
    (hnext : next = { v with
      filled := v.filled + reported f
      fills := if v.rule ≠ "" then v.fills.set v.rule (v.fills.getD v.rule 0 + reported f) else v.fills }) :
    RulesInv p once (m :: log) next := by
  subst hnext
  have hrule := h.rule hintent
  have hexecuted : ∀ r, executed p r (m :: log) = (if v.rule = r then reported f else 0) + executed p r log := by
    intro r
    rw [executed, hm]
    simp [own, hpending, hrule]
  have hfirst : ∀ r, firstVolume p r (m :: log) = firstVolume p r log := by
    intro r
    rw [firstVolume, hm]
  refine ⟨fun _ => ?_, hfits, fun r hr => ?_, fun r hr hne => ?_, fun r hr hne => ?_⟩
  · rw [ruleOf, hm]
    exact hrule
  · rw [hfirst]
    exact h.targets r hr
  · rw [hexecuted, ← h.fills r hr hne]
    by_cases hown : v.rule = r
    · subst hown
      simp only [ne_eq, hne, not_false_eq_true, if_true]
      rw [Dict.getD, Dict.get?_set, if_pos rfl]
      exact add_comm _ _
    · rw [if_neg hown, zero_add]
      split
      · rw [Dict.getD, Dict.get?_set, if_neg hown, Dict.getD]
      · rfl
  · have hwithin := h.within r hr hne
    rw [hexecuted, hfirst]
    unfold openOf at hwithin ⊢
    simp only
    by_cases hown : v.rule = r
    · rw [if_pos hown, if_pos ⟨hintent, hown⟩]
      rw [if_pos ⟨hintent, hown⟩] at hwithin
      omega
    · rw [if_neg hown, if_neg fun hc => hown hc.2]
      rw [if_neg fun hc => hown hc.2] at hwithin
      omega

end RulesInv

theorem startOnceRule_view {plan : ExitPlan} (hflag : Flagged once plan.template) {rule : ExitRuleSpec}
    (hrule : rule ∈ plan.template.rules) (hid : d.ruleId = rule.ruleId) :
    let next := ((plan.openIntent d i).startOnceRule d).ruleView
    next.intent = i ∧ next.rule = d.ruleId ∧ next.requested = d.volume ∧ next.filled = 0 ∧
      (∀ r, once r = true → next.targets.get? r = (plan.ruleTargetVolumes.get? r).or (if d.ruleId = r then some d.volume else none)) ∧
      ∀ r, next.fills.getD r 0 = plan.ruleFilledVolumes.getD r 0 := by
  intro next
  have hfound : ∃ known ∈ plan.template.rules, known.ruleId = d.ruleId ∧ (plan.openIntent d i).rule? d.ruleId = some known := by
    cases hfind : (plan.openIntent d i).rule? d.ruleId with
    | none =>
      have hnone := List.find?_eq_none.mp hfind rule hrule
      simp [hid] at hnone
    | some known =>
      have hknown := List.find?_some hfind
      exact ⟨known, List.mem_of_find?_eq_some hfind, by simpa using hknown, rfl⟩
  obtain ⟨known, hmem, hknown, hfind⟩ := hfound
  have honce : known.once = once d.ruleId := hknown ▸ hflag known hmem
  have hnext : next = ((plan.openIntent d i).startOnceRule d).ruleView := rfl
  unfold startOnceRule at hnext
  rw [hfind] at hnext
  simp only at hnext
  split at hnext
  · rename_i hstart
    have hnone : plan.ruleTargetVolumes.get? d.ruleId = none := by
      have hmissing := hstart.2
      rw [hknown] at hmissing
      exact Option.not_isSome_iff_eq_none.mp hmissing
    rw [hnext]
    refine ⟨rfl, rfl, rfl, rfl, fun r _ => ?_, fun r => Dict.getD_setdefault _ _ _ _ fun _ => rfl⟩
    show (plan.ruleTargetVolumes.set known.ruleId d.volume).get? r = _
    rw [Dict.get?_set, hknown]
    by_cases hown : d.ruleId = r
    · subst hown
      rw [if_pos rfl, if_pos rfl, hnone, Option.none_or]
    · rw [if_neg hown, if_neg hown, Option.or_none]
  · rename_i hkept
    rw [hnext]
    refine ⟨rfl, rfl, rfl, rfl, fun r hr => ?_, fun r => rfl⟩
    show plan.ruleTargetVolumes.get? r = _
    by_cases hown : d.ruleId = r
    · subst hown
      have hsome : (plan.ruleTargetVolumes.get? d.ruleId).isSome := by
        by_contra hno
        refine hkept ⟨honce.trans hr, ?_⟩
        rw [hknown]
        exact hno
      obtain ⟨target, htarget⟩ := Option.isSome_iff_exists.mp hsome
      rw [htarget, Option.some_or]
    · rw [if_neg hown, Option.or_none]

theorem rules_mark (hinv : Inv log s) (h : OnceInv p once log s) (hlegal : Legal log s (.markIntent d i)) (own : d.planId = p) :
    RulesInv p once (momentOf registry s (.markIntent d i) :: log) ((s.step registry (.markIntent d i)).book.ruleView p) := by
  obtain ⟨hoffered, hi, hfresh⟩ := hlegal
  obtain ⟨plan, hplan, hdecided⟩ := hinv.offers d hoffered
  obtain ⟨plan', hplan', rule, hrule, hid, hvolume⟩ := h.sizes d hoffered
  obtain rfl : plan' = plan := Option.some.inj (hplan'.symm.trans hplan)
  have hzero : i ∉ plan'.reconciledZeroFillIntentIds := by
    intro hmem
    refine hfresh ((hinv.plans d.planId).zeroFills i ?_)
    rw [ExitPlanBook.pending_of_get? hplan]
    exact hmem
  have hmark : ∃ next, plan'.markIntent d i = .ok next := by
    unfold markIntent
    rw [if_neg hzero]
    exact ⟨_, rfl⟩
  obtain ⟨next, hmark⟩ := hmark
  have hnext : (s.step registry (.markIntent d i)).book.plans.get? p = some next := by
    have hkey : next.planId = p := by
      rw [← own, hdecided.planId, planId, (markIntent_sameEntry hmark).template]
      rfl
    show (s.book.orElse (s.book.markIntent d i)).plans.get? p = _
    unfold ExitPlanBook.markIntent
    simp only [hplan, hmark, Except.map, ExitPlanBook.orElse]
    rw [ExitPlanBook.get?_put, if_pos hkey]
  subst own
  have hrules := h.rules
  rw [ExitPlanBook.ruleView_of_get? hplan] at hrules
  rw [ExitPlanBook.ruleView_of_get? hnext, markIntent_rules hmark]
  have hflag := h.flags plan' hplan
  obtain ⟨hintent, hpending, hrequested, hfilled, htargets, hfills⟩ := @startOnceRule_view once d i plan' hflag rule hrule hid
  refine hrules.mark rfl rfl hdecided.volume_pos hintent hpending hrequested hfilled htargets hfills fun honce target htarget => ?_
  have hstarted : rule.once ∧ plan'.ruleTargetVolumes.contains rule.ruleId = true := by
    rw [← hid]
    refine ⟨?_, ?_⟩
    · rw [hflag rule hrule, ← hid]
      exact honce
    · exact Option.isSome_iff_exists.mpr ⟨target, htarget⟩
  rw [hvolume, decisionVolume, if_pos hstarted, ← hid]
  have htarget' : plan'.ruleTargetVolumes.getD d.ruleId 0 = target := by
    rw [Dict.getD]
    exact (congrArg (Option.getD · 0) htarget)
  rw [htarget']
  exact min_le_right _ _

theorem history_unreported (hm : m.op = .applyExitFill f) (hzero : reported f = 0) :
    (∀ i, ruleOf p i (m :: log) = ruleOf p i log) ∧ (∀ r, executed p r (m :: log) = executed p r log) ∧
      ∀ r, firstVolume p r (m :: log) = firstVolume p r log :=
  ⟨fun i => by rw [ruleOf, hm], fun r => by rw [executed, hm]; simp [hzero], fun r => by rw [firstVolume, hm]⟩

theorem bookExitFill_view {plan : ExitPlan} (hne : plan.pendingIntentId ≠ "") (own : f.intentId = plan.pendingIntentId)
    (hrule : f.ruleId = "" ∨ f.ruleId = plan.pendingRuleId) :
    (plan.bookExitFill f).ruleView = { plan.ruleView with
      filled := plan.pendingFilledVolume + plan.appliedVolume f
      fills := if plan.pendingRuleId ≠ "" then
          plan.ruleFilledVolumes.set plan.pendingRuleId (plan.ruleFilledVolumes.getD plan.pendingRuleId 0 + plan.appliedVolume f)
        else plan.ruleFilledVolumes } := by
  have hmatch : plan.matchesPending f = true := matchesPending_iff.mpr ⟨hne, own⟩
  have hresolved : plan.resolvedRuleId f = plan.pendingRuleId := by
    unfold resolvedRuleId
    rw [if_pos hmatch]
    rcases hrule with hempty | hnamed
    · rw [if_neg (not_not.mpr hempty)]
    · rw [hnamed, ite_self]
  unfold bookExitFill ruleView
  simp [hmatch, hresolved]

theorem rules_fill (hhonest : HonestInv log p (s.book.pending p) (s.book.remaining p)) (h : RulesInv p once log (s.book.ruleView p))
    (hlegal : Honest log s (.applyExitFill f)) (hnames : NamesRule p s (.applyExitFill f)) (own : f.planId = p) :
    RulesInv p once (momentOf registry s (.applyExitFill f) :: log) ((s.step registry (.applyExitFill f)).book.ruleView p) := by
  subst own
  have hadded := @history_unreported log f.planId (momentOf registry s (.applyExitFill f)) f rfl
  have hkeep : ∀ {v v' : RuleView}, RulesInv f.planId once (momentOf registry s (.applyExitFill f) :: log) v → v' = v ∨ v' = v.release →
      RulesInv f.planId once (momentOf registry s (.applyExitFill f) :: log) v' := by
    rintro v v' hv (rfl | rfl)
    · exact hv
    · exact hv.release
  cases hplan : s.book.plans.get? f.planId with
  | none =>
    have hidle : ¬ 0 < reported f := fun hpos => by
      have hne := (hlegal hpos).1
      unfold ExitPlanBook.pending at hne
      rw [hplan] at hne
      exact hne rfl
    obtain ⟨hrule, hexecuted, hfirst⟩ := hadded (le_antisymm (not_lt.mp hidle) (reported_nonneg f))
    have hnext : (s.step registry (.applyExitFill f)).book.ruleView f.planId = s.book.ruleView f.planId := by
      show (s.book.applyExitFill f).ruleView f.planId = _
      rw [ExitPlanBook.ruleView, ExitPlanBook.ruleView, ExitPlanBook.applyExitFill, ExitPlanBook.get?_onPlan, if_pos rfl, hplan]
      rfl
    rw [hnext]
    exact h.quiet hrule hexecuted hfirst
  | some plan =>
    have hnext := @step_fill registry s plan f hplan
    rw [ExitPlanBook.ruleView_of_get? hplan] at h
    rw [ExitPlanBook.ruleView_of_get? hnext]
    rw [ExitPlanBook.pending_of_get? hplan, ExitPlanBook.remaining_of_get? hplan] at hhonest
    rcases (reported_nonneg f).eq_or_lt with hzero | hpos
    · obtain ⟨hrule, hexecuted, hfirst⟩ := hadded hzero.symm
      rcases RulesKept.applyExitFill plan f with ⟨hkept, -⟩ | ⟨-, hvolume, hprice⟩
      · exact hkeep (h.quiet hrule hexecuted hfirst) hkept
      · rw [reported, if_pos ⟨hvolume, hprice⟩] at hzero
        omega
    · obtain ⟨hne, hown, hle⟩ := hlegal hpos
      rw [ExitPlanBook.pending_of_get? hplan] at hne hown hle
      have hrule := hnames rfl
      rw [ExitPlanBook.ruleView_of_get? hplan] at hrule
      have happlied := hhonest.applied hpos hne hown hle
      have hfilled : reportedVolume f.planId f.intentId log = plan.pendingFilledVolume := by
        rw [hown]
        exact hhonest.filled hne
      rcases RulesKept.applyExitFill plan f with ⟨-, hnothing⟩ | ⟨hkept, -⟩
      · obtain ⟨-, hvolume, hprice⟩ := reported_pos hpos
        rcases hnothing with hno | hno | hno
        · omega
        · exact absurd hprice (not_lt.mpr hno)
        · omega
      · refine hkeep (h.fill rfl rfl hne hown ?_ ?_) hkept
        · show plan.pendingFilledVolume + reported f ≤ plan.pendingRequestedVolume
          rw [hfilled] at hle
          exact hle
        · rw [bookExitFill_view hne hown hrule, happlied]
          rfl

theorem rules_quiet (h : RulesInv p once log (s.book.ruleView p)) (hmark : ∀ d i, op = .markIntent d i → d.planId ≠ p)
    (hfill : ∀ f, op = .applyExitFill f → f.planId ≠ p) :
    RulesInv p once (momentOf registry s op :: log) ((s.step registry op).book.ruleView p) := by
  obtain ⟨hrule, hexecuted, hfirst⟩ := @history_quiet log p op hmark hfill (momentOf registry s op) rfl
  have hold := h.quiet hrule hexecuted hfirst
  rcases s.step_rules registry hmark hfill with hsame | hreleased
  · rw [hsame]
    exact hold
  · rw [hreleased]
    exact hold.release

def OnceLegal (p : String) (once : String → Bool) (log : History) (s : ExitRun) (op : ExitOp) : Prop :=
  HonestLegal log s op ∧ KeepsFlags p once op ∧ NamesRule p s op

abbrev OnceReaches (registry : ExitStrategyRegistry) (p : String) (once : String → Bool) : History → ExitRun → Prop :=
  Run (· = {}) (ExitRun.step registry) (OnceLegal p once)

theorem OnceReaches.honest (h : OnceReaches registry p once log s) : HonestReaches registry log s :=
  Run.mono (fun _ _ _ hlegal => hlegal.1) h

theorem once_step (hinv : Inv log s) (hhonest : HonestInv log p (s.book.pending p) (s.book.remaining p)) (h : OnceInv p once log s)
    (hlegal : OnceLegal p once log s op) : OnceInv p once (momentOf registry s op :: log) (s.step registry op) where
  flags := flags_step h.flags hlegal.2.1
  sizes := s.step_sizes registry h.sizes
  rules := by
    by_cases hmark : ∃ d i, op = .markIntent d i ∧ d.planId = p
    · obtain ⟨d, i, rfl, own⟩ := hmark
      exact rules_mark hinv h hlegal.1.1 own
    · by_cases hfill : ∃ f, op = .applyExitFill f ∧ f.planId = p
      · obtain ⟨f, rfl, own⟩ := hfill
        exact rules_fill hhonest h.rules hlegal.1.2 hlegal.2.2 own
      · push Not at hmark hfill
        exact rules_quiet h.rules hmark hfill

theorem OnceReaches.inv (h : OnceReaches registry p once log s) :
    (Inv log s ∧ HonestInv log p (s.book.pending p) (s.book.remaining p)) ∧ OnceInv p once log s := by
  refine Run.invariant (fun log s => (Inv log s ∧ HonestInv log p (s.book.pending p) (s.book.remaining p)) ∧ OnceInv p once log s) ?_ ?_ h
  · rintro _ rfl
    refine ⟨⟨inv_start, rfl, fun hne => absurd rfl hne, le_rfl, fun _ _ _ => rfl⟩, fun _ hplan => ?_, fun _ hd => ?_, ?_⟩
    · cases hplan
    · cases hd
    · exact ⟨fun hne => absurd rfl hne, le_rfl, fun _ _ => rfl, fun _ _ _ => rfl, fun r _ _ => by rw [openOf_idle rfl]; rfl⟩
  · rintro log s op ⟨⟨hinv, hhonest⟩, honce⟩ hlegal
    exact ⟨⟨inv_step hinv hlegal.1.1, honest_step hinv hhonest hlegal.1⟩, once_step hinv hhonest honce hlegal⟩

theorem firstVolume_later (later : History) {target : Int} (h : firstVolume p r log = some target) :
    firstVolume p r (later ++ log) = some target := by
  induction later with
  | nil => exact h
  | cons m later ih =>
    rw [List.cons_append, firstVolume]
    split
    · rw [ih, Option.some_or]
    · exact ih

theorem executed_later (p r : String) (later log : History) : executed p r log ≤ executed p r (later ++ log) := by
  induction later with
  | nil => exact le_rfl
  | cons m later ih =>
    rw [List.cons_append, executed]
    split
    · rename_i f _
      have hreported := reported_nonneg f
      split <;> omega
    · exact ih

end Step

/-- Along every run with an honest broker, templates that keep the rules' flags and executions that name the rule of
    their intent or none, the first intent of a once rule fixes its target, the executions of its intents never pass
    that, and once they reach it no evaluation decides for the rule again. -/
theorem once_rule_exact (registry : ExitStrategyRegistry) (p r : String) (once : String → Bool) (log : History) (s : ExitRun)
    (h : OnceReaches registry p once log s) (hr : once r = true) (hne : r ≠ "") :
    (∀ plan, s.book.plans.get? p = some plan → plan.ruleTargetVolumes.get? r = firstVolume p r log) ∧
    executed p r log ≤ (firstVolume p r log).getD 0 ∧
    ∀ later earlier target, log = later ++ earlier → firstVolume p r earlier = some target → target ≤ executed p r earlier →
      firstVolume p r log = some target ∧ executed p r log = target ∧
        ∀ code context, ∀ d ∈ decisionsOf (s.book.evaluate registry code context).2, d.planId = p → d.ruleId ≠ r := by
  obtain ⟨-, hflags, -, hrules⟩ := h.inv
  have hopen := openOf_nonneg hrules.filled_le r
  have hwithin := hrules.within r hr hne
  refine ⟨fun plan hplan => ?_, by omega, fun later earlier target heq hfirst hreached => ?_⟩
  · have htargets := hrules.targets r hr
    rw [ExitPlanBook.ruleView_of_get? hplan] at htargets
    exact htargets
  have hgrown := executed_later p r later earlier
  have hfixed := firstVolume_later later hfirst
  rw [← heq] at hgrown hfixed
  rw [hfixed, Option.getD_some] at hwithin
  refine ⟨hfixed, by omega, fun code context d hd own hrule => ?_⟩
  obtain ⟨plan, hplan, hdecision⟩ := ExitPlanBook.evaluate_plan_of_decision hd
  rw [own] at hplan
  obtain ⟨rule, hmem, hid, hvolume⟩ := (evaluate_sized registry plan context).2 d hdecision
  have hpos := ((evaluate_spec registry plan context).2 d hdecision).volume_pos
  rw [ExitPlanBook.ruleView_of_get? hplan] at hrules
  have hstarted : plan.ruleTargetVolumes.get? r = some target := (hrules.targets r hr).trans hfixed
  have hfilled : plan.ruleFilledVolumes.getD r 0 = executed p r log := hrules.fills r hr hne
  rw [hrule] at hid
  have honce : rule.once ∧ plan.ruleTargetVolumes.contains rule.ruleId = true := by
    rw [← hid, hflags plan hplan rule hmem, ← hid]
    exact ⟨hr, Option.isSome_iff_exists.mpr ⟨target, hstarted⟩⟩
  rw [hvolume, decisionVolume, if_pos honce, ← hid, Dict.getD, hstarted, Option.getD_some, hfilled] at hpos
  have hnone := hpos.trans_le (min_le_right _ _)
  omega

/-! ### A stage that sells half of the position once -/

def onceStage : ExitRuleSpec where
  strategy := "MANUAL_TRIGGER"
  sizing := halfSizing
  once := true
  ruleId := "stage"

def onceTemplate : ExitPlanTemplate := { manualTemplate with
  rules := [onceStage], rules_ne := List.cons_ne_nil _ _ }

def onceHeld : ExitRun := ({} : ExitRun).step manualRegistry (.registerEntryFill onceTemplate 1000 10 none)

def onceOffered : ExitRun := onceHeld.step manualRegistry (.evaluate "600000.SH" morningContext)

theorem onceOffered_ne : onceOffered.offered ≠ [] := by decide +kernel

def onceDecision : ExitDecision := onceOffered.offered.head onceOffered_ne

def onceMarked : ExitRun := onceOffered.step manualRegistry (.markIntent onceDecision "i1")

def onceLog : History :=
  [⟨onceOffered, .markIntent onceDecision "i1", onceMarked⟩,
    ⟨onceHeld, .evaluate "600000.SH" morningContext, onceOffered⟩,
    ⟨{}, .registerEntryFill onceTemplate 1000 10 none, onceHeld⟩]

theorem onceTemplate_flagged : Flagged (fun _ => true) onceTemplate := by
  intro rule hrule
  rw [List.mem_singleton.mp hrule]
  rfl

theorem onceMarked_reached : OnceReaches manualRegistry "plan" (fun _ => true) onceLog onceMarked := by
  have hstart : OnceReaches manualRegistry "plan" (fun _ => true) [] {} := .start rfl
  have hheld : OnceReaches manualRegistry "plan" (fun _ => true) _ onceHeld :=
    hstart.step (.registerEntryFill onceTemplate 1000 10 none) ⟨⟨trivial, trivial⟩, fun _ => onceTemplate_flagged, trivial⟩
  have hoffered : OnceReaches manualRegistry "plan" (fun _ => true) _ onceOffered :=
    hheld.step (.evaluate "600000.SH" morningContext) ⟨⟨trivial, trivial⟩, trivial, trivial⟩
  refine hoffered.step (.markIntent onceDecision "i1") ⟨⟨⟨List.head_mem _, by decide, ?_⟩, trivial⟩, trivial, trivial⟩
  rintro ⟨m, hm, d, hop, -⟩
  rcases List.mem_cons.mp hm with rfl | hm
  · cases hop
  · obtain rfl := List.mem_singleton.mp hm
    cases hop

/-- An execution of the whole intent that names `ruleId`, and the terminal report of the order. -/
def stageFill (ruleId : String) : ExitFill := { planId := "plan", volume := 500, price := 11, intentId := "i1", ruleId }

def stageReport : OrderEvent := { planId := "plan", intentId := "i1", status := .filled, cumulativeFilledVolume := .int 500 }

def stageSold (ruleId : String) : ExitRun :=
  (onceMarked.step manualRegistry (.applyExitFill (stageFill ruleId))).step manualRegistry (.applyOrderEvent stageReport)

def stageLog (ruleId : String) : History :=
  [⟨onceMarked.step manualRegistry (.applyExitFill (stageFill ruleId)), .applyOrderEvent stageReport, stageSold ruleId⟩,
    ⟨onceMarked, .applyExitFill (stageFill ruleId), onceMarked.step manualRegistry (.applyExitFill (stageFill ruleId))⟩] ++ onceLog

theorem stageFill_honest (ruleId : String) : HonestLegal onceLog onceMarked (.applyExitFill (stageFill ruleId)) := by
  refine ⟨trivial, fun _ => ?_⟩
  show (onceMarked.book.pending "plan").intent ≠ "" ∧ "i1" = (onceMarked.book.pending "plan").intent ∧
    reportedVolume "plan" "i1" onceLog + 500 ≤ (onceMarked.book.pending "plan").requested
  decide +kernel

theorem stageSold_reached : OnceReaches manualRegistry "plan" (fun _ => true) (stageLog "stage") (stageSold "stage") :=
  (onceMarked_reached.step (.applyExitFill (stageFill "stage")) ⟨stageFill_honest "stage", trivial, fun _ => .inr (by decide +kernel)⟩).step
    (.applyOrderEvent stageReport) ⟨⟨trivial, trivial⟩, trivial, trivial⟩

theorem once_rule_exact_stage : executed "plan" "stage" (stageLog "stage") = 500 ∧
    ∀ code context, ∀ d ∈ decisionsOf ((stageSold "stage").book.evaluate manualRegistry code context).2, d.planId = "plan" → d.ruleId ≠ "stage" := by
  have hexact := once_rule_exact manualRegistry "plan" "stage" (fun _ => true) _ _ stageSold_reached rfl (by decide)
  exact (hexact.2.2 [] _ 500 rfl (by decide +kernel) (by decide +kernel)).2

/-- An honest execution of the whole intent that names another rule. The rule's target is sold, and the rule sells again. -/
theorem misnamed_execution : HonestReaches manualRegistry (stageLog "other") (stageSold "other") ∧
    (∀ m ∈ stageLog "other", KeepsFlags "plan" (fun _ => true) m.op) ∧
    firstVolume "plan" "stage" (stageLog "other") = some 500 ∧ executed "plan" "stage" (stageLog "other") = 500 ∧
    ∃ d ∈ decisionsOf ((stageSold "other").book.evaluate manualRegistry "600000.SH" morningContext).2,
      d.planId = "plan" ∧ d.ruleId = "stage" ∧ d.volume = 500 := by
  refine ⟨?_, ?_, by decide +kernel, by decide +kernel, ?_⟩
  · exact (onceMarked_reached.honest.step (.applyExitFill (stageFill "other")) (stageFill_honest "other")).step
      (.applyOrderEvent stageReport) ⟨trivial, trivial⟩
  · intro m hm
    simp only [stageLog, onceLog, List.cons_append, List.nil_append, List.mem_cons, List.not_mem_nil, or_false] at hm
    rcases hm with rfl | rfl | rfl | rfl | rfl
    · trivial
    · trivial
    · trivial
    · trivial
    · exact fun _ => onceTemplate_flagged
  · have hdecisions : (decisionsOf ((stageSold "other").book.evaluate manualRegistry "600000.SH" morningContext).2).any
        (fun d => d.planId = "plan" ∧ d.ruleId = "stage" ∧ d.volume = 500) = true := by decide +kernel
    obtain ⟨d, hd, hfacts⟩ := List.any_eq_true.mp hdecisions
    exact ⟨d, hd, of_decide_eq_true hfacts⟩

end QuantX.OnceRule
