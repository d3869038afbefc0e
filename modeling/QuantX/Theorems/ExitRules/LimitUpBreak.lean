import QuantX.Lib.Require
import QuantX.Lib.Stretch
import QuantX.Theorems.ExitPlan.Run
import QuantX.Theorems.ExitRules.Fed

namespace QuantX
open Lib

namespace ExitRules
variable {rule : ExitRuleSpec} {terms : SealTerms} {tradeDate : String} {day history : List Observation} {own : Dict String PyVal}
  {o : Observation}

abbrev SealTerms.holds (terms : SealTerms) (o : Observation) : Bool := terms.atLimit o.context

/-- Observations at the limit for long enough, with no other date from then on. -/
def SealTerms.Sealed (terms : SealTerms) (tradeDate : String) (history : List Observation) : Prop :=
  ∃ after held before newest oldest, history = after ++ held ++ before ∧ (∀ o ∈ after ++ held, o.tradeDate = tradeDate) ∧
    (∀ o ∈ held, terms.atLimit o.context) ∧ held.head? = some newest ∧ held.getLast? = some oldest ∧
    terms.minSealMs ≤ newest.timestampMs - oldest.timestampMs

theorem SealTerms.sealed_iff : terms.Sealed tradeDate history ↔
    Lasts terms.holds Observation.timestampMs terms.minSealMs (onDate tradeDate history) := by
  rw [lasts_takeWhile_iff]
  simp [SealTerms.Sealed]

structure SealDay (terms : SealTerms) (tradeDate : String) (day : List Observation) (own : Dict String PyVal) (touch : Int)
    (armed : Bool) : Prop where
  date : own.get? "trade_date" = some (.str tradeDate)
  started : own.get? "touch_started_at_ms" = some (.int touch)
  latch : own.get? "armed" = some (.bool armed)
  latched : armed = true ↔ Lasts terms.holds Observation.timestampMs terms.minSealMs day
  since : armed = false → touch = ((stretchStart terms.holds day).map Observation.timestampMs).getD 0

namespace SealDay
variable {touch : Int} {armed : Bool}

theorem opened (tradeDate : String) : SealDay terms tradeDate []
    (Dict.ofList [("trade_date", .str tradeDate), ("touch_started_at_ms", .int 0), ("armed", .bool false)]) 0 false where
  date := rfl
  started := rfl
  latch := rfl
  latched := iff_of_false (by simp) not_lasts_nil
  since _ := rfl

theorem armed_truthy (h : SealDay terms tradeDate day own touch armed) : (own.getD "armed" .none).truthy = armed := by
  rw [Dict.getD, h.latch]
  rfl

theorem touch_read (h : SealDay terms tradeDate day own touch armed) : intOrField own.entries "touch_started_at_ms" 0 = .ok touch := by
  have hlookup : Dict.lookup "touch_started_at_ms" own.entries = some (.int touch) := h.started
  rw [intOrField, hlookup, Option.getD_some, PyVal.int_or_zero, PyVal.toInt_int]

theorem off (h : SealDay terms tradeDate day own touch armed) (hoff : terms.atLimit o.context = false)
    (hsorted : (o :: day).Pairwise fun a b => b.timestampMs ≤ a.timestampMs) :
    ∃ touch', SealDay terms tradeDate (o :: day) (watchSeal terms o.context 0 own) touch' armed := by
  have hsame : armed = true ↔ Lasts terms.holds Observation.timestampMs terms.minSealMs (o :: day) := by
    rw [lasts_cons_iff hsorted, h.latched]
    simp [SealTerms.holds, hoff]
  unfold watchSeal
  rw [if_neg (by simp [hoff]), h.armed_truthy]
  cases armed with
  | true => exact ⟨touch, h.date, h.started, h.latch, hsame, fun hfalse => by cases hfalse⟩
  | false =>
    refine ⟨0, ?_, Dict.get?_set_self .., ?_, hsame, fun _ => ?_⟩
    · exact (Dict.get?_set_ne _ _ (by decide)).trans h.date
    · exact (Dict.get?_set_ne _ _ (by decide)).trans h.latch
    · rw [stretchStart_cons_neg (p := terms.holds) hoff]
      rfl

theorem on (h : SealDay terms tradeDate day own touch armed) (hon : terms.atLimit o.context = true)
    (hpositive : ∀ p ∈ o :: day, 0 < p.timestampMs) (hsorted : (o :: day).Pairwise fun a b => b.timestampMs ≤ a.timestampMs) :
    ∃ touch' armed', SealDay terms tradeDate (o :: day) (watchSeal terms o.context touch own) touch' armed' := by
  have hlasts : Lasts terms.holds Observation.timestampMs terms.minSealMs (o :: day) ↔ _ := lasts_cons_iff hsorted
  unfold watchSeal
  rw [if_pos hon]
  simp only
  generalize hstarted : (if touch ≤ 0 then o.context.timestampMs else touch) = started
  generalize hown : (if touch ≤ 0 then own.set "touch_started_at_ms" (.int started) else own) = own₁
  have hdate : own₁.get? "trade_date" = some (.str tradeDate) := by
    subst hown
    split
    · exact (Dict.get?_set_ne _ _ (by decide)).trans h.date
    · exact h.date
  have hlatch : own₁.get? "armed" = some (.bool armed) := by
    subst hown
    split
    · exact (Dict.get?_set_ne _ _ (by decide)).trans h.latch
    · exact h.latch
  have htouch : own₁.get? "touch_started_at_ms" = some (.int started) := by
    subst hown hstarted
    split
    · exact Dict.get?_set_self ..
    · exact h.started
  -- Before the latch is set, the time is that of the stretch that the observation goes on with or begins.
  have hsince : armed = false → started = ((stretchStart terms.holds day).getD o).timestampMs := by
    intro hfalse
    have hbefore := h.since hfalse
    rw [← hstarted]
    cases hstart : stretchStart terms.holds day with
    | none =>
      rw [hstart] at hbefore
      rw [hbefore, if_pos (by simp)]
      rfl
    | some start =>
      rw [hstart] at hbefore
      have hlater : 0 < start.timestampMs := hpositive start (List.mem_cons_of_mem _ (stretchStart_mem hstart))
      rw [hbefore, if_neg (by simpa using hlater)]
      rfl
  by_cases hlong : terms.minSealMs ≤ o.context.timestampMs - started
  · rw [if_pos hlong]
    refine ⟨started, true, ?_, ?_, Dict.get?_set_self .., iff_of_true rfl (hlasts.mpr ?_), fun hfalse => by cases hfalse⟩
    · exact (Dict.get?_set_ne _ _ (by decide)).trans hdate
    · exact (Dict.get?_set_ne _ _ (by decide)).trans htouch
    · cases harmed : armed with
      | true => exact .inl (h.latched.mp harmed)
      | false =>
        rw [hsince harmed] at hlong
        exact .inr ⟨hon, hlong⟩
  · rw [if_neg hlong]
    refine ⟨started, armed, hdate, htouch, hlatch, ?_, fun hfalse => ?_⟩
    · rw [hlasts, ← h.latched]
      cases harmed : armed with
      | true => simp
      | false =>
        rw [hsince harmed] at hlong
        simp only [Bool.false_eq_true, false_or, false_iff, not_and]
        exact fun _ => hlong
    · rw [stretchStart_cons_pos (p := terms.holds) hon]
      exact hsince hfalse

theorem watch (h : SealDay terms tradeDate day own touch armed) (hpositive : ∀ p ∈ o :: day, 0 < p.timestampMs)
    (hsorted : (o :: day).Pairwise fun a b => b.timestampMs ≤ a.timestampMs) :
    ∃ touch' armed', SealDay terms tradeDate (o :: day)
      (watchSeal terms o.context (if terms.atLimit o.context then touch else 0) own) touch' armed' := by
  by_cases hlimit : terms.atLimit o.context = true
  · rw [if_pos hlimit]
    exact h.on hlimit hpositive hsorted
  · rw [if_neg hlimit]
    obtain ⟨touch', hoff⟩ := h.off (by simpa using hlimit) hsorted
    exact ⟨touch', armed, hoff⟩

end SealDay

def SealStored (terms : SealTerms) : List Observation → Dict String PyVal → Prop
  | [], own => own = .empty
  | o :: history, own => ∃ touch armed, SealDay terms o.tradeDate (onDate o.tradeDate (o :: history)) own touch armed

/-- A new date starts without a seal; on the same date, the stored seal is that of its observations. -/
theorem SealStored.open (h : SealStored terms history own) (tradeDate : String) :
    ∃ touch armed, SealDay terms tradeDate (onDate tradeDate history) (openSealDay tradeDate own) touch armed := by
  cases history with
  | nil =>
    obtain rfl : own = .empty := h
    exact ⟨0, false, SealDay.opened tradeDate⟩
  | cons o history =>
    obtain ⟨touch, armed, hday⟩ := h
    unfold openSealDay
    rw [hday.date]
    by_cases hsame : o.tradeDate = tradeDate
    · subst hsame
      rw [if_pos (by simp [isTradeDate])]
      exact ⟨touch, armed, hday⟩
    · rw [if_neg (by simpa [isTradeDate] using hsame), onDate, List.takeWhile_cons_of_neg (by simpa using hsame)]
      exact ⟨0, false, SealDay.opened tradeDate⟩

theorem limitUpBreak_eq {touch : Int} (hterms : SealTerms.read rule = .ok terms)
    (htouch : (if terms.atLimit o.context then intOrField (openSealDay o.tradeDate own).entries "touch_started_at_ms" 0 else .ok 0) =
      .ok touch) :
    feed limitUpBreak rule own o = watchSeal terms o.context touch (openSealDay o.tradeDate own) ∧
      (triggers limitUpBreak rule own o = true ↔ 0 < o.context.limitUp ∧ terms.minHoldingDays ≤ o.plan.holdingTradingDays ∧
        ((watchSeal terms o.context touch (openSealDay o.tradeDate own)).getD "armed" .none).truthy = true ∧
        o.context.currentPrice ≤ terms.breakPrice o.context + 1 / 100000000) := by
  unfold feed triggers evaluated limitUpBreak
  rw [ownState_planWith, hterms]
  simp only [reading]
  rw [htouch]
  simp [keepState, Dict.getD_set, Observation.planWith, Except.toOption]

theorem limitUpBreak_evaluated (hterms : SealTerms.read rule = .ok terms) (hstored : SealStored terms history own)
    (hpositive : ∀ p ∈ o :: history, 0 < p.timestampMs) (hsorted : (o :: history).Pairwise fun a b => b.timestampMs ≤ a.timestampMs) :
    SealStored terms (o :: history) (feed limitUpBreak rule own o) ∧
      (triggers limitUpBreak rule own o = true ↔ 0 < o.context.limitUp ∧ terms.minHoldingDays ≤ o.plan.holdingTradingDays ∧
        terms.Sealed o.tradeDate (o :: history) ∧ o.context.currentPrice ≤ terms.breakPrice o.context + 1 / 100000000) := by
  obtain ⟨touch, armed, hopen⟩ := hstored.open o.tradeDate
  have hday : onDate o.tradeDate (o :: history) = o :: onDate o.tradeDate history := List.takeWhile_cons_of_pos (by simp)
  have hleading : (onDate o.tradeDate (o :: history)).Sublist (o :: history) := List.takeWhile_sublist _
  rw [hday] at hleading
  obtain ⟨touch', armed', hwatch⟩ := hopen.watch (fun p hp => hpositive p (hleading.subset hp)) (hsorted.sublist hleading)
  have htouch : (if terms.atLimit o.context then intOrField (openSealDay o.tradeDate own).entries "touch_started_at_ms" 0 else .ok 0) =
      .ok (if terms.atLimit o.context then touch else 0) := by
    rw [hopen.touch_read]
    split
    · rfl
    · rfl
  obtain ⟨hfeed, htriggers⟩ := limitUpBreak_eq hterms htouch
  refine ⟨⟨touch', armed', ?_⟩, ?_⟩
  · rw [hday, hfeed]
    exact hwatch
  · rw [htriggers, hwatch.armed_truthy, hwatch.latched, SealTerms.sealed_iff, hday]

def inOrder (log : List (Moment (Dict String PyVal) Observation)) (_ : Dict String PyVal) (o : Observation) : Prop :=
  0 < o.timestampMs ∧ ∀ m ∈ log, m.op.timestampMs ≤ o.timestampMs

variable {log : List (Moment (Dict String PyVal) Observation)}
variable {evaluator : ExitRuleEvaluator}

theorem Fed.positive (h : Fed evaluator rule inOrder log own) :
    ∀ p ∈ observations log, 0 < p.timestampMs := by
  rw [List.forall_mem_map]
  exact h.moments fun _ _ _ _ hop => hop.1

theorem Fed.sorted (h : Fed evaluator rule inOrder log own) :
    (observations log).Pairwise fun a b => b.timestampMs ≤ a.timestampMs := by
  rw [List.pairwise_map]
  exact h.pairwise fun _ _ _ _ hop => hop.2

theorem Fed.sealStored (hterms : SealTerms.read rule = .ok terms) (h : Fed limitUpBreak rule inOrder log own) :
    SealStored terms (observations log) own := by
  induction h with
  | start h => exact h
  | step h op hop ih => exact (limitUpBreak_evaluated hterms ih (Fed.positive (.step h op hop)) (Fed.sorted (.step h op hop))).1

theorem Fed.of_play {evaluator : ExitRuleEvaluator} {ops : List Observation} (hpositive : ∀ o ∈ ops, 0 < o.timestampMs)
    (hsorted : ops.Pairwise fun a b => a.timestampMs ≤ b.timestampMs) :
    Fed evaluator rule inOrder (play (feed evaluator rule) .empty ops).1 (play (feed evaluator rule) .empty ops).2 ∧
      observations (play (feed evaluator rule) .empty ops).1 = ops.reverse := by
  induction ops using List.reverseRecOn with
  | nil => exact ⟨.start rfl, rfl⟩
  | append_singleton ops o ih =>
    rw [List.pairwise_append] at hsorted
    obtain ⟨hrun, hops⟩ := ih (fun p hp => hpositive p (List.mem_append_left _ hp)) hsorted.1
    rw [play_concat]
    refine ⟨.step hrun o ⟨hpositive o (List.mem_append_right _ (List.mem_singleton_self o)), fun m hm => ?_⟩, ?_⟩
    · have hm : m.op ∈ ops := by
        rw [← List.mem_reverse, ← hops]
        exact List.mem_map_of_mem hm
      exact hsorted.2.2 m.op hm o (List.mem_singleton_self o)
    · rw [observations, List.map_cons, ← observations, hops, List.reverse_append]
      rfl

/-! ### Cases -/

def sealRule (parameters : List (String × PyVal)) : ExitRuleSpec :=
  { manualExitRule with
    strategy := "LIMIT_UP_BREAK", ruleId := "seal", parameters := Dict.ofList parameters }

/-- An observation in the second trading day of a position, some milliseconds into a morning. -/
def sealSeen (ms : Int) (date : String) (price limitUp : Rat) : Observation where
  plan := { template := manualTemplate, holdingTradingDays := 2 }
  context := { timestamp := ⟨date, date, 36000000000, 1704160800000 + ms⟩, currentPrice := price, limitUp }

def sealedMorning : List Observation :=
  [sealSeen 0 "2024-01-02" 11 11, sealSeen 4000 "2024-01-02" 11 11, sealSeen 10000 "2024-01-02" 11 11]

/-- A run at the limit on a date, as long as the rule's parameter says. -/
def SealTerms.SealedBefore (terms : SealTerms) (tradeDate : String) (history : List Observation) : Prop :=
  ∃ after held before newest oldest, history = after ++ held ++ before ∧
    (∀ o ∈ held, o.tradeDate = tradeDate ∧ terms.atLimit o.context) ∧ held.head? = some newest ∧ held.getLast? = some oldest ∧
    terms.minSealSeconds * 1000 ≤ (newest.timestampMs - oldest.timestampMs : Int)

structure SealCase where
  parameters : List (String × PyVal)
  terms : SealTerms
  seen : List Observation
  last : Observation

namespace SealCase
variable (c : SealCase)

abbrev sealing : ExitRuleSpec := sealRule c.parameters
abbrev played : List (Moment (Dict String PyVal) Observation) × Dict String PyVal := play (feed limitUpBreak c.sealing) .empty c.seen

def Shows (triggered : Bool) : Prop := SealTerms.read c.sealing = .ok c.terms ∧
  Fed limitUpBreak c.sealing inOrder c.played.1 c.played.2 ∧ observations c.played.1 = c.seen.reverse ∧
  inOrder c.played.1 c.played.2 c.last ∧ triggers limitUpBreak c.sealing c.played.2 c.last = triggered

variable {c} {triggered : Bool}

theorem shows (hterms : (SealTerms.read c.sealing).toOption = some c.terms) (hpositive : ∀ o ∈ c.seen ++ [c.last], 0 < o.timestampMs)
    (hsorted : (c.seen ++ [c.last]).Pairwise fun a b => a.timestampMs ≤ b.timestampMs)
    (htriggers : triggers limitUpBreak c.sealing c.played.2 c.last = triggered) : c.Shows triggered := by
  rw [List.pairwise_append] at hsorted
  obtain ⟨hrun, hops⟩ : Fed limitUpBreak c.sealing inOrder c.played.1 c.played.2 ∧ observations c.played.1 = c.seen.reverse :=
    Fed.of_play (fun o ho => hpositive o (List.mem_append_left _ ho)) hsorted.1
  refine ⟨eq_ok_of_toOption hterms, hrun, hops, ⟨hpositive _ (List.mem_append_right _ (List.mem_singleton_self _)), fun m hm => ?_⟩,
    htriggers⟩
  have hm : m.op ∈ c.seen := by
    rw [← List.mem_reverse, ← hops]
    exact List.mem_map_of_mem hm
  exact hsorted.2.2 m.op hm c.last (List.mem_singleton_self _)

end SealCase

/-- The rule triggers exactly at a broken price under a seal of the date, which may end with the observation itself. -/
theorem limitUpBreak_triggers_iff (hterms : SealTerms.read rule = .ok terms) (h : Fed limitUpBreak rule inOrder log own) :
    ∀ later m earlier, log = later ++ m :: earlier →
      (triggers limitUpBreak rule m.before m.op = true ↔ 0 < m.op.context.limitUp ∧
        terms.minHoldingDays ≤ m.op.plan.holdingTradingDays ∧ terms.Sealed m.op.tradeDate (observations (m :: earlier)) ∧
        m.op.context.currentPrice ≤ terms.breakPrice m.op.context + 1 / 100000000) :=
  h.each fun log own op hrun hop => (limitUpBreak_evaluated hterms (Fed.sealStored hterms hrun) (Fed.positive (.step hrun op hop))
    (Fed.sorted (.step hrun op hop))).2

def morningSeal : SealCase :=
  ⟨[("min_seal_seconds", .int 10)], ⟨0, 1, 10, 1⟩, sealedMorning ++ [sealSeen 11000 "2024-01-02" (1099 / 100) 11],
    sealSeen 12000 "2024-01-02" 10 11⟩

theorem morning_seal_broken : SealTerms.read morningSeal.sealing = .ok morningSeal.terms ∧
    triggers limitUpBreak morningSeal.sealing morningSeal.played.2 morningSeal.last = true := by
  obtain ⟨hterms, hrun, hops, hlast, -⟩ : morningSeal.Shows true :=
    SealCase.shows (by decide +kernel) (by decide +kernel) (by decide +kernel) (by decide +kernel)
  have hsealed : morningSeal.terms.Sealed morningSeal.last.tradeDate (morningSeal.last :: observations morningSeal.played.1) := by
    rw [hops]
    exact ⟨[morningSeal.last, sealSeen 11000 "2024-01-02" (1099 / 100) 11], sealedMorning.reverse, [], _, _, rfl, by decide +kernel,
      by decide +kernel, rfl, rfl, by decide +kernel⟩
  refine ⟨hterms, (limitUpBreak_triggers_iff hterms (.step hrun morningSeal.last hlast) [] _ _ rfl).mpr ⟨?_, ?_, hsealed, ?_⟩⟩
  · decide +kernel
  · decide +kernel
  · decide +kernel

def wideSeal : SealCase := ⟨[("seal_tolerance_ticks", .int 2)], ⟨2, 1, 0, 1⟩, [], sealSeen 0 "2024-01-02" (1098 / 100) 11⟩

def briefSeal : SealCase := ⟨[("min_seal_seconds", .float (3 / 2000))], ⟨0, 1, 3 / 2000, 1⟩,
  [sealSeen 0 "2024-01-02" 11 11, sealSeen 1 "2024-01-02" 11 11], sealSeen 2 "2024-01-02" 10 11⟩

def leftSeal : SealCase := ⟨[("min_seal_seconds", .int 10)], ⟨0, 1, 10, 1⟩, sealedMorning ++ [sealSeen 11000 "2024-01-03" 10 11],
  sealSeen 12000 "2024-01-02" 10 11⟩

def unlimitedSeal : SealCase := ⟨[("min_seal_seconds", .int 10)], ⟨0, 1, 10, 1⟩, sealedMorning, sealSeen 12000 "2024-01-02" (-1) 0⟩

/-- The rule triggers with no observation before and under a seal shorter than the parameter says; after a seal of the
    date it does not where another date came in between or there is no limit. -/
theorem seal_exceptions :
    (wideSeal.Shows true ∧ ¬ wideSeal.terms.SealedBefore wideSeal.last.tradeDate wideSeal.seen.reverse) ∧
    (briefSeal.Shows true ∧ ¬ briefSeal.terms.SealedBefore briefSeal.last.tradeDate briefSeal.seen.reverse) ∧
    (∀ c ∈ [leftSeal, unlimitedSeal], c.Shows false ∧ c.terms.SealedBefore c.last.tradeDate c.seen.reverse ∧
      c.terms.minHoldingDays ≤ c.last.plan.holdingTradingDays ∧ c.last.context.currentPrice ≤ c.terms.breakPrice c.last.context) := by
  refine ⟨⟨SealCase.shows (by decide +kernel) (by decide +kernel) (by decide +kernel) (by decide +kernel), ?_⟩,
    ⟨SealCase.shows (by decide +kernel) (by decide +kernel) (by decide +kernel) (by decide +kernel), ?_⟩, ?_⟩
  · rintro ⟨after, held, before, newest, oldest, hsplit, -, hnewest, -⟩
    obtain ⟨hnil, -⟩ := List.append_eq_nil_iff.mp hsplit.symm
    rw [(List.append_eq_nil_iff.mp hnil).2] at hnewest
    cases hnewest
  · rintro ⟨after, held, before, newest, oldest, hsplit, -, hnewest, holdest, hspan⟩
    have hmem : ∀ o ∈ held, o ∈ briefSeal.seen.reverse := by
      rw [hsplit]
      exact fun o ho => List.mem_append_left _ (List.mem_append_right _ ho)
    have hshort : ∀ o ∈ briefSeal.seen.reverse, ∀ o' ∈ briefSeal.seen.reverse, o.timestampMs - o'.timestampMs ≤ 1 := by decide +kernel
    have hle := hshort newest (hmem newest (List.mem_of_mem_head? hnewest)) oldest (hmem oldest (List.mem_of_getLast? holdest))
    have hlong : briefSeal.terms.minSealSeconds * 1000 = 3 / 2 := by decide +kernel
    have hone : ((newest.timestampMs - oldest.timestampMs : Int) : Rat) ≤ 1 := by exact_mod_cast hle
    exact absurd (hspan.trans hone) (by decide +kernel)
  · have hheld : ∀ o ∈ sealedMorning.reverse, o.tradeDate = "2024-01-02" ∧ leftSeal.terms.atLimit o.context := by decide +kernel
    have hspan : leftSeal.terms.minSealSeconds * 1000 ≤
        ((sealSeen 10000 "2024-01-02" 11 11).timestampMs - (sealSeen 0 "2024-01-02" 11 11).timestampMs : Int) := by decide +kernel
    simp only [List.forall_mem_cons, List.not_mem_nil, false_implies, implies_true, and_true]
    refine ⟨⟨SealCase.shows (by decide +kernel) (by decide +kernel) (by decide +kernel) (by decide +kernel), ?_, by decide +kernel⟩,
      ⟨SealCase.shows (by decide +kernel) (by decide +kernel) (by decide +kernel) (by decide +kernel), ?_, by decide +kernel⟩⟩
    · exact ⟨[sealSeen 11000 "2024-01-03" 10 11], sealedMorning.reverse, [], _, _, rfl, hheld, rfl, rfl, hspan⟩
    · exact ⟨[], sealedMorning.reverse, [], _, _, rfl, hheld, rfl, rfl, hspan⟩

end ExitRules
end QuantX
