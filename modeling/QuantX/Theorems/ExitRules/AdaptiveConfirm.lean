import QuantX.Lib.Window
import QuantX.Theorems.ExitRules.Adaptive
import QuantX.Theorems.ExitPlan.Run

/-! The window of the adaptive rule. It holds observations of one date in the order of their times, at most 420 seconds
    of them, and no counter that falls from one sample to the next. -/

namespace QuantX
open Lib

namespace ExitRules
variable {context : ExitEvaluationContext} {samples : List Sample}

def sampleOf (context : ExitEvaluationContext) : Sample := ⟨context.timestampMs, some (executablePrice context), context.cumulativeVolume⟩

def Sample.Follows (a b : Sample) : Prop := ∀ v ∈ a.volume, ∀ w ∈ b.volume, v ≤ w

structure WindowOk (samples : List Sample) : Prop where
  increasing : samples.Pairwise fun a b => a.timestampMs < b.timestampMs
  volumes : samples.IsChain Sample.Follows
  span : ∀ a ∈ samples, ∀ b ∈ samples, b.timestampMs - a.timestampMs ≤ 420000

theorem WindowOk.nil : WindowOk [] := ⟨.nil, .nil, by simp⟩

theorem WindowOk.later (h : WindowOk samples) {timestampMs : Int} (hnew : isNewObservation samples timestampMs = true) :
    ∀ sample ∈ samples, sample.timestampMs < timestampMs := by
  intro sample hsample
  cases hlast : samples.getLast? with
  | none =>
    rw [List.getLast?_eq_none_iff.mp hlast] at hsample
    cases hsample
  | some last =>
    rw [isNewObservation, hlast] at hnew
    have hbefore : last.timestampMs < timestampMs := by simpa using hnew
    obtain ⟨earlier, rfl⟩ := List.getLast?_eq_some_iff.mp hlast
    rcases List.mem_append.mp hsample with hmem | hmem
    · exact ((List.pairwise_append.mp h.increasing).2.2 sample hmem last (List.mem_singleton_self last)).trans hbefore
    · rw [List.mem_singleton.mp hmem]
      exact hbefore

def keptSamples (samples : List Sample) (context : ExitEvaluationContext) : List Sample :=
  if volumeReset samples context.cumulativeVolume then [] else samples

theorem pushSample_eq : pushSample samples context =
    (keptSamples samples context ++ [sampleOf context]).filter fun item => context.timestampMs - 420000 ≤ item.timestampMs := rfl

theorem keptSamples_cases (samples : List Sample) (context : ExitEvaluationContext) :
    keptSamples samples context = [] ∨ keptSamples samples context = samples := by
  unfold keptSamples
  split
  · exact .inl rfl
  · exact .inr rfl

theorem keptSamples_follows : ∀ last ∈ (keptSamples samples context).getLast?, last.Follows (sampleOf context) := by
  unfold keptSamples
  split
  · simp
  · rename_i hreset
    intro last hlast v hv w hw
    have hlast' : samples.getLast? = some last := hlast
    have hw' : context.cumulativeVolume = some w := hw
    have hv' : last.volume = some v := hv
    simpa [volumeReset, hlast', hv', hw'] using hreset

theorem WindowOk.push (h : WindowOk samples) (context : ExitEvaluationContext)
    (hnew : isNewObservation samples context.timestampMs = true) :
    WindowOk (pushSample samples context) ∧ (pushSample samples context).getLast? = some (sampleOf context) ∧
      (pushSample samples context).reverse.Sublist (sampleOf context :: samples.reverse) := by
  have hlater := h.later hnew
  have hkept : ∀ sample ∈ keptSamples samples context, sample ∈ samples := by
    rcases keptSamples_cases samples context with hnil | hall
    · simp [hnil]
    · simp [hall]
  have hsublist : (keptSamples samples context).Sublist samples := by
    rcases keptSamples_cases samples context with hnil | hall
    · rw [hnil]
      exact List.nil_sublist _
    · rw [hall]
  have hincreasing : (keptSamples samples context ++ [sampleOf context]).Pairwise fun a b => a.timestampMs < b.timestampMs := by
    rw [List.pairwise_append]
    refine ⟨h.increasing.sublist hsublist, List.pairwise_singleton _ _, fun a ha b hb => ?_⟩
    rw [List.mem_singleton.mp hb]
    exact hlater a (hkept a ha)
  have hvolumes : (keptSamples samples context ++ [sampleOf context]).IsChain Sample.Follows := by
    rw [List.isChain_append]
    refine ⟨?_, .singleton _, fun last hlast b hb => ?_⟩
    · rcases keptSamples_cases samples context with hnil | hall
      · rw [hnil]
        exact .nil
      · rw [hall]
        exact h.volumes
    · obtain rfl : sampleOf context = b := Option.some.inj hb
      exact keptSamples_follows last hlast
  -- What is too old stands at the front of the window.
  have hsuffix : pushSample samples context <:+ keptSamples samples context ++ [sampleOf context] := by
    have hsplit := filter_append_filter_not (p := fun item : Sample => item.timestampMs < context.timestampMs - 420000)
      (hincreasing.imp fun hlt hold => by
        simp only [decide_eq_true_eq] at hold ⊢
        omega)
    have hrecent : pushSample samples context = (keptSamples samples context ++ [sampleOf context]).filter fun item =>
        !decide (item.timestampMs < context.timestampMs - 420000) := by
      rw [pushSample_eq]
      refine List.filter_congr fun item _ => ?_
      rw [← decide_not, decide_eq_decide, not_lt]
    rw [hrecent]
    exact ⟨_, hsplit⟩
  refine ⟨⟨hincreasing.sublist hsuffix.sublist, hvolumes.suffix hsuffix, fun a ha b hb => ?_⟩, ?_, ?_⟩
  · have hold : context.timestampMs - 420000 ≤ a.timestampMs := by
      simpa using (List.mem_filter.mp ha).2
    have hbound : b.timestampMs ≤ context.timestampMs := by
      rcases List.mem_append.mp (hsuffix.subset hb) with hmem | hmem
      · exact (hlater b (hkept b hmem)).le
      · rw [List.mem_singleton.mp hmem]
        exact le_refl _
    omega
  · have hlast : [sampleOf context].filter (fun item => context.timestampMs - 420000 ≤ item.timestampMs) = [sampleOf context] := by
      simp [sampleOf]
    rw [pushSample_eq, List.filter_append, hlast, List.getLast?_concat]
  · have hreverse := (hsuffix.sublist).reverse
    rw [List.reverse_append, List.reverse_singleton, List.singleton_append] at hreverse
    exact hreverse.trans (hsublist.reverse.cons_cons _)

end ExitRules
end QuantX

namespace QuantX
open Lib

namespace ExitRules

abbrev FedMoment : Type := Moment (Dict String PyVal) Observation

def noted (m : FedMoment) : Bool :=
  (samplesOf (openWindowDay m.op.tradeDate m.before)).toOption.any (isNewObservation · m.op.timestampMs)

def returned (rule : ExitRuleSpec) (m : FedMoment) : Bool := (evaluated adaptiveVolumePriceTrailing rule m.before m.op).2.isOk

def seen (rule : ExitRuleSpec) (m : FedMoment) : Bool := noted m && priceAvailable m.op.context && returned rule m

/-- The evaluation found the position weak, and did not sell at once. -/
def Weak (rule : ExitRuleSpec) (m : FedMoment) : Prop :=
  ∃ confirmScore score : Int, intParameter rule "confirm_score" 3 = .ok confirmScore ∧
    m.after.get? "weak_score" = some (.int score) ∧ confirmScore ≤ score ∧
    m.after.get? "last_decision" ≠ some (.str "IMMEDIATE_EXIT")

abbrev onDay (tradeDate : String) (log : List FedMoment) : List FedMoment := log.takeWhile fun m => m.op.tradeDate = tradeDate

variable {rule : ExitRuleSpec} {samples : List Sample} {stored : Int} {own own' : Dict String PyVal} {log day : List FedMoment}
  {m : FedMoment} {tradeDate : String}

/-- The window holds observations of the date's evaluations, the last of them that was new at its end. -/
structure WindowKept (day : List FedMoment) (samples : List Sample) : Prop where
  ok : WindowOk samples
  taken : samples.reverse.Sublist (day.map fun m => sampleOf m.op.context)
  latest : samples.getLast?.map Sample.timestampMs = (day.filter noted).head?.map fun m => m.op.timestampMs
  times : (day.filter noted).Pairwise fun a b => b.op.timestampMs < a.op.timestampMs

theorem WindowKept.nil : WindowKept [] [] := ⟨.nil, by simp, rfl, .nil⟩

theorem WindowKept.later (h : WindowKept day samples) {timestampMs : Int} (hnew : isNewObservation samples timestampMs = true) :
    ∀ m ∈ day.filter noted, m.op.timestampMs < timestampMs := by
  have hlatest := h.latest
  have htimes := h.times
  cases hday : day.filter noted with
  | nil => simp
  | cons first rest =>
    rw [hday] at hlatest htimes
    obtain ⟨last, hlast, hsame⟩ := Option.map_eq_some_iff.mp hlatest
    have hfirst : first.op.timestampMs < timestampMs := hsame.symm.trans_lt (h.ok.later hnew last (List.mem_of_getLast? hlast))
    rintro m (_ | ⟨_, hm⟩)
    · exact hfirst
    · exact ((List.pairwise_cons.mp htimes).1 m hm).trans hfirst

theorem WindowKept.step (h : WindowKept day samples) (hnoted : noted m = isNewObservation samples m.op.timestampMs) :
    WindowKept (m :: day)
      (if isNewObservation samples m.op.timestampMs then pushSample samples m.op.context else samples) := by
  cases hnew : isNewObservation samples m.op.timestampMs with
  | false =>
    rw [hnew] at hnoted
    have hday : (m :: day).filter noted = day.filter noted := List.filter_cons_of_neg (by simp [hnoted])
    rw [if_neg Bool.false_ne_true]
    refine ⟨h.ok, h.taken.trans (List.sublist_cons_self _ _), ?_, ?_⟩
    · rw [hday, h.latest]
    · rw [hday]
      exact h.times
  | true =>
    rw [hnew] at hnoted
    have hday : (m :: day).filter noted = m :: day.filter noted := List.filter_cons_of_pos hnoted
    obtain ⟨hok, hlast, htaken⟩ := h.ok.push m.op.context hnew
    rw [if_pos rfl]
    refine ⟨hok, htaken.trans (h.taken.cons_cons _), ?_, ?_⟩
    · rw [hday, hlast]
      rfl
    · rw [hday]
      exact .cons (h.later hnew) h.times

structure CountKept (rule : ExitRuleSpec) (day : List FedMoment) (stored : Int) (own : Dict String PyVal) : Prop where
  nonneg : 0 ≤ stored
  counted : stored.toNat ≤ (day.filter (seen rule)).length
  weak : ∀ m ∈ (day.filter (seen rule)).take stored.toNat, Weak rule m
  unarmed : isArmed own = false → stored = 0

theorem CountKept.zero : CountKept rule day 0 own := ⟨le_refl _, Nat.zero_le _, by simp, fun _ => rfl⟩

theorem CountKept.unseen (h : CountKept rule day stored own) (hseen : seen rule m = false)
    (harmed : isArmed own' = false → isArmed own = false) : CountKept rule (m :: day) stored own' := by
  have hday : (m :: day).filter (seen rule) = day.filter (seen rule) := List.filter_cons_of_neg (by simp [hseen])
  refine ⟨h.nonneg, ?_, ?_, fun hfalse => h.unarmed (harmed hfalse)⟩
  · rw [hday]
    exact h.counted
  · rw [hday]
    exact h.weak

theorem CountKept.succ (h : CountKept rule day stored own) (hseen : seen rule m = true) (hweak : Weak rule m)
    (harmed : isArmed own' = true) : CountKept rule (m :: day) (stored + 1) own' := by
  have hday : (m :: day).filter (seen rule) = m :: day.filter (seen rule) := List.filter_cons_of_pos hseen
  have hsucc : (stored + 1).toNat = stored.toNat + 1 := by
    have hnonneg := h.nonneg
    omega
  refine ⟨by have hnonneg := h.nonneg; omega, ?_, ?_, fun hfalse => ?_⟩
  · rw [hday, hsucc, List.length_cons]
    exact Nat.succ_le_succ h.counted
  · rw [hday, hsucc, List.take_succ_cons]
    rintro x (_ | ⟨_, hx⟩)
    · exact hweak
    · exact h.weak x hx
  · rw [harmed] at hfalse
    cases hfalse

theorem CountKept.step (h : CountKept rule day stored own) {plan : ExitPlan} {scratch : RuleScratch}
    (hstep : AdaptiveStep rule plan m.op.context samples stored own m.after scratch
      (evaluated adaptiveVolumePriceTrailing rule m.before m.op).2)
    (hnoted : noted m = isNewObservation samples m.op.timestampMs) :
    ∃ count, m.after.get? "consecutive_weak" = some (.int count) ∧ CountKept rule (m :: day) count m.after := by
  have hlatch : isArmed m.after = false → isArmed own = false := by
    rw [hstep.armed, Bool.or_eq_false_iff]
    exact And.left
  rcases hstep.ends with ⟨⟨harmed, havailable⟩, hfollowed⟩ | ⟨hquiet, hcount, -⟩
  · generalize hresult : (evaluated adaptiveVolumePriceTrailing rule m.before m.op).2 = result at hfollowed
    cases hfollowed with
    | raised error _ hcount =>
      refine ⟨stored, hcount, h.unseen ?_ hlatch⟩
      simp [seen, returned, hresult, Except.isOk, Except.toBool]
    | immediate found _ hcount => exact ⟨0, hcount, .zero⟩
    | judged found score confirmScore _ count hconfirm _ hweak hcounted hkept _ hdecision =>
      refine ⟨count, hkept, ?_⟩
      rw [hcounted]
      cases hnew : isNewObservation samples m.op.context.timestampMs with
      | false =>
        rw [if_neg Bool.false_ne_true]
        exact h.unseen (by rw [seen, hnoted, hnew, Bool.false_and, Bool.false_and]) hlatch
      | true =>
        rw [if_pos rfl]
        have hseen : seen rule m = true := by
          rw [seen, hnoted, hnew, havailable, returned, hresult]
          rfl
        by_cases hscore : confirmScore ≤ score
        · rw [if_pos hscore]
          refine h.succ hseen ⟨confirmScore, score, hconfirm, hweak, hscore, ?_⟩ harmed
          rw [hdecision]
          split
          · simp
          · simp
        · rw [if_neg hscore]
          exact .zero
  · refine ⟨stored, hcount, ?_⟩
    cases harmed : isArmed m.after with
    | false =>
      rw [h.unarmed (hlatch harmed)]
      exact .zero
    | true =>
      have hunavailable : priceAvailable m.op.context = false := by simpa [harmed] using hquiet
      exact h.unseen (by rw [seen, hunavailable, Bool.and_false, Bool.false_and]) hlatch

/-! ### Runs -/

def AdaptiveKept (rule : ExitRuleSpec) : List FedMoment → Dict String PyVal → Prop
  | [], own => own = .empty
  | m :: log, own => ∃ samples stored, AdaptiveStored m.op.tradeDate samples stored own ∧
      WindowKept (onDay m.op.tradeDate (m :: log)) samples ∧ CountKept rule (onDay m.op.tradeDate (m :: log)) stored own

theorem AdaptiveKept.open (h : AdaptiveKept rule log own) (tradeDate : String) :
    ∃ samples stored, AdaptiveStored tradeDate samples stored (openWindowDay tradeDate own) ∧
      WindowKept (onDay tradeDate log) samples ∧ CountKept rule (onDay tradeDate log) stored (openWindowDay tradeDate own) := by
  cases log with
  | nil =>
    obtain rfl : own = .empty := h
    exact ⟨[], 0, openWindowDay_new ⟨by simp, by simp⟩ (by simp), .nil, .zero⟩
  | cons m log =>
    obtain ⟨samples, stored, hstored, hwindow, hcount⟩ := h
    by_cases hsame : m.op.tradeDate = tradeDate
    · subst hsame
      rw [hstored.open]
      exact ⟨samples, stored, hstored, hwindow, hcount⟩
    · have hday : onDay tradeDate (m :: log) = [] := List.takeWhile_cons_of_neg (by simpa using hsame)
      rw [hday]
      refine ⟨[], 0, openWindowDay_new hstored.numbers ?_, .nil, .zero⟩
      rw [hstored.date]
      simpa using hsame

theorem AdaptiveKept.step (h : AdaptiveKept rule log own) (o : Observation) :
    AdaptiveKept rule (⟨own, o, feed adaptiveVolumePriceTrailing rule own o⟩ :: log) (feed adaptiveVolumePriceTrailing rule own o) ∧
      ∃ samples stored, AdaptiveStep rule (o.planWith rule own) o.context samples stored (openWindowDay o.tradeDate own)
        (feed adaptiveVolumePriceTrailing rule own o) (evaluated adaptiveVolumePriceTrailing rule own o).1
        (evaluated adaptiveVolumePriceTrailing rule own o).2 := by
  obtain ⟨samples, stored, hstored, hwindow, hcount⟩ := h.open o.tradeDate
  have hown : openWindowDay o.context.tradeDate (ownState rule (o.planWith rule own)) = openWindowDay o.tradeDate own := by
    rw [ownState_planWith]
  obtain ⟨own', hstep⟩ := adaptive_step hown hstored.window hstored.numbers hstored.count
  have hfeed : feed adaptiveVolumePriceTrailing rule own o = own' := by
    unfold feed evaluated
    rw [hstep.ruleState, Dict.getD, Dict.get?_set_self]
    rfl
  rw [hfeed]
  have hnoted : noted ⟨own, o, own'⟩ = isNewObservation samples o.timestampMs := by
    rw [noted, samplesOf_stored hstored.window]
    rfl
  have hday : onDay o.tradeDate (⟨own, o, own'⟩ :: log) = ⟨own, o, own'⟩ :: onDay o.tradeDate log :=
    List.takeWhile_cons_of_pos (by simp)
  obtain ⟨count, hcounted, hkept⟩ := hcount.step (m := ⟨own, o, own'⟩) hstep hnoted
  refine ⟨⟨_, count, ⟨hstep.date.trans hstored.date, hstep.window, hcounted, hstep.numbers⟩, ?_, ?_⟩, samples, stored, hstep⟩
  · rw [hday]
    exact hwindow.step hnoted
  · rw [hday]
    exact hkept

abbrev FedAdaptive (rule : ExitRuleSpec) (log : List FedMoment) (own : Dict String PyVal) : Prop :=
  Fed adaptiveVolumePriceTrailing rule (fun _ _ _ => True) log own

theorem FedAdaptive.kept (h : FedAdaptive rule log own) : AdaptiveKept rule log own :=
  h.invariant (AdaptiveKept rule) (fun _ h => h) fun _ _ o ih _ => (ih.step o).1

theorem AdaptiveStep.confirmed {plan : ExitPlan} {context : ExitEvaluationContext} {scratch : RuleScratch}
    {result : Except String ExitRuleMatch} (h : AdaptiveStep rule plan context samples stored own own' scratch result)
    (htriggered : result.toOption.any (·.triggered) = true) (hdecision : own'.get? "last_decision" = some (.str "CONFIRMED_EXIT")) :
    ∃ confirmObservations count : Int, intParameter rule "confirm_observations" 2 = .ok confirmObservations ∧
      own'.get? "consecutive_weak" = some (.int count) ∧ max 1 confirmObservations ≤ count := by
  rcases h.ends with ⟨-, hfollowed⟩ | ⟨-, -, found, rfl, hfalse⟩
  · cases hfollowed with
    | raised => cases htriggered
    | immediate found himmediate =>
      rw [himmediate] at hdecision
      simp at hdecision
    | judged found _ _ confirmObservations count _ hread _ _ hkept htrigger =>
      have htrue : found.triggered = true := htriggered
      rw [htrigger] at htrue
      exact ⟨confirmObservations, count, hread, hkept, of_decide_eq_true htrue⟩
  · have htrue : found.triggered = true := htriggered
    rw [hfalse] at htrue
    cases htrue

def seenOn (rule : ExitRuleSpec) (tradeDate : String) (log : List FedMoment) : List FedMoment :=
  log.filter fun m => m.op.tradeDate = tradeDate && seen rule m

/-- The latest observations on a date stand in the stretch of the date that the history ends with. -/
theorem take_seenOn {n : Nat} (hn : n ≤ ((onDay tradeDate log).filter (seen rule)).length) :
    n ≤ (seenOn rule tradeDate log).length ∧ (seenOn rule tradeDate log).take n = ((onDay tradeDate log).filter (seen rule)).take n := by
  have hday : (onDay tradeDate log).filter (fun m => m.op.tradeDate = tradeDate && seen rule m) = (onDay tradeDate log).filter (seen rule) := by
    refine List.filter_congr fun m hm => ?_
    have hdate : decide (m.op.tradeDate = tradeDate) = true := List.all_eq_true.mp List.all_takeWhile m hm
    rw [hdate, Bool.true_and]
  have hsplit : seenOn rule tradeDate log = (onDay tradeDate log).filter (seen rule) ++
      (log.dropWhile fun m => m.op.tradeDate = tradeDate).filter fun m => m.op.tradeDate = tradeDate && seen rule m := by
    rw [← hday, ← List.filter_append, List.takeWhile_append_dropWhile]
    rfl
  rw [hsplit]
  exact ⟨hn.trans (by rw [List.length_append]; omega), List.take_append_of_le_length hn⟩

/-- Whatever is fed to the rule, its window holds new observations of one date in time order, at most 420 seconds of
    them, and no known volume below the one before. Where it confirms an exit, as many of the latest observations as it
    asks for were weak, at increasing times and none an immediate exit. Only a parameter that cannot be read raises. -/
theorem adaptive_window_confirmation (h : FedAdaptive rule log own) :
    (∀ m earlier, log = m :: earlier → ∃ samples, own.get? "sample_trade_date" = some (.str m.op.tradeDate) ∧
      own.get? "samples" = some (.list (samples.map Sample.toValue)) ∧ WindowOk samples ∧
      samples.reverse.Sublist ((onDate m.op.tradeDate (observations log)).map fun o => sampleOf o.context)) ∧
    (∀ later m earlier, log = later ++ m :: earlier → triggers adaptiveVolumePriceTrailing rule m.before m.op = true →
      m.after.get? "last_decision" = some (.str "CONFIRMED_EXIT") → ∃ confirmObservations,
        intParameter rule "confirm_observations" 2 = .ok confirmObservations ∧
        (max 1 confirmObservations).toNat ≤ (seenOn rule m.op.tradeDate (m :: earlier)).length ∧
        ((seenOn rule m.op.tradeDate (m :: earlier)).take (max 1 confirmObservations).toNat).Pairwise
          (fun a b => b.op.timestampMs < a.op.timestampMs) ∧
        ∀ x ∈ (seenOn rule m.op.tradeDate (m :: earlier)).take (max 1 confirmObservations).toNat, Weak rule x) ∧
    (Readable rule → ∀ m ∈ log, returned rule m = true) := by
  refine ⟨?_, ?_, fun hreadable => ?_⟩
  · rintro m earlier rfl
    obtain ⟨samples, stored, hstored, hwindow, -⟩ := FedAdaptive.kept h
    refine ⟨samples, hstored.date, hstored.window, hwindow.ok, ?_⟩
    rw [observations, onDate, List.takeWhile_map, List.map_map]
    exact hwindow.taken
  · refine h.each fun log own o hrun _ htriggers hdecision => ?_
    obtain ⟨hkept, samples, before, hstep⟩ := (FedAdaptive.kept hrun).step o
    obtain ⟨confirmObservations, count, hread, hcount, hle⟩ := hstep.confirmed htriggers hdecision
    obtain ⟨window, stored, hstored, hwindow, hcounted⟩ := hkept
    obtain rfl : stored = count := by
      have hsame := hstored.count.symm.trans hcount
      simpa using hsame
    have henough : (max 1 confirmObservations).toNat ≤ stored.toNat := Int.toNat_le_toNat hle
    obtain ⟨hlength, htake⟩ := take_seenOn (henough.trans hcounted.counted)
    refine ⟨confirmObservations, hread, hlength, ?_, ?_⟩
    · rw [htake]
      have hnoted : (onDay o.tradeDate (⟨own, o, feed adaptiveVolumePriceTrailing rule own o⟩ :: log)).filter (seen rule) =
          ((onDay o.tradeDate (⟨own, o, feed adaptiveVolumePriceTrailing rule own o⟩ :: log)).filter noted).filter (seen rule) := by
        rw [List.filter_filter]
        refine List.filter_congr fun m _ => ?_
        cases hm : noted m with
        | true => simp
        | false => simp [seen, hm]
      rw [hnoted]
      exact (hwindow.times.sublist List.filter_sublist).sublist (List.take_sublist _ _)
    · rw [htake]
      intro x hx
      exact hcounted.weak x ((List.take_sublist_take_left henough).subset hx)
  · refine h.moments fun log own o hrun _ => ?_
    obtain ⟨-, samples, before, hstep⟩ := (FedAdaptive.kept hrun).step o
    unfold returned
    rcases hstep.ends with ⟨-, hfollowed⟩ | ⟨-, -, found, hfound, -⟩
    · generalize (evaluated adaptiveVolumePriceTrailing rule own o).2 = result at hfollowed ⊢
      cases hfollowed with
      | raised _ hunreadable => exact absurd hreadable hunreadable
      | immediate => rfl
      | judged => rfl
    · rw [hfound]
      rfl

def followRule : ExitRuleSpec :=
  { manualExitRule with
    strategy := "ADAPTIVE_VOLUME_PRICE_TRAILING", ruleId := "follow"
    parameters := Dict.ofList [("arm_target_price", .int 10)] }

/-- An observation of a position with one percent of profit, some milliseconds into a morning. -/
def followSeen (ms : Int) (price : Rat) : Observation where
  plan := { template := manualTemplate, lastNetProfitPct := 1, peakNetProfitPct := 1 }
  context := { timestamp := ⟨"2024-01-02T10:00:00", "2024-01-02", 36000000000, 1704160800000 + ms⟩, currentPrice := price }

/-- A price that falls by half a percent twice, with an observation that comes again and one that comes too late. -/
def fallingPrice : List Observation :=
  [followSeen 0 10, followSeen 20000 (993 / 100), followSeen 20000 (993 / 100), followSeen 10000 (992 / 100),
    followSeen 40000 (989 / 100)]

def fallingRun : List FedMoment × Dict String PyVal := play (feed adaptiveVolumePriceTrailing followRule) .empty fallingPrice

theorem falling_price_confirmed : (∀ x ∈ (seenOn followRule "2024-01-02" fallingRun.1).take 2, Weak followRule x) ∧
    ((seenOn followRule "2024-01-02" fallingRun.1).take 2).map (fun x => x.op.timestampMs) = [1704160840000, 1704160820000] := by
  have hrun : FedAdaptive followRule fallingRun.1 fallingRun.2 :=
    @Run.of_play _ _ (· = .empty) (feed adaptiveVolumePriceTrailing followRule) .empty rfl fallingPrice
  have hlast : fallingRun.1.head?.any (fun m => triggers adaptiveVolumePriceTrailing followRule m.before m.op &&
      m.op.tradeDate = "2024-01-02" && (m.after.get? "last_decision").any (·.text "" = "CONFIRMED_EXIT")) = true := by decide +kernel
  refine ⟨?_, by decide +kernel⟩
  generalize fallingRun.1 = log at hrun hlast
  cases log with
  | nil => cases hlast
  | cons m earlier =>
    simp only [List.head?_cons, Option.any_some, Bool.and_eq_true, decide_eq_true_eq] at hlast
    obtain ⟨⟨htriggers, hdate⟩, hdecision⟩ := hlast
    obtain ⟨decision, hstored, htext⟩ := (Option.any_eq_true _ _).mp hdecision
    obtain rfl : decision = .str "CONFIRMED_EXIT" := PyVal.eq_str_of_text (of_decide_eq_true htext) (by decide)
    obtain ⟨confirmObservations, hread, -, -, hweak⟩ := (adaptive_window_confirmation hrun).2.1 [] m earlier rfl htriggers hstored
    have htwo : intParameter followRule "confirm_observations" 2 = .ok 2 := rfl
    obtain rfl : confirmObservations = 2 := Except.ok.inj (hread.symm.trans htwo)
    rw [hdate] at hweak
    exact hweak

end ExitRules
end QuantX
