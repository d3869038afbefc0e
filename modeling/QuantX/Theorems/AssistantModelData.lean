import QuantX.Research.AssistantModelData

/-! What a fold trains on does not depend on ticks from its cut on, and folds do not overlap. Labels are those of first
    passages. -/

namespace QuantX
open Lib

/-! ### Labels -/

section Labels
variable {host : ModelDataHost} {bar : TModelFeatureBar} {spec : TLabelSpec} {cut deadline watermark watermark' previousMs previousOrdinal : Int}
  {entryCost : Option Rat} {before after after' path ticks ticks' : List TLabelTick} {x x' : TObservationLabel}

theorem follow_end (path : List TLabelTick) (previousMs previousOrdinal : Int) (entryCost : Option Rat) :
    (followPath bar spec deadline watermark previousMs previousOrdinal entryCost path).endMs = deadline ∨
      ∃ tick ∈ path, (followPath bar spec deadline watermark previousMs previousOrdinal entryCost path).endMs = tick.sourceMs := by
  induction path generalizing previousMs previousOrdinal entryCost with
  | nil =>
    left
    unfold followPath
    split
    · rfl
    · split <;> rfl
  | cons tick path ih =>
    have hrest : ∀ ms ordinal cost, (followPath bar spec deadline watermark ms ordinal cost path).endMs = deadline ∨
        ∃ t ∈ tick :: path, (followPath bar spec deadline watermark ms ordinal cost path).endMs = t.sourceMs := by
      intro ms ordinal cost
      rcases ih ms ordinal cost with h | ⟨t, ht, h⟩
      · exact .inl h
      · exact .inr ⟨t, List.mem_cons_of_mem _ ht, h⟩
    unfold followPath
    split
    · exact .inl rfl
    · split
      · exact hrest _ _ _
      · split
        · exact .inr ⟨tick, List.mem_cons_self .., rfl⟩
        · split
          · exact .inr ⟨tick, List.mem_cons_self .., rfl⟩
          · exact hrest _ _ _

theorem reliable_congr {tick : TLabelTick} (htick : tick.sourceMs ≤ deadline) (hwatermark : deadline ≤ watermark) (hwatermark' : deadline ≤ watermark') :
    tick.reliable bar spec watermark' previousMs previousOrdinal = tick.reliable bar spec watermark previousMs previousOrdinal := by
  have hleft : tick.sourceMs ≤ watermark' := by omega
  have hright : tick.sourceMs ≤ watermark := by omega
  simp only [TLabelTick.reliable, hleft, hright]

theorem follow_agree (hwatermark : deadline ≤ watermark) (hwatermark' : deadline ≤ watermark') (hbefore : ∀ tick ∈ before, tick.sourceMs ≤ deadline)
    (hafter : ∀ tick ∈ after, cut ≤ tick.sourceMs ∧ tick.sourceMs ≤ deadline) (hafter' : ∀ tick ∈ after', cut ≤ tick.sourceMs ∧ tick.sourceMs ≤ deadline)
    (hend : (followPath bar spec deadline watermark previousMs previousOrdinal entryCost (before ++ after)).endMs < cut) :
    followPath bar spec deadline watermark' previousMs previousOrdinal entryCost (before ++ after') =
      followPath bar spec deadline watermark previousMs previousOrdinal entryCost (before ++ after) := by
  induction before generalizing previousMs previousOrdinal entryCost with
  | nil =>
    -- a tick from the cut on puts the deadline there, too
    simp only [List.nil_append] at hend ⊢
    have hempty : after = [] ∧ after' = [] := by
      rcases @follow_end bar spec deadline watermark after previousMs previousOrdinal entryCost with h | ⟨tick, htick, h⟩
      · rw [h] at hend
        constructor
        · refine List.eq_nil_iff_forall_not_mem.mpr fun tick htick => ?_
          have := hafter tick htick
          omega
        · refine List.eq_nil_iff_forall_not_mem.mpr fun tick htick => ?_
          have := hafter' tick htick
          omega
      · have := hafter tick htick
        omega
    rw [hempty.1, hempty.2]
    have hleft : ¬watermark' < deadline := by omega
    have hright : ¬watermark < deadline := by omega
    simp only [followPath, hleft, hright]
  | cons tick before ih =>
    rw [List.forall_mem_cons] at hbefore
    have hreliable := @reliable_congr bar spec deadline watermark watermark' previousMs previousOrdinal tick hbefore.1 hwatermark hwatermark'
    simp only [List.cons_append, followPath, hreliable] at hend ⊢
    split at hend
    next => rfl
    next bid ask executableBuy _ =>
      split at hend
      next => exact ih hbefore.2 hend
      next cost =>
        split at hend
        next htarget => rw [if_pos htarget, if_pos htarget]
        next htarget =>
          rw [if_neg htarget, if_neg htarget]
          split at hend
          next hstop => rw [if_pos hstop, if_pos hstop]
          next hstop =>
            rw [if_neg hstop, if_neg hstop]
            exact ih hbefore.2 hend

def AgreeBelow (cut : Int) (ticks ticks' : List TLabelTick) : Prop :=
  (ticks.filter fun tick => tick.sourceMs < cut) = ticks'.filter fun tick => tick.sourceMs < cut

def BelowFirst (cut : Int) (ticks : List TLabelTick) : Prop := ticks.Pairwise fun a b => b.sourceMs < cut → a.sourceMs < cut

theorem BelowFirst.split (h : BelowFirst cut ticks) :
    ticks = (ticks.filter fun tick => tick.sourceMs < cut) ++ ticks.filter fun tick => ¬tick.sourceMs < cut := by
  induction ticks with
  | nil => rfl
  | cons tick ticks ih =>
    obtain ⟨hfirst, hrest⟩ := List.pairwise_cons.mp h
    by_cases htick : tick.sourceMs < cut
    · rw [List.filter_cons_of_pos (by simpa using htick), List.filter_cons_of_neg (by simpa using htick), List.cons_append, ← ih hrest]
    · have hnone : (ticks.filter fun tick => tick.sourceMs < cut) = [] := by
        refine List.filter_eq_nil_iff.mpr fun other hother hbelow => htick (hfirst other hother ?_)
        simpa using hbelow
      rw [List.filter_cons_of_neg (by simpa using htick), hnone, List.nil_append, List.filter_cons_of_pos (by simpa using htick)]
      rw [List.filter_eq_self.mpr]
      intro other hother
      simpa using fun hbelow => htick (hfirst other hother hbelow)

theorem labelPath_split (hagree : AgreeBelow cut ticks ticks') (h : BelowFirst cut ticks) (h' : BelowFirst cut ticks') (anchor deadline : Int) :
    ∃ before after after', labelPath anchor deadline ticks = before ++ after ∧ labelPath anchor deadline ticks' = before ++ after' ∧
      (∀ tick ∈ before, tick.sourceMs ≤ deadline) ∧ (∀ tick ∈ after, cut ≤ tick.sourceMs ∧ tick.sourceMs ≤ deadline) ∧
      ∀ tick ∈ after', cut ≤ tick.sourceMs ∧ tick.sourceMs ≤ deadline := by
  have hout : ∀ l : List TLabelTick, ∀ tick ∈ labelPath anchor deadline (l.filter fun tick => ¬tick.sourceMs < cut),
      cut ≤ tick.sourceMs ∧ tick.sourceMs ≤ deadline := by
    intro l tick htick
    simp only [labelPath, List.mem_filter, decide_eq_true_eq] at htick
    omega
  refine ⟨labelPath anchor deadline (ticks.filter fun tick => tick.sourceMs < cut),
    labelPath anchor deadline (ticks.filter fun tick => ¬tick.sourceMs < cut),
    labelPath anchor deadline (ticks'.filter fun tick => ¬tick.sourceMs < cut), ?_, ?_, ?_, hout ticks, hout ticks'⟩
  · rw [labelPath, labelPath, labelPath, ← List.filter_append, ← h.split]
  · rw [hagree, labelPath, labelPath, labelPath, ← List.filter_append, ← h'.split]
  · intro tick htick
    simp only [labelPath, List.mem_filter, decide_eq_true_eq] at htick
    omega

theorem labelObservation_ok (h : labelObservation host bar ticks spec watermark = .ok x) :
    x.observationId = host.observationId bar.featureBarId (host.fingerprint spec) ∧ x.anchorMs = bar.availableAtMs ∧
      x.label = (labelVerdict host bar ticks spec watermark).label ∧ x.labelEndMs = (labelVerdict host bar ticks spec watermark).endMs := by
  obtain ⟨-, h⟩ := require_bind.mp h
  obtain ⟨-, h⟩ := require_bind.mp h
  obtain ⟨pathHash, -, h⟩ := bind_eq_ok.mp h
  cases h
  exact ⟨rfl, rfl, rfl, rfl⟩

theorem label_agree (h : labelObservation host bar ticks spec watermark = .ok x) (h' : labelObservation host bar ticks' spec watermark' = .ok x')
    (hwatermark : bar.availableAtMs + spec.horizonMs ≤ watermark) (hwatermark' : bar.availableAtMs + spec.horizonMs ≤ watermark')
    (hagree : AgreeBelow cut ticks ticks') (hfirst : BelowFirst cut ticks) (hfirst' : BelowFirst cut ticks') (hend : x.labelEndMs < cut) :
    x'.label = x.label ∧ x'.labelEndMs = x.labelEndMs := by
  obtain ⟨-, -, hlabel, hlabelEnd⟩ := labelObservation_ok h
  obtain ⟨-, -, hlabel', hlabelEnd'⟩ := labelObservation_ok h'
  obtain ⟨before, after, after', hpath, hpath', hbefore, hafter, hafter'⟩ :=
    labelPath_split hagree hfirst hfirst' bar.availableAtMs (bar.availableAtMs + spec.horizonMs)
  have hverdict : labelVerdict host bar ticks' spec watermark' = labelVerdict host bar ticks spec watermark := by
    rw [hlabelEnd] at hend
    simp only [labelVerdict, hpath, hpath'] at hend ⊢
    split at hend
    next hsession =>
      rw [if_pos hsession, if_pos hsession]
      exact follow_agree hwatermark hwatermark' hbefore hafter hafter' hend
    next hsession => rw [if_neg hsession, if_neg hsession]
  rw [hlabel, hlabel', hlabelEnd, hlabelEnd', hverdict]
  exact ⟨rfl, rfl⟩

end Labels

namespace TObservationLabel
variable {x y z : TObservationLabel} {labels labels' : List TObservationLabel}

theorem le_iff : x.le y = true ↔ x.anchorMs < y.anchorMs ∨ x.anchorMs = y.anchorMs ∧ x.observationId ≤ y.observationId := by
  rw [le, decide_eq_true_iff]

theorem ordered_trans (hxy : x.le y = true) (hyz : y.le z = true) : x.le z = true := by
  rw [le_iff] at hxy hyz ⊢
  rcases hxy with hxy | ⟨hxy, hid⟩
  · rcases hyz with hyz | ⟨hyz, -⟩
    · exact .inl (by omega)
    · exact .inl (by omega)
  · rcases hyz with hyz | ⟨hyz, hid'⟩
    · exact .inl (by omega)
    · exact .inr ⟨by omega, le_trans hid hid'⟩

theorem ordered_total (x y : TObservationLabel) : (x.le y || y.le x) = true := by
  rw [Bool.or_eq_true, le_iff, le_iff]
  rcases lt_trichotomy x.anchorMs y.anchorMs with h | h | h
  · exact .inl (.inl h)
  · rcases le_total x.observationId y.observationId with hid | hid
    · exact .inl (.inr ⟨h, hid⟩)
    · exact .inr (.inr ⟨h.symm, hid⟩)
  · exact .inr (.inl h)

theorem ordered_antisymm (hxy : x.le y = true) (hyx : y.le x = true) : x.anchorMs = y.anchorMs ∧ x.observationId = y.observationId := by
  rw [le_iff] at hxy hyx
  have hanchor : x.anchorMs = y.anchorMs := by omega
  rcases hxy with hxy | ⟨-, hid⟩
  · omega
  · rcases hyx with hyx | ⟨-, hid'⟩
    · omega
    · exact ⟨hanchor, le_antisymm hid hid'⟩

theorem pairwise_ordered (labels : List TObservationLabel) : (labels.mergeSort le).Pairwise fun x y => x.le y = true :=
  @List.pairwise_mergeSort _ le (fun _ _ _ hxy hyz => ordered_trans hxy hyz) ordered_total labels

theorem ordered_perm (h : labels'.Perm labels) (hnodup : (labels.map observationId).Nodup) : labels'.mergeSort le = labels.mergeSort le := by
  refine List.Perm.eq_of_pairwise ?_ (pairwise_ordered labels') (pairwise_ordered labels)
    ((List.mergeSort_perm labels' _).trans (h.trans (List.mergeSort_perm labels _).symm))
  intro x y hx hy hxy hyx
  have hx' := h.mem_iff.mp ((List.mergeSort_perm labels' _).mem_iff.mp hx)
  have hy' := (List.mergeSort_perm labels _).mem_iff.mp hy
  exact List.inj_on_of_nodup_map hnodup hx' hy' (ordered_antisymm hxy hyx).2

def coordinate (x : TObservationLabel) : Int × String := (x.anchorMs, x.observationId)

theorem selected_congr {p : TObservationLabel → Bool} (h : (labels'.filter p).map coordinate = (labels.filter p).map coordinate) :
    ((labels'.mergeSort le).filter p).map observationId = ((labels.mergeSort le).filter p).map observationId := by
  have hperm : ∀ l : List TObservationLabel, (((l.mergeSort le).filter p).map coordinate).Perm ((l.filter p).map coordinate) :=
    fun l => ((List.mergeSort_perm l _).filter p).map coordinate
  have hsorted : ∀ l : List TObservationLabel, (((l.mergeSort le).filter p).map coordinate).Pairwise
      fun a b => a.1 < b.1 ∨ a.1 = b.1 ∧ a.2 ≤ b.2 := by
    intro l
    rw [List.pairwise_map]
    exact ((pairwise_ordered l).filter p).imp fun hle => le_iff.mp hle
  have heq : ((labels'.mergeSort le).filter p).map coordinate = ((labels.mergeSort le).filter p).map coordinate := by
    refine List.Perm.eq_of_pairwise ?_ (hsorted labels') (hsorted labels) ((hperm labels').trans (h ▸ (hperm labels).symm))
    rintro ⟨anchor, id⟩ ⟨anchor', id'⟩ - - hxy hyx
    simp only at hxy hyx
    have hanchor : anchor = anchor' := by omega
    rcases hxy with hxy | ⟨-, hid⟩
    · omega
    · rcases hyx with hyx | ⟨-, hid'⟩
      · omega
      · rw [hanchor, le_antisymm hid hid']
  have hids := congrArg (List.map Prod.snd) heq
  rw [List.map_map, List.map_map] at hids
  exact hids

end TObservationLabel

section Folds
variable {host : ModelDataHost} {labels labels' ordered : List TObservationLabel} {windows : List TWalkForwardWindow}
  {embargoMs maxHorizonMs finalStartMs previousEnd : Int} {splits : List TWalkForwardSplit}

structure FoldOf (ordered : List TObservationLabel) (embargoMs finalStartMs : Int) (window : TWalkForwardWindow) (split : TWalkForwardSplit) : Prop where
  bounds : window.trainStartMs < window.validationStartMs ∧ window.validationStartMs < window.validationEndMs ∧ window.validationEndMs ≤ finalStartMs
  train : split.trainIds = (ordered.filter (TObservationLabel.trains window embargoMs)).map TObservationLabel.observationId
  validation : split.validationIds = (ordered.filter (TObservationLabel.validates window finalStartMs)).map TObservationLabel.observationId

theorem walkForward_ok (h : walkForward host ordered embargoMs maxHorizonMs finalStartMs previousEnd windows = .ok splits) :
    List.Forall₂ (FoldOf ordered embargoMs finalStartMs) windows splits ∧ (∀ window ∈ windows, previousEnd ≤ window.validationStartMs) ∧
      windows.Pairwise fun a b => a.validationEndMs ≤ b.validationStartMs := by
  induction windows generalizing previousEnd splits with
  | nil =>
    cases h
    exact ⟨.nil, by simp, .nil⟩
  | cons window windows ih =>
    obtain ⟨⟨-, htrain, hvalidation, hfinal, hprevious⟩, h⟩ := require_bind.mp h
    obtain ⟨-, h⟩ := require_bind.mp h
    obtain ⟨rest, hrest, h⟩ := bind_eq_ok.mp h
    cases h
    obtain ⟨hall, hbounds, hpairs⟩ := ih hrest
    refine ⟨.cons ⟨⟨htrain, hvalidation, hfinal⟩, rfl, rfl⟩ hall, ?_, List.pairwise_cons.mpr ⟨hbounds, hpairs⟩⟩
    rw [List.forall_mem_cons]
    refine ⟨hprevious, fun later hlater => ?_⟩
    have := hbounds later hlater
    omega

structure AcceptedFolds (labels : List TObservationLabel) (windows : List TWalkForwardWindow) (embargoMs maxHorizonMs finalStartMs : Int)
    (splits : List TWalkForwardSplit) : Prop where
  embargo : 0 < maxHorizonMs ∧ maxHorizonMs ≤ embargoMs
  nodup : (labels.map TObservationLabel.observationId).Nodup
  intervals : ∀ x ∈ labels, x.anchorMs ≤ x.labelEndMs
  folds : List.Forall₂ (FoldOf (labels.mergeSort TObservationLabel.le) embargoMs finalStartMs) windows splits
  apart : windows.Pairwise fun a b => a.validationEndMs ≤ b.validationStartMs

theorem purgedWalkForward_ok (h : purgedWalkForward host labels windows embargoMs maxHorizonMs finalStartMs = .ok splits) :
    AcceptedFolds labels windows embargoMs maxHorizonMs finalStartMs splits := by
  obtain ⟨⟨hhorizon, hembargo, -⟩, h⟩ := require_bind.mp h
  obtain ⟨⟨hnodup, -⟩, h⟩ := require_bind.mp h
  obtain ⟨hintervals, h⟩ := require_bind.mp h
  obtain ⟨hfolds, -, hapart⟩ := walkForward_ok h
  refine ⟨⟨hhorizon, hembargo⟩, hnodup, fun x hx => ?_, hfolds, hapart⟩
  have hx := List.all_eq_true.mp hintervals x hx
  simp only [TObservationLabel.intervalValid, decide_eq_true_eq] at hx
  exact hx.2.2.1

theorem purgedWalkForward_perm (h : labels'.Perm labels) : purgedWalkForward host labels' windows embargoMs maxHorizonMs finalStartMs =
    purgedWalkForward host labels windows embargoMs maxHorizonMs finalStartMs := by
  have hids := (h.map TObservationLabel.observationId).nodup_iff
  have hspecs : (labels'.map TObservationLabel.specHash).dedup.length = (labels.map TObservationLabel.specHash).dedup.length :=
    (h.map TObservationLabel.specHash).dedup.length_eq
  have hintervals : labels'.all (TObservationLabel.intervalValid maxHorizonMs) = labels.all (TObservationLabel.intervalValid maxHorizonMs) := h.all_eq
  simp only [purgedWalkForward, hids, hspecs, hintervals]
  by_cases hnodup : (labels.map TObservationLabel.observationId).Nodup
  · rw [TObservationLabel.ordered_perm h hnodup]
  · simp only [hnodup, false_and, require, if_false]
    rfl

/-- A fold is sound where it trains on labels that end before its cut, and on none that it is validated on. -/
structure FoldSound (labels : List TObservationLabel) (embargoMs finalStartMs : Int) (window : TWalkForwardWindow) (split : TWalkForwardSplit) : Prop where
  disjoint : ∀ id ∈ split.trainIds, id ∉ split.validationIds
  purged : ∀ x ∈ labels, x.observationId ∈ split.trainIds → x.anchorMs ≤ x.labelEndMs ∧ x.labelEndMs < window.validationStartMs - embargoMs
  early : ∀ x ∈ labels, x.observationId ∈ split.trainIds ∨ x.observationId ∈ split.validationIds → x.labelEndMs < finalStartMs

theorem mem_selected (hnodup : (labels.map TObservationLabel.observationId).Nodup) {p : TObservationLabel → Bool} {x : TObservationLabel} (hx : x ∈ labels) :
    x.observationId ∈ ((labels.mergeSort TObservationLabel.le).filter p).map TObservationLabel.observationId ↔ p x = true := by
  simp only [List.mem_map, List.mem_filter, (List.mergeSort_perm labels _).mem_iff]
  constructor
  · rintro ⟨y, ⟨hy, hp⟩, hid⟩
    rw [← List.inj_on_of_nodup_map hnodup hy hx hid]
    exact hp
  · rintro hp
    exact ⟨x, ⟨hx, hp⟩, rfl⟩

theorem mem_selected_exists {p : TObservationLabel → Bool} {id : String}
    (h : id ∈ ((labels.mergeSort TObservationLabel.le).filter p).map TObservationLabel.observationId) :
    ∃ x ∈ labels, x.observationId = id ∧ p x = true := by
  obtain ⟨x, hx, rfl⟩ := List.mem_map.mp h
  obtain ⟨hx, hp⟩ := List.mem_filter.mp hx
  exact ⟨x, (List.mergeSort_perm labels _).mem_iff.mp hx, rfl, hp⟩

theorem trains_iff {window : TWalkForwardWindow} {x : TObservationLabel} : x.trains window embargoMs = true ↔ x.eligible = true ∧
    window.trainStartMs ≤ x.anchorMs ∧ x.anchorMs < window.validationStartMs ∧ x.labelEndMs < window.validationStartMs - embargoMs := by
  rw [TObservationLabel.trains, decide_eq_true_iff]

theorem validates_iff {window : TWalkForwardWindow} {x : TObservationLabel} : x.validates window finalStartMs = true ↔ x.eligible = true ∧
    window.validationStartMs ≤ x.anchorMs ∧ x.anchorMs < window.validationEndMs ∧ x.labelEndMs < min window.validationEndMs finalStartMs := by
  rw [TObservationLabel.validates, decide_eq_true_iff]

theorem AcceptedFolds.sound (h : AcceptedFolds labels windows embargoMs maxHorizonMs finalStartMs splits) :
    List.Forall₂ (FoldSound labels embargoMs finalStartMs) windows splits := by
  refine h.folds.imp fun window split hfold => ⟨fun id htrain hvalidation => ?_, fun x hx htrain => ?_, fun x hx hselected => ?_⟩
  · rw [hfold.train] at htrain
    rw [hfold.validation] at hvalidation
    obtain ⟨x, hx, rfl, htrains⟩ := mem_selected_exists htrain
    have hvalidates := (mem_selected h.nodup hx).mp hvalidation
    have hbefore := (trains_iff.mp htrains).2.2.1
    have hfrom := (validates_iff.mp hvalidates).2.1
    omega
  · rw [hfold.train, mem_selected h.nodup hx, trains_iff] at htrain
    exact ⟨h.intervals x hx, htrain.2.2.2⟩
  · obtain ⟨hhorizon, hembargo⟩ := h.embargo
    obtain ⟨-, hvalidation, hfinal⟩ := hfold.bounds
    rcases hselected with htrain | hvalidates
    · rw [hfold.train, mem_selected h.nodup hx, trains_iff] at htrain
      omega
    · rw [hfold.validation, mem_selected h.nodup hx, validates_iff] at hvalidates
      omega

theorem forall₂_pairwise {α β : Type} {R : α → β → Prop} {P : α → α → Prop} {Q : β → β → Prop} {l : List α} {l' : List β}
    (h : List.Forall₂ R l l') (hpairs : l.Pairwise P) (hstep : ∀ a b a' b', R a b → R a' b' → P a a' → Q b b') : l'.Pairwise Q := by
  induction h with
  | nil => exact .nil
  | cons hfirst hrest ih =>
    obtain ⟨hhead, htail⟩ := List.pairwise_cons.mp hpairs
    refine List.pairwise_cons.mpr ⟨fun b hb => ?_, ih htail⟩
    obtain ⟨a, ha, hab⟩ := (forall₂_each hrest).2 b hb
    exact hstep _ _ _ _ hfirst hab (hhead a ha)

theorem AcceptedFolds.apart_ids (h : AcceptedFolds labels windows embargoMs maxHorizonMs finalStartMs splits) :
    splits.Pairwise fun a b => ∀ id ∈ a.validationIds, id ∉ b.validationIds := by
  refine forall₂_pairwise h.folds h.apart fun window split window' split' hfold hfold' hwindows id hid hid' => ?_
  rw [hfold.validation] at hid
  rw [hfold'.validation] at hid'
  obtain ⟨x, hx, rfl, hvalidates⟩ := mem_selected_exists hid
  have hvalidates' := (mem_selected h.nodup hx).mp hid'
  have hbefore := (validates_iff.mp hvalidates).2.2.1
  have hfrom := (validates_iff.mp hvalidates').2.1
  omega

/-- Labels of the same bars with the same choices and two histories, each watched up to every deadline. -/
structure TwoRuns (host : ModelDataHost) (bars : List TModelFeatureBar) (spec : TLabelSpec) (history history' : TModelFeatureBar → List TLabelTick)
    (watermark watermark' : TModelFeatureBar → Int) (labels labels' : List TObservationLabel) : Prop where
  labelled : (bars.mapM fun bar => labelObservation host bar (history bar) spec (watermark bar)) = .ok labels
  labelled' : (bars.mapM fun bar => labelObservation host bar (history' bar) spec (watermark' bar)) = .ok labels'
  covered : ∀ bar ∈ bars, bar.availableAtMs + spec.horizonMs ≤ watermark bar ∧ bar.availableAtMs + spec.horizonMs ≤ watermark' bar

/-- Histories that agree below a cut, which come to the ticks below it first. -/
structure SamePast (bars : List TModelFeatureBar) (history history' : TModelFeatureBar → List TLabelTick) (cut : Int) : Prop where
  agree : ∀ bar ∈ bars, AgreeBelow cut (history bar) (history' bar)
  first : ∀ bar ∈ bars, BelowFirst cut (history bar)
  first' : ∀ bar ∈ bars, BelowFirst cut (history' bar)

structure SameTraining (labels labels' : List TObservationLabel) (split split' : TWalkForwardSplit) : Prop where
  ids : split'.trainIds = split.trainIds
  labels : ∀ x ∈ labels, ∀ x' ∈ labels', x.observationId ∈ split.trainIds → x'.observationId = x.observationId →
    x'.label = x.label ∧ x'.labelEndMs = x.labelEndMs

variable {bars : List TModelFeatureBar} {spec : TLabelSpec} {history history' : TModelFeatureBar → List TLabelTick}
  {watermark watermark' : TModelFeatureBar → Int} {cut : Int}

/-- Two labels of one observation, which are the same where one of them ends before the cut. -/
structure SameBefore (cut : Int) (x x' : TObservationLabel) : Prop where
  id : x'.observationId = x.observationId
  anchor : x'.anchorMs = x.anchorMs
  label : x.labelEndMs < cut ∨ x'.labelEndMs < cut → x'.label = x.label ∧ x'.labelEndMs = x.labelEndMs

theorem forall₂_join {α β γ : Type} {R : α → β → Prop} {S : α → γ → Prop} {T : β → γ → Prop} {l : List α} {m : List β} {n : List γ}
    (h : List.Forall₂ R l m) (h' : List.Forall₂ S l n) (hstep : ∀ a ∈ l, ∀ b c, R a b → S a c → T b c) : List.Forall₂ T m n := by
  induction h generalizing n with
  | nil =>
    cases h'
    exact .nil
  | cons hfirst hrest ih =>
    obtain ⟨hfirst', hrest'⟩ := h'
    exact .cons (hstep _ (List.mem_cons_self ..) _ _ hfirst ‹_›) (ih ‹_› fun a ha => hstep a (List.mem_cons_of_mem _ ha))

theorem TwoRuns.same (h : TwoRuns host bars spec history history' watermark watermark' labels labels') (hpast : SamePast bars history history' cut) :
    List.Forall₂ (SameBefore cut) labels labels' := by
  refine forall₂_join (mapM_eq_ok.mp h.labelled) (mapM_eq_ok.mp h.labelled') fun bar hbar x x' hx hx' => ?_
  obtain ⟨hid, hanchor, -⟩ := labelObservation_ok hx
  obtain ⟨hid', hanchor', -⟩ := labelObservation_ok hx'
  obtain ⟨hcovered, hcovered'⟩ := h.covered bar hbar
  refine ⟨hid'.trans hid.symm, hanchor'.trans hanchor.symm, ?_⟩
  rintro (hend | hend)
  · exact label_agree hx hx' hcovered hcovered' (hpast.agree bar hbar) (hpast.first bar hbar) (hpast.first' bar hbar) hend
  · obtain ⟨hlabel, hlabelEnd⟩ :=
      label_agree hx' hx hcovered' hcovered (hpast.agree bar hbar).symm (hpast.first' bar hbar) (hpast.first bar hbar) hend
    exact ⟨hlabel.symm, hlabelEnd.symm⟩

theorem SameBefore.trains {window : TWalkForwardWindow} {x x' : TObservationLabel} (h : SameBefore (window.validationStartMs - embargoMs) x x') :
    x'.trains window embargoMs = x.trains window embargoMs := by
  rw [Bool.eq_iff_iff, trains_iff, trains_iff, h.anchor]
  constructor
  · rintro ⟨heligible, hstart, hbefore, hend⟩
    obtain ⟨hlabel, hlabelEnd⟩ := h.label (.inr hend)
    rw [TObservationLabel.eligible, hlabel] at heligible
    rw [hlabelEnd] at hend
    exact ⟨heligible, hstart, hbefore, hend⟩
  · rintro ⟨heligible, hstart, hbefore, hend⟩
    obtain ⟨hlabel, hlabelEnd⟩ := h.label (.inl hend)
    rw [TObservationLabel.eligible, ← hlabel] at heligible
    rw [← hlabelEnd] at hend
    exact ⟨heligible, hstart, hbefore, hend⟩

theorem same_training {window : TWalkForwardWindow} {split split' : TWalkForwardSplit}
    (hsame : List.Forall₂ (SameBefore (window.validationStartMs - embargoMs)) labels labels')
    (hnodup : (labels.map TObservationLabel.observationId).Nodup) (hnodup' : (labels'.map TObservationLabel.observationId).Nodup)
    (hfold : FoldOf (labels.mergeSort TObservationLabel.le) embargoMs finalStartMs window split)
    (hfold' : FoldOf (labels'.mergeSort TObservationLabel.le) embargoMs finalStartMs window split') : SameTraining labels labels' split split' where
  ids := by
    rw [hfold.train, hfold'.train]
    refine TObservationLabel.selected_congr ?_
    clear hnodup hnodup' hfold hfold'
    induction hsame with
    | nil => rfl
    | @cons x x' _ _ hfirst _ ih =>
      rw [List.filter_cons, List.filter_cons, hfirst.trains]
      split
      · rw [List.map_cons, List.map_cons, ih, TObservationLabel.coordinate, TObservationLabel.coordinate, hfirst.anchor, hfirst.id]
      · exact ih
  labels := by
    intro x hx x' hx' htrain hid
    rw [hfold.train, mem_selected hnodup hx, trains_iff] at htrain
    obtain ⟨y, hy, hsame⟩ := (forall₂_each hsame).1 x hx
    obtain rfl : x' = y := List.inj_on_of_nodup_map hnodup' hx' hy (hid.trans hsame.id.symm)
    exact hsame.label (.inl htrain.2.2.2)

structure FoldsSound (labels : List TObservationLabel) (windows : List TWalkForwardWindow) (embargoMs finalStartMs : Int)
    (splits : List TWalkForwardSplit) : Prop where
  folds : List.Forall₂ (FoldSound labels embargoMs finalStartMs) windows splits
  apart : splits.Pairwise fun a b => ∀ id ∈ a.validationIds, id ∉ b.validationIds

theorem forall₂_at {α β : Type} {R : α → β → Prop} {l : List α} {l' : List β} (h : List.Forall₂ R l l') {i : Nat} {a : α} {b : β}
    (ha : l[i]? = some a) (hb : l'[i]? = some b) : R a b := by
  obtain ⟨hi, rfl⟩ := List.getElem?_eq_some_iff.mp ha
  obtain ⟨hi', rfl⟩ := List.getElem?_eq_some_iff.mp hb
  exact h.get hi hi'

/-- Accepted folds do not overlap, are independent of the order of the labels, and train on the same in two runs whose
    histories agree below the cut of the fold. -/
theorem purged_folds (hsplits : purgedWalkForward host labels windows embargoMs maxHorizonMs finalStartMs = .ok splits) :
    FoldsSound labels windows embargoMs finalStartMs splits ∧
      (∀ labels', labels'.Perm labels → purgedWalkForward host labels' windows embargoMs maxHorizonMs finalStartMs = .ok splits) ∧
      ∀ bars spec history history' watermark watermark' labels' splits', TwoRuns host bars spec history history' watermark watermark' labels labels' →
        purgedWalkForward host labels' windows embargoMs maxHorizonMs finalStartMs = .ok splits' →
        ∀ (i : Nat) window split split', windows[i]? = some window → splits[i]? = some split → splits'[i]? = some split' →
          SamePast bars history history' (window.validationStartMs - embargoMs) → SameTraining labels labels' split split' := by
  have haccepted := purgedWalkForward_ok hsplits
  refine ⟨⟨haccepted.sound, haccepted.apart_ids⟩, fun labels' hperm => (purgedWalkForward_perm hperm).trans hsplits, ?_⟩
  intro bars spec history history' watermark watermark' labels' splits' hruns hsplits' i window split split' hwindow hsplit hsplit' hpast
  have haccepted' := purgedWalkForward_ok hsplits'
  exact same_training (hruns.same hpast) haccepted.nodup haccepted'.nodup (forall₂_at haccepted.folds hwindow hsplit)
    (forall₂_at haccepted'.folds hwindow hsplit')

end Folds

/-! ### First passages -/

section FirstPassage
variable {host : ModelDataHost} {bar : TModelFeatureBar} {spec : TLabelSpec} {watermark watermark' deadline : Int} {cost : Rat}
  {ticks later : List TLabelTick} {tick : TLabelTick} {x : TObservationLabel}

/-- The ticks of a path that can be relied on, each after the one before it. -/
def reliablePrefix (bar : TModelFeatureBar) (spec : TLabelSpec) (watermark : Int) : Int → Int → List TLabelTick → List TLabelTick
  | _, _, [] => []
  | previousMs, previousOrdinal, tick :: path =>
    if (tick.reliable bar spec watermark previousMs previousOrdinal).isSome then
      tick :: reliablePrefix bar spec watermark tick.sourceMs tick.ordinal path
    else []

/-- The path is reliable to its end, and reaches the deadline without a gap. -/
def Covers (bar : TModelFeatureBar) (spec : TLabelSpec) (watermark deadline previousMs previousOrdinal : Int) (path : List TLabelTick) : Prop :=
  reliablePrefix bar spec watermark previousMs previousOrdinal path = path ∧ deadline ≤ watermark ∧
    deadline - (path.getLast?.map (·.sourceMs)).getD previousMs ≤ spec.maxGapMs

instance (previousMs previousOrdinal : Int) (path : List TLabelTick) :
    Decidable (Covers bar spec watermark deadline previousMs previousOrdinal path) := inferInstanceAs (Decidable (_ ∧ _))

/-- The barrier that the net return of a tick touches, and when. -/
def touch (spec : TLabelSpec) (cost : Rat) (tick : TLabelTick) : Option (String × Int) :=
  if spec.targetNetBps ≤ spec.netBps cost (tick.bid.getD 0) then some ("TARGET_FIRST", tick.sourceMs)
  else if spec.netBps cost (tick.bid.getD 0) ≤ -spec.stopNetBps then some ("STOP_FIRST", tick.sourceMs) else none

/-- The first touch after an entry, or none to the deadline. -/
def passage (spec : TLabelSpec) (deadline : Int) (cost : Rat) (covers : Prop) [Decidable covers] (ticks : List TLabelTick) :
    Option (String × Int) :=
  (ticks.findSome? (touch spec cost)).or (if covers then some ("NO_TOUCH", deadline) else none)

/-- The first passage of a path: its entry is the first reliable tick that can be bought. -/
def firstPassage (bar : TModelFeatureBar) (spec : TLabelSpec) (watermark deadline previousMs previousOrdinal : Int) (path : List TLabelTick) :
    Option (String × Int) :=
  match (reliablePrefix bar spec watermark previousMs previousOrdinal path).dropWhile fun tick => tick.executableBuy ≠ some true with
  | [] => none
  | entry :: rest => passage spec deadline (spec.entryCost (entry.ask.getD 0)) (Covers bar spec watermark deadline previousMs previousOrdinal path) rest

def TVerdict.known (v : TVerdict) : Option (String × Int) := if v.label = "UNAVAILABLE" then none else some (v.label, v.endMs)

theorem reliable_some {previousMs previousOrdinal : Int} {bid ask : Rat} {executableBuy : Bool}
    (h : tick.reliable bar spec watermark previousMs previousOrdinal = some (bid, ask, executableBuy)) :
    tick.bid = some bid ∧ tick.ask = some ask ∧ tick.executableBuy = some executableBuy := by
  unfold TLabelTick.reliable at h
  split at h
  next hbid hask hbuy =>
    split_ifs at h
    cases h
    exact ⟨hbid, hask, hbuy⟩
  next => cases h

theorem covers_cons {previousMs previousOrdinal : Int} (h : (tick.reliable bar spec watermark previousMs previousOrdinal).isSome)
    (path : List TLabelTick) : Covers bar spec watermark deadline previousMs previousOrdinal (tick :: path) ↔
      Covers bar spec watermark deadline tick.sourceMs tick.ordinal path := by
  have hlast : ((tick :: path).getLast?.map (·.sourceMs)).getD previousMs = (path.getLast?.map (·.sourceMs)).getD tick.sourceMs := by
    rw [List.getLast?_cons]
    cases path.getLast? <;> rfl
  rw [Covers, Covers, hlast, reliablePrefix, if_pos h, List.cons.injEq, and_iff_right rfl]

theorem follow_passage (path : List TLabelTick) (previousMs previousOrdinal : Int) :
    (followPath bar spec deadline watermark previousMs previousOrdinal (some cost) path).known =
      passage spec deadline cost (Covers bar spec watermark deadline previousMs previousOrdinal path)
        (reliablePrefix bar spec watermark previousMs previousOrdinal path) := by
  induction path generalizing previousMs previousOrdinal with
  | nil =>
    by_cases hend : watermark < deadline ∨ spec.maxGapMs < deadline - previousMs <;>
      simp [followPath, passage, Covers, reliablePrefix, TVerdict.known, hend] <;> omega
  | cons tick path ih =>
    cases hreliable : tick.reliable bar spec watermark previousMs previousOrdinal with
    | none => simp [followPath, passage, Covers, reliablePrefix, TVerdict.known, hreliable]
    | some prices =>
      obtain ⟨bid, ask, executableBuy⟩ := prices
      obtain ⟨hbid, -, -⟩ := reliable_some hreliable
      have hcovers := @covers_cons bar spec watermark deadline tick previousMs previousOrdinal (by simp [hreliable]) path
      have hrest := ih tick.sourceMs tick.ordinal
      simp only [passage] at hrest
      simp only [followPath, passage, hcovers, reliablePrefix, hreliable, Option.isSome_some, if_true, List.findSome?_cons, touch, hbid,
        Option.getD_some]
      by_cases htarget : spec.targetNetBps ≤ spec.netBps cost bid
      · simp [htarget, TVerdict.known]
      · by_cases hstop : spec.netBps cost bid ≤ -spec.stopNetBps
        · simp [htarget, hstop, TVerdict.known]
        · simpa [htarget, hstop] using hrest

theorem follow_firstPassage (path : List TLabelTick) (previousMs previousOrdinal : Int) :
    (followPath bar spec deadline watermark previousMs previousOrdinal none path).known =
      firstPassage bar spec watermark deadline previousMs previousOrdinal path := by
  induction path generalizing previousMs previousOrdinal with
  | nil => rfl
  | cons tick path ih =>
    cases hreliable : tick.reliable bar spec watermark previousMs previousOrdinal with
    | none => simp [followPath, firstPassage, reliablePrefix, TVerdict.known, hreliable]
    | some prices =>
      obtain ⟨bid, ask, executableBuy⟩ := prices
      obtain ⟨-, hask, hbuy⟩ := reliable_some hreliable
      have hcovers := @covers_cons bar spec watermark deadline tick previousMs previousOrdinal (by simp [hreliable]) path
      cases executableBuy with
      | false => simpa [followPath, firstPassage, reliablePrefix, hreliable, hbuy, hcovers] using ih tick.sourceMs tick.ordinal
      | true =>
        have hrest := @follow_passage bar spec watermark deadline (spec.entryCost ask) path tick.sourceMs tick.ordinal
        simpa [followPath, firstPassage, reliablePrefix, hreliable, hbuy, hask, hcovers] using hrest

theorem reliable_mono {previousMs previousOrdinal : Int} {prices : Rat × Rat × Bool} (hwatermark : watermark ≤ watermark')
    (h : tick.reliable bar spec watermark previousMs previousOrdinal = some prices) :
    tick.reliable bar spec watermark' previousMs previousOrdinal = some prices := by
  unfold TLabelTick.reliable at h ⊢
  split at h
  next =>
    split_ifs at h with hall
    obtain ⟨hcode, hgeneration, hhealthy, hordinal, horder, hknown, hrest⟩ := hall
    rwa [if_pos ⟨hcode, hgeneration, hhealthy, hordinal, horder, hknown.trans hwatermark, hrest⟩]
  next => cases h

/-- What a path shows it shows also with more ticks after it, as long as none comes before a deadline that is over. -/
theorem follow_append (hwatermark : watermark ≤ watermark') (hlater : deadline ≤ watermark → later = []) (path : List TLabelTick)
    (previousMs previousOrdinal : Int) (entryCost : Option Rat)
    (h : (followPath bar spec deadline watermark previousMs previousOrdinal entryCost path).label ≠ "UNAVAILABLE") :
    followPath bar spec deadline watermark' previousMs previousOrdinal entryCost (path ++ later) =
      followPath bar spec deadline watermark previousMs previousOrdinal entryCost path := by
  induction path generalizing previousMs previousOrdinal entryCost with
  | nil =>
    rw [followPath] at h
    split_ifs at h with hentry hend
    · simp at h
    · simp at h
    · rw [hlater (by omega), List.append_nil, followPath, followPath, if_neg hentry, if_neg hentry, if_neg hend, if_neg (by omega)]
  | cons tick path ih =>
    rw [followPath] at h
    cases hreliable : tick.reliable bar spec watermark previousMs previousOrdinal with
    | none => simp [hreliable] at h
    | some prices =>
      obtain ⟨bid, ask, executableBuy⟩ := prices
      simp only [hreliable] at h
      rw [List.cons_append, followPath, followPath, reliable_mono hwatermark hreliable, hreliable]
      cases entryCost with
      | none => exact ih _ _ _ h
      | some cost =>
        dsimp only at h ⊢
        split_ifs at h ⊢ with htarget hstop
        · rfl
        · rfl
        · exact ih _ _ _ h

def InOneSession (host : ModelDataHost) (bar : TModelFeatureBar) (spec : TLabelSpec) : Prop :=
  inSession host bar bar.availableAtMs ∧ inSession host bar (bar.availableAtMs + spec.horizonMs)

/-- The label and the end that a history of ticks shows of a bar. -/
def passageOf (bar : TModelFeatureBar) (spec : TLabelSpec) (watermark : Int) (ticks : List TLabelTick) : Option (String × Int) :=
  firstPassage bar spec watermark (bar.availableAtMs + spec.horizonMs) bar.availableAtMs (-1)
    (labelPath bar.availableAtMs (bar.availableAtMs + spec.horizonMs) ticks)

theorem known_iff {v : TVerdict} {label : String} {endMs : Int} (h : label ≠ "UNAVAILABLE") :
    v.known = some (label, endMs) ↔ v.label = label ∧ v.endMs = endMs := by
  unfold TVerdict.known
  split_ifs with hnone
  · simpa [hnone] using fun heq => absurd heq.symm h
  · simp

/-- Labels are those of first passages, and ticks beyond the watermark that are told afterwards change none of them. -/
theorem labels_first_passage (h : labelObservation host bar ticks spec watermark = .ok x) :
    (∀ label endMs, label ∈ ["TARGET_FIRST", "STOP_FIRST", "NO_TOUCH"] →
      (x.label = label ∧ x.labelEndMs = endMs ↔ InOneSession host bar spec ∧ passageOf bar spec watermark ticks = some (label, endMs))) ∧
    ∀ additional watermark' x', (∀ tick ∈ additional, watermark < tick.sourceMs) → watermark ≤ watermark' →
      labelObservation host bar (ticks ++ additional) spec watermark' = .ok x' → x.eligible →
        x'.label = x.label ∧ x'.labelEndMs = x.labelEndMs := by
  obtain ⟨-, -, hlabel, hend⟩ := labelObservation_ok h
  refine ⟨fun label endMs hmem => ?_, fun additional watermark' x' hbeyond hwatermark h' heligible => ?_⟩
  · have hknown : label ≠ "UNAVAILABLE" := by
      rintro rfl
      simp at hmem
    rw [hlabel, hend, ← known_iff hknown, labelVerdict, InOneSession, passageOf, ← follow_firstPassage]
    split_ifs with hsession
    · simp [hsession]
    · simp [hsession, TVerdict.known]
  · obtain ⟨-, -, hlabel', hend'⟩ := labelObservation_ok h'
    have hverdict : labelVerdict host bar (ticks ++ additional) spec watermark' = labelVerdict host bar ticks spec watermark := by
      have hknown : (labelVerdict host bar ticks spec watermark).label ≠ "UNAVAILABLE" := fun hnone => by
        simp [TObservationLabel.eligible, hlabel, hnone] at heligible
      dsimp only [labelVerdict] at hknown ⊢
      split_ifs at hknown ⊢ with hsession
      · rw [labelPath, List.filter_append]
        refine follow_append hwatermark (fun hover => List.filter_eq_nil_iff.mpr fun tick htick => ?_) _ _ _ _ hknown
        have := hbeyond tick htick
        simp
        omega
      · simp at hknown
    rw [hlabel', hend', hverdict, hlabel, hend]
    exact ⟨rfl, rfl⟩

end FirstPassage
/-! ### Runs on fixed inputs -/

def labelHost : ModelDataHost where
  localTime := fun t => ⟨"2026-01-05", (t / 60000 + 480).toNat % 1440⟩
  pathHash := fun _ _ => .ok "path"
  fingerprint := TLabelSpec.version
  observationId := fun bar spec => bar ++ spec
  coordinateHash := fun _ => "fold"

theorem labelVersion_ne : "v1" ≠ "" := by decide

theorem labelClocks : (0 : Int) < 3000 ∧ (0 : Int) < 1000 ∧ (1000 : Int) ≤ 3000 := by decide

theorem labelLots : (0 : Int) < 100 ∧ (100 : Int) % 100 = 0 := by decide

theorem labelCosts : (0 : Rat) ≤ 0 ∧ (0 : Rat) ≤ 0 ∧ (0 : Rat) ≤ 0 ∧ (0 : Rat) ≤ 0 ∧ (0 : Rat) ≤ 0 := by decide +kernel

theorem labelBarriers : (0 : Rat) < 20 ∧ (0 : Rat) < 20 ∧ (0 : Rat) < 10000 ∧ (20 : Rat) < 10000 := by decide +kernel

def labelSpec : TLabelSpec := ⟨"v1", 3000, 1000, 100, 20, 20, 0, 0, 0, 0, 0, labelVersion_ne, labelClocks, labelLots, labelCosts, labelBarriers⟩

/-- A bar of a minute of the morning that is available some time after its end. -/
def labelBar (featureBarId : String) (minute : Int) : TModelFeatureBar :=
  { featureBarId, instrumentCode := "600000.SH", intervalStartMs := 1767576600000 + minute * 60000
    intervalEndMs := 1767576660000 + minute * 60000, availableAtMs := 1767576660001 + minute * 60000
    marketSession := "2026-01-05:AM", streamId := "stream-1", continuityGeneration := "generation-1"
    sourceFenceRange := (1, 2), featureSchemaVersion := FEATURE_SCHEMA_VERSION, capabilityManifestVersion := "quotes-v1"
    featureValues := [0, 0, 0, 0, 0, 0], featureCoverage := 1, featureVectorHash := "vector"
    marketContextAsOfMs := 1767576600000, sectorContextAsOfMs := 1767576600000 }

def labelTick (sourceMs ordinal : Int) (price : Rat) : TLabelTick :=
  ⟨"600000.SH", sourceMs, ordinal, "generation-1", some price, some price, some true, true⟩

def labelBars : List TModelFeatureBar := [labelBar "a" 0, labelBar "b" 1, labelBar "c" 2]

def labelHistory (bar : TModelFeatureBar) : List TLabelTick :=
  [labelTick (bar.availableAtMs + 500) 0 10, labelTick (bar.availableAtMs + 1000) 1 11]

/-- The same ticks, and for one bar a tick after the cut. It comes first in the history that is out of order. -/
def lateHistory (first : Bool) (bar : TModelFeatureBar) : List TLabelTick :=
  let late := labelTick (bar.availableAtMs + 2500) 2 9
  if bar.featureBarId ≠ "b" then labelHistory bar else if first then late :: labelHistory bar else labelHistory bar ++ [late]

def labelWatermark (bar : TModelFeatureBar) : Int := bar.availableAtMs + 3000

def labelWindows : List TWalkForwardWindow := [⟨0, 1767576725001, 1767576800000⟩]

def labelsOf (history : TModelFeatureBar → List TLabelTick) : List TObservationLabel :=
  ((labelBars.mapM fun bar => labelObservation labelHost bar (history bar) labelSpec (labelWatermark bar)).toOption).getD []

def splitsOf (history : TModelFeatureBar → List TLabelTick) : List TWalkForwardSplit :=
  ((walkForward labelHost (labelsOf history) 3000 3000 1767576800000 (-1) labelWindows).toOption).getD []

theorem eq_ok_of_isOk {α : Type} {x : Except String (List α)} (h : x.isOk = true) : x = .ok (x.toOption.getD []) := by
  cases x with
  | error message => cases h
  | ok a => rfl

/-- What has to be evaluated of a history: its labels are in order, and its folds are accepted. -/
structure HistoryRuns (history : TModelFeatureBar → List TLabelTick) : Prop where
  labelled : (labelBars.mapM fun bar => labelObservation labelHost bar (history bar) labelSpec (labelWatermark bar)).isOk = true
  ordered : (labelsOf history).Pairwise fun x y => x.le y = true
  identities : ((labelsOf history).map TObservationLabel.observationId).Nodup ∧
    ((labelsOf history).map TObservationLabel.specHash).dedup.length = 1
  intervals : (labelsOf history).all (TObservationLabel.intervalValid 3000) = true
  folded : (walkForward labelHost (labelsOf history) 3000 3000 1767576800000 (-1) labelWindows).isOk = true

theorem HistoryRuns.splits {history : TModelFeatureBar → List TLabelTick} (h : HistoryRuns history) :
    purgedWalkForward labelHost (labelsOf history) labelWindows 3000 3000 1767576800000 = .ok (splitsOf history) := by
  refine require_bind.mpr ⟨by decide, require_bind.mpr ⟨h.identities, require_bind.mpr ⟨h.intervals, ?_⟩⟩⟩
  rw [List.mergeSort_of_pairwise h.ordered]
  exact eq_ok_of_isOk h.folded

theorem labelHistory_runs : HistoryRuns labelHistory := ⟨by decide +kernel, by decide +kernel, by decide +kernel, by decide +kernel, by decide +kernel⟩

theorem lateHistory_runs (first : Bool) : HistoryRuns (lateHistory first) := by
  cases first
  · exact ⟨by decide +kernel, by decide +kernel, by decide +kernel, by decide +kernel, by decide +kernel⟩
  · exact ⟨by decide +kernel, by decide +kernel, by decide +kernel, by decide +kernel, by decide +kernel⟩

theorem history_twoRuns (first : Bool) :
    TwoRuns labelHost labelBars labelSpec labelHistory (lateHistory first) labelWatermark labelWatermark (labelsOf labelHistory)
      (labelsOf (lateHistory first)) where
  labelled := eq_ok_of_isOk labelHistory_runs.labelled
  labelled' := eq_ok_of_isOk (lateHistory_runs first).labelled
  covered := by
    intro bar _
    exact ⟨le_refl _, le_refl _⟩

def labelWindow : TWalkForwardWindow := ⟨0, 1767576725001, 1767576800000⟩

theorem purged_folds_late : FoldsSound (labelsOf labelHistory) labelWindows 3000 1767576800000 (splitsOf labelHistory) ∧
    SameTraining (labelsOf labelHistory) (labelsOf (lateHistory false)) ⟨["av1", "bv1"], ["cv1"], "fold"⟩ ⟨["av1", "bv1"], ["cv1"], "fold"⟩ := by
  have hpast : SamePast labelBars labelHistory (lateHistory false) (labelWindow.validationStartMs - 3000) := by
    refine ⟨?_, ?_, ?_⟩
    · unfold AgreeBelow
      decide +kernel
    · unfold BelowFirst
      decide +kernel
    · unfold BelowFirst
      decide +kernel
  have hwindow : labelWindows[0]? = some labelWindow := rfl
  have hsplit : (splitsOf labelHistory)[0]? = some ⟨["av1", "bv1"], ["cv1"], "fold"⟩ := by decide +kernel
  have hsplit' : (splitsOf (lateHistory false))[0]? = some ⟨["av1", "bv1"], ["cv1"], "fold"⟩ := by decide +kernel
  obtain ⟨hsound, -, hcausal⟩ := purged_folds labelHistory_runs.splits
  exact ⟨hsound, hcausal _ _ _ _ _ _ _ _ (history_twoRuns false) (lateHistory_runs false).splits 0 _ _ _ hwindow hsplit hsplit' hpast⟩

/-- A tick from the cut on that comes before earlier ones makes the path unreliable, and the fold loses an observation. -/
theorem misplaced_tick_unlearned : ¬∀ (host : ModelDataHost) (bars : List TModelFeatureBar) (spec : TLabelSpec)
    (history history' : TModelFeatureBar → List TLabelTick) (watermark watermark' : TModelFeatureBar → Int) (labels labels' : List TObservationLabel)
    (windows : List TWalkForwardWindow) (embargoMs maxHorizonMs finalStartMs : Int) (splits splits' : List TWalkForwardSplit),
    (∀ bar ∈ bars, bar.status = "COMPLETE") → spec.horizonMs ≤ maxHorizonMs →
      TwoRuns host bars spec history history' watermark watermark' labels labels' →
      purgedWalkForward host labels windows embargoMs maxHorizonMs finalStartMs = .ok splits →
      purgedWalkForward host labels' windows embargoMs maxHorizonMs finalStartMs = .ok splits' →
      ∀ (i : Nat) window split split', windows[i]? = some window → splits[i]? = some split → splits'[i]? = some split' →
        (∀ bar ∈ bars, AgreeBelow (window.validationStartMs - embargoMs) (history bar) (history' bar)) → SameTraining labels labels' split split' := by
  intro hall
  have hagree : ∀ bar ∈ labelBars, AgreeBelow (labelWindow.validationStartMs - 3000) (labelHistory bar) (lateHistory true bar) := by
    unfold AgreeBelow
    decide +kernel
  have hwindow : labelWindows[0]? = some labelWindow := rfl
  have hsplit : (splitsOf labelHistory)[0]? = some ⟨["av1", "bv1"], ["cv1"], "fold"⟩ := by decide +kernel
  have hsplit' : (splitsOf (lateHistory true))[0]? = some ⟨["av1"], ["cv1"], "fold"⟩ := by decide +kernel
  have hsame := hall labelHost labelBars labelSpec _ _ _ _ _ _ _ 3000 3000 1767576800000 _ _ (by decide) (by decide) (history_twoRuns true)
    labelHistory_runs.splits (lateHistory_runs true).splits 0 _ _ _ hwindow hsplit hsplit' hagree
  simpa using hsame.ids

def labelOf (ticks : List TLabelTick) (watermark : Int) : Except String TObservationLabel :=
  labelObservation labelHost (labelBar "b" 1) ticks labelSpec watermark

def targetLabel : TObservationLabel :=
  ⟨"bv1", "b", "600000.SH", 1767576720001, 1767576721001, "v1", "TARGET_FIRST", "NET_TARGET_TOUCHED", "path", 3000⟩

theorem labelHistory_target : labelOf (labelHistory (labelBar "b" 1)) 1767576722001 = .ok targetLabel := by decide +kernel

theorem labels_first_passage_target : InOneSession labelHost (labelBar "b" 1) labelSpec ∧
    passageOf (labelBar "b" 1) labelSpec 1767576722001 (labelHistory (labelBar "b" 1)) = some ("TARGET_FIRST", 1767576721001) :=
  ((labels_first_passage labelHistory_target).1 "TARGET_FIRST" 1767576721001 (by simp)).mp ⟨rfl, rfl⟩

end QuantX
