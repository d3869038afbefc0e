import QuantX.Theorems.LiveBuckets.Instants
import QuantX.Theorems.LiveBuckets.Conserved

namespace QuantX
open Lib

def UsableIds (fills : List LiveAttributedFill) : Prop := (fills.map (·.fillId)).Nodup ∧ "" ∉ fills.map (·.fillId)

/-- Fills of one order, side, bucket, plan, price and instant that have the volume of one fill. -/
structure FillParts (fill : LiveAttributedFill) (parts : List LiveAttributedFill) : Prop where
  ne_nil : parts ≠ []
  same : ∀ part ∈ parts, part = { fill with fillId := part.fillId, volume := part.volume }
  positive : ∀ part ∈ parts, 0 < part.volume
  whole : (parts.map (·.volume)).sum = fill.volume

def renameFill (rename : String → String) (fill : LiveAttributedFill) : LiveAttributedFill :=
  { fill with fillId := rename fill.fillId }

/-- The same fills in another order, under other ids, or one of them in parts. Usable ids are not traded for others. -/
inductive Recut : List LiveAttributedFill → List LiveAttributedFill → Prop
  | permute {fills fills' : List LiveAttributedFill} (hperm : fills.Perm fills') : Recut fills fills'
  | rename {fills : List LiveAttributedFill} (rename : String → String)
      (hinj : ∀ f ∈ fills, ∀ g ∈ fills, rename f.fillId = rename g.fillId → f.fillId = g.fillId)
      (hids : UsableIds fills ↔ UsableIds (fills.map (renameFill rename))) : Recut fills (fills.map (renameFill rename))
  | split {fill : LiveAttributedFill} {parts first last : List LiveAttributedFill} (hparts : FillParts fill parts)
      (hids : UsableIds (first ++ fill :: last) ↔ UsableIds (first ++ parts ++ last)) :
      Recut (first ++ fill :: last) (first ++ parts ++ last)

def projected (result : Except String LiveBucketProjection) : Option ProjectedInstruments := result.toOption.map (·.instruments)

def ReplayInputs.withFills (inputs : ReplayInputs) (fills : List LiveAttributedFill) : ReplayInputs := { inputs with fills }

def todayBefore (calendar : ExchangeCalendar) (inputs : ReplayInputs) (seed : Dict String (Dict Bucket SeedBucket)) (code : String)
    (bucket : Bucket) (instant : Int) : Int :=
  (if calendar.date inputs.seedAsOf = calendar.date instant then (seedToday seed code bucket : Int) else 0) +
    enteredOn calendar.date ((inputs.fills.map entryOf).filter (·.instant < instant)) code bucket (calendar.date instant)

/-- What the fills of an instant hand over out of a bucket was there before the instant. -/
def HandOversBacked (calendar : ExchangeCalendar) (inputs : ReplayInputs) : Prop :=
  ∀ seed, validateSeed inputs.seed = .ok seed → ∀ fill ∈ inputs.fills, ∀ bucket, (entryOf fill).move.leaves bucket = true →
    handsOver ((inputs.fills.map entryOf).filter (·.instant = fill.occurredAt)) fill.instrumentCode bucket ≤
      todayBefore calendar inputs seed fill.instrumentCode bucket fill.occurredAt

variable {calendar : ExchangeCalendar} {host host' : ReplayHost} {hash : ReplayInputs → ProjectedInstruments → String}
  {inputs : ReplayInputs} {seed : Dict String (Dict Bucket SeedBucket)} {code : String} {fill f f' g : LiveAttributedFill}
  {fills fills' parts first last : List LiveAttributedFill} {seedAsOf asOf : Int}
variable {bucket : Bucket}

structure Alike (f f' : LiveAttributedFill) : Prop where
  same : f' = { f with fillId := f'.fillId, volume := f'.volume }
  positive : 0 < f.volume ↔ 0 < f'.volume

theorem Alike.refl (f : LiveAttributedFill) : Alike f f := ⟨rfl, Iff.rfl⟩

theorem Alike.symm (h : Alike f f') : Alike f' f := ⟨by rw [h.same], h.positive.symm⟩

theorem FillParts.alike (h : FillParts fill parts) : ∀ part ∈ parts, Alike fill part := by
  intro part hpart
  have hsome : 0 < (parts.map (·.volume)).sum := by
    obtain ⟨first, rest, rfl⟩ := List.exists_cons_of_ne_nil h.ne_nil
    have hrest : 0 ≤ (rest.map (·.volume)).sum := by
      refine List.sum_nonneg fun x hx => ?_
      obtain ⟨p, hp, rfl⟩ := List.mem_map.mp hx
      exact (h.positive p (List.mem_cons_of_mem first hp)).le
    have hfirst := h.positive first List.mem_cons_self
    rw [List.map_cons, List.sum_cons]
    omega
  exact ⟨h.same part hpart, iff_of_true (h.whole ▸ hsome) (h.positive part hpart)⟩

def Covered (fills fills' : List LiveAttributedFill) : Prop := ∀ f' ∈ fills', ∃ f ∈ fills, Alike f f'

theorem Recut.covered (h : Recut fills fills') : Covered fills fills' ∧ Covered fills' fills := by
  cases h with
  | permute hperm => exact ⟨fun f hf => ⟨f, hperm.mem_iff.mpr hf, .refl f⟩, fun f hf => ⟨f, hperm.mem_iff.mp hf, .refl f⟩⟩
  | rename rename hinj hids =>
    refine ⟨fun f' hf' => ?_, fun f hf => ?_⟩
    · obtain ⟨f, hf, rfl⟩ := List.mem_map.mp hf'
      exact ⟨f, hf, rfl, Iff.rfl⟩
    · exact ⟨renameFill rename f, List.mem_map_of_mem hf, rfl, Iff.rfl⟩
  | split hparts hids =>
    refine ⟨fun f' hf' => ?_, fun f hf => ?_⟩
    · rcases List.mem_append.mp hf' with hf' | hf'
      · rcases List.mem_append.mp hf' with hf' | hf'
        · exact ⟨f', List.mem_append_left _ hf', .refl f'⟩
        · exact ⟨_, List.mem_append_right _ List.mem_cons_self, hparts.alike f' hf'⟩
      · exact ⟨f', List.mem_append_right _ (List.mem_cons_of_mem _ hf'), .refl f'⟩
    · rcases List.mem_append.mp hf with hf | hf
      · exact ⟨f, List.mem_append_left _ (List.mem_append_left _ hf), .refl f⟩
      · rcases List.mem_cons.mp hf with rfl | hf
        · obtain ⟨part, rest, hcons⟩ := List.exists_cons_of_ne_nil hparts.ne_nil
          have hmem := hcons ▸ List.mem_cons_self
          exact ⟨part, List.mem_append_left _ (List.mem_append_right _ hmem), (hparts.alike part hmem).symm⟩
        · exact ⟨f, List.mem_append_right _ hf, .refl f⟩

theorem Recut.usableIds (h : Recut fills fills') : UsableIds fills ↔ UsableIds fills' := by
  cases h with
  | permute hperm =>
    have hids := hperm.map (·.fillId)
    exact and_congr hids.nodup_iff hids.mem_iff.not
  | rename rename hinj hids => exact hids
  | split hparts hids => exact hids

structure Valid (seedAsOf asOf : Int) (fills : List LiveAttributedFill) : Prop where
  each : ∀ fill ∈ fills, WellFormed seedAsOf asOf fill ∧ (moveOf fill).isSome = true
  agree : fills.Pairwise Agree

theorem Valid.usableIds (h : Valid seedAsOf asOf fills) : UsableIds fills := by
  refine ⟨List.pairwise_map.mpr (h.agree.imp fun hagree => hagree.id), fun hmem => ?_⟩
  obtain ⟨fill, hfill, hid⟩ := List.mem_map.mp hmem
  exact (h.each fill hfill).1.id hid

theorem Valid.perm (h : Valid seedAsOf asOf fills) (hperm : fills.Perm fills') : Valid seedAsOf asOf fills' where
  each fill hfill := h.each fill (hperm.mem_iff.mpr hfill)
  agree := (hperm.pairwise_iff Agree.symm).mp h.agree

theorem Valid.agrees (h : Valid seedAsOf asOf fills) (hf : f ∈ fills) (hg : g ∈ fills) :
    (f.instrumentCode = g.instrumentCode → f.occurredAt = g.occurredAt → f.side = g.side) ∧
      (f.clientOrderId = g.clientOrderId → sameMaterial (material f) (material g) = true) := by
  by_cases hsame : f = g
  · subst hsame
    exact ⟨fun _ _ => rfl, fun _ => sameMaterial_iff.mpr rfl⟩
  · have : Std.Symm Agree := ⟨fun _ _ => Agree.symm⟩
    have hagree := h.agree.forall hf hg hsame
    exact ⟨hagree.clock, hagree.material⟩

theorem Valid.of_covered (h : Valid seedAsOf asOf fills) (hcovered : Covered fills fills') (hids : UsableIds fills') :
    Valid seedAsOf asOf fills' where
  each f' hf' := by
    obtain ⟨f, hf, halike⟩ := hcovered f' hf'
    obtain ⟨hformed, hmoves⟩ := h.each f hf
    have hid : f'.fillId ≠ "" := fun hid => hids.2 (hid ▸ List.mem_map_of_mem hf')
    have hvolume := halike.positive.mp hformed.volume
    rw [halike.same]
    exact ⟨⟨hid, hformed.order, hformed.code, hformed.bucket, hformed.side, hvolume, hformed.price, hformed.since, hformed.past⟩, hmoves⟩
  agree := by
    refine List.Pairwise.imp_of_mem ?_ (List.pairwise_map.mp hids.1)
    intro f' g' hf' hg' hid
    obtain ⟨f, hf, halike⟩ := hcovered f' hf'
    obtain ⟨g, hg, halike'⟩ := hcovered g' hg'
    obtain ⟨hclock, hmaterial⟩ := h.agrees hf hg
    refine ⟨hid, ?_, ?_⟩
    · rw [halike.same, halike'.same]
      exact hclock
    · rw [halike.same, halike'.same]
      exact hmaterial

theorem Recut.valid_iff (h : Recut fills fills') : Valid seedAsOf asOf fills ↔ Valid seedAsOf asOf fills' := by
  obtain ⟨hcovered, hcovered'⟩ := h.covered
  exact ⟨fun hvalid => hvalid.of_covered hcovered (h.usableIds.mp hvalid.usableIds),
    fun hvalid => hvalid.of_covered hcovered' (h.usableIds.mpr hvalid.usableIds)⟩

theorem Valid.consistent (h : Valid seedAsOf asOf fills) : Consistent (fills.map entryOf) := by
  intro e he e' he' horder
  obtain ⟨f, hf, rfl⟩ := List.mem_map.mp he
  obtain ⟨g, hg, rfl⟩ := List.mem_map.mp he'
  obtain ⟨move, hmove⟩ := Option.isSome_iff_exists.mp (h.each f hf).2
  obtain ⟨move', hmove'⟩ := Option.isSome_iff_exists.mp (h.each g hg).2
  obtain ⟨hcode, hsame⟩ := moveOf_material ((h.agrees hf hg).2 horder) hmove hmove'
  exact ⟨hcode, by simp [entryOf, hmove, hmove', hsame]⟩

theorem FillParts.entries (h : FillParts fill parts) : Parts (entryOf fill) (parts.map entryOf) where
  ne_nil := by simpa using h.ne_nil
  same part hpart := by
    obtain ⟨f, hf, rfl⟩ := List.mem_map.mp hpart
    rw [h.same f hf]
    rfl
  whole := by
    have hsum : ∀ parts : List LiveAttributedFill, (∀ part ∈ parts, 0 < part.volume) →
        ((((parts.map entryOf).map (·.volume)).sum : Nat) : Int) = (parts.map (·.volume)).sum := by
      intro parts hpositive
      induction parts with
      | nil => rfl
      | cons part parts ih =>
        have hpart : ((entryOf part).volume : Int) = part.volume := Int.toNat_of_nonneg (hpositive part List.mem_cons_self).le
        simp only [List.map_cons, List.sum_cons, Nat.cast_add, hpart, ih fun p hp => hpositive p (List.mem_cons_of_mem part hp)]
    have hwhole := hsum parts h.positive
    rw [h.whole] at hwhole
    have hentry : (entryOf fill).volume = fill.volume.toNat := rfl
    omega

theorem ReplayInputs.withFills_ordered (inputs : ReplayInputs) (fills : List LiveAttributedFill) :
    (inputs.withFills fills).ordered.Perm fills := ordered_perm (inputs.withFills fills)

theorem Recut.interchange (h : Recut inputs.fills fills') (hvalid : Valid seedAsOf asOf inputs.fills) (date : Int → Int) :
    Interchange date (inputs.ordered.map entryOf) ((inputs.withFills fills').ordered.map entryOf) := by
  have hl : Consistent (inputs.ordered.map entryOf) := (hvalid.perm (ordered_perm inputs).symm).consistent
  have hsorted := ordered_timed inputs
  have hsorted' := ordered_timed (inputs.withFills fills')
  have hperm := ordered_perm inputs
  have hperm' := inputs.withFills_ordered fills'
  generalize inputs.ordered = ordered at hl hsorted hperm ⊢
  generalize (inputs.withFills fills').ordered = ordered' at hsorted' hperm' ⊢
  generalize inputs.fills = fills at h hvalid hperm
  cases h with
  | permute hpermuted => exact .of_perm hl hsorted hsorted' ((hperm.trans (hpermuted.trans hperm'.symm)).map entryOf)
  | rename rename hinj hids =>
    refine .of_perm hl hsorted hsorted' ((hperm.map entryOf).trans ?_)
    have hsame : (fills.map (renameFill rename)).map entryOf = fills.map entryOf := by
      rw [List.map_map]
      rfl
    rw [← hsame]
    exact (hperm'.map entryOf).symm
  | @split fill parts first last hparts hids =>
    -- The parts take the place of the fill among the ordered fills.
    obtain ⟨before, rest, rfl⟩ := List.append_of_mem (hperm.mem_iff.mpr (List.mem_append_right first List.mem_cons_self))
    have hothers : (before ++ rest).Perm (first ++ last) :=
      (List.perm_middle.symm.trans (hperm.trans List.perm_middle)).cons_inv
    have hcut : (before ++ parts ++ rest).Perm (first ++ parts ++ last) := by
      refine (List.perm_append_comm.append_right rest).trans ?_
      refine List.Perm.trans ?_ (List.perm_append_comm.append_right last)
      rw [List.append_assoc, List.append_assoc]
      exact hothers.append_left parts
    have hentries := hparts.entries
    have hcovered := (Recut.split hparts hids).covered.1
    have hvalid' : Valid seedAsOf asOf (first ++ parts ++ last) := (Recut.split hparts hids).valid_iff.mp hvalid
    have hl' : Consistent ((before ++ parts ++ rest).map entryOf) := (hvalid'.perm hcut.symm).consistent
    simp only [List.map_append, List.map_cons] at hl hsorted hl' ⊢
    have htimed : Timed Entry.instant (before.map entryOf ++ parts.map entryOf ++ rest.map entryOf) :=
      hsorted.replace fun part hpart => by rw [hentries.same part hpart]
    refine (Interchange.of_parts hentries _ _).trans (.of_perm hl' htimed hsorted' ?_)
    simpa only [List.map_append] using (hcut.trans hperm'.symm).map entryOf

theorem replays_iff : Replays calendar inputs seed ↔ inputs.seedAsOf ≤ inputs.asOf ∧ validateSeed inputs.seed = .ok seed ∧
    Valid inputs.seedAsOf inputs.asOf inputs.fills ∧
      (bookOf seed (calendar.date inputs.seedAsOf)).AdmitsAll calendar.date (inputs.ordered.map entryOf) := by
  constructor
  · rintro ⟨hfuture, hseed, heach, -, hagree, hadmits⟩
    exact ⟨hfuture, hseed, (Valid.mk heach hagree).perm (ordered_perm inputs), hadmits⟩
  · rintro ⟨hfuture, hseed, hvalid, hadmits⟩
    obtain ⟨heach, hagree⟩ := hvalid.perm (ordered_perm inputs).symm
    exact ⟨hfuture, hseed, heach, by simp, hagree, hadmits⟩

theorem today_before (hvalid : Valid inputs.seedAsOf inputs.asOf inputs.fills) (code : String) (bucket : Bucket) (instant : Int) :
    (((bookOf seed (calendar.date inputs.seedAsOf)).after calendar.date
      ((inputs.ordered.map entryOf).filter (·.instant < instant))).advance (calendar.date instant)).today code bucket =
      todayBefore calendar inputs seed code bucket instant := by
  have hmem : ∀ e ∈ (inputs.ordered.map entryOf).filter (·.instant < instant), ∃ fill ∈ inputs.fills, entryOf fill = e := by
    intro e he
    obtain ⟨fill, hfill, rfl⟩ := List.mem_map.mp (List.mem_of_mem_filter he)
    exact ⟨fill, (ordered_perm inputs).mem_iff.mp hfill, rfl⟩
  have hsum : enteredOn calendar.date ((inputs.ordered.map entryOf).filter (·.instant < instant)) code bucket (calendar.date instant) =
      enteredOn calendar.date ((inputs.fills.map entryOf).filter (·.instant < instant)) code bucket (calendar.date instant) :=
    ((((ordered_perm inputs).map entryOf).filter _).map _).sum_eq
  rw [Book.today_after ((ordered_timed inputs).filter _) calendar.date_mono, hsum]
  · rfl
  · intro e he
    obtain ⟨fill, hfill, rfl⟩ := hmem e he
    exact calendar.date_mono (hvalid.each fill hfill).1.since.le
  · intro e he
    exact calendar.date_mono (of_decide_eq_true (List.mem_filter.mp he).2).le

theorem HandOversBacked.backed (h : HandOversBacked calendar inputs) (hseed : validateSeed inputs.seed = .ok seed)
    (hvalid : Valid inputs.seedAsOf inputs.asOf inputs.fills) :
    (bookOf seed (calendar.date inputs.seedAsOf)).Backed calendar.date (inputs.ordered.map entryOf) := by
  intro e he bucket hleaves
  obtain ⟨fill, hfill, rfl⟩ := List.mem_map.mp he
  have hover := h seed hseed fill ((ordered_perm inputs).mem_iff.mp hfill) bucket hleaves
  have hsum : handsOver ((inputs.ordered.map entryOf).filter (·.instant = fill.occurredAt)) fill.instrumentCode bucket =
      handsOver ((inputs.fills.map entryOf).filter (·.instant = fill.occurredAt)) fill.instrumentCode bucket :=
    ((((ordered_perm inputs).map entryOf).filter _).map _).sum_eq
  rw [← today_before hvalid, ← hsum] at hover
  exact hover

theorem Recut.replays_iff (h : Recut inputs.fills fills') (hbacked : HandOversBacked calendar inputs) :
    Replays calendar inputs seed ↔ Replays calendar (inputs.withFills fills') seed := by
  rw [QuantX.replays_iff, QuantX.replays_iff]
  have hvalids : Valid inputs.seedAsOf inputs.asOf inputs.fills ↔ Valid inputs.seedAsOf inputs.asOf fills' := h.valid_iff
  refine and_congr_right fun _ => and_congr_right fun hseed => ?_
  refine Iff.trans (and_congr_right fun hvalid => ?_) (and_congr_left' hvalids)
  have hsound := bookOf_sound seed (calendar.date inputs.seedAsOf)
  have hsame := h.interchange hvalid calendar.date
  have hover := hbacked.backed hseed hvalid
  have hl : Consistent (inputs.ordered.map entryOf) := (hvalid.perm (ordered_perm inputs).symm).consistent
  have hl' : Consistent ((inputs.withFills fills').ordered.map entryOf) :=
    ((hvalids.mp hvalid).perm (inputs.withFills_ordered fills').symm).consistent
  have hsorted := ordered_timed inputs
  have hsorted' := ordered_timed (inputs.withFills fills')
  constructor
  · intro hrun
    exact Book.admitsAll_of_fits hl' hsorted' (hsame.fits (Book.fits_of_admitsAll hsound hl hsorted hrun)) (hsame.backed hover)
  · intro hrun
    exact Book.admitsAll_of_fits hl hsorted (hsame.symm.fits (Book.fits_of_admitsAll hsound hl' hsorted' hrun)) hover

theorem projected_of_replays (h : Replays calendar inputs seed) :
    projected (replayLiveBucketProjection calendar host hash inputs) =
      (projectBook (finalBook calendar inputs seed) inputs.brokerPositions (projectedCodes inputs seed)).toOption := by
  rcases replay_cases calendar host hash inputs with ⟨hno, -⟩ | ⟨seed', hreplays, hprojects⟩
  · exact absurd ⟨seed, h⟩ hno
  · obtain rfl : seed' = seed := Except.ok.inj (hreplays.validSeed.symm.trans h.validSeed)
    rw [hprojects]
    cases projectBook (finalBook calendar inputs seed') inputs.brokerPositions (projectedCodes inputs seed') <;> rfl

theorem projected_of_refused (h : ¬ ∃ seed, Replays calendar inputs seed) :
    projected (replayLiveBucketProjection calendar host hash inputs) = none := by
  rcases replay_cases calendar host hash inputs with ⟨-, e, he⟩ | ⟨seed, hreplays, -⟩
  · rw [he]
    rfl
  · exact absurd ⟨seed, hreplays⟩ h

theorem Recut.projectedCodes_eq (h : Recut inputs.fills fills') (seed : Dict String (Dict Bucket SeedBucket)) :
    projectedCodes inputs seed = projectedCodes (inputs.withFills fills') seed := by
  obtain ⟨hcovered, hcovered'⟩ := h.covered
  have hcodes : ∀ code, code ∈ inputs.fills.map (·.instrumentCode) ↔ code ∈ fills'.map (·.instrumentCode) := by
    intro code
    constructor
    · intro hmem
      obtain ⟨f, hf, rfl⟩ := List.mem_map.mp hmem
      obtain ⟨f', hf', halike⟩ := hcovered' f hf
      exact List.mem_map.mpr ⟨f', hf', by rw [halike.same]⟩
    · intro hmem
      obtain ⟨f', hf', rfl⟩ := List.mem_map.mp hmem
      obtain ⟨f, hf, halike⟩ := hcovered f' hf'
      exact List.mem_map.mpr ⟨f, hf, by rw [halike.same]⟩
  refine sortedSet_congr fun code => ?_
  simp [ReplayInputs.withFills, hcodes]

theorem Recut.projects_same (h : Recut inputs.fills fills') (hbacked : HandOversBacked calendar inputs) :
    projected (replayLiveBucketProjection calendar host hash inputs) =
      projected (replayLiveBucketProjection calendar host' hash (inputs.withFills fills')) := by
  by_cases hsome : ∃ seed, Replays calendar inputs seed
  · obtain ⟨seed, hreplays⟩ := hsome
    have hvalid := (QuantX.replays_iff.mp hreplays).2.2.1
    have hfinal : finalBook calendar inputs seed = finalBook calendar (inputs.withFills fills') seed := by
      rw [finalBook, (h.interchange hvalid calendar.date).after]
      rfl
    rw [projected_of_replays hreplays, projected_of_replays ((h.replays_iff hbacked).mp hreplays), hfinal, h.projectedCodes_eq]
    rfl
  · have hnone : ¬ ∃ seed, Replays calendar (inputs.withFills fills') seed := by
      rintro ⟨seed, hreplays⟩
      exact hsome ⟨seed, (h.replays_iff hbacked).mpr hreplays⟩
    rw [projected_of_refused hsome, projected_of_refused hnone]

/-! ## Ids that put the hand-overs first -/

def handsOverAt (code : String) (bucket : Bucket) (instant : Int) (fill : LiveAttributedFill) : Bool :=
  fill.occurredAt = instant && fill.instrumentCode = code && (entryOf fill).move.leaves bucket

def takenFirst (code : String) (bucket : Bucket) (instant : Int) (fill : LiveAttributedFill) : Bool :=
  fill.occurredAt < instant || handsOverAt code bucket instant fill

def promote (ids : List String) (id : String) : String := if id ∈ ids then "0" ++ id else "1" ++ id

theorem promote_injective (ids : List String) : Function.Injective (promote ids) := by
  intro a b h
  have htexts := congrArg String.toList h
  unfold promote at htexts
  split at htexts <;> split at htexts <;>
    simp only [String.toList_append, List.append_cancel_left_eq, String.toList_inj] at htexts
  · exact htexts
  · simp at htexts
  · simp at htexts
  · exact htexts

theorem promote_ne_empty (ids : List String) (id : String) : promote ids id ≠ "" := by
  intro h
  have htexts := congrArg String.toList h
  unfold promote at htexts
  split at htexts <;> simp at htexts

theorem mem_of_promote_le {ids : List String} {a b : String} (h : promote ids a ≤ promote ids b) (hb : b ∈ ids) : a ∈ ids := by
  by_contra ha
  rw [promote, promote, if_neg ha, if_pos hb, ← not_lt] at h
  refine h (String.lt_iff_toList_lt.mpr ?_)
  rw [String.toList_append, String.toList_append]
  exact List.Lex.rel (by decide)

theorem recut_promote (h : UsableIds fills) (ids : List String) : Recut fills (fills.map (renameFill (promote ids))) := by
  refine .rename (promote ids) (fun f _ g _ hsame => promote_injective ids hsame) (iff_of_true h ⟨?_, fun hmem => ?_⟩)
  · rw [List.map_map]
    have hids := h.1.map (promote_injective ids)
    rw [List.map_map] at hids
    exact hids
  · rw [List.map_map] at hmem
    obtain ⟨f, -, hempty⟩ := List.mem_map.mp hmem
    exact promote_ne_empty ids f.fillId hempty

theorem enteredOn_cons (date : Int → Int) (e : Entry) (l : List Entry) (code : String) (bucket : Bucket) (day : Int) :
    enteredOn date (e :: l) code bucket day = (if e.code = code ∧ date e.instant = day then e.brings bucket else 0) +
      enteredOn date l code bucket day := by
  simp [enteredOn]

theorem handsOver_cons (e : Entry) (l : List Entry) (code : String) (bucket : Bucket) : handsOver (e :: l) code bucket =
    (if e.code = code ∧ e.move.leaves bucket = true then (e.volume : Int) else 0) + handsOver l code bucket := by
  simp [handsOver]

theorem enteredOn_handedOver (date : Int → Int) (fills : List LiveAttributedFill) (code : String) (bucket : Bucket) (instant : Int) :
    enteredOn date ((fills.filter (takenFirst code bucket instant)).map entryOf) code bucket
        (date instant) =
      enteredOn date ((fills.map entryOf).filter (·.instant < instant)) code bucket (date instant) -
        handsOver ((fills.map entryOf).filter (·.instant = instant)) code bucket := by
  induction fills with
  | nil => simp [enteredOn, handsOver]
  | cons f fills ih =>
    have hinstant : (entryOf f).instant = f.occurredAt := rfl
    have hcode : (entryOf f).code = f.instrumentCode := rfl
    rcases lt_trichotomy f.occurredAt instant with hless | rfl | hmore
    · simp only [List.map_cons, List.filter_cons, hinstant, takenFirst, hless, decide_true, Bool.true_or, if_true, ne_of_lt hless, decide_false,
        Bool.false_eq_true, if_false, enteredOn_cons, ih]
      ring
    · by_cases hover : handsOverAt code bucket f.occurredAt f = true
      · simp only [handsOverAt, decide_true, Bool.true_and, Bool.and_eq_true, decide_eq_true_eq] at hover
        obtain ⟨rfl, hleaves⟩ := hover
        have hbrings : (entryOf f).brings bucket = -(entryOf f).volume := by
          rw [Entry.brings, Move.entering_of_leaves hleaves]
          ring
        simp only [List.map_cons, List.filter_cons, takenFirst, handsOverAt, hinstant, hcode, lt_irrefl, decide_false, decide_true, hleaves,
          Bool.true_and, Bool.or_true, if_true, Bool.false_eq_true, if_false, enteredOn_cons, handsOver_cons, and_self, hbrings] at ih ⊢
        rw [ih]
        ring
      · have hstays : ¬ (f.instrumentCode = code ∧ (entryOf f).move.leaves bucket = true) := by
          simpa [handsOverAt] using hover
        have hnot : handsOverAt code bucket f.occurredAt f = false := by simpa using hover
        simp only [List.map_cons, List.filter_cons, takenFirst, hinstant, hcode, lt_irrefl, decide_false, decide_true, Bool.false_or, hnot,
          Bool.false_eq_true, if_true, if_false, handsOver_cons, hstays, ih]
        ring
    · have hnot : handsOverAt code bucket instant f = false := by simp [handsOverAt, ne_of_gt hmore]
      simp [List.filter_cons, takenFirst, hinstant, not_lt.mpr hmore.le, hnot, ne_of_gt hmore, ih]

def handOverIds (fills : List LiveAttributedFill) (code : String) (bucket : Bucket) (instant : Int) : List String :=
  (fills.filter (handsOverAt code bucket instant)).map (·.fillId)

theorem mem_handOverIds {instant : Int} (h : UsableIds fills) (hf : f ∈ fills) :
    f.fillId ∈ handOverIds fills code bucket instant ↔ handsOverAt code bucket instant f = true := by
  constructor
  · intro hmem
    obtain ⟨g, hg, hid⟩ := List.mem_map.mp hmem
    obtain ⟨hg, hover⟩ := List.mem_filter.mp hg
    rwa [List.inj_on_of_nodup_map h.1 hg hf hid] at hover
  · intro hover
    exact List.mem_map_of_mem (List.mem_filter.mpr ⟨hf, hover⟩)

def promoteHandOvers (fills : List LiveAttributedFill) (code : String) (bucket : Bucket) (instant : Int) : List LiveAttributedFill :=
  fills.map (renameFill (promote (handOverIds fills code bucket instant)))

theorem takenFirst_of_le {instant : Int} (h : UsableIds fills) (hf : f ∈ fills) (hg : g ∈ fills)
    (hle : FillLe (renameFill (promote (handOverIds fills code bucket instant)) f)
      (renameFill (promote (handOverIds fills code bucket instant)) g)) (hfirst : takenFirst code bucket instant g = true) :
    takenFirst code bucket instant f = true := by
  have hfill : ∀ f, takenFirst code bucket instant f = true ↔ f.occurredAt < instant ∨ handsOverAt code bucket instant f = true := by
    simp [takenFirst]
  rw [hfill] at hfirst ⊢
  rcases hfirst with hbefore | hover
  · refine .inl (lt_of_le_of_lt ?_ hbefore)
    rcases hle with hless | ⟨hsame, -⟩
    · exact hless.le
    · exact hsame.le
  · have hat : g.occurredAt = instant := by
      simp only [handsOverAt, Bool.and_eq_true, decide_eq_true_eq] at hover
      exact hover.1.1
    rcases hle with hless | ⟨-, hid⟩
    · exact .inl (lt_of_lt_of_eq hless hat)
    · exact .inr ((mem_handOverIds h hf).mp (mem_of_promote_le hid ((mem_handOverIds h hg).mpr hover)))

/-- Where the replay still takes the fills with the hand-overs of an instant first, these are backed. -/
theorem handOvers_backed_of_promoted (hvalid : Valid inputs.seedAsOf inputs.asOf inputs.fills) {instant : Int}
    (h : Replays calendar (inputs.withFills (promoteHandOvers inputs.fills code bucket instant)) seed) :
    handsOver ((inputs.fills.map entryOf).filter (·.instant = instant)) code bucket ≤ todayBefore calendar inputs seed code bucket instant := by
  obtain ⟨-, -, -, hrun⟩ := replays_iff.mp h
  have hperm := inputs.withFills_ordered (promoteHandOvers inputs.fills code bucket instant)
  have hsorted := ordered_timed (inputs.withFills (promoteHandOvers inputs.fills code bucket instant))
  have hordered : (inputs.withFills (promoteHandOvers inputs.fills code bucket instant)).ordered.Pairwise FillLe :=
    List.pairwise_insertionSort FillLe _
  generalize (inputs.withFills (promoteHandOvers inputs.fills code bucket instant)).ordered = ordered at hrun hperm hsorted hordered
  have hmem : ∀ f' ∈ ordered, ∃ f ∈ inputs.fills, renameFill (promote (handOverIds inputs.fills code bucket instant)) f = f' :=
    fun f' hf' => List.mem_map.mp (hperm.mem_iff.mp hf')
  -- The hand-overs and what is before the instant come first, and the book still has what they take.
  have hfirst : ordered.filter (takenFirst code bucket instant) ++ ordered.filter (fun f => !takenFirst code bucket instant f) = ordered := by
    refine filter_append_filter_not (List.Pairwise.imp_of_mem ?_ hordered)
    intro f' g' hf' hg' hle hgfirst
    obtain ⟨f, hf, rfl⟩ := hmem f' hf'
    obtain ⟨g, hg, rfl⟩ := hmem g' hg'
    have hkept : takenFirst code bucket instant f = true := takenFirst_of_le hvalid.usableIds hf hg hle hgfirst
    exact hkept
  have hprefix : (ordered.filter (takenFirst code bucket instant)).map entryOf <+: ordered.map entryOf :=
    List.IsPrefix.map entryOf ⟨_, hfirst⟩
  have hsound := Book.advance_sound (Book.after_sound (bookOf_sound seed (calendar.date inputs.seedAsOf)) (Guarded.start hrun hprefix))
    (calendar.date instant)
  have hbefore : ∀ e ∈ (ordered.filter (takenFirst code bucket instant)).map entryOf, inputs.seedAsOf ≤ e.instant ∧ e.instant ≤ instant := by
    intro e he
    obtain ⟨f', hf', rfl⟩ := List.mem_map.mp he
    obtain ⟨hf', hkept⟩ := List.mem_filter.mp hf'
    obtain ⟨f, hf, rfl⟩ := hmem f' hf'
    simp only [takenFirst, Bool.or_eq_true, decide_eq_true_eq, handsOverAt, Bool.and_eq_true] at hkept
    refine ⟨(hvalid.each f hf).1.since.le, ?_⟩
    rcases hkept with hless | ⟨⟨hsame, -⟩, -⟩
    · exact hless.le
    · exact hsame.le
  have htoday : (((bookOf seed (calendar.date inputs.seedAsOf)).after calendar.date
      ((ordered.filter (takenFirst code bucket instant)).map entryOf)).advance (calendar.date instant)).today code bucket = _ :=
    Book.today_after (hsorted.sublist hprefix.sublist) calendar.date_mono (fun e he => calendar.date_mono (hbefore e he).1)
      fun e he => calendar.date_mono (hbefore e he).2
  have hentries : enteredOn calendar.date ((ordered.filter (takenFirst code bucket instant)).map entryOf) code bucket (calendar.date instant) =
      enteredOn calendar.date ((inputs.fills.filter (takenFirst code bucket instant)).map entryOf) code bucket (calendar.date instant) := by
    have hkept := ((hperm.filter (takenFirst code bucket instant)).map entryOf).map fun e =>
      if e.code = code ∧ calendar.date e.instant = calendar.date instant then e.brings bucket else 0
    rw [enteredOn, hkept.sum_eq, promoteHandOvers, List.filter_map, List.map_map, List.map_map, enteredOn, List.map_map]
    rfl
  have hnonneg := hsound.today code bucket
  rw [htoday, hentries, enteredOn_handedOver] at hnonneg
  have hstart : (bookOf seed (calendar.date inputs.seedAsOf)).today code bucket = seedToday seed code bucket := rfl
  have hday : (bookOf seed (calendar.date inputs.seedAsOf)).day = calendar.date inputs.seedAsOf := rfl
  unfold todayBefore
  omega

/-- Where every instant hands over only what was there before it, a replay sees neither the ids nor the cut of its
    fills. A replay that succeeds and sees neither has only such instants. -/
theorem replay_recut (calendar : ExchangeCalendar) (hash : ReplayInputs → ProjectedInstruments → String) (inputs : ReplayInputs) :
    (HandOversBacked calendar inputs → ∀ host host' fills', Recut inputs.fills fills' →
      projected (replayLiveBucketProjection calendar host hash inputs) =
        projected (replayLiveBucketProjection calendar host' hash (inputs.withFills fills'))) ∧
    ∀ host, (replayLiveBucketProjection calendar host hash inputs).isOk = true →
      (∀ host' fills', Recut inputs.fills fills' →
        projected (replayLiveBucketProjection calendar host hash inputs) =
          projected (replayLiveBucketProjection calendar host' hash (inputs.withFills fills'))) →
      HandOversBacked calendar inputs := by
  refine ⟨fun hbacked host host' fills' hrecut => hrecut.projects_same hbacked, fun host hok hsame seed hseed fill hfill bucket _ => ?_⟩
  have hsome : projected (replayLiveBucketProjection calendar host hash inputs) ≠ none := by
    cases hresult : replayLiveBucketProjection calendar host hash inputs with
    | error e =>
      rw [hresult] at hok
      cases hok
    | ok projection => simp [projected, Except.toOption]
  have hsomeReplays : ∃ seed, Replays calendar inputs seed := by
    by_contra hno
    exact hsome (projected_of_refused hno)
  obtain ⟨-, -, hvalid, -⟩ := replays_iff.mp hsomeReplays.choose_spec
  have hrecut := recut_promote hvalid.usableIds (handOverIds inputs.fills fill.instrumentCode bucket fill.occurredAt)
  have hagain := hsame host _ hrecut
  obtain ⟨seed', hreplays⟩ : ∃ seed', Replays calendar (inputs.withFills _) seed' := by
    by_contra hno
    rw [projected_of_refused hno] at hagain
    exact hsome hagain
  obtain rfl : seed' = seed := Except.ok.inj (hreplays.validSeed.symm.trans hseed)
  exact handOvers_backed_of_promoted hvalid hreplays

/-- The plan of the second sell needs what the first one brings into the core bucket. -/
def crossed : ReplayInputs where
  seed := seedField (0, 0) (100, 0) (200, 100)
  seedAsOf := 0
  asOf := 2
  fills := [⟨"1", "first", "600000.SH", "SELL", 100, some 10, 1, "swing", planField "swing" "core" "core" 100⟩,
    ⟨"2", "second", "600000.SH", "SELL", 100, some 10, 1, "core", planField "core" "swing" "swing" 100⟩]
  brokerPositions := Dict.empty.set "600000.SH" (.dict [("volume", .int 100), ("can_use_volume", .int 0)])

/-- With its ids exchanged the replay raises. -/
theorem crossed_sees_ids : ∃ fills', Recut crossed.fills fills' ∧
    projected (replayLiveBucketProjection chinaCalendar plainHost (fun _ _ => "") crossed) =
      some [("600000.SH", [(.lockedCore, ⟨0, 0, 0⟩), (.core, ⟨0, 0, 0⟩), (.swing, ⟨100, 100, 0⟩)])] ∧
    replayLiveBucketProjection chinaCalendar plainHost (fun _ _ => "") (crossed.withFills fills') =
      .error "LIVE_BUCKET_SUBSTITUTION_BUY_EVIDENCE_REQUIRED" := by
  refine ⟨_, .rename (fun id => if id = "1" then "2" else "1") (by decide) (by unfold UsableIds; decide), ?_, ?_⟩
  · decide +kernel
  · decide +kernel

theorem handedOver_backed : HandOversBacked chinaCalendar handedOver := by
  intro seed hseed fill hfill bucket hleaves
  obtain rfl := List.mem_singleton.mp hfill
  have htoday : (validateSeed handedOver.seed).map (fun seed => seedToday seed "600000.SH" .lockedCore) = .ok 200 := by decide +kernel
  rw [hseed] at htoday
  have hlocked : seedToday seed "600000.SH" .lockedCore = 200 := Except.ok.inj htoday
  have hbucket : bucket = .lockedCore := by
    revert hleaves
    cases bucket <;> decide +kernel
  subst hbucket
  have hseedDay : chinaCalendar.date handedOver.seedAsOf = chinaCalendar.date 1 := by decide
  have hover : handsOver ((handedOver.fills.map entryOf).filter (·.instant = 1)) "600000.SH" .lockedCore = 100 := by decide +kernel
  have hbefore : (handedOver.fills.map entryOf).filter (·.instant < 1) = [] := by decide
  rw [todayBefore, hbefore, hover, if_pos hseedDay, hlocked]
  decide

theorem replay_recut_handedOver : HandOversBacked chinaCalendar handedOver ∧ ∀ fills', Recut handedOver.fills fills' →
    projected (replayLiveBucketProjection chinaCalendar plainHost (fun _ _ => "") handedOver) =
      projected (replayLiveBucketProjection chinaCalendar plainHost (fun _ _ => "") (handedOver.withFills fills')) := by
  have hsame := (replay_recut chinaCalendar (fun _ _ => "") handedOver).1 handedOver_backed
  refine ⟨(replay_recut chinaCalendar (fun _ _ => "") handedOver).2 plainHost ?_ (hsame plainHost), hsame plainHost plainHost⟩
  decide +kernel

end QuantX
