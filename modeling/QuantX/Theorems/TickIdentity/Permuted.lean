import QuantX.Theorems.TickIdentity.Lossless

namespace QuantX
open Lib Tick

variable {host : TickHost} {sequences : List (List Tick)} {out ticks ticks' : List Tick} {group : TickGroup}
variable {items items' : List ((TickGroup × String) × Tick)}

def TickHost.Faithful (host : TickHost) : Prop := ∀ v w, host.dumps v = host.dumps w → PyVal.same v w = true

def SameTick (tick other : Tick) : Prop :=
  tick.time = other.time ∧ ∀ name, (tick.fields.get? name).map (PyVal.plain ∘ canonicalValue) = (other.fields.get? name).map (PyVal.plain ∘ canonicalValue)

/-- Both raise, or both return ticks that say the same. -/
def SameTicks : Except String (List Tick) → Except String (List Tick) → Prop
  | .ok out, .ok out' => List.Forall₂ SameTick out out'
  | .error _, .error _ => True
  | _, _ => False

theorem same_of_full (hfaithful : host.Faithful) {tick other : Tick}
    (h : tick.fullSnapshotPayload host = other.fullSnapshotPayload host) {name : String} (hname : name ∉ storageFields) :
    (tick.fields.get? name).map (PyVal.plain ∘ canonicalValue) = (other.fields.get? name).map (PyVal.plain ∘ canonicalValue) := by
  have hplain := PyVal.same_iff.mp (hfaithful _ _ h)
  simp only [PyVal.plain, PyVal.dict.injEq] at hplain
  have hlookup := congrArg (Dict.lookup name) hplain
  rw [PyVal.lookup_plainFields, PyVal.lookup_plainFields] at hlookup
  have hget : ∀ tick : Tick, Dict.lookup name ((rankedEntries id (tick.fields.filter (·.1 ∉ storageFields))).map fun field =>
      (field.1, canonicalValue field.2)) = (tick.fields.get? name).map canonicalValue := by
    intro tick
    refine Option.ext fun value => ?_
    have hnodup : (((rankedEntries id (tick.fields.filter (·.1 ∉ storageFields))).map fun field =>
        (field.1, canonicalValue field.2)).map Prod.fst).Nodup := by
      rw [List.map_map]
      exact rankedEntries_nodup id _
    rw [Dict.lookup_eq_some hnodup, List.mem_map, Option.map_eq_some_iff]
    have hfield : ∀ value, (tick.fields.filter (·.1 ∉ storageFields)).get? name = some value ↔ tick.fields.get? name = some value := by
      intro value
      rw [Dict.get?_filter]
      cases tick.fields.get? name <;> simp [hname]
    constructor
    · rintro ⟨field, hmem, heq⟩
      obtain ⟨rfl, rfl⟩ := Prod.mk.inj heq
      exact ⟨field.2, (hfield _).mp (mem_rankedEntries.mp hmem), rfl⟩
    · rintro ⟨raw, hraw, rfl⟩
      exact ⟨(name, raw), mem_rankedEntries.mpr ((hfield _).mpr hraw), rfl⟩
  rw [hget, hget, Option.map_map, Option.map_map] at hlookup
  exact hlookup

theorem full_of_key {tick other : Tick} (h : snapshotOrderKey host tick = snapshotOrderKey host other) :
    tick.fullSnapshotPayload host = other.fullSnapshotPayload host := by
  simp only [snapshotOrderKey, EmbeddingLike.apply_eq_iff_eq, Prod.mk.injEq] at h
  exact h.2.2.2.2.2

theorem stored_same (hfaithful : host.Faithful) {tick other : Tick} (h : snapshotOrderKey host tick = snapshotOrderKey host other)
    (ms : Int) (ordinal : Nat) (time : Int) : SameTick (tick.stored ms ordinal time) (other.stored ms ordinal time) := by
  refine ⟨rfl, fun name => ?_⟩
  rw [stored_fields, stored_fields]
  split
  · rfl
  next hordinal =>
    split
    · rfl
    next hsource =>
      refine same_of_full hfaithful (full_of_key h) fun hname => ?_
      simp only [storageFields, List.mem_cons, List.not_mem_nil, or_false] at hname
      rcases hname with rfl | rfl
      · exact hsource rfl
      · exact hordinal rfl

theorem numbered_perm (hfaithful : host.Faithful) (h : ticks.Perm ticks') :
    List.Forall₂ SameTick (numbered host group ticks) (numbered host group ticks') := by
  have hkeys : (sortBy (snapshotOrderKey host) ticks).map (snapshotOrderKey host) = (sortBy (snapshotOrderKey host) ticks').map (snapshotOrderKey host) :=
    sortBy_rank_perm h
  have hlength : (sortBy (snapshotOrderKey host) ticks).length = (sortBy (snapshotOrderKey host) ticks').length := by
    rw [sortBy_length, sortBy_length, h.length_eq]
  rw [numbered, numbered, List.forall₂_map_left_iff, List.forall₂_map_right_iff, List.forall₂_iff_get]
  refine ⟨by simpa using hlength, fun i hi hi' => ?_⟩
  simp only [List.get_eq_getElem, List.getElem_zipIdx]
  refine stored_same hfaithful ?_ _ _ _
  rw [List.length_zipIdx] at hi hi'
  have hat := congrArg (·[i]?) hkeys
  simpa [List.getElem?_eq_getElem hi, List.getElem?_eq_getElem hi'] using hat

theorem flatMap_forall₂ {α β γ δ : Type} {R : α → β → Prop} {Q : γ → δ → Prop} {f : α → List γ} {g : β → List δ} {l : List α} {l' : List β}
    (h : List.Forall₂ R l l') (hf : ∀ a b, R a b → List.Forall₂ Q (f a) (g b)) : List.Forall₂ Q (l.flatMap f) (l'.flatMap g) := by
  induction h with
  | nil => exact .nil
  | cons hfirst _ ih => exact List.rel_append (hf _ _ hfirst) ih

theorem grouped_perm (h : items.Perm items') (group : TickGroup) :
    (inGroup group (grouped items)).Perm (inGroup group (grouped items')) := inGroup_perm (h.map _) group

theorem layout_perm (hfaithful : host.Faithful) (h : items.Perm items') :
    List.Forall₂ SameTick ((layout host items).map Prod.snd) ((layout host items').map Prod.snd) := by
  rw [Fits.layout_ticks, Fits.layout_ticks]
  have hgroups : List.Forall₂ (fun entry entry' : TickGroup × List Tick => entry.1 = entry'.1 ∧ entry.2.Perm entry'.2)
      (rankedEntries TickGroup.rank (groupAll (grouped items))) (rankedEntries TickGroup.rank (groupAll (grouped items'))) := by
    refine rankedEntries_forall₂ rank_injective (fun group => ?_) fun group ticks ticks' hticks hticks' => ⟨rfl, ?_⟩
    · have hperm := grouped_perm h group
      rw [get?_groupAll, get?_groupAll]
      by_cases hempty : inGroup group (grouped items) = []
      · rw [hempty] at hperm
        rw [if_pos hempty, if_pos hperm.nil_eq.symm]
      · rw [if_neg hempty, if_neg fun hnil => hempty (hnil ▸ hperm).eq_nil]
        simp
    · rw [get?_groupAll] at hticks hticks'
      split at hticks
      next => cases hticks
      next =>
        split at hticks'
        next => cases hticks'
        next =>
          cases hticks
          cases hticks'
          exact grouped_perm h group
  refine flatMap_forall₂ hgroups fun entry entry' hentry => ?_
  rw [hentry.1]
  exact numbered_perm hfaithful hentry.2

theorem normalize_perm_ok (hfaithful : host.Faithful) (hperm : ticks.Perm ticks') (h : normalizeTicksLosslessly host ticks = .ok out) :
    ∃ out', normalizeTicksLosslessly host ticks' = .ok out' ∧ List.Forall₂ SameTick out out' := by
  obtain ⟨keyed, hkeyed, hfits, hout⟩ := merge_ok h
  obtain ⟨items, rest, hitems, hnil, rfl⟩ := List.forall₂_cons_left_iff.mp (mapM_eq_ok.mp hkeyed)
  cases hnil
  have hone : ∀ items : List ((TickGroup × String) × Tick), (Retained.retainAll [items]).items = items := fun items => Retained.retain_first items
  rw [hone] at hfits hout
  obtain ⟨items', hitems', hitemsPerm⟩ := List.perm_comp_forall₂ hperm.symm (mapM_eq_ok.mp hitems)
  have hfits' : Fits host items' :=
    ⟨fun item hitem => hfits.keyed item (hitemsPerm.mem_iff.mp hitem), fun item hitem => hfits.valid item (hitemsPerm.mem_iff.mp hitem),
      fun group => (grouped_perm hitemsPerm group).length_eq.trans_le (hfits.room group)⟩
  have hkeyed' : [ticks'].mapM (·.mapM (Tick.keyed host)) = .ok [items'] := by
    rw [List.mapM_cons]
    exact bind_eq_ok.mpr ⟨items', mapM_eq_ok.mpr hitems', rfl⟩
  refine ⟨_, merge_of_fits hkeyed' (by rwa [hone]), ?_⟩
  rw [hone, hout]
  exact layout_perm hfaithful hitemsPerm.symm

theorem normalize_perm (hfaithful : host.Faithful) (hperm : ticks.Perm ticks') :
    SameTicks (normalizeTicksLosslessly host ticks) (normalizeTicksLosslessly host ticks') := by
  cases hmerged : normalizeTicksLosslessly host ticks with
  | ok out =>
    obtain ⟨out', hmerged', hsame⟩ := normalize_perm_ok hfaithful hperm hmerged
    rw [hmerged']
    exact hsame
  | error message =>
    cases hmerged' : normalizeTicksLosslessly host ticks' with
    | error message' => exact trivial
    | ok out' =>
      obtain ⟨out, hagain, -⟩ := normalize_perm_ok hfaithful hperm.symm hmerged'
      cases hmerged.symm.trans hagain

def InvalidSource (host : TickHost) (tick : Tick) : Prop := ∀ ms, tick.sourceTimeMs host = .ok ms → ¬ ValidSourceTime ms

/-- More ticks in a group than ordinals, each key as often as the sequence has it that has it most often. -/
def Overfull (host : TickHost) (sequences : List (List Tick)) : Prop :=
  ∃ items : List ((TickGroup × String) × Tick),
    (∀ key, occurrences key items = (sequences.map fun sequence => sequence.countP (hasKey host key)).foldl max 0) ∧
      ∃ group, HISTORICAL_TICK_ORDINALS_PER_MILLISECOND < (inGroup group (grouped items)).length

theorem merge_error {message : String} (h : mergeTicksLosslessly host sequences = .error message) :
    (∃ sequence ∈ sequences, ∃ tick ∈ sequence, InvalidSource host tick) ∨ Overfull host sequences := by
  cases hkeyed : sequences.mapM (·.mapM (Tick.keyed host)) with
  | error message' =>
    obtain ⟨sequence, hsequence, herror⟩ := mapM_eq_error hkeyed
    obtain ⟨tick, htick, herror⟩ := mapM_eq_error herror
    refine .inl ⟨sequence, hsequence, tick, htick, fun ms hms _ => ?_⟩
    rw [Tick.keyed, Tick.identityKey, hms] at herror
    cases herror
  | ok keyed =>
    by_contra hvalid
    push Not at hvalid
    obtain ⟨hsource, hroom⟩ := hvalid
    have hoccurrences : ∀ key, occurrences key (Retained.retainAll keyed).items =
        (sequences.map fun sequence => sequence.countP (hasKey host key)).foldl max 0 := by
      intro key
      obtain ⟨hcounts, hitems⟩ := Retained.retainAll_counts keyed key
      rw [hitems, hcounts, sequences_occurrences hkeyed]
    have horigin : ∀ item ∈ (Retained.retainAll keyed).items, item.2.identityKey host = .ok item.1 ∧
        ∃ sequence ∈ sequences, item.2 ∈ sequence := by
      intro item hitem
      obtain ⟨items, hitems, hin⟩ := Retained.mem_retainAll hitem
      obtain ⟨sequence, hsequence, hkeys⟩ := (mapM_each hkeyed).2 items hitems
      refine ⟨(keyed_mapM hkeys).1 item hin, sequence, hsequence, ?_⟩
      rw [(keyed_mapM hkeys).2]
      exact List.mem_map.mpr ⟨item, hin, rfl⟩
    have hfits : Fits host (Retained.retainAll keyed).items := by
      refine ⟨fun item hitem => (horigin item hitem).1, fun item hitem => ?_, fun group => ?_⟩
      · obtain ⟨hkey, sequence, hsequence, htick⟩ := horigin item hitem
        obtain ⟨ms, hms, heq⟩ := bind_eq_ok.mp hkey
        have hground : item.1.1.sourceTimeMs = ms := by rw [← Except.ok.inj heq]
        by_contra hinvalid
        refine hsource sequence hsequence item.2 htick fun other hother => ?_
        cases hms.symm.trans hother
        rwa [hground] at hinvalid
      · by_contra hmore
        exact hroom ⟨_, hoccurrences, group, by omega⟩
    cases h.symm.trans (merge_of_fits hkeyed hfits)

theorem tickQueryEndTime_covers {endTime queryEnd time : Int} (h : tickQueryEndTime (some endTime) = some queryEnd) :
    time ≤ queryEnd ↔ time / 1000 ≤ endTime / 1000 := by
  have hend : endTime / 1000 * 1000 + 999 = queryEnd := Option.some.inj h
  omega

section Example

private def scalarText : PyVal → String
  | .str s => "\"" ++ s ++ "\""
  | .int n => toString n
  | .bool b => if b then "true" else "false"
  | _ => "null"

private def jsonText : PyVal → String
  | .dict fields => "\x7b" ++ String.intercalate "," (fields.map fun field => "\"" ++ field.1 ++ "\":" ++ scalarText field.2) ++ "\x7d"
  | value => scalarText value

private def plainTickHost : TickHost where
  strOf := fun value => match value with
    | .scalar (.str s) => s
    | _ => "None"
  reprOf := fun value => jsonText (canonicalValue value)
  floatOf := fun _ => none
  decimalOf := fun _ => none
  dumps := jsonText

private def quotedTick (pvolume : Int) : Tick where
  attributes := .ofList [("stock_code", .scalar (.str "600000.SH")), ("period", .scalar (.str "tick")),
    ("source_time_ms", .scalar (.int 60000)), ("transaction_num", .scalar (.int 1)), ("pvolume", .scalar (.int pvolume))]
  time := some 60000000

private def pvolumes (merged : Except String (List Tick)) : List TickValue :=
  (merged.toOption.getD []).map (·.get "pvolume" (.scalar .none))

end Example

end QuantX
