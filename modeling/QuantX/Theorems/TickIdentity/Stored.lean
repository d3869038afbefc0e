import QuantX.MarketData.TickIdentity

/-! # Ticks as they are stored

A stored tick differs from its original in its storage identity alone. -/

namespace QuantX
open Lib Tick

variable {host : TickHost} {tick other : Tick} {ms : Int} {ordinal : Nat} {time : Int} {name : String}

theorem fields_get? (tick : Tick) (name : String) :
    tick.fields.get? name = (tick.attributes.get? name).or (tickDefaults.get? name) := Dict.get?_update _ _ _

theorem stored_fields (tick : Tick) (ms : Int) (ordinal : Nat) (time : Int) (name : String) :
    (tick.stored ms ordinal time).fields.get? name =
      if "tick_ordinal" = name then some (.scalar (.int ordinal))
      else if "source_time_ms" = name then some (.scalar (.int ms)) else tick.fields.get? name := by
  rw [fields_get?, stored, Dict.get?_set, Dict.get?_set]
  split
  · rfl
  · split
    · rfl
    · exact (fields_get? tick name).symm

def SamePayload (tick other : Tick) : Prop := ∀ name, name ∉ storageFields → tick.fields.get? name = other.fields.get? name

theorem stored_payload (tick : Tick) (ms : Int) (ordinal : Nat) (time : Int) : SamePayload (tick.stored ms ordinal time) tick := by
  intro name hname
  rw [stored_fields, if_neg (by rintro rfl; simp [storageFields] at hname), if_neg (by rintro rfl; simp [storageFields] at hname)]

namespace SamePayload

theorem get (h : SamePayload tick other) (name : String) (hname : name ∉ storageFields) (default : TickValue) :
    tick.get name default = other.get name default := by
  rw [Tick.get, Tick.get, Dict.getD, Dict.getD, h name hname]

theorem identity (h : SamePayload tick other) : tick.snapshotIdentity host = other.snapshotIdentity host := by
  have hnone : ∀ name ∈ identityFields, name ∉ storageFields := by decide
  have hsame : ∀ name ∈ identityFields, ((tick.fields.get? name).map fun value => (name, identityFieldValue host name value)) =
      (other.fields.get? name).map fun value => (name, identityFieldValue host name value) :=
    fun name hmem => by rw [h name (hnone name hmem)]
  rw [snapshotIdentity, snapshotIdentity, List.filterMap_congr hsame]

theorem full (h : SamePayload tick other) : tick.fullSnapshotPayload host = other.fullSnapshotPayload host := by
  have hfilter : ∀ name, (tick.fields.filter (·.1 ∉ storageFields)).get? name = (other.fields.filter (·.1 ∉ storageFields)).get? name := by
    intro name
    rw [Dict.get?_filter, Dict.get?_filter]
    by_cases hname : name ∈ storageFields
    · cases tick.fields.get? name <;> cases other.fields.get? name <;> simp [hname]
    · rw [h name hname]
  rw [fullSnapshotPayload, fullSnapshotPayload, rankedEntries_congr Function.injective_id hfilter]

end SamePayload

theorem stored_stored (tick : Tick) (ms : Int) (ordinal : Nat) (time : Int) :
    (tick.stored ms ordinal time).stored ms ordinal time = tick.stored ms ordinal time := by
  have hms : ((tick.attributes.set "source_time_ms" (.scalar (.int ms))).set "tick_ordinal" (.scalar (.int ordinal))).get? "source_time_ms" =
      some (.scalar (.int ms)) := by
    rw [Dict.get?_set_ne _ _ (by decide), Dict.get?_set_self]
  rw [stored, stored, Dict.set_same hms, Dict.set_same (Dict.get?_set_self _ _ _)]

theorem statedSourceTimeMs_int (h : integerOf (tick.get "source_time_ms" (.scalar .none)) = some ms) (hpos : 0 < ms) :
    tick.statedSourceTimeMs host = .ok (some ms) := by
  rw [statedSourceTimeMs]
  cases hvalue : tick.get "source_time_ms" (.scalar .none) with
  | list items =>
    rw [hvalue] at h
    cases h
  | scalar value =>
    rw [hvalue] at h
    cases value with
    | none => cases h
    | bool => cases h
    | str => cases h
    | int n =>
      cases h
      have hq : (ms : Rat) ≠ 0 := by exact_mod_cast hpos.ne'
      have hle : (0 : Rat) ≤ ms := by exact_mod_cast hpos.le
      simp [hq, hle]
    | float x =>
      cases x with
      | nan => cases h
      | inf => cases h
      | finite q =>
        simp only [integerOf] at h
        split at h
        next hden =>
          cases h
          have hq : q ≠ 0 := fun hzero => by
            subst hzero
            exact absurd hpos (by decide)
          have hle : 0 ≤ q := Rat.num_nonneg.mp hpos.le
          simp [hq, hden, hle]
        next => cases h

theorem stored_sourceTimeMs (hms : 0 ≤ ms) (hordinal : ordinal < HISTORICAL_TICK_ORDINALS_PER_MILLISECOND) :
    (tick.stored ms ordinal (ms * 1000 + ordinal)).sourceTimeMs host = .ok ms := by
  have hget : (tick.stored ms ordinal (ms * 1000 + ordinal)).get "source_time_ms" (.scalar .none) = .scalar (.int ms) := by
    rw [Tick.get, Dict.getD, stored_fields, if_neg (by decide), if_pos rfl]
    rfl
  rcases hms.eq_or_lt with rfl | hpos
  · have hstated : (tick.stored 0 ordinal (0 * 1000 + ordinal)).statedSourceTimeMs host = .ok none := by
      simp only [statedSourceTimeMs, hget]
      rfl
    rw [sourceTimeMs, hstated]
    have hzero : (0 * 1000 + (ordinal : Int)) / 1000 = 0 := by
      simp only [HISTORICAL_TICK_ORDINALS_PER_MILLISECOND] at hordinal
      omega
    exact congrArg Except.ok hzero
  · rw [sourceTimeMs, statedSourceTimeMs_int (by rw [hget]; rfl) hpos]
    rfl

theorem stored_get_ordinal (tick : Tick) (ms : Int) (ordinal : Nat) (time : Int) (default : TickValue) :
    (tick.stored ms ordinal time).get "tick_ordinal" default = .scalar (.int ordinal) := by
  rw [Tick.get, Dict.getD, stored_fields, if_pos rfl]
  rfl

theorem stored_get_source (tick : Tick) (ms : Int) (ordinal : Nat) (time : Int) (default : TickValue) :
    (tick.stored ms ordinal time).get "source_time_ms" default = .scalar (.int ms) := by
  rw [Tick.get, Dict.getD, stored_fields, if_neg (by decide), if_pos rfl]
  rfl

theorem stored_identityKey {group : TickGroup} {identity : String} (h : tick.identityKey host = .ok (group, identity))
    (hms : 0 ≤ group.sourceTimeMs) (hordinal : ordinal < HISTORICAL_TICK_ORDINALS_PER_MILLISECOND) :
    (tick.stored group.sourceTimeMs ordinal (group.sourceTimeMs * 1000 + ordinal)).identityKey host = .ok (group, identity) := by
  obtain ⟨sourceTimeMs, -, hkey⟩ := bind_eq_ok.mp h
  cases hkey
  have hsame := stored_payload tick sourceTimeMs ordinal (sourceTimeMs * 1000 + ordinal)
  rw [identityKey, stored_sourceTimeMs hms hordinal]
  simp only [hsame.identity, hsame.get "stock_code" (by decide), hsame.get "period" (by decide)]
  rfl

section Lexicographic
variable {α β γ : Type} [LinearOrder α] [LinearOrder β] [LinearOrder γ]

theorem lex_mono {a b : α} {x y : β} {x' y' : γ} (h : toLex (a, x) ≤ toLex (b, y)) (hrest : a = b → x ≤ y → x' ≤ y') :
    toLex (a, x') ≤ toLex (b, y') := by
  rcases Prod.Lex.toLex_le_toLex.mp h with hless | ⟨heq, hle⟩
  · exact Prod.Lex.toLex_le_toLex.mpr (.inl hless)
  · exact Prod.Lex.toLex_le_toLex.mpr (.inr ⟨heq, hrest heq hle⟩)

end Lexicographic

theorem authoritativeOrdinal_epoch (h : tick.sourceTimeMs host = .ok 0) : authoritativeOrdinal tick = toLex (1, 0) := by
  rw [authoritativeOrdinal]
  split
  next stated ordinal hsource hordinal =>
    by_cases hpos : 0 < stated
    · rw [sourceTimeMs, statedSourceTimeMs_int hsource hpos] at h
      cases h
      exact absurd hpos (lt_irrefl _)
    · rw [if_neg fun hall => hpos hall.1]
  next => rfl

theorem authoritativeOrdinal_stored (hordinal : ordinal < HISTORICAL_TICK_ORDINALS_PER_MILLISECOND) :
    authoritativeOrdinal (tick.stored ms ordinal time) = if 0 < ms then toLex (0, (ordinal : Int)) else toLex (1, 0) := by
  rw [authoritativeOrdinal, stored_get_source, stored_get_ordinal]
  have hless : ((ordinal : Int)) < (HISTORICAL_TICK_ORDINALS_PER_MILLISECOND : Int) := by exact_mod_cast hordinal
  simp [integerOf, hless]

theorem stored_order {i j : Nat} (hms : 0 ≤ ms) (hle : snapshotOrderKey host tick ≤ snapshotOrderKey host other) (hij : i < j)
    (hj : j < HISTORICAL_TICK_ORDINALS_PER_MILLISECOND) (htick : tick.sourceTimeMs host = .ok ms) (hother : other.sourceTimeMs host = .ok ms)
    (time time' : Int) : snapshotOrderKey host (tick.stored ms i time) ≤ snapshotOrderKey host (other.stored ms j time') := by
  have hsame := stored_payload tick ms i time
  have hsame' := stored_payload other ms j time'
  simp only [snapshotOrderKey] at hle ⊢
  rw [hsame.get "transaction_num" (by decide), hsame.get "volume" (by decide), hsame.get "amount" (by decide),
    hsame'.get "transaction_num" (by decide), hsame'.get "volume" (by decide), hsame'.get "amount" (by decide),
    hsame.identity, hsame'.identity, hsame.full, hsame'.full, authoritativeOrdinal_stored (hij.trans hj), authoritativeOrdinal_stored hj]
  refine lex_mono hle fun _ hle => lex_mono hle fun _ hle => lex_mono hle fun _ hle => lex_mono hle fun _ hle => ?_
  rcases hms.eq_or_lt with rfl | hpos
  · rw [authoritativeOrdinal_epoch htick, authoritativeOrdinal_epoch hother] at hle
    simpa using hle
  · rw [if_pos hpos, if_pos hpos]
    have hless : (i : Int) < j := by exact_mod_cast hij
    exact Prod.Lex.toLex_le_toLex.mpr (.inl (Prod.Lex.toLex_lt_toLex.mpr (.inr ⟨rfl, hless⟩)))

end QuantX
