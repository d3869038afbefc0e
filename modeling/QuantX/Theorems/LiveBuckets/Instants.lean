import QuantX.Theorems.LiveBuckets.Book

namespace QuantX
open Lib

variable {date : Int → Int} {book : Book} {e : Entry} {l l' first last parts : List Entry} {bucket : Bucket} {code : String}
  {instant : Int}

namespace Book

def upTo (date : Int → Int) (book : Book) (l : List Entry) (instant : Int) : Book :=
  book.after date (l.filter (·.instant ≤ instant))

structure Fits (date : Int → Int) (book : Book) (l : List Entry) : Prop where
  settled : ∀ e ∈ l, ∀ bucket, 0 ≤ (book.upTo date l e.instant).settled e.code bucket
  within : ∀ e ∈ l, e.move.Within ((book.after date l).filled e.orderId)

theorem after_day (h : ∀ e ∈ l, date e.instant = book.day) : (book.after date l).day = book.day := by
  induction l using List.reverseRecOn with
  | nil => rfl
  | append_singleton l e ih =>
    rw [after_concat, step_day]
    exact h e (List.mem_append_right l List.mem_cons_self)

theorem advance_after {day : Int} (h : ∀ e ∈ l, date e.instant = day) :
    (book.after date l).advance day = (book.advance day).after date l := by
  cases l with
  | nil => rfl
  | cons e l =>
    have hday := h e List.mem_cons_self
    have hstep : (book.advance day).step date e = book.step date e := by
      rw [step_same_day (by simp [hday]), step, hday]
    have hend : ((book.step date e).after date l).day = day := by
      rw [after_day fun e' he' => by rw [step_day, hday, h e' (List.mem_cons_of_mem e he')], step_day, hday]
    rw [after_cons, advance_self hend, after_cons, hstep]

theorem filled_le_after (date : Int → Int) (book : Book) (orderId : String) (l : List Entry) :
    book.filled orderId ≤ (book.after date l).filled orderId := by
  induction l generalizing book with
  | nil => exact le_rfl
  | cons e l ih =>
    refine le_trans ?_ (ih (book.step date e))
    simp [step, apply]

theorem settled_after_le (book : Book) (h : ∀ e ∈ l, date e.instant = book.day) (code : String) (bucket : Bucket) :
    (book.after date l).settled code bucket ≤ book.settled code bucket := by
  induction l generalizing book with
  | nil => exact le_rfl
  | cons e l ih =>
    have hday := h e List.mem_cons_self
    have hrest := ih (book.step date e) fun e' he' => by
      rw [step_day, hday]
      exact h e' (List.mem_cons_of_mem e he')
    have hsold := book.sold_nonneg e bucket
    refine hrest.trans ?_
    rw [step_same_day hday.symm]
    simp only [apply]
    split
    · exact sub_le_self _ hsold
    · simp

end Book

def handsOver (l : List Entry) (code : String) (bucket : Bucket) : Int :=
  (l.map fun e => if e.code = code ∧ e.move.leaves bucket = true then (e.volume : Int) else 0).sum

theorem handsOver_append : handsOver (l ++ l') code bucket = handsOver l code bucket + handsOver l' code bucket := by
  simp [handsOver]

theorem handsOver_nonneg (l : List Entry) (code : String) (bucket : Bucket) : 0 ≤ handsOver l code bucket := by
  refine List.sum_nonneg fun x hx => ?_
  obtain ⟨e, -, rfl⟩ := List.mem_map.mp hx
  split
  · exact Int.natCast_nonneg _
  · exact le_rfl

theorem Book.today_after_ge (book : Book) (h : ∀ e ∈ l, date e.instant = book.day) (code : String) (bucket : Bucket) :
    book.today code bucket - handsOver l code bucket ≤ (book.after date l).today code bucket := by
  induction l generalizing book with
  | nil => simp [handsOver]
  | cons e l ih =>
    have hday := h e List.mem_cons_self
    have hrest := ih (book.step date e) fun e' he' => by
      rw [step_day, hday]
      exact h e' (List.mem_cons_of_mem e he')
    refine le_trans ?_ hrest
    rw [step_same_day hday.symm, ← List.singleton_append, handsOver_append]
    simp only [apply, handsOver, List.map_cons, List.map_nil, List.sum_singleton, eq_comm (a := code)]
    by_cases hcode : e.code = code
    · cases hleaves : e.move.leaves bucket with
      | true =>
        rw [Entry.brings, Move.entering_of_leaves hleaves]
        simp only [hcode, and_self, if_true]
        omega
      | false =>
        have hbrings : 0 ≤ e.brings bucket := Int.mul_nonneg (Int.natCast_nonneg _) (Move.entering_nonneg hleaves)
        simp only [hcode, Bool.false_eq_true, and_false, if_true, if_false]
        omega
    · simp [hcode]

def Book.Backed (date : Int → Int) (book : Book) (l : List Entry) : Prop :=
  ∀ e ∈ l, ∀ bucket, e.move.leaves bucket = true → handsOver (l.filter (·.instant = e.instant)) e.code bucket ≤
    ((book.after date (l.filter (·.instant < e.instant))).advance (date e.instant)).today e.code bucket

theorem Book.fits_of_admitsAll (hsound : book.Sound) (hl : Consistent l) (hsorted : Timed Entry.instant l)
    (hrun : book.AdmitsAll date l) : book.Fits date l where
  settled e _ bucket := by
    have hfirst : l.filter (·.instant ≤ e.instant) <+: l := ⟨_, hsorted.until e.instant⟩
    exact (after_sound hsound (Guarded.start hrun hfirst)).settled _ _
  within := after_within hl hrun

theorem filter_before_of_split (hsorted : Timed Entry.instant (first ++ e :: last)) :
    first = (first ++ e :: last).filter (·.instant < e.instant) ++ first.filter (·.instant = e.instant) := by
  obtain ⟨hfirst, hlast, hcross⟩ := List.pairwise_append.mp hsorted
  have hafter : (e :: last).filter (·.instant < e.instant) = [] := by
    refine List.filter_eq_nil_iff.mpr fun a ha => ?_
    rcases List.mem_cons.mp ha with rfl | ha
    · simp
    · simpa using (List.pairwise_cons.mp hlast).1 a ha
  have hsame : first.filter (fun a => !decide (a.instant < e.instant)) = first.filter (·.instant = e.instant) := by
    refine List.filter_congr fun a ha => ?_
    have hle := hcross a ha e List.mem_cons_self
    by_cases hinstant : a.instant = e.instant
    · simp [hinstant]
    · simp [hinstant, lt_of_le_of_ne hle hinstant]
  rw [List.filter_append, hafter, List.append_nil, ← hsame]
  exact (Timed.before hfirst e.instant).symm

theorem filter_upTo_of_split (hsorted : Timed Entry.instant (first ++ e :: last)) :
    (first ++ e :: last).filter (·.instant ≤ e.instant) = first ++ [e] ++ last.filter (·.instant = e.instant) := by
  obtain ⟨-, hlast, hcross⟩ := List.pairwise_append.mp hsorted
  have hkept : first.filter (·.instant ≤ e.instant) = first :=
    List.filter_eq_self.mpr fun a ha => by simpa using hcross a ha e List.mem_cons_self
  have hrest : last.filter (·.instant ≤ e.instant) = last.filter (·.instant = e.instant) := by
    refine List.filter_congr fun a ha => ?_
    have hle := (List.pairwise_cons.mp hlast).1 a ha
    simp only [decide_eq_decide]
    exact ⟨fun h => le_antisymm h hle, fun h => h.le⟩
  rw [List.filter_append, hkept, List.filter_cons_of_pos (by simp), hrest]
  simp

theorem Book.admitsAll_of_fits (hl : Consistent l) (hsorted : Timed Entry.instant l) (hfits : book.Fits date l)
    (hbacked : book.Backed date l) : book.AdmitsAll date l := by
  refine guarded_iff.mpr ?_
  rintro first e last rfl
  have hmem : e ∈ first ++ e :: last := List.mem_append_right first List.mem_cons_self
  have hafter : (book.after date first).step date e = book.after date (first ++ [e]) := after_concat.symm
  refine ⟨fun bucket => ?_, ?_, fun bucket hleaves => ?_⟩
  · have hrest : ∀ a ∈ last.filter (·.instant = e.instant), date a.instant = ((book.after date first).step date e).day := by
      intro a ha
      rw [step_day, of_decide_eq_true (List.mem_filter.mp ha).2]
    have hend := hfits.settled e hmem bucket
    rw [upTo, filter_upTo_of_split hsorted, after_append, ← hafter] at hend
    have hle := settled_after_le _ hrest e.code bucket
    have hown := hend.trans hle
    rw [step, apply] at hown
    simp only [if_true, sub_nonneg] at hown
    exact hown
  · have hend := hfits.within e hmem
    have hle := filled_le_after date ((book.after date first).step date e) e.orderId last
    rw [List.append_cons, after_append, ← hafter] at hend
    refine hend.mono (le_trans ?_ hle)
    simp [step, apply, after]
  · have hover := hbacked e hmem bucket hleaves
    have hsplit := filter_before_of_split hsorted
    generalize (first ++ e :: last).filter (·.instant < e.instant) = before at hover hsplit
    have hinstant : (first ++ e :: last).filter (·.instant = e.instant) =
        first.filter (·.instant = e.instant) ++ e :: last.filter (·.instant = e.instant) := by simp
    rw [hinstant, ← List.singleton_append, handsOver_append, handsOver_append] at hover
    have hsame : ∀ a ∈ first.filter (·.instant = e.instant), date a.instant = date e.instant := by
      intro a ha
      rw [of_decide_eq_true (List.mem_filter.mp ha).2]
    generalize first.filter (·.instant = e.instant) = same at hover hsplit hsame
    have hkept := today_after_ge ((book.after date before).advance (date e.instant)) (by simpa using hsame) e.code bucket
    have hnext := handsOver_nonneg (last.filter (·.instant = e.instant)) e.code bucket
    have hown : handsOver [e] e.code bucket = e.volume := by simp [handsOver, hleaves]
    have hbook : book.after date first = (book.after date before).after date same := by rw [hsplit, after_append]
    show (e.volume : Int) ≤ ((book.after date first).advance (date e.instant)).today e.code bucket
    rw [hbook, advance_after hsame]
    omega

/-- Two lists of entries that lead to the same books and whose instants hand over the same volumes. -/
structure Interchange (date : Int → Int) (l l' : List Entry) : Prop where
  after : ∀ book : Book, book.after date l = book.after date l'
  upTo : ∀ (book : Book) instant, book.upTo date l instant = book.upTo date l' instant
  before : ∀ (book : Book) instant, book.after date (l.filter (·.instant < instant)) = book.after date (l'.filter (·.instant < instant))
  handsOver : ∀ instant code bucket, handsOver (l.filter (·.instant = instant)) code bucket =
    QuantX.handsOver (l'.filter (·.instant = instant)) code bucket
  kept : ∀ e ∈ l, ∃ e' ∈ l', e' = { e with volume := e'.volume }
  found : ∀ e' ∈ l', ∃ e ∈ l, e' = { e with volume := e'.volume }

namespace Interchange

theorem symm (h : Interchange date l l') : Interchange date l' l where
  after book := (h.after book).symm
  upTo book instant := (h.upTo book instant).symm
  before book instant := (h.before book instant).symm
  handsOver instant code bucket := (h.handsOver instant code bucket).symm
  kept e' he' := by
    obtain ⟨e, he, hsame⟩ := h.found e' he'
    exact ⟨e, he, by rw [hsame]⟩
  found e he := by
    obtain ⟨e', he', hsame⟩ := h.kept e he
    exact ⟨e', he', by rw [hsame]⟩

theorem trans {l'' : List Entry} (h : Interchange date l l') (h' : Interchange date l' l'') : Interchange date l l'' where
  after book := (h.after book).trans (h'.after book)
  upTo book instant := (h.upTo book instant).trans (h'.upTo book instant)
  before book instant := (h.before book instant).trans (h'.before book instant)
  handsOver instant code bucket := (h.handsOver instant code bucket).trans (h'.handsOver instant code bucket)
  kept e he := by
    obtain ⟨e', he', hsame⟩ := h.kept e he
    obtain ⟨e'', he'', hsame'⟩ := h'.kept e' he'
    exact ⟨e'', he'', by rw [hsame', hsame]⟩
  found e'' he'' := by
    obtain ⟨e', he', hsame'⟩ := h'.found e'' he''
    obtain ⟨e, he, hsame⟩ := h.found e' he'
    exact ⟨e, he, by rw [hsame', hsame]⟩

theorem fits (h : Interchange date l l') (hfits : book.Fits date l) : book.Fits date l' where
  settled e' he' bucket := by
    obtain ⟨e, he, hsame⟩ := h.found e' he'
    have hend := hfits.settled e he bucket
    rw [h.upTo] at hend
    rw [hsame]
    exact hend
  within e' he' := by
    obtain ⟨e, he, hsame⟩ := h.found e' he'
    have hend := hfits.within e he
    rw [h.after] at hend
    rw [hsame]
    exact hend

theorem backed (h : Interchange date l l') (hbacked : book.Backed date l) : book.Backed date l' := by
  intro e' he' bucket hleaves
  obtain ⟨e, he, hsame⟩ := h.found e' he'
  rw [hsame] at hleaves ⊢
  have hover := hbacked e he bucket hleaves
  rw [h.handsOver, h.before] at hover
  exact hover

theorem of_perm (hl : Consistent l) (hsorted : Timed Entry.instant l) (hsorted' : Timed Entry.instant l') (hperm : l.Perm l') :
    Interchange date l l' where
  after book := Book.foldl_perm hl hsorted hsorted' hperm book
  upTo book instant := by
    have hkept : Consistent (l.filter (·.instant ≤ instant)) :=
      fun e he e' he' => hl e (List.mem_of_mem_filter he) e' (List.mem_of_mem_filter he')
    exact Book.foldl_perm hkept (hsorted.filter _) (hsorted'.filter _) (hperm.filter _) book
  before book instant := by
    have hkept : Consistent (l.filter (·.instant < instant)) :=
      fun e he e' he' => hl e (List.mem_of_mem_filter he) e' (List.mem_of_mem_filter he')
    exact Book.foldl_perm hkept (hsorted.filter _) (hsorted'.filter _) (hperm.filter _) book
  handsOver instant code bucket := ((hperm.filter _).map _).sum_eq
  kept e he := ⟨e, hperm.mem_iff.mp he, rfl⟩
  found e he := ⟨e, hperm.mem_iff.mpr he, rfl⟩

end Interchange

/-! ## Entries in parts -/

structure Parts (e : Entry) (parts : List Entry) : Prop where
  ne_nil : parts ≠ []
  same : ∀ part ∈ parts, part = { e with volume := part.volume }
  whole : (parts.map (·.volume)).sum = e.volume

theorem Book.step_step_part (book : Book) (e : Entry) (v w : Nat) :
    (book.step date { e with volume := v }).step date { e with volume := w } = book.step date { e with volume := v + w } := by
  have hday : (book.step date { e with volume := v }).day = date e.instant := step_day
  rw [step_same_day (e := { e with volume := w }) hday, step, step]
  simp only [apply, sold, Entry.brings, Book.mk.injEq, and_true, if_true, Nat.add_assoc]
  refine ⟨?_, ?_, ?_⟩
  · funext code bucket
    split <;> ring
  · funext code bucket
    split
    · push_cast
      ring
    · ring
  · funext orderId
    split <;> omega

theorem Book.after_parts (h : Parts e parts) (book : Book) : book.after date parts = book.step date e := by
  obtain ⟨hne, hsame, hwhole⟩ := h
  obtain ⟨part, rest, rfl⟩ := List.exists_cons_of_ne_nil hne
  have hrest : ∀ (rest : List Entry) (volume : Nat), (∀ part ∈ rest, part = { e with volume := part.volume }) →
      (book.step date { e with volume }).after date rest =
        book.step date { e with volume := volume + (rest.map (·.volume)).sum } := by
    intro rest
    induction rest with
    | nil => simp
    | cons part rest ih =>
      intro volume hparts
      rw [after_cons, hparts part List.mem_cons_self, step_step_part, ih _ fun p hp => hparts p (List.mem_cons_of_mem part hp)]
      simp [Nat.add_assoc]
  rw [after_cons, hsame part List.mem_cons_self, hrest rest part.volume fun p hp => hsame p (List.mem_cons_of_mem part hp)]
  rw [List.map_cons, List.sum_cons] at hwhole
  rw [hwhole]

theorem sum_natCast (parts : List Entry) :
    (parts.map fun part => (part.volume : Int)).sum = ((parts.map (·.volume)).sum : Nat) := by
  induction parts with
  | nil => rfl
  | cons part parts ih => rw [List.map_cons, List.sum_cons, ih, List.map_cons, List.sum_cons, Nat.cast_add]

theorem Parts.handsOver_eq (h : Parts e parts) (code : String) (bucket : Bucket) :
    handsOver parts code bucket = handsOver [e] code bucket := by
  obtain ⟨-, hsame, hwhole⟩ := h
  have hpart : ∀ part ∈ parts, (if part.code = code ∧ part.move.leaves bucket = true then (part.volume : Int) else 0) =
      if e.code = code ∧ e.move.leaves bucket = true then (part.volume : Int) else 0 := by
    intro part hpart
    rw [hsame part hpart]
  rw [handsOver, List.map_congr_left hpart]
  simp only [handsOver, List.map_cons, List.map_nil, List.sum_singleton]
  split
  · rw [← hwhole, sum_natCast]
  · simp

theorem Parts.filter (h : Parts e parts) (p : Int → Bool) (first last : List Entry) :
    ((first ++ e :: last).filter (fun a => p a.instant) = first.filter (fun a => p a.instant) ++ e :: last.filter (fun a => p a.instant) ∧
        (first ++ parts ++ last).filter (fun a => p a.instant) =
          first.filter (fun a => p a.instant) ++ parts ++ last.filter (fun a => p a.instant)) ∨
      (first ++ e :: last).filter (fun a => p a.instant) = (first ++ parts ++ last).filter (fun a => p a.instant) := by
  have hinstant : ∀ part ∈ parts, p part.instant = p e.instant := fun part hpart => by rw [h.same part hpart]
  cases hp : p e.instant with
  | true =>
    have hkept : parts.filter (fun a => p a.instant) = parts :=
      List.filter_eq_self.mpr fun part hpart => (hinstant part hpart).trans hp
    refine .inl ⟨?_, ?_⟩
    · simp [hp]
    · rw [List.filter_append, List.filter_append, hkept]
  | false =>
    have hnone : parts.filter (fun a => p a.instant) = [] :=
      List.filter_eq_nil_iff.mpr fun part hpart => by simp [hinstant part hpart, hp]
    refine .inr ?_
    rw [List.filter_append, List.filter_append, List.filter_append, hnone, List.filter_cons_of_neg (by simp [hp]), List.append_nil]

theorem Parts.after_split (h : Parts e parts) (first last : List Entry) (book : Book) :
    book.after date (first ++ e :: last) = book.after date (first ++ parts ++ last) := by
  rw [Book.after_append, Book.after_append, Book.after_append, Book.after_cons, Book.after_parts h]

theorem Parts.after_filter (h : Parts e parts) (p : Int → Bool) (first last : List Entry) (book : Book) :
    book.after date ((first ++ e :: last).filter fun a => p a.instant) =
      book.after date ((first ++ parts ++ last).filter fun a => p a.instant) := by
  rcases h.filter p first last with ⟨hwhole, hcut⟩ | hsame
  · rw [hwhole, hcut, h.after_split]
  · rw [hsame]

theorem Interchange.of_parts (h : Parts e parts) (first last : List Entry) :
    Interchange date (first ++ e :: last) (first ++ parts ++ last) where
  after := h.after_split first last
  upTo book instant := h.after_filter (· ≤ instant) first last book
  before book instant := h.after_filter (· < instant) first last book
  handsOver instant code bucket := by
    rcases h.filter (· = instant) first last with ⟨hwhole, hcut⟩ | hsame
    · rw [hwhole, hcut, ← List.singleton_append, ← List.append_assoc, handsOver_append, handsOver_append, handsOver_append,
        handsOver_append, h.handsOver_eq]
    · rw [hsame]
  kept a ha := by
    rcases List.mem_append.mp ha with ha | ha
    · exact ⟨a, List.mem_append_left _ (List.mem_append_left _ ha), rfl⟩
    · rcases List.mem_cons.mp ha with rfl | ha
      · obtain ⟨part, rest, hparts⟩ := List.exists_cons_of_ne_nil h.ne_nil
        have hmem : part ∈ parts := hparts ▸ List.mem_cons_self
        exact ⟨part, List.mem_append_left _ (List.mem_append_right _ hmem), h.same part hmem⟩
      · exact ⟨a, List.mem_append_right _ ha, rfl⟩
  found a ha := by
    rcases List.mem_append.mp ha with ha | ha
    · rcases List.mem_append.mp ha with ha | ha
      · exact ⟨a, List.mem_append_left _ ha, rfl⟩
      · exact ⟨e, List.mem_append_right _ List.mem_cons_self, h.same a ha⟩
    · exact ⟨a, List.mem_append_right _ (List.mem_cons_of_mem e ha), rfl⟩

end QuantX
