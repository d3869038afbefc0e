import Mathlib.Data.List.Basic
import Mathlib.Data.List.Induction

/-! Runs of a state machine, with their history, whose newest moment comes first. Which operations are legal may depend on
    the history so far. -/

namespace Lib
variable {σ ω : Type}

structure Moment (σ ω : Type) where
  before : σ
  op : ω
  after : σ

/-- `Run start step legal log s`: the history `log` leads from a start state to `s`. -/
inductive Run (start : σ → Prop) (step : σ → ω → σ) (legal : List (Moment σ ω) → σ → ω → Prop) :
    List (Moment σ ω) → σ → Prop
  | start {s : σ} (h : start s) : Run start step legal [] s
  | step {log : List (Moment σ ω)} {s : σ} (h : Run start step legal log s) (op : ω) (hop : legal log s op) :
      Run start step legal (⟨s, op, step s op⟩ :: log) (step s op)

def play (step : σ → ω → σ) (s : σ) (ops : List ω) : List (Moment σ ω) × σ :=
  ops.foldl (fun run op => (⟨run.2, op, step run.2 op⟩ :: run.1, step run.2 op)) ([], s)

theorem play_concat (step : σ → ω → σ) (s : σ) (ops : List ω) (op : ω) :
    play step s (ops ++ [op]) =
      (⟨(play step s ops).2, op, step (play step s ops).2 op⟩ :: (play step s ops).1, step (play step s ops).2 op) := by
  rw [play, List.foldl_append]
  rfl

namespace Run
variable {start : σ → Prop} {step : σ → ω → σ} {legal legal' : List (Moment σ ω) → σ → ω → Prop}
  {log : List (Moment σ ω)} {s : σ}

theorem invariant (Inv : List (Moment σ ω) → σ → Prop) (hstart : ∀ s, start s → Inv [] s)
    (hstep : ∀ log s op, Inv log s → legal log s op → Inv (⟨s, op, step s op⟩ :: log) (step s op))
    (h : Run start step legal log s) : Inv log s := by
  induction h with
  | start h => exact hstart _ h
  | step _ op hop ih => exact hstep _ _ op ih hop

theorem moments {P : Moment σ ω → Prop} (h : Run start step legal log s)
    (hstep : ∀ log s op, Run start step legal log s → legal log s op → P ⟨s, op, step s op⟩) : ∀ m ∈ log, P m := by
  induction h with
  | start => simp
  | step h op hop ih =>
    rintro m (_ | ⟨_, hm⟩)
    · exact hstep _ _ op h hop
    · exact ih m hm

theorem since {R : σ → σ → Prop} (h : Run start step legal log s) (hrefl : ∀ s, R s s) (htrans : ∀ a b c, R a b → R b c → R a c)
    (hstep : ∀ log s op, Run start step legal log s → legal log s op → R s (step s op)) : ∀ m ∈ log, R m.after s := by
  induction h with
  | start => simp
  | step h op hop ih =>
    rintro m (_ | ⟨_, hm⟩)
    · exact hrefl _
    · exact htrans _ _ _ (ih m hm) (hstep _ _ op h hop)

theorem pairwise {Q : Moment σ ω → Moment σ ω → Prop} (h : Run start step legal log s)
    (hstep : ∀ log s op, Run start step legal log s → legal log s op → ∀ m ∈ log, Q ⟨s, op, step s op⟩ m) : log.Pairwise Q := by
  induction h with
  | start => exact .nil
  | step h op hop ih => exact .cons (hstep _ _ op h hop) ih

theorem each {Q : List (Moment σ ω) → Moment σ ω → Prop} (h : Run start step legal log s)
    (hstep : ∀ log s op, Run start step legal log s → legal log s op → Q log ⟨s, op, step s op⟩) :
    ∀ later m earlier, log = later ++ m :: earlier → Q earlier m := by
  induction h with
  | start => simp
  | step h op hop ih =>
    rintro (_ | ⟨m', later⟩) m earlier heq
    · cases heq
      exact hstep _ _ op h hop
    · exact ih later m earlier (List.cons.inj heq).2

theorem mono (hlegal : ∀ log s op, legal log s op → legal' log s op) (h : Run start step legal log s) :
    Run start step legal' log s := by
  induction h with
  | start h => exact .start h
  | step _ op hop ih => exact .step ih op (hlegal _ _ op hop)

theorem restrict (h : Run start step legal log s)
    (hlegal : ∀ later m earlier, log = later ++ m :: earlier → legal' earlier m.before m.op) : Run start step legal' log s := by
  induction h with
  | start h => exact .start h
  | @step log s _ op _ ih =>
    refine .step (ih fun later m earlier heq => ?_) op (hlegal [] _ _ rfl)
    exact hlegal (⟨s, op, step s op⟩ :: later) m earlier (by rw [heq, List.cons_append])

theorem extend {I : σ → Prop} (ops : List ω) (h : Run start step legal log s) (hs : I s)
    (hlegal : ∀ op ∈ ops, ∀ log' s', log <:+ log' → legal log' s' op) (hstep : ∀ op ∈ ops, ∀ s, I s → I (step s op)) :
    ∃ log' s', Run start step legal log' s' ∧ I s' ∧ log <:+ log' ∧ log'.map Moment.op = ops.reverse ++ log.map Moment.op := by
  induction ops generalizing log s with
  | nil => exact ⟨log, s, h, hs, List.suffix_rfl, rfl⟩
  | cons op ops ih =>
    have hmore : log <:+ ⟨s, op, step s op⟩ :: log := List.suffix_cons _ _
    obtain ⟨log', s', hrun, hs', hsuffix, hops⟩ := ih (.step h op (hlegal op (List.mem_cons_self ..) log s List.suffix_rfl))
      (hstep op (List.mem_cons_self ..) s hs) (fun op hop log' s' hsuffix => hlegal op (List.mem_cons_of_mem _ hop) log' s' (hmore.trans hsuffix))
      fun op hop => hstep op (List.mem_cons_of_mem _ hop)
    exact ⟨log', s', hrun, hs', hmore.trans hsuffix, by rw [hops]; simp⟩

theorem of_play (h : start s) (ops : List ω) :
    Run start step (fun _ _ _ => True) (play step s ops).1 (play step s ops).2 := by
  induction ops using List.reverseRecOn with
  | nil => exact .start h
  | append_singleton ops op ih =>
    rw [play_concat]
    exact .step ih op trivial

end Run
end Lib
