/-
  TaskGrid.Lib.Refinement — forward simulation between transition systems.

  A step may show something to an observer: `shows s e` is what is seen of the
  step labelled `e` from `s`.  The `trace` of a run is what all its steps show,
  in order.  A concrete system refines an abstract one when every trace of
  the first is a trace of the second.  The file names no program.

  Main results:
    * `Simulation.run` — under a forward simulation every run is matched by a
      run of the abstract system that shows the same.
    * `trace_invariant` — the invariant rule for what has been shown so far.
    * `Simulation.trace_property` — what holds of the traces of the abstract
      system holds of those of the concrete one.
    * `causal_concat` — a property of each observation and those before it,
      one observation at a time.
-/
import TaskGrid.Lib.Transition

namespace TaskGrid.Lib

variable {σ ε τ δ ω : Type*}

/-! ## §1. Traces. -/

/-- What the steps of a run show, in order. -/
def trace (next : σ → ε → Option σ) (shows : σ → ε → Option ω) : σ → List ε → List ω
  | _, [] => []
  | s, e :: es =>
      match next s e with
      | none => []
      | some s' => (shows s e).toList ++ trace next shows s' es

variable {next : σ → ε → Option σ} {shows : σ → ε → Option ω}

@[simp] theorem trace_nil (s : σ) : trace next shows s [] = [] := rfl

theorem trace_cons {s s' : σ} {e : ε} (h : next s e = some s') (es : List ε) :
    trace next shows s (e :: es) = (shows s e).toList ++ trace next shows s' es := by
  simp only [trace, h]

theorem trace_singleton {s s' : σ} {e : ε} (h : next s e = some s') :
    trace next shows s [e] = (shows s e).toList := by
  rw [trace_cons h, trace_nil, List.append_nil]

theorem trace_append {s m : σ} {es : List ε} (h : run next s es = some m) (fs : List ε) :
    trace next shows s (es ++ fs) = trace next shows s es ++ trace next shows m fs := by
  induction es generalizing s with
  | nil =>
      rw [run_nil, Option.some.injEq] at h
      rw [h]
      rfl
  | cons e es ih =>
      obtain ⟨a, ha, hr⟩ := run_cons_eq_some.mp h
      rw [List.cons_append, trace_cons ha, trace_cons ha, ih hr, List.append_assoc]

/-- Labels that show nothing leave no trace. -/
theorem trace_eq_nil {es : List ε} (h : ∀ e ∈ es, ∀ s, shows s e = none) (s : σ) :
    trace next shows s es = [] := by
  induction es generalizing s with
  | nil => rfl
  | cons e es ih =>
      cases hs : next s e with
      | none => simp only [trace, hs]
      | some s' =>
          rw [trace_cons hs, h e List.mem_cons_self s,
            ih (fun f hf => h f (List.mem_cons_of_mem e hf)) s']
          rfl

/-- **Invariant rule for traces.**  What holds initially of the empty trace and is preserved by
every step, with what the step shows, holds after every run of all it has shown. -/
theorem trace_invariant {i : σ} {P : List ω → σ → Prop} (h0 : P [] i)
    (hstep : ∀ os s e s', Reachable next i s → P os s → next s e = some s' →
      P (os ++ (shows s e).toList) s')
    {es : List ε} {s : σ} (hr : run next i es = some s) : P (trace next shows i es) s := by
  -- the run in two parts: what it has shown, and what it still shows
  have hgen : ∀ (es : List ε) {os : List ω} {a : σ}, Reachable next i a → P os a →
      run next a es = some s → P (os ++ trace next shows a es) s := by
    intro es
    induction es with
    | nil =>
        intro os a _ hP hr
        rw [run_nil, Option.some.injEq] at hr
        rw [trace_nil, List.append_nil]
        exact hr ▸ hP
    | cons e es ih =>
        intro os a ha hP hr
        obtain ⟨m, hm, hr⟩ := run_cons_eq_some.mp hr
        rw [trace_cons hm, ← List.append_assoc]
        exact ih (ha.tail hm) (hstep os a e m ha hP hm) hr
  exact hgen es (Reachable.init i) h0 hr

/-! ## §2. Simulations. -/

/-- `R` relates the concrete states to abstract ones, and every concrete step is matched by
abstract steps that show the same. -/
structure Simulation (next : σ → ε → Option σ) (shows : σ → ε → Option ω) (i : σ)
    (next' : τ → δ → Option τ) (shows' : τ → δ → Option ω) (j : τ) (R : σ → τ → Prop) : Prop where
  init : R i j
  step : ∀ {s e s' t}, Reachable next i s → R s t → next s e = some s' →
    ∃ fs t', run next' t fs = some t' ∧ trace next' shows' t fs = (shows s e).toList ∧ R s' t'

variable {i : σ} {j : τ} {next' : τ → δ → Option τ} {shows' : τ → δ → Option ω}
  {R : σ → τ → Prop}

/-- **Trace inclusion.**  Every run is matched by an abstract run with the same trace. -/
theorem Simulation.run (h : Simulation next shows i next' shows' j R) {es : List ε} {s : σ}
    (hr : Lib.run next i es = some s) :
    ∃ fs t, Lib.run next' j fs = some t ∧ trace next' shows' j fs = trace next shows i es ∧
      R s t := by
  refine trace_invariant (P := fun os s => ∃ fs t, Lib.run next' j fs = some t ∧
    trace next' shows' j fs = os ∧ R s t) ⟨[], j, rfl, rfl, h.init⟩ ?_ hr
  rintro os a e b ha ⟨fs, t, hfs, htrace, hR⟩ hs
  obtain ⟨gs, t', hgs, hshow, hR'⟩ := h.step ha hR hs
  refine ⟨fs ++ gs, t', run_append_eq_some.mpr ⟨t, hfs, hgs⟩, ?_, hR'⟩
  rw [trace_append hfs, htrace, hshow]

/-- What holds of every trace of the abstract system holds of every trace of the concrete one. -/
theorem Simulation.trace_property (h : Simulation next shows i next' shows' j R)
    {Q : List ω → Prop}
    (hQ : ∀ fs t, Lib.run next' j fs = some t → Q (trace next' shows' j fs)) {es : List ε} {s : σ}
    (hr : Lib.run next i es = some s) : Q (trace next shows i es) := by
  obtain ⟨fs, t, hfs, htrace, _⟩ := h.run hr
  rw [← htrace]
  exact hQ fs t hfs

/-! ## §3. Observations and those before them. -/

/-- `Q` holds of every observation of the list and the observations before it. -/
def Causal (Q : List ω → ω → Prop) (os : List ω) : Prop :=
  ∀ pre o post, os = pre ++ o :: post → Q pre o

variable {Q : List ω → ω → Prop}

theorem causal_nil : Causal Q [] := by
  intro pre o post h
  exact absurd h.symm (List.append_ne_nil_of_right_ne_nil _ (List.cons_ne_nil _ _))

theorem causal_concat {os : List ω} {o : ω} : Causal Q (os ++ [o]) ↔ Causal Q os ∧ Q os o := by
  constructor
  · intro h
    refine ⟨?_, h os o [] rfl⟩
    intro pre p post hos
    exact h pre p (post ++ [o]) (by rw [hos, List.append_assoc, List.cons_append])
  · rintro ⟨h, hlast⟩ pre p post hos
    rcases List.eq_nil_or_concat post with rfl | ⟨post, q, rfl⟩
    · -- the new observation
      obtain ⟨hpre, hp⟩ := List.append_inj' hos rfl
      rw [List.cons.injEq] at hp
      exact hpre ▸ hp.1 ▸ hlast
    · -- one of those before
      rw [List.concat_eq_append, ← List.cons_append, ← List.append_assoc] at hos
      exact h pre p post (List.append_inj' hos rfl).1

end TaskGrid.Lib
