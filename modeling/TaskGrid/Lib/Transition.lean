/-
  TaskGrid.Lib.Transition — deterministic labelled transition systems.

  A system is a partial step function `next : σ → ε → Option σ`: the label
  carries every choice the environment makes, so a list of labels determines
  a run.  `none` says that the label is not enabled.  The file names no
  program; its parameters are the state and the label type.

  Main results:
    * `Reachable.invariant` — what holds initially and is preserved by every
      step holds of every reachable state.
    * `along_iff_along` — two per-step properties that agree at reachable
      states agree over whole runs.
    * `exists_first_step` — a run that ends where `Q` holds and starts where
      it does not has a step that makes `Q` true.
    * `run_tally` — a measure that every step raises by its count has grown by
      the tally of the counts after a run.
    * `run_countP_le` — a rank bounds the number of steps that lower it.
    * `run_watched` — an invariant between the system and a second automaton
      that reads the same labels and says which of them it allows.
-/
import Mathlib.Data.Option.Basic
import Mathlib.Data.List.Basic

namespace TaskGrid.Lib

variable {σ ε : Type*}

/-! ## §1. Runs. -/

/-- Execute a list of labels from a state. -/
def run (next : σ → ε → Option σ) : σ → List ε → Option σ
  | s, [] => some s
  | s, e :: es => (next s e).bind fun s' => run next s' es

/-- The states some list of labels leads to from `init`. -/
def Reachable (next : σ → ε → Option σ) (init s : σ) : Prop :=
  ∃ es, run next init es = some s

variable {next : σ → ε → Option σ}

@[simp] theorem run_nil (s : σ) : run next s [] = some s := rfl

theorem run_cons (s : σ) (e : ε) (es : List ε) :
    run next s (e :: es) = (next s e).bind fun s' => run next s' es := rfl

theorem run_cons_eq_some {s s' : σ} {e : ε} {es : List ε} :
    run next s (e :: es) = some s' ↔ ∃ m, next s e = some m ∧ run next m es = some s' := by
  rw [run_cons, Option.bind_eq_some_iff]

theorem run_append_eq_some {s s' : σ} {es fs : List ε} :
    run next s (es ++ fs) = some s' ↔ ∃ m, run next s es = some m ∧ run next m fs = some s' := by
  induction es generalizing s with
  | nil => simp
  | cons e es ih =>
      rw [List.cons_append, run_cons_eq_some]
      constructor
      · rintro ⟨a, ha, h⟩
        obtain ⟨m, hm, hf⟩ := ih.mp h
        exact ⟨m, run_cons_eq_some.mpr ⟨a, ha, hm⟩, hf⟩
      · rintro ⟨m, hm, hf⟩
        obtain ⟨a, ha, hm⟩ := run_cons_eq_some.mp hm
        exact ⟨a, ha, ih.mpr ⟨m, hm, hf⟩⟩

theorem run_singleton_eq_some {s s' : σ} {e : ε} :
    run next s [e] = some s' ↔ next s e = some s' := by
  rw [run_cons_eq_some]
  constructor
  · rintro ⟨m, hm, hs⟩
    rw [run_nil, Option.some.injEq] at hs
    exact hs ▸ hm
  · intro h
    exact ⟨s', h, rfl⟩

/-! ## §2. Reachability and invariants. -/

theorem Reachable.init (s : σ) : Reachable next s s := ⟨[], rfl⟩

theorem Reachable.run {i s s' : σ} {es : List ε} (h : Reachable next i s)
    (hr : Lib.run next s es = some s') : Reachable next i s' := by
  obtain ⟨fs, hfs⟩ := h
  exact ⟨fs ++ es, run_append_eq_some.mpr ⟨s, hfs, hr⟩⟩

theorem Reachable.tail {i s s' : σ} {e : ε} (h : Reachable next i s)
    (hs : next s e = some s') : Reachable next i s' :=
  h.run (run_singleton_eq_some.mpr hs)

/-- **Run rule.**  A predicate that every step with a label in `P` from a reachable state
preserves is preserved by every run with labels in `P` from a reachable state. -/
theorem run_preserves_of_labels {i : σ} {I : σ → Prop} {P : ε → Prop}
    (hstep : ∀ s e s', Reachable next i s → P e → I s → next s e = some s' → I s') :
    ∀ (es : List ε) {s s' : σ}, Reachable next i s → (∀ e ∈ es, P e) → I s →
      run next s es = some s' → I s' := by
  intro es
  induction es with
  | nil =>
      intro s s' _ _ hI hr
      rw [run_nil, Option.some.injEq] at hr
      exact hr ▸ hI
  | cons e es ih =>
      intro s s' hreach hP hI hr
      obtain ⟨m, hm, hr⟩ := run_cons_eq_some.mp hr
      exact ih (hreach.tail hm) (fun f hf => hP f (List.mem_cons_of_mem e hf))
        (hstep s e m hreach (hP e List.mem_cons_self) hI hm) hr

/-- The run rule for all labels. -/
theorem run_preserves {i : σ} {I : σ → Prop}
    (hstep : ∀ s e s', Reachable next i s → I s → next s e = some s' → I s')
    (es : List ε) {s s' : σ} (hreach : Reachable next i s) (hI : I s)
    (hr : run next s es = some s') : I s' :=
  run_preserves_of_labels (P := fun _ => True) (fun s e s' hs _ => hstep s e s' hs) es hreach
    (fun _ _ => trivial) hI hr

/-- **Invariant rule.**  What holds initially and is preserved by every step
holds of every reachable state. -/
theorem Reachable.invariant {i s : σ} {I : σ → Prop} (h : Reachable next i s) (h0 : I i)
    (hstep : ∀ s e s', Reachable next i s → I s → next s e = some s' → I s') : I s := by
  obtain ⟨es, hes⟩ := h
  exact run_preserves hstep es (Reachable.init i) h0 hes

/-! ## §3. Properties of the steps of a run. -/

/-- `P` holds of every step (state before, label, state after) the run takes. -/
def Along (next : σ → ε → Option σ) (P : σ → ε → σ → Prop) : σ → List ε → Prop
  | _, [] => True
  | s, e :: es => ∀ s', next s e = some s' → P s e s' ∧ Along next P s' es

instance decidableAlong {P : σ → ε → σ → Prop} [∀ s e s', Decidable (P s e s')] :
    ∀ (s : σ) (es : List ε), Decidable (Along next P s es)
  | _, [] => .isTrue trivial
  | s, e :: es =>
      match h : next s e with
      | none => .isTrue fun _ hs => absurd (h.symm.trans hs) nofun
      | some s' =>
          have := decidableAlong (P := P) s' es
          decidable_of_iff (P s e s' ∧ Along next P s' es)
            ⟨fun hP _ hs => Option.some.inj (h.symm.trans hs) ▸ hP, fun hP => hP s' h⟩

/-- `P` gives `Q` along a run when, with the help of an invariant that `P` keeps, it gives
`Q` in every step. -/
theorem along_of_invariant {i : σ} {P Q : σ → ε → σ → Prop} {I : σ → Prop}
    (h : ∀ s e s', Reachable next i s → I s → next s e = some s' → P s e s' → Q s e s' ∧ I s') :
    ∀ (es : List ε) {s : σ}, Reachable next i s → I s → Along next P s es →
      Along next Q s es := by
  intro es
  induction es with
  | nil => intro s _ _ _; trivial
  | cons e es ih =>
      intro s hs hI hP s' hstep
      obtain ⟨hhead, htail⟩ := hP s' hstep
      obtain ⟨hQ, hI'⟩ := h s e s' hs hI hstep hhead
      exact ⟨hQ, ih (hs.tail hstep) hI' htail⟩

theorem along_mono {i : σ} {P Q : σ → ε → σ → Prop}
    (h : ∀ s e s', Reachable next i s → next s e = some s' → P s e s' → Q s e s')
    (es : List ε) {s : σ} (hs : Reachable next i s) (hP : Along next P s es) :
    Along next Q s es :=
  along_of_invariant (I := fun _ => True)
    (fun a e b ha _ hstep hab => ⟨h a e b ha hstep hab, trivial⟩) es hs trivial hP

/-- Two per-step properties that agree at reachable states agree along every run. -/
theorem along_iff_along {i : σ} {P Q : σ → ε → σ → Prop}
    (h : ∀ s e s', Reachable next i s → next s e = some s' → (P s e s' ↔ Q s e s'))
    (es : List ε) : Along next P i es ↔ Along next Q i es :=
  ⟨along_mono (fun s e s' hs hstep => (h s e s' hs hstep).mp) es (Reachable.init i),
   along_mono (fun s e s' hs hstep => (h s e s' hs hstep).mpr) es (Reachable.init i)⟩

/-- `Along` read pointwise: it speaks of every step at every position of the run. -/
theorem along_iff_forall_split {P : σ → ε → σ → Prop} {es : List ε} {s : σ} :
    Along next P s es ↔
      ∀ pre e post a b, es = pre ++ e :: post → run next s pre = some a →
        next a e = some b → P a e b := by
  induction es generalizing s with
  | nil => simp [Along]
  | cons f es ih =>
      constructor
      · intro h pre e post a b hes hpre hstep
        cases pre with
        | nil =>
            rw [List.nil_append, List.cons.injEq] at hes
            rw [run_nil, Option.some.injEq] at hpre
            obtain ⟨rfl, rfl⟩ := hes
            subst hpre
            exact (h b hstep).1
        | cons g pre =>
            rw [List.cons_append, List.cons.injEq] at hes
            obtain ⟨rfl, hes⟩ := hes
            obtain ⟨m, hm, hpre⟩ := run_cons_eq_some.mp hpre
            exact ih.mp (h m hm).2 pre e post a b hes hpre hstep
      · intro h s' hs'
        refine ⟨h [] f es s s' rfl rfl hs', ih.mpr ?_⟩
        intro pre e post a b hes hpre hstep
        exact h (f :: pre) e post a b (by rw [hes, List.cons_append])
          (run_cons_eq_some.mpr ⟨s', hs', hpre⟩) hstep

/-- A run from `¬ Q` to `Q` has a step that makes `Q` true. -/
theorem exists_first_step {Q : σ → Prop} {s s' : σ} {es : List ε}
    (hr : run next s es = some s') (h0 : ¬ Q s) (h1 : Q s') :
    ∃ pre e post a b, es = pre ++ e :: post ∧ run next s pre = some a ∧ ¬ Q a ∧
      next a e = some b ∧ Q b ∧ run next b post = some s' := by
  induction es generalizing s with
  | nil =>
      rw [run_nil, Option.some.injEq] at hr
      exact absurd (hr ▸ h1) h0
  | cons e es ih =>
      obtain ⟨m, hm, hr⟩ := run_cons_eq_some.mp hr
      by_cases hQ : Q m
      · exact ⟨[], e, es, s, m, rfl, rfl, h0, hm, hQ, hr⟩
      · obtain ⟨pre, f, post, a, b, hes, hpre, ha, hstep, hb, hpost⟩ := ih hr hQ
        exact ⟨e :: pre, f, post, a, b, by rw [hes, List.cons_append],
          run_cons_eq_some.mpr ⟨m, hm, hpre⟩, ha, hstep, hb, hpost⟩

/-! ## §4. Counting the steps of a run. -/

/-- The sum of `count` over the steps (state before, label, state after) the run takes. -/
def tally (next : σ → ε → Option σ) (count : σ → ε → σ → Nat) : σ → List ε → Nat
  | _, [] => 0
  | s, e :: es =>
      match next s e with
      | none => 0
      | some s' => count s e s' + tally next count s' es

theorem tally_cons {count : σ → ε → σ → Nat} {s s' : σ} {e : ε} (h : next s e = some s')
    (es : List ε) :
    tally next count s (e :: es) = count s e s' + tally next count s' es := by
  simp only [tally, h]

theorem tally_of_none {count : σ → ε → σ → Nat} {s : σ} {e : ε} (h : next s e = none)
    (es : List ε) : tally next count s (e :: es) = 0 := by
  simp only [tally, h]

/-- Two counts side by side. -/
theorem tally_add (next : σ → ε → Option σ) (count count' : σ → ε → σ → Nat) (es : List ε) :
    ∀ s, tally next (fun a e b => count a e b + count' a e b) s es
      = tally next count s es + tally next count' s es := by
  induction es with
  | nil => intro s; rfl
  | cons e es ih =>
      intro s
      cases hs : next s e with
      | none => rw [tally_of_none hs, tally_of_none hs, tally_of_none hs]
      | some s' =>
          rw [tally_cons hs, tally_cons hs, tally_cons hs, ih s']
          omega

/-- **Counting rule.**  A measure that every step from a reachable state raises by the count of
the step has grown by the tally after a run. -/
theorem run_tally {i : σ} {f : σ → Nat} {count : σ → ε → σ → Nat}
    (hstep : ∀ s e s', Reachable next i s → next s e = some s' → f s' = f s + count s e s') :
    ∀ (es : List ε) {s s' : σ}, Reachable next i s → run next s es = some s' →
      f s' = f s + tally next count s es := by
  intro es
  induction es with
  | nil =>
      intro s s' _ hr
      rw [run_nil, Option.some.injEq] at hr
      rw [hr]
      rfl
  | cons e es ih =>
      intro s s' hreach hr
      obtain ⟨m, hm, hr⟩ := run_cons_eq_some.mp hr
      rw [tally_cons hm, ih (hreach.tail hm) hr, hstep s e m hreach hm]
      omega

/-- **Ranking rule.**  A rank that no step with a label in `P` raises and every counted one lowers
bounds how many counted labels a run with labels in `P` has. -/
theorem run_countP_le {f : σ → Nat} {P : ε → Prop} {p : ε → Bool}
    (hstep : ∀ s e s', P e → next s e = some s' → f s' + (if p e then 1 else 0) ≤ f s) :
    ∀ (es : List ε) {s s' : σ}, (∀ e ∈ es, P e) → run next s es = some s' →
      f s' + es.countP p ≤ f s := by
  intro es
  induction es with
  | nil =>
      intro s s' _ hr
      rw [run_nil, Option.some.injEq] at hr
      rw [hr, List.countP_nil]
      exact Nat.le_refl _
  | cons e es ih =>
      intro s s' hP hr
      obtain ⟨m, hm, hr⟩ := run_cons_eq_some.mp hr
      have hhead := hstep s e m (hP e List.mem_cons_self) hm
      have htail := ih (fun f hf => hP f (List.mem_cons_of_mem e hf)) hr
      rw [List.countP_cons]
      omega

/-! ## §5. Runs that a second automaton allows. -/

/-- **Watched run rule.**  `watch` is an assumption about the environment: an automaton over the
labels of the system.  What relates its state to that of the system and is preserved by every
step both take is preserved by every run both take. -/
theorem run_watched {γ : Type*} {watch : γ → ε → Option γ} {i : σ} {I : γ → σ → Prop}
    (hstep : ∀ g s e g' s', Reachable next i s → I g s → watch g e = some g' →
      next s e = some s' → I g' s') :
    ∀ (es : List ε) {g g' : γ} {s s' : σ}, Reachable next i s → I g s →
      run watch g es = some g' → run next s es = some s' → I g' s' := by
  intro es
  induction es with
  | nil =>
      intro g g' s s' _ hI hg hs
      rw [run_nil, Option.some.injEq] at hg hs
      exact hg ▸ hs ▸ hI
  | cons e es ih =>
      intro g g' s s' hreach hI hg hs
      obtain ⟨n, hn, hg⟩ := run_cons_eq_some.mp hg
      obtain ⟨m, hm, hs⟩ := run_cons_eq_some.mp hs
      exact ih (hreach.tail hm) (hstep g s e n m hreach hI hn hm) hg hs

end TaskGrid.Lib
