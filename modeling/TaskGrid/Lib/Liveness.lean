/-
  TaskGrid.Lib.Liveness — infinite runs and what must happen in them.

  In an infinite run the system makes a step or stands still (`none`), since
  the rest of the world also moves.  What is fair about a run is said by the
  user, as a hypothesis about its labels; the rules here turn "such a step
  comes" into "such a state comes".  The file names no program.

  Main results:
    * `leadsTo_of_helpful` — a condition that every step keeps or turns into
      the goal, and that some later step is sure to end, leads to the goal.
    * `leadsTo_of_rank` — so does a condition under which a natural number is
      sure to get smaller.
    * `leadsTo_of_fifo` — an entry of a queue that is served again and again
      is served.
-/
import TaskGrid.Lib.Transition

namespace TaskGrid.Lib

variable {σ ε : Type*}

/-! ## §1. Infinite runs. -/

/-- A run without end. -/
structure InfiniteRun (next : σ → ε → Option σ) (init : σ) where
  state : Nat → σ
  label : Nat → Option ε
  start : state 0 = init
  step : ∀ n, match label n with
    | none => state (n + 1) = state n
    | some e => next (state n) e = some (state (n + 1))

namespace InfiniteRun

variable {next : σ → ε → Option σ} {init : σ} (r : InfiniteRun next init)

theorem step_of_label {n : Nat} {e : ε} (h : r.label n = some e) :
    next (r.state n) e = some (r.state (n + 1)) := by
  have hstep := r.step n
  rw [h] at hstep
  exact hstep

theorem state_of_idle {n : Nat} (h : r.label n = none) : r.state (n + 1) = r.state n := by
  have hstep := r.step n
  rw [h] at hstep
  exact hstep

/-- Every state of the run is reachable. -/
theorem reachable (n : Nat) : Reachable next init (r.state n) := by
  induction n with
  | zero =>
      rw [r.start]
      exact Reachable.init init
  | succ n ih =>
      cases hl : r.label n with
      | none =>
          rw [r.state_of_idle hl]
          exact ih
      | some e => exact ih.tail (r.step_of_label hl)

/-- What every step preserves holds from a moment on. -/
theorem always_of_step {P : σ → Prop}
    (hstep : ∀ n e, r.label n = some e → P (r.state n) → P (r.state (n + 1))) {n : Nat}
    (h : P (r.state n)) : ∀ m, n ≤ m → P (r.state m) := by
  intro m hm
  induction hm with
  | refl => exact h
  | @step m _ ih =>
      cases hl : r.label m with
      | none =>
          rw [r.state_of_idle hl]
          exact ih
      | some e => exact hstep m e hl ih

/-! ## §2. Leads-to. -/

/-- Whenever `P` holds, `Q` holds then or later. -/
def LeadsTo (P Q : σ → Prop) : Prop :=
  ∀ n, P (r.state n) → ∃ m, n ≤ m ∧ Q (r.state m)

variable {r} {P P' Q Q' R : σ → Prop}

theorem LeadsTo.trans (h : r.LeadsTo P Q) (h' : r.LeadsTo Q R) : r.LeadsTo P R := by
  intro n hP
  obtain ⟨m, hm, hQ⟩ := h n hP
  obtain ⟨k, hk, hR⟩ := h' m hQ
  exact ⟨k, Nat.le_trans hm hk, hR⟩

/-- What is reached on one of two ways. -/
theorem LeadsTo.or_trans (h : r.LeadsTo P fun s => Q s ∨ R s) (h' : r.LeadsTo R Q) :
    r.LeadsTo P Q := by
  intro n hP
  obtain ⟨m, hm, hQ | hR⟩ := h n hP
  · exact ⟨m, hm, hQ⟩
  · obtain ⟨k, hk, hQ⟩ := h' m hR
    exact ⟨k, Nat.le_trans hm hk, hQ⟩

theorem LeadsTo.mono (h : r.LeadsTo P Q) (hP : ∀ n, P' (r.state n) → P (r.state n))
    (hQ : ∀ n, Q (r.state n) → Q' (r.state n)) : r.LeadsTo P' Q' := by
  intro n h'
  obtain ⟨m, hm, hm'⟩ := h n (hP n h')
  exact ⟨m, hm, hQ m hm'⟩

/-- A condition that every step keeps or turns into `Q` holds as long as `Q` has not come. -/
theorem until_or (hkeep : ∀ n e, r.label n = some e → P (r.state n) →
      P (r.state (n + 1)) ∨ Q (r.state (n + 1))) {n : Nat} (h : P (r.state n)) :
    ∀ m, n ≤ m → P (r.state m) ∨ ∃ k, n ≤ k ∧ k ≤ m ∧ Q (r.state k) := by
  intro m hm
  induction hm with
  | refl => exact .inl h
  | @step m hm ih =>
      rcases ih with hP | ⟨k, hnk, hkm, hQ⟩
      · cases hl : r.label m with
        | none =>
            rw [r.state_of_idle hl]
            exact .inl hP
        | some e =>
            rcases hkeep m e hl hP with hP | hQ
            · exact .inl hP
            · exact .inr ⟨m + 1, Nat.le_succ_of_le hm, Nat.le_refl _, hQ⟩
      · exact .inr ⟨k, hnk, Nat.le_succ_of_le hkm, hQ⟩

/-- **Progress rule.**  A condition that every step keeps or turns into `Q`, and that some later
step cannot but end, leads to `Q`. -/
theorem leadsTo_of_helpful
    (hkeep : ∀ n e, r.label n = some e → P (r.state n) →
      P (r.state (n + 1)) ∨ Q (r.state (n + 1)))
    (hhelp : ∀ n, P (r.state n) → ∃ m, n ≤ m ∧ (P (r.state m) → Q (r.state (m + 1)))) :
    r.LeadsTo P Q := by
  intro n hP
  obtain ⟨m, hm, hend⟩ := hhelp n hP
  rcases until_or hkeep hP m hm with hP' | ⟨k, hk, _, hQ⟩
  · exact ⟨m + 1, Nat.le_succ_of_le hm, hend hP'⟩
  · exact ⟨k, hk, hQ⟩

/-- The progress rule for a step that is known by its label. -/
theorem leadsTo_of_label {H : ε → Prop}
    (hkeep : ∀ n e, r.label n = some e → P (r.state n) → ¬ H e →
      P (r.state (n + 1)) ∨ Q (r.state (n + 1)))
    (hend : ∀ n e, r.label n = some e → P (r.state n) → H e → Q (r.state (n + 1)))
    (hcome : ∀ n, P (r.state n) → ∃ m e, n ≤ m ∧ r.label m = some e ∧ H e) : r.LeadsTo P Q := by
  refine leadsTo_of_helpful ?_ ?_
  · intro n e hl hP
    by_cases he : H e
    · exact .inr (hend n e hl hP he)
    · exact hkeep n e hl hP he
  · intro n hP
    obtain ⟨m, e, hm, hl, he⟩ := hcome n hP
    exact ⟨m, hm, fun hP => hend m e hl hP he⟩

/-- **Rank rule.**  A condition under which a number is sure to get smaller, unless `Q` comes,
leads to `Q`. -/
theorem leadsTo_of_rank {f : σ → Nat}
    (h : ∀ k, r.LeadsTo (fun s => P s ∧ f s = k) fun s => Q s ∨ (P s ∧ f s < k)) :
    r.LeadsTo P Q := by
  -- by strong induction on the number
  have hbelow : ∀ k, r.LeadsTo (fun s => P s ∧ f s = k) Q := by
    intro k
    induction k using Nat.strongRecOn with
    | ind k ih =>
        refine (h k).or_trans ?_
        intro n hn
        exact ih (f (r.state n)) hn.2 n ⟨hn.1, rfl⟩
  intro n hP
  exact hbelow (f (r.state n)) n ⟨hP, rfl⟩

/-- **Queue rule.**  In a queue that grows at its end and is served at its head, again and again
while `a` is in it, the entry `a` comes to be served, unless `C` is given up before. -/
theorem leadsTo_of_fifo {α : Type*} [DecidableEq α] {queue : σ → List α} {C : σ → Prop}
    {H : ε → Prop} {a : α}
    (hkeep : ∀ n e, r.label n = some e → ¬ H e →
      ∃ new, queue (r.state (n + 1)) = queue (r.state n) ++ new)
    (hserve : ∀ n e, r.label n = some e → H e →
      ∃ new, queue (r.state (n + 1)) = (queue (r.state n)).tail ++ new)
    (hhead : ∀ n e rest, r.label n = some e → H e → C (r.state n) →
      queue (r.state n) = a :: rest → Q (r.state (n + 1)))
    (hcome : ∀ n, a ∈ queue (r.state n) → ∃ m e, n ≤ m ∧ r.label m = some e ∧ H e) :
    r.LeadsTo (fun s => a ∈ queue s ∧ C s) fun s => Q s ∨ ¬ C s := by
  -- the rank is the position in the queue
  refine leadsTo_of_rank (f := fun s => (queue s).idxOf a) ?_
  intro k
  refine leadsTo_of_label (H := H) ?_ ?_ ?_
  · intro n e hl hP he
    obtain ⟨⟨ha, _⟩, hk⟩ := hP
    by_cases hC : C (r.state (n + 1))
    · left
      obtain ⟨new, hnew⟩ := hkeep n e hl he
      rw [hnew, List.idxOf_append_of_mem ha]
      exact ⟨⟨List.mem_append_left _ ha, hC⟩, hk⟩
    · exact .inr (.inl (.inr hC))
  · intro n e hl hP he
    obtain ⟨⟨ha, hCn⟩, hk⟩ := hP
    by_cases hC : C (r.state (n + 1))
    · obtain ⟨new, hnew⟩ := hserve n e hl he
      cases hq : queue (r.state n) with
      | nil =>
          rw [hq] at ha
          cases ha
      | cons b rest =>
          by_cases hb : b = a
          · rw [hb] at hq
            exact .inl (.inl (hhead n e rest hl he hCn hq))
          · have hrest : a ∈ rest := by
              rw [hq, List.mem_cons] at ha
              exact ha.resolve_left (Ne.symm hb)
            right
            rw [hnew, hq, List.tail_cons, List.idxOf_append_of_mem hrest, ← hk, hq,
              List.idxOf_cons_ne _ hb]
            exact ⟨⟨List.mem_append_left _ hrest, hC⟩, Nat.lt_succ_self _⟩
    · exact .inl (.inr hC)
  · intro n hP
    exact hcome n hP.1.1

/-! ## §3. Runs that end in a loop. -/

/-- A finite run followed by one step that changes nothing, again and again. -/
def lasso {s : σ} (es : List ε) (e : ε) (hrun : run next init es = some s)
    (hloop : next s e = some s) : InfiniteRun next init where
  state n := (run next init (es.take n)).getD s
  label n := some (es[n]?.getD e)
  start := by simp
  step n := by
    show next _ (es[n]?.getD e) = _
    by_cases hn : n < es.length
    · -- still in the finite run
      have hprefix : ∃ a, run next init (es.take (n + 1)) = some a := by
        have hsplit := hrun
        rw [← List.take_append_drop (n + 1) es, run_append_eq_some] at hsplit
        obtain ⟨a, ha, _⟩ := hsplit
        exact ⟨a, ha⟩
      obtain ⟨b, hb⟩ := hprefix
      have hlast := hb
      rw [List.take_add_one, List.getElem?_eq_getElem hn, Option.toList_some,
        run_append_eq_some] at hlast
      obtain ⟨a, ha, hab⟩ := hlast
      rw [ha, hb, List.getElem?_eq_getElem hn, Option.getD_some, Option.getD_some, Option.getD_some]
      exact run_singleton_eq_some.mp hab
    · have hle : es.length ≤ n := Nat.le_of_not_lt hn
      rw [List.take_of_length_le hle, List.take_of_length_le (Nat.le_succ_of_le hle), hrun,
        List.getElem?_eq_none hle]
      exact hloop

theorem state_lasso_of_le {s : σ} {es : List ε} {e : ε} (hrun : run next init es = some s)
    (hloop : next s e = some s) {n : Nat} (hn : es.length ≤ n) :
    (lasso es e hrun hloop).state n = s := by
  show (run next init (es.take n)).getD s = s
  rw [List.take_of_length_le hn, hrun, Option.getD_some]

theorem label_lasso_of_le {s : σ} {es : List ε} {e : ε} (hrun : run next init es = some s)
    (hloop : next s e = some s) {n : Nat} (hn : es.length ≤ n) :
    (lasso es e hrun hloop).label n = some e := by
  show some (es[n]?.getD e) = some e
  rw [List.getElem?_eq_none hn, Option.getD_none]

end InfiniteRun

/-! ## §4. What a run looks like in another system. -/

/-- The run of a simpler system: each step of the run is one of its steps, or invisible to it. -/
def InfiniteRun.map {τ δ : Type*} {next' : τ → δ → Option τ} (r : InfiniteRun next init)
    (f : σ → τ) (g : σ → ε → Option δ)
    (hstep : ∀ n e, r.label n = some e →
      match g (r.state n) e with
      | none => f (r.state (n + 1)) = f (r.state n)
      | some e' => next' (f (r.state n)) e' = some (f (r.state (n + 1)))) :
    InfiniteRun next' (f init) where
  state n := f (r.state n)
  label n := (r.label n).bind (g (r.state n))
  start := congrArg f r.start
  step n := by
    cases hl : r.label n with
    | none => exact congrArg f (r.state_of_idle hl)
    | some e => exact hstep n e hl

end TaskGrid.Lib
