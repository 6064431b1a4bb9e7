import AccessGate.Proofs.Checks

/-! # Conditions in order

A check looks at conditions one after the other. It passes when all of them hold, and else it ends with what is
reported of the first one that does not: a check that is made of two tests their conditions in a row. -/
namespace AccessGate

/-- A condition, and what may be reported when it does not hold. -/
structure Condition (ε : Type) where
  Holds : Prop
  Reports : ε → Prop

/-- `FirstBroken conditions e`: of the conditions, the first one that does not hold reports `e`. -/
def FirstBroken {ε : Type} (conditions : List (Condition ε)) (e : ε) : Prop :=
  ∃ before c after, conditions = before ++ c :: after ∧ (∀ b ∈ before, b.Holds) ∧ ¬c.Holds ∧ c.Reports e

/-- `Tests conditions x`: the check `x` looks at the conditions in their order. -/
structure Tests {ε α : Type} (conditions : List (Condition ε)) (x : Except ε α) : Prop where
  passes : (∃ a, x = .ok a) ↔ ∀ c ∈ conditions, c.Holds
  fails : ∀ e, x = .error e ↔ FirstBroken conditions e

section
variable {ε α β : Type} {c : Condition ε} {cs ds : List (Condition ε)} {e : ε}

theorem not_firstBroken_nil : ¬FirstBroken ([] : List (Condition ε)) e := by
  rintro ⟨before, c, after, h, _⟩
  simp at h

theorem firstBroken_cons :
    FirstBroken (c :: cs) e ↔ ¬c.Holds ∧ c.Reports e ∨ c.Holds ∧ FirstBroken cs e := by
  constructor
  · rintro ⟨before, d, after, hsplit, hbefore, hbroken, hreports⟩
    cases before with
    | nil =>
      cases hsplit
      exact .inl ⟨hbroken, hreports⟩
    | cons b before =>
      cases hsplit
      obtain ⟨hfirst, hbefore⟩ := List.forall_mem_cons.mp hbefore
      exact .inr ⟨hfirst, before, d, after, rfl, hbefore, hbroken, hreports⟩
  · rintro (⟨hbroken, hreports⟩ | ⟨hholds, before, d, after, rfl, hbefore, hbroken, hreports⟩)
    · exact ⟨[], c, cs, rfl, by simp, hbroken, hreports⟩
    · exact ⟨c :: before, d, after, rfl, List.forall_mem_cons.mpr ⟨hholds, hbefore⟩, hbroken, hreports⟩

theorem firstBroken_append :
    FirstBroken (cs ++ ds) e ↔ FirstBroken cs e ∨ (∀ c ∈ cs, c.Holds) ∧ FirstBroken ds e := by
  induction cs with
  | nil => simp [not_firstBroken_nil]
  | cons c cs ih =>
    rw [List.cons_append, firstBroken_cons, firstBroken_cons, ih, List.forall_mem_cons]
    tauto

namespace Tests
variable {x : Except ε α}

theorem ok (a : α) : Tests [] (.ok a : Except ε α) :=
  ⟨by simp, fun _ => by simp [not_firstBroken_nil]⟩

theorem pass (hc : c.Holds) (h : Tests cs x) : Tests (c :: cs) x := by
  refine ⟨?_, fun e => ?_⟩
  · rw [h.passes, List.forall_mem_cons, and_iff_right hc]
  · rw [h.fails, firstBroken_cons]
    simp [hc]

theorem stop (hc : ¬c.Holds) (hreports : ∀ e', c.Reports e' ↔ e' = e) :
    Tests (c :: cs) (.error e : Except ε α) := by
  refine ⟨?_, fun e' => ?_⟩
  · simp [hc]
  · rw [firstBroken_cons, hreports]
    simp [hc, eq_comm]

theorem bind {g : α → Except ε β} (hx : Tests cs x) (hg : ∀ a, x = .ok a → Tests ds (g a)) :
    Tests (cs ++ ds) (x >>= g) := by
  cases x with
  | error e =>
    have hcs : ¬∀ c ∈ cs, c.Holds := fun h => by
      obtain ⟨a, ha⟩ := hx.passes.mpr h
      cases ha
    refine ⟨⟨fun ⟨b, hb⟩ => (by cases hb), fun h => ?_⟩, fun e' => ?_⟩
    · exact absurd (fun c hc => h c (List.mem_append_left _ hc)) hcs
    · rw [firstBroken_append, ← hx.fails]
      simp [hcs, Except.bind, Bind.bind]
  | ok a =>
    have hcs : ∀ c ∈ cs, c.Holds := hx.passes.mp ⟨a, rfl⟩
    have hds := hg a rfl
    refine ⟨?_, fun e => ?_⟩
    · rw [List.forall_mem_append, and_iff_right hcs]
      exact hds.passes
    · rw [firstBroken_append, ← hx.fails, and_iff_right hcs, ← hds.fails]
      simp [Except.bind, Bind.bind]

theorem forM {items : List β} {conditions : β → List (Condition ε)} {check : β → Except ε PUnit}
    (h : ∀ b, Tests (conditions b) (check b)) : Tests (items.flatMap conditions) (items.forM check) := by
  induction items with
  | nil => exact ok _
  | cons b items ih => exact (h b).bind fun _ _ => ih

theorem refuse {P : Prop} [Decidable P] (hP : P ↔ ¬c.Holds) (hreports : ∀ e', c.Reports e' ↔ e' = e)
    (h : c.Holds → Tests cs x) : Tests (c :: cs) (if P then .error e else x) := by
  by_cases hc : c.Holds
  · rw [if_neg (by simpa [hP] using hc)]
    exact pass hc (h hc)
  · rw [if_pos (hP.mpr hc)]
    exact stop hc hreports

theorem require {P : Prop} [Decidable P] (hP : P ↔ c.Holds) (hreports : ∀ e', c.Reports e' ↔ e' = e)
    (h : c.Holds → Tests cs x) : Tests (c :: cs) (if P then x else .error e) := by
  rw [← ite_not]
  exact refuse (not_congr hP) hreports h

end Tests
end
end AccessGate
