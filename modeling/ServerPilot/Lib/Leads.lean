import ServerPilot.Lib.Run

/-!
# What a run leads to

`Leads s s'` says that some run goes from `s` to `s'`. A loop that lets runs happen between its
own steps leads from where it starts to where it ends (`foldl_leads`), and what each element of
its list gets when its turn comes is there at the end, if no later turn takes it away
(`foldl_settles`).
-/

namespace Run

variable {σ ι : Type*} {step : σ → ι → σ} {s s' s'' : σ}

/-- Some run goes from `s` to `s'`. -/
def Leads (step : σ → ι → σ) (s s' : σ) : Prop := ∃ is, s' = run step s is

theorem Leads.refl (s : σ) : Leads step s s := ⟨[], rfl⟩

theorem Leads.run (s : σ) (is : List ι) : Leads step s (run step s is) := ⟨is, rfl⟩

theorem Leads.next (s : σ) (i : ι) : Leads step s (step s i) := ⟨[i], rfl⟩

theorem Leads.trans (h : Leads step s s') (h' : Leads step s' s'') : Leads step s s'' := by
  obtain ⟨is, rfl⟩ := h
  obtain ⟨js, rfl⟩ := h'
  exact ⟨is ++ js, (run_append s is js).symm⟩

/-- What every step keeps is kept on the way. -/
theorem Leads.inv {I : σ → Prop} (h : Leads step s s') (hstep : ∀ s i, I s → I (step s i))
    (h0 : I s) : I s' := by
  obtain ⟨is, rfl⟩ := h
  exact run_inv' hstep h0

section

variable {τ α : Type*} {f : τ → α → τ}

theorem foldl_leads (st : τ → σ) (hf : ∀ t a, Leads step (st t) (st (f t a))) (l : List α) (t : τ) :
    Leads step (st t) (st (l.foldl f t)) := by
  induction l generalizing t with
  | nil => exact .refl _
  | cons a l ih => exact (hf t a).trans (ih (f t a))

/-- What an element gets at its turn, and no turn takes away, it has at the end. -/
theorem foldl_settles {I : τ → Prop} {Q : τ → α → Prop} {l : List α}
    (hI : ∀ t, ∀ a ∈ l, I t → I (f t a)) (hkeep : ∀ t a b, I t → Q t b → Q (f t a) b)
    (hturn : ∀ t, ∀ a ∈ l, I t → Q (f t a) a) {t : τ} (h : I t) :
    I (l.foldl f t) ∧ ∀ a ∈ l, Q (l.foldl f t) a := by
  induction l generalizing t with
  | nil => exact ⟨h, fun a ha => by cases ha⟩
  | cons a l ih =>
    have hmem := List.mem_cons_self (a := a) (l := l)
    obtain ⟨hend, hrest⟩ := ih (fun t b hb => hI t b (List.mem_cons_of_mem a hb))
      (fun t b hb => hturn t b (List.mem_cons_of_mem a hb)) (hI t a hmem h)
    refine ⟨hend, fun b hb => ?_⟩
    rcases List.mem_cons.1 hb with rfl | hb
    · -- its own turn comes first, and the others keep what it got
      have hown : I (f t b) ∧ Q (f t b) b := ⟨hI t b hmem h, hturn t b hmem h⟩
      exact (foldl_inv (I := fun u => I u ∧ Q u b) (fun u c hc hu =>
        ⟨hI u c (List.mem_cons_of_mem b hc) hu.1, hkeep u c b hu.1 hu.2⟩) hown).2
    · exact hrest b hb

end

end Run
