import ForumMarkup.Proofs.Pass.Course
/-
**Computations that run the same.**

Two computations of a pass run the same if from every state of its progress they end in the same way
and with the same progress.  Trees that are put together differently can still be told apart by the
order in which they fail: a value that is no text is refused when the text around it is joined, and
what comes in between may be refused before.  So there is a lenient way of comparing runs, in which
the second one may fail in any way where the first one fails for such a value.

Main definitions:

* `ForumMarkup.PassM.Yields` — all values that a computation yields have a property;
* `ForumMarkup.SameRun` — one computation runs as another one does, strictly or leniently.

Main results:

* `ForumMarkup.SameRun.eq` — computations that run the same strictly are equal;
* `ForumMarkup.SameRun.bind` — **one computation after another runs the same** if both do.
-/

set_option autoImplicit false

namespace ForumMarkup

variable {α β : Type}

/-! ### What computations yield -/

/-- All values that a computation yields have a property. -/
def PassM.Yields (P : α → Prop) (m : PassM α) : Prop :=
  ∀ p a q, m.runFrom p = (.ok a, q) → P a

namespace PassM.Yields

variable {P : α → Prop} {Q : β → Prop} {m : PassM α}

theorem pure {a : α} (h : P a) : Yields P (pure a) := by
  intro p a' q hrun
  cases hrun
  exact h

theorem settle (e? : Option Abort) {a : α} (h : P a) : Yields P (PassM.settle e? a) := by
  cases e? with
  | some e => exact fun _ _ _ => nofun
  | none => exact pure h

theorem bind {f : α → PassM β} (hm : Yields P m) (hf : ∀ a, P a → Yields Q (f a)) :
    Yields Q (m >>= f) := by
  intro p b q hrun
  rcases hfirst : m.runFrom p with ⟨e | a, p'⟩
  · rw [runFrom_bind_error hfirst] at hrun
    cases hrun
  · rw [runFrom_bind_ok hfirst] at hrun
    exact hf a (hm p a p' hfirst) p' b q hrun

/-- What comes before the last step does not matter. -/
theorem after {f : α → PassM β} (hf : ∀ a, Yields Q (f a)) : Yields Q (m >>= f) :=
  bind (P := fun _ => True) (fun _ _ _ _ => trivial) fun a _ => hf a

end PassM.Yields

/-! ### Runs -/

/-- The second computation runs as the first one does.  When `lenient` holds it may also fail in
another way, where the first one fails for a value that is no text. -/
def SameRun (lenient : Prop) (m m' : PassM α) : Prop :=
  ∀ p, m'.runFrom p = m.runFrom p ∨
    lenient ∧ (m.runFrom p).1 = .error (.misfit .notText) ∧ ∃ e, (m'.runFrom p).1 = .error e

namespace SameRun

variable {lenient : Prop} {m m' m'' : PassM α}

theorem refl (m : PassM α) : SameRun lenient m m :=
  fun _ => .inl rfl

theorem of_eq (h : m' = m) : SameRun lenient m m' :=
  fun _ => .inl (by rw [h])

/-- Computations that run the same strictly are equal. -/
theorem eq (h : SameRun False m m') : m' = m := by
  have hrun : ∀ p, m'.runFrom p = m.runFrom p := fun p => (h p).resolve_right (·.1)
  exact funext hrun

theorem trans (h : SameRun lenient m m') (h' : SameRun lenient m' m'') :
    SameRun lenient m m'' := by
  intro p
  rcases h' p with heq' | ⟨hlenient, hfails, hfails'⟩
  · rw [heq']
    exact h p
  · rcases h p with heq | ⟨-, hfirst, -⟩
    · exact .inr ⟨hlenient, heq ▸ hfails, hfails'⟩
    · exact .inr ⟨hlenient, hfirst, hfails'⟩

theorem fst_bind_error {f : α → PassM β} {p : Progress} {e : Abort}
    (h : (m.runFrom p).1 = .error e) : ((m >>= f).runFrom p).1 = .error e := by
  have hrun : m.runFrom p = (.error e, (m.runFrom p).2) := Prod.ext h rfl
  rw [PassM.runFrom_bind_error hrun]

/-- One computation after another, when something is known of the values of the first one. -/
theorem bind_of_yields {P : α → Prop} {f f' : α → PassM β} (h : SameRun lenient m m')
    (hm : m.Yields P) (hf : ∀ a, P a → SameRun lenient (f a) (f' a)) :
    SameRun lenient (m >>= f) (m' >>= f') := by
  intro p
  rcases h p with heq | ⟨hlenient, hfails, e, hfails'⟩
  · rcases hrun : m.runFrom p with ⟨e | a, q⟩
    · rw [PassM.runFrom_bind_error hrun, PassM.runFrom_bind_error (heq.trans hrun)]
      exact .inl rfl
    · rw [PassM.runFrom_bind_ok hrun, PassM.runFrom_bind_ok (heq.trans hrun)]
      exact hf a (hm p a q hrun) q
  · exact .inr ⟨hlenient, fst_bind_error hfails, e, fst_bind_error hfails'⟩

/-- One computation after another. -/
theorem bind {f f' : α → PassM β} (h : SameRun lenient m m')
    (hf : ∀ a, SameRun lenient (f a) (f' a)) : SameRun lenient (m >>= f) (m' >>= f') :=
  bind_of_yields (P := fun _ => True) h (fun _ _ _ _ => trivial) fun a _ => hf a

/-- The same computation before two others. -/
theorem bind_left (m : PassM α) {f f' : α → PassM β} (hf : ∀ a, SameRun lenient (f a) (f' a)) :
    SameRun lenient (m >>= f) (m >>= f') :=
  (refl m).bind hf

/-- The same computation after two others. -/
theorem bind_right (h : SameRun lenient m m') (f : α → PassM β) :
    SameRun lenient (m >>= f) (m' >>= f) :=
  h.bind fun a => refl (f a)

/-- Where the one fails for a value that is no text, the other one may fail at its end instead. -/
theorem of_throw (hlenient : lenient) (m : PassM α) (e : Abort) :
    SameRun lenient (throw (.misfit .notText) : PassM β) (m >>= fun _ => throw e) := by
  intro p
  refine .inr ⟨hlenient, rfl, ?_⟩
  rcases hrun : m.runFrom p with ⟨e' | a, q⟩
  · exact ⟨e', by rw [PassM.runFrom_bind_error hrun]⟩
  · exact ⟨e, by rw [PassM.runFrom_bind_ok hrun]; rfl⟩

end SameRun

end ForumMarkup
