import ForumMarkup.Proofs.Pass.Point
/-
**Computations that follow a list of points.**

A computation of a pass does three things at once: it decides whether the pass ends, it numbers
footnotes, and it yields a value.  To say that it follows a list of points takes them apart: the
points alone tell whether it ends and what it numbers, and the value is a function of the numbers.

Numbers are given on the way, but they are never taken back.  So the value of a computation is
determined by every list of labels that begins with those numbered when it is over, and this is what
lets the values of two computations be put together.

Main definitions:

* `ForumMarkup.PassM.runFrom` — a computation of a pass from a state of its progress;
* `ForumMarkup.Progress.Sound` — all numbered labels have a definition;
* `ForumMarkup.Follows` — a computation follows a list of points and then yields a value.

Main results:

* `ForumMarkup.Follows.bind` — **one computation after another follows the points of both**.
-/

set_option autoImplicit false

namespace ForumMarkup

/-! ### Running computations -/

namespace PassM

variable {α β : Type}

/-- A computation of a pass, from a state of its progress. -/
def runFrom (m : PassM α) (p : Progress) : Except Abort α × Progress :=
  m.run.run p

@[simp] theorem runFrom_pure (a : α) (p : Progress) : (pure a : PassM α).runFrom p = (.ok a, p) :=
  rfl

@[simp] theorem runFrom_throw (e : Abort) (p : Progress) :
    (throw e : PassM α).runFrom p = (.error e, p) := rfl

@[simp] theorem runFrom_get (p : Progress) : (get : PassM Progress).runFrom p = (.ok p, p) := rfl

theorem runFrom_bind_ok {m : PassM α} {f : α → PassM β} {p q : Progress} {a : α}
    (h : m.runFrom p = (.ok a, q)) : (m >>= f).runFrom p = (f a).runFrom q := by
  change (ExceptT.bindCont f (m.runFrom p).1).run (m.runFrom p).2 = _
  rw [h]
  rfl

theorem runFrom_bind_error {m : PassM α} {f : α → PassM β} {p q : Progress} {e : Abort}
    (h : m.runFrom p = (.error e, q)) : (m >>= f).runFrom p = (.error e, q) := by
  change (ExceptT.bindCont f (m.runFrom p).1).run (m.runFrom p).2 = _
  rw [h]
  rfl

@[simp] theorem ofMisfit_ok (a : α) : ofMisfit (.ok a) = pure a := rfl

@[simp] theorem ofMisfit_error (m : Misfit) :
    (ofMisfit (.error m) : PassM α) = throw (.misfit m) := rfl

@[simp] theorem ofUnsupported_ok (a : α) : ofUnsupported (.ok a) = pure a := rfl

@[simp] theorem ofUnsupported_error (u : Unsupported) :
    (ofUnsupported (.error u) : PassM α) = throw (.unsupported u) := rfl

@[simp] theorem ofExcept_ok (a : α) : ofExcept (.ok a) = pure a := rfl

@[simp] theorem ofExcept_error (e : Abort) : (ofExcept (.error e) : PassM α) = throw e := rfl

end PassM

/-! ### The markup of a link -/

/-- A target is refused for its scheme. -/
theorem resolveUrl_error {scheme path target : String} {u : Unsupported}
    (h : resolveUrl scheme path target = .error u) : u = .link scheme target := by
  unfold resolveUrl at h
  split at h
  · cases h
  · split at h
    · cases h
    · cases h
      rfl

theorem linkMarkup_of_error {ps : List (String × Property)} {e : Abort} (text : String)
    (h : urlIn ps = .error e) : linkMarkup (partsIn ps) text = throw e := by
  have hurl : (partsIn ps).url = .error e := h
  rw [linkMarkup, hurl]
  rfl

/-- A link with a URL is recorded and written as a tag. -/
theorem linkMarkup_of_ok {ps : List (String × Property)} {url : String} (text : String)
    (h : urlIn ps = .ok url) : linkMarkup (partsIn ps) text = do
      PassM.note (.resolved (partsIn ps).scheme (partsIn ps).target url)
      return formatLink url text := by
  have hurl : (partsIn ps).url = .ok url := h
  rw [linkMarkup, hurl, PassM.ofExcept_ok, pure_bind]

/-! ### Following a list of points -/

/-- All labels that have been numbered have a definition. -/
def Progress.Sound (scope? : Option Scope) (p : Progress) : Prop :=
  ∀ s, scope? = some s → ∀ label ∈ p.numbers, s.defines label = true

/-- A computation follows a list of points from a state of its progress: it ends where they end the
pass, and otherwise makes their changes and yields a value.  The value may depend on the numbers,
but on no more of them than are given when the computation is over. -/
def Follows {α : Type} (premises : Premises) (m : PassM α) (points : List Point)
    (value : List String → α) (p : Progress) : Prop :=
  p.Sound premises.scope? →
    match proceed premises points p with
    | (some e, q) => m.runFrom p = (.error e, q)
    | (none, q) => ∀ numbers, q.numbers <+: numbers → m.runFrom p = (.ok (value numbers), q)

variable {premises : Premises} {α β : Type}

theorem mem_addLabel {labels : List String} {label l : String} :
    l ∈ addLabel labels label ↔ l ∈ labels ∨ l = label := by
  unfold addLabel
  split
  · constructor
    · exact Or.inl
    · rintro (h | rfl) <;> assumption
  · simp

theorem mem_addLabels {labels more : List String} {l : String} :
    l ∈ addLabels labels more ↔ l ∈ labels ∨ l ∈ more := by
  induction more generalizing labels with
  | nil => simp [addLabels]
  | cons label more ih =>
      rw [addLabels, List.foldl_cons, ← addLabels, ih, mem_addLabel, List.mem_cons, or_assoc]

/-- A node numbers labels that have a definition. -/
theorem Node.defines_of_numbered {n : Node} {s : Scope} {label : String}
    (h : n.numbered? (some s) = some label) : s.defines label = true := by
  obtain ⟨kind, ps, cs⟩ := n
  simp only [numbered?, Option.ite_none_right_eq_some, Option.some.injEq] at h
  obtain ⟨-, hd, rfl⟩ := h
  exact (Bool.and_eq_true_iff.1 hd).2

theorem Point.defines_of_numbered {m : Point} {s : Scope} {label : String}
    (h : m.numbered? (some s) = some label) : s.defines label = true := by
  cases m with
  | construct n => exact n.defines_of_numbered h
  | _ => cases h

theorem Progress.Sound.proceed {points : List Point} {p q : Progress}
    (hp : p.Sound premises.scope?) (h : ForumMarkup.proceed premises points p = (none, q)) :
    q.Sound premises.scope? := by
  intro s hs label hl
  rw [proceed_numbers h, mem_addLabels] at hl
  rcases hl with hl | hl
  · exact hp s hs label hl
  · obtain ⟨m, -, hm⟩ := List.mem_filterMap.1 hl
    rw [hs] at hm
    exact m.defines_of_numbered hm

namespace Follows

variable {m : PassM α} {points points' : List Point} {p : Progress}

/-- A computation ends where its points end the pass. -/
theorem run_of_some {value : List String → α} {e : Abort} {q : Progress}
    (h : Follows premises m points value p) (hp : p.Sound premises.scope?)
    (hproceed : ForumMarkup.proceed premises points p = (some e, q)) :
    m.runFrom p = (.error e, q) := by
  have hrun := h hp
  rw [hproceed] at hrun
  exact hrun

/-- A computation whose points do not end the pass yields its value. -/
theorem run_of_none {value : List String → α} {q : Progress} {numbers : List String}
    (h : Follows premises m points value p) (hp : p.Sound premises.scope?)
    (hproceed : ForumMarkup.proceed premises points p = (none, q))
    (hnumbers : q.numbers <+: numbers) : m.runFrom p = (.ok (value numbers), q) := by
  have hrun := h hp
  rw [hproceed] at hrun
  exact hrun numbers hnumbers

theorem pure (a : α) : Follows premises (pure a) [] (fun _ => a) p :=
  fun _ _ _ => rfl

/-- A computation that ends at its first point. -/
theorem of_abort {point : Point} {e : Abort} (points : List Point) (value : List String → α)
    (he : point.abort? premises = some e) (hm : m.runFrom p = (.error e, p)) :
    Follows premises m (point :: points) value p := by
  intro _
  simpa only [proceed, he] using hm

/-- A computation that passes its only point. -/
theorem of_point {point : Point} {value : List String → α} (he : point.abort? premises = none)
    (hm : ∀ numbers, (point.advance premises.scope? p).numbers <+: numbers →
      m.runFrom p = (.ok (value numbers), point.advance premises.scope? p)) :
    Follows premises m [point] value p := by
  intro _
  simpa only [proceed, he] using hm

/-- A computation that is settled by a point at which nothing changes. -/
theorem of_settle {point : Point} {a : α} (hn : point.numbered? premises.scope? = none)
    (he : point.event? p = none) (hm : m = PassM.settle (point.abort? premises) a) :
    Follows premises m [point] (fun _ => a) p := by
  have hsame : point.advance premises.scope? p = p := by simp [Point.advance, hn, he, addLabels]
  subst hm
  cases h : point.abort? premises with
  | some e => exact of_abort [] _ h rfl
  | none => exact of_point h fun _ _ => by rw [hsame]; rfl

/-- A point at which nothing happens may come first. -/
theorem skip {point : Point} {value : List String → α} (he : point.abort? premises = none)
    (hn : point.numbered? premises.scope? = none) (hr : point.event? p = none)
    (h : Follows premises m points value p) : Follows premises m (point :: points) value p := by
  have hsame : point.advance premises.scope? p = p := by simp [Point.advance, hn, hr, addLabels]
  intro hp
  simpa only [proceed, he, hsame] using h hp

/-- One computation after another. -/
theorem bind {f : α → PassM β} {value : List String → α} {value' : List String → List String → β}
    (h : Follows premises m points value p)
    (h' : ∀ numbers q, proceed premises points p = (none, q) →
      Follows premises (f (value numbers)) points' (value' numbers) q) :
    Follows premises (m >>= f) (points ++ points') (fun numbers => value' numbers numbers) p := by
  intro hp
  have hm := h hp
  rcases hrun : proceed premises points p with ⟨e | e, q⟩
  · have hf := fun numbers => h' numbers q hrun (hp.proceed hrun)
    rw [proceed_append_of_none _ hrun]
    -- The second computation may number more, and the value of the first one holds for these too.
    simp only [hrun] at hm
    rcases hrun' : proceed premises points' q with ⟨e' | e', q'⟩
    · intro numbers hnumbers
      have hpre : q.numbers <+: numbers := (prefix_proceed hrun').trans hnumbers
      simp only [hrun'] at hf
      rw [PassM.runFrom_bind_ok (hm numbers hpre)]
      exact hf numbers numbers hnumbers
    · simp only [hrun'] at hf ⊢
      -- It ends the pass whatever value it is given, so the least numbers do.
      rw [PassM.runFrom_bind_ok (hm q.numbers List.prefix_rfl)]
      exact hf q.numbers
  · rw [proceed_append_of_some _ hrun]
    simp only [hrun] at hm
    exact PassM.runFrom_bind_error hm

/-- A computation whose result is put into a context. -/
theorem map {f : α → PassM β} {g : α → β} {value : List String → α}
    (h : Follows premises m points value p) (hf : ∀ a, f a = Pure.pure (g a)) :
    Follows premises (m >>= f) points (fun numbers => g (value numbers)) p := by
  have hpure : ∀ numbers q, proceed premises points p = (none, q) →
      Follows premises (f (value numbers)) [] (fun _ => g (value numbers)) q := by
    intro numbers q _
    rw [hf]
    exact pure _
  simpa only [List.append_nil] using h.bind hpure

/-- The value may be told in another way. -/
theorem congr {value value' : List String → α} (h : Follows premises m points value p)
    (hv : ∀ numbers, value' numbers = value numbers) : Follows premises m points value' p := by
  rwa [show value' = value from funext hv]

end Follows

end ForumMarkup
