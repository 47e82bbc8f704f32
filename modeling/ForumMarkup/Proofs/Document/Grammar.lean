import ForumMarkup.Proofs.Document.Serial
/-
**Which values are trees.**

A value is a tree when its parts have the right shape: a node is an object that names a kind, its
properties are an object in which every list under the name of a passage holds trees, and its
children are a list of trees.  What counts as absent may stand in the place of the properties and of
the children.  Reading accepts these values and no others; of any other value it tells the first
fault, and a node is looked at before its passages, and its passages before its children.

Main definitions:

* `ForumMarkup.IsTree` — the values that are trees;
* `ForumMarkup.PassagesFit`, `ForumMarkup.PropertiesFit` — the properties of a node in which no
  fault is found;
* `ForumMarkup.FirstFault` — the first fault of a value that is no tree.

Main results:

* `ForumMarkup.IsTree.exists_ofValue_eq`, `ForumMarkup.FirstFault.ofValue_eq` — reading follows the
  two;
* `ForumMarkup.isTree_or_firstFault` — every value is a tree or has a first fault;
* `ForumMarkup.Node.ofValue_grammar` — **what reading accepts, and which fault it tells**.
-/

set_option autoImplicit false

namespace ForumMarkup

/-! ### Trees and first faults -/

/-- The values that are trees. -/
inductive IsTree : Value → Prop
  | node {entries : List (String × Value)} (kind : Kind) :
      lookupEntry "kind" entries = some (.text kind.name) →
      (∀ v, lookupEntry "properties" entries = some v → v.truthy = true → ∃ es, v = .object es) →
      (∀ es, lookupEntry "properties" entries = some (.object es) →
        ∀ e ∈ es, isPassageName e.1 = true → ∀ vs, e.2 = .list vs → ∀ v ∈ vs, IsTree v) →
      (∀ v, lookupEntry "children" entries = some v → v.truthy = true → ∃ vs, v = .list vs) →
      (∀ vs, lookupEntry "children" entries = some (.list vs) → ∀ v ∈ vs, IsTree v) →
      IsTree (.object entries)

/-- Every list under the name of a passage holds trees. -/
def PassagesFit (es : List (String × Value)) : Prop :=
  ∀ e ∈ es, isPassageName e.1 = true → ∀ vs, e.2 = .list vs → ∀ v ∈ vs, IsTree v

/-- The properties of a node object are absent, or count as absent, or are an object with trees in
its passages. -/
structure PropertiesFit (entries : List (String × Value)) : Prop where
  shaped : ∀ v, lookupEntry "properties" entries = some v → v.truthy = true → ∃ es, v = .object es
  passages : ∀ es, lookupEntry "properties" entries = some (.object es) → PassagesFit es

/-- The first fault of a value that is no tree.  What stands before it in the order of reading is
free of faults. -/
inductive FirstFault : Value → TreeFault → Prop
  | notObject {v : Value} : (∀ entries, v ≠ .object entries) → FirstFault v (.notObject v)
  | kindMissing {entries : List (String × Value)} :
      lookupEntry "kind" entries = none → FirstFault (.object entries) .kindMissing
  | kindUnknown {entries : List (String × Value)} {v : Value} :
      lookupEntry "kind" entries = some v → (∀ kind : Kind, v ≠ .text kind.name) →
      FirstFault (.object entries) (.kindUnknown v)
  | propertiesShape {entries : List (String × Value)} {kind : Kind} {v : Value} :
      lookupEntry "kind" entries = some (.text kind.name) →
      lookupEntry "properties" entries = some v → v.truthy = true → (∀ es, v ≠ .object es) →
      FirstFault (.object entries) (.propertiesShape kind)
  /-- A fault in a passage: the passages before it fit, and so does what the passage holds before
  it. -/
  | passage {entries before after : List (String × Value)} {kind : Kind} {name : String}
      {vs ws : List Value} {v : Value} {fault : TreeFault} :
      lookupEntry "kind" entries = some (.text kind.name) →
      lookupEntry "properties" entries =
        some (.object (before ++ (name, .list (vs ++ v :: ws)) :: after)) →
      PassagesFit before → isPassageName name = true → (∀ w ∈ vs, IsTree w) →
      FirstFault v fault → FirstFault (.object entries) fault
  | childrenShape {entries : List (String × Value)} {kind : Kind} {v : Value} :
      lookupEntry "kind" entries = some (.text kind.name) → PropertiesFit entries →
      lookupEntry "children" entries = some v → v.truthy = true → (∀ vs, v ≠ .list vs) →
      FirstFault (.object entries) (.childrenShape kind)
  /-- A fault in a child: the properties fit, and the children before it are trees. -/
  | child {entries : List (String × Value)} {kind : Kind} {vs ws : List Value} {v : Value}
      {fault : TreeFault} :
      lookupEntry "kind" entries = some (.text kind.name) → PropertiesFit entries →
      lookupEntry "children" entries = some (.list (vs ++ v :: ws)) → (∀ w ∈ vs, IsTree w) →
      FirstFault v fault → FirstFault (.object entries) fault

/-! ### Reading the parts of a node -/

section

variable {ε α β : Type} {f : α → Except ε β}

/-- A list is read when all its items are. -/
theorem exists_mapM_eq_ok {as : List α} (h : ∀ a ∈ as, ∃ b, f a = .ok b) :
    ∃ bs, as.mapM f = .ok bs := by
  induction as with
  | nil => exact ⟨[], rfl⟩
  | cons a as ih =>
      obtain ⟨b, hb⟩ := h a List.mem_cons_self
      obtain ⟨bs, hbs⟩ := ih fun a' ha' => h a' (List.mem_cons_of_mem _ ha')
      exact ⟨b :: bs, by rw [List.mapM_cons, hb, hbs]; rfl⟩

/-- The first item that is not read is told. -/
theorem mapM_eq_error {before : List α} {a : α} {e : ε} (after : List α)
    (h : ∀ b ∈ before, ∃ c, f b = .ok c) (ha : f a = .error e) :
    (before ++ a :: after).mapM f = .error e := by
  induction before with
  | nil =>
      rw [List.nil_append, List.mapM_cons, ha]
      rfl
  | cons b before ih =>
      obtain ⟨c, hc⟩ := h b List.mem_cons_self
      rw [List.cons_append, List.mapM_cons, hc, ih fun b' hb' => h b' (List.mem_cons_of_mem _ hb')]
      rfl

end

theorem readNodes_eq (vs : List Value) : readNodes vs = vs.mapM Node.ofValue := by
  induction vs with
  | nil => rfl
  | cons v vs ih => rw [readNodes, List.mapM_cons, ih]

/-- The property that an entry is read as, with its name. -/
def readEntry (e : String × Value) : Except TreeFault (String × Property) := do
  return (e.1, ← readProperty e.1 e.2)

theorem readProperties_eq (es : List (String × Value)) : readProperties es = es.mapM readEntry := by
  induction es with
  | nil => rfl
  | cons e es ih =>
      obtain ⟨name, v⟩ := e
      rw [readProperties_cons, List.mapM_cons, ih, readEntry]
      cases readProperty name v <;> rfl

theorem propertiesIn_eq (kind : Kind) (entries : List (String × Value)) :
    propertiesIn kind entries =
      match lookupEntry "properties" entries with
      | none => .ok []
      | some (.object es) => readProperties es
      | some v => if v.truthy then .error (.propertiesShape kind) else .ok [] := by
  induction entries with
  | nil => rfl
  | cons e entries ih =>
      obtain ⟨name, v⟩ := e
      by_cases hname : (name == "properties") = true
      · cases v <;> simp [propertiesIn, lookupEntry, hname]
      · rw [lookupEntry, if_neg hname, ← ih]
        cases v <;> simp [propertiesIn, hname]

theorem childrenIn_eq (kind : Kind) (entries : List (String × Value)) :
    childrenIn kind entries =
      match lookupEntry "children" entries with
      | none => .ok []
      | some (.list vs) => readNodes vs
      | some v => if v.truthy then .error (.childrenShape kind) else .ok [] := by
  induction entries with
  | nil => rfl
  | cons e entries ih =>
      obtain ⟨name, v⟩ := e
      by_cases hname : (name == "children") = true
      · cases v <;> simp [childrenIn, lookupEntry, hname]
      · rw [lookupEntry, if_neg hname, ← ih]
        cases v <;> simp [childrenIn, hname]

theorem kindOfEntries_eq_ok {entries : List (String × Value)} {kind : Kind}
    (h : lookupEntry "kind" entries = some (.text kind.name)) :
    kindOfEntries entries = .ok kind := by
  simp [kindOfEntries, h, Kind.ofValue?, Kind.ofName?_name]

theorem Kind.ofValue?_eq_none {v : Value} (h : ∀ kind : Kind, v ≠ .text kind.name) :
    Kind.ofValue? v = none := by
  cases v
  case text s =>
      refine List.find?_eq_none.2 fun kind _ hname => h kind ?_
      rw [eq_of_beq hname]
  all_goals rfl

theorem kindOfEntries_eq_error {entries : List (String × Value)} {v : Value}
    (h : lookupEntry "kind" entries = some v) (hv : ∀ kind : Kind, v ≠ .text kind.name) :
    kindOfEntries entries = .error (.kindUnknown v) := by
  simp [kindOfEntries, h, Kind.ofValue?_eq_none hv]

/-- An entry is read if its value is no passage or a passage that is read. -/
theorem exists_readEntry_eq {e : String × Value}
    (h : isPassageName e.1 = true → ∀ vs, e.2 = .list vs → ∀ v ∈ vs, ∃ n, Node.ofValue v = .ok n) :
    ∃ p, readEntry e = .ok p := by
  obtain ⟨name, v⟩ := e
  cases v
  case list vs =>
      cases hname : isPassageName name with
      | false => exact ⟨(name, .value (.list vs)), by simp [readEntry, readProperty, hname]⟩
      | true =>
          obtain ⟨ns, hns⟩ := exists_mapM_eq_ok (h hname vs rfl)
          refine ⟨(name, .nodes ns), ?_⟩
          simp [readEntry, readProperty, hname, readNodes_eq, hns, Except.map]
  all_goals exact ⟨_, rfl⟩

/-- The first fault of a passage is told of its entry. -/
theorem readEntry_eq_error {name : String} {vs : List Value} {v : Value} {fault : TreeFault}
    (ws : List Value) (hname : isPassageName name = true)
    (hvs : ∀ w ∈ vs, ∃ n, Node.ofValue w = .ok n) (hv : Node.ofValue v = .error fault) :
    readEntry (name, .list (vs ++ v :: ws)) = .error fault := by
  rw [readEntry, readProperty, if_pos hname, readNodes_eq, mapM_eq_error ws hvs hv]
  rfl

theorem readProperties_eq_ok {es : List (String × Value)}
    (h : ∀ e ∈ es, isPassageName e.1 = true → ∀ vs, e.2 = .list vs →
      ∀ v ∈ vs, ∃ n, Node.ofValue v = .ok n) : ∃ ps, readProperties es = .ok ps := by
  rw [readProperties_eq]
  exact exists_mapM_eq_ok fun e he => exists_readEntry_eq (h e he)

/-- Properties are read if they are absent, or count as absent, or are an object that is read. -/
theorem exists_propertiesIn_eq {entries : List (String × Value)} (kind : Kind)
    (hshape : ∀ v, lookupEntry "properties" entries = some v → v.truthy = true →
      ∃ es, v = .object es)
    (hread : ∀ es, lookupEntry "properties" entries = some (.object es) →
      ∃ ps, readProperties es = .ok ps) : ∃ ps, propertiesIn kind entries = .ok ps := by
  rw [propertiesIn_eq]
  split
  · exact ⟨[], rfl⟩
  · rename_i es hes
    exact hread es hes
  · rename_i v hne hv
    cases htruthy : v.truthy with
    | false => exact ⟨[], rfl⟩
    | true =>
        obtain ⟨es, rfl⟩ := hshape v hv htruthy
        exact absurd rfl (hne es)

/-- So are children. -/
theorem exists_childrenIn_eq {entries : List (String × Value)} (kind : Kind)
    (hshape : ∀ v, lookupEntry "children" entries = some v → v.truthy = true → ∃ vs, v = .list vs)
    (hread : ∀ vs, lookupEntry "children" entries = some (.list vs) →
      ∃ cs, readNodes vs = .ok cs) : ∃ cs, childrenIn kind entries = .ok cs := by
  rw [childrenIn_eq]
  split
  · exact ⟨[], rfl⟩
  · rename_i vs hvs
    exact hread vs hvs
  · rename_i v hne hv
    cases htruthy : v.truthy with
    | false => exact ⟨[], rfl⟩
    | true =>
        obtain ⟨vs, rfl⟩ := hshape v hv htruthy
        exact absurd rfl (hne vs)

theorem propertiesIn_eq_error {entries : List (String × Value)} {v : Value} (kind : Kind)
    (h : lookupEntry "properties" entries = some v) (htruthy : v.truthy = true)
    (hv : ∀ es, v ≠ .object es) : propertiesIn kind entries = .error (.propertiesShape kind) := by
  rw [propertiesIn_eq, h]
  cases v
  case object es => exact absurd rfl (hv es)
  all_goals exact if_pos htruthy

theorem childrenIn_eq_error {entries : List (String × Value)} {v : Value} (kind : Kind)
    (h : lookupEntry "children" entries = some v) (htruthy : v.truthy = true)
    (hv : ∀ vs, v ≠ .list vs) : childrenIn kind entries = .error (.childrenShape kind) := by
  rw [childrenIn_eq, h]
  cases v
  case list vs => exact absurd rfl (hv vs)
  all_goals exact if_pos htruthy

/-- An object that names a kind is read as its properties and its children are. -/
theorem ofValue_object {entries : List (String × Value)} {kind : Kind}
    (h : lookupEntry "kind" entries = some (.text kind.name)) :
    Node.ofValue (.object entries) = do
      let ps ← propertiesIn kind entries
      let cs ← childrenIn kind entries
      return .mk kind ps cs := by
  rw [Node.ofValue, kindOfEntries_eq_ok h]
  rfl

/-! ### Reading follows trees and first faults -/

theorem IsTree.exists_ofValue_eq {v : Value} (h : IsTree v) : ∃ n, Node.ofValue v = .ok n := by
  induction h with
  | @node entries kind hkind hshaped _ hlisted _ hps hcs =>
      obtain ⟨ps, hps⟩ := exists_propertiesIn_eq kind hshaped fun es hes =>
        readProperties_eq_ok (hps es hes)
      obtain ⟨cs, hcs⟩ := exists_childrenIn_eq kind hlisted fun vs hvs =>
        readNodes_eq vs ▸ exists_mapM_eq_ok (hcs vs hvs)
      rw [ofValue_object hkind, hps, hcs]
      exact ⟨.mk kind ps cs, rfl⟩

theorem PropertiesFit.exists_propertiesIn_eq {entries : List (String × Value)}
    (h : PropertiesFit entries) (kind : Kind) : ∃ ps, propertiesIn kind entries = .ok ps :=
  ForumMarkup.exists_propertiesIn_eq kind h.shaped fun es hes =>
    readProperties_eq_ok fun e he hname vs hvs v hv =>
      (h.passages es hes e he hname vs hvs v hv).exists_ofValue_eq

theorem FirstFault.ofValue_eq {v : Value} {fault : TreeFault} (h : FirstFault v fault) :
    Node.ofValue v = .error fault := by
  induction h with
  | @notObject v hv =>
      cases v
      case object entries => exact absurd rfl (hv entries)
      all_goals rfl
  | @kindMissing entries hkind =>
      rw [Node.ofValue, kindOfEntries, hkind]
      rfl
  | kindUnknown hkind hv =>
      rw [Node.ofValue, kindOfEntries_eq_error hkind hv]
      rfl
  | propertiesShape hkind hps htruthy hv =>
      rw [ofValue_object hkind, propertiesIn_eq_error _ hps htruthy hv]
      rfl
  | @passage entries before after kind name vs ws v fault hkind hps hbefore hname hvs _ ih =>
      have hentry := readEntry_eq_error ws hname (fun w hw => (hvs w hw).exists_ofValue_eq) ih
      have hread : ∀ e ∈ before, ∃ p, readEntry e = .ok p := fun e he =>
        exists_readEntry_eq fun hname vs hvs v hv =>
          (hbefore e he hname vs hvs v hv).exists_ofValue_eq
      rw [ofValue_object hkind, propertiesIn_eq, hps]
      simp only [readProperties_eq, mapM_eq_error after hread hentry]
      rfl
  | @childrenShape entries kind v hkind hps hcs htruthy hv =>
      obtain ⟨ps, hps⟩ := hps.exists_propertiesIn_eq kind
      rw [ofValue_object hkind, hps, childrenIn_eq_error kind hcs htruthy hv]
      rfl
  | @child entries kind vs ws v fault hkind hps hcs hvs _ ih =>
      obtain ⟨ps, hps⟩ := hps.exists_propertiesIn_eq kind
      have hread := mapM_eq_error ws (fun w hw => (hvs w hw).exists_ofValue_eq) ih
      rw [ofValue_object hkind, hps, childrenIn_eq, hcs]
      simp only [readNodes_eq, hread]
      rfl

/-- Of a value that can be shown every fault is foreseen. -/
theorem FirstFault.isForeseen {v : Value} {fault : TreeFault} {limit? : Option Nat}
    (h : FirstFault v fault) (hv : v.isShowable limit? = true) :
    fault.isForeseen limit? = true := by
  have hentry : ∀ {entries : List (String × Value)} {name : String} {w : Value},
      (Value.object entries).isShowable limit? = true → lookupEntry name entries = some w →
        w.isShowable limit? = true := fun hentries hw =>
    Value.isShowable_object.1 hentries _ (mem_of_lookupEntry hw)
  induction h with
  | kindUnknown hkind _ => exact hentry hv hkind
  | @passage entries before after kind name vs ws v fault _ hps _ _ _ _ ih =>
      have hpassage := Value.isShowable_object.1 (hentry hv hps) (name, .list (vs ++ v :: ws))
        (List.mem_append_right _ List.mem_cons_self)
      exact ih (Value.isShowable_list.1 hpassage v (List.mem_append_right _ List.mem_cons_self))
  | @child entries kind vs ws v fault _ _ hcs _ _ ih =>
      exact ih (Value.isShowable_list.1 (hentry hv hcs) v
        (List.mem_append_right _ List.mem_cons_self))
  | _ => rfl

/-! ### Every value is a tree or has a first fault -/

/-- Of a list each item of which is good or bad, all are good, or there is a first bad one. -/
theorem forall_or_first {α : Type} {good bad : α → Prop} {as : List α}
    (h : ∀ a ∈ as, good a ∨ bad a) :
    (∀ a ∈ as, good a) ∨
      ∃ before a after, as = before ++ a :: after ∧ (∀ b ∈ before, good b) ∧ bad a := by
  induction as with
  | nil => exact .inl nofun
  | cons a as ih =>
      rcases h a List.mem_cons_self with ha | ha
      · rcases ih fun b hb => h b (List.mem_cons_of_mem _ hb) with has | ⟨before, b, after, rfl, hb⟩
        · exact .inl (List.forall_mem_cons.2 ⟨ha, has⟩)
        · exact .inr ⟨a :: before, b, after, rfl, List.forall_mem_cons.2 ⟨ha, hb.1⟩, hb.2⟩
      · exact .inr ⟨[], a, as, rfl, nofun, ha⟩

/-- Whether a value is a tree or has a first fault. -/
def Value.IsJudged (v : Value) : Prop :=
  IsTree v ∨ ∃ fault, FirstFault v fault

theorem trees_or_first {vs : List Value} (h : ∀ v ∈ vs, v.IsJudged) :
    (∀ v ∈ vs, IsTree v) ∨ ∃ before v after fault,
      vs = before ++ v :: after ∧ (∀ w ∈ before, IsTree w) ∧ FirstFault v fault := by
  rcases forall_or_first h with hall | ⟨before, v, after, hvs, hbefore, fault, hfault⟩
  · exact .inl hall
  · exact .inr ⟨before, v, after, fault, hvs, hbefore, hfault⟩

/-- The items of the lists among some entries are judged. -/
def ItemsJudged (es : List (String × Value)) : Prop :=
  ∀ e ∈ es, ∀ vs, e.2 = .list vs → ∀ v ∈ vs, v.IsJudged

theorem passagesFit_or_first {es : List (String × Value)} (h : ItemsJudged es) :
    PassagesFit es ∨ ∃ before name vs v ws after fault,
      es = before ++ (name, .list (vs ++ v :: ws)) :: after ∧ PassagesFit before ∧
        isPassageName name = true ∧ (∀ w ∈ vs, IsTree w) ∧ FirstFault v fault := by
  have hentries : ∀ e ∈ es,
      (isPassageName e.1 = true → ∀ vs, e.2 = .list vs → ∀ v ∈ vs, IsTree v) ∨
        (isPassageName e.1 = true ∧ ∃ vs v ws fault, e.2 = .list (vs ++ v :: ws) ∧
          (∀ w ∈ vs, IsTree w) ∧ FirstFault v fault) := by
    rintro ⟨name, v⟩ he
    cases hname : isPassageName name with
    | false => exact .inl fun h => by simp at h
    | true =>
        cases v
        case list vs =>
            rcases trees_or_first (h _ he vs rfl) with hvs | ⟨ws, w, ws', fault, rfl, hw⟩
            · refine .inl fun _ vs' hvs' => ?_
              cases hvs'
              exact hvs
            · exact .inr ⟨rfl, ws, w, ws', fault, rfl, hw⟩
        all_goals exact .inl fun _ _ => nofun
  rcases forall_or_first hentries with hall | ⟨before, ⟨name, v⟩, after, hes, hbefore, hname, hv⟩
  · exact .inl hall
  · obtain ⟨vs, w, ws, fault, rfl, hvs, hfault⟩ := hv
    exact .inr ⟨before, name, vs, w, ws, after, fault, hes, hbefore, hname, hvs, hfault⟩

/-- An object whose parts are judged is judged. -/
theorem isJudged_object {entries : List (String × Value)}
    (hps : ∀ es, lookupEntry "properties" entries = some (.object es) → ItemsJudged es)
    (hcs : ∀ vs, lookupEntry "children" entries = some (.list vs) → ∀ v ∈ vs, v.IsJudged) :
    (Value.object entries).IsJudged := by
  -- First the node itself: whether it names a kind.
  cases hnamed : lookupEntry "kind" entries with
  | none => exact .inr ⟨_, .kindMissing hnamed⟩
  | some v =>
      by_cases hkind : ∃ kind : Kind, v = .text kind.name
      case neg => exact .inr ⟨_, .kindUnknown hnamed fun kind hv => hkind ⟨kind, hv⟩⟩
      obtain ⟨kind, rfl⟩ := hkind
      -- Then its properties: their shape, and their passages in order.
      by_cases hshape : ∀ v, lookupEntry "properties" entries = some v → v.truthy = true →
          ∃ es, v = .object es
      case neg =>
          push Not at hshape
          obtain ⟨v, hv, htruthy, hne⟩ := hshape
          exact .inr ⟨_, .propertiesShape hnamed hv htruthy hne⟩
      by_cases hfit : ∀ es, lookupEntry "properties" entries = some (.object es) → PassagesFit es
      case neg =>
          push Not at hfit
          obtain ⟨es, hes, hne⟩ := hfit
          rcases passagesFit_or_first (hps es hes) with
            hall | ⟨before, name, vs, v, ws, after, fault, rfl, hbefore, hname, hvs, hfault⟩
          · exact absurd hall hne
          · exact .inr ⟨fault, .passage hnamed hes hbefore hname hvs hfault⟩
      -- Last its children: their shape, and each of them in order.
      by_cases hlisted : ∀ v, lookupEntry "children" entries = some v → v.truthy = true →
          ∃ vs, v = .list vs
      case neg =>
          push Not at hlisted
          obtain ⟨v, hv, htruthy, hne⟩ := hlisted
          exact .inr ⟨_, .childrenShape hnamed ⟨hshape, hfit⟩ hv htruthy hne⟩
      by_cases htrees : ∀ vs, lookupEntry "children" entries = some (.list vs) → ∀ v ∈ vs, IsTree v
      case neg =>
          push Not at htrees
          obtain ⟨vs, hvs, v, hv, hne⟩ := htrees
          rcases trees_or_first (hcs vs hvs) with hall | ⟨before, w, after, fault, rfl, hbefore, hw⟩
          · exact absurd (hall v hv) hne
          · exact .inr ⟨fault, .child hnamed ⟨hshape, hfit⟩ hvs hbefore hw⟩
      exact .inl (.node kind hnamed hshape hfit hlisted htrees)

/-- What is shown of a value and of its parts: a node reads its children from a list, and its
passages from the lists in an object. -/
structure Judged (v : Value) : Prop where
  itself : v.IsJudged
  items : ∀ vs, v = .list vs → ∀ w ∈ vs, w.IsJudged
  entries : ∀ es, v = .object es → ItemsJudged es

theorem judged : ValueCases Judged where
  null := ⟨.inr ⟨_, .notObject nofun⟩, nofun, nofun⟩
  bool _ := ⟨.inr ⟨_, .notObject nofun⟩, nofun, nofun⟩
  int _ := ⟨.inr ⟨_, .notObject nofun⟩, nofun, nofun⟩
  float _ := ⟨.inr ⟨_, .notObject nofun⟩, nofun, nofun⟩
  text _ := ⟨.inr ⟨_, .notObject nofun⟩, nofun, nofun⟩
  illFormed _ := ⟨.inr ⟨_, .notObject nofun⟩, nofun, nofun⟩
  list vs ih := by
    refine ⟨.inr ⟨_, .notObject nofun⟩, ?_, nofun⟩
    rintro _ ⟨⟩ w hw
    exact (ih w hw).itself
  object es ih := by
    refine ⟨isJudged_object (fun ps hps => ?_) (fun vs hvs => ?_), nofun, ?_⟩
    · exact (ih _ (mem_of_lookupEntry hps)).entries ps rfl
    · exact (ih _ (mem_of_lookupEntry hvs)).items vs rfl
    · rintro _ ⟨⟩ e he vs hvs
      exact (ih e he).items vs hvs

/-- Every value is a tree or has a first fault. -/
theorem isTree_or_firstFault (v : Value) : IsTree v ∨ ∃ fault, FirstFault v fault :=
  (judged.holds v).itself

/-! ### What reading accepts -/

/-- A fault is not foreseen exactly if it is of an unknown kind in which an integer is too long. -/
theorem TreeFault.isForeseen_eq_false {fault : TreeFault} {limit? : Option Nat} :
    fault.isForeseen limit? = false ↔
      ∃ found, fault = .kindUnknown found ∧ found.isShowable limit? = false := by
  cases fault <;> simp [TreeFault.isForeseen]

/-- **What reading accepts, and which fault it tells.**  A value is read exactly when it is a tree.
Any other is refused with a fault of its structure, which is its first fault.  The fault is foreseen
unless it is an unknown kind that cannot be shown. -/
theorem Node.ofValue_grammar (v : Value) :
    ((∃ n, Node.ofValue v = .ok n) ↔ IsTree v) ∧
      (¬IsTree v → ∃ fault, Node.ofValue v = .error fault ∧
        (DocumentFault.tree fault).stage = "structure" ∧
        ∀ limit?, (DocumentFault.tree fault).isForeseen limit? = false ↔
          ∃ found, fault = .kindUnknown found ∧ found.isShowable limit? = false) ∧
      ∀ fault, Node.ofValue v = .error fault ↔ FirstFault v fault := by
  rcases isTree_or_firstFault v with htree | ⟨fault, hfault⟩
  · obtain ⟨n, hn⟩ := htree.exists_ofValue_eq
    refine ⟨⟨fun _ => htree, fun _ => ⟨n, hn⟩⟩, fun h => absurd htree h, fun fault => ?_⟩
    refine ⟨fun h => ?_, FirstFault.ofValue_eq⟩
    rw [hn] at h
    cases h
  · have herror := hfault.ofValue_eq
    have hnone : ¬∃ n, Node.ofValue v = .ok n := by
      rintro ⟨n, hn⟩
      rw [herror] at hn
      cases hn
    refine ⟨⟨fun h => absurd h hnone, fun h => absurd h.exists_ofValue_eq hnone⟩,
      fun _ => ⟨fault, herror, rfl, fun limit? => TreeFault.isForeseen_eq_false⟩,
      fun fault' => ⟨fun h => ?_, FirstFault.ofValue_eq⟩⟩
    rw [herror] at h
    cases h
    exact hfault

/-- A kind that is an integer of more digits than the limit is refused without a sentence. -/
theorem Node.ofValue_longKind :
    let v : Value := .object [("kind", .int (Int.pow 10 4300))]
    Node.ofValue v = .error (.kindUnknown (.int (Int.pow 10 4300))) ∧
      (TreeFault.kindUnknown (.int (Int.pow 10 4300))).isForeseen = false :=
  ⟨rfl, by decide +kernel⟩

end ForumMarkup
