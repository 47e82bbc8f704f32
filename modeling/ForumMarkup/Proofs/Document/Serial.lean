import ForumMarkup.Document.Serial
import ForumMarkup.Proofs.Document.Induction
import ForumMarkup.Proofs.Json.RoundTrip
import ForumMarkup.Proofs.Value.Showable
/-
**Trees are read back from their JSON text.**

A tree that was read from a value is settled: its properties have distinct names, their plain values
are exact if the value was, and what stands under a passage name is a passage or no list.  Nothing
more is needed to write such a tree and read it back: writing leaves out what is empty, and reading
puts it in again.

Main definitions:

* `ForumMarkup.Node.isSettled` — whether a tree is settled;
* `ForumMarkup.ReadsSettled` — what is said of the trees that are read from a value;
* `ForumMarkup.Serialises` — what is said of the entries that serialise a tree.

Main results:

* `ForumMarkup.readsSettled` — trees that are read from exact values are settled;
* `ForumMarkup.passages_of_isSettled`, `ForumMarkup.exact_of_isSettled`,
  `ForumMarkup.readBack_of_isSettled` — a settled tree has a text, its value is exact, and the tree
  is read back from the value;
* `ForumMarkup.Node.ofJson_toJson` — **a tree is read back from its text**, in every layout whose
  indent fits into a machine word.
-/

set_option autoImplicit false

namespace ForumMarkup

/-! ### Settled trees -/

/-- Whether a value may stand as a plain value under a name: it is exact, and no list if the name is
that of a passage. -/
def mayStandUnder (name : String) (v : Value) : Bool :=
  v.isExact && match v with
    | .list _ => !isPassageName name
    | _ => true

mutual
/-- Whether the properties of all nodes have distinct names, with exact values that may stand under
them, and no passage stands under another name than that of a passage. -/
def Node.isSettled : Node → Bool
  | .mk _ properties children =>
    decide (properties.map Prod.fst).Nodup && settledProperties properties && settledNodes children
/-- The same for a list of properties, but for their names. -/
def settledProperties : List (String × Property) → Bool
  | [] => true
  | (name, .value v) :: rest => mayStandUnder name v && settledProperties rest
  | (name, .nodes ns) :: rest => isPassageName name && settledNodes ns && settledProperties rest
/-- The same for a list of trees. -/
def settledNodes : List Node → Bool
  | [] => true
  | n :: ns => n.isSettled && settledNodes ns
end

theorem mayStandUnder_iff {name : String} {v : Value} :
    mayStandUnder name v = true ↔
      v.isExact = true ∧ ∀ vs, v = .list vs → isPassageName name = false := by
  cases v <;> simp [mayStandUnder]

theorem Node.isSettled_mk {kind : Kind} {ps : List (String × Property)} {cs : List Node} :
    (Node.mk kind ps cs).isSettled = true ↔
      (ps.map Prod.fst).Nodup ∧ settledProperties ps = true ∧ settledNodes cs = true := by
  rw [Node.isSettled, Bool.and_eq_true, Bool.and_eq_true, decide_eq_true_eq, and_assoc]

/-! ### Trees that were read -/

theorem bind_eq_ok {ε α β : Type} {x : Except ε α} {f : α → Except ε β} {b : β} :
    x >>= f = .ok b ↔ ∃ a, x = .ok a ∧ f a = .ok b := by
  cases x <;> simp [bind, Except.bind]

theorem map_eq_ok {ε α β : Type} {x : Except ε α} {f : α → β} {b : β} :
    x.map f = .ok b ↔ ∃ a, x = .ok a ∧ f a = b := by
  cases x <;> simp [Except.map]

/-- What is said of what is read from a value: a tree, a list of trees, or properties. -/
structure ReadsSettled (v : Value) : Prop where
  tree : ∀ n, Node.ofValue v = .ok n → n.isSettled = true
  items : ∀ vs, v = .list vs → ∀ ns, readNodes vs = .ok ns → settledNodes ns = true
  entries : ∀ es, v = .object es → ∀ ps, readProperties es = .ok ps →
    ps.map Prod.fst = es.map Prod.fst ∧ settledProperties ps = true

theorem settledNodes_readNodes {vs : List Value} (h : ∀ v ∈ vs, ReadsSettled v) {ns : List Node}
    (hns : readNodes vs = .ok ns) : settledNodes ns = true := by
  induction vs generalizing ns with
  | nil =>
      cases hns
      rfl
  | cons v vs ih =>
      obtain ⟨n, hn, hvs⟩ := bind_eq_ok.1 hns
      obtain ⟨ns', hns', heq⟩ := bind_eq_ok.1 hvs
      cases heq
      rw [settledNodes, (h v List.mem_cons_self).tree n hn,
        ih (fun w hw => h w (List.mem_cons_of_mem _ hw)) hns']
      rfl

/-- What a single property is read as. -/
def readProperty (name : String) : Value → Except TreeFault Property
  | .list items =>
    if isPassageName name then (readNodes items).map .nodes else .ok (.value (.list items))
  | v => .ok (.value v)

theorem readProperties_cons (name : String) (v : Value) (es : List (String × Value)) :
    readProperties ((name, v) :: es) = do
      let p ← readProperty name v
      return (name, p) :: (← readProperties es) := by
  cases v
  case list items =>
      rw [readProperties, readProperty]
      cases isPassageName name <;> rfl
  all_goals rfl

/-- A value that is not read as a passage stands for itself. -/
theorem readProperty_of_plain {name : String} {v : Value}
    (h : ∀ vs, v = .list vs → isPassageName name = false) :
    readProperty name v = .ok (.value v) := by
  cases v
  case list vs =>
      rw [readProperty, h vs rfl]
      rfl
  all_goals rfl

theorem readProperty_ok {name : String} {v : Value} {p : Property}
    (h : readProperty name v = .ok p) :
    (p = .value v ∧ ∀ vs, v = .list vs → isPassageName name = false) ∨
      ∃ vs ns, v = .list vs ∧ isPassageName name = true ∧ readNodes vs = .ok ns ∧
        p = .nodes ns := by
  cases v
  case list vs =>
      rw [readProperty] at h
      split at h
      · rename_i hname
        obtain ⟨ns, hns, rfl⟩ := map_eq_ok.1 h
        exact .inr ⟨vs, ns, rfl, hname, hns, rfl⟩
      · rename_i hname
        cases h
        exact .inl ⟨rfl, fun _ _ => eq_false_of_ne_true hname⟩
  all_goals
    cases h
    exact .inl ⟨rfl, nofun⟩

/-- Properties that are read from exact values are settled, and have the names of the entries. -/
theorem settledProperties_readProperties {es : List (String × Value)}
    (h : ∀ e ∈ es, e.2.isExact = true ∧ ReadsSettled e.2) {ps : List (String × Property)}
    (hps : readProperties es = .ok ps) :
    ps.map Prod.fst = es.map Prod.fst ∧ settledProperties ps = true := by
  induction es generalizing ps with
  | nil =>
      cases hps
      exact ⟨rfl, rfl⟩
  | cons e es ih =>
      obtain ⟨name, v⟩ := e
      rw [readProperties_cons] at hps
      obtain ⟨p, hp, hes⟩ := bind_eq_ok.1 hps
      obtain ⟨ps', hps', heq⟩ := bind_eq_ok.1 hes
      cases heq
      obtain ⟨hv, hsettled⟩ := h _ List.mem_cons_self
      obtain ⟨hnames, hrest⟩ := ih (fun e he => h e (List.mem_cons_of_mem _ he)) hps'
      refine ⟨by simp [hnames], ?_⟩
      rcases readProperty_ok hp with ⟨rfl, hname⟩ | ⟨vs, ns, rfl, hname, hns, rfl⟩
      · rw [settledProperties, mayStandUnder_iff.2 ⟨hv, hname⟩, hrest]
        rfl
      · rw [settledProperties, hname, hsettled.items vs rfl ns hns, hrest]
        rfl

theorem propertiesIn_ok {kind : Kind} {es : List (String × Value)} {ps : List (String × Property)}
    (h : propertiesIn kind es = .ok ps) :
    ps = [] ∨
      ∃ entries, ("properties", .object entries) ∈ es ∧ readProperties entries = .ok ps := by
  induction es with
  | nil =>
      cases h
      exact .inl rfl
  | cons e es ih =>
      obtain ⟨name, v⟩ := e
      rw [propertiesIn.eq_def] at h
      simp only at h
      split at h
      · rename_i hname
        obtain rfl := eq_of_beq hname
        split at h
        · exact .inr ⟨_, List.mem_cons_self, h⟩
        · split at h
          · cases h
          · cases h
            exact .inl rfl
      · rcases ih h with rfl | ⟨entries, hmem, hread⟩
        · exact .inl rfl
        · exact .inr ⟨entries, List.mem_cons_of_mem _ hmem, hread⟩

theorem childrenIn_ok {kind : Kind} {es : List (String × Value)} {cs : List Node}
    (h : childrenIn kind es = .ok cs) :
    cs = [] ∨ ∃ items, ("children", .list items) ∈ es ∧ readNodes items = .ok cs := by
  induction es with
  | nil =>
      cases h
      exact .inl rfl
  | cons e es ih =>
      obtain ⟨name, v⟩ := e
      rw [childrenIn.eq_def] at h
      simp only at h
      split at h
      · rename_i hname
        obtain rfl := eq_of_beq hname
        split at h
        · exact .inr ⟨_, List.mem_cons_self, h⟩
        · split at h
          · cases h
          · cases h
            exact .inl rfl
      · rcases ih h with rfl | ⟨entries, hmem, hread⟩
        · exact .inl rfl
        · exact .inr ⟨entries, List.mem_cons_of_mem _ hmem, hread⟩

theorem isSettled_ofValue_object {es : List (String × Value)}
    (h : ∀ e ∈ es, e.2.isExact = true ∧ ReadsSettled e.2) {n : Node}
    (hn : Node.ofValue (.object es) = .ok n) : n.isSettled = true := by
  rw [Node.ofValue] at hn
  obtain ⟨kind, -, hn⟩ := bind_eq_ok.1 hn
  obtain ⟨ps, hps, hn⟩ := bind_eq_ok.1 hn
  obtain ⟨cs, hcs, hn⟩ := bind_eq_ok.1 hn
  cases hn
  have hsettled : (ps.map Prod.fst).Nodup ∧ settledProperties ps = true := by
    rcases propertiesIn_ok hps with rfl | ⟨entries, hmem, hread⟩
    · exact ⟨List.nodup_nil, rfl⟩
    · obtain ⟨hexact, hparts⟩ := h _ hmem
      obtain ⟨hnames, hps⟩ := hparts.entries entries rfl ps hread
      exact ⟨hnames ▸ (Value.isExact_object.1 hexact).1, hps⟩
  have hnodes : settledNodes cs = true := by
    rcases childrenIn_ok hcs with rfl | ⟨items, hmem, hread⟩
    · rfl
    · exact (h _ hmem).2.items items rfl cs hread
  exact Node.isSettled_mk.2 ⟨hsettled.1, hsettled.2, hnodes⟩

/-- Trees that are read from exact values are settled. -/
theorem readsSettled : ValueCases fun v => v.isExact = true → ReadsSettled v where
  null _ := ⟨nofun, nofun, nofun⟩
  bool _ _ := ⟨nofun, nofun, nofun⟩
  int _ _ := ⟨nofun, nofun, nofun⟩
  float _ _ := ⟨nofun, nofun, nofun⟩
  text _ _ := ⟨nofun, nofun, nofun⟩
  illFormed _ _ := ⟨nofun, nofun, nofun⟩
  list vs ih h := by
    refine ⟨nofun, ?_, nofun⟩
    rintro _ ⟨⟩ ns hns
    exact settledNodes_readNodes (fun v hv => ih v hv (Value.isExact_list.1 h v hv)) hns
  object es ih h := by
    obtain ⟨_, hes⟩ := Value.isExact_object.1 h
    have hparts : ∀ e ∈ es, e.2.isExact = true ∧ ReadsSettled e.2 :=
      fun e he => ⟨hes e he, ih e he (hes e he)⟩
    refine ⟨fun n hn => isSettled_ofValue_object hparts hn, nofun, ?_⟩
    rintro _ ⟨⟩ ps hps
    exact settledProperties_readProperties hparts hps

/-! ### Writing -/

theorem writeProperties_of_passage {name : String} (h : isPassageName name = true)
    (ns : List Node) (ps : List (String × Property)) :
    writeProperties ((name, .nodes ns) :: ps) =
      (name, .list (writeNodes ns)) :: writeProperties ps := by
  rw [writeProperties, if_pos h]

theorem writeProperties_of_stray {name : String} (h : isPassageName name = false)
    (ns : List Node) (ps : List (String × Property)) :
    writeProperties ((name, .nodes ns) :: ps) = writeProperties ps := by
  rw [writeProperties, h]
  rfl

/-- The names are written in their order, but for those of nodes that are no passage. -/
theorem map_fst_writeProperties (ps : List (String × Property)) :
    ((writeProperties ps).map Prod.fst).Sublist (ps.map Prod.fst) := by
  induction ps with
  | nil => exact .slnil
  | cons e ps ih =>
      obtain ⟨name, v | ns⟩ := e
      · exact ih.cons_cons name
      · cases hname : isPassageName name with
        | true =>
            rw [writeProperties_of_passage hname]
            exact ih.cons_cons name
        | false =>
            rw [writeProperties_of_stray hname]
            exact ih.cons name

/-- What is said of the entries that serialise a tree. -/
structure Serialises (kind : Kind) (ps : List (String × Property)) (cs : List Node)
    (es : List (String × Value)) : Prop where
  value_eq : (Node.mk kind ps cs).toValue = .object es
  /-- Nothing else is written than these three, each of them once. -/
  names : (es.map Prod.fst).Sublist ["kind", "properties", "children"]
  parts : ∀ e ∈ es, e.2 = .text kind.name ∨ e.2 = .object (writeProperties ps) ∨
    e.2 = .list (writeNodes cs)
  /-- The kind is found again. -/
  kind_eq : kindOfEntries es = .ok kind
  /-- The properties are found again, also where none are written. -/
  properties_eq : propertiesIn kind es = readProperties (writeProperties ps)
  /-- The children are found again, also where none are written. -/
  children_eq : childrenIn kind es = readNodes (writeNodes cs)

theorem kindOfEntries_cons (kind : Kind) (es : List (String × Value)) :
    kindOfEntries (("kind", .text kind.name) :: es) = .ok kind := by
  simp [kindOfEntries, lookupEntry, Kind.ofValue?, Kind.ofName?_name]

theorem exists_serialises (kind : Kind) (ps : List (String × Property)) (cs : List Node) :
    ∃ es, Serialises kind ps cs es := by
  cases ps with
  | nil =>
      cases cs with
      | nil =>
          exact ⟨[("kind", .text kind.name)], rfl, by simp, by simp, kindOfEntries_cons _ _, rfl,
            rfl⟩
      | cons c cs =>
          exact ⟨[("kind", .text kind.name), ("children", .list (writeNodes (c :: cs)))], rfl,
            by simp, by simp, kindOfEntries_cons _ _, rfl, rfl⟩
  | cons p ps =>
      cases cs with
      | nil =>
          exact ⟨[("kind", .text kind.name), ("properties", .object (writeProperties (p :: ps)))],
            rfl, by simp, by simp, kindOfEntries_cons _ _, rfl, rfl⟩
      | cons c cs =>
          exact ⟨[("kind", .text kind.name), ("properties", .object (writeProperties (p :: ps))),
            ("children", .list (writeNodes (c :: cs)))], rfl, by simp, by simp,
            kindOfEntries_cons _ _, rfl, rfl⟩

/-- A tree is read from its value as its properties and its children are read from theirs. -/
theorem ofValue_toValue_mk (kind : Kind) {ps ps' : List (String × Property)} {cs cs' : List Node}
    (hps : readProperties (writeProperties ps) = .ok ps')
    (hcs : readNodes (writeNodes cs) = .ok cs') :
    Node.ofValue (Node.mk kind ps cs).toValue = .ok (.mk kind ps' cs') := by
  obtain ⟨es, hes⟩ := exists_serialises kind ps cs
  rw [hes.value_eq, Node.ofValue, hes.kind_eq]
  simp only [bind, Except.bind, hes.properties_eq, hps, hes.children_eq, hcs]
  rfl

/-- Every list under a passage name of a settled tree is a list of nodes, so that the tree has a
text. -/
theorem passages_of_isSettled : TreeCases
    (fun n => n.isSettled = true → n.passagesHoldNodes = true)
    (fun ns => settledNodes ns = true → nodesHoldNodes ns = true)
    (fun ps => settledProperties ps = true → propertiesHoldNodes ps = true) where
  node kind ps cs hps hcs h := by
    obtain ⟨_, hsettled, hnodes⟩ := Node.isSettled_mk.1 h
    simp [Node.passagesHoldNodes, hps hsettled, hcs hnodes]
  nil _ := rfl
  cons n ns hn hns h := by
    simp only [settledNodes, Bool.and_eq_true] at h
    simp [nodesHoldNodes, hn h.1, hns h.2]
  bare _ := rfl
  value name v ps hps h := by
    simp only [settledProperties, Bool.and_eq_true, mayStandUnder_iff] at h
    obtain ⟨⟨-, hname⟩, h⟩ := h
    rw [propertiesHoldNodes.eq_def]
    simp only [hps h, Bool.and_true]
    split
    · rw [hname _ rfl]
      rfl
    · rfl
  nodes name ns ps hns hps h := by
    simp only [settledProperties, Bool.and_eq_true] at h
    simp [propertiesHoldNodes, hns h.1.2, hps h.2]

/-- No passage of a settled tree stands under another name than that of a passage. -/
theorem nodesInPassages_of_isSettled : TreeCases
    (fun n => n.isSettled = true → n.nodesInPassages = true)
    (fun ns => settledNodes ns = true → allInPassages ns = true)
    (fun ps => settledProperties ps = true → propertiesInPassages ps = true) where
  node kind ps cs hps hcs h := by
    obtain ⟨_, hsettled, hnodes⟩ := Node.isSettled_mk.1 h
    simp [Node.nodesInPassages, hps hsettled, hcs hnodes]
  nil _ := rfl
  cons n ns hn hns h := by
    simp only [settledNodes, Bool.and_eq_true] at h
    simp [allInPassages, hn h.1, hns h.2]
  bare _ := rfl
  value name v ps hps h := by
    simp only [settledProperties, Bool.and_eq_true] at h
    exact hps h.2
  nodes name ns ps hns hps h := by
    simp only [settledProperties, Bool.and_eq_true] at h
    simp [propertiesInPassages, h.1.1, hns h.1.2, hps h.2]

/-- The entries of a settled tree are exact if those of its parts are. -/
theorem Serialises.isExact {kind : Kind} {ps : List (String × Property)} {cs : List Node}
    {es : List (String × Value)} (h : Serialises kind ps cs es) (hnames : (ps.map Prod.fst).Nodup)
    (hps : ∀ e ∈ writeProperties ps, e.2.isExact = true)
    (hcs : ∀ v ∈ writeNodes cs, v.isExact = true) : ∀ e ∈ es, e.2.isExact = true := by
  intro e he
  rcases h.parts e he with heq | heq | heq
  · rw [heq]
    rfl
  · rw [heq, Value.isExact_object]
    exact ⟨(map_fst_writeProperties ps).nodup hnames, hps⟩
  · rw [heq, Value.isExact_list]
    exact hcs

/-- The value of a settled tree is exact. -/
theorem exact_of_isSettled : TreeCases
    (fun n => n.isSettled = true → n.toValue.isExact = true)
    (fun ns => settledNodes ns = true → ∀ v ∈ writeNodes ns, v.isExact = true)
    (fun ps => settledProperties ps = true → ∀ e ∈ writeProperties ps, e.2.isExact = true) where
  node kind ps cs hps hcs h := by
    obtain ⟨hnames, hsettled, hnodes⟩ := Node.isSettled_mk.1 h
    obtain ⟨es, hes⟩ := exists_serialises kind ps cs
    rw [hes.value_eq, Value.isExact_object]
    exact ⟨hes.names.nodup (by decide), hes.isExact hnames (hps hsettled) (hcs hnodes)⟩
  nil _ := nofun
  cons n ns hn hns h := by
    simp only [settledNodes, Bool.and_eq_true] at h
    exact List.forall_mem_cons.2 ⟨hn h.1, hns h.2⟩
  bare _ := nofun
  value name v ps hps h := by
    simp only [settledProperties, Bool.and_eq_true, mayStandUnder_iff] at h
    exact List.forall_mem_cons.2 ⟨h.1.1, hps h.2⟩
  nodes name ns ps hns hps h := by
    simp only [settledProperties, Bool.and_eq_true] at h
    rw [writeProperties_of_passage h.1.1]
    exact List.forall_mem_cons.2 ⟨Value.isExact_list.2 (hns h.1.2), hps h.2⟩

/-- A settled tree is read back from its value. -/
theorem readBack_of_isSettled : TreeCases
    (fun n => n.isSettled = true → Node.ofValue n.toValue = .ok n)
    (fun ns => settledNodes ns = true → readNodes (writeNodes ns) = .ok ns)
    (fun ps => settledProperties ps = true → readProperties (writeProperties ps) = .ok ps) where
  node kind ps cs hps hcs h := by
    obtain ⟨_, hsettled, hnodes⟩ := Node.isSettled_mk.1 h
    exact ofValue_toValue_mk kind (hps hsettled) (hcs hnodes)
  nil _ := rfl
  cons n ns hn hns h := by
    simp only [settledNodes, Bool.and_eq_true] at h
    rw [writeNodes, readNodes, hn h.1, hns h.2]
    rfl
  bare _ := rfl
  value name v ps hps h := by
    simp only [settledProperties, Bool.and_eq_true, mayStandUnder_iff] at h
    rw [writeProperties, readProperties_cons, hps h.2, readProperty_of_plain h.1.2]
    rfl
  nodes name ns ps hns hps h := by
    simp only [settledProperties, Bool.and_eq_true] at h
    rw [writeProperties_of_passage h.1.1, readProperties_cons, hps h.2, readProperty,
      if_pos h.1.1, hns h.1.2]
    rfl

/-! ### Documents -/

/-- The version stands in front of the entries of a document, under a name that no other entry
has. -/
theorem exists_toDocument_eq (n : Node) :
    ∃ es, n.toValue = .object es ∧
      n.toDocument = .object (("schema_version", .int schemaVersion) :: es) ∧
      "schema_version" ∉ es.map Prod.fst := by
  obtain ⟨kind, ps, cs⟩ := n
  obtain ⟨es, hes⟩ := exists_serialises kind ps cs
  refine ⟨es, hes.value_eq, ?_, fun hmem => ?_⟩
  · rw [Node.toDocument, hes.value_eq]
  · have hnames := hes.names.subset hmem
    revert hnames
    decide

theorem isExact_toDocument {n : Node} (h : n.isSettled = true) : n.toDocument.isExact = true := by
  obtain ⟨es, hvalue, hdocument, hversion⟩ := exists_toDocument_eq n
  have hexact := exact_of_isSettled.holds n h
  rw [hvalue, Value.isExact_object] at hexact
  rw [hdocument, Value.isExact_object, List.map_cons, List.nodup_cons, List.forall_mem_cons]
  exact ⟨⟨hversion, hexact.1⟩, rfl, hexact.2⟩

theorem ofDocument_toDocument {n : Node} (h : n.isSettled = true) (checkVersion : Bool) :
    Node.ofDocument checkVersion n.toDocument = .ok n := by
  obtain ⟨es, hvalue, hdocument, -⟩ := exists_toDocument_eq n
  have hread := readBack_of_isSettled.holds n h
  rw [hvalue] at hread
  have hdrop : dropEntry "schema_version" (("schema_version", .int schemaVersion) :: es) = es := rfl
  have hstated : statedVersion? (("schema_version", .int schemaVersion) :: es) =
    some (.int schemaVersion) := rfl
  have hone : (Value.int schemaVersion).isOne = true := rfl
  simp [Node.ofDocument, hdocument, hstated, hone, hdrop, hread]

/-- A settled tree has a text in every layout whose indent fits, and in no other. -/
theorem toJson_of_isSettled {n : Node} (h : n.isSettled = true) (layout : Json.Layout) :
    n.toJson layout none =
      if layout.fits then .ok (Json.write layout n.toDocument) else .error .unboundedCount := by
  have hpassages := passages_of_isSettled.holds n h
  have hnodes := nodesInPassages_of_isSettled.holds n h
  have hshowable := Value.isShowable_none n.toDocument
  cases hfits : layout.fits <;> simp [Node.toJson, hpassages, hnodes, hshowable, hfits]

/-- **A tree is read back from its text**, in every layout whose indent fits into a machine word; in
a layout whose indent does not fit there is no text. -/
theorem Node.ofJson_toJson {v : Value} {n : Node} (hv : v.isExact = true)
    (hn : Node.ofValue v = .ok n) (layout : Json.Layout) (checkVersion : Bool) :
    (layout.fits = true →
      ∃ text reloaded, n.toJson layout none = .ok text ∧
        Node.ofJson checkVersion none text = .ok reloaded ∧ reloaded = n ∧
        reloaded.toJson layout none = .ok text) ∧
      (layout.fits = false → n.toJson layout none = .error .unboundedCount) := by
  have h : n.isSettled = true := (readsSettled.holds v hv).tree n hn
  have hwrite := toJson_of_isSettled h layout
  refine ⟨fun hfits => ?_, fun hfits => ?_⟩
  · rw [if_pos hfits] at hwrite
    refine ⟨_, n, hwrite, ?_, rfl, hwrite⟩
    rw [Node.ofJson, readValue, Json.read_write layout (isExact_toDocument h)]
    exact ofDocument_toDocument h checkVersion
  · rwa [hfits, if_neg Bool.false_ne_true] at hwrite

/-- Quotes, control characters and characters beyond the basic plane, values of every shape, and
what is empty or missing. -/
theorem Node.ofJson_toJson_headline :
    ∃ text reloaded,
      (Node.mk .headline
        [("title", .nodes [.mk .plainText [("value", .value (.text "\"a\\\u0000\t😀"))] []]),
          ("tag", .value .null), ("level", .value (.int (-12))), ("tags", .value (.list [])),
          ("data", .value (.object [("b", .list [.bool true]), ("a", .object [])]))]
        [.mk .paragraph [] [], .mk .item [("tag", .nodes [])] []]).toJson (.indented 2) none =
          .ok text ∧
      Node.ofJson true none text = .ok reloaded ∧
      reloaded =
        .mk .headline
          [("title", .nodes [.mk .plainText [("value", .value (.text "\"a\\\u0000\t😀"))] []]),
            ("tag", .value .null), ("level", .value (.int (-12))), ("tags", .value (.list [])),
            ("data", .value (.object [("b", .list [.bool true]), ("a", .object [])]))]
          [.mk .paragraph [] [], .mk .item [("tag", .nodes [])] []] ∧
      reloaded.toJson (.indented 2) none = .ok text :=
  (Node.ofJson_toJson
    (v := .object [("kind", .text "headline"),
      ("properties", .object
        [("title", .list [.object [("kind", .text "plain-text"),
            ("properties", .object [("value", .text "\"a\\\u0000\t😀")])]]),
          ("tag", .null), ("level", .int (-12)), ("tags", .list []),
          ("data", .object [("b", .list [.bool true]), ("a", .object [])])]),
      ("children", .list
        [.object [("kind", .text "paragraph"), ("properties", .null)],
          .object [("children", .list []), ("kind", .text "item"),
            ("properties", .object [("tag", .list [])])]])])
    rfl rfl (.indented 2) true).1 rfl

/-- An indent below the range of machine integers is refused, although it would count as zero. -/
theorem Node.toJson_indentBelowRange :
    Node.ofValue (.object [("kind", .text "bold")]) = .ok (.mk .bold [] []) ∧
      (Node.mk .bold [] []).toJson (.indented (-9223372036854775809)) none =
        .error .unboundedCount :=
  ⟨rfl, rfl⟩

end ForumMarkup
