import ForumMarkup.Proofs.Document.Grammar
/-
**The normal form of a value.**

A tree can be serialised in many ways: entries of a node in another order, entries that say nothing,
and entries under names that nobody reads.  Writing a tree that was read picks one of them, the
normal form, which keeps the kind, the properties and the children in this order, and drops what is
empty.  Under the name of a passage a list of nodes is brought into normal form too; all other
properties stay as they are, also where they look like nodes.

Main definitions:

* `ForumMarkup.Value.normalForm` — the normal form of a value that serialises a tree;
* `ForumMarkup.Node.unified` — a tree with one spelling for empty passages.

Main results:

* `ForumMarkup.readsNormal` — what is written of what was read, for trees, their lists and their
  properties;
* `ForumMarkup.readBack_unified` — a tree is read back from its value;
* `ForumMarkup.Node.toValue_normalForm` — **writing what was read gives the normal form**, and
  reading what was written gives the tree.
-/

set_option autoImplicit false

namespace ForumMarkup

/-! ### Normal forms -/

/-- An entry that holds an object, unless the object is empty. -/
def objectEntry (name : String) (es : List (String × Value)) : List (String × Value) :=
  if es.isEmpty then [] else [(name, .object es)]

/-- An entry that holds a list, unless the list is empty. -/
def listEntry (name : String) (vs : List Value) : List (String × Value) :=
  if vs.isEmpty then [] else [(name, .list vs)]

mutual
/-- The normal form of a value that serialises a tree: its kind, and then its properties and its
children where there are any. -/
def Value.normalForm : Value → Value
  | .object entries =>
    .object (("kind", (lookupEntry "kind" entries).getD .null) ::
      (objectEntry "properties" (normalPropertiesIn entries) ++
        listEntry "children" (normalChildrenIn entries)))
  | v => v
/-- The normal form of the properties among the entries of a node. -/
def normalPropertiesIn : List (String × Value) → List (String × Value)
  | [] => []
  | (name, v) :: rest =>
    if name == "properties" then
      match v with
      | .object es => normalProperties es
      | _ => []
    else normalPropertiesIn rest
/-- The normal forms of the children among the entries of a node. -/
def normalChildrenIn : List (String × Value) → List Value
  | [] => []
  | (name, v) :: rest =>
    if name == "children" then
      match v with
      | .list vs => normalNodes vs
      | _ => []
    else normalChildrenIn rest
/-- Properties, with the nodes of passages in normal form and everything else as it is. -/
def normalProperties : List (String × Value) → List (String × Value)
  | [] => []
  | (name, v) :: rest =>
    let v' := match v with
      | .list vs => if isPassageName name then .list (normalNodes vs) else .list vs
      | v => v
    (name, v') :: normalProperties rest
/-- The normal forms of a list of values. -/
def normalNodes : List Value → List Value
  | [] => []
  | v :: vs => v.normalForm :: normalNodes vs
end

theorem normalPropertiesIn_eq (entries : List (String × Value)) :
    normalPropertiesIn entries =
      match lookupEntry "properties" entries with
      | some (.object es) => normalProperties es
      | _ => [] := by
  induction entries with
  | nil => rfl
  | cons e entries ih =>
      obtain ⟨name, v⟩ := e
      by_cases hname : (name == "properties") = true
      · cases v <;> simp [normalPropertiesIn, lookupEntry, hname]
      · rw [lookupEntry, if_neg hname, ← ih]
        cases v <;> simp [normalPropertiesIn, hname]

theorem normalChildrenIn_eq (entries : List (String × Value)) :
    normalChildrenIn entries =
      match lookupEntry "children" entries with
      | some (.list vs) => normalNodes vs
      | _ => [] := by
  induction entries with
  | nil => rfl
  | cons e entries ih =>
      obtain ⟨name, v⟩ := e
      by_cases hname : (name == "children") = true
      · cases v <;> simp [normalChildrenIn, lookupEntry, hname]
      · rw [lookupEntry, if_neg hname, ← ih]
        cases v <;> simp [normalChildrenIn, hname]

theorem normalProperties_cons_of_plain {name : String} {v : Value}
    (h : ∀ vs, v = .list vs → isPassageName name = false) (es : List (String × Value)) :
    normalProperties ((name, v) :: es) = (name, v) :: normalProperties es := by
  cases v
  case list vs => simp [normalProperties, h vs rfl]
  all_goals rfl

theorem normalProperties_cons_of_passage {name : String} (h : isPassageName name = true)
    (vs : List Value) (es : List (String × Value)) :
    normalProperties ((name, .list vs) :: es) =
      (name, .list (normalNodes vs)) :: normalProperties es := by
  simp [normalProperties, h]

/-! ### Writing what was read -/

theorem kind_of_kindOfEntries {entries : List (String × Value)} {kind : Kind}
    (h : kindOfEntries entries = .ok kind) :
    lookupEntry "kind" entries = some (.text kind.name) := by
  rw [kindOfEntries] at h
  cases hnamed : lookupEntry "kind" entries with
  | none => simp [hnamed] at h
  | some v =>
      by_cases hkind : ∃ kind' : Kind, v = .text kind'.name
      · obtain ⟨kind', rfl⟩ := hkind
        simp only [hnamed, Kind.ofValue?, Kind.ofName?_name] at h
        cases h
        rfl
      · have hnone := Kind.ofValue?_eq_none fun kind' hv => hkind ⟨kind', hv⟩
        simp [hnamed, hnone] at h

/-- The value of a node of which something is written if it has any properties. -/
theorem toValue_mk (kind : Kind) {ps : List (String × Property)}
    (h : writeProperties ps = [] → ps = []) (cs : List Node) :
    (Node.mk kind ps cs).toValue = .object (("kind", .text kind.name) ::
      (objectEntry "properties" (writeProperties ps) ++
        listEntry "children" (writeNodes cs))) := by
  have hproperties : ps ≠ [] → (writeProperties ps).isEmpty = false := by
    intro hne
    rw [List.isEmpty_eq_false_iff]
    exact fun hwritten => hne (h hwritten)
  have hchildren : ∀ c cs', (writeNodes (c :: cs')).isEmpty = false := fun _ _ => rfl
  cases ps <;> cases cs <;>
    simp [Node.toValue, objectEntry, listEntry, hproperties, hchildren] <;>
    simp [writeProperties, writeNodes]

/-- What is said of what is read from a value, be it a tree, a list of trees or properties: written
again it is the normal form, and it is read back from that. -/
structure ReadsNormal (v : Value) : Prop where
  tree : ∀ n, Node.ofValue v = .ok n → n.toValue = v.normalForm ∧ Node.ofValue n.toValue = .ok n
  items : ∀ vs, v = .list vs → ∀ ns, readNodes vs = .ok ns →
    writeNodes ns = normalNodes vs ∧ readNodes (writeNodes ns) = .ok ns
  entries : ∀ es, v = .object es → ∀ ps, readProperties es = .ok ps →
    writeProperties ps = normalProperties es ∧ readProperties (writeProperties ps) = .ok ps

theorem readsNormal_nodes {vs : List Value} (h : ∀ v ∈ vs, ReadsNormal v) {ns : List Node}
    (hns : readNodes vs = .ok ns) :
    writeNodes ns = normalNodes vs ∧ readNodes (writeNodes ns) = .ok ns := by
  induction vs generalizing ns with
  | nil =>
      cases hns
      exact ⟨rfl, rfl⟩
  | cons v vs ih =>
      obtain ⟨n, hn, hvs⟩ := bind_eq_ok.1 hns
      obtain ⟨ns', hns', heq⟩ := bind_eq_ok.1 hvs
      cases heq
      obtain ⟨hvalue, hback⟩ := (h v List.mem_cons_self).tree n hn
      obtain ⟨hvalues, hbacks⟩ := ih (fun w hw => h w (List.mem_cons_of_mem _ hw)) hns'
      refine ⟨by rw [writeNodes, normalNodes, hvalue, hvalues], ?_⟩
      rw [writeNodes, readNodes, hback, hbacks]
      rfl

theorem readsNormal_properties {es : List (String × Value)} (h : ∀ e ∈ es, ReadsNormal e.2)
    {ps : List (String × Property)} (hps : readProperties es = .ok ps) :
    writeProperties ps = normalProperties es ∧ readProperties (writeProperties ps) = .ok ps := by
  induction es generalizing ps with
  | nil =>
      cases hps
      exact ⟨rfl, rfl⟩
  | cons e es ih =>
      obtain ⟨name, v⟩ := e
      rw [readProperties_cons] at hps
      obtain ⟨p, hp, hes⟩ := bind_eq_ok.1 hps
      obtain ⟨ps', hps', heq⟩ := bind_eq_ok.1 hes
      cases heq
      obtain ⟨hvalues, hbacks⟩ := ih (fun e he => h e (List.mem_cons_of_mem _ he)) hps'
      rcases readProperty_ok hp with ⟨rfl, hplain⟩ | ⟨vs, ns, rfl, hname, hns, rfl⟩
      · refine ⟨by rw [writeProperties, normalProperties_cons_of_plain hplain, hvalues], ?_⟩
        rw [writeProperties, readProperties_cons, readProperty_of_plain hplain, hbacks]
        rfl
      · obtain ⟨hitems, hback⟩ := (h _ List.mem_cons_self).items vs rfl ns hns
        refine ⟨?_, ?_⟩
        · rw [writeProperties_of_passage hname, normalProperties_cons_of_passage hname, hitems,
            hvalues]
        · rw [writeProperties_of_passage hname, readProperties_cons, readProperty, if_pos hname,
            hback, hbacks]
          rfl

/-- What counts as absent is read as no properties, and nothing is written of it. -/
theorem readsNormal_propertiesIn {entries : List (String × Value)}
    (h : ∀ e ∈ entries, ReadsNormal e.2) {kind : Kind} {ps : List (String × Property)}
    (hps : propertiesIn kind entries = .ok ps) :
    writeProperties ps = normalPropertiesIn entries ∧
      readProperties (writeProperties ps) = .ok ps := by
  rw [propertiesIn_eq] at hps
  rw [normalPropertiesIn_eq]
  cases hnamed : lookupEntry "properties" entries with
  | none =>
      rw [hnamed] at hps
      cases hps
      exact ⟨rfl, rfl⟩
  | some v =>
      rw [hnamed] at hps
      cases v
      case object es => exact (h _ (mem_of_lookupEntry hnamed)).entries es rfl ps hps
      all_goals
        dsimp only at hps
        split at hps
        · cases hps
        · cases hps
          exact ⟨rfl, rfl⟩

/-- The same for children. -/
theorem readsNormal_childrenIn {entries : List (String × Value)}
    (h : ∀ e ∈ entries, ReadsNormal e.2) {kind : Kind} {cs : List Node}
    (hcs : childrenIn kind entries = .ok cs) :
    writeNodes cs = normalChildrenIn entries ∧ readNodes (writeNodes cs) = .ok cs := by
  rw [childrenIn_eq] at hcs
  rw [normalChildrenIn_eq]
  cases hnamed : lookupEntry "children" entries with
  | none =>
      rw [hnamed] at hcs
      cases hcs
      exact ⟨rfl, rfl⟩
  | some v =>
      rw [hnamed] at hcs
      cases v
      case list vs => exact (h _ (mem_of_lookupEntry hnamed)).items vs rfl cs hcs
      all_goals
        dsimp only at hcs
        split at hcs
        · cases hcs
        · cases hcs
          exact ⟨rfl, rfl⟩

theorem readsNormal_object {entries : List (String × Value)}
    (h : ∀ e ∈ entries, ReadsNormal e.2) {n : Node}
    (hn : Node.ofValue (.object entries) = .ok n) :
    n.toValue = (Value.object entries).normalForm ∧ Node.ofValue n.toValue = .ok n := by
  rw [Node.ofValue] at hn
  obtain ⟨kind, hkind, hn⟩ := bind_eq_ok.1 hn
  obtain ⟨ps, hps, hn⟩ := bind_eq_ok.1 hn
  obtain ⟨cs, hcs, hn⟩ := bind_eq_ok.1 hn
  cases hn
  obtain ⟨hproperties, hbackProperties⟩ := readsNormal_propertiesIn h hps
  obtain ⟨hchildren, hbackChildren⟩ := readsNormal_childrenIn h hcs
  refine ⟨?_, ofValue_toValue_mk kind hbackProperties hbackChildren⟩
  have hwritten : writeProperties ps = [] → ps = [] := by
    intro hnone
    rw [hnone] at hbackProperties
    cases hbackProperties
    rfl
  rw [toValue_mk kind hwritten, Value.normalForm, kind_of_kindOfEntries hkind, hproperties,
    hchildren]
  rfl

/-- Writing what was read from a value gives the normal form. -/
theorem readsNormal : ValueCases ReadsNormal where
  null := ⟨nofun, nofun, nofun⟩
  bool _ := ⟨nofun, nofun, nofun⟩
  int _ := ⟨nofun, nofun, nofun⟩
  float _ := ⟨nofun, nofun, nofun⟩
  text _ := ⟨nofun, nofun, nofun⟩
  illFormed _ := ⟨nofun, nofun, nofun⟩
  list vs ih := by
    refine ⟨nofun, ?_, nofun⟩
    rintro _ ⟨⟩ ns hns
    exact readsNormal_nodes ih hns
  object es ih := by
    refine ⟨fun n hn => readsNormal_object ih hn, nofun, ?_⟩
    rintro _ ⟨⟩ ps hps
    exact readsNormal_properties ih hps

/-! ### Reading what was written -/

/-- An empty list under the name of a passage is an empty passage. -/
def unifiedProperty (name : String) (v : Value) : Property :=
  match v with
  | .list [] => if isPassageName name then .nodes [] else .value (.list [])
  | v => .value v

mutual
/-- A tree with one spelling for empty passages, which can also be stated as empty lists, and
without the nodes that are neither in passages nor among children. -/
def Node.unified : Node → Node
  | .mk kind properties children => .mk kind (unifiedProperties properties) (unifiedNodes children)
/-- The same for a list of properties. -/
def unifiedProperties : List (String × Property) → List (String × Property)
  | [] => []
  | (name, .value v) :: rest => (name, unifiedProperty name v) :: unifiedProperties rest
  | (name, .nodes ns) :: rest =>
    if isPassageName name then (name, .nodes (unifiedNodes ns)) :: unifiedProperties rest
    else unifiedProperties rest
/-- The same for a list of trees. -/
def unifiedNodes : List Node → List Node
  | [] => []
  | n :: ns => n.unified :: unifiedNodes ns
end

/-- A plain value is read as itself, unless it is a list in the place of a passage: then it has to
be empty. -/
theorem readProperty_unified {name : String} {v : Value}
    (h : propertiesHoldNodes [(name, .value v)] = true) :
    readProperty name v = .ok (unifiedProperty name v) := by
  cases v
  case list vs =>
      cases vs with
      | nil =>
          cases hname : isPassageName name <;>
            simp [readProperty, unifiedProperty, hname, readNodes, Except.map]
      | cons v vs =>
          have hname : isPassageName name = false := by simpa [propertiesHoldNodes] using h
          simp [readProperty, unifiedProperty, hname]
  all_goals rfl

/-- A tree is read back from its value. -/
theorem readBack_unified : TreeCases
    (fun n => n.passagesHoldNodes = true → Node.ofValue n.toValue = .ok n.unified)
    (fun ns => nodesHoldNodes ns = true → readNodes (writeNodes ns) = .ok (unifiedNodes ns))
    (fun ps => propertiesHoldNodes ps = true →
      readProperties (writeProperties ps) = .ok (unifiedProperties ps)) where
  node kind ps cs hps hcs hhold := by
    rw [Node.passagesHoldNodes, Bool.and_eq_true] at hhold
    exact ofValue_toValue_mk kind (hps hhold.1) (hcs hhold.2)
  nil _ := rfl
  cons n ns hn hns hhold := by
    rw [nodesHoldNodes, Bool.and_eq_true] at hhold
    rw [writeNodes, readNodes, hn hhold.1, hns hhold.2]
    rfl
  bare _ := rfl
  value name v ps hps hhold := by
    have hfirst : propertiesHoldNodes [(name, .value v)] = true ∧
        propertiesHoldNodes ps = true := by
      simpa [propertiesHoldNodes] using hhold
    rw [writeProperties, readProperties_cons, readProperty_unified hfirst.1, hps hfirst.2]
    rfl
  nodes name ns ps hns hps hhold := by
    rw [propertiesHoldNodes, Bool.and_eq_true] at hhold
    cases hname : isPassageName name with
    | true =>
        rw [writeProperties_of_passage hname, readProperties_cons, readProperty, if_pos hname,
          hns hhold.1, hps hhold.2, unifiedProperties, if_pos hname]
        rfl
    | false =>
        rw [writeProperties_of_stray hname, hps hhold.2, unifiedProperties, hname]
        rfl

/-- **Writing what was read gives the normal form.**  Reading the normal form gives the same tree as
reading the value, and writing that tree gives the normal form again.  A tree in whose passages
stand nodes and nothing else is read back from its value, with one spelling for empty passages and
without nodes that stand elsewhere, for which the notation has no form. -/
theorem Node.toValue_normalForm :
    (∀ v n, Node.ofValue v = .ok n →
      n.toValue = v.normalForm ∧ Node.ofValue v.normalForm = .ok n ∧
        (Node.ofValue v.normalForm).map Node.toValue = .ok v.normalForm) ∧
      ∀ n : Node, n.passagesHoldNodes = true → Node.ofValue n.toValue = .ok n.unified := by
  refine ⟨fun v n hn => ?_, fun n => readBack_unified.holds n⟩
  obtain ⟨hvalue, hback⟩ := (readsNormal.holds v).tree n hn
  rw [hvalue] at hback
  refine ⟨hvalue, hback, ?_⟩
  rw [hback, Except.map, hvalue]

/-- The theorem at a value that is not in normal form, with an entry that nobody reads, an empty
object, and a list that looks like nodes under a name of no passage; and at a tree with an empty
list in the place of a passage. -/
theorem Node.toValue_normalForm_headline :
    let word : Value := .object [("kind", .text "plain-text"),
      ("properties", .object [("value", .text "a")])]
    let v : Value := .object [("schema_version", .int 3),
      ("children", .list [.object [("children", .list []), ("properties", .object
        [("title", .list [.object [("properties", .object [("value", .text "a")]),
          ("kind", .text "plain-text"), ("children", .null)]]),
          ("level", .float .nan), ("tag", .list []),
          ("notes", .list [.object [("kind", .text "unknown"), ("children", .list [])]])]),
        ("kind", .text "headline")]]),
      ("properties", .object []), ("kind", .text "org-data")]
    let root : Node := .mk .orgData [] [.mk .headline
      [("title", .nodes [.mk .plainText [("value", .value (.text "a"))] []]),
        ("level", .value (.float .nan)), ("tag", .nodes []),
        ("notes", .value (.list [.object [("kind", .text "unknown"), ("children", .list [])]]))] []]
    let tree : Node := .mk .headline
      [("title", .nodes [.mk .bold [("tag", .value (.list []))] []]),
        ("level", .value (.list []))] []
    (Node.ofValue v = .ok root ∧ root.toValue = v.normalForm ∧
        v.normalForm = .object [("kind", .text "org-data"), ("children", .list [.object
          [("kind", .text "headline"), ("properties", .object [("title", .list [word]),
            ("level", .float .nan), ("tag", .list []),
            ("notes", .list [.object [("kind", .text "unknown"), ("children", .list [])]])])]])] ∧
        Node.ofValue v.normalForm = .ok root) ∧
      tree.passagesHoldNodes = true ∧ Node.ofValue tree.toValue = .ok tree.unified := by
  intro word v root tree
  have hread : Node.ofValue v = .ok root := rfl
  have hnormal := Node.toValue_normalForm.1 v root hread
  exact ⟨⟨hread, hnormal.1, rfl, hnormal.2.1⟩, rfl, Node.toValue_normalForm.2 tree rfl⟩

end ForumMarkup
