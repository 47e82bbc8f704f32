import ForumMarkup.Proofs.Document.Edit
import ForumMarkup.Proofs.Pass.Resemblance
/-
**Trees that are transcoded alike.**

Two trees are transcoded alike if they have the same parts, as a pass sees them.  An edit keeps the
parts of all nodes if it keeps plain values and levels, and leaves out only what has no text.

Main definitions:

* `ForumMarkup.Recast` — a node has in one environment the parts that another one has in another.

Main results:

* `ForumMarkup.Recast.entry_eq` — **nodes with the same parts are transcoded alike**;
* `ForumMarkup.listText_map` — so are lists of them;
* `ForumMarkup.recast_self` — environments that count levels alike make the same of a tree;
* `ForumMarkup.Recast.document_eq` — and documents, if the same footnotes follow them;
* `ForumMarkup.footnoteSection_eq` — definitions with the same texts make the same footnotes;
* `ForumMarkup.recast_edit` — an edit keeps the parts of all nodes of a document if it keeps plain
  values and levels, and leaves out only what has no text.
-/

set_option autoImplicit false

namespace ForumMarkup

/-! ### Nodes with the same parts -/

/-- A node has in one environment the parts that another one has in another.  Of the plain values
the level is not read as it is but counted, and passages may hold nodes instead. -/
structure Recast (env env' : Environment) (n n' : Node) : Prop where
  kind : n'.kind = n.kind
  value : ∀ name, name ≠ "level" → name ≠ "title" → name ≠ "tag" →
    Node.valueIn? name n'.properties = Node.valueIn? name n.properties
  level : n.kind = .headline → headlineLevel env' n'.properties = headlineLevel env n.properties
  passages : ∀ name, isPassageName name = true →
    passage env' name n'.properties = passage env name n.properties
  below : ∀ descriptive,
    listText env' descriptive n'.children = listText env descriptive n.children
  isEmpty : n.kind = .footnoteReference → n'.children.isEmpty = n.children.isEmpty

section

variable {env env' : Environment}

theorem Recast.resembles (lenient : Prop) {n n' : Node} (h : Recast env env' n n') :
    Resembles lenient env env' n n' :=
  { kind := h.kind
    value := h.value
    level := h.level
    passages := fun name hname => .of_eq (h.passages name hname)
    below := fun descriptive _ => .of_eq (h.below descriptive)
    isEmpty := h.isEmpty }

/-- **Nodes with the same parts are transcoded alike**, also as items of a descriptive list. -/
theorem Recast.entry_eq {n n' : Node} (henv : env.Matches env') (h : Recast env env' n n')
    (descriptive : Bool) : entry env' descriptive n' = entry env descriptive n :=
  ((h.resembles False).entry henv descriptive).eq

/-- They have the same blanks after them. -/
theorem Recast.withBlanks_eq {n n' : Node} (h : Recast env env' n n') :
    withBlanks n' = withBlanks n :=
  (h.resembles False).withBlanks_eq

/-- As documents they have the same text, if the same footnotes follow them. -/
theorem Recast.document_eq {n n' : Node} (henv : env.Matches env')
    (h : Recast env env' n n') (hnotes : footnoteSection env' = footnoteSection env) :
    document env' n' = document env n :=
  ((h.resembles False).document henv (.of_eq hnotes)).eq

/-- Lists of such nodes have the same text. -/
theorem listText_map {g : Node → Node} {descriptive : Bool} {ns : List Node}
    (hentry : ∀ n ∈ ns, entry env' descriptive (g n) = entry env descriptive n)
    (hblanks : ∀ n ∈ ns, withBlanks (g n) = withBlanks n) :
    listText env' descriptive (ns.map g) = listText env descriptive ns := by
  induction ns with
  | nil => rfl
  | cons n ns ih =>
      rw [List.map_cons, listText_cons, listText_cons, hentry n List.mem_cons_self,
        hblanks n List.mem_cons_self, ih (fun m hm => hentry m (List.mem_cons_of_mem _ hm))
          fun m hm => hblanks m (List.mem_cons_of_mem _ hm)]

/-- A node has the same parts in environments that count levels alike. -/
theorem recast_self (henv : env.Matches env') (hlevel : headlineLevel env' = headlineLevel env)
    (n : Node) : Recast env env' n n := by
  induction n using Node.induction with
  | h n hcs hps =>
      have hlist : ∀ (descriptive : Bool) (ns : List Node), (∀ c ∈ ns, Recast env env' c c) →
          listText env' descriptive ns = listText env descriptive ns := by
        intro descriptive ns hns
        have hmap := listText_map (g := id) (fun c hc => (hns c hc).entry_eq henv descriptive)
          fun c hc => (hns c hc).withBlanks_eq
        rwa [List.map_id] at hmap
      refine
        { kind := rfl
          value := fun _ _ _ _ => rfl
          level := fun _ => by rw [hlevel]
          passages := fun name _ => ?_
          below := fun descriptive => hlist descriptive _ hcs
          isEmpty := fun _ => rfl }
      have htext := hlist false _ (hps name)
      rw [passageIn] at htext
      rw [passage_eq, passage_eq]
      rcases hp : lookupEntry name n.properties with _ | v | ns
      · rfl
      · rfl
      · rw [hp] at htext
        exact htext

end

/-! ### Footnotes -/

section

variable {env env' : Environment} {s s' : Scope} (hs : env.scope? = some s)
  (hs' : env'.scope? = some s') {g : Node → Node}

theorem lookupEntry_map {label : String} (definitions : List (String × Node)) :
    lookupEntry label (definitions.map (Prod.map id g)) =
      (lookupEntry label definitions).map g := by
  induction definitions with
  | nil => rfl
  | cons entry definitions ih =>
      obtain ⟨label', d⟩ := entry
      by_cases hlabel : (label' == label) = true <;> simp_all [lookupEntry]

include hs hs' in
/-- Definitions with the same texts make the same list of footnotes. -/
theorem footnoteSection_eq (henv : env.Matches env')
    (hdefinitions : s'.definitions = s.definitions.map (Prod.map id g))
    (htext : ∀ label d, lookupEntry label s.definitions = some d →
      listText env' false (g d).children = listText env false d.children) :
    footnoteSection env' = footnoteSection env := by
  refine (footnoteSection_sameRun hs hs' henv (by rw [hdefinitions, List.length_map])
    fun label => ?_).eq
  rw [hdefinitions, lookupEntry_map]
  cases hd : lookupEntry label s.definitions with
  | none => exact .none
  | some d => exact .some (.of_eq (htext label d hd))

end

/-! ### Edits -/

section

variable {env env' : Environment} {e : Edit}

theorem passage_edit {kind : Kind} {name : String} {ps : List (String × Property)}
    (hvalue : ∀ v, e.value kind name v = v)
    (htext : listText env' false ((passageIn name ps).map (Node.edit e)) =
      listText env false (passageIn name ps)) :
    passage env' name (editProperties e kind ps) = passage env name ps := by
  rw [passage_eq, passage_eq, lookupEntry_edit]
  rw [passageIn] at htext
  rcases hp : lookupEntry name ps with _ | v | ns
  · rfl
  · simp only [Option.map_some, hvalue]
  · rw [hp] at htext
    exact htext

/-- Nodes without a text may be left out of a list. -/
theorem listText_filter {keep : Node → Bool} {descriptive : Bool} (ns : List Node)
    (hkeep : ∀ c rest, keep c = false →
      listText env descriptive (c :: rest) = listText env descriptive rest) :
    listText env descriptive (ns.filter keep) = listText env descriptive ns := by
  induction ns with
  | nil => rfl
  | cons n ns ih =>
      cases hn : keep n with
      | true => rw [List.filter_cons_of_pos hn, listText_cons, listText_cons, ih]
      | false => rw [List.filter_cons_of_neg (by simp [hn]), ih, hkeep n ns hn]

/-- An edit that keeps plain values and the levels of headlines, and leaves out only what has no
text, keeps the parts of all nodes of a document. -/
theorem recast_edit (henv : env.Matches env') {root : Node}
    (hvalue : ∀ kind name v, name ≠ "level" → e.value kind name v = v)
    (hlevel : ∀ n ∈ root.preorder, n.kind = .headline →
      headlineLevel env' (n.edit e).properties = headlineLevel env n.properties)
    (hkeeps : ∀ kind c, e.keeps kind c = false → kind ≠ .footnoteReference ∧
      ∀ descriptive rest, listText env descriptive (c :: rest) = listText env descriptive rest)
    {n : Node} (hn : n ∈ root.preorder) : Recast env env' n (n.edit e) := by
  induction n using Node.induction with
  | h n hcs hps =>
      -- The nodes below are in the document too, and have the same texts by induction.
      have hlist : ∀ (descriptive : Bool) (ns : List Node),
          (∀ c ∈ ns, Recast env env' c (c.edit e)) →
          listText env' descriptive (ns.map (Node.edit e)) = listText env descriptive ns :=
        fun descriptive ns hns => listText_map (fun c hc => (hns c hc).entry_eq henv descriptive)
          fun c hc => (hns c hc).withBlanks_eq
      refine
        { kind := kind_edit e n
          value := fun name hname _ _ => ?_
          level := hlevel n hn
          passages := fun name hname => ?_
          below := fun descriptive => ?_
          isEmpty := fun hkind => ?_ }
      · rw [properties_edit, valueIn?_edit_of_eq fun v => hvalue n.kind name v hname]
      · have hnot : name ≠ "level" := by
          rintro rfl
          cases hname
        rw [properties_edit]
        refine passage_edit (fun v => hvalue n.kind name v hnot) (hlist false _ fun c hc => ?_)
        exact hps name c hc
          (preorder_subset hn (preorder_subset_of_mem_passageIn hname hc (mem_preorder_self c)))
      · rw [children_edit, hlist descriptive _ fun c hc => ?_]
        · exact listText_filter _ fun c rest hc => (hkeeps n.kind c hc).2 descriptive rest
        · have hchild : c ∈ n.children := List.mem_of_mem_filter hc
          exact hcs c hchild
            (preorder_subset hn (preorder_subset_of_mem_children hchild (mem_preorder_self c)))
      · have hall : n.children.filter (e.keeps n.kind) = n.children := by
          refine List.filter_eq_self.2 fun c _ => ?_
          by_contra hc
          exact (hkeeps n.kind c (by simpa using hc)).1 hkind
        rw [children_edit, hall, List.isEmpty_map]

end

end ForumMarkup
