import ForumMarkup.Document.Node
/-
**Trees as values.**

A serialised node is an object with a `kind`, and where they are not empty with `properties` and
`children`.  Under the names `title` and `tag` a list of properties is a list of serialised nodes;
nodes under other names are no part of the notation and are left out.

Main definitions:

* `ForumMarkup.TreeFault`, `ForumMarkup.TreeFault.isForeseen` — the reasons why a value is no tree,
  and whether they are told to the user;
* `ForumMarkup.Node.ofValue` — the tree of a value, or the first reason: a node is checked before
  what it holds, its properties before its children;
* `ForumMarkup.Node.toValue` — the value of a tree, with nothing empty in it;
* `ForumMarkup.Node.passagesHoldNodes`, `ForumMarkup.Node.nodesInPassages` — whether nothing but
  nodes stands in passages, and nodes stand in passages and among children only.
-/

set_option autoImplicit false

namespace ForumMarkup

/-! ### Faults -/

/-- The reasons why a value is no tree. -/
inductive TreeFault
  /-- A node is not an object. -/
  | notObject (found : Value)
  /-- A node has no kind. -/
  | kindMissing
  /-- A node names a kind that does not exist. -/
  | kindUnknown (found : Value)
  /-- The properties of a node are no object. -/
  | propertiesShape (kind : Kind)
  /-- The children of a node are no list. -/
  | childrenShape (kind : Kind)
deriving Repr

/-- The sentence shown to the user. -/
def TreeFault.message : TreeFault → String
  | .notObject found => "Expected a node object, got " ++ found.typeName
  | .kindMissing => "Node object must contain a 'kind' field"
  | .kindUnknown found => "Unknown node kind: " ++ found.quoted
  | .propertiesShape kind => "Properties of " ++ kind.name ++ " must be an object"
  | .childrenShape kind => "Children of " ++ kind.name ++ " must be an array"

/-- Whether a fault is foreseen: it is, unless its sentence would show an integer with too many
digits. -/
def TreeFault.isForeseen (fault : TreeFault) (limit? : Option Nat := Text.digitLimit?) : Bool :=
  match fault with
  | .kindUnknown found => found.isShowable limit?
  | _ => true

/-! ### Reading -/

/-- The kind that a value names. -/
def Kind.ofValue? : Value → Option Kind
  | .text s => Kind.ofName? s
  | _ => none

/-- The kind of a serialised node. -/
def kindOfEntries (entries : List (String × Value)) : Except TreeFault Kind :=
  match lookupEntry "kind" entries with
  | none => .error .kindMissing
  | some v =>
    match Kind.ofValue? v with
    | some k => .ok k
    | none => .error (.kindUnknown v)

mutual
/-- The tree that a value serialises. -/
def Node.ofValue : Value → Except TreeFault Node
  | .object entries => do
    let kind ← kindOfEntries entries
    let properties ← propertiesIn kind entries
    let children ← childrenIn kind entries
    return .mk kind properties children
  | v => .error (.notObject v)
/-- The properties among the entries of a serialised node. -/
def propertiesIn (kind : Kind) : List (String × Value) → Except TreeFault (List (String × Property))
  | [] => .ok []
  | (name, v) :: rest =>
    if name == "properties" then
      match v with
      | .object entries => readProperties entries
      | v => if v.truthy then .error (.propertiesShape kind) else .ok []
    else propertiesIn kind rest
/-- The children among the entries of a serialised node. -/
def childrenIn (kind : Kind) : List (String × Value) → Except TreeFault (List Node)
  | [] => .ok []
  | (name, v) :: rest =>
    if name == "children" then
      match v with
      | .list items => readNodes items
      | v => if v.truthy then .error (.childrenShape kind) else .ok []
    else childrenIn kind rest
/-- Properties, with the passages among them read as nodes. -/
def readProperties : List (String × Value) → Except TreeFault (List (String × Property))
  | [] => .ok []
  | (name, v) :: rest => do
    let p ← match v with
      | .list items =>
        if isPassageName name then (readNodes items).map .nodes else .ok (.value (.list items))
      | v => .ok (.value v)
    return (name, p) :: (← readProperties rest)
/-- The trees that a list of values serialises. -/
def readNodes : List Value → Except TreeFault (List Node)
  | [] => .ok []
  | v :: rest => do
    let n ← Node.ofValue v
    return n :: (← readNodes rest)
end

/-! ### Writing -/

mutual
/-- The value that serialises a tree. -/
def Node.toValue : Node → Value
  | .mk kind properties children =>
    .object (("kind", .text kind.name) ::
      ((match properties with
        | [] => []
        | ps => [("properties", .object (writeProperties ps))]) ++
      (match children with
        | [] => []
        | cs => [("children", .list (writeNodes cs))])))
/-- The values that serialise properties. -/
def writeProperties : List (String × Property) → List (String × Value)
  | [] => []
  | (name, .value v) :: rest => (name, v) :: writeProperties rest
  | (name, .nodes ns) :: rest =>
    if isPassageName name then (name, .list (writeNodes ns)) :: writeProperties rest
    else writeProperties rest
/-- The values that serialise a list of trees. -/
def writeNodes : List Node → List Value
  | [] => []
  | n :: ns => n.toValue :: writeNodes ns
end

/-! ### Passages that hold something else, and nodes elsewhere -/

mutual
/-- Whether every list under a passage name is a list of nodes.  Trees that were read are so;
setting a property can break it. -/
def Node.passagesHoldNodes : Node → Bool
  | .mk _ properties children => propertiesHoldNodes properties && nodesHoldNodes children
/-- The same for a list of properties. -/
def propertiesHoldNodes : List (String × Property) → Bool
  | [] => true
  | (name, .value v) :: rest =>
    (match v with
      | .list (_ :: _) => !isPassageName name
      | _ => true) && propertiesHoldNodes rest
  | (_, .nodes ns) :: rest => nodesHoldNodes ns && propertiesHoldNodes rest
/-- The same for a list of trees. -/
def nodesHoldNodes : List Node → Bool
  | [] => true
  | n :: ns => n.passagesHoldNodes && nodesHoldNodes ns
end

mutual
/-- Whether nodes stand in passages and among children only. -/
def Node.nodesInPassages : Node → Bool
  | .mk _ properties children => propertiesInPassages properties && allInPassages children
/-- The same for a list of properties. -/
def propertiesInPassages : List (String × Property) → Bool
  | [] => true
  | (_, .value _) :: rest => propertiesInPassages rest
  | (name, .nodes ns) :: rest => isPassageName name && allInPassages ns && propertiesInPassages rest
/-- The same for a list of trees. -/
def allInPassages : List Node → Bool
  | [] => true
  | n :: ns => n.nodesInPassages && allInPassages ns
end

end ForumMarkup
