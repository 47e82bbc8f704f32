import ForumMarkup.Document.Codec
/-
**Drafts of trees.**

Constructors accept arguments of any shape, so that what they give is first a draft: nodes may stand
where values belong and values where nodes belong.  A draft is settled as a whole.  Its children and
passages are checked for values before its other properties are checked for nodes.

Main definitions:

* `ForumMarkup.Draft` — a draft;
* `ForumMarkup.BuildFault` — the reasons why a construction fails;
* `ForumMarkup.Draft.settle` — the tree of a draft.
-/

set_option autoImplicit false

namespace ForumMarkup

/-- A draft: a value, a list of drafts, or a node with drafts for its properties and children. -/
inductive Draft
  | value (v : Value)
  | list (items : List Draft)
  | node (kind : Kind) (properties : List (String × Draft)) (children : List Draft)

instance : Inhabited Draft := ⟨.value .null⟩

/-- The reasons why a construction fails. -/
inductive BuildFault
  /-- There is no constructor of that name. -/
  | unknownConstructor (name : String)
  /-- The arguments do not fit the constructor. -/
  | arguments
  /-- There is no kind of that name. -/
  | unknownKind
  /-- A passage is neither a text nor a list. -/
  | notPassage
  /-- A link target is no text. -/
  | notTarget
  /-- A value stands where a node belongs. -/
  | notNode
  /-- A node stands where a value belongs. -/
  | nodeAsValue
deriving Repr

namespace Draft

/-- A draft counts as given unless it is a value or list that does not. -/
def truthy : Draft → Bool
  | .value v => v.truthy
  | .list items => !items.isEmpty
  | .node _ _ _ => true

/-- The code points of the text that a draft is. -/
def points? : Draft → Option (List Text.Point)
  | .value v => v.points?
  | _ => none

/-! ### Checks -/

/-- Whether a draft is a node. -/
def isNode : Draft → Bool
  | .node _ _ _ => true
  | _ => false

mutual
/-- Whether all children and passages in a draft of a node are drafts of nodes. -/
def holdsNodes : Draft → Bool
  | .node _ properties children => passagesHold properties && childrenHold children
  | _ => false
/-- The same for the passages among properties. -/
def passagesHold : List (String × Draft) → Bool
  | [] => true
  | (name, .list items) :: rest => (!isPassageName name || childrenHold items) && passagesHold rest
  | (name, .value (.list items)) :: rest =>
    (!isPassageName name || items.isEmpty) && passagesHold rest
  | _ :: rest => passagesHold rest
/-- The same for a list of drafts of nodes. -/
def childrenHold : List Draft → Bool
  | [] => true
  | d :: ds => holdsNodes d && childrenHold ds
end

mutual
/-- The value of a draft without nodes. -/
def toValue? : Draft → Option Value
  | .value v => some v
  | .list items => (toValues? items).map .list
  | .node _ _ _ => none
/-- The values of a list of drafts without nodes. -/
def toValues? : List Draft → Option (List Value)
  | [] => some []
  | d :: ds => do
    let v ← toValue? d
    return v :: (← toValues? ds)
end

/-! ### Settling -/

mutual
/-- The tree of a draft whose children and passages hold nodes. -/
def toNode : Draft → Except BuildFault Node
  | .node kind properties children => do
    let properties ← toProperties properties
    let children ← toNodes children
    return .mk kind properties children
  | _ => .error .notNode
/-- The properties of such a draft. -/
def toProperties : List (String × Draft) → Except BuildFault (List (String × Property))
  | [] => .ok []
  | (name, .value v) :: rest => do return (name, .value v) :: (← toProperties rest)
  | (name, .list items) :: rest => do
    if isPassageName name then
      let ns ← toNodes items
      return (name, .nodes ns) :: (← toProperties rest)
    else
      match toValues? items with
      | none => throw .nodeAsValue
      | some vs => return (name, .value (.list vs)) :: (← toProperties rest)
  | (_, .node _ _ _) :: _ => .error .nodeAsValue
/-- The trees of a list of such drafts. -/
def toNodes : List Draft → Except BuildFault (List Node)
  | [] => .ok []
  | d :: ds => do
    let n ← toNode d
    return n :: (← toNodes ds)
end

/-- The tree of a draft. -/
def settle (d : Draft) : Except BuildFault Node :=
  if d.holdsNodes then d.toNode else .error .notNode

end Draft

end ForumMarkup
