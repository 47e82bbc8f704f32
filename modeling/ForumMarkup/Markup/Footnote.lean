import ForumMarkup.Document.Misfit
import ForumMarkup.Document.Traversal
import ForumMarkup.Markup.Headline
/-
**Footnotes.**

Forum markup has no footnotes.  A reference becomes a mark with a number, and the definitions follow
the body as a list.  Numbers are given in the order of first reference and never change.

Main definitions:

* `ForumMarkup.FootnoteTable` — the definitions of a document by label, and the labels numbered so
  far;
* `ForumMarkup.FootnoteTable.ofTree` — the definitions in a tree; the first one of a label counts;
* `ForumMarkup.FootnoteTable.canCollect` — whether the labels of all definitions can be shown, which
  collecting them asks for;
* `ForumMarkup.FootnoteTable.numberFor` — the number of a label, given on first use;
* `ForumMarkup.FootnoteTable.at?` — the entry at a place, for iteration over a table that grows;
* `ForumMarkup.noteLines`, `ForumMarkup.noteSection` — the list of definitions after the body.

Main results:

* `ForumMarkup.FootnoteTable.length_numbers_le` — a table whose numbered labels are distinct and all
  defined numbers no more labels than it defines.
-/

set_option autoImplicit false

namespace ForumMarkup

/-- The definitions of a document and the labels numbered so far: the label at place `i` has number
`i + 1`. -/
structure FootnoteTable where
  definitions : List (String × Node) := []
  numbers : List String := []

instance : Inhabited FootnoteTable := ⟨{}⟩

namespace FootnoteTable

/-! ### Collecting definitions -/

/-- The label under which a node defines a footnote. -/
def definedLabel? (n : Node) : Option String :=
  if n.kind = .footnoteDefinition then
    match n.value? "label" with
    | none => none
    | some .null => none
    | some v => some v.shown
  else none

/-- Adds a definition unless its label is taken. -/
def addDefinition (definitions : List (String × Node)) (n : Node) : List (String × Node) :=
  match definedLabel? n with
  | none => definitions
  | some label =>
    if (lookupEntry label definitions).isSome then definitions else definitions ++ [(label, n)]

/-- The definitions among a list of nodes. -/
def collect (ns : List Node) : List (String × Node) :=
  ns.foldl addDefinition []

/-- Whether the label can be shown under which a node defines a footnote, if it does so. -/
def labelShowable (n : Node) : Bool :=
  if n.kind = .footnoteDefinition then ((n.value? "label").getD .null).isShowable else true

/-- Whether the labels can be shown under which nodes define footnotes. -/
def canCollect (ns : List Node) : Bool :=
  ns.all labelShowable

/-- The table of a tree, with no label numbered. -/
def ofTree (root : Node) : FootnoteTable :=
  { definitions := collect root.preorder }

/-! ### Numbering -/

/-- The place of a label among the numbered ones. -/
def place? (label : String) : List String → Option Nat
  | [] => none
  | l :: ls => if l == label then some 0 else (place? label ls).map (· + 1)

/-- The number of a label and the table in which it has that number. -/
def numberFor (t : FootnoteTable) (label : String) : Except Unsupported (Nat × FootnoteTable) :=
  match place? label t.numbers with
  | some i => .ok (i + 1, t)
  | none =>
    match lookupEntry label t.definitions with
    | none => .error (.undefinedFootnote (.text label))
    | some _ => .ok (t.numbers.length + 1, { t with numbers := t.numbers ++ [label] })

/-- The number of a label of any type: only texts are labels, and lists and objects cannot be looked
up at all. -/
def numberForValue (t : FootnoteTable) (label : Value) :
    Except (Misfit ⊕ Unsupported) (Nat × FootnoteTable) :=
  match label.asText? with
  | some s => (t.numberFor s).mapError .inr
  | none =>
    match label with
    | .list _ => .error (.inl .notLabel)
    | .object _ => .error (.inl .notLabel)
    | v => .error (.inr (.undefinedFootnote v))

/-- The number and the definition at a place. -/
def at? (t : FootnoteTable) (i : Nat) : Option (Nat × Node) :=
  match t.numbers[i]? with
  | none => none
  | some label => (lookupEntry label t.definitions).map fun n => (i + 1, n)

/-- All numbers given so far with their definitions. -/
def entries (t : FootnoteTable) : List (Nat × Node) :=
  (List.range t.numbers.length).filterMap t.at?

/-- A run over the table that numbers one label of a list after each entry it sees.  It ends with
the entries seen and with the failure to number a label, if there was one. -/
def walk : (fuel : Nat) → FootnoteTable → Nat → List Value →
    List (Nat × Node) × Option (Misfit ⊕ Unsupported) × FootnoteTable
  | 0, t, _, _ => ([], none, t)
  | fuel + 1, t, i, labels =>
    match t.at? i with
    | none => ([], none, t)
    | some entry =>
      match labels with
      | [] =>
        let (seen, fault, t) := walk fuel t (i + 1) []
        (entry :: seen, fault, t)
      | label :: labels =>
        match t.numberForValue label with
        | .error fault => ([entry], some fault, t)
        | .ok (_, t) =>
          let (seen, fault, t) := walk fuel t (i + 1) labels
          (entry :: seen, fault, t)

/-- A table is sound when the numbered labels are distinct and all have a definition. -/
structure Sound (t : FootnoteTable) : Prop where
  nodup : t.numbers.Nodup
  defined : ∀ l ∈ t.numbers, l ∈ t.definitions.map Prod.fst

theorem length_numbers_le {t : FootnoteTable} (h : t.Sound) :
    t.numbers.length ≤ t.definitions.length := by
  have hsub : t.numbers ⊆ t.definitions.map Prod.fst := fun l hl => h.defined l hl
  have key : ∀ (as bs : List String), as.Nodup → as ⊆ bs → as.length ≤ bs.length := by
    intro as
    induction as with
    | nil => intro bs _ _; simp
    | cons a as ih =>
      intro bs hn hs
      have ha : a ∈ bs := hs (by simp)
      have hn' := List.nodup_cons.1 hn
      have hs' : as ⊆ bs.erase a := by
        intro x hx
        have hxa : x ≠ a := fun e => hn'.1 (e ▸ hx)
        exact (List.mem_erase_of_ne hxa).2 (hs (by simp [hx]))
      have := ih (bs.erase a) hn'.2 hs'
      rw [List.length_erase_of_mem ha] at this
      have : 0 < bs.length := List.length_pos_of_mem ha
      simp only [List.length_cons]
      omega
  simpa using key _ _ h.nodup hsub

end FootnoteTable

/-! ### Marks and the list of definitions -/

/-- The mark of a reference. -/
def formatReference (number : Value) : String :=
  "^" ++ number.shown ++ " "

/-- The line of a definition. -/
def noteLine (number : Nat) (contents : String) : String :=
  "^" ++ toString number ++ ": " ++ contents

/-- The lines of the definitions from a place on.  `fetch` reads the table anew for each entry,
because writing a definition can number further labels, and `write` gives the text of a
definition. -/
def noteLines {m : Type → Type} [Monad m] (fetch : Nat → m (Option (Nat × Node)))
    (write : Node → m String) : (bound place : Nat) → m (List String)
  | 0, _ => return []
  | bound + 1, place => do
    match ← fetch place with
    | none => return []
    | some (number, definition) =>
      let contents ← write definition
      return noteLine number contents :: (← noteLines fetch write bound (place + 1))

/-- The list of definitions under its title; nothing when no label is numbered. -/
def noteSection {m : Type → Type} [Monad m] (fetch : Nat → m (Option (Nat × Node)))
    (write : Node → m String) (title : String) (bound : Nat) : m String := do
  match ← fetch 0 with
  | none => return ""
  | some _ =>
    let lines ← noteLines fetch write bound 0
    return headlineLine "" title ++ "\n".intercalate lines

end ForumMarkup
