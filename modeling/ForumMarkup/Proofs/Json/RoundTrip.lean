import ForumMarkup.Proofs.Json.Token
import ForumMarkup.Proofs.Value.Entry
import ForumMarkup.Proofs.Value.Exact
/-
**Values are read back from their JSON text.**

The writer lays a value out in front of the text that follows it, and the reader takes a value off
the front of a text; so the statement about a value is one about any text that may follow it.  It
also says how much the value is longer than what follows, since the reader is bounded by the length
of the text that it has left, and with what the value begins, since the reader looks for other
things in front of it: gaps, the end of a list, a byte order mark.

Main definitions:

* `ForumMarkup.Json.ReadsBack` — what is said of the text of a value.

Main results:

* `ForumMarkup.Json.elements_writeItems`, `ForumMarkup.Json.members_writeEntries` — the items of a
  list and the entries of an object are read back if each of the values is;
* `ForumMarkup.Json.readsBack` — **exact values are read back**, in every layout and at every depth;
* `ForumMarkup.Json.read_write` — **the text of an exact value denotes the value**.
-/

set_option autoImplicit false

namespace ForumMarkup.Json

/-! ### Gaps -/

theorem skipGap_of_solid {c : Char} (h : isGap c = false) (cs : List Char) :
    skipGap (c :: cs) = c :: cs := by
  simp [skipGap, h]

/-- The start of a line is a gap. -/
theorem skipGap_lineStart (layout : Layout) (depth : Nat) {cs : List Char} (h : skipGap cs = cs) :
    skipGap (lineStart layout depth ++ cs) = cs := by
  cases layout with
  | oneLine => exact h
  | indented width =>
      have hspace : isGap ' ' = true := rfl
      have hfeed : isGap '\n' = true := rfl
      have hspaces : ∀ c ∈ List.replicate (width.toNat * depth) ' ', isGap c = true :=
        fun c hc => List.eq_of_mem_replicate hc ▸ hspace
      rw [lineStart, List.cons_append, skipGap, List.dropWhile_cons_of_pos hfeed,
        List.dropWhile_append_of_pos hspaces]
      exact h

/-- A separator is a comma and a gap. -/
theorem separator_append (layout : Layout) (depth : Nat) {cs : List Char} (h : skipGap cs = cs) :
    ∃ gap, separator layout depth ++ cs = ',' :: gap ∧ skipGap gap = cs ∧
      cs.length ≤ gap.length := by
  cases layout with
  | oneLine => exact ⟨' ' :: cs, rfl, by simpa [skipGap, isGap] using h, by simp⟩
  | indented width =>
      exact ⟨lineStart (.indented width) depth ++ cs, rfl, skipGap_lineStart _ _ h, by simp⟩

/-! ### Reading a value back -/

/-- Whether a character is none of those that the reader takes for something else in front of a
value: a gap, the end of a list or a byte order mark. -/
def opensValue (c : Char) : Bool :=
  !isGap c && c != ']' && c != '\uFEFF'

theorem opensValue_iff {c : Char} :
    opensValue c = true ↔ isGap c = false ∧ c ≠ ']' ∧ c ≠ '\uFEFF' := by
  simp [opensValue, and_assoc]

theorem opensValue_of_isDigit {c : Char} (h : isDigit c = true) : opensValue c = true := by
  refine opensValue_iff.2 ⟨?_, ?_, ?_⟩
  · cases hgap : isGap c with
    | false => rfl
    | true =>
        simp only [isGap, Bool.or_eq_true, beq_iff_eq] at hgap
        rcases hgap with ((rfl | rfl) | rfl) | rfl <;> cases h
  · rintro rfl
    cases h
  · rintro rfl
    cases h

/-- What is said of the text of a value. -/
structure ReadsBack (layout : Layout) (v : Value) : Prop where
  /-- It is not empty. -/
  room : ∀ depth rest, rest.length < (writeOnto layout depth v rest).length
  /-- It begins with a character that opens a value. -/
  start : ∀ depth rest, ∃ c cs, writeOnto layout depth v rest = c :: cs ∧ opensValue c = true
  /-- The value is read off it, in front of everything that may follow a value, with its length as a
  bound. -/
  read : ∀ depth rest fuel, endsValue rest = true →
    (writeOnto layout depth v rest).length ≤ fuel + rest.length →
      value none fuel (writeOnto layout depth v rest) = .ok (v, rest)

variable {layout : Layout}

theorem ReadsBack.skipGap {v : Value} (h : ReadsBack layout v) (depth : Nat) (rest : List Char) :
    skipGap (writeOnto layout depth v rest) = writeOnto layout depth v rest := by
  obtain ⟨c, cs, hcs, hopens⟩ := h.start depth rest
  rw [hcs, skipGap_of_solid (opensValue_iff.1 hopens).1]

/-! ### Items of a list -/

theorem endsValue_writeItems (depth : Nat) (vs : List Value) (rest : List Char) :
    endsValue (writeItems layout depth vs rest) = true := by
  cases vs <;> cases layout <;> rfl

theorem length_writeItems {vs : List Value} (h : ∀ v ∈ vs, ReadsBack layout v) (depth : Nat)
    (rest : List Char) : rest.length < (writeItems layout depth vs rest).length := by
  induction vs with
  | nil =>
      simp only [writeItems, List.length_append, List.length_cons]
      omega
  | cons v vs ih =>
      have hv := (h v List.mem_cons_self).room (depth + 1) (writeItems layout depth vs rest)
      have hvs := ih fun w hw => h w (List.mem_cons_of_mem _ hw)
      simp only [writeItems, List.length_append]
      omega

/-- The items of a list are read back, from the first one on. -/
theorem elements_writeItems {v : Value} {vs : List Value} (hv : ReadsBack layout v)
    (h : ∀ w ∈ vs, ReadsBack layout w) (depth fuel : Nat) (rest : List Char)
    (hfuel : (writeOnto layout (depth + 1) v (writeItems layout depth vs rest)).length ≤
      fuel + rest.length) :
    elements none fuel (writeOnto layout (depth + 1) v (writeItems layout depth vs rest)) =
      .ok (v :: vs, rest) := by
  induction vs generalizing v fuel with
  | nil =>
      have hroom := hv.room (depth + 1) (writeItems layout depth [] rest)
      have hrest := length_writeItems h depth rest
      cases fuel with
      | zero => omega
      | succ fuel =>
          have hread := hv.read (depth + 1) (writeItems layout depth [] rest) fuel
            (endsValue_writeItems ..) (by omega)
          have hclose : Json.skipGap (writeItems layout depth [] rest) = ']' :: rest :=
            skipGap_lineStart layout depth (skipGap_of_solid rfl rest)
          rw [elements, hread]
          simp only [bind, Except.bind, hclose]
  | cons w vs ih =>
      have hw := h w List.mem_cons_self
      have hvs : ∀ w ∈ vs, ReadsBack layout w := fun w hw => h w (List.mem_cons_of_mem _ hw)
      obtain ⟨gap, hgap, hskip, hle⟩ := separator_append layout (depth + 1)
        (hw.skipGap (depth + 1) (writeItems layout depth vs rest))
      have hitems : writeItems layout depth (w :: vs) rest = ',' :: gap := hgap
      have hcomma : Json.skipGap (',' :: gap) = ',' :: gap := skipGap_of_solid rfl gap
      have hroom := hv.room (depth + 1) (',' :: gap)
      have hrest := length_writeItems h depth rest
      rw [hitems] at hfuel hrest ⊢
      rw [List.length_cons] at hroom hrest
      cases fuel with
      | zero => omega
      | succ fuel =>
          have hread := hv.read (depth + 1) (',' :: gap) fuel rfl (by rw [List.length_cons]; omega)
          have hnext := ih hw hvs fuel (by omega)
          rw [elements, hread]
          simp only [bind, Except.bind, hcomma, hskip, hnext]
          rfl

/-! ### Entries of an object -/

theorem endsValue_writeEntries (depth : Nat) (es : List (String × Value)) (rest : List Char) :
    endsValue (writeEntries layout depth es rest) = true := by
  rcases es with _ | ⟨⟨name, v⟩, es⟩ <;> cases layout <;> rfl

theorem length_writeEntries {es : List (String × Value)} (h : ∀ e ∈ es, ReadsBack layout e.2)
    (depth : Nat) (rest : List Char) :
    rest.length < (writeEntries layout depth es rest).length := by
  induction es with
  | nil =>
      simp only [writeEntries, List.length_append, List.length_cons]
      omega
  | cons e es ih =>
      obtain ⟨name, v⟩ := e
      have hv : ReadsBack layout v := h (name, v) List.mem_cons_self
      have hroom := hv.room (depth + 1) (writeEntries layout depth es rest)
      have hes := ih fun w hw => h w (List.mem_cons_of_mem _ hw)
      simp only [writeEntries, List.length_append, List.length_cons]
      omega

/-- A name that none of the entries before has is put at the end. -/
theorem putEntry_of_nodup {before : List (String × Value)} {name : String} {names : List String}
    (h : (before.map Prod.fst ++ name :: names).Nodup) (v : Value) :
    putEntry name v before = before ++ [(name, v)] :=
  putEntry_of_notMem
    (fun hmem => (List.nodup_append.1 h).2.2 name hmem name List.mem_cons_self rfl) v

/-- The entries of an object are read back, from the first one on. -/
theorem members_writeEntries {name : String} {v : Value} {es : List (String × Value)}
    (hv : ReadsBack layout v) (h : ∀ e ∈ es, ReadsBack layout e.2) (before : List (String × Value))
    (hnames : (before.map Prod.fst ++ name :: es.map Prod.fst).Nodup) (depth fuel : Nat)
    (rest : List Char)
    (hfuel : (writeOnto layout (depth + 1) v (writeEntries layout depth es rest)).length ≤
      fuel + rest.length) :
    members none fuel before (writeText name ++ ':' :: ' ' ::
        writeOnto layout (depth + 1) v (writeEntries layout depth es rest)) =
      .ok (before ++ (name, v) :: es, rest) := by
  have hspace : ∀ cs, skipGap (' ' :: cs) = skipGap cs := fun _ => rfl
  have hcolon : ∀ cs, skipGap (':' :: cs) = ':' :: cs := skipGap_of_solid rfl
  induction es generalizing name v before fuel with
  | nil =>
      have hput := putEntry_of_nodup hnames v
      have hclose : skipGap (writeEntries layout depth [] rest) = '\x7d' :: rest :=
        skipGap_lineStart layout depth (skipGap_of_solid rfl rest)
      have hroom := hv.room (depth + 1) (writeEntries layout depth [] rest)
      have hrest := length_writeEntries h depth rest
      cases fuel with
      | zero => omega
      | succ fuel =>
          have hread := hv.read (depth + 1) (writeEntries layout depth [] rest) fuel
            (endsValue_writeEntries ..) (by omega)
          have hgap := hv.skipGap (depth + 1) (writeEntries layout depth [] rest)
          rw [writeText_append, members]
          simp only [textBody_writeText, bind, Except.bind, hcolon, hspace, hgap, hread, hclose,
            Text.imageOf_pointsOf, hput]
  | cons e es ih =>
      obtain ⟨name', w⟩ := e
      have hput := putEntry_of_nodup hnames v
      have hw : ReadsBack layout w := h (name', w) List.mem_cons_self
      have hes : ∀ e ∈ es, ReadsBack layout e.2 := fun e he => h e (List.mem_cons_of_mem _ he)
      have hsolid : skipGap (writeText name' ++ ':' :: ' ' :: writeOnto layout (depth + 1) w
          (writeEntries layout depth es rest)) = writeText name' ++ ':' :: ' ' ::
            writeOnto layout (depth + 1) w (writeEntries layout depth es rest) := by
        rw [writeText_append]
        exact skipGap_of_solid rfl _
      obtain ⟨gap, hgap, hskip, hle⟩ := separator_append layout (depth + 1) hsolid
      have hentries : writeEntries layout depth ((name', w) :: es) rest = ',' :: gap := hgap
      have hcomma : skipGap (',' :: gap) = ',' :: gap := skipGap_of_solid rfl gap
      have hroom := hv.room (depth + 1) (',' :: gap)
      have hrest := length_writeEntries h depth rest
      have hvgap := hv.skipGap (depth + 1) (',' :: gap)
      rw [hentries] at hfuel hrest ⊢
      rw [List.length_cons] at hroom hrest
      simp only [List.length_append, List.length_cons] at hle
      cases fuel with
      | zero => omega
      | succ fuel =>
          have hread := hv.read (depth + 1) (',' :: gap) fuel rfl (by rw [List.length_cons]; omega)
          have hnext := ih hw hes (before ++ [(name, v)]) (by simpa using hnames) fuel (by omega)
          rw [writeText_append, members]
          simp only [textBody_writeText, bind, Except.bind, hcolon, hspace, hvgap, hread, hcomma,
            Text.imageOf_pointsOf, hput, hskip]
          rw [hnext, List.append_assoc]
          rfl

/-! ### The cases of a value -/

namespace ReadsBack

/-- The case of a value whose text is the same at every depth. -/
theorem scalar {v : Value} (c : Char) (cs : List Char)
    (hwrite : ∀ depth rest, writeOnto layout depth v rest = c :: cs ++ rest)
    (hopens : opensValue c = true)
    (hread : ∀ fuel rest, endsValue rest = true →
      value none (fuel + 1) (c :: cs ++ rest) = .ok (v, rest)) :
    ReadsBack layout v where
  room depth rest := by
    rw [hwrite, List.length_append, List.length_cons]
    omega
  start depth rest := ⟨c, cs ++ rest, hwrite depth rest, hopens⟩
  read depth rest fuel hrest hfuel := by
    rw [hwrite, List.length_append, List.length_cons] at hfuel
    rw [hwrite]
    cases fuel with
    | zero => omega
    | succ fuel => exact hread fuel rest hrest

theorem int (n : Int) : ReadsBack layout (.int n) := by
  have hread : ∀ fuel rest, endsValue rest = true →
      value none (fuel + 1) ((toString n).toList ++ rest) = .ok (.int n, rest) :=
    fun fuel rest hrest => (value_toString none fuel n rest).trans (number_toString hrest n)
  have hwrite : ∀ depth rest,
      writeOnto layout depth (.int n) rest = (toString n).toList ++ rest := fun _ _ => rfl
  rcases toList_toString_cases n with ⟨d, ds, hd, hdigit⟩ | ⟨d, ds, hd, -⟩
  · rw [hd] at hread hwrite
    exact .scalar d ds hwrite (opensValue_of_isDigit hdigit) hread
  · rw [hd] at hread hwrite
    exact .scalar '-' (d :: ds) hwrite rfl hread

theorem text (s : String) : ReadsBack layout (.text s) := by
  refine .scalar '\x22' (s.toList.flatMap escapeChar ++ ['\x22']) (fun _ _ => rfl) rfl
    fun fuel rest _ => ?_
  rw [List.cons_append, List.append_assoc, List.singleton_append, value]
  simp only [textBody_writeText, bind, Except.bind, Value.ofPoints_pointsOf]
  rfl

theorem list {vs : List Value} (h : ∀ v ∈ vs, ReadsBack layout v) :
    ReadsBack layout (.list vs) := by
  cases vs with
  | nil => exact .scalar '[' [']'] (fun _ _ => rfl) rfl fun _ _ _ => rfl
  | cons v vs =>
      have hv := h v List.mem_cons_self
      have hvs : ∀ w ∈ vs, ReadsBack layout w := fun w hw => h w (List.mem_cons_of_mem _ hw)
      have hroom : ∀ depth rest, rest.length <
          (writeOnto layout (depth + 1) v (writeItems layout depth vs rest)).length :=
        fun depth rest => Nat.lt_trans (length_writeItems hvs depth rest) (hv.room _ _)
      refine ⟨fun depth rest => ?_, fun depth rest => ⟨_, _, rfl, rfl⟩,
        fun depth rest fuel _ hfuel => ?_⟩
      · have hlength := hroom depth rest
        simp only [writeOnto, List.length_cons, List.length_append]
        omega
      · have hlength := hroom depth rest
        have hskip := skipGap_lineStart layout (depth + 1)
          (hv.skipGap (depth + 1) (writeItems layout depth vs rest))
        simp only [writeOnto, List.length_cons, List.length_append] at hfuel
        cases fuel with
        | zero => omega
        | succ fuel =>
            have helements := elements_writeItems hv hvs depth fuel rest (by omega)
            obtain ⟨c, cs, hcs, hopens⟩ :=
              hv.start (depth + 1) (writeItems layout depth vs rest)
            rw [writeOnto, value, hskip, hcs]
            -- The first item is not taken for the end of the list.
            split
            · rename_i heq
              exact absurd (List.cons.inj heq).1 (opensValue_iff.1 hopens).2.1
            · rw [← hcs, helements]
              rfl

theorem object {es : List (String × Value)} (hnames : (es.map Prod.fst).Nodup)
    (h : ∀ e ∈ es, ReadsBack layout e.2) : ReadsBack layout (.object es) := by
  cases es with
  | nil => exact .scalar '\x7b' ['\x7d'] (fun _ _ => rfl) rfl fun _ _ _ => rfl
  | cons e es =>
      obtain ⟨name, v⟩ := e
      have hv : ReadsBack layout v := h (name, v) List.mem_cons_self
      have hes : ∀ e ∈ es, ReadsBack layout e.2 := fun e he => h e (List.mem_cons_of_mem _ he)
      have hroom : ∀ depth rest, rest.length <
          (writeOnto layout (depth + 1) v (writeEntries layout depth es rest)).length :=
        fun depth rest => Nat.lt_trans (length_writeEntries hes depth rest) (hv.room _ _)
      refine ⟨fun depth rest => ?_, fun depth rest => ⟨_, _, rfl, rfl⟩,
        fun depth rest fuel _ hfuel => ?_⟩
      · have hlength := hroom depth rest
        simp only [writeOnto, List.length_cons, List.length_append]
        omega
      · have hlength := hroom depth rest
        simp only [writeOnto, List.length_cons, List.length_append] at hfuel
        cases fuel with
        | zero => omega
        | succ fuel =>
            have hmembers :=
              members_writeEntries hv hes [] hnames depth fuel rest (by omega)
            rw [writeText_append] at hmembers
            rw [writeOnto, value, writeText_append,
              skipGap_lineStart _ _ (skipGap_of_solid rfl _)]
            split
            · rename_i heq
              cases heq
            · rw [hmembers]
              rfl

end ReadsBack

/-! ### Exact values -/

variable (layout)

/-- **Exact values are read back**, in every layout and at every depth. -/
theorem readsBack : ValueCases fun v => v.isExact = true → ReadsBack layout v where
  null _ := .scalar 'n' ['u', 'l', 'l'] (fun _ _ => rfl) rfl fun _ _ _ => rfl
  bool b _ := by
    cases b with
    | false =>
        exact .scalar 'f' ['a', 'l', 's', 'e'] (fun _ _ => rfl) rfl fun _ _ _ => rfl
    | true =>
        exact .scalar 't' ['r', 'u', 'e'] (fun _ _ => rfl) rfl fun _ _ _ => rfl
  int n _ := .int n
  float _ h := nomatch h
  text s _ := .text s
  illFormed _ h := nomatch h
  list _ ih h := .list fun v hv => ih v hv (Value.isExact_list.1 h v hv)
  object _ ih h :=
    .object (Value.isExact_object.1 h).1 fun e he => ih e he ((Value.isExact_object.1 h).2 e he)

/-- **The text of an exact value denotes the value.** -/
theorem read_write {v : Value} (h : v.isExact = true) :
    read none (write layout v).toList = .ok v := by
  have hback := (readsBack layout).holds v h
  have hread := hback.read 0 [] (2 * (writeOnto layout 0 v []).length + 2) rfl
    (by rw [List.length_nil]; omega)
  have hwhole : whole none (writeOnto layout 0 v []) = .ok v := by
    rw [whole, hback.skipGap, hread]
    rfl
  obtain ⟨c, cs, hcs, hopens⟩ := hback.start 0 []
  have hmark : ¬(writeOnto layout 0 v []).head? == some '\uFEFF' := by
    simpa [hcs] using (opensValue_iff.1 hopens).2.2
  rw [write, String.toList_ofList, read, if_neg hmark, hwhole]

end ForumMarkup.Json
