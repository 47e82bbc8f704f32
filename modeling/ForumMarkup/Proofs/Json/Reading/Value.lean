import ForumMarkup.Proofs.Json.Reading.Number
/-
**Reading the values of JSON.**

Between the tokens of JSON a carriage return counts as much as a line feed, and inside of a token
neither may stand.  So writing the line ends of a source as line feeds changes neither its value nor
what is wrong with it.  Only the place of a problem moves, since the source may get shorter.

The reader is taken apart by the character in front: what it does then is the same on both sides.

Main definitions:

* `ForumMarkup.Json.ifHead` — a reading that depends on the character in front;
* `ForumMarkup.Json.words` — the values that are written as words.

Main results:

* `ForumMarkup.Json.exists_brace_of_read` — the source of an object begins with a brace;
* `ForumMarkup.Json.proceeds_values` — reading a value, the entries of an object and the items of a
  list proceeds;
* `ForumMarkup.Json.readsAlike_values` — a value, the entries of an object and the items of a list
  are read alike, as long as there are steps for the source;
* `ForumMarkup.Json.problem_of_read`, `ForumMarkup.Json.isMalformed_of_read` — **a source that
  cannot be read is not JSON**, or an integer has more digits than the limit to them;
* `ForumMarkup.Json.read_plainNewlines` — **a source is read alike with plain line ends**.
-/

set_option autoImplicit false

namespace ForumMarkup.Json

open Text (plainNewlines plainNewlines_cons of_plainNewlines_eq_cons)

/-! ### The character in front -/

section

variable {α : Type} {c : Char} {f f' g g' : List Char → Except Trouble (α × List Char)}
  {cs : List Char} {limit? : Option Nat}

/-- What is read off a source: by `f` behind a character if it is in front, otherwise by `g`. -/
def ifHead (c : Char) (f g : List Char → Except Trouble (α × List Char)) :
    List Char → Except Trouble (α × List Char)
  | [] => g []
  | d :: rest => if d = c then f rest else g (d :: rest)

@[simp] theorem ifHead_head (rest : List Char) : ifHead c f g (c :: rest) = f rest := if_pos rfl

theorem ifHead_of_ne (h : ∀ rest, cs ≠ c :: rest) : ifHead c f g cs = g cs := by
  cases cs with
  | nil => rfl
  | cons d rest =>
      have hne : d ≠ c := by
        rintro rfl
        exact h rest rfl
      exact if_neg hne

theorem ReadsAlike.ifHead (hr : c ≠ '\r') (hn : c ≠ '\n')
    (hf : ∀ rest, cs = c :: rest → plainNewlines cs = c :: plainNewlines rest →
      ReadsAlike (f rest) (f' (plainNewlines rest)))
    (hg : (∀ rest, cs ≠ c :: rest) → ReadsAlike (g cs) (g' (plainNewlines cs))) :
    ReadsAlike (ifHead c f g cs) (ifHead c f' g' (plainNewlines cs)) := by
  rcases Text.head_cases hr hn cs with ⟨rest, heq, hplain⟩ | ⟨hne, hplain⟩
  · rw [hplain, ifHead_head]
    have hfirst := hf rest heq hplain
    rwa [heq, ifHead_head]
  · rw [ifHead_of_ne hne, ifHead_of_ne hplain]
    exact hg hne

theorem Proceeds.ifHead {n : Nat} (hf : ∀ rest, cs = c :: rest → Proceeds limit? n (f rest))
    (hg : Proceeds limit? n (g cs)) : Proceeds limit? n (ifHead c f g cs) := by
  by_cases h : ∃ rest, cs = c :: rest
  · obtain ⟨rest, rfl⟩ := h
    rw [ifHead_head]
    exact hf rest rfl
  · rw [ifHead_of_ne fun rest heq => h ⟨rest, heq⟩]
    exact hg

end

/-! ### Gaps -/

theorem skipGap_plainNewlines (cs : List Char) :
    skipGap (plainNewlines cs) = plainNewlines (skipGap cs) :=
  Text.dropWhile_plainNewlines rfl cs

theorem length_skipGap_le (cs : List Char) : (skipGap cs).length ≤ cs.length :=
  (List.dropWhile_suffix isGap).length_le

/-! ### Words -/

/-- The values that are written as words. -/
def words : List (List Char × Value) :=
  [("null".toList, .null), ("true".toList, .bool true), ("false".toList, .bool false),
    ("NaN".toList, .float .nan), ("Infinity".toList, .float (.infinite false)),
    ("-Infinity".toList, .float (.infinite true))]

theorem words_noLineEnd : ∀ e ∈ words, ∀ c ∈ e.1, c ≠ '\r' ∧ c ≠ '\n' := by
  have hall : (words.all fun e => e.1.all fun c => c != '\r' && c != '\n') = true := by decide
  intro e he c hc
  have hc := List.all_eq_true.1 (List.all_eq_true.1 hall e he) c hc
  simpa using hc

variable {limit? : Option Nat}

/-- A value that is neither a text nor an object nor a list. -/
def atom (limit? : Option Nat) : List Char → Except Trouble (Value × List Char)
  | 'n' :: 'u' :: 'l' :: 'l' :: r => .ok (.null, r)
  | 't' :: 'r' :: 'u' :: 'e' :: r => .ok (.bool true, r)
  | 'f' :: 'a' :: 'l' :: 's' :: 'e' :: r => .ok (.bool false, r)
  | 'N' :: 'a' :: 'N' :: r => .ok (.float .nan, r)
  | 'I' :: 'n' :: 'f' :: 'i' :: 'n' :: 'i' :: 't' :: 'y' :: r => .ok (.float (.infinite false), r)
  | '-' :: 'I' :: 'n' :: 'f' :: 'i' :: 'n' :: 'i' :: 't' :: 'y' :: r =>
    .ok (.float (.infinite true), r)
  | cs => number limit? cs

theorem atom_word {e : List Char × Value} (he : e ∈ words) (rest : List Char) :
    atom limit? (e.1 ++ rest) = .ok (e.2, rest) := by
  simp only [words, List.mem_cons, List.not_mem_nil, or_false] at he
  rcases he with rfl | rfl | rfl | rfl | rfl | rfl <;> rfl

theorem atom_number {cs : List Char} (h : ∀ e ∈ words, ∀ rest, cs ≠ e.1 ++ rest) :
    atom limit? cs = number limit? cs := by
  simp only [words, List.mem_cons, List.not_mem_nil, or_false, forall_eq_or_imp, forall_eq] at h
  obtain ⟨hnull, htrue, hfalse, hnan, hinfinity, hminus⟩ := h
  unfold atom
  split
  · exact absurd rfl (hnull _)
  · exact absurd rfl (htrue _)
  · exact absurd rfl (hfalse _)
  · exact absurd rfl (hnan _)
  · exact absurd rfl (hinfinity _)
  · exact absurd rfl (hminus _)
  · rfl

theorem readsAlike_atom (cs : List Char) :
    ReadsAlike (atom limit? cs) (atom limit? (plainNewlines cs)) := by
  by_cases h : ∃ e ∈ words, ∃ rest, cs = e.1 ++ rest
  · obtain ⟨e, he, rest, rfl⟩ := h
    rw [Text.plainNewlines_append fun c hc => (words_noLineEnd e he c hc).1, atom_word he,
      atom_word he]
    exact .ok e.2 rest
  · have hplain : ∀ e ∈ words, ∀ rest, plainNewlines cs ≠ e.1 ++ rest := by
      intro e he rest heq
      obtain ⟨before, hbefore, -⟩ :=
        Text.of_plainNewlines_eq_append (fun c hc => (words_noLineEnd e he c hc).2) heq
      exact h ⟨e, he, before, hbefore⟩
    rw [atom_number fun e he rest heq => h ⟨e, he, rest, heq⟩, atom_number hplain]
    exact readsAlike_number cs

theorem proceeds_atom (cs : List Char) : Proceeds limit? cs.length (atom limit? cs) := by
  by_cases h : ∃ e ∈ words, ∃ rest, cs = e.1 ++ rest
  · obtain ⟨e, he, rest, rfl⟩ := h
    have hword : ∀ e ∈ words, 0 < e.1.length := by decide
    have hpos := hword e he
    rw [atom_word he]
    refine .ok ?_
    rw [List.length_append]
    omega
  · rw [atom_number fun e he rest heq => h ⟨e, he, rest, heq⟩]
    exact proceeds_number cs

/-! ### Values by the character in front -/

/-- What follows an entry of an object or an item of a list. -/
def afterItem {α : Type} (close : Char) (closed next : List Char → Except Trouble (α × List Char))
    (r : List Char) : Except Trouble (α × List Char) :=
  ifHead close closed (ifHead ',' (fun r => next (skipGap r))
    fun r => .error (.commaExpected, r.length)) (skipGap r)

/-- What follows the name of an entry. -/
def afterName {α : Type} (entry : List Char → Except Trouble (α × List Char)) (r : List Char) :
    Except Trouble (α × List Char) :=
  ifHead ':' (fun r => entry (skipGap r)) (fun r => .error (.colonExpected, r.length)) (skipGap r)

theorem value_succ (fuel : Nat) (cs : List Char) :
    value limit? (fuel + 1) cs =
      ifHead '\x22' (fun rest =>
          (textBody cs rest).map fun p => (.ofPoints p.1, p.2))
        (ifHead '\x7b' (fun rest =>
            ifHead '\x7d' (fun r => .ok (.object [], r))
              (fun rest => (members limit? fuel [] rest).map fun p => (.object p.1, p.2))
              (skipGap rest))
          (ifHead '[' (fun rest =>
              ifHead ']' (fun r => .ok (.list [], r))
                (fun rest => (elements limit? fuel rest).map fun p => (.list p.1, p.2))
                (skipGap rest))
            (atom limit?))) cs := by
  unfold value
  split
  · rename_i rest
    rw [ifHead_head]
    cases textBody _ rest <;> rfl
  · rename_i rest
    rw [ifHead_of_ne (by simp), ifHead_head]
    split
    · rename_i heq
      rw [heq, ifHead_head]
    · rename_i hne
      rw [ifHead_of_ne fun r heq => hne r heq]
      cases members limit? fuel [] _ <;> rfl
  · rename_i rest
    rw [ifHead_of_ne (by simp), ifHead_of_ne (by simp), ifHead_head]
    split
    · rename_i heq
      rw [heq, ifHead_head]
    · rename_i hne
      rw [ifHead_of_ne fun r heq => hne r heq]
      cases elements limit? fuel _ <;> rfl
  · rfl
  · rfl
  · rfl
  · rfl
  · rfl
  · rfl
  · rename_i htext hobject hlist hnull htrue hfalse hnan hinfinity hminus
    rw [ifHead_of_ne htext, ifHead_of_ne hobject, ifHead_of_ne hlist, atom_number]
    simp only [words, List.mem_cons, List.not_mem_nil, or_false, forall_eq_or_imp, forall_eq]
    exact ⟨hnull, htrue, hfalse, hnan, hinfinity, hminus⟩

theorem members_succ (fuel : Nat) (entries : List (String × Value)) (cs : List Char) :
    members limit? (fuel + 1) entries cs =
      ifHead '\x22' (fun rest => textBody cs rest >>= fun p =>
          afterName (fun r => value limit? fuel r >>= fun q =>
            afterItem '\x7d' (fun r => .ok (putEntry (Text.imageOf p.1) q.1 entries, r))
              (members limit? fuel (putEntry (Text.imageOf p.1) q.1 entries)) q.2) p.2)
        (fun cs => .error (.nameExpected, cs.length)) cs := by
  unfold members
  split
  · rename_i rest
    rw [ifHead_head]
    refine congrArg (textBody _ rest >>= ·) (funext fun p => ?_)
    obtain ⟨name, r⟩ := p
    rw [afterName]
    simp only
    split
    · rename_i heq
      rw [heq, ifHead_head]
      refine congrArg (value limit? fuel _ >>= ·) (funext fun q => ?_)
      obtain ⟨v, r⟩ := q
      rw [afterItem]
      simp only
      split
      · rename_i heq
        rw [heq, ifHead_head]
      · rename_i heq
        rw [heq, ifHead_of_ne (by simp), ifHead_head]
      · rename_i hclose hcomma
        rw [ifHead_of_ne hclose, ifHead_of_ne hcomma]
    · rename_i hne
      rw [ifHead_of_ne hne]
  · rename_i hne
    rw [ifHead_of_ne hne]

theorem elements_succ (fuel : Nat) (cs : List Char) :
    elements limit? (fuel + 1) cs =
      value limit? fuel cs >>= fun p =>
        afterItem ']' (fun r => .ok ([p.1], r))
          (fun r => (elements limit? fuel r).map fun q => (p.1 :: q.1, q.2)) p.2 := by
  conv_lhs => unfold elements
  refine congrArg (value limit? fuel cs >>= ·) (funext fun p => ?_)
  obtain ⟨v, r⟩ := p
  rw [afterItem]
  simp only
  split
  · rename_i heq
    rw [heq, ifHead_head]
  · rename_i heq
    rw [heq, ifHead_of_ne (by simp), ifHead_head]
    cases elements limit? fuel _ <;> rfl
  · rename_i hclose hcomma
    rw [ifHead_of_ne hclose, ifHead_of_ne hcomma]

/-! ### Objects -/

theorem atom_ne_object (cs : List Char) (es : List (String × Value)) (rest : List Char) :
    atom limit? cs ≠ .ok (.object es, rest) := by
  intro h
  by_cases hword : ∃ e ∈ words, ∃ rest, cs = e.1 ++ rest
  · obtain ⟨e, he, r, rfl⟩ := hword
    have hvalues : ∀ e ∈ words, ∀ es, e.2 ≠ .object es := by simp [words]
    rw [atom_word he] at h
    exact hvalues e he es (Prod.mk.inj (Except.ok.inj h)).1
  · rw [atom_number fun e he rest heq => hword ⟨e, he, rest, heq⟩] at h
    unfold number at h
    simp only at h
    repeat' split at h
    all_goals cases h

/-- Only a source that begins with a brace has an object. -/
theorem exists_brace_of_value {fuel : Nat} {cs rest : List Char} {es : List (String × Value)}
    (h : value limit? fuel cs = .ok (.object es, rest)) : ∃ r, cs = '\x7b' :: r := by
  cases fuel with
  | zero => cases h
  | succ fuel =>
      by_contra hbrace
      rw [value_succ] at h
      by_cases htext : ∃ r, cs = '\x22' :: r
      · obtain ⟨r, rfl⟩ := htext
        rw [ifHead_head] at h
        cases hbody : textBody ('\x22' :: r) r with
        | error trouble =>
            rw [hbody] at h
            cases h
        | ok p =>
            rw [hbody] at h
            exact absurd (Prod.mk.inj (Except.ok.inj h)).1 (Value.ofPoints_ne_object p.1 es)
      rw [ifHead_of_ne fun r heq => htext ⟨r, heq⟩,
        ifHead_of_ne fun r heq => hbrace ⟨r, heq⟩] at h
      by_cases hlist : ∃ r, cs = '[' :: r
      · obtain ⟨r, rfl⟩ := hlist
        rw [ifHead_head] at h
        by_cases hclose : ∃ r', skipGap r = ']' :: r'
        · obtain ⟨r', hr'⟩ := hclose
          rw [hr', ifHead_head] at h
          cases h
        · rw [ifHead_of_ne fun r' heq => hclose ⟨r', heq⟩] at h
          cases hitems : elements limit? fuel (skipGap r) <;> rw [hitems] at h <;> cases h
      · rw [ifHead_of_ne fun r heq => hlist ⟨r, heq⟩] at h
        exact atom_ne_object cs es rest h

/-- Only a source that begins with a brace after a gap denotes an object. -/
theorem exists_brace_of_read {cs : List Char} {es : List (String × Value)}
    (h : read limit? cs = .ok (.object es)) : ∃ r, skipGap cs = '\x7b' :: r := by
  rw [read] at h
  split at h
  · cases h
  · rw [whole] at h
    simp only at h
    split at h
    · cases h
    · rename_i v rest hvalue
      split at h
      · cases h
        exact exists_brace_of_value hvalue
      · cases h

/-! ### Proceeding -/

section

variable {α : Type} {limit? : Option Nat} {n : Nat} {r : List Char}

theorem Proceeds.inside {close : Char} {empty : α}
    {items : List Char → Except Trouble (α × List Char)} (hr : r.length < n)
    (hitems : (skipGap r).length < n → Proceeds limit? n (items (skipGap r))) :
    Proceeds limit? n
      (Json.ifHead close (fun rest => .ok (empty, rest)) items (skipGap r)) := by
  have hgap := length_skipGap_le r
  refine .ifHead (fun rest heq => .ok ?_) (hitems (by omega))
  rw [heq, List.length_cons] at hgap
  omega

theorem Proceeds.afterItem {close : Char} {closed next : List Char → Except Trouble (α × List Char)}
    (hr : r.length < n) (hclosed : ∀ r, r.length < n → Proceeds limit? n (closed r))
    (hnext : ∀ r, r.length < n → Proceeds limit? n (next r)) :
    Proceeds limit? n (afterItem close closed next r) := by
  have hgap := length_skipGap_le r
  refine .ifHead (fun r' heq => ?_) (.ifHead (fun r' heq => ?_) (.error (.inl rfl) _))
  · rw [heq, List.length_cons] at hgap
    exact hclosed r' (by omega)
  · rw [heq, List.length_cons] at hgap
    have hgap' := length_skipGap_le r'
    exact hnext (skipGap r') (by omega)

theorem Proceeds.afterName {entry : List Char → Except Trouble (α × List Char)} (hr : r.length < n)
    (hentry : ∀ r, r.length < n → Proceeds limit? n (entry r)) :
    Proceeds limit? n (afterName entry r) := by
  have hgap := length_skipGap_le r
  refine .ifHead (fun r' heq => ?_) (.error (.inl rfl) _)
  rw [heq, List.length_cons] at hgap
  have hgap' := length_skipGap_le r'
  exact hentry (skipGap r') (by omega)

end

/-- Reading a value, the entries of an object or the items of a list proceeds. -/
theorem proceeds_values (limit? : Option Nat) (fuel : Nat) :
    (∀ cs, Proceeds limit? cs.length (value limit? fuel cs)) ∧
    (∀ entries cs, Proceeds limit? cs.length (members limit? fuel entries cs)) ∧
    ∀ cs, Proceeds limit? cs.length (elements limit? fuel cs) := by
  induction fuel with
  | zero => exact ⟨fun cs => .error (.inl rfl) _, fun entries cs => .error (.inl rfl) _,
      fun cs => .error (.inl rfl) _⟩
  | succ fuel ih =>
      obtain ⟨hvalue, hmembers, helements⟩ := ih
      refine ⟨fun cs => ?_, fun entries cs => ?_, fun cs => ?_⟩
      · rw [value_succ]
        refine .ifHead (fun rest heq => ?_) (.ifHead (fun rest heq => ?_)
          (.ifHead (fun rest heq => ?_) (proceeds_atom cs)))
        · rw [heq]
          exact ((proceeds_textBody limit? _ rest).mono (Nat.le_succ _)).map
            Value.ofPoints
        · rw [heq, List.length_cons]
          exact .inside (Nat.lt_succ_self _) fun hlt =>
            ((hmembers [] _).mono (Nat.le_of_lt hlt)).map _
        · rw [heq, List.length_cons]
          exact .inside (Nat.lt_succ_self _) fun hlt =>
            ((helements _).mono (Nat.le_of_lt hlt)).map _
      · rw [members_succ]
        refine .ifHead (fun rest heq => ?_) (.error (.inl rfl) _)
        rw [heq, List.length_cons]
        refine (proceeds_textBody limit? _ rest).bind fun name r hr =>
          .afterName (Nat.lt_succ_of_lt hr) fun r hr => ?_
        refine (hvalue r).bind fun v r' hr' =>
          .afterItem (Nat.lt_trans hr' hr) (fun r hr => .ok hr) ?_
        exact fun r hr => (hmembers _ r).mono (Nat.le_of_lt hr)
      · rw [elements_succ]
        refine (hvalue cs).bind fun v r hr => .afterItem hr (fun r hr => .ok hr) fun r hr => ?_
        exact ((helements r).mono (Nat.le_of_lt hr)).map _

/-! ### Reading alike -/

section

variable {α : Type} {n n' : Nat} {r : List Char}

theorem ReadsAlike.inside {close : Char} (hclose : close ≠ '\r' ∧ close ≠ '\n') {empty : α}
    {items items' : List Char → Except Trouble (α × List Char)}
    (hitems : (skipGap r).length ≤ r.length →
      (plainNewlines (skipGap r)).length ≤ (plainNewlines r).length →
        ReadsAlike (items (skipGap r)) (items' (plainNewlines (skipGap r)))) :
    ReadsAlike (Json.ifHead close (fun rest => .ok (empty, rest)) items (skipGap r))
      (Json.ifHead close (fun rest => .ok (empty, rest)) items'
        (skipGap (plainNewlines r))) := by
  have hgap := length_skipGap_le r
  have hgap' := length_skipGap_le (plainNewlines r)
  rw [skipGap_plainNewlines] at hgap' ⊢
  exact .ifHead hclose.1 hclose.2 (fun rest _ _ => .ok _ rest) fun _ => hitems hgap hgap'

theorem ReadsAlike.afterItem {close : Char} (hclose : close ≠ '\r' ∧ close ≠ '\n')
    {closed closed' next next' : List Char → Except Trouble (α × List Char)}
    (hr : r.length < n) (hplain : (plainNewlines r).length < n')
    (hclosed : ∀ r, ReadsAlike (closed r) (closed' (plainNewlines r)))
    (hnext : ∀ r, r.length < n → (plainNewlines r).length < n' →
      ReadsAlike (next r) (next' (plainNewlines r))) :
    ReadsAlike (afterItem close closed next r)
      (afterItem close closed' next' (plainNewlines r)) := by
  have hgap := length_skipGap_le r
  have hgap' := length_skipGap_le (plainNewlines r)
  rw [Json.afterItem, Json.afterItem, skipGap_plainNewlines]
  rw [skipGap_plainNewlines] at hgap'
  refine .ifHead hclose.1 hclose.2 (fun rest _ _ => hclosed rest) fun _ =>
    .ifHead (by decide) (by decide) (fun rest heq heq' => ?_) fun _ => .error _ _ _
  rw [heq, List.length_cons] at hgap
  rw [heq', List.length_cons] at hgap'
  have hrest := length_skipGap_le rest
  have hrest' := length_skipGap_le (plainNewlines rest)
  rw [skipGap_plainNewlines] at hrest' ⊢
  exact hnext (skipGap rest) (by omega) (by omega)

theorem ReadsAlike.afterName {entry entry' : List Char → Except Trouble (α × List Char)}
    (hr : r.length < n) (hplain : (plainNewlines r).length < n')
    (hentry : ∀ r, r.length < n → (plainNewlines r).length < n' →
      ReadsAlike (entry r) (entry' (plainNewlines r))) :
    ReadsAlike (afterName entry r) (afterName entry' (plainNewlines r)) := by
  have hgap := length_skipGap_le r
  have hgap' := length_skipGap_le (plainNewlines r)
  rw [Json.afterName, Json.afterName, skipGap_plainNewlines]
  rw [skipGap_plainNewlines] at hgap'
  refine .ifHead (by decide) (by decide) (fun rest heq heq' => ?_) fun _ => .error _ _ _
  rw [heq, List.length_cons] at hgap
  rw [heq', List.length_cons] at hgap'
  have hrest := length_skipGap_le rest
  have hrest' := length_skipGap_le (plainNewlines rest)
  rw [skipGap_plainNewlines] at hrest' ⊢
  exact hentry (skipGap rest) (by omega) (by omega)

end

/-- A value, the entries of an object and the items of a list are read alike with plain line ends,
as long as there are two steps for every character. -/
theorem readsAlike_values (limit? : Option Nat) (fuel fuel' : Nat) :
    (∀ cs, 2 * cs.length < fuel → 2 * (plainNewlines cs).length < fuel' →
      ReadsAlike (value limit? fuel cs) (value limit? fuel' (plainNewlines cs))) ∧
    (∀ entries cs, 2 * cs.length < fuel → 2 * (plainNewlines cs).length < fuel' →
      ReadsAlike (members limit? fuel entries cs)
        (members limit? fuel' entries (plainNewlines cs))) ∧
    ∀ cs, 2 * cs.length + 1 < fuel → 2 * (plainNewlines cs).length + 1 < fuel' →
      ReadsAlike (elements limit? fuel cs) (elements limit? fuel' (plainNewlines cs)) := by
  -- Not every step takes a character: the items of a list hand the text on to the first item as it
  -- is.  So there have to be two steps for a character, and one more for items.
  induction fuel generalizing fuel' with
  | zero => exact ⟨fun _ h => by omega, fun _ _ h => by omega, fun _ h => by omega⟩
  | succ fuel ih =>
      cases fuel' with
      | zero => exact ⟨fun _ _ h => by omega, fun _ _ _ h => by omega, fun _ _ h => by omega⟩
      | succ fuel' =>
          obtain ⟨hvalue, hmembers, helements⟩ := ih fuel'
          obtain ⟨hshorter, -, -⟩ := proceeds_values limit? fuel
          obtain ⟨hshorter', -, -⟩ := proceeds_values limit? fuel'
          refine ⟨fun cs hfuel hfuel' => ?_, fun entries cs hfuel hfuel' => ?_,
            fun cs hfuel hfuel' => ?_⟩
          · rw [value_succ, value_succ]
            refine .ifHead (by decide) (by decide) (fun rest heq heq' => ?_) fun _ =>
              .ifHead (by decide) (by decide) (fun rest heq heq' => ?_) fun _ =>
              .ifHead (by decide) (by decide) (fun rest heq heq' => ?_) fun _ => readsAlike_atom cs
            · exact (readsAlike_textBody _ _ rest).map Value.ofPoints
            · rw [heq, List.length_cons] at hfuel
              rw [heq', List.length_cons] at hfuel'
              refine .inside (by decide) fun hgap hgap' => ?_
              exact (hmembers [] (skipGap rest) (by omega) (by omega)).map Value.object
            · rw [heq, List.length_cons] at hfuel
              rw [heq', List.length_cons] at hfuel'
              refine .inside (by decide) fun hgap hgap' => ?_
              exact (helements (skipGap rest) (by omega) (by omega)).map Value.list
          · rw [members_succ, members_succ]
            refine .ifHead (by decide) (by decide) (fun rest heq heq' => ?_) fun _ => .error _ _ _
            rw [heq, List.length_cons] at hfuel
            rw [heq', List.length_cons] at hfuel'
            refine (readsAlike_textBody _ _ rest).bind fun name r hread hread' => ?_
            have hr := (proceeds_textBody limit? _ rest).length_lt hread
            have hr' := (proceeds_textBody limit? _ (plainNewlines rest)).length_lt hread'
            refine .afterName hr hr' fun r hr hr' => ?_
            refine (hvalue r (by omega) (by omega)).bind fun v s hread hread' => ?_
            have hs := (hshorter r).length_lt hread
            have hs' := (hshorter' (plainNewlines r)).length_lt hread'
            refine .afterItem (by decide) hs hs' (fun r => .ok _ r) fun r hr hr' => ?_
            exact hmembers _ r (by omega) (by omega)
          · rw [elements_succ, elements_succ]
            refine (hvalue cs (by omega) (by omega)).bind fun v r hread hread' => ?_
            have hr := (hshorter cs).length_lt hread
            have hr' := (hshorter' (plainNewlines cs)).length_lt hread'
            refine .afterItem (by decide) hr hr' (fun r => .ok _ r) fun r hr hr' => ?_
            exact (helements r (by omega) (by omega)).map (v :: ·)

/-! ### Whole sources -/

/-- What is wrong with a source, wherever it shows. -/
def problems {α : Type} (x : Except Failure α) : Except Problem α :=
  x.mapError Failure.problem

theorem whole_plainNewlines (cs : List Char) :
    problems (whole limit? (plainNewlines cs)) = problems (whole limit? cs) := by
  have hgap := length_skipGap_le cs
  have hgap' := length_skipGap_le (plainNewlines cs)
  rw [skipGap_plainNewlines] at hgap'
  have halike := (readsAlike_values limit? (2 * cs.length + 2)
    (2 * (plainNewlines cs).length + 2)).1 (skipGap cs) (by omega) (by omega)
  rw [whole, whole, skipGap_plainNewlines]
  generalize value limit? (2 * cs.length + 2) (skipGap cs) = x at halike ⊢
  generalize value limit? (2 * (plainNewlines cs).length + 2) (plainNewlines (skipGap cs)) = y
    at halike ⊢
  cases halike with
  | error problem m n => rfl
  | ok v rest =>
      simp only [skipGap_plainNewlines]
      cases hrest : skipGap rest with
      | nil => rfl
      | cons d r =>
          cases hplain : plainNewlines (d :: r) with
          | nil => exact absurd (Text.plainNewlines_eq_nil.1 hplain) (List.cons_ne_nil _ _)
          | cons d' r' => rfl

/-- **A source that cannot be read is not JSON, or an integer in it has too many digits.** -/
theorem problem_of_read {cs : List Char} {failure : Failure} (h : read limit? cs = .error failure) :
    failure.problem.isMalformed = true ∨ OverLimit limit? failure.problem := by
  have hwhole : ∀ {failure}, whole limit? cs = .error failure →
      failure.problem.isMalformed = true ∨ OverLimit limit? failure.problem := by
    intro failure h
    have hvalue := (proceeds_values limit? (2 * cs.length + 2)).1 (skipGap cs)
    rw [whole] at h
    generalize value limit? (2 * cs.length + 2) (skipGap cs) = x at h hvalue
    cases hvalue with
    | error hproblem place =>
        cases h
        exact hproblem
    | ok _ =>
        simp only at h
        split at h
        · cases h
        · cases h
          exact .inl rfl
  rw [read] at h
  split at h
  · cases h
    exact .inl rfl
  · exact hwhole h

/-- **A source that cannot be read without a limit to digits is not JSON.** -/
theorem isMalformed_of_read {cs : List Char} {failure : Failure}
    (h : read none cs = .error failure) : failure.problem.isMalformed = true := by
  have hnone : ∀ problem, ¬OverLimit none problem := by
    rintro problem ⟨hlimit, -⟩
    cases hlimit
  exact (problem_of_read h).resolve_right (hnone _)

/-- **A source is read alike with plain line ends**: it has the same value, or the same problem. -/
theorem read_plainNewlines (limit? : Option Nat) (cs : List Char) :
    problems (read limit? (plainNewlines cs)) = problems (read limit? cs) := by
  have hmark : (plainNewlines cs).head? == some '\uFEFF' ↔ cs.head? == some '\uFEFF' := by
    rcases Text.head_cases (c := '\uFEFF') (by decide) (by decide) cs with
      ⟨rest, heq, hplain⟩ | ⟨hne, hplain⟩
    · rw [hplain, heq]
      rfl
    · have hhead : ∀ {ds : List Char}, (∀ rest, ds ≠ '\uFEFF' :: rest) →
          ¬(ds.head? == some '\uFEFF') := by
        intro ds h
        cases ds with
        | nil => decide
        | cons d ds =>
            rw [List.head?_cons, beq_iff_eq, Option.some.injEq]
            rintro rfl
            exact h ds rfl
      exact iff_of_false (hhead hplain) (hhead hne)
  unfold read
  simp only [hmark]
  split
  · rfl
  · exact whole_plainNewlines cs

end ForumMarkup.Json
