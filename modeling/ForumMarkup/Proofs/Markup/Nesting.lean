import ForumMarkup.Proofs.Markup.Piece
/-
**Tags in a text.**

A reader of markup sees no pieces.  It cuts a text at its square brackets, takes what stands between
an opening and a closing bracket for a tag, and expects that tags are closed in the reverse of the
order in which they were opened.  Pieces whose texts have no brackets of their own are read back as
the tags that they are.

Main definitions:

* `ForumMarkup.bracketTokens` — what stands between the brackets of a text, if they alternate;
* `ForumMarkup.ReadTag` — a tag as it is read;
* `ForumMarkup.nests` — whether tags are closed in the right order;
* `ForumMarkup.BracketFree`, `ForumMarkup.Piece.Plain` — texts without brackets, and pieces with
  such texts;
* `ForumMarkup.Nested` — pieces whose tags leave the open ones as they were.

Main results:

* `ForumMarkup.bracketTokens_written` — **the tags of plain pieces are read back from their text**;
* `ForumMarkup.Piece.name_mem_tagNames` — pieces have no other tags than those of the vocabulary.
-/

set_option autoImplicit false

namespace ForumMarkup

/-! ### Reading tags -/

/-- What stands between the brackets of a text.  There is no answer when a bracket opens inside
another one, when one closes that has not been opened, and when one is never closed.  `token?` is
what has been read of an open bracket, latest first. -/
def bracketTokensFrom (token? : Option (List Char)) : List Char → Option (List (List Char))
  | [] => if token?.isNone then some [] else none
  | c :: cs =>
    match token? with
    | none =>
      if c = '[' then bracketTokensFrom (some []) cs
      else if c = ']' then none
      else bracketTokensFrom none cs
    | some token =>
      if c = ']' then (bracketTokensFrom none cs).map (token.reverse :: ·)
      else if c = '[' then none
      else bracketTokensFrom (some (c :: token)) cs

/-- What stands between the brackets of a text, if they alternate. -/
def bracketTokens (s : String) : Option (List (List Char)) :=
  bracketTokensFrom none s.toList

/-- A tag as it is read. -/
structure ReadTag where
  closing : Bool
  name : String
deriving DecidableEq, Repr

/-- The name of a tag ends at an equals sign or a blank. -/
def endsName (c : Char) : Bool :=
  c == '=' || c == ' '

/-- The tag that a token is: a closing tag begins with a slash. -/
def ReadTag.ofToken : List Char → ReadTag
  | '/' :: token => ⟨true, String.ofList (token.takeWhile fun c => !endsName c)⟩
  | token => ⟨false, String.ofList (token.takeWhile fun c => !endsName c)⟩

/-- The tag that is never closed. -/
def openName : String := "*"

/-- Whether tags are closed in the reverse of the order in which they were opened, when the tags on
the stack are open.  The bullet is not opened, and so it cannot be closed. -/
def nests : List String → List ReadTag → Bool
  | stack, [] => stack.isEmpty
  | stack, ⟨false, name⟩ :: tags => nests (if name = openName then stack else name :: stack) tags
  | [], ⟨true, _⟩ :: _ => false
  | top :: stack, ⟨true, name⟩ :: tags => top = name && nests stack tags

/-- The names of tags. -/
def tagNames : List String :=
  ["b", "u", "i", "s", "font", "code", "list", "*", "url", "quote", "table", "tr", "td", "hr", "br"]

/-! ### Texts without brackets -/

/-- A text without square brackets. -/
def BracketFree (s : String) : Prop :=
  '[' ∉ s.toList ∧ ']' ∉ s.toList

instance (s : String) : Decidable (BracketFree s) :=
  inferInstanceAs (Decidable (_ ∧ _))

theorem BracketFree.append {s t : String} (hs : BracketFree s) (ht : BracketFree t) :
    BracketFree (s ++ t) := by
  simp only [BracketFree, String.toList_append, List.mem_append, not_or]
  exact ⟨⟨hs.1, ht.1⟩, hs.2, ht.2⟩

theorem bracketTokensFrom_text {cs : List Char} (h : '[' ∉ cs ∧ ']' ∉ cs) (rest : List Char) :
    bracketTokensFrom none (cs ++ rest) = bracketTokensFrom none rest := by
  induction cs with
  | nil => rfl
  | cons c cs ih =>
      simp only [List.mem_cons, not_or] at h
      rw [List.cons_append, bracketTokensFrom]
      simp only [if_neg (Ne.symm h.1.1), if_neg (Ne.symm h.2.1)]
      exact ih ⟨h.1.2, h.2.2⟩

theorem bracketTokensFrom_token {cs : List Char} (h : '[' ∉ cs ∧ ']' ∉ cs)
    (read rest : List Char) :
    bracketTokensFrom (some read) (cs ++ ']' :: rest) =
      (bracketTokensFrom none rest).map ((read.reverse ++ cs) :: ·) := by
  -- What has been read grows with every character, so the induction is for any of it.
  induction cs generalizing read with
  | nil => simp [bracketTokensFrom]
  | cons c cs ih =>
      simp only [List.mem_cons, not_or] at h
      rw [List.cons_append, bracketTokensFrom]
      simp only [if_neg (Ne.symm h.1.1), if_neg (Ne.symm h.2.1)]
      rw [ih ⟨h.1.2, h.2.2⟩]
      simp

/-- A token in brackets. -/
theorem bracketTokensFrom_bracket {cs : List Char} (h : '[' ∉ cs ∧ ']' ∉ cs) (rest : List Char) :
    bracketTokensFrom none ('[' :: (cs ++ ']' :: rest)) =
      (bracketTokensFrom none rest).map (cs :: ·) := by
  have hopen : bracketTokensFrom none ('[' :: (cs ++ ']' :: rest)) =
      bracketTokensFrom (some []) (cs ++ ']' :: rest) := by
    rw [bracketTokensFrom]
    simp
  rw [hopen, bracketTokensFrom_token h]
  simp

/-! ### The tags of pieces -/

/-- What may follow the name in an opening tag. -/
def AfterName (rest : String) : Prop :=
  rest.toList.head?.all endsName = true

instance (rest : String) : Decidable (AfterName rest) :=
  inferInstanceAs (Decidable (_ = true))

/-- A piece whose texts have no brackets. -/
def Piece.Plain : Piece → Prop
  | .char c => c ≠ '[' ∧ c ≠ ']'
  | .mark _ => True
  | .opening _ rest => BracketFree rest ∧ AfterName rest
  | .closing _ => True
  | .verbatim _ rest inner => BracketFree rest ∧ AfterName rest ∧ BracketFree inner

/-- The tokens of a piece. -/
def Piece.tokens : Piece → List (List Char)
  | .opening tag rest => [(tag.name ++ rest).toList]
  | .closing tag => ['/' :: tag.name.toList]
  | .verbatim tag rest _ => [(tag.name ++ rest).toList, '/' :: tag.name.toList]
  | _ => []

/-- The tags of a piece. -/
def Piece.tags : Piece → List ReadTag
  | .opening tag _ => [⟨false, tag.name⟩]
  | .closing tag => [⟨true, tag.name⟩]
  | .verbatim tag _ _ => [⟨false, tag.name⟩, ⟨true, tag.name⟩]
  | _ => []

theorem Tag.bracketFree_name (t : Tag) : BracketFree t.name := by
  cases t <;> decide

theorem bracketFree_toString (n : Nat) : BracketFree (toString n) := by
  have hdigit : ∀ c ∈ (toString n).toList, c.isDigit = true := by
    intro c hc
    have hc' : c ∈ Nat.toDigits 10 n := by simpa using hc
    exact Nat.isDigit_of_mem_toDigits (by decide) (by decide) hc'
  exact ⟨fun h => absurd (hdigit _ h) (by decide), fun h => absurd (hdigit _ h) (by decide)⟩

theorem bracketTokensFrom_chars (numbers : List String) {p : Piece} (h : p.Plain)
    (rest : List Char) :
    bracketTokensFrom none (p.chars numbers ++ rest) =
      (bracketTokensFrom none rest).map (p.tokens ++ ·) := by
  cases p with
  | char c =>
      have hc : '[' ∉ [c] ∧ ']' ∉ [c] := by simpa using ⟨h.1.symm, h.2.symm⟩
      have hchars : Piece.chars numbers (.char c) = [c] := rfl
      rw [hchars, bracketTokensFrom_text hc]
      simp [Piece.tokens]
  | mark label =>
      have hmark : BracketFree ("^" ++ toString (numbers.idxOf label + 1)) :=
        BracketFree.append (by decide) (bracketFree_toString _)
      have hchars : Piece.chars numbers (.mark label) =
          ("^" ++ toString (numbers.idxOf label + 1)).toList := by simp [Piece.chars]
      rw [hchars, bracketTokensFrom_text hmark]
      simp [Piece.tokens]
  | opening tag rest' =>
      have hname : BracketFree (tag.name ++ rest') := tag.bracketFree_name.append h.1
      have hchars : Piece.chars numbers (.opening tag rest') ++ rest =
          '[' :: ((tag.name ++ rest').toList ++ ']' :: rest) := by simp [Piece.chars]
      rw [hchars, bracketTokensFrom_bracket hname]
      rfl
  | closing tag =>
      have hname : BracketFree ("/" ++ tag.name) :=
        BracketFree.append (by decide) tag.bracketFree_name
      have hchars : Piece.chars numbers (.closing tag) ++ rest =
          '[' :: (("/" ++ tag.name).toList ++ ']' :: rest) := by simp [Piece.chars]
      rw [hchars, bracketTokensFrom_bracket hname]
      simp [Piece.tokens]
  | verbatim tag rest' inner =>
      have hopening : BracketFree (tag.name ++ rest') := tag.bracketFree_name.append h.1
      have hclosing : BracketFree ("/" ++ tag.name) :=
        BracketFree.append (by decide) tag.bracketFree_name
      have hchars : Piece.chars numbers (.verbatim tag rest' inner) ++ rest =
          '[' :: ((tag.name ++ rest').toList ++ ']' ::
            (inner.toList ++ '[' :: (("/" ++ tag.name).toList ++ ']' :: rest))) := by
        simp [Piece.chars]
      rw [hchars, bracketTokensFrom_bracket hopening, bracketTokensFrom_text h.2.2,
        bracketTokensFrom_bracket hclosing, Option.map_map]
      simp [Piece.tokens, Function.comp_def]

/-- The tags of plain pieces are read back from their text. -/
theorem bracketTokens_written (numbers : List String) {ps : List Piece} (h : ∀ p ∈ ps, p.Plain) :
    bracketTokens (written numbers ps) = some (ps.flatMap Piece.tokens) := by
  rw [bracketTokens, toList_written]
  induction ps with
  | nil => rfl
  | cons p ps ih =>
      rw [List.flatMap_cons, bracketTokensFrom_chars numbers (h p (by simp)),
        ih fun q hq => h q (List.mem_cons_of_mem _ hq)]
      rfl

theorem takeWhile_name (tag : Tag) {rest : String} (h : AfterName rest) :
    (tag.name ++ rest).toList.takeWhile (fun c => !endsName c) = tag.name.toList := by
  have hname : tag.name.toList.all (fun c => !endsName c) = true := by
    cases tag <;> decide
  -- No name ends before its last character, and what follows the name ends it at once.
  have hrest : rest.toList.takeWhile (fun c => !endsName c) = [] := by
    unfold AfterName at h
    cases hcs : rest.toList with
    | nil => rfl
    | cons c cs =>
        have hc : endsName c = true := by simpa [hcs] using h
        simp [hc]
  rw [String.toList_append, List.takeWhile_append_of_pos (List.all_eq_true.1 hname), hrest,
    List.append_nil]

/-- A tag with a value or attributes is read by its name. -/
theorem ofToken_opening (tag : Tag) {rest : String} (h : AfterName rest) :
    ReadTag.ofToken (tag.name ++ rest).toList = ⟨false, tag.name⟩ := by
  have hread : ReadTag.ofToken (tag.name ++ rest).toList =
      ⟨false, String.ofList ((tag.name ++ rest).toList.takeWhile fun c => !endsName c)⟩ := by
    cases tag <;> simp [Tag.name, ReadTag.ofToken]
  rw [hread, takeWhile_name tag h, String.ofList_toList]

theorem ofToken_closing (tag : Tag) :
    ReadTag.ofToken ('/' :: tag.name.toList) = ⟨true, tag.name⟩ := by
  cases tag <;> decide

theorem Piece.map_ofToken_tokens {p : Piece} (h : p.Plain) :
    p.tokens.map ReadTag.ofToken = p.tags := by
  cases p with
  | opening tag rest => simp only [tokens, tags, List.map, ofToken_opening tag h.2]
  | closing tag => simp only [tokens, tags, List.map, ofToken_closing tag]
  | verbatim tag rest inner =>
      simp only [tokens, tags, List.map, ofToken_opening tag h.2.1, ofToken_closing tag]
  | _ => rfl

/-- Pieces have no other tags than those of the vocabulary. -/
theorem Piece.name_mem_tagNames {p : Piece} {t : ReadTag} (h : t ∈ p.tags) : t.name ∈ tagNames := by
  have hname : ∀ tag : Tag, tag.name ∈ tagNames := by
    intro tag
    cases tag <;> decide
  cases p with
  | opening tag rest =>
      cases List.mem_singleton.1 h
      exact hname tag
  | closing tag =>
      cases List.mem_singleton.1 h
      exact hname tag
  | verbatim tag rest inner =>
      rcases List.mem_pair.1 h with rfl | rfl
      · exact hname tag
      · exact hname tag
  | _ => cases h

/-! ### Tags that are closed in the right order -/

/-- The tags of pieces, in order. -/
def tagsIn (ps : List Piece) : List ReadTag :=
  ps.flatMap Piece.tags

@[simp] theorem tagsIn_append (ps qs : List Piece) : tagsIn (ps ++ qs) = tagsIn ps ++ tagsIn qs :=
  List.flatMap_append

/-- Pieces whose tags leave the open ones as they were. -/
def Nested (ps : List Piece) : Prop :=
  ∀ stack tags, nests stack (tagsIn ps ++ tags) = nests stack tags

namespace Nested

variable {ps qs : List Piece}

theorem of_tagsIn_eq_nil (h : tagsIn ps = []) : Nested ps := by
  intro stack tags
  rw [h, List.nil_append]

theorem append (hp : Nested ps) (hq : Nested qs) : Nested (ps ++ qs) := by
  intro stack tags
  rw [tagsIn_append, List.append_assoc, hp, hq]

theorem trim (h : Nested ps) : Nested (trimPieces ps) := by
  intro stack tags
  rw [tagsIn, flatMap_trimPieces (fun _ => rfl)]
  exact h stack tags

theorem name_eq_openName {tag : Tag} (h : tag.name = openName) : tag = .bullet := by
  cases tag <;> first | rfl | exact absurd h (by decide)

theorem pair {tag : Tag} (htag : tag ≠ .bullet) {tags : List ReadTag}
    (h : ∀ stack rest, nests stack (tags ++ rest) = nests stack rest) (stack : List String)
    (rest : List ReadTag) :
    nests stack (⟨false, tag.name⟩ :: (tags ++ ⟨true, tag.name⟩ :: rest)) = nests stack rest := by
  -- The tags between leave the opening one on top of the stack, where the closing one finds it.
  have hname : tag.name ≠ openName := fun e => htag (name_eq_openName e)
  rw [nests, if_neg hname, h, nests]
  simp

theorem wrapped {tag : Tag} (rest : String) (htag : tag ≠ .bullet) (h : Nested ps) :
    Nested (wrapped tag rest ps) := by
  intro stack tags
  have hpair := pair htag h stack tags
  simpa [tagsIn, ForumMarkup.wrapped, Piece.tags] using hpair

theorem verbatim {tag : Tag} (rest inner : String) (htag : tag ≠ .bullet) :
    Nested [.verbatim tag rest inner] := by
  have hempty : ∀ stack rest, nests stack ([] ++ rest) = nests stack rest := fun _ _ => rfl
  exact pair htag hempty

theorem bullet : Nested [.opening .bullet ""] := by
  intro stack tags
  rfl

end Nested

end ForumMarkup
