import ForumMarkup.Markup.Tag
import ForumMarkup.Text.Blank
import Mathlib.Data.List.Basic
/-
**Pieces of markup.**

Markup is put together from a few sorts of pieces: characters of text, opening and closing tags,
texts that stand in a tag just as they are, and the marks of footnotes.  A list of pieces shows the
structure that the text hides, and it leaves open which number a footnote has.

Main definitions:

* `ForumMarkup.Piece` — the sorts of pieces;
* `ForumMarkup.Piece.chars`, `ForumMarkup.written` — the text of pieces, once the labels of the
  footnotes are numbered by their place in a list;
* `ForumMarkup.letters`, `ForumMarkup.wrapped`, `ForumMarkup.asBlockPieces` — text, a pair of tags
  and a block as pieces;
* `ForumMarkup.trimPieces`, `ForumMarkup.solidPieces` — pieces without the blank characters at their
  ends, and without all blank characters.

Main results:

* `ForumMarkup.written_append`, `ForumMarkup.written_wrapped`, `ForumMarkup.written_asBlock` — how
  the text of pieces is put together;
* `ForumMarkup.written_eq_empty_iff` — every piece leaves something in the text;
* `ForumMarkup.written_trimPieces` — **trimming pieces is trimming their text**;
* `ForumMarkup.solidPieces_trimPieces` — trimming only takes blank characters away.
-/

set_option autoImplicit false

namespace ForumMarkup

/-! ### Pieces and their text -/

/-- The sorts of pieces. -/
inductive Piece
  /-- A character of text. -/
  | char (c : Char)
  /-- The mark of a footnote without the blank after it. -/
  | mark (label : String)
  /-- An opening tag; `rest` is what follows the name. -/
  | opening (tag : Tag) (rest : String)
  /-- A closing tag. -/
  | closing (tag : Tag)
  /-- A text between an opening and a closing tag, taken as it is. -/
  | verbatim (tag : Tag) (rest inner : String)
deriving DecidableEq

/-- The characters of a piece.  The number of a footnote is the place of its label among `numbers`,
counted from one. -/
def Piece.chars (numbers : List String) : Piece → List Char
  | .char c => [c]
  | .mark label => '^' :: (toString (numbers.idxOf label + 1)).toList
  | .opening tag rest => '[' :: (tag.name ++ rest).toList ++ [']']
  | .closing tag => '[' :: '/' :: tag.name.toList ++ [']']
  | .verbatim tag rest inner =>
    '[' :: (tag.name ++ rest ++ "]" ++ inner ++ "[/" ++ tag.name).toList ++ [']']

/-- The text of a list of pieces. -/
def written (numbers : List String) (ps : List Piece) : String :=
  String.ofList (ps.flatMap (Piece.chars numbers))

/-- The pieces of a text. -/
def letters (s : String) : List Piece :=
  s.toList.map .char

/-- Pieces between an opening and a closing tag. -/
def wrapped (tag : Tag) (rest : String) (ps : List Piece) : List Piece :=
  .opening tag rest :: (ps ++ [.closing tag])

/-- Pieces with a line feed on either side. -/
def asBlockPieces (ps : List Piece) : List Piece :=
  .char '\n' :: (ps ++ [.char '\n'])

variable (numbers : List String)

@[simp] theorem toList_written (ps : List Piece) :
    (written numbers ps).toList = ps.flatMap (Piece.chars numbers) := by
  simp [written]

theorem written_eq_iff {ps : List Piece} {s : String} :
    written numbers ps = s ↔ ps.flatMap (Piece.chars numbers) = s.toList := by
  rw [← String.toList_inj, toList_written]

@[simp] theorem written_nil : written numbers [] = "" := rfl

@[simp] theorem written_append (ps qs : List Piece) :
    written numbers (ps ++ qs) = written numbers ps ++ written numbers qs := by
  simp [← String.toList_inj]

@[simp] theorem written_letters (s : String) : written numbers (letters s) = s := by
  rw [written_eq_iff, letters, List.flatMap_map]
  exact List.flatMap_singleton' _

theorem written_wrapped (tag : Tag) (rest : String) (ps : List Piece) :
    written numbers (wrapped tag rest ps) =
      "[" ++ tag.name ++ rest ++ "]" ++ written numbers ps ++ "[/" ++ tag.name ++ "]" := by
  simp [written_eq_iff, wrapped, Piece.chars]

theorem written_wrap (tag : Tag) (ps : List Piece) :
    written numbers (wrapped tag "" ps) = tag.wrap (written numbers ps) := by
  simp [written_wrapped, Tag.wrap, wrapName]

theorem written_wrapValue (tag : Tag) (value : String) (ps : List Piece) :
    written numbers (wrapped tag ("=" ++ value) ps) =
      tag.wrapValue (written numbers ps) value := by
  simp [written_wrapped, Tag.wrapValue, wrapValue, ← String.toList_inj]

@[simp] theorem written_asBlock (ps : List Piece) :
    written numbers (asBlockPieces ps) = asBlock (written numbers ps) := by
  simp [written_eq_iff, asBlockPieces, asBlock, Piece.chars]

/-! ### No piece vanishes -/

theorem Piece.chars_ne_nil (p : Piece) : p.chars numbers ≠ [] := by
  cases p <;> simp [chars]

/-- Every piece leaves something in the text. -/
theorem written_eq_empty_iff (ps : List Piece) : written numbers ps = "" ↔ ps = [] := by
  rw [written_eq_iff]
  constructor
  · intro h
    cases ps with
    | nil => rfl
    | cons p ps =>
        rw [List.flatMap_cons, String.toList_empty, List.append_eq_nil_iff] at h
        exact absurd h.1 (p.chars_ne_nil numbers)
  · rintro rfl
    rfl

/-! ### Trimming -/

/-- Whether a piece is a blank character. -/
def Piece.isBlank : Piece → Bool
  | .char c => Text.isBlank c
  | _ => false

/-- Pieces without the blank characters at their ends. -/
def trimPieces (ps : List Piece) : List Piece :=
  ((ps.dropWhile Piece.isBlank).reverse.dropWhile Piece.isBlank).reverse

theorem not_isBlank_of_isDigit {c : Char} (h : c.isDigit = true) : Text.isBlank c = false := by
  have h0 : '0'.toNat = 48 := rfl
  have h9 : '9'.toNat = 57 := rfl
  rw [Char.isDigit_iff_toNat, h0, h9] at h
  simp [Text.isBlank, Text.blankRanges]
  omega

/-- A number ends in a digit. -/
theorem exists_toDigits_eq_append (n : Nat) :
    ∃ cs c, Nat.toDigits 10 n = cs ++ [c] ∧ c.isDigit = true := by
  have hne : Nat.toDigits 10 n ≠ [] := List.ne_nil_of_length_pos Nat.length_toDigits_pos
  exact ⟨_, _, (List.dropLast_append_getLast hne).symm,
    Nat.isDigit_of_mem_toDigits (by decide) (by decide) (List.getLast_mem hne)⟩

/-- A piece that is no blank character neither begins nor ends with one. -/
theorem Piece.chars_of_not_isBlank {p : Piece} (h : p.isBlank = false) :
    (∃ c cs, p.chars numbers = c :: cs ∧ Text.isBlank c = false) ∧
      ∃ cs c, p.chars numbers = cs ++ [c] ∧ Text.isBlank c = false := by
  have hopen : Text.isBlank '[' = false := by decide
  have hclose : Text.isBlank ']' = false := by decide
  cases p with
  | char c => exact ⟨⟨c, [], rfl, h⟩, [], c, rfl, h⟩
  | mark label =>
      have hmark : Text.isBlank '^' = false := by decide
      obtain ⟨cs, c, hcs, hc⟩ := exists_toDigits_eq_append (numbers.idxOf label + 1)
      exact ⟨⟨_, _, rfl, hmark⟩, '^' :: cs, c, by simp [chars, hcs], not_isBlank_of_isDigit hc⟩
  | opening tag rest => exact ⟨⟨_, _, rfl, hopen⟩, _, _, rfl, hclose⟩
  | closing tag => exact ⟨⟨_, _, rfl, hopen⟩, _, _, rfl, hclose⟩
  | verbatim tag rest inner => exact ⟨⟨_, _, rfl, hopen⟩, _, _, rfl, hclose⟩

/-- Blank characters in front of a text are blank pieces in front of its pieces.  `f` spells a
piece, forwards or backwards. -/
theorem dropWhile_flatMap {f : Piece → List Char} (hf : ∀ c, f (.char c) = [c])
    (hsolid : ∀ p, p.isBlank = false → ∃ c cs, f p = c :: cs ∧ Text.isBlank c = false)
    (ps : List Piece) :
    (ps.flatMap f).dropWhile Text.isBlank = (ps.dropWhile Piece.isBlank).flatMap f := by
  induction ps with
  | nil => rfl
  | cons p ps ih =>
      cases hp : p.isBlank with
      | false =>
          obtain ⟨c, cs, hc, hb⟩ := hsolid p hp
          simp [hp, hc, hb]
      | true =>
          -- Only a character can be blank.
          cases p with
          | char c =>
              have hb : Text.isBlank c = true := hp
              simp [hp, hf, hb, ih]
          | _ => cases hp

theorem reverse_flatMap_chars (ps : List Piece) :
    (ps.flatMap (Piece.chars numbers)).reverse =
      ps.reverse.flatMap fun p => (p.chars numbers).reverse := by
  rw [List.reverse_flatMap]
  rfl

/-- **Trimming pieces is trimming their text.** -/
theorem written_trimPieces (ps : List Piece) :
    written numbers (trimPieces ps) = Text.trimmed (written numbers ps) := by
  have hstart : ∀ qs : List Piece, (qs.flatMap (Piece.chars numbers)).dropWhile Text.isBlank =
      (qs.dropWhile Piece.isBlank).flatMap (Piece.chars numbers) :=
    dropWhile_flatMap (fun _ => rfl) fun p hp => (p.chars_of_not_isBlank numbers hp).1
  -- The end is trimmed as the start of the reverse, where every piece is spelled backwards.
  have hend : ∀ qs : List Piece,
      (qs.flatMap fun p => (p.chars numbers).reverse).dropWhile Text.isBlank =
        (qs.dropWhile Piece.isBlank).flatMap fun p => (p.chars numbers).reverse := by
    refine dropWhile_flatMap (fun _ => rfl) fun p hp => ?_
    obtain ⟨cs, c, hcs, hc⟩ := (p.chars_of_not_isBlank numbers hp).2
    exact ⟨c, cs.reverse, by simp [hcs], hc⟩
  rw [written_eq_iff, Text.toList_trimmed, toList_written, Text.trim, Text.trimStart, hstart,
    Text.trimEnd, reverse_flatMap_chars, hend, trimPieces]
  rw [← List.reverse_inj, reverse_flatMap_chars, List.reverse_reverse, List.reverse_reverse]

theorem trimPieces_within (ps : List Piece) : trimPieces ps <:+: ps := by
  have hend : trimPieces ps <+: ps.dropWhile Piece.isBlank := by
    rw [← List.reverse_suffix, trimPieces, List.reverse_reverse]
    exact List.dropWhile_suffix _
  exact hend.isInfix.trans (List.dropWhile_suffix _).isInfix

/-! ### Solid pieces -/

/-- Pieces without the blank characters among them. -/
def solidPieces (ps : List Piece) : List Piece :=
  ps.filter fun p => !p.isBlank

@[simp] theorem solidPieces_append (ps qs : List Piece) :
    solidPieces (ps ++ qs) = solidPieces ps ++ solidPieces qs :=
  List.filter_append ..

theorem solidPieces_cons (p : Piece) (ps : List Piece) :
    solidPieces (p :: ps) = solidPieces [p] ++ solidPieces ps :=
  solidPieces_append [p] ps

theorem solidPieces_dropWhile (ps : List Piece) :
    solidPieces (ps.dropWhile Piece.isBlank) = solidPieces ps := by
  induction ps with
  | nil => rfl
  | cons p ps ih =>
      cases hp : p.isBlank with
      | true => simpa [hp, solidPieces] using ih
      | false => simp [hp]

theorem solidPieces_reverse (ps : List Piece) :
    solidPieces ps.reverse = (solidPieces ps).reverse :=
  List.filter_reverse ..

theorem solidPieces_trimPieces (ps : List Piece) :
    solidPieces (trimPieces ps) = solidPieces ps := by
  rw [trimPieces, solidPieces_reverse, solidPieces_dropWhile, solidPieces_reverse,
    List.reverse_reverse, solidPieces_dropWhile]

/-- What is read off pieces, but not off characters, is not changed by trimming. -/
theorem flatMap_trimPieces {α : Type} {f : Piece → List α} (hf : ∀ c, f (.char c) = [])
    (ps : List Piece) : (trimPieces ps).flatMap f = ps.flatMap f := by
  -- Nothing is read off characters, so both sides are read off their solid pieces.
  have hsolid : ∀ qs : List Piece, (solidPieces qs).flatMap f = qs.flatMap f := by
    intro qs
    induction qs with
    | nil => rfl
    | cons q qs ih =>
        cases hq : q.isBlank with
        | false => simpa [solidPieces, hq] using ih
        | true =>
            cases q with
            | char c => simpa [solidPieces, hq, hf] using ih
            | _ => cases hq
  rw [← hsolid, solidPieces_trimPieces, hsolid]

/-! ### Lists with a separator -/

variable {α β : Type}

/-- What holds of parts and of a separator, and is kept when lists are put together, holds of the
parts with the separator between them. -/
theorem intercalate_induction {P : List α → Prop} {sep : List α} {parts : List (List α)}
    (hnil : P []) (happend : ∀ as bs, P as → P bs → P (as ++ bs)) (hsep : P sep)
    (h : ∀ part ∈ parts, P part) : P (sep.intercalate parts) := by
  induction parts with
  | nil => exact hnil
  | cons part parts ih =>
      have hpart := h part List.mem_cons_self
      cases parts with
      | nil => simpa using hpart
      | cons part' parts =>
          rw [List.intercalate_cons_cons]
          exact happend _ _ (happend _ _ hpart hsep)
            (ih fun p hp => h p (List.mem_cons_of_mem _ hp))

/-- A map that keeps the way in which lists are put together keeps it with a separator too. -/
theorem map_intercalate {f : List α → List β} (hnil : f [] = [])
    (happend : ∀ as bs, f (as ++ bs) = f as ++ f bs) (sep : List α) (parts : List (List α)) :
    f (sep.intercalate parts) = (f sep).intercalate (parts.map f) := by
  induction parts with
  | nil => simpa using hnil
  | cons part parts ih =>
      cases parts with
      | nil => simp
      | cons part' parts =>
          rw [List.intercalate_cons_cons, happend, happend, ih]
          simp only [List.map_cons, List.intercalate_cons_cons]

end ForumMarkup
