import ForumMarkup.Value.Basic
/-
**Values of code points.**

The value of a list of code points is a text exactly if no surrogate is among them, and otherwise an
ill-formed text with these code points.  Either way it is taken for the text that is shown for them.

Main results:

* `ForumMarkup.Text.Point.ofNat_toNat` — the code point of a character's number is the character;
* `ForumMarkup.Text.prefix_imageOf_iff`, `ForumMarkup.Text.imageOf_eq_iff` — what is shown for code
  points begins with a text, or is it, if the code points do or are;
* `ForumMarkup.Value.shown_of_asText?` — a value that is taken for a text is shown as that text;
* `ForumMarkup.Value.ofPoints_pointsOf` — the value of the code points of a text is the text;
* `ForumMarkup.Value.asText?_ofPoints`, `ForumMarkup.Value.shown_ofPoints` — the text that the value
  of code points is, and is shown as;
* `ForumMarkup.Value.points?_ofPoints` — no code point of it is lost.
-/

set_option autoImplicit false

namespace ForumMarkup

namespace Text

@[simp] theorem Point.ofNat_toNat (c : Char) : Point.ofNat c.toNat = .char c := by
  have hvalid := c.valid
  have hscalar : ¬(0xD800 ≤ c.toNat ∧ c.toNat < 0xE000) := by
    simp only [UInt32.isValidChar, Nat.isValidChar] at hvalid
    change _ < 0xD800 ∨ _ at hvalid
    simp only [Char.toNat]
    omega
  rw [Point.ofNat, dif_neg hscalar, Char.ofNat_toNat]

@[simp] theorem isSurrogate_pointsOf (s : String) : (pointsOf s).any Point.isSurrogate = false := by
  simp [pointsOf, Point.isSurrogate]

@[simp] theorem imageOf_pointsOf (s : String) : imageOf (pointsOf s) = s := by
  have himage : Point.image ∘ Point.char = id := rfl
  rw [imageOf, pointsOf, List.map_map, himage, List.map_id, String.ofList_toList]

/-- Code points without a surrogate among them are those of a text. -/
theorem pointsOf_imageOf {points : List Point} (h : points.any Point.isSurrogate = false) :
    pointsOf (imageOf points) = points := by
  have hback : ∀ p ∈ points, Point.char p.image = p := by
    intro p hp
    cases p with
    | char c => rfl
    | surrogate place => simp only [List.any_eq_false] at h; exact absurd rfl (h _ hp)
  rw [pointsOf, imageOf, String.toList_ofList, List.map_map]
  exact (List.map_congr_left hback).trans (List.map_id points)

theorem imageOf_append (points more : List Point) :
    imageOf (points ++ more) = imageOf points ++ imageOf more := by
  rw [imageOf, List.map_append, String.ofList_append]
  rfl

/-- Characters stand for themselves, except the one that stands for surrogates too. -/
theorem Point.image_eq_iff {p : Point} {c : Char} (hc : c ≠ replacementChar) :
    p.image = c ↔ p = .char c := by
  cases p with
  | char c' => simp [Point.image]
  | surrogate place => simpa [Point.image] using Ne.symm hc

/-- What is shown for code points begins with a text if the code points do. -/
theorem prefix_imageOf_iff {s : String} {points : List Point} (hs : replacementChar ∉ s.toList) :
    s.toList <+: (imageOf points).toList ↔ pointsOf s <+: points := by
  rw [imageOf, String.toList_ofList, pointsOf]
  generalize s.toList = cs at hs ⊢
  induction cs generalizing points with
  | nil => simp
  | cons c cs ih =>
      simp only [List.mem_cons, not_or] at hs
      obtain ⟨hc, hcs⟩ := hs
      cases points with
      | nil => simp
      | cons p ps =>
          rw [List.map_cons, List.map_cons, List.cons_prefix_cons, List.cons_prefix_cons, ih hcs,
            eq_comm, Point.image_eq_iff (Ne.symm hc), eq_comm]

/-- A text is shown only for its own code points. -/
theorem imageOf_eq_iff {s : String} {points : List Point} (hs : replacementChar ∉ s.toList) :
    imageOf points = s ↔ points = pointsOf s := by
  constructor
  · intro h
    have hbegins : pointsOf s <+: points := (prefix_imageOf_iff hs).1 (h ▸ List.prefix_rfl)
    have hlength : (pointsOf s).length = points.length := by
      simp [← h, pointsOf, imageOf]
    exact (hbegins.eq_of_length hlength).symm
  · rintro rfl
    exact imageOf_pointsOf s

end Text

namespace Value

theorem shown_of_asText? {v : Value} {s : String} (h : v.asText? = some s) : v.shown = s := by
  cases v
  case text => exact Option.some.inj h
  case illFormed => exact Option.some.inj h
  all_goals cases h

theorem isShowable_of_asText? {v : Value} {s : String} (h : v.asText? = some s)
    (limit? : Option Nat) : v.isShowable limit? = true := by
  cases v
  case text => simp [isShowable]
  case illFormed => simp [isShowable]
  all_goals cases h

@[simp] theorem ofPoints_pointsOf (s : String) : ofPoints (Text.pointsOf s) = .text s := by
  simp [ofPoints]

theorem asText?_ofPoints (points : List Text.Point) :
    (ofPoints points).asText? = some (Text.imageOf points) := by
  rw [ofPoints]
  split <;> rfl

/-- The value of code points keeps them as they are. -/
theorem points?_ofPoints (points : List Text.Point) : (ofPoints points).points? = some points := by
  rw [ofPoints]
  split
  · rfl
  · rename_i h
    rw [points?, Text.pointsOf_imageOf (by simpa using h)]

theorem shown_ofPoints (points : List Text.Point) :
    (ofPoints points).shown = Text.imageOf points :=
  shown_of_asText? (asText?_ofPoints points)

theorem truthy_ofPoints (points : List Text.Point) :
    (ofPoints points).truthy = !points.isEmpty := by
  rw [ofPoints]
  split
  · rename_i h
    cases points with
    | nil => cases h
    | cons p ps => rfl
  · cases points <;> simp [truthy, Text.imageOf]

theorem ofPoints_ne_object (points : List Text.Point) (entries : List (String × Value)) :
    ofPoints points ≠ .object entries := by
  rw [ofPoints]
  split <;> exact nofun

theorem isShowable_ofPoints (points : List Text.Point) (limit? : Option Nat) :
    (ofPoints points).isShowable limit? = true :=
  isShowable_of_asText? (asText?_ofPoints points) limit?

end Value

end ForumMarkup
