import CodeFold.Pattern.Basic
import Mathlib.Data.String.Basic

/-!
# Offsets in bytes

A place in a text is given by the number of characters before it or by the number of bytes before
it, in UTF-8. Every number of characters up to the length of the text is a place. A number of bytes
may lie inside a character; those that do not are the valid positions of the text as a string.
Where an offset is at a boundary, the parts of the text before and behind it are found again, and
the next boundary is as far away as its character is long.
-/

namespace CodeFold.Text

/-- The number of bytes in front of the character with a number. -/
def offset (text : List Char) (i : Nat) : Nat := String.utf8Len (text.take i)

/-- The number of characters in front of an offset. There is none if the offset is inside a
character or behind the end. -/
def index? : List Char → Nat → Option Nat
  | _, 0 => some 0
  | [], _ + 1 => none
  | c :: text, n + 1 =>
    if c.utf8Size ≤ n + 1 then (index? text (n + 1 - c.utf8Size)).map (· + 1) else none

/-- The text from an offset on. -/
def dropBytes? (text : List Char) (n : Nat) : Option (List Char) :=
  (index? text n).map text.drop

/-- The text up to an offset. -/
def takeBytes? (text : List Char) (n : Nat) : Option (List Char) :=
  (index? text n).map text.take

/-- The text between two offsets. -/
def sliceBytes? (text : List Char) (start stop : Nat) : Option (List Char) :=
  if start ≤ stop then
    (index? text start).bind fun i => (index? text stop).map fun j => Pattern.slice text (i, j)
  else none

/-- The offset behind the character that starts at an offset. -/
def nextBoundary? (text : List Char) (n : Nat) : Option Nat :=
  (dropBytes? text n).bind fun rest => rest.head?.map fun c => n + c.utf8Size

/-- The offset of the first place where a character stands. -/
def find? (text : List Char) (c : Char) : Option Nat :=
  (text.findIdx? (· == c)).map (offset text)

variable {text : List Char} {i j n : Nat}

/-! ### Offsets and numbers of characters -/

/-- No bytes stand in front of the first character. -/
@[simp]
theorem offset_zero (text : List Char) : offset text 0 = 0 := rfl

/-- A character in front adds its own length. -/
@[simp]
theorem offset_cons_succ (c : Char) (text : List Char) (i : Nat) :
    offset (c :: text) (i + 1) = offset text i + c.utf8Size := rfl

/-- An offset is at a boundary exactly if it is the offset of some character or of the end. -/
theorem index?_eq_some_iff : index? text n = some i ↔ i ≤ text.length ∧ offset text i = n := by
  induction text generalizing n i with
  | nil => cases n <;> cases i <;> simp [index?, offset]
  | cons c text ih =>
    have hpos := c.utf8Size_pos
    cases n with
    | zero =>
      cases i with
      | zero => simp [index?]
      | succ i => simp only [index?, offset_cons_succ]; simp; omega
    | succ n =>
      cases i with
      | zero => simp [index?]
      | succ i =>
        rw [index?, offset_cons_succ, List.length_cons, Nat.add_le_add_iff_right]
        split
        · next hle =>
          rw [Option.map_eq_some_iff]
          simp only [Nat.add_right_cancel_iff, exists_eq_right, ih]
          omega
        · simp only [reduceCtorEq, false_iff]
          omega

/-- The offset of a character leads back to its number. -/
theorem index?_offset (h : i ≤ text.length) : index? text (offset text i) = some i :=
  index?_eq_some_iff.mpr ⟨h, rfl⟩

/-- The offsets at boundaries are the valid positions of the text as a string. -/
theorem isSome_index?_iff :
    (index? text n).isSome = true ↔ String.Pos.Raw.Valid (String.ofList text) ⟨n⟩ := by
  rw [Option.isSome_iff_exists]
  constructor
  · rintro ⟨i, hi⟩
    obtain ⟨_, rfl⟩ := index?_eq_some_iff.mp hi
    exact .intro ⟨text.take i, text.drop i, by simp, rfl⟩
  · intro h
    obtain ⟨front, rest, heq, hn⟩ := h.exists
    obtain rfl : front ++ rest = text := by simpa using congrArg String.toList heq
    obtain rfl : n = String.utf8Len front := congrArg String.Pos.Raw.byteIdx hn
    exact ⟨front.length, index?_eq_some_iff.mpr ⟨by simp, by simp [offset]⟩⟩

/-- A character takes the bytes from its offset to that of the next one. -/
theorem offset_succ {c : Char} (h : text[i]? = some c) :
    offset text (i + 1) = offset text i + c.utf8Size := by
  rw [offset, offset, List.take_add_one, h, String.utf8Len_append]
  simp

/-- Offsets grow with the number of characters. -/
theorem offset_lt_offset (hij : i < j) (hj : j ≤ text.length) : offset text i < offset text j := by
  induction j with
  | zero => omega
  | succ j ih =>
    have hsucc := offset_succ (List.getElem?_eq_getElem (show j < text.length by omega))
    have hpos := (text[j]).utf8Size_pos
    rcases Nat.lt_or_eq_of_le (Nat.le_of_lt_succ hij) with hlt | rfl
    · have := ih hlt (by omega)
      omega
    · omega

/-- Inside a text offsets are ordered as the numbers of characters are. -/
theorem offset_lt_offset_iff (hi : i ≤ text.length) (hj : j ≤ text.length) :
    offset text i < offset text j ↔ i < j := by
  refine ⟨fun h => Nat.lt_of_not_le fun hle => ?_, fun h => offset_lt_offset h hj⟩
  rcases Nat.lt_or_eq_of_le hle with hlt | rfl
  · have := offset_lt_offset hlt hi
    omega
  · omega

/-! ### Parts of a text -/

/-- At the offset of a character the text from it on is found. -/
theorem dropBytes?_offset (h : i ≤ text.length) :
    dropBytes? text (offset text i) = some (text.drop i) := by
  rw [dropBytes?, index?_offset h]
  rfl

/-- At the offset of a character the text in front of it is found. -/
theorem takeBytes?_offset (h : i ≤ text.length) :
    takeBytes? text (offset text i) = some (text.take i) := by
  rw [takeBytes?, index?_offset h]
  rfl

/-- The text between two characters is the same by their numbers and by their offsets. -/
theorem sliceBytes?_offset (hi : i ≤ text.length) (hj : j ≤ text.length) :
    sliceBytes? text (offset text i) (offset text j) =
      if i ≤ j then some (Pattern.slice text (i, j)) else none := by
  have hle : offset text i ≤ offset text j ↔ i ≤ j := by
    rw [← Nat.not_lt, offset_lt_offset_iff hj hi, Nat.not_lt]
  simp only [sliceBytes?, hle, index?_offset hi, index?_offset hj, Option.bind_some,
    Option.map_some]

/-- Behind a character the next boundary is the offset of the next character. -/
theorem nextBoundary?_offset (h : i ≤ text.length) :
    nextBoundary? text (offset text i) =
      if i < text.length then some (offset text (i + 1)) else none := by
  rw [nextBoundary?, dropBytes?_offset h, Option.bind_some, List.head?_drop]
  split
  · next hlt =>
    have hget := List.getElem?_eq_getElem hlt
    rw [hget, offset_succ hget]
    rfl
  · next hge =>
    rw [List.getElem?_eq_none (Nat.le_of_not_lt hge)]
    rfl

/-- A character of two bytes has a boundary on both sides and none inside. -/
example : index? ['a', 'é', 'b'] 1 = some 1 ∧ index? ['a', 'é', 'b'] 2 = none ∧
    nextBoundary? ['a', 'é', 'b'] 1 = some 3 := by decide

end CodeFold.Text
