import CodeFold.Proofs.CheckedHit
import CodeFold.Proofs.TemplateText

/-!
# Reading templates with checked accesses

A closing pattern is read once more by offsets in bytes: the next backslash is looked for, the text
in front of it and behind it is cut out, and a reference is cut off the text behind it. A cut inside
a character or behind the end of a text stops with a fault. No cut does, because what is looked for
stands at boundaries and takes one byte, and the segments are those that reading character by
character gives.
Specification: §7.
-/

namespace CodeFold.Checked

/-- The text from an offset on. -/
def dropBytes (text : List Char) (n : Nat) : Except Fault (List Char) :=
  match Text.dropBytes? text n with
  | some rest => .ok rest
  | none => .error (.cut n)

/-- The text up to an offset. -/
def takeBytes (text : List Char) (n : Nat) : Except Fault (List Char) :=
  match Text.takeBytes? text n with
  | some front => .ok front
  | none => .error (.cut n)

/-- The text between two offsets. -/
def sliceBytes (text : List Char) (start stop : Nat) : Except Fault (List Char) :=
  match Text.sliceBytes? text start stop with
  | some part => .ok part
  | none => .error (.cut start)

/-- The reference that follows a backslash, and what follows it. -/
def reference? (text : List Char) : Except Fault (Option (GroupRef × List Char)) :=
  match text with
  | [] => .ok none
  | c :: _ =>
    if '1' ≤ c && c ≤ '9' then do return some (.index (c.toNat - 48), ← dropBytes text 1)
    else if c = 'k' then do
      if (← dropBytes text 1).head? = some '<' then
        match (Text.find? text '>').filter (2 < ·) with
        | some close =>
          let name ← sliceBytes text 2 close
          return some (.name (String.ofList name), ← dropBytes text (close + 1))
        | none => return none
      else return none
    else return none

/-- Splits a pattern into segments, behind the text gathered so far in reverse. -/
def segmentsFrom : Nat → List Char → List Char → Except Fault (List Segment)
  | 0, _, _ => .error .unfinished
  | fuel + 1, acc, text =>
    match Text.find? text '\\' with
    | none => .ok (Template.flush (text.reverse ++ acc) [])
    | some pos => do
      let acc := (← takeBytes text pos).reverse ++ acc
      let after ← dropBytes text (pos + 1)
      match ← reference? after with
      | some (ref, rest) => return Template.flush acc (.group ref :: (← segmentsFrom fuel [] rest))
      | none =>
        match after with
        | [] => return Template.flush ('\\' :: acc) []
        | c :: _ => segmentsFrom fuel (c :: '\\' :: acc) (← dropBytes after c.utf8Size)

/-- The template of a pattern; a pattern without references is none. -/
def template? (pattern : String) : Except Fault (Option Template) := do
  let segments ← segmentsFrom (pattern.toList.length + 1) [] pattern.toList
  return if segments.any Template.isGroup then some ⟨pattern, segments⟩ else none

/-! ### Cuts stay in range -/

variable {text : List Char} {i n : Nat}

private theorem dropBytes_eq_ok (hi : i ≤ text.length) (hn : Text.offset text i = n) :
    dropBytes text n = .ok (text.drop i) := by
  rw [dropBytes, ← hn, Text.dropBytes?_offset hi]

private theorem takeBytes_eq_ok (hi : i ≤ text.length) (hn : Text.offset text i = n) :
    takeBytes text n = .ok (text.take i) := by
  rw [takeBytes, ← hn, Text.takeBytes?_offset hi]

/-- Behind a character the text goes on with the rest. -/
private theorem dropBytes_cons (c : Char) (text : List Char) {n : Nat} (hn : c.utf8Size = n) :
    dropBytes (c :: text) n = .ok text :=
  dropBytes_eq_ok (i := 1) (by simp) (by simpa using hn)

/-- A text in which a character is found is cut in two around it. -/
private theorem exists_of_find? {c : Char} {pos : Nat} (hc : c.utf8Size = 1)
    (h : Text.find? text c = some pos) :
    ∃ front rest, text = front ++ c :: rest ∧ c ∉ front ∧ Text.offset text front.length = pos ∧
      takeBytes text pos = .ok front ∧ dropBytes text (pos + 1) = .ok rest := by
  obtain ⟨i, hi, rfl⟩ := Option.map_eq_some_iff.mp h
  obtain ⟨hlt, hget, hfirst⟩ := List.findIdx?_eq_some_iff_getElem.mp hi
  have hci : text[i] = c := by simpa using hget
  have hlen : (text.take i).length = i := by simp; omega
  have hsucc := Text.offset_succ (List.getElem?_eq_getElem hlt)
  rw [hci, hc] at hsucc
  refine ⟨text.take i, text.drop (i + 1), ?_, ?_, by rw [hlen], ?_, ?_⟩
  · rw [← hci, List.getElem_cons_drop, List.take_append_drop]
  · intro hmem
    obtain ⟨j, hj, hjc⟩ := List.getElem_of_mem hmem
    have hji : j < i := by omega
    rw [List.getElem_take] at hjc
    exact absurd hjc (by simpa using hfirst j hji)
  · exact takeBytes_eq_ok (by omega) rfl
  · exact dropBytes_eq_ok hlt hsucc

private theorem not_mem_of_find? {c : Char} (h : Text.find? text c = none) : c ∉ text := by
  have hnone := List.findIdx?_eq_none_iff.mp (Option.map_eq_none_iff.mp h)
  exact fun hmem => by simpa using hnone c hmem

/-! ### References -/

/-- Behind `k` and an angle bracket the name up to the closing bracket is cut out. -/
private theorem reference?_name (cs : List Char) :
    reference? ('k' :: '<' :: cs) = .ok (Template.reference? ('k' :: '<' :: cs)) := by
  have hname : Template.reference? ('k' :: '<' :: cs) =
      (Template.groupName? cs).map fun x => (.name (String.ofList x.1), x.2) := rfl
  rw [reference?, if_neg (by decide), if_pos rfl, dropBytes_cons 'k' _ (n := 1) rfl, hname]
  dsimp only [bind, Except.bind]
  rw [if_pos List.head?_cons]
  cases hfind : Text.find? ('k' :: '<' :: cs) '>' with
  | none =>
    have hnot := not_mem_of_find? hfind
    have hnone : Template.groupName? cs = none := by
      refine Option.eq_none_iff_forall_ne_some.mpr fun found h => ?_
      obtain ⟨name, rest⟩ := found
      obtain ⟨_, _, rfl⟩ := Template.groupName?_eq_some_iff.mp h
      simp at hnot
    rw [hnone]
    rfl
  | some close =>
    obtain ⟨front, rest, htext, hnot, hclose, _, hdrop⟩ := exists_of_find? rfl hfind
    -- The closing bracket stands behind the first two characters.
    obtain ⟨name, rfl⟩ : ∃ name, front = 'k' :: '<' :: name := by
      rcases front with _ | ⟨a, _ | ⟨b, name⟩⟩
      · simp at htext
      · simp at htext
      · obtain ⟨rfl, rfl, _⟩ : 'k' = a ∧ '<' = b ∧ _ := by simpa using htext
        exact ⟨name, rfl⟩
    obtain rfl : cs = name ++ '>' :: rest := by simpa using htext
    have hsize : String.utf8Len name + 2 = close := by
      rw [← hclose, List.length_cons, List.length_cons, Text.offset_cons_succ,
        Text.offset_cons_succ, Text.offset, List.take_left]
      rfl
    have hslice : sliceBytes ('k' :: '<' :: (name ++ '>' :: rest)) 2 close = .ok name := by
      have hcut := @Text.sliceBytes?_offset ('k' :: '<' :: (name ++ '>' :: rest)) 2
        (name.length + 2) (by simp) (by simp)
      have hstart : Text.offset ('k' :: '<' :: (name ++ '>' :: rest)) 2 = 2 := rfl
      have hstop : Text.offset ('k' :: '<' :: (name ++ '>' :: rest)) (name.length + 2) = close :=
        hclose
      rw [hstart, hstop, if_pos (by omega)] at hcut
      rw [sliceBytes, hcut]
      simp [Pattern.slice]
    by_cases hempty : name = []
    · -- Brackets around nothing are no reference.
      have hnone : Template.groupName? (name ++ '>' :: rest) = none := by rw [hempty]; rfl
      rw [hempty] at hsize
      rw [hnone, ← hsize]
      rfl
    · have hlt : 2 < close := by
        have hpos := Nat.pos_of_ne_zero (mt String.utf8Len_eq_zero.mp hempty)
        omega
      have hgroup : Template.groupName? (name ++ '>' :: rest) = some (name, rest) :=
        Template.groupName?_eq_some_iff.mpr ⟨hempty, by simpa using hnot, rfl⟩
      rw [hgroup]
      simp only [Option.filter, hlt, decide_true, if_true]
      rw [hslice, hdrop]
      rfl

/-- A reference is cut off as it is read character by character. -/
private theorem reference?_eq_ok (text : List Char) :
    reference? text = .ok (Template.reference? text) := by
  rcases text with _ | ⟨c, cs⟩
  · rfl
  · by_cases hdigit : ('1' ≤ c && c ≤ '9') = true
    · have hsize : c.utf8Size = 1 := by
        have hle : c ≤ '9' := by simp_all
        exact Char.utf8Size_eq_one_iff.mpr (UInt32.le_trans hle (by decide))
      have hk : c ≠ 'k' := by
        rintro rfl
        revert hdigit
        decide
      rw [reference?, if_pos hdigit, dropBytes_cons c cs hsize]
      simp [Template.reference?, hk, hdigit, bind, Except.bind, pure, Except.pure]
    · by_cases hk : c = 'k'
      · subst hk
        rcases cs with _ | ⟨d, cs⟩
        · rfl
        · by_cases hd : d = '<'
          · subst hd
            exact reference?_name cs
          · rw [reference?, if_neg hdigit, if_pos rfl, dropBytes_cons 'k' _ (n := 1) rfl]
            simp [Template.reference?, hd, bind, Except.bind, pure, Except.pure]
      · rw [reference?, if_neg hdigit, if_neg hk]
        simp [Template.reference?, hk, hdigit, pure, Except.pure]

/-! ### Segments -/

/-- Text without a backslash is gathered. -/
private theorem segmentsFrom_append {front : List Char} (h : '\\' ∉ front) (fuel : Nat)
    (acc rest : List Char) :
    Template.segmentsFrom (fuel + front.length) acc (front ++ rest) =
      Template.segmentsFrom fuel (front.reverse ++ acc) rest := by
  induction front generalizing acc with
  | nil => rfl
  | cons c front ih =>
    obtain ⟨hc, hfront⟩ : '\\' ≠ c ∧ '\\' ∉ front := by simpa using h
    rw [List.length_cons, ← Nat.add_assoc, List.cons_append, Template.segmentsFrom, ih hfront]
    · simp
    · exact hc.symm

/-- Every backslash moves the reader on, so it ends before its fuel is used up. -/
private theorem segmentsFrom_eq_ok {fuel fuel' : Nat} {text : List Char} (hf : text.length < fuel)
    (hf' : text.length < fuel') (acc : List Char) :
    segmentsFrom fuel acc text = .ok (Template.segmentsFrom fuel' acc text) := by
  induction fuel generalizing fuel' text acc with
  | zero => omega
  | succ fuel ih =>
    rw [segmentsFrom]
    cases hfind : Text.find? text '\\' with
    | none =>
      obtain ⟨k, rfl⟩ := Nat.exists_eq_add_of_lt hf'
      have hread := segmentsFrom_append (not_mem_of_find? hfind) (k + 1) acc []
      rw [List.append_nil, Template.segmentsFrom] at hread
      rw [show text.length + k + 1 = k + 1 + text.length by omega, hread]
    | some pos =>
      obtain ⟨front, after, rfl, hnot, _, htake, hdrop⟩ := exists_of_find? rfl hfind
      rw [List.length_append, List.length_cons] at hf hf'
      obtain ⟨k, rfl⟩ : ∃ k, fuel' = k + 1 + front.length := ⟨fuel' - 1 - front.length, by omega⟩
      rw [segmentsFrom_append hnot]
      dsimp only
      rw [htake, hdrop]
      dsimp only [bind, Except.bind]
      rw [reference?_eq_ok]
      cases href : Template.reference? after with
      | some found =>
        obtain ⟨ref, rest⟩ := found
        have hlen := congrArg List.length (Template.reference?_eq_some_iff.mp href).2
        obtain ⟨cs, hspell⟩ := Template.exists_spelling ref
        rw [hspell] at hlen
        simp only [List.length_cons, List.length_append] at hlen
        have hrest : segmentsFrom fuel [] rest = .ok (Template.segmentsFrom k [] rest) :=
          ih (by omega) (by omega) []
        simp [hrest, Template.segmentsFrom, href, pure, Except.pure]
      | none =>
        cases after with
        | nil => rfl
        | cons c rest =>
          rw [List.length_cons] at hf hf'
          have hrest := @ih k rest (by omega) (by omega) (c :: '\\' :: (front.reverse ++ acc))
          simp [dropBytes_cons c rest rfl, hrest, Template.segmentsFrom, href]

/-- Reading a template never cuts a text out of range. -/
theorem template?_eq_ok (pattern : String) :
    template? pattern = .ok (Template.parse? pattern) := by
  rw [template?, segmentsFrom_eq_ok (Nat.lt_succ_self _) (Nat.lt_succ_self _)]
  rfl

end CodeFold.Checked
