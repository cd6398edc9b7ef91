import CodeFold.Data.JsonReader
import CodeFold.Data.JsonText
import Mathlib.Data.List.TakeDrop
import Mathlib.Data.Nat.Basic

/-!
# Reading written JSON

What is written for an object is read back as its members. The reader is followed over the text of
each kind of value: a value takes its own characters and leaves what stands behind it, as long as
that cannot belong to a number. Nothing that is written holds a control character, so a value stays
in one line.
-/

namespace CodeFold

namespace Json

/-! ### Escapes -/

/-- What can be written for a character inside a string: the character itself, a letter that stands
for it, or its code. -/
inductive EscapedAs (c : Char) : List Char → Prop
  | self (hquote : c ≠ '"') (hslash : c ≠ '\\') (hc : 0x20 ≤ c.toNat) : EscapedAs c [c]
  | letter {e : Char} (he : JsonReader.escapeOf? e = some c) : EscapedAs c ['\\', e]
  | code (hc : c.toNat < 0x20) :
    EscapedAs c ['\\', 'u', '0', '0', hexChar (c.toNat / 16), hexChar (c.toNat % 16)]

private theorem escapedAs_escapeChar (c : Char) : EscapedAs c (escapeChar c) := by
  have hletter {n : Nat} (hn : c.toNat = n) {e : Char}
      (he : JsonReader.escapeOf? e = some (Char.ofNat n)) : EscapedAs c ['\\', e] :=
    .letter (by rw [he, ← hn, Char.ofNat_toNat])
  unfold escapeChar
  split
  · next hc => exact .letter (by rw [hc]; rfl)
  · split
    · next hc => exact .letter (by rw [hc]; rfl)
    · split
      · exact .self ‹_› ‹_› ‹_›
      · split
        · exact hletter ‹_› rfl
        · exact hletter ‹_› rfl
        · exact hletter ‹_› rfl
        · exact hletter ‹_› rfl
        · exact hletter ‹_› rfl
        · exact .code (by omega)

private theorem EscapedAs.length_pos {c : Char} {cs : List Char} (h : EscapedAs c cs) :
    0 < cs.length := by
  cases h <;> simp

/-! ### What is written -/

private theorem quote_append (s : String) (rest : List Char) :
    quote s ++ rest = '"' :: (s.toList.flatMap escapeChar ++ '"' :: rest) := by
  rw [quote, List.cons_append, List.append_assoc, List.singleton_append]

private theorem length_le_flatMap_escapeChar (cs : List Char) :
    cs.length ≤ (cs.flatMap escapeChar).length := by
  induction cs with
  | nil => rfl
  | cons c cs ih =>
    have hc := (escapedAs_escapeChar c).length_pos
    rw [List.flatMap_cons, List.length_append, List.length_cons]
    omega

private theorem length_add_two_le_quote (s : String) : s.toList.length + 2 ≤ (quote s).length := by
  have hlength := length_le_flatMap_escapeChar s.toList
  rw [quote, List.length_cons, List.length_append, List.length_singleton]
  omega

private theorem chars_string (s : String) : (string s).chars = quote s := rfl

/-- A number is written by its digits. -/
theorem chars_ofNat (n : Nat) : (ofNat n).chars = Nat.toDigits 10 n := Nat.toList_repr

private theorem chars_object (members : List (String × Json)) : (object members).chars =
    '\x7b' :: (withCommas (memberChars members) ++ ['\x7d']) := rfl

private theorem withCommas_memberChars_singleton (m : String × Json) :
    withCommas (memberChars [m]) = quote m.1 ++ ':' :: m.2.chars := rfl

private theorem withCommas_memberChars_cons (m m' : String × Json) (rest : List (String × Json)) :
    withCommas (memberChars (m :: m' :: rest)) =
      quote m.1 ++ ':' :: m.2.chars ++ ',' :: withCommas (memberChars (m' :: rest)) := rfl

private theorem exists_withCommas_memberChars (m : String × Json) (rest : List (String × Json)) :
    ∃ cs, withCommas (memberChars (m :: rest)) = '"' :: cs := by
  cases rest with
  | nil => exact ⟨_, withCommas_memberChars_singleton m⟩
  | cons m' rest => exact ⟨_, withCommas_memberChars_cons m m' rest⟩

/-! ### Control characters -/

/-- A text without control characters. -/
def NoControl (cs : List Char) : Prop := ∀ c ∈ cs, 0x20 ≤ c.toNat

variable {cs : List Char}

private theorem NoControl.append {ds : List Char} (hc : NoControl cs) (hd : NoControl ds) :
    NoControl (cs ++ ds) := List.forall_mem_append.mpr ⟨hc, hd⟩

private theorem NoControl.cons {c : Char} (hc : 0x20 ≤ c.toNat) (h : NoControl cs) :
    NoControl (c :: cs) :=
  List.forall_mem_cons.mpr ⟨hc, h⟩

/-- A text without control characters holds none of them. -/
theorem NoControl.not_mem (h : NoControl cs) {c : Char} (hc : c.toNat < 0x20) : c ∉ cs :=
  fun hm => absurd (h c hm) (by omega)

private theorem le_toNat_of_escapeOf {e c : Char} (he : JsonReader.escapeOf? e = some c) :
    0x20 ≤ e.toNat := by
  unfold JsonReader.escapeOf? at he
  split at he <;> first | decide | simp at he

private theorem EscapedAs.noControl {c : Char} (h : EscapedAs c cs) : NoControl cs := by
  have hhex : ∀ n < 16, 0x20 ≤ (hexChar n).toNat := by decide
  cases h with
  | self _ _ hc => simpa [NoControl] using hc
  | letter he => simpa [NoControl] using le_toNat_of_escapeOf he
  | code hc =>
    have hhigh := hhex (c.toNat / 16) (by omega)
    have hlow := hhex (c.toNat % 16) (by omega)
    simp [NoControl, hhigh, hlow]

/-- A quoted text holds no control character. -/
theorem noControl_quote (s : String) : NoControl (quote s) := by
  refine .cons (by decide) (.append ?_ (by simp [NoControl]))
  intro c hc
  obtain ⟨d, _, hd⟩ := List.mem_flatMap.mp hc
  exact (escapedAs_escapeChar d).noControl c hd

private theorem isDigit_of_mem_digits {n : Nat} {c : Char} (hc : c ∈ Nat.toDigits 10 n) :
    c.isDigit = true :=
  Nat.isDigit_of_mem_toDigits (by decide) (by decide) hc

/-- The digits of a number hold no control character. -/
theorem noControl_toDigits (n : Nat) : NoControl (Nat.toDigits 10 n) := by
  intro c hc
  have hdigit := isDigit_of_mem_digits hc
  simp only [Char.isDigit_iff_toNat, Char.reduceToNat] at hdigit
  omega

private theorem noControl_withCommas {texts : List (List Char)} (h : ∀ t ∈ texts, NoControl t) :
    NoControl (withCommas texts) := by
  fun_induction withCommas texts with
  | case1 => simp [NoControl]
  | case2 t => exact h t List.mem_cons_self
  | case3 t ts _ ih =>
    obtain ⟨ht, hts⟩ := List.forall_mem_cons.mp h
    exact ht.append (.cons (by decide) (ih hts))

private theorem noControl_memberChars {members : List (String × Json)}
    (h : ∀ m ∈ members, NoControl m.2.chars) : ∀ t ∈ memberChars members, NoControl t := by
  induction members with
  | nil => simp [memberChars]
  | cons m rest ih =>
    obtain ⟨hm, hrest⟩ := List.forall_mem_cons.mp h
    exact List.forall_mem_cons.mpr
      ⟨(noControl_quote m.1).append (.cons (by decide) hm), ih hrest⟩

/-- An object holds no control character if its values hold none. -/
theorem noControl_object {members : List (String × Json)}
    (h : ∀ m ∈ members, NoControl m.2.chars) : NoControl (object members).chars := by
  rw [chars_object]
  refine .cons (by decide) (.append ?_ (by simp [NoControl]))
  exact noControl_withCommas (noControl_memberChars h)

end Json

namespace JsonReader

open Json

/-! ### Reading strings -/

private theorem hex4_hexChar {n : Nat} (hn : n < 0x20) (rest : List Char) :
    hex4 ('0' :: '0' :: hexChar (n / 16) :: hexChar (n % 16) :: rest) = some (n, rest) := by
  have hcode : ∀ n < 0x20,
      ofDigits? 16 ['0', '0', hexChar (n / 16), hexChar (n % 16)] = some n := by decide
  rw [hex4, hcode n hn]
  rfl

/-- A character of a string is read back. -/
theorem readString_escaped {c : Char} {cs : List Char} (h : EscapedAs c cs) (fuel : Nat)
    (acc rest : List Char) :
    readString (fuel + 1) (some acc) (cs ++ rest) = readString fuel (some (c :: acc)) rest := by
  cases h with
  | self hquote hslash hc =>
    rw [List.singleton_append, readString]
    · rw [if_neg (by omega), Option.map_some]
    · exact hquote
    · exact fun _ h _ => hslash h
    · exact fun _ _ h _ => hslash h
  | @letter e he =>
    have hu : e ≠ 'u' := by
      rintro rfl
      cases he
    rw [List.cons_append, List.singleton_append, readString, he]
    · rfl
    · exact hu
  | code hc =>
    simp only [List.cons_append, List.nil_append]
    rw [readString, hex4_hexChar hc]
    dsimp only
    rw [if_pos (by simp; omega), Option.map_some, Char.ofNat_toNat]

/-- The text of a string is read back up to its closing quote. -/
theorem readString_flatMap (cs : List Char) {fuel : Nat} (hfuel : cs.length < fuel)
    (acc rest : List Char) :
    readString fuel (some acc) (cs.flatMap escapeChar ++ '"' :: rest) =
      some (some (String.ofList (acc.reverse ++ cs)), rest) := by
  induction cs generalizing fuel acc with
  | nil =>
    obtain ⟨fuel, rfl⟩ := Nat.exists_eq_add_one.mpr hfuel
    rw [List.append_nil]
    rfl
  | cons c cs ih =>
    obtain ⟨fuel, rfl⟩ := Nat.exists_eq_add_one.mpr (Nat.zero_lt_of_lt hfuel)
    rw [List.flatMap_cons, List.append_assoc, readString_escaped (escapedAs_escapeChar c),
      ih (by simpa using hfuel)]
    simp

private theorem readString_quote {s : String} {fuel : Nat} (hs : s.toList.length < fuel)
    (rest : List Char) :
    readString fuel (some []) (s.toList.flatMap escapeChar ++ '"' :: rest) =
      some (some s, rest) := by
  rw [readString_flatMap s.toList hs, List.reverse_nil, List.nil_append, String.ofList_toList]

/-! ### Reading numbers -/

/-- What can follow a value: nothing, or one of the characters that part values. -/
def Follows (rest : List Char) : Prop := ∀ c ∈ rest.head?, c ∈ [',', ']', '\x7d']

variable {rest : List Char}

private theorem Follows.not_isDigit (hrest : Follows rest) :
    ∀ c ∈ rest.head?, c.isDigit = false := by
  have hparts : ∀ c ∈ [',', ']', '\x7d'], c.isDigit = false := by simp
  exact fun c hc => hparts c (hrest c hc)

private theorem takeDigits_toDigits (n : Nat) (hrest : Follows rest) :
    takeDigits (Nat.toDigits 10 n ++ rest) = (Nat.toDigits 10 n, rest) := by
  have hdigits : ∀ c ∈ Nat.toDigits 10 n, c.isDigit = true := fun c => isDigit_of_mem_digits
  rw [takeDigits, List.span_eq_takeWhile_dropWhile, List.takeWhile_append_of_pos hdigits,
    List.dropWhile_append_of_pos hdigits]
  cases rest with
  | nil => simp
  | cons c rest => simp [hrest.not_isDigit c rfl]

private theorem le_foldl_digits (cs : List Char) (n : Nat) :
    n ≤ cs.foldl (fun n c => 10 * n + digitValue c) n := by
  induction cs generalizing n with
  | nil => exact Nat.le_refl n
  | cons c cs ih => exact Nat.le_trans (by omega) (ih (10 * n + digitValue c))

/-- Digits of a number that fits are all added. -/
theorem addDigits_of_le {cs : List Char} {n : Nat}
    (h : cs.foldl (fun n c => 10 * n + digitValue c) n ≤ maxUnsigned) :
    addDigits n cs = (cs.foldl (fun n c => 10 * n + digitValue c) n, cs.length, 0) := by
  induction cs generalizing n with
  | nil => rfl
  | cons c cs ih =>
    rw [List.foldl_cons] at h ⊢
    rw [addDigits, if_pos (Nat.le_trans (le_foldl_digits cs _) h), ih h]
    rfl

private theorem foldl_toDigits (n : Nat) :
    (Nat.toDigits 10 n).foldl (fun n c => 10 * n + digitValue c) 0 = n :=
  Nat.ofDigitChars_toDigits (by decide) (by decide)

/-- The digits of a number other than zero do not begin with a zero. -/
theorem head?_toDigits {n : Nat} (hn : 0 < n) : (Nat.toDigits 10 n).head? ≠ some '0' := by
  induction n using Nat.strong_induction_on with
  | h n ih =>
    rw [Nat.toDigits_eq_if (by decide)]
    split
    · next hlt =>
      have hdigit : ∀ n < 10, 0 < n → n.digitChar ≠ '0' := by decide
      simpa using hdigit n hlt hn
    · rw [List.head?_append, Option.or_of_isSome (by simp [Nat.toDigits_ne_nil])]
      exact ih (n / 10) (by omega) (by omega)

private theorem toDigits_ne_zero_cons (n : Nat) (c : Char) (cs : List Char) :
    Nat.toDigits 10 n ≠ '0' :: c :: cs := by
  intro h
  rcases Nat.eq_zero_or_pos n with rfl | hn
  · simp at h
  · exact head?_toDigits hn (by rw [h]; rfl)

/-- A natural number of 64 bits is read back. -/
theorem readNumber_toDigits {n : Nat} (hn : n ≤ maxUnsigned) (hrest : Follows rest) :
    readNumber false (Nat.toDigits 10 n ++ rest) = (.number (.number (.int n)), rest) := by
  have hadd : addDigits 0 (Nat.toDigits 10 n) = (n, (Nat.toDigits 10 n).length, 0) := by
    rw [addDigits_of_le (by rw [foldl_toDigits]; exact hn), foldl_toDigits]
  unfold readNumber
  rw [takeDigits_toDigits n hrest]
  split
  · next heq => exact absurd (Prod.mk.inj heq).1 Nat.toDigits_ne_nil
  · next heq => exact absurd (Prod.mk.inj heq).1 (toDigits_ne_zero_cons n _ _)
  · next heq =>
    cases heq
    rw [hadd]
    cases rest with
    | nil => rfl
    | cons c rest =>
      have hc := hrest c rfl
      simp only [List.mem_cons, List.not_mem_nil, or_false] at hc
      rcases hc with rfl | rfl | rfl <;> rfl

/-! ### Reading values -/

private theorem skip_cons {c : Char} (hc : isSpace c = false) (cs : List Char) :
    skip (c :: cs) = c :: cs := by
  rw [skip, List.dropWhile_cons, if_neg (by simp [hc])]

private theorem readValue_quote {fuel : Nat} {cs rest : List Char} {s : Option String}
    (h : readString fuel (some []) cs = some (s, rest)) :
    readValue (fuel + 1) ('"' :: cs) = (.string s, rest) := by
  rw [readValue, skip_cons (by decide)]
  simp [h]

private theorem isSpace_of_isDigit {c : Char} (hc : c.isDigit = true) : isSpace c = false := by
  cases h : isSpace c with
  | false => rfl
  | true =>
    simp only [isSpace, Bool.or_eq_true, decide_eq_true_eq] at h
    rcases h with ((rfl | rfl) | rfl) | rfl <;> simp at hc

private theorem readValue_digit (fuel : Nat) {c : Char} (hc : c.isDigit = true) (cs : List Char) :
    readValue (fuel + 1) (c :: cs) = readNumber false (c :: cs) := by
  rw [readValue, skip_cons (isSpace_of_isDigit hc)]
  -- No other kind of value begins with a digit.
  split <;> next heq => cases heq <;> simp_all

private theorem readValue_brace {fuel : Nat} {cs rest : List Char}
    {members : List (Option String × DataTree)}
    (h : readMembers fuel ('"' :: cs) = (members, true, rest)) :
    readValue (fuel + 1) ('\x7b' :: '"' :: cs) = (.object members true, rest) := by
  have hstep : readValue (fuel + 1) ('\x7b' :: '"' :: cs) =
      (.object (readMembers fuel ('"' :: cs)).1 (readMembers fuel ('"' :: cs)).2.1,
        (readMembers fuel ('"' :: cs)).2.2) := rfl
  rw [hstep, h]

/-- What is written for a value is read, with lists and objects at most `depth` deep in one another,
as the value `w`. -/
def ReadsAs (depth : Nat) (v w : Json) : Prop :=
  ∀ fuel rest, 2 * v.chars.length ≤ fuel → Follows rest →
    ∃ tree, readValue fuel (v.chars ++ rest) = (tree, rest) ∧ tree.value? depth = some w

/-- Null is read back. -/
theorem readsAs_null (depth : Nat) : ReadsAs depth .null .null := by
  intro fuel rest hfuel _
  obtain ⟨fuel, rfl⟩ := Nat.exists_eq_add_one.mpr (Nat.lt_of_lt_of_le (by decide) hfuel)
  exact ⟨.null, rfl, rfl⟩

/-- A text is read back. -/
theorem readsAs_string (depth : Nat) (s : String) : ReadsAs depth (.string s) (.string s) := by
  intro fuel rest hfuel _
  have hlength := length_add_two_le_quote s
  rw [chars_string] at hfuel ⊢
  obtain ⟨fuel, rfl⟩ := Nat.exists_eq_add_one.mpr (Nat.lt_of_lt_of_le (by omega) hfuel)
  refine ⟨.string (some s), ?_, rfl⟩
  rw [quote_append]
  exact readValue_quote (readString_quote (by omega) rest)

/-- A number that fits a word is read back. -/
theorem readsAs_ofNat (depth : Nat) {n : Nat} (hn : n ≤ maxUnsigned) :
    ReadsAs depth (.ofNat n) (.ofNat n) := by
  intro fuel rest hfuel hrest
  refine ⟨.number (.number (.int n)), ?_, rfl⟩
  rw [← readNumber_toDigits hn hrest]
  rw [chars_ofNat] at hfuel ⊢
  cases hds : Nat.toDigits 10 n with
  | nil => exact absurd hds Nat.toDigits_ne_nil
  | cons c cs =>
    have hc : c.isDigit = true := isDigit_of_mem_digits (by rw [hds]; exact List.mem_cons_self)
    rw [hds] at hfuel
    obtain ⟨fuel, rfl⟩ := Nat.exists_eq_add_one.mpr (Nat.lt_of_lt_of_le (by simp) hfuel)
    exact readValue_digit fuel hc _

/-! ### Reading objects -/

section Members

variable {fuel : Nat} {key : String} {cs : List Char} {tree : DataTree}

/-- A member in front of the closing brace. -/
theorem readMembers_last (hkey : key.toList.length < fuel)
    (hvalue : readValue fuel cs = (tree, '\x7d' :: rest)) :
    readMembers (fuel + 1) (quote key ++ ':' :: cs) = ([(some key, tree)], true, rest) := by
  rw [quote_append, readMembers, skip_cons (by decide)]
  simp [readString_quote hkey, skip_cons, isSpace, hvalue]

/-- A member in front of other ones. -/
theorem readMembers_next {more : List Char} {members : List (Option String × DataTree)}
    (hkey : key.toList.length < fuel) (hvalue : readValue fuel cs = (tree, ',' :: more))
    (hmore : readMembers fuel more = (members, true, rest)) :
    readMembers (fuel + 1) (quote key ++ ':' :: cs) =
      ((some key, tree) :: members, true, rest) := by
  rw [quote_append, readMembers, skip_cons (by decide)]
  simp [readString_quote hkey, skip_cons, isSpace, hvalue, hmore]

end Members

/-- The members of an object are read back in their order. -/
theorem readMembers_memberChars {depth : Nat} {members : List (String × Json)} (hne : members ≠ [])
    (h : ∀ m ∈ members, ReadsAs depth m.2 m.2) (rest : List Char) {fuel : Nat}
    (hfuel : 2 * (withCommas (memberChars members)).length ≤ fuel) :
    ∃ trees, readMembers fuel (withCommas (memberChars members) ++ '\x7d' :: rest) =
        (trees, true, rest) ∧ DataTree.members? depth trees = some members := by
  induction members generalizing fuel with
  | nil => exact absurd rfl hne
  | cons m members ih =>
    obtain ⟨hm, hmembers⟩ := List.forall_mem_cons.mp h
    have hkey := length_add_two_le_quote m.1
    cases members with
    | nil =>
      rw [withCommas_memberChars_singleton, List.length_append, List.length_cons] at hfuel
      obtain ⟨fuel, rfl⟩ := Nat.exists_eq_add_one.mpr (Nat.lt_of_lt_of_le (by omega) hfuel)
      obtain ⟨tree, hread, hvalue⟩ := hm fuel ('\x7d' :: rest) (by omega) (by simp [Follows])
      refine ⟨[(some m.1, tree)], ?_, by simp [DataTree.members?, hvalue]⟩
      rw [withCommas_memberChars_singleton, List.append_assoc, List.cons_append]
      exact readMembers_last (by omega) hread
    | cons m' members =>
      rw [withCommas_memberChars_cons] at hfuel ⊢
      simp only [List.length_append, List.length_cons] at hfuel
      obtain ⟨fuel, rfl⟩ := Nat.exists_eq_add_one.mpr (Nat.lt_of_lt_of_le (by omega) hfuel)
      have hshorter : 2 * (withCommas (memberChars (m' :: members))).length ≤ fuel := by omega
      obtain ⟨trees, hmore, hvalues⟩ := ih (by simp) hmembers hshorter
      obtain ⟨tree, hread, hvalue⟩ := hm fuel
        (',' :: (withCommas (memberChars (m' :: members)) ++ '\x7d' :: rest)) (by omega)
        (by simp [Follows])
      refine ⟨(some m.1, tree) :: trees, ?_, by simp [DataTree.members?, hvalue, hvalues]⟩
      simp only [List.append_assoc, List.cons_append]
      exact readMembers_next (by omega) hread hmore

/-- An object is read back with its members in order if their values are read back. -/
theorem readsAs_object {depth : Nat} {members : List (String × Json)}
    (h : ∀ m ∈ members, ReadsAs depth m.2 m.2) :
    ReadsAs (depth + 1) (.object members) (.ofMembers members) := by
  intro fuel rest hfuel _
  rw [chars_object, List.length_cons, List.length_append, List.length_singleton] at hfuel
  obtain ⟨fuel, rfl⟩ := Nat.exists_eq_add_one.mpr (Nat.lt_of_lt_of_le (by omega) hfuel)
  rw [chars_object, List.cons_append, List.append_assoc, List.singleton_append]
  cases members with
  | nil => exact ⟨.object [] true, rfl, rfl⟩
  | cons m members =>
    have hinner : 2 * (withCommas (memberChars (m :: members))).length ≤ fuel := by omega
    obtain ⟨trees, hread, hvalues⟩ :=
      readMembers_memberChars (List.cons_ne_nil m members) h rest hinner
    refine ⟨.object trees true, ?_, by simp [DataTree.value?, hvalues]⟩
    obtain ⟨cs, hcs⟩ := exists_withCommas_memberChars m members
    rw [hcs, List.cons_append] at hread ⊢
    exact readValue_brace hread

/-- A text that is written for a value holds what the value is read as, and nothing else. -/
theorem parse?_toText {v w : Json} (h : ReadsAs maxDepth v w) : parse? v.toText = some w := by
  obtain ⟨tree, hread, hvalue⟩ := h (2 * v.chars.length + 2) [] (by omega) (by simp [Follows])
  rw [List.append_nil] at hread
  rw [parse?, read, toText, String.toList_ofList, hread]
  exact hvalue

end JsonReader

end CodeFold
