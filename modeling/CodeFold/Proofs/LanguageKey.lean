import CodeFold.Language
import Mathlib.Data.List.DropRight

/-!
# Normal forms of language keys

A text in lower case stays as it is if it is put into lower case again, and trimming has nothing
left to do after trimming. Brackets are different: one pair is dropped each time. So the key of a
language names that language again unless it still stands in brackets, and that happens to a key
that was written in two pairs of them.
Specification: §10.
-/

namespace CodeFold

/-! ### Lower case -/

namespace Unicode

/-- A character that lower case leaves alone wherever it stands. -/
def Settled (c : Char) : Prop := lowercaseChar c = [c] ∧ c ≠ 'Σ'

/-- Whether a run maps none of the codes `a`, `a + step`, … up to `b`. -/
def CaseRun.spares (a b step : Nat) (r : CaseRun) : Bool :=
  Nat.blt b r.lo || Nat.blt r.hi a ||
    ((a == b || step % r.step == 0) && a % r.step != r.lo % r.step)

/-- The codes of brackets and of the letter that becomes two characters, as runs. -/
def otherRuns : List CaseRun := [⟨0x5B, 0x5D, 2, 0⟩, ⟨0x130, 0x130, 1, 0⟩]

/-- Whether the forms that a run leads to are characters, none of them mapped further or one of the
others. -/
def CaseRun.settles (r : CaseRun) : Bool :=
  let a := (r.lo + r.shift).toNat
  let b := (r.hi + r.shift).toNat
  decide (0 ≤ r.lo + r.shift) && (Nat.blt b 0xD800 || (Nat.blt 0xDFFF a && Nat.blt b 0x110000)) &&
    otherRuns.all (·.spares a b r.step) && lowercaseRuns.all (·.spares a b r.step)

private theorem settles_of_mem {r : CaseRun} (h : r ∈ lowercaseRuns) : r.settles = true := by
  have hall : lowercaseRuns.all CaseRun.settles = true := by decide +kernel
  exact List.all_eq_true.mp hall r h

/-- A run maps the codes that lie a multiple of its step above its first one. -/
def CaseRun.Maps (r : CaseRun) (code : Nat) : Prop :=
  r.lo ≤ code ∧ code ≤ r.hi ∧ (code - r.lo) % r.step = 0

private theorem maps_of_lowercaseRun? {code : Nat} {r : CaseRun} {runs : List CaseRun}
    (h : lowercaseRun? code runs = some r) : r ∈ runs ∧ r.Maps code := by
  induction runs with
  | nil => cases h
  | cons q runs ih =>
    rw [lowercaseRun?] at h
    split at h
    · cases h
    · next hlo =>
      split at h
      · next hq =>
        cases h
        simp only [Bool.and_eq_true, decide_eq_true_iff, beq_iff_eq] at hq
        exact ⟨List.mem_cons_self, by omega, hq.1, hq.2⟩
      · exact ⟨List.mem_cons_of_mem _ (ih h).1, (ih h).2⟩

private theorem CaseRun.not_maps_of_spares {r : CaseRun} {a b step k : Nat}
    (h : r.spares a b step = true) (hb : a + k * step ≤ b) : ¬ r.Maps (a + k * step) := by
  rintro ⟨hlo, hhi, hmod⟩
  simp only [spares, Bool.or_eq_true, Nat.blt_eq, Bool.and_eq_true, beq_iff_eq, bne_iff_ne] at h
  rcases h with (hlt | hlt) | ⟨hstep, hne⟩
  · omega
  · omega
  · have hcode : (a + k * step) % r.step = a % r.step := by
      rcases hstep with rfl | hstep
      · have hk : k * step = 0 := by omega
        rw [hk, Nat.add_zero]
      · rw [Nat.add_mod, Nat.mul_mod, hstep, Nat.mul_zero, Nat.zero_mod, Nat.add_zero, Nat.mod_mod]
    apply hne
    rw [← hcode, ← Nat.sub_add_cancel hlo, Nat.add_mod, hmod, Nat.zero_add, Nat.mod_mod]

/-- What the forms that a run leads to have in common. -/
theorem form_of_mem {r : CaseRun} {code : Nat} (hr : r ∈ lowercaseRuns) (hm : r.Maps code) :
    (code + r.shift).toNat.isValidChar ∧
      ∀ q ∈ otherRuns ++ lowercaseRuns, ¬ q.Maps (code + r.shift).toNat := by
  have hs := settles_of_mem hr
  simp only [CaseRun.settles, Bool.and_eq_true, decide_eq_true_iff, Bool.or_eq_true, Nat.blt_eq,
    List.all_eq_true] at hs
  obtain ⟨⟨⟨hpos, hvalid⟩, hother⟩, hruns⟩ := hs
  obtain ⟨hlo, hhi, hmod⟩ := hm
  have hcode : code = r.lo + (code - r.lo) / r.step * r.step := by
    have := Nat.div_add_mod' (code - r.lo) r.step
    omega
  have himage : (code + r.shift).toNat =
      (r.lo + r.shift).toNat + (code - r.lo) / r.step * r.step := by omega
  have hle : (code + r.shift).toNat ≤ (r.hi + r.shift).toNat := by omega
  refine ⟨?_, ?_⟩
  · simp only [Nat.isValidChar]
    omega
  · intro q hq
    rw [himage] at hle ⊢
    rcases List.mem_append.mp hq with hq | hq
    · exact CaseRun.not_maps_of_spares (hother q hq) hle
    · exact CaseRun.not_maps_of_spares (hruns q hq) hle

private theorem settled_of_not_maps {c : Char}
    (h : ∀ q ∈ otherRuns ++ lowercaseRuns, ¬ q.Maps c.toNat) : Settled c := by
  have hnone : lowercaseRun? c.toNat lowercaseRuns = none := by
    cases hr : lowercaseRun? c.toNat lowercaseRuns with
    | none => rfl
    | some r =>
      obtain ⟨hmem, hm⟩ := maps_of_lowercaseRun? hr
      exact absurd hm (h r (List.mem_append_right _ hmem))
  have hupper : ¬ (0x41 ≤ c.toNat ∧ c.toNat ≤ 0x5A) := fun hc =>
    h ⟨0x41, 0x5A, 1, 32⟩ (List.mem_append_right _ (.head _)) ⟨hc.1, hc.2, Nat.mod_one _⟩
  have hlong : c.toNat ≠ 0x130 := fun hc =>
    h ⟨0x130, 0x130, 1, 0⟩ (.tail _ (.head _)) ⟨hc.ge, hc.le, Nat.mod_one _⟩
  refine ⟨?_, ?_⟩
  · have hlower : c.toLower = c := by
      unfold Char.toLower
      rw [dif_neg]
      intro hc
      exact hupper ⟨UInt32.le_iff_toNat_le.mp hc.1, UInt32.le_iff_toNat_le.mp hc.2⟩
    rw [lowercaseChar, hlower, if_neg hlong, hnone]
    split <;> rfl
  · rintro rfl
    have : lowercaseRun? 'Σ'.toNat lowercaseRuns ≠ none := by decide +kernel
    exact this hnone

/-- Whether a character is a bracket. -/
def isBracket (c : Char) : Bool := c = '[' || c = ']'

private theorem not_isBracket_of_not_maps {c : Char}
    (h : ∀ q ∈ otherRuns ++ lowercaseRuns, ¬ q.Maps c.toNat) : isBracket c = false := by
  have hb : ¬ CaseRun.Maps ⟨0x5B, 0x5D, 2, 0⟩ c.toNat := h _ (.head _)
  cases hc : isBracket c with
  | false => rfl
  | true =>
    simp only [isBracket, Bool.or_eq_true, decide_eq_true_iff] at hc
    rcases hc with rfl | rfl <;> exact absurd ⟨by decide, by decide, by decide⟩ hb

/-- What stands for a character in a text in lower case: characters that are settled, and a bracket
only for itself. -/
structure Forms (c : Char) (piece : List Char) : Prop where
  ne_nil : piece ≠ []
  settled : ∀ d ∈ piece, Settled d
  of_bracket : ∀ d ∈ piece, isBracket d = true → d = c
  bracket : isBracket c = true → piece = [c]

private theorem Forms.single {c d : Char} (hd : Settled d) (hb : isBracket d = true → d = c)
    (hc : isBracket c = true → d = c) : Forms c [d] where
  ne_nil := List.cons_ne_nil _ _
  settled := by simpa using hd
  of_bracket := by simpa using hb
  bracket := fun h => by rw [hc h]

private theorem Forms.self {c : Char} (hc : Settled c) : Forms c [c] :=
  .single hc (fun _ => rfl) (fun _ => rfl)

private theorem forms_of_ascii {c : Char} (h : c.toNat < 0x80) : Forms c [c.toLower] := by
  have hall : ∀ n < 0x80, ((Char.ofNat n).toLower.toNat < 0x80 ∧
      (Char.ofNat n).toLower.toLower = (Char.ofNat n).toLower) ∧
      (isBracket (Char.ofNat n).toLower = true ∨ isBracket (Char.ofNat n) = true →
        (Char.ofNat n).toLower = Char.ofNat n) := by decide +kernel
  obtain ⟨⟨hlt, hlower⟩, hb⟩ := hall c.toNat h
  rw [Char.ofNat_toNat] at hlt hlower hb
  refine .single ⟨?_, ?_⟩ (fun hd => hb (.inl hd)) (fun hc => hb (.inr hc))
  · rw [lowercaseChar, if_pos hlt, hlower]
  · intro hsigma
    rw [hsigma] at hlt
    exact absurd hlt (by decide)

private theorem forms_of_run {c : Char} {r : CaseRun}
    (h : lowercaseRun? c.toNat lowercaseRuns = some r) :
    Forms c [Char.ofNat (c.toNat + r.shift).toNat] := by
  obtain ⟨hr, hm⟩ := maps_of_lowercaseRun? h
  obtain ⟨hvalid, hnot⟩ := form_of_mem hr hm
  have hcode : (Char.ofNat (c.toNat + r.shift).toNat).toNat = (c.toNat + r.shift).toNat := by
    rw [Char.ofNat, dif_pos hvalid]
    rfl
  rw [← hcode] at hnot
  have hd := not_isBracket_of_not_maps hnot
  have hc : isBracket c = false := by
    cases hb : isBracket c with
    | false => rfl
    | true =>
      simp only [isBracket, Bool.or_eq_true, decide_eq_true_iff] at hb
      have hnone : lowercaseRun? '['.toNat lowercaseRuns = none ∧
          lowercaseRun? ']'.toNat lowercaseRuns = none := by decide +kernel
      rcases hb with rfl | rfl
      · exact absurd (hnone.1.symm.trans h) (Option.some_ne_none r).symm
      · exact absurd (hnone.2.symm.trans h) (Option.some_ne_none r).symm
  exact .single (settled_of_not_maps hnot) (by simp [hd]) (by simp [hc])

private theorem forms_lowercaseChar {c : Char} (h : c ≠ 'Σ') : Forms c (lowercaseChar c) := by
  by_cases hascii : c.toNat < 0x80
  · rw [lowercaseChar, if_pos hascii]
    exact forms_of_ascii hascii
  by_cases hlong : c.toNat = 0x130
  · have hi : Settled 'i' := ⟨by decide +kernel, by decide⟩
    have hdot : Settled (Char.ofNat 0x307) := ⟨by decide +kernel, by decide⟩
    have hc : c = Char.ofNat 0x130 := by rw [← hlong, Char.ofNat_toNat]
    rw [lowercaseChar, if_neg hascii, if_pos hlong]
    refine ⟨List.cons_ne_nil _ _, ?_, ?_, ?_⟩
    · simpa using ⟨hi, hdot⟩
    · simp [isBracket]
    · rw [hc]
      decide
  cases hr : lowercaseRun? c.toNat lowercaseRuns with
  | some r =>
    rw [lowercaseChar, if_neg hascii, if_neg hlong, hr]
    exact forms_of_run hr
  | none =>
    have hself : lowercaseChar c = [c] := by rw [lowercaseChar, if_neg hascii, if_neg hlong, hr]
    rw [hself]
    exact .self ⟨hself, h⟩

/-- A text in lower case holds the forms of its characters one after the other. -/
theorem lowercaseFrom_cons (before : List Char) (c : Char) (cs : List Char) :
    ∃ piece, Forms c piece ∧
      lowercaseFrom before (c :: cs) = piece ++ lowercaseFrom (c :: before) cs := by
  rw [lowercaseFrom]
  by_cases hc : c = 'Σ'
  · refine ⟨_, ?_, rfl⟩
    subst hc
    have hfinal : Settled 'ς' := ⟨by decide +kernel, by decide⟩
    have hinner : Settled 'σ' := ⟨by decide +kernel, by decide⟩
    rw [if_pos rfl]
    split
    · exact .single hfinal (by decide) (by decide)
    · exact .single hinner (by decide) (by decide)
  · exact ⟨_, by rw [if_neg hc]; exact forms_lowercaseChar hc, rfl⟩

private theorem settled_of_mem_lowercaseFrom {before cs : List Char} {d : Char}
    (h : d ∈ lowercaseFrom before cs) : Settled d := by
  induction cs generalizing before with
  | nil => cases h
  | cons c cs ih =>
    obtain ⟨piece, hp, heq⟩ := lowercaseFrom_cons before c cs
    rw [heq] at h
    rcases List.mem_append.mp h with h | h
    · exact hp.settled d h
    · exact ih h

/-- Nothing is left to do in a text of settled characters. -/
theorem lowercaseFrom_of_settled {cs : List Char} (h : ∀ c ∈ cs, Settled c) (before : List Char) :
    lowercaseFrom before cs = cs := by
  induction cs generalizing before with
  | nil => rfl
  | cons c cs ih =>
    obtain ⟨hc, hcs⟩ := List.forall_mem_cons.mp h
    rw [lowercaseFrom, if_neg hc.2, hc.1, ih hcs, List.singleton_append]

private theorem head?_lowercaseFrom {b : Char} (hb : isBracket b = true) (before cs : List Char) :
    (lowercaseFrom before cs).head? = some b ↔ cs.head? = some b := by
  cases cs with
  | nil => rfl
  | cons c cs =>
    obtain ⟨piece, hp, heq⟩ := lowercaseFrom_cons before c cs
    rw [heq, List.head?_append_of_ne_nil _ hp.ne_nil, List.head?_cons, Option.some.injEq]
    constructor
    · intro h
      exact (hp.of_bracket b (List.mem_of_head? h) hb).symm
    · rintro rfl
      rw [hp.bracket hb, List.head?_cons]

private theorem getLast?_lowercaseFrom {b : Char} (hb : isBracket b = true)
    (before cs : List Char) :
    (lowercaseFrom before cs).getLast? = some b ↔ cs.getLast? = some b := by
  induction cs generalizing before with
  | nil => rfl
  | cons c cs ih =>
    obtain ⟨piece, hp, heq⟩ := lowercaseFrom_cons before c cs
    rw [heq]
    cases cs with
    | nil =>
      rw [lowercaseFrom, List.append_nil, List.getLast?_singleton, Option.some.injEq]
      constructor
      · intro h
        exact (hp.of_bracket b (List.mem_of_getLast? h) hb).symm
      · rintro rfl
        rw [hp.bracket hb, List.getLast?_singleton]
    | cons d cs =>
      obtain ⟨piece', hp', heq'⟩ := lowercaseFrom_cons (c :: before) d cs
      have hne : lowercaseFrom (c :: before) (d :: cs) ≠ [] := by
        rw [heq']
        exact List.append_ne_nil_of_left_ne_nil hp'.ne_nil _
      rw [List.getLast?_append_of_ne_nil _ hne, ih, List.getLast?_cons_cons]

end Unicode

/-! ### Trimming -/

private theorem trimBlank_eq (cs : List Char) :
    trimBlank cs = (cs.dropWhile isBlank).rdropWhile isBlank := rfl

private theorem trimBlank_of_not_any {cs : List Char} (h : cs.any isBlank = false) :
    trimBlank cs = cs := by
  have hall : ∀ c ∈ cs, ¬ isBlank c = true := by simpa using h
  have hdrop : cs.dropWhile isBlank = cs :=
    List.dropWhile_eq_self_iff.mpr fun hl => hall _ (List.getElem_mem hl)
  have hrdrop : cs.rdropWhile isBlank = cs :=
    List.rdropWhile_eq_self_iff.mpr fun hl => hall _ (List.getLast_mem hl)
  rw [trimBlank_eq, hdrop, hrdrop]

/-- Trimmed text has no white space left at its ends. -/
theorem trimBlank_trimBlank (cs : List Char) : trimBlank (trimBlank cs) = trimBlank cs := by
  have hdrop : (trimBlank cs).dropWhile isBlank = trimBlank cs := by
    refine List.dropWhile_eq_self_iff.mpr fun hl => ?_
    have hpre := List.rdropWhile_prefix isBlank (cs.dropWhile isBlank)
    have hlong : 0 < (cs.dropWhile isBlank).length := Nat.lt_of_lt_of_le hl hpre.length_le
    have hself := List.dropWhile_eq_self_iff.mp (List.dropWhile_idempotent isBlank cs) hlong
    rwa [← hpre.getElem hl] at hself
  rw [trimBlank_eq, hdrop, trimBlank_eq, List.rdropWhile_idempotent]

/-! ### Keys -/

namespace Language

/-- Text in a pair of brackets. -/
def Bracketed (cs : List Char) : Prop := ∃ inner, cs = '[' :: (inner ++ [']'])

/-- Text in two pairs of brackets, white space aside. -/
def BracketedTwice (cs : List Char) : Prop :=
  ∃ inner, trimBlank cs = '[' :: (inner ++ [']']) ∧ Bracketed (trimBlank inner)

private theorem bracketed_iff (cs : List Char) :
    Bracketed cs ↔ cs.head? = some '[' ∧ cs.getLast? = some ']' := by
  constructor
  · rintro ⟨inner, rfl⟩
    exact ⟨rfl, by rw [← List.cons_append, List.getLast?_append_of_ne_nil _ (by simp)]; rfl⟩
  · rintro ⟨hhead, hlast⟩
    obtain ⟨rest, rfl⟩ := List.head?_eq_some_iff.mp hhead
    obtain ⟨init, hinit⟩ := List.getLast?_eq_some_iff.mp hlast
    cases init with
    | nil => cases hinit
    | cons c init =>
      cases hinit
      exact ⟨init, rfl⟩

private theorem dropBrackets_of_bracketed (inner : List Char) :
    dropBrackets ('[' :: (inner ++ [']'])) = inner := by
  simp [dropBrackets]

private theorem dropBrackets_of_not_bracketed {cs : List Char} (h : ¬ Bracketed cs) :
    dropBrackets cs = cs := by
  unfold dropBrackets
  split
  · next rest =>
    split
    · next inner hrev =>
      refine absurd ⟨inner.reverse, ?_⟩ h
      rw [← List.reverse_cons, ← hrev, List.reverse_reverse]
    · rfl
  · rfl

/-- Lower case keeps the brackets around a text and makes no new ones. -/
theorem bracketed_lowercase (cs : List Char) : Bracketed (Unicode.lowercase cs) ↔ Bracketed cs := by
  rw [bracketed_iff, bracketed_iff, Unicode.lowercase, Unicode.head?_lowercaseFrom (by decide),
    Unicode.getLast?_lowercaseFrom (by decide)]

/-- A normal form stands in brackets if the key was written in two pairs of them. -/
theorem bracketed_normalize (cs : List Char) : Bracketed (normalize cs) ↔ BracketedTwice cs := by
  rw [normalize, bracketed_lowercase, BracketedTwice]
  by_cases h : Bracketed (trimBlank cs)
  · obtain ⟨inner, hinner⟩ := h
    simp only [hinner, dropBrackets_of_bracketed, List.cons.injEq, List.append_cancel_right_eq,
      true_and, exists_eq_left']
  · rw [dropBrackets_of_not_bracketed h, trimBlank_trimBlank]
    exact ⟨fun hb => absurd hb h, fun ⟨inner, hinner, _⟩ => absurd ⟨inner, hinner⟩ h⟩

/-- Text as the keys of languages have it. -/
structure IsKey (cs : List Char) : Prop where
  ne_nil : cs ≠ []
  not_blank : cs.any isBlank = false
  settled : ∀ c ∈ cs, Unicode.Settled c

private theorem isKey_of_ofString? {s : String} {l : Language} (h : ofString? s = some l) :
    l.key.toList = normalize s.toList ∧ IsKey l.key.toList := by
  simp only [ofString?] at h
  split at h
  · cases h
  · next hvalid =>
    obtain rfl := Option.some.inj h
    simp only [Bool.or_eq_true, List.isEmpty_iff, not_or, Bool.not_eq_true] at hvalid
    rw [String.toList_ofList]
    exact ⟨rfl, hvalid.1, hvalid.2, fun c hc => Unicode.settled_of_mem_lowercaseFrom hc⟩

private theorem normalize_of_not_bracketed {cs : List Char} (h : IsKey cs) (hb : ¬ Bracketed cs) :
    normalize cs = cs := by
  have htrim := trimBlank_of_not_any h.not_blank
  rw [normalize, htrim, dropBrackets_of_not_bracketed hb, htrim, Unicode.lowercase,
    Unicode.lowercaseFrom_of_settled h.settled]

/-- Brackets around a key are lost. -/
theorem normalize_of_bracketed {inner : List Char} (h : IsKey ('[' :: (inner ++ [']']))) :
    normalize ('[' :: (inner ++ [']'])) = inner := by
  have hsub {c : Char} (hc : c ∈ inner) : c ∈ '[' :: (inner ++ [']']) := by simp [hc]
  have hblank : inner.any isBlank = false := by
    have := h.not_blank
    simp only [List.any_eq_false] at this ⊢
    exact fun c hc => this c (hsub hc)
  rw [normalize, trimBlank_of_not_any h.not_blank, dropBrackets_of_bracketed,
    trimBlank_of_not_any hblank, Unicode.lowercase,
    Unicode.lowercaseFrom_of_settled fun c hc => h.settled c (hsub hc)]

/-- The key of a language names that language again, unless it stands in brackets. This is so if the
key was written in two pairs of them. -/
theorem ofString_key_iff {s : String} {l : Language} (h : ofString? s = some l) :
    (ofString? l.key = some l ↔ ¬ Bracketed l.key.toList) ∧
      (Bracketed l.key.toList ↔ BracketedTwice s.toList) := by
  obtain ⟨hkey, hl⟩ := isKey_of_ofString? h
  refine ⟨⟨?_, ?_⟩, ?_⟩
  · intro hagain hb
    obtain ⟨inner, hinner⟩ := hb
    have hsame := (isKey_of_ofString? hagain).1
    rw [hinner] at hl hsame
    rw [normalize_of_bracketed hl] at hsame
    have hlength := congrArg List.length hsame
    simp only [List.length_cons, List.length_append, List.length_nil] at hlength
    omega
  · intro hb
    simp only [ofString?, normalize_of_not_bracketed hl hb, hl.not_blank, Bool.or_false,
      List.isEmpty_iff, hl.ne_nil, if_false, String.ofList_toList]
  · rw [hkey, bracketed_normalize]

/-- A key in capitals and brackets, with white space on both sides of each. -/
theorem ofString_key_of_capitals :
    ofString? " [ RUST ] " = some ⟨"rust"⟩ ∧ ofString? "rust" = some ⟨"rust"⟩ := by
  have h : ofString? " [ RUST ] " = some ⟨"rust"⟩ := by decide +kernel
  refine ⟨h, (ofString_key_iff h).1.mpr ?_⟩
  rw [bracketed_iff]
  decide

/-- Of two pairs of brackets one is left, so the key names another language than it was read for. -/
theorem ofString_key_lost :
    ofString? "[[rust]]" = some ⟨"[rust]"⟩ ∧ ofString? "[rust]" = some ⟨"rust"⟩ ∧
      ofString? "[[]]" = some ⟨"[]"⟩ ∧ ofString? "[]" = none ∧
      ¬ ∀ (s : String) (l : Language), ofString? s = some l → ofString? l.key = some l := by
  have hread : ofString? "[[rust]]" = some ⟨"[rust]"⟩ := by decide +kernel
  have hagain : ofString? "[rust]" = some ⟨"rust"⟩ := by decide +kernel
  refine ⟨hread, hagain, by decide +kernel, by decide +kernel, fun h => ?_⟩
  have hsame := h _ _ hread
  rw [hagain] at hsame
  exact absurd hsame (by decide)

end Language

end CodeFold
