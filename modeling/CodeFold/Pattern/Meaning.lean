import CodeFold.Pattern.Expr
import CodeFold.Pattern.Tree
import CodeFold.Unicode.CaseFolding

/-!
# The meaning of a pattern tree

Flags hold from where they are switched to the end of the group, and across its branches. Where
Unicode is switched off, classes hold ASCII characters only, because text is never matched in
parts of a character; what would need more is refused.
-/

namespace CodeFold.Pattern

/-- The state of every flag that matters after reading. -/
structure Flags where
  ignoreCase : Bool := false
  multiLine : Bool := false
  dotAll : Bool := false
  swapGreed : Bool := false
  unicode : Bool := true
  crlf : Bool := false

namespace Flags

/-- The alphabet of classes. -/
def alphabet (f : Flags) : Alphabet := if f.unicode then .unicode else .ascii

/-- The state after some switches. -/
def switch (f : Flags) (changes : FlagChanges) : Flags where
  ignoreCase := (changes.state? .ignoreCase).getD f.ignoreCase
  multiLine := (changes.state? .multiLine).getD f.multiLine
  dotAll := (changes.state? .dotAll).getD f.dotAll
  swapGreed := (changes.state? .swapGreed).getD f.swapGreed
  unicode := (changes.state? .unicode).getD f.unicode
  crlf := (changes.state? .crlf).getD f.crlf

/-- A set with the other cases of its members, if case is ignored. -/
def fold (f : Flags) (s : CharSet) : CharSet :=
  if !f.ignoreCase then s
  else if f.unicode then Unicode.closeUnderCase s
  else Unicode.closeUnderAsciiCase s

end Flags

/-- The characters of an ASCII class. -/
def AsciiClass.set : AsciiClass → CharSet
  | alnum => .ofRanges [⟨0x30, 0x39⟩, ⟨0x41, 0x5A⟩, ⟨0x61, 0x7A⟩]
  | alpha => .ofRanges [⟨0x41, 0x5A⟩, ⟨0x61, 0x7A⟩]
  | ascii => .ascii
  | blank => .ofRanges [⟨0x09, 0x09⟩, ⟨0x20, 0x20⟩]
  | cntrl => .ofRanges [⟨0x00, 0x1F⟩, ⟨0x7F, 0x7F⟩]
  | digit => .ofRanges [⟨0x30, 0x39⟩]
  | graph => .ofRanges [⟨0x21, 0x7E⟩]
  | lower => .ofRanges [⟨0x61, 0x7A⟩]
  | print => .ofRanges [⟨0x20, 0x7E⟩]
  | punct => .ofRanges [⟨0x21, 0x2F⟩, ⟨0x3A, 0x40⟩, ⟨0x5B, 0x60⟩, ⟨0x7B, 0x7E⟩]
  | space => .ofRanges [⟨0x09, 0x0D⟩, ⟨0x20, 0x20⟩]
  | upper => .ofRanges [⟨0x41, 0x5A⟩]
  | word => .ofRanges [⟨0x30, 0x39⟩, ⟨0x41, 0x5A⟩, ⟨0x5F, 0x5F⟩, ⟨0x61, 0x7A⟩]
  | xdigit => .ofRanges [⟨0x30, 0x39⟩, ⟨0x41, 0x46⟩, ⟨0x61, 0x66⟩]

/-- The characters of a shorthand class, in Unicode or in ASCII. -/
def Shorthand.set (unicode : Bool) : Shorthand → CharSet
  | digit => if unicode then Unicode.digitSet else AsciiClass.digit.set
  | space => if unicode then Unicode.spaceSet else AsciiClass.space.set
  | word => if unicode then Unicode.wordSet else AsciiClass.word.set

/-- The complement of a set if it is negated. Without Unicode a complement would hold parts of
characters. -/
def negateIf (f : Flags) (negated : Bool) (s : CharSet) : Except PatternError CharSet :=
  if !negated then .ok s
  else if f.unicode then .ok s.compl
  else .error .notText

/-- The characters that a property query asks for. -/
def PropertyQuery.set (f : Flags) (negated : Bool) (q : PropertyQuery) :
    Except PatternError CharSet :=
  if !f.unicode then .error .unicodeNotAllowed
  else
    let found :=
      match q with
      | named name => Unicode.named? name
      | valued property value => Unicode.valued? property value
    match found with
    | none => .error .unknownProperty
    | some s => negateIf f negated (f.fold s)

/-- A character of a class. Without Unicode only ASCII ones are known. -/
def classChar (f : Flags) (c : Char) : Except PatternError Nat :=
  if f.unicode || c.toNat < 0x80 then .ok c.toNat else .error .unicodeNotAllowed

/-- The characters of a class. Every pair of brackets adds other cases first and is negated then,
and so do the operands of an operation. -/
def ClassTree.set (f : Flags) : ClassTree → Except PatternError CharSet
  | empty => .ok .empty
  | char c => do
    let n ← classChar f c
    return ⟨[⟨n, n⟩]⟩
  | range lo hi => do return ⟨[⟨← classChar f lo, ← classChar f hi⟩]⟩
  | ascii negated kind => negateIf f negated (f.fold kind.set)
  | shorthand negated kind => negateIf f negated (kind.set f.unicode)
  | property negated query => query.set f negated
  | bracket negated inner => do negateIf f negated (f.fold (← inner.set f))
  | union a b => do return (← a.set f).union (← b.set f)
  | op kind a b => do
    let s := f.fold (← a.set f)
    let t := f.fold (← b.set f)
    return match kind with
      | .inter => s.inter t
      | .diff => s.diff t
      | .symmDiff => s.symmDiff t

/-- What an assertion asks for under some flags. -/
def Anchor.look (f : Flags) : Anchor → Look
  | lineStart => if f.multiLine then .lineStart f.crlf else .textStart
  | lineEnd => if f.multiLine then .lineEnd f.crlf else .textEnd
  | textStart => .textStart
  | textEnd => .textEnd
  | wordBoundary => .word .boundary f.unicode
  | notWordBoundary => .word .interior f.unicode
  | wordStart => .word .start f.unicode
  | wordEnd => .word .stop f.unicode
  | wordStartHalf => .word .startHalf f.unicode
  | wordEndHalf => .word .stopHalf f.unicode

/-- The characters that a dot stands for. -/
def dotSet (f : Flags) : CharSet :=
  if f.dotAll then .any
  else if f.crlf then (CharSet.ofRanges [⟨0x0A, 0x0A⟩, ⟨0x0D, 0x0D⟩]).compl
  else (CharSet.ofRanges [⟨0x0A, 0x0A⟩]).compl

namespace Tree

mutual

/-- The meaning of a tree under some flags, and the flags after it. -/
def meaning : Tree → Flags → Except PatternError (Expr × Flags)
  | empty, f => .ok (.empty, f)
  | directive changes, f => .ok (.empty, f.switch changes)
  | char c byte, f =>
    if byte && !f.unicode && 0x80 ≤ c.toNat then .error .notText
    else if f.unicode || c.toNat < 0x80 then .ok (.ofClass f.alphabet (f.fold (.single c)), f)
    else .ok (.ofSet (.single c), f)
  | dot, f => if f.unicode then .ok (.ofSet (dotSet f), f) else .error .notText
  | anchor kind, f => .ok (.look (kind.look f), f)
  | shorthand negated kind, f => do
    return (.ofClass f.alphabet (← negateIf f negated (kind.set f.unicode)), f)
  | property negated query, f => do return (.ofClass f.alphabet (← query.set f negated), f)
  | bracket negated inner, f => do
    return (.ofClass f.alphabet (← (ClassTree.bracket negated inner).set f), f)
  | loop body least most greedy, f => do
    let (e, f) ← body.meaning f
    return (.repetition e least most (greedy != f.swapGreed), f)
  | group (.plain changes) body, f => do
    let (e, _) ← body.meaning (f.switch changes)
    return (e, f)
  | group (.capture index name) body, f => do
    let (e, _) ← body.meaning f
    return (.group index name e, f)
  | cat items, f => do
    let (es, f) ← meanings items f
    return (.concat es, f)
  | alt branches, f => do
    let (es, f) ← meanings branches f
    return (.alternation es, f)

/-- The meanings of trees that stand one after the other. -/
def meanings : List Tree → Flags → Except PatternError (List Expr × Flags)
  | [], f => .ok ([], f)
  | t :: ts, f => do
    let (e, f) ← t.meaning f
    let (es, f) ← meanings ts f
    return (e :: es, f)

end

end Tree

end CodeFold.Pattern
