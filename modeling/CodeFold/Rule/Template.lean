import CodeFold.Pattern.Basic
import CodeFold.Text.Quoted

/-!
# Closing templates

A closing pattern can refer to what the opening match captured, by number or by name. Such a pattern
is kept as a template; every open region puts its own captures in, escaped, and compiles the result.
Specification: §10.
-/

namespace CodeFold

/-- A reference to a group of the opening pattern (§10). -/
inductive GroupRef where
  | index (n : Nat)
  | name (name : String)
deriving DecidableEq, Repr

namespace GroupRef

/-- How a reference is shown in messages. -/
def describe : GroupRef → String
  | index n => "Index(" ++ toString n ++ ")"
  | name s => "Name(" ++ Text.quoted s ++ ")"

/-- The number of the group that is referred to. -/
def resolve? (opening : Pattern) : GroupRef → Option Nat
  | index n => some n
  | name s => opening.groupIndex? s

/-- Whether the opening pattern has the group. -/
def isKnown (opening : Pattern) : GroupRef → Bool
  | index n => n < opening.groupNames.length
  | name s => (opening.groupIndex? s).isSome

end GroupRef

/-- A part of a template: text of the pattern, or a reference. -/
inductive Segment where
  | source (text : List Char)
  | group (ref : GroupRef)
deriving DecidableEq, Repr

/-- A closing pattern with references (§10). -/
structure Template where
  source : String
  segments : List Segment
deriving DecidableEq, Repr

namespace Template

/-- The name in front of a closing angle bracket, and what follows it. -/
def groupName? (cs : List Char) : Option (List Char × List Char) :=
  match cs.span (· != '>') with
  | (name, '>' :: rest) => if name.isEmpty then none else some (name, rest)
  | _ => none

/-- The reference that follows a backslash, and what follows it. -/
def reference? : List Char → Option (GroupRef × List Char)
  | 'k' :: '<' :: cs => (groupName? cs).map fun (name, rest) => (.name (String.ofList name), rest)
  | c :: cs => if '1' ≤ c && c ≤ '9' then some (.index (c.toNat - 48), cs) else none
  | [] => none

/-- The text gathered so far, in reverse, as a segment. -/
def flush (acc : List Char) (segments : List Segment) : List Segment :=
  if acc.isEmpty then segments else .source acc.reverse :: segments

/-- Splits a pattern into segments. A backslash and the character after it are read together, so
that an escaped backslash starts no reference. -/
def segmentsFrom : Nat → List Char → List Char → List Segment
  | 0, acc, cs => flush (cs.reverse ++ acc) []
  | fuel + 1, acc, cs =>
    match cs with
    | [] => flush acc []
    | '\\' :: rest =>
      match reference? rest with
      | some (ref, rest) => flush acc (.group ref :: segmentsFrom fuel [] rest)
      | none =>
        match rest with
        | [] => flush ('\\' :: acc) []
        | c :: rest => segmentsFrom fuel (c :: '\\' :: acc) rest
    | c :: rest => segmentsFrom fuel (c :: acc) rest

/-- Whether a segment is a reference. -/
def isGroup : Segment → Bool
  | .group _ => true
  | .source _ => false

/-- The template of a pattern; a pattern without references is none. -/
def parse? (pattern : String) : Option Template :=
  let cs := pattern.toList
  let segments := segmentsFrom (cs.length + 1) [] cs
  if segments.any isGroup then some ⟨pattern, segments⟩ else none

/-- The references in their order. -/
def groups (t : Template) : List GroupRef :=
  t.segments.filterMap fun
    | .group ref => some ref
    | .source _ => none

/-- The text that a reference stands for; a group that is unknown or took no part is empty. -/
def captured (opening : Pattern) (captures : List (Option String)) (ref : GroupRef) : List Char :=
  match (ref.resolve? opening).bind (captures[·]?) with
  | some (some text) => Pattern.escapeChars text.toList
  | _ => []

/-- The source of the closing pattern for some captures. -/
def resolvedSource (t : Template) (opening : Pattern) (captures : List (Option String)) : String :=
  String.ofList (t.segments.flatMap fun
    | .source text => text
    | .group ref => captured opening captures ref)

/-- The closing pattern for some captures (§10). -/
def resolve (t : Template) (opening : Pattern) (captures : List (Option String)) :
    Except PatternError Pattern :=
  Pattern.compile (t.resolvedSource opening captures)

end Template

end CodeFold
