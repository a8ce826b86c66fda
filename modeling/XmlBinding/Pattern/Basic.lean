import XmlBinding.Pattern.Error
import XmlBinding.Text.Blank
import XmlBinding.Text.LetterCase

/-!
This module contains regular expressions: tests of one character, anchors and the ways to combine them. The
widths that a pattern can have are computed here too.
-/

namespace XmlBinding.Pattern

open Text

/-- Whether case counts, and whether letters and digits outside ASCII do. -/
structure Dialect where
  ignoreCase : Bool
  ascii : Bool
  deriving DecidableEq

inductive Category
  | digit
  | space
  | word
  deriving DecidableEq

inductive SetItem
  | code (n : Nat)
  | range (first last : Nat)
  | category (kind : Category) (negated : Bool)
  deriving DecidableEq

structure CharTest where
  items : List SetItem
  negated : Bool
  dialect : Dialect
  deriving DecidableEq

inductive Anchor
  | start
  | lineStart
  | stop
  | beforeLastBreak
  | lineEnd
  | boundary (ascii negated : Bool)
  deriving DecidableEq

inductive Node
  | empty
  | char (test : CharTest)
  | anchor (anchor : Anchor)
  | seq (first second : Node)
  | alt (first second : Node)
  | repeated (greed : Greed) (least : Nat) (most? : Option Nat) (body : Node)
  /-- A group without an index only groups. -/
  | group (index? : Option Nat) (body : Node)
  | atomic (body : Node)
  | again (index : Nat) (dialect : Dialect)
  | ahead (negated : Bool) (body : Node)
  /-- Looks back by `width`; the bounds of the body's width are kept to tell whether they differ. -/
  | behind (negated : Bool) (width widest : Nat) (body : Node)
  | ifGroup (index : Nat) (yes no : Node)
  deriving DecidableEq

def Category.holds (kind : Category) (ascii : Bool) (c : Char) : Bool :=
  (!ascii || isAscii c) &&
    match kind with
    | .digit => isDecimal c
    | .space => if ascii then c == ' ' || (0x09 ≤ c.toNat && c.toNat ≤ 0x0D) else isBlank c
    | .word => isWord c

/-- The lower case of a code; codes that are no character have none. -/
def Dialect.fold (d : Dialect) (c : Char) : Char :=
  if d.ignoreCase then
    if d.ascii then c.toLower else foldChar c
  else
    c

/-- The characters that count as the same as the folded character `c`, `c` among them. -/
def Dialect.variants (d : Dialect) (c : Char) : List Char :=
  if d.ignoreCase then
    if d.ascii then
      [c, c.toUpper]
    else
      (c :: siblings c).flatMap preimages
  else
    [c]

def SetItem.holds (d : Dialect) (c : Char) : SetItem → Bool
  | .code n => (d.variants c).any (·.toNat == n)
  | .range first last => (d.variants c).any fun v => first ≤ v.toNat && v.toNat ≤ last
  | .category kind negated => kind.holds d.ascii c != negated

def CharTest.holds (t : CharTest) (c : Char) : Bool :=
  t.items.any (SetItem.holds t.dialect (t.dialect.fold c)) != t.negated

/-- Width bounds from this one on count as unbounded. -/
def widthLimit : Nat := Nat.pow 2 64

def addWidths (a b : Nat × Nat) : Nat × Nat :=
  (min (a.1 + b.1) widthLimit, min (a.2 + b.2) widthLimit)

/-- The least and the greatest width of what a node matches; `groups` has the widths of the groups. -/
def Node.width (groups : List (Option (Nat × Nat))) : Node → Nat × Nat
  | .empty | .anchor _ | .ahead _ _ | .behind _ _ _ _ => (0, 0)
  | .char _ => (1, 1)
  | .seq a b => addWidths (a.width groups) (b.width groups)
  | .alt a b =>
    let (least, most) := a.width groups
    let (least', most') := b.width groups
    (min least least', max most most')
  | .repeated _ least most? body =>
    let (a, b) := body.width groups
    let most := match most? with
      | some n => b * n
      | none => if b == 0 then 0 else widthLimit
    (min (a * least) widthLimit, min most widthLimit)
  | .group _ body | .atomic body => body.width groups
  | .again index _ => ((groups[index - 1]?).join).getD (0, 0)
  | .ifGroup _ yes no =>
    let (least, most) := yes.width groups
    let (least', most') := no.width groups
    (min least least', max most most')

/-- What is wrong with a pattern that is well formed: a look-behind without a fixed width, or a repetition
where `plainOnly` forbids it. -/
def Node.flaw? (plainOnly : Bool) : Node → Option Cause
  | .empty | .anchor _ | .char _ | .again _ _ => none
  | .seq a b | .alt a b | .ifGroup _ a b => (a.flaw? plainOnly).orElse fun _ => b.flaw? plainOnly
  | .repeated greed _ _ body => if plainOnly then some (.templateOperator greed) else body.flaw? plainOnly
  | .group _ body | .atomic body | .ahead _ body => body.flaw? plainOnly
  | .behind _ width widest body =>
    if Nat.pow 2 32 ≤ width then some .tooFarBehind
    else if width != widest then some .variableWidthBehind
    else body.flaw? plainOnly

end XmlBinding.Pattern
