import AnchorOutline.Regex.Pattern
import AnchorOutline.Regex.Syntax
import AnchorOutline.Regex.Fault
import AnchorOutline.Unicode.Folding
import AnchorOutline.Unicode.Lookup

/-!
# From the written pattern to what it matches

Flags are read in the order of the text: a flag list changes the rest of its group, branches
included, and the flags of a group end with it. Classes become sets of characters. With the
`u` flag cleared a class is a set of bytes, and one that holds more than ASCII is refused, because
it could match a part of a character.

* `Flags` : the flags in force;
* `ClassTree.charsWith`, `ClassTree.bytesWith` : the set of a class, as characters or as bytes;
* `Tree.meaning` : the pattern that a tree stands for, with the flags after it.
-/

namespace AnchorOutline.Regex

open Unicode

/-! ## Flags -/

structure Flags where
  ignoreCase : Bool := false
  multiLine : Bool := false
  dotAll : Bool := false
  swapGreed : Bool := false
  unicode : Bool := true
  crlf : Bool := false
  deriving Repr, DecidableEq

namespace Flags

def apply (f : Flags) (items : FlagList) : Flags where
  ignoreCase := (items.state .ignoreCase).getD f.ignoreCase
  multiLine := (items.state .multiLine).getD f.multiLine
  dotAll := (items.state .dotAll).getD f.dotAll
  swapGreed := (items.state .swapGreed).getD f.swapGreed
  unicode := (items.state .unicode).getD f.unicode
  crlf := (items.state .crlf).getD f.crlf

end Flags

/-! ## Sets of the single classes -/

def asciiSet (table : String) : CharSet := CharSet.decode table

namespace NamedClass

def chars : NamedClass → CharSet
  | alnum => asciiSet "30-39 41-5A 61-7A"
  | alpha => asciiSet "41-5A 61-7A"
  | ascii => asciiSet "0-7F"
  | blank => asciiSet "9 20"
  | cntrl => asciiSet "0-1F 7F"
  | digit => asciiSet "30-39"
  | graph => asciiSet "21-7E"
  | lower => asciiSet "61-7A"
  | print => asciiSet "20-7E"
  | punct => asciiSet "21-2F 3A-40 5B-60 7B-7E"
  | space => asciiSet "9-D 20"
  | upper => asciiSet "41-5A"
  | word => asciiSet "30-39 41-5A 5F 61-7A"
  | xdigit => asciiSet "30-39 41-46 61-66"

end NamedClass

namespace Shorthand

def chars : Shorthand → CharSet
  | digit => Property.digit
  | space => Property.blank
  | word => Property.word

def asciiChars : Shorthand → CharSet
  | digit => NamedClass.digit.chars
  | space => NamedClass.space.chars
  | word => NamedClass.word.chars

end Shorthand

namespace ClassName

def chars (span : Span) (name : ClassName) : Except Fault CharSet :=
  let found := match name with
    | lone n => charsNamed n
    | pair p v => charsWithValue p v
  match found with
  | .ok s => .ok s
  | .error .unknownProperty => .error ⟨.propertyNotFound, span, none⟩
  | .error .unknownValue => .error ⟨.propertyValueNotFound, span, none⟩

end ClassName

/-! ## Folding and negating -/

/-- The set with all case variants when case is ignored, and then negated if asked. -/
def foldThenNegate (ignoreCase negated : Bool) (s : CharSet) : CharSet :=
  let s := if ignoreCase then s.foldCase else s
  if negated then s.complement else s

/-- The same for a set of bytes, which has to end up within ASCII. -/
def foldThenNegateBytes (ignoreCase negated : Bool) (span : Span) (s : CharSet) :
    Except Fault CharSet :=
  let s := if ignoreCase then s.foldAsciiCase else s
  let s := if negated then s.complementBelow 0xFF else s
  if s.top?.any (· > 0x7F) then .error ⟨.invalidUtf8, span, none⟩ else .ok s

/-- The byte that a literal stands for in a set of bytes. -/
def Literal.asByte (l : Literal) : Except Fault Nat :=
  let n := l.char.toNat
  if n ≤ 0x7F then .ok n
  else if l.isByte then .error ⟨.invalidUtf8, l.span, none⟩
  else .error ⟨.unicodeNotAllowed, l.span, none⟩

def SetOperation.apply : SetOperation → CharSet → CharSet → CharSet
  | intersection, a, b => a.inter b
  | difference, a, b => a.diff b
  | symmetricDifference, a, b => a.symmDiff b

/-! ## Bracketed classes -/

mutual

def ClassTree.charsWith (ignoreCase : Bool) : ClassTree → Except Fault CharSet
  | .empty _ => .ok .empty
  | .literal l => .ok (.singleton l.char)
  | .range _ lo hi => .ok (.ofRange lo.char.toNat hi.char.toNat)
  | .named _ kind negated => .ok (foldThenNegate ignoreCase negated kind.chars)
  | .shorthand _ kind negated => .ok (foldThenNegate false negated kind.chars)
  | .unicode span name negated => do
    return foldThenNegate ignoreCase negated (← name.chars span)
  | .bracketed _ negated body => do
    return foldThenNegate ignoreCase negated (← body.charsWith ignoreCase)
  | .union _ items => ClassTree.unionWith ignoreCase items
  | .operation _ op left right => do
    let l ← left.charsWith ignoreCase
    let r ← right.charsWith ignoreCase
    return op.apply (foldThenNegate ignoreCase false l) (foldThenNegate ignoreCase false r)

def ClassTree.unionWith (ignoreCase : Bool) : List ClassTree → Except Fault CharSet
  | [] => .ok .empty
  | t :: ts => do return (← t.charsWith ignoreCase).union (← ClassTree.unionWith ignoreCase ts)

end

mutual

def ClassTree.bytesWith (ignoreCase : Bool) : ClassTree → Except Fault CharSet
  | .empty _ => .ok .empty
  | .literal l => do
    let n ← l.asByte
    return .ofRange n n
  | .range _ lo hi => do return .ofRange (← lo.asByte) (← hi.asByte)
  | .named span kind negated => foldThenNegateBytes ignoreCase negated span kind.chars
  | .shorthand span kind negated => foldThenNegateBytes false negated span kind.asciiChars
  | .unicode span _ _ => .error ⟨.unicodeNotAllowed, span, none⟩
  | .bracketed span negated body => do
    foldThenNegateBytes ignoreCase negated span (← body.bytesWith ignoreCase)
  | .union _ items => ClassTree.unionBytesWith ignoreCase items
  | .operation _ op left right => do
    let l ← left.bytesWith ignoreCase
    let r ← right.bytesWith ignoreCase
    let fold := fun s : CharSet => if ignoreCase then s.foldAsciiCase else s
    return op.apply (fold l) (fold r)

def ClassTree.unionBytesWith (ignoreCase : Bool) : List ClassTree → Except Fault CharSet
  | [] => .ok .empty
  | t :: ts => do
    return (← t.bytesWith ignoreCase).union (← ClassTree.unionBytesWith ignoreCase ts)

end

/-! ## Whole patterns -/

/-- A single character, in either case when case is ignored. -/
def Literal.meaning (f : Flags) (l : Literal) : Except Fault Pattern :=
  if f.unicode then
    .ok (.chars (foldThenNegate f.ignoreCase false (.singleton l.char)))
  else if l.char.toNat ≤ 0x7F then
    let s := CharSet.singleton l.char
    .ok (.chars (if f.ignoreCase then s.foldAsciiCase else s))
  else if l.isByte || f.ignoreCase then .error ⟨.invalidUtf8, l.span, none⟩
  else .ok (.chars (.singleton l.char))

/-- Every character, but for line breaks unless the dot matches them too. -/
def dotMeaning (f : Flags) (span : Span) : Except Fault Pattern :=
  if !f.unicode then .error ⟨.invalidUtf8, span, none⟩
  else if f.dotAll then .ok (.chars (.ofRange 0 lastCodePoint))
  else if f.crlf then .ok (.chars ((CharSet.ofRanges [⟨0xA, 0xA⟩, ⟨0xD, 0xD⟩]).complement))
  else .ok (.chars (CharSet.ofRange 0xA 0xA).complement)

def Assertion.meaning (f : Flags) (a : Assertion) : Pattern :=
  let word := if f.unicode then Shorthand.word.chars else Shorthand.word.asciiChars
  .look <| match a with
    | lineStart => if f.multiLine then .lineStart f.crlf else .textStart
    | lineEnd => if f.multiLine then .lineEnd f.crlf else .textEnd
    | textStart => .textStart
    | textEnd => .textEnd
    | wordBoundary => .edge .boundary word
    | noWordBoundary => .edge .inside word
    | wordStart => .edge .start word
    | wordEnd => .edge .stop word
    | wordStartHalf => .edge .startHalf word
    | wordEndHalf => .edge .stopHalf word

def shorthandMeaning (f : Flags) (span : Span) (kind : Shorthand) (negated : Bool) :
    Except Fault Pattern := do
  if f.unicode then return .chars (foldThenNegate false negated kind.chars)
  else return .chars (← foldThenNegateBytes false negated span kind.asciiChars)

def unicodeMeaning (f : Flags) (span : Span) (name : ClassName) (negated : Bool) :
    Except Fault Pattern := do
  if f.unicode then return .chars (foldThenNegate f.ignoreCase negated (← name.chars span))
  else .error ⟨.unicodeNotAllowed, span, none⟩

def bracketedMeaning (f : Flags) (span : Span) (negated : Bool) (body : ClassTree) :
    Except Fault Pattern := do
  if f.unicode then
    return .chars (foldThenNegate f.ignoreCase negated (← body.charsWith f.ignoreCase))
  else
    return .chars
      (← foldThenNegateBytes f.ignoreCase negated span (← body.bytesWith f.ignoreCase))

mutual

/-- The pattern that a tree stands for under the given flags, with the flags after it. -/
def Tree.meaning (f : Flags) : Tree → Except Fault (Pattern × Flags)
  | .empty _ => .ok (.empty, f)
  | .flags _ items => .ok (.empty, f.apply items)
  | .literal l => do return (← l.meaning f, f)
  | .dot span => do return (← dotMeaning f span, f)
  | .assertion _ kind => .ok (kind.meaning f, f)
  | .shorthand span kind negated => do return (← shorthandMeaning f span kind negated, f)
  | .unicode span name negated => do return (← unicodeMeaning f span name negated, f)
  | .bracketed span negated body => do return (← bracketedMeaning f span negated body, f)
  | .repetition _ least most greedy body => do
    let (p, f) ← body.meaning f
    return (.repeated least most (greedy != f.swapGreed) p, f)
  | .group _ kind body => do
    let inner := match kind with
      | .plain items => f.apply items
      | .capture => f
    let (p, _) ← body.meaning inner
    return (p, f)
  | .alternation _ branches => do
    let (ps, f) ← Tree.meanings f branches
    return (.anyOf ps, f)
  | .concat _ parts => do
    let (ps, f) ← Tree.meanings f parts
    return (.ofList ps, f)

/-- The patterns of several trees, flags carried from each to the next. -/
def Tree.meanings (f : Flags) : List Tree → Except Fault (List Pattern × Flags)
  | [] => .ok ([], f)
  | t :: ts => do
    let (p, f) ← t.meaning f
    let (ps, f) ← Tree.meanings f ts
    return (p :: ps, f)

end

end AnchorOutline.Regex
