import CodeCatalog.Files.Path

/-!
# Glob patterns

Patterns for paths. Whether `*` and `?` match slashes too is a matter of style; `**` is special
where it is a whole component; `[...]` is a class of bytes; `{a,b}` are alternatives; a backslash
takes the next character literally. Matching is over the bytes of the whole path.

A pattern that is no valid glob matches as a part of the path.

## Main definitions

* `CodeCatalog.Glob` — the parts of a pattern.
* `CodeCatalog.Glob.parse?` — reading a pattern.
* `CodeCatalog.Glob.isMatch` — matching a whole text.
* `CodeCatalog.PathPattern` — a pattern for excluding paths.
-/

namespace CodeCatalog

/-! ## Parts of a pattern -/

/-- A part of a glob pattern. -/
inductive GlobPart where
  /-- This byte. -/
  | byte (b : UInt8)
  /-- Any one byte. -/
  | any
  /-- Any number of bytes. -/
  | star
  /-- Any number of bytes other than slashes. -/
  | starInside
  /-- A byte in one of the ranges, or in none of them. -/
  | set (negated : Bool) (ranges : List (UInt8 × UInt8))
  /-- `**` and a slash at the begin: nothing, or directories. -/
  | directoriesFirst
  /-- A slash and `**` at the end: everything below. -/
  | everythingBelow
  /-- A slash, `**` and a slash: any directories between. -/
  | directoriesBetween
  /-- One of several patterns. -/
  | oneOf (alternatives : List (List GlobPart))
deriving Repr, BEq, Inhabited

/-- A glob pattern. -/
abbrev Glob := List GlobPart

namespace Glob

/-! ## Reading a pattern -/

/-- What opening brackets mean. -/
inductive Brackets where
  /-- Every bracket begins a class, and one that is never closed is an error. -/
  | classes
  /-- Brackets begin classes up to the first one that is never closed. -/
  | classesWhileClosed
  /-- Brackets stand for themselves. -/
  | plain
deriving Repr, BEq, DecidableEq, Inhabited

/-- How patterns are read. -/
structure Style where
  /-- Whether `*` and `?` stop at slashes. -/
  stopsAtSlash : Bool := false
  brackets : Brackets := .classes
deriving Repr, BEq, DecidableEq, Inhabited

/-- The part for `*`. -/
def Style.star (style : Style) : GlobPart := if style.stopsAtSlash then .starInside else .star

/-- The part for `?`. -/
def Style.any (style : Style) : GlobPart :=
  if style.stopsAtSlash then .set true [(47, 47)] else .any

/-- The bytes of a character. -/
def bytesOf (c : Char) : List UInt8 := (String.singleton c).toUTF8.toList

/-- The byte ranges of a range of characters: the last byte of the first character up to the
first byte of the last one, and all other bytes of both. -/
def byteRanges (first last : Char) : List (UInt8 × UInt8) :=
  if first = last then (bytesOf first).map fun b => (b, b)
  else
    let a := bytesOf first
    let b := bytesOf last
    (a.dropLast.map fun x => (x, x)) ++ [(a.getLast?.getD 0, b.head?.getD 0)] ++
      ((b.drop 1).map fun x => (x, x))

/-- What can be wrong with a class. -/
inductive ClassFault where
  | unclosed
  | reversedRange
deriving Repr, BEq, DecidableEq, Inhabited

/-- Reads the inside of a class up to its closing bracket: the ranges in reverse order, and
what follows the bracket. `isFirst` tells whether nothing has been read, `open_` whether a
hyphen waits for the end of a range. A reversed range is an error. -/
def readClass (isFirst open_ : Bool) (ranges : List (Char × Char)) :
    List Char → Except ClassFault (List (Char × Char) × List Char)
  | [] => .error .unclosed
  | c :: cs =>
    if c = ']' ∧ !isFirst then .ok (if open_ then ('-', '-') :: ranges else ranges, cs)
    else if c = '-' ∧ !isFirst ∧ !open_ then readClass false true ranges cs
    else if open_ then
      match ranges with
      | (a, _) :: rest =>
        if c < a then .error .reversedRange else readClass false false ((a, c) :: rest) cs
      | [] => .error .reversedRange
    else readClass false false ((c, c) :: ranges) cs

/-- A class from its ranges in reverse order. -/
def classPart (negated : Bool) (ranges : List (Char × Char)) : GlobPart :=
  .set negated (ranges.reverse.flatMap fun r => byteRanges r.1 r.2)

/-- The pattern under way: the branches of the open alternatives, the innermost first. Each
entry is the finished branches of a group and the parts of its current branch, both in reverse
order; the last entry is the pattern itself. -/
abbrev Branches := List (List Glob × Glob)

/-- Adds a part to the current branch. -/
def pushPart (p : GlobPart) : Branches → Branches
  | [] => [([], [p])]
  | (done, current) :: outer => (done, p :: current) :: outer

/-- Adds parts to the current branch. -/
def pushParts (ps : List GlobPart) (b : Branches) : Branches := ps.foldl (fun b p => pushPart p b) b

/-- The parts of the current branch in reverse order. -/
def currentParts : Branches → Glob
  | [] => []
  | (_, current) :: _ => current

/-- Replaces the last part of the current branch. -/
def replaceLast (f : GlobPart → GlobPart) : Branches → Branches
  | (done, p :: current) :: outer => (done, f p :: current) :: outer
  | b => b

/-- What `**` amounts to, given the character before it, what follows it, and the pattern so
far: the pattern with it, and the rest of the text. As a whole component it is special; the
slashes around it belong to it. -/
def doubleStar (style : Style) (previous : Option Char) (rest : List Char) (b : Branches) :
    Branches × List Char :=
  let plain := (pushParts [style.star, style.star] b, rest)
  let nested := b.length ≥ 2
  if (currentParts b).isEmpty then
    match rest with
    | [] => (pushPart .directoriesFirst b, [])
    | '/' :: rest => (pushPart .directoriesFirst b, rest)
    | _ => plain
  else if previous != some '/' && !(nested && (previous == some ',' || previous == some '{'))
  then plain
  else
    let become (p : GlobPart) (old : GlobPart) : GlobPart :=
      match old with
      | .directoriesFirst => .directoriesFirst
      | .everythingBelow => .everythingBelow
      | _ => p
    match rest with
    | [] => (replaceLast (become .everythingBelow) b, [])
    | '/' :: rest => (replaceLast (become .directoriesBetween) b, rest)
    | c :: _ =>
      if nested && (c == ',' || c == '}') then (replaceLast (become .everythingBelow) b, rest)
      else plain

/-- Reads a pattern from left to right. Where a bracket that is never closed stands for itself,
so do all brackets behind it. Every step reads at least one character, so as much fuel as there
are characters is enough. -/
def readParts (style : Style) : Nat → Option Char → Branches → List Char → Option Branches
  | 0, _, b, [] => some b
  | 0, _, _, _ :: _ => none
  | _ + 1, _, b, [] => some b
  | fuel + 1, previous, b, c :: cs =>
    if c = '?' then readParts style fuel (some c) (pushPart style.any b) cs
    else if c = '*' then
      match cs with
      | '*' :: rest =>
        let (b, rest') := doubleStar style previous rest b
        let last := if rest'.length < rest.length then '/' else '*'
        readParts style fuel (some last) b rest'
      | _ => readParts style fuel (some c) (pushPart style.star b) cs
    else if c = '[' ∧ style.brackets ≠ .plain then
      let (negated, inside) := match cs with
        | '!' :: cs => (true, cs)
        | '^' :: cs => (true, cs)
        | cs => (false, cs)
      match readClass true false [] inside with
      | .ok (ranges, rest) =>
        readParts style fuel (some ']') (pushPart (classPart negated ranges) b) rest
      | .error .unclosed =>
        if style.brackets = .classes then none
        else
          readParts { style with brackets := .plain } fuel (some c)
            (pushParts ((bytesOf c).map .byte) b) cs
      | .error .reversedRange => none
    else if c = '{' then readParts style fuel (some c) (([], []) :: b) cs
    else if c = '}' then
      match b with
      | (done, current) :: outer :: more =>
        let alternatives := (current :: done).reverse.map List.reverse
        readParts style fuel (some c) (pushPart (.oneOf alternatives) (outer :: more)) cs
      | _ => none
    else if c = ',' then
      match b with
      | (done, current) :: outer :: more =>
        readParts style fuel (some c) ((current :: done, []) :: outer :: more) cs
      | b => readParts style fuel (some c) (pushParts ((bytesOf c).map .byte) b) cs
    else if c = '\\' then
      match cs with
      | [] => none
      | d :: rest => readParts style fuel (some d) (pushParts ((bytesOf d).map .byte) b) rest
    else readParts style fuel (some c) (pushParts ((bytesOf c).map .byte) b) cs

/-- Reads a pattern; `none` when it is not valid. -/
def parse? (style : Style) (pattern : String) : Option Glob :=
  match readParts style pattern.length none [([], [])] pattern.toList with
  | some [(_, parts)] => some parts.reverse
  | _ => none

/-! ## Matching -/

/-- Which ends of the first bytes of a text a pattern reaches: the first mark is for the begin of
the text, and every other one for the place behind a byte. -/
abbrev Marks := List Bool

/-- The marks at the begin of a text. -/
def startMarks (s : List UInt8) : Marks := true :: s.map fun _ => false

/-- The marks behind one byte of a kind. -/
def behindByte (p : UInt8 → Bool) (s : List UInt8) (marks : Marks) : Marks :=
  false :: List.zipWith (fun mark b => mark && p b) marks s

/-- The marks behind any number of bytes of a kind; `reached` tells whether such bytes lead here
from an earlier mark. -/
def behindBytes (p : UInt8 → Bool) (reached : Bool) : List UInt8 → Marks → Marks
  | b :: bs, mark :: marks =>
    (mark || reached) :: behindBytes p ((mark || reached) && p b) bs marks
  | _, marks => marks.map (· || reached)

/-- The marks that are there and those behind every later slash; `seen` tells whether there was a
mark, `slash` whether a slash stands right before. -/
def behindSlashes (seen slash : Bool) : List UInt8 → Marks → Marks
  | b :: bs, mark :: marks =>
    (mark || seen && slash) :: behindSlashes (seen || mark) (b == 47) bs marks
  | _, marks => marks.map (· || seen && slash)

/-- The marks of either of two lists. -/
def eitherMark (a b : Marks) : Marks := List.zipWith (· || ·) a b

/-- Whether a byte is in one of several ranges. -/
def inRanges (ranges : List (UInt8 × UInt8)) (b : UInt8) : Bool :=
  ranges.any fun r => r.1 ≤ b && b ≤ r.2

mutual

/-- Whether a pattern has no parts, or only alternatives without parts. -/
def isBlankPattern : List GlobPart → Bool
  | [] => true
  | .oneOf alternatives :: ps => allBlank alternatives && isBlankPattern ps
  | _ :: _ => false

/-- Whether all patterns of a list are blank. -/
def allBlank : List (List GlobPart) → Bool
  | [] => true
  | g :: gs => isBlankPattern g && allBlank gs

end

mutual

/-- The marks behind a part of a pattern. -/
def behindPart (s : List UInt8) : GlobPart → Marks → Marks
  | .byte b, marks => behindByte (· == b) s marks
  | .any, marks => behindByte (fun _ => true) s marks
  | .star, marks => behindBytes (fun _ => true) false s marks
  | .starInside, marks => behindBytes (· != 47) false s marks
  | .set negated ranges, marks => behindByte (fun b => inRanges ranges b != negated) s marks
  | .directoriesFirst, marks => behindSlashes false false s marks
  | .everythingBelow, marks =>
    behindBytes (fun _ => true) false s (behindByte (· == 47) s marks)
  | .directoriesBetween, marks => behindSlashes false false s (behindByte (· == 47) s marks)
  | .oneOf alternatives, marks =>
    if allBlank alternatives then marks else behindAny s alternatives marks

/-- The marks behind one of several patterns; the ones that stand for no text at all do not
count. -/
def behindAny (s : List UInt8) : List (List GlobPart) → Marks → Marks
  | [], marks => marks.map fun _ => false
  | g :: gs, marks =>
    if isBlankPattern g then behindAny s gs marks
    else eitherMark (behindParts s g marks) (behindAny s gs marks)

/-- The marks behind all parts of a pattern. -/
def behindParts (s : List UInt8) : List GlobPart → Marks → Marks
  | [], marks => marks
  | p :: ps, marks => behindParts s ps (behindPart s p marks)

end

/-- Whether a pattern matches a whole text: it reaches the end. The pattern `**` alone matches
everything. -/
def isMatch (g : Glob) (s : List UInt8) : Bool :=
  match g with
  | [.directoriesFirst] => true
  | g => (behindParts s g (startMarks s)).getLast? == some true

end Glob

/-! ## Patterns for excluding paths -/

/-- A pattern for paths: a glob, or a text to be found in the path. -/
inductive PathPattern where
  | glob (g : Glob)
  | substring (needle : String)
deriving Repr, BEq, Inhabited

namespace PathPattern

/-- Reads a pattern; what is no valid glob is looked for literally. -/
def compile (pattern : String) : PathPattern :=
  match Glob.parse? {} pattern with
  | some g => .glob g
  | none => .substring pattern

/-- Whether a list stands somewhere inside another one. -/
def occursIn (needle : List Char) : List Char → Bool
  | [] => needle.isEmpty
  | c :: cs => needle.isPrefixOf (c :: cs) || occursIn needle cs

/-- The path itself and its ends behind every slash. -/
def ends (path : List Char) : List (List Char) :=
  match path with
  | [] => [[]]
  | path => path :: endsBehind path
where
  /-- What stands behind every slash. -/
  endsBehind : List Char → List (List Char)
    | [] => []
    | c :: cs => if c = '/' then cs :: endsBehind cs else endsBehind cs

/-- Whether a path matches. A glob may match the whole path or any end of it that begins with
a component; slashes at the begin of the path do not count. -/
def isMatch (p : PathPattern) (path : String) : Bool :=
  match p with
  | .substring needle => occursIn needle.toList path.toList
  | .glob g =>
    let path := path.toList.dropWhile (· == '/')
    (ends path).any fun e => Glob.isMatch g (String.ofList e).toUTF8.toList

/-- Whether a path matches some pattern of a list. -/
def matchesAny (path : String) (patterns : List PathPattern) : Bool :=
  patterns.any (·.isMatch path)

end PathPattern

end CodeCatalog
