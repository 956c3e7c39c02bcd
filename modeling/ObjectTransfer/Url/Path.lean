import ObjectTransfer.Encoding.Percent
import ObjectTransfer.Text.Pieces

/-!
# Paths

A path is a list of escaped segments, each with a slash before it. Reading a path settles its dot
segments: a single dot adds nothing and a double dot takes the last segment back, unless that begins
with a drive letter; either of them at the end leaves an empty last segment. As this happens at the
end of the path, a path under construction has its last segment first.

`Path.pushAll` adds segments to a path that is there already. Each is escaped as a whole, so its
slashes do not divide it, but the rule for dot segments still applies to what is left of it without
tabs and line breaks.

Tabs and line breaks leave one trace: at the start of a file path they cut a drive letter off from
what follows it.
-/

set_option autoImplicit false

namespace ObjectTransfer.Url

abbrev Segment := List Char

/-- A path under construction, its last segment first. -/
abbrev Trail := List Segment

/-- Tabs and line breaks are ignored everywhere in a URL. -/
def isIgnored (c : Char) : Bool := c == '\t' || c == '\n' || c == '\r'

def withoutIgnored (text : List Char) : List Char := text.filter fun c => !isIgnored c

def isPlainInPath (octet : UInt8) : Bool :=
  33 ≤ octet && octet < 127 &&
    !(octet == 34 || octet == 35 || octet == 60 || octet == 62 || octet == 63 || octet == 96 ||
      octet == 123 || octet == 125)

def isPlainInSegment (special : Bool) (octet : UInt8) : Bool :=
  isPlainInPath octet && octet != 47 && octet != 37 && !(special && octet == 92)

namespace Path

/-- The beginning of a dot, written as itself or as an escape; gives what follows. -/
def afterDot? : Segment → Option Segment
  | '.' :: rest => some rest
  | '%' :: '2' :: 'e' :: rest => some rest
  | '%' :: '2' :: 'E' :: rest => some rest
  | _ => none

def isSingleDot (segment : Segment) : Bool := afterDot? segment == some []

def isDoubleDot (segment : Segment) : Bool := (afterDot? segment).any isSingleDot

def isDrive : Segment → Bool
  | [letter, mark] => letter.isAlpha && (mark == ':' || mark == '|')
  | _ => false

/-- Whether a segment is a drive letter, or begins with one and a backslash. -/
def startsWithDrive : Segment → Bool
  | letter :: mark :: rest =>
    isDrive [letter, mark] && (rest.isEmpty || rest.head? == some '\\')
  | _ => false

/-- The path without its last segment; one that starts with a drive letter stays. -/
def shorten : Trail → Trail
  | last :: before => if startsWithDrive last then last :: before else before
  | [] => []

/-- Adds a segment that is no dot segment. A drive letter at the start of a file path gets a colon. -/
def addPlain (file : Bool) (trail : Trail) (segment : Segment) : Trail :=
  if file && trail.isEmpty && isDrive segment then [segment.take 1 ++ [':']] else segment :: trail

/-- Adds an escaped segment; `last` says that nothing follows it. -/
def add (file : Bool) (trail : Trail) (segment : Segment) (last : Bool) : Trail :=
  if isDoubleDot segment then if last then [] :: shorten trail else shorten trail
  else if isSingleDot segment then if last then [] :: trail else trail
  else addPlain file trail segment

/-- A drive letter and what follows it, if something ignored stands between them. -/
def cutDrive? (raw : List Char) : Option (Segment × List Char) :=
  match raw.dropWhile isIgnored with
  | letter :: more =>
    match more.dropWhile isIgnored with
    | ':' :: rest =>
      if letter.isAlpha ∧ rest.head?.any isIgnored ∧ withoutIgnored rest ≠ [] then
        some ([letter, ':'], withoutIgnored rest)
      else none
    | _ => none
  | [] => none

/-- Adds a segment as it was written. What was cut off from a drive letter is no dot segment. -/
def addRaw (file : Bool) (encode : List Char → Segment) (trail : Trail) (raw : List Char)
    (last : Bool) : Trail :=
  match if file && trail.isEmpty then cutDrive? raw else none with
  | some (drive, rest) => [encode rest, drive]
  | none => add file trail (encode (withoutIgnored raw)) last

def addAll (file : Bool) (trail : Trail) : List (List Char) → Trail
  | [] => trail
  | [raw] => addRaw file (Percent.encode isPlainInPath) trail raw true
  | raw :: next :: more =>
    addAll file (addRaw file (Percent.encode isPlainInPath) trail raw false) (next :: more)

def settle (file : Bool) (path : List Segment) : List Segment :=
  if file then
    match path.dropWhile List.isEmpty with
    | [] => [[]]
    | rest => rest
  else path

def rawSegments (special : Bool) (text : List Char) : List Segment :=
  Text.split '/' (if special then text.map fun c => if c = '\\' then '/' else c else text)

def segments (special file : Bool) (text : List Char) : List Segment :=
  (addAll file [] (rawSegments special text)).reverse

def read (special file : Bool) (text : List Char) : List Segment :=
  settle file (segments special file text)

/-- Removes an empty last segment, unless it is the only one. -/
def popIfEmpty (path : List Segment) : List Segment :=
  if path.getLast? = some [] ∧ 1 < path.length then path.dropLast else path

/-- Adds one raw segment after the others. A segment that is just dots is left out. -/
def push (special file : Bool) (trail : Trail) (raw : List Char) : Trail :=
  if raw = ['.'] ∨ raw = ['.', '.'] then trail
  else
    let before := if trail = [[]] then [] else trail
    let after := addRaw file (Percent.encode (isPlainInSegment special)) before raw true
    if file then (settle true after.reverse).reverse else after

def pushAll (special file : Bool) (path : List Segment) (raw : List (List Char)) : List Segment :=
  (raw.foldl (push special file) path.reverse).reverse

def text (path : List Segment) : List Char := path.flatMap fun segment => '/' :: segment

end Path

end ObjectTransfer.Url
