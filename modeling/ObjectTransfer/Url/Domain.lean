import ObjectTransfer.Unicode.Direction
import ObjectTransfer.Unicode.Joining
import ObjectTransfer.Unicode.Mark
import ObjectTransfer.Url.Punycode

/-!
# Domain names

A domain name may be written in any script. It is mapped and composed first, so that all spellings
of a name are one, and then divided into labels. A label that claims to be the ASCII form of another
must be that: its meaning has characters beyond ASCII, all of them stable. The meanings of all labels
must be sound words, and then the name has an ASCII form, in which the other labels stand as they
are.
-/

set_option autoImplicit false

namespace ObjectTransfer.Url

open Text (isAscii)

def isForbiddenInDomain (c : Char) : Bool :=
  c.toNat ≤ 32 || c.toNat == 127 ||
    ['#', '%', '/', ':', '<', '>', '?', '@', '[', '\\', ']', '^', '|'].contains c

/-- What begins a label that is the ASCII form of another. -/
def asciiMark : List Char := "xn--".toList

def longestRead : Nat := 2000

def longestWritten : Nat := 1000

/-- The label that a label stands for. -/
def meaning? (label : List Char) : Option (List Char) :=
  if asciiMark.isPrefixOf label then
    let written := label.drop asciiMark.length
    if longestRead < written.length then none
    else
      match Punycode.decode? written with
      | none => none
      | some name =>
        if name.all isAscii ∨ longestWritten < name.length ∨ ¬ name.all Unicode.isStable ∨
            Unicode.composed name ≠ name then none
        else some name
  else some label

/-- A word begins with no mark and has joiners only where they make sense. -/
def isWord (label : List Char) : Bool :=
  label.all isAscii || (!label.head?.any Unicode.isMark && Unicode.joinersFit [] label)

/-- Names all in ASCII are not held to the rule about directions, for nothing in them runs left. -/
def areWords (labels : List (List Char)) : Bool :=
  labels.all isWord &&
    (labels.all (fun label => label.all isAscii) || !labels.any Unicode.hasLeft ||
      labels.all Unicode.runsOneWay)

def labelToAscii? (label : List Char) : Option (List Char) :=
  if label.all isAscii then some label
  else if longestWritten < label.length then none
  else (Punycode.encode label).map (asciiMark ++ ·)

def domainToAscii? (domain : List Char) : Option (List Char) := do
  let plain := Unicode.composed (← domain.mapM Unicode.mapped?).flatten
  if plain.any isForbiddenInDomain then none
  else
    let labels := Text.split '.' plain
    if areWords (← labels.mapM meaning?) then
      return Text.join '.' (← labels.mapM labelToAscii?)
    else none

end ObjectTransfer.Url
