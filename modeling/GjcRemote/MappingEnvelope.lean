import GjcRemote.ServiceEnvelope

/-! The texts and paths of `shared/mapping-envelope.js`: their limits, their ends and their segments. -/
namespace GjcRemote.MappingEnvelope

open Utf16 StrictJson Record Envelope
open ServiceEnvelope

/-- A string of its own canonical form, within a byte limit. -/
def validText (value : Value) (max : Nat) : Bool :=
  match value with
  | .string text => text ≠ [] && (assertStrictText text "text" (some max)).isOk
  | _ => false

/-- What `trim` removes at the ends of a string. -/
def isTrimmed (text : Units) : Bool :=
  let spaces : Units := [0x9,0xa,0xb,0xc,0xd,0x20,0xa0,0x1680,0x2000,0x2001,0x2002,0x2003,0x2004,0x2005,
    0x2006,0x2007,0x2008,0x2009,0x200a,0x2028,0x2029,0x202f,0x205f,0x3000,0xfeff]
  !(text.head?.any fun u => spaces.contains u) && !(text.getLast?.any fun u => spaces.contains u)

def isLineTerminator (u : UInt16) : Bool := [0xa,0xd,0x2028,0x2029].contains u

/-- `text.split(separator)` for separators of one unit. -/
def splitOn (separates : UInt16 → Bool) : Units → List Units
  | [] => [[]]
  | u :: rest =>
    if separates u then [] :: splitOn separates rest
    else
      match splitOn separates rest with
      | segment :: later => (u :: segment) :: later
      | [] => [[u]]

def isSlash (u : UInt16) : Bool := u == 0x2f
def isBackslash (u : UInt16) : Bool := u == 0x5c

def isDotSegment (segment : Units) : Bool := segment == [0x2e] || segment == [0x2e,0x2e]

def isLetter (u : UInt16) : Bool := isLower u || (0x41 ≤ u && u ≤ 0x5a)

def isUndefined : Value → Bool
  | .other 0 => true
  | _ => false

end GjcRemote.MappingEnvelope
