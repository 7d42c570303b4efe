/-!
Positions in a template source. A span holds the first byte of a piece of text and the byte
behind it; both are 32-bit offsets, and an offset that does not fit stops at the greatest one.
-/
namespace TextTemplate

structure Span where
  start : Nat
  stop : Nat
deriving DecidableEq, Repr, Inhabited

namespace Span

def maxOffset : Nat := UInt32.size - 1

/-- The span of a byte range, each end stopped at the greatest offset. -/
def ofRange (start stop : Nat) : Span :=
  ⟨min start maxOffset, min stop maxOffset⟩

/-- Why a byte range has no exact span. -/
inductive RangeError where
  | startTooLarge (start : Nat)
  | endTooLarge (stop : Nat)
deriving DecidableEq, Repr

def RangeError.message : RangeError → String
  | startTooLarge start => "span start " ++ toString start ++ " exceeds u32::MAX"
  | endTooLarge stop => "span end " ++ toString stop ++ " exceeds u32::MAX"

def tryOfRange (start stop : Nat) : Except RangeError Span :=
  if maxOffset < start then .error (.startTooLarge start)
  else if maxOffset < stop then .error (.endTooLarge stop)
  else .ok ⟨start, stop⟩

def length (s : Span) : Nat := s.stop - s.start

def isEmpty (s : Span) : Bool := s.start == s.stop

/-- The span moved by a number of bytes. -/
def offset (s : Span) (bytes : Nat) : Span :=
  ⟨min (s.start + bytes) maxOffset, min (s.stop + bytes) maxOffset⟩

/-- The empty span at an offset. -/
def point (offset : Nat) : Span := ⟨offset, offset⟩

/-- The span of what has no place in a source. -/
def dummy : Span := point 0

def text (s : Span) : String :=
  toString s.start ++ ".." ++ toString s.stop

end TextTemplate.Span
