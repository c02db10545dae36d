import OutlineTable.Display.Width

/-! A memo of measured widths for long runs of measurements. It is keyed by the text
after tab expansion, holds no printable ASCII and no more than `capacity` texts, and
is emptied when it is full. -/
namespace OutlineTable.Display

structure Memo where
  entries : List (Text × Nat)
  deriving DecidableEq, Repr

namespace Memo

def capacity : Nat := 512

def empty : Memo := ⟨[]⟩

def get? (memo : Memo) (text : Text) : Option Nat :=
  memo.entries.lookup text

def insert (memo : Memo) (text : Text) (cells : Nat) : Memo :=
  if capacity ≤ memo.entries.length then ⟨[(text, cells)]⟩
  else ⟨(text, cells) :: memo.entries⟩

/-- The width of a text and the memo after it was asked for. -/
def width (memo : Memo) (text : Text) : Nat × Memo :=
  if text.isEmpty then (0, memo)
  else
    let expanded := expandTabs text
    if expanded.all Unicode.isPrintableAscii then (expanded.length, memo)
    else match memo.get? expanded with
      | some cells => (cells, memo)
      | none => (clusterSum expanded, memo.insert expanded (clusterSum expanded))

/-- The answers to a run of questions, and the memo after the last. -/
def widths (memo : Memo) : List Text → List Nat × Memo
  | [] => ([], memo)
  | text :: texts =>
    let (cells, next) := memo.width text
    let (rest, last) := next.widths texts
    (cells :: rest, last)

end Memo

end OutlineTable.Display
