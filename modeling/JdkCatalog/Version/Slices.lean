import JdkCatalog.Text.Slice
import JdkCatalog.Text.Utf8
import JdkCatalog.Version

/-!
# The slices of a version

The tokens of a version as they are cut out of its bytes.  One pass goes over the
bytes: it skips those that are no ASCII digits or letters, and where it finds one it
goes on to the end of the run.  The slice between the two offsets is the run.
-/

namespace JdkCatalog.Version

/-- An ASCII digit. -/
def isDigitByte (b : UInt8) : Bool :=
  0x30 ≤ b && b ≤ 0x39

/-- An ASCII digit or letter. -/
def isAlphanumByte (b : UInt8) : Bool :=
  isDigitByte b || (0x41 ≤ b && b ≤ 0x5a) || (0x61 ≤ b && b ≤ 0x7a)

/-- Where a run ends that has come to an offset. -/
def runEnd (bytes : List UInt8) (isNumber : Bool) (stop : Nat) : Nat :=
  if h : stop < bytes.length then
    if isAlphanumByte bytes[stop] && isDigitByte bytes[stop] == isNumber then
      runEnd bytes isNumber (stop + 1)
    else
      stop
  else
    stop
termination_by bytes.length - stop

theorem le_runEnd (bytes : List UInt8) (isNumber : Bool) (stop : Nat) :
    stop ≤ runEnd bytes isNumber stop := by
  fun_induction runEnd bytes isNumber stop with
  | case1 stop h hrun ih => exact Nat.le_of_succ_le ih
  | case2 => exact Nat.le_refl _
  | case3 => exact Nat.le_refl _

/-- A run goes on beyond a byte of its kind. -/
theorem lt_runEnd {bytes : List UInt8} {start : Nat} (h : start < bytes.length)
    (hrun : isAlphanumByte bytes[start] = true) :
    start < runEnd bytes (isDigitByte bytes[start]) start := by
  rw [runEnd, dif_pos h, if_pos (by simp [hrun])]
  exact le_runEnd bytes _ (start + 1)

/-- A part of a version between two offsets, which is a number or else a word. -/
structure Slice where
  start : Nat
  stop : Nat
  isNumber : Bool
deriving DecidableEq

/-- The slices from an offset on. -/
def slicesFrom (bytes : List UInt8) (start : Nat) : List Slice :=
  if h : start < bytes.length then
    if hrun : isAlphanumByte bytes[start] then
      let isNumber := isDigitByte bytes[start]
      let stop := runEnd bytes isNumber start
      ⟨start, stop, isNumber⟩ :: slicesFrom bytes stop
    else
      slicesFrom bytes (start + 1)
  else
    []
termination_by bytes.length - start
decreasing_by
  · have := lt_runEnd h hrun
    omega
  · omega

/-- The slices of a version. -/
def slices (version : String) : List Slice :=
  slicesFrom (Text.utf8 version) 0

/-- The text of a slice, if it can be cut out. -/
def Slice.text? (version : String) (slice : Slice) : Option (List Char) :=
  (Text.slice? version slice.start slice.stop).map String.toList

/-- The token of a slice with this text. -/
def Slice.token (slice : Slice) (text : List Char) : Token :=
  if slice.isNumber then .number (stripZeros text) else .word text

/-- The tokens of a version, if all its slices can be cut out. -/
def cutTokens? (version : String) : Option (List Token) :=
  (slices version).mapM fun slice => (slice.text? version).map slice.token

end JdkCatalog.Version
