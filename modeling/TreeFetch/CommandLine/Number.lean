/-!
# Numbers on the command line

A number is written in decimal digits. A plus sign may stand in front, and a minus sign where
negative numbers are allowed. A number that does not fit is refused at the first digit that makes it
too large, before the text after that digit is looked at.
-/

namespace TreeFetch.CommandLine

def greatestCount : Nat := 0xffffffffffffffff

def greatestLevel : Nat := 0x7fffffffffffffff

/-- Why a text is no number. -/
inductive NumberFault
  | empty
  | noDigit
  | tooLarge
  | tooSmall
  /-- The number does not lie between two others. -/
  | outside (n least most : Int)
deriving Repr, DecidableEq, Inhabited

def NumberFault.message : NumberFault → String
  | empty => "cannot parse integer from empty string"
  | noDigit => "invalid digit found in string"
  | tooLarge => "number too large to fit in target type"
  | tooSmall => "number too small to fit in target type"
  | outside n least most => s!"{n} is not in {least}..{most}"

/-- The number that digits write after the number `n`, if it never goes beyond the limit. -/
def readDigits (limit : Nat) (beyond : NumberFault) :
    (n : Nat) → List Char → Except NumberFault Nat
  | n, [] => .ok n
  | n, c :: rest =>
    if !c.isDigit then .error .noDigit
    else
      let more := n * 10 + (c.toNat - '0'.toNat)
      if more > limit then .error beyond else readDigits limit beyond more rest

/-- The natural number that a text writes, if it is at most `most`. -/
def readNatural (most : Nat) (text : String) : Except NumberFault Nat :=
  match text.toList with
  | [] => .error .empty
  | ['+'] => .error .noDigit
  | '+' :: digits => readDigits most .tooLarge 0 digits
  | digits => readDigits most .tooLarge 0 digits

/-- The whole number that a text writes, if it lies between `-least` and `most`. -/
def readWhole (least most : Nat) (text : String) : Except NumberFault Int :=
  match text.toList with
  | ['-'] => .error .noDigit
  | '-' :: digits => (readDigits least .tooSmall 0 digits).map fun n => -(n : Int)
  | _ => (readNatural most text).map fun n => (n : Int)

end TreeFetch.CommandLine
