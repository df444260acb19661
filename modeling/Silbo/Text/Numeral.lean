import Silbo.Text.Blank
import Silbo.Text.Digit

/-! Integers written in decimal digits of any script, with single underscores between digits. -/
namespace Silbo.Text

/-- The longest numeral that is read, in digits. -/
def numeralLimit : Nat := 4300

/-- Reads on after a digit; `value` and `count` stand for the digits so far. -/
def readDigits (value count : Nat) : List Char → Option Nat
  | [] => if count ≤ numeralLimit then some value else none
  | '_' :: c :: rest => (digitValue? c).bind fun d => readDigits (10 * value + d) (count + 1) rest
  | c :: rest => (digitValue? c).bind fun d => readDigits (10 * value + d) (count + 1) rest

def readNatural : List Char → Option Nat
  | [] => none
  | c :: rest => (digitValue? c).bind fun d => readDigits d 1 rest

/-- White space without the information separators. -/
private def isPadding (c : Char) : Bool := isBlank c && !(28 ≤ c.toNat && c.toNat ≤ 31)

/-- Reads an integer with an optional sign and white space around it. -/
def readInteger (text : List Char) : Option Int :=
  match trim isPadding text with
  | '-' :: digits => (readNatural digits).map fun n => -(n : Int)
  | '+' :: digits => (readNatural digits).map Int.ofNat
  | digits => (readNatural digits).map Int.ofNat

end Silbo.Text
