/-
This file converts values to text as a directive of a template asks.
-/

import EmacsSession.Double.Nearest
import EmacsSession.Double.Places
import EmacsSession.Fault
import EmacsSession.Template.Basic
import EmacsSession.Value.Display

namespace EmacsSession.Template

/-- How a converted value is set. -/
structure Setting where
  flags : Flags
  width : Nat
  precision : Option Nat

/-- The longest text that a width may ask for. -/
def widthLimit : Nat := 2147483647

namespace Setting

/-- The characters that bring a length to the width. -/
def gap (setting : Setting) (filler : Char) (length : Nat) : List Char :=
  List.replicate (setting.width - length) filler

/-- A text between blanks that bring it to the width. -/
def align (setting : Setting) (text : List Char) : List Char :=
  let blanks := setting.gap ' ' text.length
  if setting.flags.leftAligned then text ++ blanks else blanks ++ text

/-- A text that is cut off at the precision. -/
def text (setting : Setting) (text : List Char) : List Char :=
  setting.align (match setting.precision with
    | some count => text.take count
    | none => text)

/-- The sign of a number. -/
def sign (setting : Setting) (isNegative : Bool) : List Char :=
  if isNegative then ['-']
  else if setting.flags.signed then ['+']
  else if setting.flags.spaced then [' ']
  else []

/-- A number: zeros that fill the width stand behind the sign and the mark, and blanks around
everything. -/
def number (setting : Setting) (isNegative : Bool) (mark digits : List Char) : List Char :=
  let front := setting.sign isNegative ++ mark
  if setting.flags.zeroFilled && !setting.flags.leftAligned then
    front ++ setting.gap '0' (front.length + digits.length) ++ digits
  else setting.align (front ++ digits)

end Setting

/-- The integer of a value, whose decimal places are cut off. -/
def integer (conversion : Char) : Value → Except Flaw Int
  | .int value => .ok value
  | .truth value => .ok (if value then 1 else 0)
  | .float value =>
      if value.isNaN then .error .undefinedInteger
      else if value.isInfinite then .error .infiniteInteger
      else .ok value.truncated
  | value => .error (.numberKind conversion value.kind)

/-- The integer of a value without decimal places. -/
def exactInteger (conversion : Char) : Value → Except Flaw Int
  | .int value => .ok value
  | .truth value => .ok (if value then 1 else 0)
  | value => .error (.integerKind conversion value.kind)

/-- The real number of a value. -/
def real : Value → Except Flaw Double
  | .int value =>
      let number := Double.ofInt value
      if number.isInfinite then .error .realOverflow else .ok number
  | .truth value => .ok (Double.ofInt (if value then 1 else 0))
  | .float value => .ok value
  | value => .error (.realKind value.kind)

/-- The character of a code. -/
def characterOf (code : Int) : Except Flaw Char :=
  if 0 ≤ code && code < 0x110000 then .ok (Char.ofNat code.toNat) else .error .characterRange

/-- The character of a value: a text of one character, or a code. -/
def character : Value → Except Flaw Char
  | .text value =>
      match value.toList with
      | [character] => .ok character
      | _ => .error .characterKind
  | .int value => characterOf value
  | .truth value => characterOf (if value then 1 else 0)
  | _ => .error .characterKind

/-- The most digits that an integer may be written with. -/
def digitLimit : Nat := 2147483644

/-- An integer in a base, with zeros in front up to the precision. -/
def setInteger (setting : Setting) (base : Nat) (mark : List Char) (value : Int) :
    Except Flaw (List Char) :=
  let digits := Nat.toDigits base value.natAbs
  let count := setting.precision.getD 0
  if digitLimit < count then .error .precisionTooLarge
  else
    let mark := if setting.flags.marked then mark else []
    .ok (setting.number (value < 0) mark
      (List.replicate (count - digits.length) '0' ++ digits))

/-- The digits of a real number, with words for what is not finite. -/
def realDigits (setting : Setting) (conversion : Char) (value : Double) : List Char :=
  let count := setting.precision.getD 6
  if value.isNaN then ['n', 'a', 'n']
  else if value.isInfinite then ['i', 'n', 'f']
  else match conversion with
    | 'e' => value.exponential setting.flags.marked count
    | 'f' => value.fixed setting.flags.marked count
    | _ => value.general setting.flags.marked count

/-- A real number with its decimal places. -/
def setReal (setting : Setting) (conversion : Char) (value : Double) : List Char :=
  setting.number (value.isNegative && !value.isNaN) [] (realDigits setting conversion value)

/-- The text in capitals; all its letters are ASCII. -/
def inCapitals (text : List Char) : List Char :=
  text.map Char.toUpper

/-- A value converted and set. -/
def convertTo (setting : Setting) (conversion : Char) (place : Nat) (value : Value) :
    Except Fault (List Char) :=
  match conversion with
  | 's' => (value.display.mapError .unprintable).map fun text => setting.text text.toList
  | 'r' => .ok (setting.text value.describe.toList)
  | 'a' => .ok (setting.text (Text.asciiOnly value.describe.toList))
  | 'c' => ((character value).mapError .template).map fun character => setting.align [character]
  | 'd' | 'i' | 'u' =>
      (integer conversion value >>= setInteger setting 10 []).mapError .template
  | 'o' => (exactInteger conversion value >>= setInteger setting 8 ['0', 'o']).mapError .template
  | 'x' => (exactInteger conversion value >>= setInteger setting 16 ['0', 'x']).mapError .template
  | 'X' =>
      ((exactInteger conversion value >>= setInteger setting 16 ['0', 'x']).mapError
        .template).map inCapitals
  | 'e' | 'f' | 'g' => ((real value).mapError .template).map (setReal setting conversion)
  | 'E' | 'F' | 'G' =>
      ((real value).mapError .template).map fun value =>
        inCapitals (setReal setting conversion.toLower value)
  | character => .error (.template (.conversion character place))

/-- A value converted and set. A width beyond the limit is refused once the value is converted. -/
def convert (setting : Setting) (conversion : Char) (place : Nat) (value : Value) :
    Except Fault (List Char) :=
  if widthLimit < setting.width then
    match convertTo { setting with width := 0 } conversion place value with
    | .ok _ => .error (.template .tooLong)
    | .error fault => .error fault
  else convertTo setting conversion place value

end EmacsSession.Template
