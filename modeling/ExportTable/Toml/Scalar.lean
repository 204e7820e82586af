import ExportTable.Text.DoubleRange
import ExportTable.Text.Hexadecimal
import ExportTable.Toml.Item

/-!
# Numbers, truth values and dates of TOML

Each of them is one word, apart from a date and a time with a blank between them. An integer has 64
bits with sign. A float may not be read as positive infinity unless it is written as such.
-/

namespace ExportTable.Toml

def isWordChar (c : Char) : Bool := c.isAlphanum || c == '+' || c == '-' || c == '_' || c == '.' || c == ':'

/-- Digits without the underscores that stand between them. -/
def ungroup? (isDigit : Char → Bool) : List Char → Option (List Char)
  | [] => none
  | [c] => if isDigit c then some [c] else none
  | c :: '_' :: cs => if isDigit c then (ungroup? isDigit cs).map (c :: ·) else none
  | c :: cs => if isDigit c then (ungroup? isDigit cs).map (c :: ·) else none

def isOctal (c : Char) : Bool := '0' ≤ c && c ≤ '7'

def isBinary (c : Char) : Bool := c == '0' || c == '1'

def isHexadecimal (c : Char) : Bool := (Text.hexDigitValue? c).isSome

/-- Decimal digits without a leading zero. -/
def decimalDigits? (cs : List Char) : Option (List Char) :=
  match ungroup? Char.isDigit cs with
  | some ('0' :: _ :: _) => none
  | digits? => digits?

/-- Whether a sign is negative, and the text after it. -/
def splitSign : List Char → Bool × List Char
  | '-' :: cs => (true, cs)
  | '+' :: cs => (false, cs)
  | cs => (false, cs)

def integer? (word : List Char) : Option Int := do
  let i : Int ← match word with
    | '0' :: 'x' :: cs => do Text.hexValue? (← ungroup? isHexadecimal cs)
    | '0' :: 'o' :: cs => (ungroup? isOctal cs).map fun ds ↦ Nat.ofDigitChars 8 ds 0
    | '0' :: 'b' :: cs => (ungroup? isBinary cs).map fun ds ↦ Nat.ofDigitChars 2 ds 0
    | _ =>
      let (negative, cs) := splitSign word
      (decimalDigits? cs).map fun ds ↦
        if negative then -(Nat.ofDigitChars 10 ds 0 : Int) else Nat.ofDigitChars 10 ds 0
  if -0x8000000000000000 ≤ i ∧ i < 0x8000000000000000 then some i else none

/-- The digits of a fraction, which starts with a point, if there is one. -/
def fraction? : List Char → Option (List Char)
  | [] => some []
  | '.' :: cs => ungroup? Char.isDigit cs
  | _ => none

/-- The value of an exponent, which starts with its mark, if there is one. -/
def exponent? : List Char → Option Int
  | [] => some 0
  | _ :: cs =>
    let (negative, cs) := splitSign cs
    (ungroup? Char.isDigit cs).map fun ds ↦
      if negative then -(Nat.ofDigitChars 10 ds 0 : Int) else Nat.ofDigitChars 10 ds 0

def isExponentMark (c : Char) : Bool := c == 'e' || c == 'E'

/-- A number without fraction and exponent is no float, even where it is too large for an integer. -/
def isFloat (word : List Char) : Bool :=
  let (negative, cs) := splitSign word
  if cs = ['i', 'n', 'f'] ∨ cs = ['n', 'a', 'n'] then true
  else
    let (mantissa, exponent) := cs.span (!isExponentMark ·)
    let (whole, fraction) := mantissa.span (· ≠ '.')
    if fraction = [] ∧ exponent = [] then false
    else
      match decimalDigits? whole, fraction? fraction, exponent? exponent with
      | some whole, some fraction, some power =>
        negative || !Text.overflowsDouble (Nat.ofDigitChars 10 (whole ++ fraction) 0)
          (power - fraction.length)
      | _, _, _ => false

/-! ## Dates and times -/

/-- The value of decimal digits, exactly as many as asked for. -/
def fixed? (count : Nat) (cs : List Char) : Option (Nat × List Char) :=
  let digits := cs.take count
  if digits.length = count ∧ digits.all Char.isDigit then
    some (Nat.ofDigitChars 10 digits 0, cs.drop count)
  else
    none

def literal? (c : Char) : List Char → Option (List Char)
  | d :: cs => if c = d then some cs else none
  | [] => none

def isLeapYear (year : Nat) : Bool := year % 4 = 0 && (year % 100 ≠ 0 || year % 400 = 0)

def daysOfMonth (year month : Nat) : Nat :=
  if month = 2 then if isLeapYear year then 29 else 28
  else if month = 4 ∨ month = 6 ∨ month = 9 ∨ month = 11 then 30
  else 31

/-- The text after a date. -/
def date? (cs : List Char) : Option (List Char) := do
  let (year, cs) ← fixed? 4 cs
  let (month, cs) ← fixed? 2 (← literal? '-' cs)
  let (day, cs) ← fixed? 2 (← literal? '-' cs)
  if 1 ≤ month ∧ month ≤ 12 ∧ 1 ≤ day ∧ day ≤ daysOfMonth year month then some cs else none

/-- The text after hours and minutes. -/
def hoursMinutes? (cs : List Char) : Option (List Char) := do
  let (hour, cs) ← fixed? 2 cs
  let (minute, cs) ← fixed? 2 (← literal? ':' cs)
  if hour ≤ 23 ∧ minute ≤ 59 then some cs else none

/-- The text after a time; a leap second is allowed. -/
def time? (cs : List Char) : Option (List Char) := do
  let (second, cs) ← fixed? 2 (← literal? ':' (← hoursMinutes? cs))
  if second ≤ 60 then
    match cs with
    | '.' :: cs => if cs.head?.any Char.isDigit then some (cs.dropWhile Char.isDigit) else none
    | _ => some cs
  else
    none

/-- Whether the text is an offset from universal time, or empty. -/
def isOffset : List Char → Bool
  | [] | ['Z'] | ['z'] => true
  | '+' :: cs | '-' :: cs => hoursMinutes? cs = some []
  | _ => false

def isTimeWithOffset (cs : List Char) : Bool := (time? cs).any isOffset

def isDate (word : List Char) : Bool := date? word = some []

def isDateTime (word : List Char) : Bool :=
  match date? word with
  | some [] => true
  | some ('T' :: cs) | some ('t' :: cs) => isTimeWithOffset cs
  | some _ => false
  | none => time? word = some []

/-! ## Words -/

def scalarOfWord? (word : List Char) : Option Item :=
  if word = ['t', 'r', 'u', 'e'] then some (.boolean true)
  else if word = ['f', 'a', 'l', 's', 'e'] then some (.boolean false)
  else
    match integer? word with
    | some i => some (.integer i)
    | none =>
      if isFloat word then some .float
      else if isDateTime word then some .dateTime
      else none

/-- The item of the word that starts the text. -/
def scalar? (cs : List Char) : Option (Item × List Char) :=
  let (word, rest) := cs.span isWordChar
  match isDate word, rest with
  | true, ' ' :: c :: after =>
    if c.isDigit then
      let (time, rest) := (c :: after).span isWordChar
      if isTimeWithOffset time then some (.dateTime, rest) else none
    else
      some (.dateTime, rest)
  | _, _ => (scalarOfWord? word).map fun item ↦ (item, rest)

end ExportTable.Toml
