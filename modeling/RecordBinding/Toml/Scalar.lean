import RecordBinding.Decimal.Reading
import RecordBinding.Toml.Document
import RecordBinding.Toml.Scanner

namespace RecordBinding.Toml

/-- Reads digits of one class with single underscores between them, behind a first digit. -/
def scanDigits (isDigit : Char → Bool) : List Char → List Char × List Char
  | '_' :: c :: rest =>
      if isDigit c then
        let (digits, left) := scanDigits isDigit rest
        (c :: digits, left)
      else ([], '_' :: c :: rest)
  | c :: rest =>
      if isDigit c then
        let (digits, left) := scanDigits isDigit rest
        (c :: digits, left)
      else ([], c :: rest)
  | [] => ([], [])

def scanSomeDigits (isDigit : Char → Bool) (cs : List Char) : Option (List Char × List Char) :=
  match cs with
  | c :: rest =>
      if isDigit c then
        let (digits, left) := scanDigits isDigit rest
        some (c :: digits, left)
      else none
  | [] => none

/-- The number that digits write in a base up to sixteen. -/
def numberInBase (base : Nat) (digits : List Char) : Nat :=
  digits.foldl (fun n c => base * n + (hexValue? c).getD 0) 0

/-- Reads a number in base sixteen, two or eight behind its leading zero. -/
def scanBased (cs : List Char) : Option (Int × List Char) :=
  match cs with
  | 'x' :: rest =>
      (scanSomeDigits (fun c => (hexValue? c).isSome) rest).map fun (digits, left) =>
        ((numberInBase 16 digits : Int), left)
  | 'b' :: rest =>
      (scanSomeDigits (fun c => c = '0' || c = '1') rest).map fun (digits, left) =>
        ((numberInBase 2 digits : Int), left)
  | 'o' :: rest =>
      (scanSomeDigits (fun c => '0' ≤ c && c ≤ '7') rest).map fun (digits, left) =>
        ((numberInBase 8 digits : Int), left)
  | _ => none

/-- Reads a sign, if there is one; gives whether it is a minus. -/
def scanSign (cs : List Char) : Bool × List Char :=
  match cs with
  | '-' :: rest => (true, rest)
  | '+' :: rest => (false, rest)
  | cs => (false, cs)

/-- Reads the digits before the point; a number starts with zero only if that is all of them. -/
def scanWhole (cs : List Char) : Option (List Char × List Char) :=
  match cs with
  | '0' :: rest => some (['0'], rest)
  | cs => scanSomeDigits Char.isDigit cs

/-- Reads a point and the digits behind it, if they are there. -/
def scanFraction (cs : List Char) : Option (List Char) × List Char :=
  match cs with
  | '.' :: rest =>
      match scanSomeDigits Char.isDigit rest with
      | some (digits, left) => (some digits, left)
      | none => (none, cs)
  | cs => (none, cs)

def scanExponent (cs : List Char) : Option Int × List Char :=
  match cs with
  | c :: rest =>
      if c = 'e' || c = 'E' then
        let (negative, unsigned) := scanSign rest
        match scanSomeDigits Char.isDigit unsigned with
        | some (digits, left) =>
            let value : Int := numberInBase 10 digits
            (some (if negative then -value else value), left)
        | none => (none, cs)
      else (none, cs)
  | [] => (none, [])

/-- What stands at the place of a number: none, one with more digits than are converted, or one with the
rest of the text. -/
inductive NumberScan where
  | absent
  | tooLong
  | found (value : Document) (rest : List Char)

/-- How many digits of a decimal integer are converted at most. -/
def maxDigits : Nat := 4300

/-- Reads a decimal number, which is a floating-point one when it has a fraction or an exponent. -/
def scanDecimal (cs : List Char) : NumberScan :=
  let (negative, unsigned) := scanSign cs
  match scanWhole unsigned with
  | none => .absent
  | some (whole, afterWhole) =>
      let (fraction, afterFraction) := scanFraction afterWhole
      let (exponent, rest) := scanExponent afterFraction
      if fraction.isNone && exponent.isNone then
        if maxDigits < whole.length then .tooLong
        else
          let value : Int := numberInBase 10 whole
          .found (.int (if negative then -value else value)) rest
      else
        let places := fraction.getD []
        let value :=
          Decimal.scaled (numberInBase 10 (whole ++ places)) (exponent.getD 0 - places.length)
        .found (.float (if negative then -value else value)) rest

/-- Reads a number. The digits of one in base sixteen, two or eight are not limited. -/
def scanNumber (cs : List Char) : NumberScan :=
  match cs with
  | '0' :: rest =>
      match scanBased rest with
      | some (value, left) => .found (.int value) left
      | none => scanDecimal cs
  | cs => scanDecimal cs

/-- Reads the names of infinity and of the value that is no number. -/
def scanSpecial (cs : List Char) : Option (Document × List Char) :=
  let (negative, unsigned) := scanSign cs
  let signed := fun (x : Float) => Document.float (if negative then -x else x)
  match unsigned with
  | 'i' :: 'n' :: 'f' :: rest => some (signed (1.0 / 0.0), rest)
  | 'n' :: 'a' :: 'n' :: rest => some (signed (0.0 / 0.0), rest)
  | _ => none

def scanPair (cs : List Char) : Option (Nat × List Char) :=
  match cs with
  | a :: b :: rest =>
      if a.isDigit && b.isDigit then some (numberInBase 10 [a, b], rest) else none
  | _ => none

/-- Reads two digits between bounds. -/
def scanPairIn (low high : Nat) (cs : List Char) : Option (Nat × List Char) := do
  let (n, rest) ← scanPair cs
  if low ≤ n && n ≤ high then some (n, rest) else none

def scanChar (expected : Char) (cs : List Char) : Option (List Char) :=
  match cs with
  | c :: rest => if c = expected then some rest else none
  | [] => none

def skipFraction (cs : List Char) : List Char :=
  match cs with
  | '.' :: c :: rest => if c.isDigit then rest.dropWhile Char.isDigit else cs
  | cs => cs

def skipTime (cs : List Char) : Option (List Char) := do
  let (_, cs) ← scanPairIn 0 23 cs
  let cs ← scanChar ':' cs
  let (_, cs) ← scanPairIn 0 59 cs
  let cs ← scanChar ':' cs
  let (_, cs) ← scanPairIn 0 59 cs
  some (skipFraction cs)

/-- Skips an offset from universal time, if there is one. -/
def skipOffset (cs : List Char) : List Char :=
  match cs with
  | c :: rest =>
      if c = 'Z' || c = 'z' then rest
      else if c = '+' || c = '-' then
        let offset := do
          let (_, cs) ← scanPairIn 0 23 rest
          let cs ← scanChar ':' cs
          let (_, cs) ← scanPairIn 0 59 cs
          some cs
        offset.getD cs
      else cs
  | [] => []

/-- Skips a time of day behind a date, with its offset, if there is one. -/
def skipTimeOfDate (cs : List Char) : List Char :=
  match cs with
  | c :: rest =>
      if c = 'T' || c = 't' || c = ' ' then
        match skipTime rest with
        | some left => skipOffset left
        | none => cs
      else cs
  | [] => []

def daysOfMonth (year month : Nat) : Nat :=
  if month = 2 then
    if year % 4 = 0 && (year % 100 ≠ 0 || year % 400 = 0) then 29 else 28
  else if month = 4 || month = 6 || month = 9 || month = 11 then 30
  else 31

/-- Reads the shape of a date: its year, month and day. -/
def scanDate (cs : List Char) : Option ((Nat × Nat × Nat) × List Char) := do
  let (century, cs) ← scanPair cs
  let (year, cs) ← scanPair cs
  let cs ← scanChar '-' cs
  let (month, cs) ← scanPairIn 1 12 cs
  let cs ← scanChar '-' cs
  let (day, cs) ← scanPairIn 1 31 cs
  some ((100 * century + year, month, day), cs)

/-- What stands at the place of a date or a time: none of them, one that does not exist, or one with the
rest of the text. -/
inductive MomentScan where
  | absent
  | invalid
  | found (written : String) (rest : List Char)

def textBetween (cs rest : List Char) : String :=
  String.ofList (cs.take (cs.length - rest.length))

def scanMoment (cs : List Char) : MomentScan :=
  match scanDate cs with
  | some ((year, month, day), rest) =>
      if 1 ≤ year && day ≤ daysOfMonth year month then
        let rest := skipTimeOfDate rest
        .found (textBetween cs rest) rest
      else .invalid
  | none =>
      match skipTime cs with
      | some rest => .found (textBetween cs rest) rest
      | none => .absent

end RecordBinding.Toml
