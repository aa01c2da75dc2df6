import RecordBinding.Text.Printable

namespace RecordBinding.Text

def backslash : Char := Char.ofNat 0x5c

def singleMark : Char := Char.ofNat 0x27

def doubleMark : Char := Char.ofNat 0x22

/-- The single mark, unless the text has single marks and no double ones. -/
def quotationMark (cs : List Char) : Char :=
  if cs.contains singleMark && !cs.contains doubleMark then doubleMark else singleMark

/-- The last `width` hexadecimal digits of a number, in lower case. -/
def hexDigits (width n : Nat) : List Char :=
  let digits := Nat.toDigits 16 n
  List.replicate (width - digits.length) '0' ++ digits

/-- The shortest of the three numeric escapes that holds the code point. -/
def numericEscape (n : Nat) : List Char :=
  if n < 0x100 then backslash :: 'x' :: hexDigits 2 n
  else if n < 0x10000 then backslash :: 'u' :: hexDigits 4 n
  else backslash :: 'U' :: hexDigits 8 n

def commonEscape? (mark c : Char) : Option (List Char) :=
  if c = mark || c = backslash then some [backslash, c]
  else if c = '\n' then some [backslash, 'n']
  else if c = '\r' then some [backslash, 'r']
  else if c = '\t' then some [backslash, 't']
  else none

/-- A character as it stands between quotation marks. -/
def quoteChar (mark c : Char) : List Char :=
  match commonEscape? mark c with
  | some escape => escape
  | none => if isPrintable c then [c] else numericEscape c.toNat

def quote (s : String) : String :=
  let cs := s.toList
  let mark := quotationMark cs
  String.ofList (mark :: cs.flatMap (quoteChar mark) ++ [mark])

/-- A byte as it stands between quotation marks: printable ASCII as itself. -/
def quoteByte (mark : Char) (byte : UInt8) : List Char :=
  let c := Char.ofNat byte.toNat
  match commonEscape? mark c with
  | some escape => escape
  | none => if 0x20 ≤ byte.toNat && byte.toNat < 0x7f then [c] else numericEscape byte.toNat

/-- The quoted form of a sequence of bytes, marked by a leading `b`. -/
def quoteBytes (bytes : List UInt8) : String :=
  let mark := quotationMark (bytes.map fun byte => Char.ofNat byte.toNat)
  String.ofList ('b' :: mark :: bytes.flatMap (quoteByte mark) ++ [mark])

end RecordBinding.Text
