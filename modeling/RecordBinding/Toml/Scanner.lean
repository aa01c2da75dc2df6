namespace RecordBinding.Toml

def isSpace (c : Char) : Bool :=
  c = ' ' || c = '\t'

def isSpaceOrNewline (c : Char) : Bool :=
  isSpace c || c = '\n'

/-- Control characters other than tab. -/
def isControl (c : Char) : Bool :=
  (c.toNat < 0x20 && c ≠ '\t') || c.toNat = 0x7f

/-- Control characters other than tab and newline. -/
def isControlInLines (c : Char) : Bool :=
  isControl c && c ≠ '\n'

/-- The characters of a key without quotation marks. -/
def isBareKeyChar (c : Char) : Bool :=
  c.isAlphanum || c = '-' || c = '_'

def skipSpace (cs : List Char) : List Char :=
  cs.dropWhile isSpace

/-- Skips a comment up to the end of its line; a comment holds no control characters. -/
def skipComment (cs : List Char) : Option (List Char) :=
  match cs with
  | '#' :: rest =>
      if (rest.takeWhile (· ≠ '\n')).any isControl then none else some (rest.dropWhile (· ≠ '\n'))
  | cs => some cs

/-- Skips blanks, newlines and comments, in at most `fuel` rounds. -/
def skipLines : Nat → List Char → Option (List Char)
  | 0, cs => some cs
  | fuel + 1, cs =>
      match cs.dropWhile isSpaceOrNewline with
      | '#' :: rest => (skipComment ('#' :: rest)).bind (skipLines fuel)
      | rest => some rest

/-- The text starting with another one, less that. -/
def dropText? (text : List Char) (cs : List Char) : Option (List Char) :=
  if text.isPrefixOf cs then some (cs.drop text.length) else none

def apostrophe : Char := Char.ofNat 0x27

def quotationMark : Char := Char.ofNat 0x22

def backslash : Char := Char.ofNat 0x5c

/-- Reads a literal string of one line behind its opening mark. -/
def scanLiteral (cs : List Char) : Option (String × List Char) :=
  let inner := cs.takeWhile (· ≠ apostrophe)
  match cs.dropWhile (· ≠ apostrophe) with
  | _ :: rest => if inner.any isControl then none else some (String.ofList inner, rest)
  | [] => none

/-- The text before the first three marks in a row, and the text behind them. -/
def splitAtTriple (mark : Char) : List Char → Option (List Char × List Char)
  | [] => none
  | c :: rest =>
      match dropText? [mark, mark, mark] (c :: rest) with
      | some behind => some ([], behind)
      | none => (splitAtTriple mark rest).map fun (before, behind) => (c :: before, behind)

/-- A newline right behind the opening marks is not part of a string. -/
def dropFirstNewline (cs : List Char) : List Char :=
  match cs with
  | '\n' :: rest => rest
  | cs => cs

/-- Up to two more marks behind the closing ones belong to the string. -/
def addMarks (mark : Char) (text : String) (cs : List Char) : String × List Char :=
  match cs with
  | c :: d :: rest =>
      if c = mark && d = mark then (text.push mark |>.push mark, rest)
      else if c = mark then (text.push mark, d :: rest)
      else (text, cs)
  | [c] => if c = mark then (text.push mark, []) else (text, cs)
  | [] => (text, [])

/-- Reads a literal string of several lines behind its opening marks. -/
def scanLiteralLines (cs : List Char) : Option (String × List Char) := do
  let (inner, rest) ← splitAtTriple apostrophe (dropFirstNewline cs)
  if inner.any isControlInLines then none
  else some (addMarks apostrophe (String.ofList inner) rest)

def hexValue? (c : Char) : Option Nat :=
  if c.isDigit then some (c.toNat - '0'.toNat)
  else if 'a' ≤ c && c ≤ 'f' then some (c.toNat - 'a'.toNat + 10)
  else if 'A' ≤ c && c ≤ 'F' then some (c.toNat - 'A'.toNat + 10)
  else none

def hexNumber? (cs : List Char) : Option Nat :=
  cs.foldlM (fun n c => (hexValue? c).map (16 * n + ·)) 0

/-- Reads the character that so many hexadecimal digits write; surrogates are none. -/
def scanHexChar (digits : Nat) (cs : List Char) : Option (Char × List Char) := do
  let written := cs.take digits
  if written.length < digits then none
  else
    let n ← hexNumber? written
    if n.isValidChar then some (Char.ofNat n, cs.drop digits) else none

/-- The characters with an escape of one letter. -/
def shortEscape? (c : Char) : Option Char :=
  if c = 'b' then some (Char.ofNat 8)
  else if c = 't' then some '\t'
  else if c = 'n' then some '\n'
  else if c = 'f' then some (Char.ofNat 12)
  else if c = 'r' then some '\r'
  else if c = quotationMark then some c
  else if c = backslash then some c
  else none

/-- Skips an escaped end of line with the blanks around it. -/
def skipEscapedLine (cs : List Char) : Option (List Char) :=
  match skipSpace cs with
  | [] => some []
  | '\n' :: rest => some (rest.dropWhile isSpaceOrNewline)
  | _ => none

def scanEscape (lines : Bool) (cs : List Char) : Option (List Char × List Char) :=
  match cs with
  | [] => none
  | c :: rest =>
      if lines && isSpaceOrNewline c then (skipEscapedLine cs).map fun rest => ([], rest)
      else if c = 'u' then (scanHexChar 4 rest).map fun (d, rest) => ([d], rest)
      else if c = 'U' then (scanHexChar 8 rest).map fun (d, rest) => ([d], rest)
      else (shortEscape? c).map fun d => ([d], rest)

/-- Reads a string with escapes behind its opening marks, in at most `fuel` pieces. -/
def scanBasicPieces (lines : Bool) : Nat → List Char → Option (List Char × List Char)
  | 0, _ => none
  | _, [] => none
  | fuel + 1, c :: rest =>
      if c = quotationMark && !lines then some ([], rest)
      else
        match if lines then dropText? [quotationMark, quotationMark, quotationMark] (c :: rest)
            else none with
        | some behind => some ([], behind)
        | none =>
            if c = backslash then do
              let (escaped, rest) ← scanEscape lines rest
              let (others, rest) ← scanBasicPieces lines fuel rest
              some (escaped ++ others, rest)
            else if if lines then isControlInLines c else isControl c then none
            else do
              let (others, rest) ← scanBasicPieces lines fuel rest
              some (c :: others, rest)

/-- Reads a string of one line behind its opening mark. -/
def scanBasic (cs : List Char) : Option (String × List Char) :=
  (scanBasicPieces false (cs.length + 1) cs).map fun (inner, rest) => (String.ofList inner, rest)

/-- Reads a string of several lines behind its opening marks. -/
def scanBasicLines (cs : List Char) : Option (String × List Char) := do
  let (inner, rest) ← scanBasicPieces true (cs.length + 1) (dropFirstNewline cs)
  some (addMarks quotationMark (String.ofList inner) rest)

def scanKeyPart (cs : List Char) : Option (String × List Char) :=
  match cs with
  | [] => none
  | c :: rest =>
      if c = apostrophe then scanLiteral rest
      else if c = quotationMark then scanBasic rest
      else if isBareKeyChar c then
        some (String.ofList (cs.takeWhile isBareKeyChar), cs.dropWhile isBareKeyChar)
      else none

/-- Reads a key of at most `fuel` parts with dots between them, and the blanks behind it. -/
def scanKeyParts : Nat → List Char → Option (List String × List Char)
  | 0, _ => none
  | fuel + 1, cs => do
      let (part, rest) ← scanKeyPart cs
      match skipSpace rest with
      | '.' :: rest =>
          let (parts, rest) ← scanKeyParts fuel (skipSpace rest)
          some (part :: parts, rest)
      | rest => some ([part], rest)

def scanKey (cs : List Char) : Option (List String × List Char) :=
  scanKeyParts (cs.length + 1) cs

end RecordBinding.Toml
