import RecordBinding.Text.CaseTable

namespace RecordBinding.Text

/-- The character moved by the first run that has it, or the character itself. -/
def CaseRun.apply (runs : List CaseRun) (c : Char) : Char :=
  match runs.find? fun run => run.moves c.toNat with
  | some run => Char.ofNat (Int.toNat (c.toNat + run.offset))
  | none => c

/-- The full mapping of one character: its expansion if it has one, else its simple mapping. -/
def mapCase (runs : List CaseRun) (expansions : List (Nat × List Nat)) (c : Char) : List Char :=
  match expansions.lookup c.toNat with
  | some codes => codes.map Char.ofNat
  | none => [CaseRun.apply runs c]

/-- The lower case of one character outside any context. -/
def lowerChar (c : Char) : List Char :=
  mapCase lowerRuns lowerExpansions c

def upperChar (c : Char) : List Char :=
  mapCase upperRuns upperExpansions c

def capitalSigma : Char := Char.ofNat 0x3a3

def smallSigma : Char := Char.ofNat 0x3c3

def finalSigma : Char := Char.ofNat 0x3c2

/-- Whether the first character that is not passed over is a cased letter. -/
def startsCased (cs : List Char) : Bool :=
  match cs.dropWhile caseIgnorableRanges.has with
  | c :: _ => casedRanges.has c
  | [] => false

/-- The lower case of a text that follows a cased letter or not. A capital sigma after a cased
letter and before none is the last letter of a word. -/
def lowerChars (afterCased : Bool) : List Char → List Char
  | [] => []
  | c :: rest =>
      let image :=
        if c = capitalSigma then
          [if afterCased && !startsCased rest then finalSigma else smallSigma]
        else lowerChar c
      let nextAfterCased :=
        if caseIgnorableRanges.has c then afterCased else casedRanges.has c
      image ++ lowerChars nextAfterCased rest

def lower (s : String) : String :=
  String.ofList (lowerChars false s.toList)

def upper (s : String) : String :=
  String.ofList (s.toList.flatMap upperChar)

/-- Without capital sigmas the lower case is taken character by character. -/
theorem lowerChars_eq_flatMap {cs : List Char} (h : capitalSigma ∉ cs) (afterCased : Bool) :
    lowerChars afterCased cs = cs.flatMap lowerChar := by
  induction cs generalizing afterCased with
  | nil => rfl
  | cons c rest ih =>
      have hc : c ≠ capitalSigma := fun hEq => h (by simp [hEq])
      have hrest : capitalSigma ∉ rest := fun hMem => h (List.mem_cons_of_mem _ hMem)
      simp [lowerChars, hc, ih hrest]

end RecordBinding.Text
