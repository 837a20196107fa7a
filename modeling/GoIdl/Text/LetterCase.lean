import GoIdl.Text.Class

/-!
# Case mappings

`toUpper` and `toLower` map whole texts: a character may become several, and a capital sigma that
ends a word becomes a final sigma.
-/

namespace GoIdl.Text

/-- The mapping of one character beyond ASCII by its tables; itself if the tables are silent. -/
def mapCase (runs : List CaseRun) (sequences : List (Nat × List Nat)) (c : Char) : List Char :=
  match sequences.find? (·.1 == c.toNat) with
  | some (_, image) => image.map Char.ofNat
  | none =>
    match runs.find? fun run =>
        decide (run.low ≤ c.toNat ∧ c.toNat ≤ run.high ∧ (c.toNat - run.low) % run.step = 0) with
    | some run => [Char.ofNat (c.toNat + run.offset).toNat]
    | none => [c]

def upperOf (c : Char) : List Char :=
  if isAscii c then [c.toUpper] else mapCase toUpperRuns toUpperSequences c

def lowerOf (c : Char) : List Char :=
  if isAscii c then [c.toLower] else mapCase toLowerRuns toLowerSequences c

def toUpper (s : List Char) : List Char := s.flatMap upperOf

/-- Whether the next character that counts in case decisions has a case. -/
def casedNext (s : List Char) : Bool :=
  match s.dropWhile isCaseIgnorable with
  | [] => false
  | c :: _ => isCased c

/-- `before` holds the characters already mapped, the nearest first. -/
def lowerAfter (before : List Char) : List Char → List Char
  | [] => []
  | c :: rest =>
    let image :=
      if c = 'Σ' then
        if casedNext before && !casedNext rest then ['ς'] else ['σ']
      else lowerOf c
    image ++ lowerAfter (c :: before) rest

def toLower (s : List Char) : List Char := lowerAfter [] s

/-- Whether the letters of a text that have a case are capitals, one at least. -/
def isUpperText (s : List Char) : Bool :=
  s.any isUpper && !s.any fun c => isLower c || inRanges titleRanges c

end GoIdl.Text
