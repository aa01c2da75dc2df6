namespace RecordBinding.Linearization

variable {α : Type} [DecidableEq α]

/-- The first head that stands behind the head of no list. -/
def nextHead? (lists : List (List α)) : Option α :=
  (lists.filterMap List.head?).find? fun candidate =>
    lists.all fun list => !list.tail.contains candidate

def dropHead (head : α) (lists : List (List α)) : List (List α) :=
  lists.map fun list => if list.head? = some head then list.tail else list

/-- Merges in at most `fuel` steps; stops early when no head is free. -/
def mergeSteps : Nat → List (List α) → List α
  | 0, _ => []
  | fuel + 1, lists =>
      match nextHead? lists with
      | some head => head :: mergeSteps fuel (dropHead head lists)
      | none => []

/-- Merges linear orders; every step takes at least one item, so their total length bounds the
steps. -/
def merge (lists : List (List α)) : List α :=
  mergeSteps lists.flatten.length lists

end RecordBinding.Linearization
