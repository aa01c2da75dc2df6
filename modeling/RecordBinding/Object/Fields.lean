import RecordBinding.Object.Value

namespace RecordBinding

/-- The state of an instance, in the order in which its keys were first set. -/
abbrev Fields := List (String × Value)

namespace Fields

def get? (fields : Fields) (key : String) : Option Value :=
  fields.lookup key

def has (fields : Fields) (key : String) : Bool :=
  (fields.get? key).isSome

/-- Sets a key: in its place when present, at the end otherwise. -/
def set (fields : Fields) (key : String) (value : Value) : Fields :=
  if fields.has key then
    fields.map fun entry => if entry.1 == key then (key, value) else entry
  else fields ++ [(key, value)]

def setAll (fields other : Fields) : Fields :=
  other.foldl (fun kept entry => kept.set entry.1 entry.2) fields

@[simp] theorem get?_nil (key : String) : get? [] key = none := rfl

@[simp] theorem get?_cons (entry : String × Value) (fields : Fields) (key : String) :
    get? (entry :: fields) key = if key = entry.1 then some entry.2 else get? fields key := by
  obtain ⟨k, v⟩ := entry
  by_cases h : key = k
  · simp [get?, h]
  · simp [get?, List.lookup_cons, h, beq_eq_false_iff_ne.2 h]

theorem get?_append (fields other : Fields) (key : String) :
    get? (fields ++ other) key = (get? fields key).or (get? other key) := by
  induction fields with
  | nil => simp
  | cons entry fields ih =>
      rw [List.cons_append, get?_cons, get?_cons, ih]
      by_cases h : key = entry.1 <;> simp [h]

theorem get?_replace (fields : Fields) (key : String) (value : Value) (other : String) :
    get? (fields.map fun entry => if entry.1 == key then (key, value) else entry) other =
      if other = key then (get? fields key).map fun _ => value else get? fields other := by
  induction fields with
  | nil => simp
  | cons entry fields ih =>
      rw [List.map_cons, get?_cons, ih]
      by_cases hk : entry.1 = key
      · by_cases ho : other = key <;> simp_all
      · by_cases ho : other = key
        · subst ho
          simp [hk, Ne.symm hk]
        · simp [hk, ho]

theorem get?_set (fields : Fields) (key : String) (value : Value) (other : String) :
    (fields.set key value).get? other = if other = key then some value else fields.get? other := by
  unfold set
  split
  · next h =>
      rw [get?_replace]
      obtain ⟨v, hv⟩ := Option.isSome_iff_exists.1 h
      simp [hv]
  · next h =>
      rw [get?_append]
      by_cases ho : other = key
      · subst ho
        have : get? fields other = none := by simpa [has] using h
        simp [this]
      · simp [ho]

/-- A key that is present keeps its place; a new one comes last. -/
theorem keys_set (fields : Fields) (key : String) (value : Value) :
    (fields.set key value).map (·.1) =
      if fields.has key then fields.map (·.1) else fields.map (·.1) ++ [key] := by
  unfold set
  split
  · rw [List.map_map]
    apply List.map_congr_left
    intro entry _
    by_cases h : entry.1 = key <;> simp [h]
  · simp

end Fields

end RecordBinding
