namespace MappedSql

abbrev Fields (α : Type) := List (String × α)

namespace Fields

variable {α β : Type}

def get? (fields : Fields α) (name : String) : Option α :=
  match fields with
  | [] => none
  | (key, value) :: rest => if key = name then some value else get? rest name

def contains (fields : Fields α) (name : String) : Bool :=
  (get? fields name).isSome

def insert (fields : Fields α) (name : String) (value : α) : Fields α :=
  match fields with
  | [] => [(name, value)]
  | (key, old) :: rest =>
      if key = name then (name, value) :: rest
      else if name < key then (name, value) :: (key, old) :: rest
      else (key, old) :: insert rest name value

def erase (fields : Fields α) (name : String) : Fields α :=
  match fields with
  | [] => []
  | (key, value) :: rest => if key = name then rest else (key, value) :: erase rest name

/-- The fields of a list of entries; of several entries of one name the last counts. -/
def ofList (entries : List (String × α)) : Fields α :=
  entries.foldl (fun fields (name, value) => insert fields name value) []

def names (fields : Fields α) : List String :=
  fields.map Prod.fst

def Sorted (fields : Fields α) : Prop :=
  fields.Pairwise fun a b => a.1 < b.1

theorem get?_insert_self (fields : Fields α) (name : String) (value : α) :
    get? (insert fields name value) name = some value := by
  induction fields with
  | nil => simp [insert, get?]
  | cons entry rest ih =>
      obtain ⟨key, old⟩ := entry
      by_cases same : key = name
      · simp [insert, get?, same]
      · by_cases before : name < key <;> simp [insert, get?, same, before, ih]

theorem get?_insert_of_ne (fields : Fields α) {name other : String} (value : α)
    (different : name ≠ other) : get? (insert fields name value) other = get? fields other := by
  induction fields with
  | nil => simp [insert, get?, different]
  | cons entry rest ih =>
      obtain ⟨key, old⟩ := entry
      by_cases same : key = name
      · simp [insert, get?, same, different]
      · by_cases before : name < key <;> simp [insert, get?, same, before, different, ih]

theorem get?_erase_of_ne (fields : Fields α) {name other : String} (different : name ≠ other) :
    get? (erase fields name) other = get? fields other := by
  induction fields with
  | nil => rfl
  | cons entry rest ih =>
      obtain ⟨key, value⟩ := entry
      by_cases same : key = name
      · simp [erase, get?, same, different]
      · simp [erase, get?, same, ih]

theorem mem_of_get? {fields : Fields α} {name : String} {value : α}
    (found : get? fields name = some value) : (name, value) ∈ fields := by
  induction fields with
  | nil => cases found
  | cons entry rest ih =>
      obtain ⟨key, own⟩ := entry
      unfold get? at found
      split at found
      case isTrue same =>
        obtain rfl := Option.some.inj found
        subst same
        exact List.mem_cons_self
      case isFalse => exact List.mem_cons_of_mem _ (ih found)

end Fields

end MappedSql
