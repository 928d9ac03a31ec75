import Mathlib.Data.String.Basic
import MappedSql.Fields

namespace MappedSql.Fields

variable {α : Type} {fields : Fields α} {name : String} {value : α}

theorem get?_eq_none_of_forall_ne (other : ∀ entry ∈ fields, entry.1 ≠ name) :
    get? fields name = none := by
  induction fields with
  | nil => rfl
  | cons entry rest ih =>
    rw [List.forall_mem_cons] at other
    rw [get?, if_neg other.1, ih other.2]

theorem eq_or_mem_of_mem_insert {entry : String × α} (mem : entry ∈ insert fields name value) :
    entry = (name, value) ∨ entry ∈ fields := by
  induction fields with
  | nil => exact .inl (List.mem_singleton.1 mem)
  | cons first rest ih =>
      obtain ⟨key, old⟩ := first
      unfold insert at mem
      split at mem
      case isTrue => exact (List.mem_cons.1 mem).imp_right (List.mem_cons_of_mem _)
      case isFalse =>
        split at mem
        case isTrue => exact List.mem_cons.1 mem
        case isFalse =>
          rcases List.mem_cons.1 mem with rfl | later
          · exact .inr List.mem_cons_self
          · exact (ih later).imp_right (List.mem_cons_of_mem _)

theorem insert_insert (fields : Fields α) (name : String) (old value : α) :
    insert (insert fields name old) name value = insert fields name value := by
  induction fields with
  | nil => simp [insert]
  | cons entry rest ih =>
      obtain ⟨key, own⟩ := entry
      by_cases same : key = name
      · simp [insert, same]
      · by_cases before : name < key <;> simp [insert, same, before, ih]

theorem erase_sublist (fields : Fields α) (name : String) : (erase fields name).Sublist fields := by
  induction fields with
  | nil => exact .slnil
  | cons entry rest ih =>
    unfold erase
    split
    · exact List.sublist_cons_self _ _
    · exact ih.cons_cons entry

theorem Sorted.insert (sorted : Sorted fields) (name : String) (value : α) :
    Sorted (insert fields name value) := by
  induction fields with
  | nil => exact List.pairwise_singleton _ _
  | cons entry rest ih =>
    obtain ⟨first, later⟩ := List.pairwise_cons.1 sorted
    unfold Fields.insert
    split
    next same =>
      subst same
      exact List.pairwise_cons.2 ⟨first, later⟩
    next different =>
      split
      next before =>
        refine List.pairwise_cons.2 ⟨fun other mem => ?_, sorted⟩
        rcases List.mem_cons.1 mem with rfl | mem
        · exact before
        · exact before.trans (first other mem)
      next behind =>
        refine List.pairwise_cons.2 ⟨fun other mem => ?_, ih later⟩
        rcases eq_or_mem_of_mem_insert mem with rfl | mem
        · exact lt_of_le_of_ne (not_lt.1 behind) different
        · exact first other mem

theorem Sorted.insert_of_get? (sorted : Sorted fields) (found : get? fields name = some value) :
    Fields.insert fields name value = fields := by
  induction fields with
  | nil => cases found
  | cons entry rest ih =>
      obtain ⟨key, own⟩ := entry
      obtain ⟨first, later⟩ := List.pairwise_cons.1 sorted
      unfold get? at found
      unfold Fields.insert
      split at found
      next same =>
        obtain rfl := Option.some.inj found
        rw [if_pos same, same]
      next different =>
        have behind : key < name := first (name, value) (mem_of_get? found)
        rw [if_neg different, if_neg behind.asymm, ih later found]

theorem Sorted.erase (sorted : Sorted fields) (name : String) : Sorted (erase fields name) :=
  sorted.sublist (erase_sublist fields name)

theorem Sorted.get?_erase_self (sorted : Sorted fields) (name : String) :
    get? (Fields.erase fields name) name = none := by
  induction fields with
  | nil => rfl
  | cons entry rest ih =>
    obtain ⟨first, later⟩ := List.pairwise_cons.1 sorted
    unfold Fields.erase
    split
    next same =>
      subst same
      exact get?_eq_none_of_forall_ne fun other mem => (first other mem).ne'
    next different => rw [get?, if_neg different, ih later]

end MappedSql.Fields
