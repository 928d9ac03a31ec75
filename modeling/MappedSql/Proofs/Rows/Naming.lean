import MappedSql.Proofs.Fields
import MappedSql.Proofs.Template.Overrides
import MappedSql.Rows.Mapper

namespace MappedSql

namespace Text

theorem toLower_eq_self_or (c : Char) : c.toLower = c ∨ ∃ k < 26, c = Char.ofNat (65 + k) := by
  unfold Char.toLower
  split
  next upper =>
    obtain ⟨low, high⟩ := upper
    change 65 ≤ c.toNat at low
    change c.toNat ≤ 90 at high
    refine .inr ⟨c.toNat - 65, by omega, ?_⟩
    rw [Nat.add_sub_of_le low, Char.ofNat_toNat]
  next => exact .inl rfl

theorem toUpper_toLower (c : Char) : c.toLower.toUpper = c.toUpper := by
  rcases toLower_eq_self_or c with same | ⟨k, below, rfl⟩
  · rw [same]
  · exact (by decide : ∀ k < 26, (Char.ofNat (65 + k)).toLower.toUpper =
      (Char.ofNat (65 + k)).toUpper) k below

theorem toLower_toUpper (c : Char) : c.toUpper.toLower = c.toLower := by
  rcases toUpper_eq_self_or c with same | ⟨k, below, rfl⟩
  · rw [same]
  · exact (by decide : ∀ k < 26, (Char.ofNat (97 + k)).toUpper.toLower =
      (Char.ofNat (97 + k)).toLower) k below

theorem equalIgnoringCase_iff {s t : String} :
    equalIgnoringCase s t ↔ SameLetters s.toList t.toList := by
  have raise (cs : List Char) : (cs.map Char.toLower).map Char.toUpper = cs.map Char.toUpper := by
    rw [List.map_map]
    exact List.map_congr_left fun c _ => toUpper_toLower c
  have lower (cs : List Char) : (cs.map Char.toUpper).map Char.toLower = cs.map Char.toLower := by
    rw [List.map_map]
    exact List.map_congr_left fun c _ => toLower_toUpper c
  rw [equalIgnoringCase, beq_iff_eq, lowered, lowered, String.ofList_inj, SameLetters]
  constructor <;> intro same
  · rw [← raise, same, raise]
  · rw [← lower, same, lower]

end Text

variable {α : Type} {entries : List (String × α)} {name : String} {value : α}

def lastNamed? (entries : List (String × α)) (name : String) : Option α :=
  (entries.reverse.find? (·.1 = name)).map (·.2)

theorem lastNamed?_concat (entries : List (String × α)) (entry : String × α) (name : String) :
    lastNamed? (entries ++ [entry]) name =
      if entry.1 = name then some entry.2 else lastNamed? entries name := by
  rw [lastNamed?, List.reverse_concat, List.find?_cons]
  split <;> simp_all [lastNamed?]

theorem lastNamed?_eq_some_iff : lastNamed? entries name = some value ↔
    ∃ before after, entries = before ++ (name, value) :: after ∧
      ∀ entry ∈ after, entry.1 ≠ name := by
  constructor
  · intro found
    obtain ⟨⟨own, held⟩, last, rfl⟩ := Option.map_eq_some_iff.1 found
    obtain ⟨same, after, before, split, others⟩ := List.find?_eq_some_iff_append.1 last
    obtain rfl : own = name := by simpa using same
    refine ⟨before.reverse, after.reverse, ?_, fun entry mem => ?_⟩
    · simpa using congrArg List.reverse split
    · simpa using others entry (List.mem_reverse.1 mem)
  · rintro ⟨before, after, rfl, others⟩
    have passed : after.reverse.find? (·.1 = name) = none := by simpa using others
    simp [lastNamed?, passed]

theorem Fields.get?_ofList (entries : List (String × α)) (name : String) :
    Fields.get? (Fields.ofList entries) name = lastNamed? entries name := by
  induction entries using List.reverseRecOn with
  | nil => rfl
  | append_singleton entries entry ih =>
    have inserted : Fields.ofList (entries ++ [entry]) =
        Fields.insert (Fields.ofList entries) entry.1 entry.2 := by
      simp [Fields.ofList]
    rw [inserted, lastNamed?_concat]
    split
    next same => rw [← same, Fields.get?_insert_self]
    next different => rw [Fields.get?_insert_of_ne _ _ different, ih]

theorem lastNamed?_isSome_iff : (lastNamed? entries name).isSome ↔ name ∈ entries.map (·.1) := by
  simp [lastNamed?]

namespace Columns

theorem lastPosition?_concat (columns : Columns) (column name : String) :
    lastPosition? (columns ++ [column]) name =
      if column = name then some columns.length else lastPosition? columns name := by
  rw [lastPosition?, List.zipIdx_append, List.filter_append]
  by_cases same : column = name <;> simp [lastPosition?, same]

theorem lastPosition?_lt {columns : Columns} {position : Nat}
    (found : lastPosition? columns name = some position) : position < columns.length := by
  obtain ⟨⟨own, at_⟩, last, rfl⟩ := Option.map_eq_some_iff.1 found
  have mem := List.mem_of_mem_filter (List.mem_of_getLast? last)
  simpa using (List.mem_zipIdx' mem).1

theorem lastPosition?_bind (entries : List (String × α)) (name : String) :
    ((lastPosition? (entries.map (·.1)) name).bind fun position => (entries.map (·.2))[position]?) =
      lastNamed? entries name := by
  induction entries using List.reverseRecOn with
  | nil => rfl
  | append_singleton entries entry ih =>
    rw [List.map_append, List.map_append, List.map_singleton, List.map_singleton,
      lastPosition?_concat, lastNamed?_concat]
    split
    next => simp
    next =>
      rw [← ih]
      refine Option.bind_congr fun position found => ?_
      have within := lastPosition?_lt found
      rw [List.length_map] at within
      rw [List.getElem?_append_left (by simpa using within)]

theorem findIdx?_bind (alike : String → Bool) (entries : List (String × α)) :
    (((entries.map (·.1)).findIdx? alike).bind fun position => (entries.map (·.2))[position]?) =
      (entries.find? (alike ·.1)).map (·.2) := by
  induction entries with
  | nil => rfl
  | cons entry rest ih =>
    rw [List.map_cons, List.map_cons, List.findIdx?_cons, List.find?_cons]
    cases alike entry.1 with
    | true => rfl
    | false =>
      rw [← ih, if_neg Bool.false_ne_true, Option.bind_map]
      rfl

end Columns

namespace Row

variable {row : Row} {value : Value}

def IsLastNamed (row : Row) (name : String) (value : Value) : Prop :=
  ∃ before after, row.pairs = before ++ (name, value) :: after ∧
    ∀ entry ∈ after, entry.1 ≠ name

/-- The value of the first column whose name differs in letter case at most. -/
def IsFirstAlike (row : Row) (name : String) (value : Value) : Prop :=
  ∃ before own after, row.pairs = before ++ (own, value) :: after ∧
    Text.SameLetters own.toList name.toList ∧
    ∀ entry ∈ before, ¬Text.SameLetters entry.1.toList name.toList

section

variable (full : row.values.length = row.columns.length)
include full

theorem columns_eq_map_pairs : row.columns = row.pairs.map (·.1) :=
  (List.map_fst_zip full.ge).symm

theorem values_eq_map_pairs : row.values = row.pairs.map (·.2) :=
  (List.map_snd_zip full.le).symm

theorem get?_eq_of_full (name : String) : row.get? name =
    if name ∈ row.columns then lastNamed? row.pairs name
    else (row.pairs.find? (Text.equalIgnoringCase ·.1 name)).map (·.2) := by
  have exact := Columns.lastPosition?_bind row.pairs name
  have alike := Columns.findIdx?_bind (Text.equalIgnoringCase · name) row.pairs
  rw [← columns_eq_map_pairs full, ← values_eq_map_pairs full] at exact alike
  rw [get?, Columns.position?]
  split
  next named =>
    rw [columns_eq_map_pairs full, ← lastNamed?_isSome_iff, ← exact] at named
    cases found : Columns.lastPosition? row.columns name with
    | none => simp [found] at named
    | some position => rw [← exact, found, Option.some_or]
  next unnamed =>
    have missing : Columns.lastPosition? row.columns name = none := by
      refine Option.map_eq_none_iff.2 (List.getLast?_eq_none_iff.2 (List.filter_eq_nil_iff.2 ?_))
      intro entry mem same
      exact unnamed (of_decide_eq_true same ▸ List.fst_mem_of_mem_zipIdx mem)
    rw [missing, Option.none_or, alike]

/-- By each of its names a row gives the value that the map and the record made of it hold there, the
value of the last column of that name; another name leads to the first column alike, if any. -/
theorem get?_eq_mapped (name : String) :
    (name ∈ row.columns → ∃ value, row.IsLastNamed name value ∧ row.get? name = some value ∧
      (∃ fields, RowMapper.map.mapRow row = .ok (.map fields) ∧
        Fields.get? fields name = some value) ∧
      ∀ typeName, ∃ fields, (RowMapper.record typeName).mapRow row =
        .ok (.record typeName fields) ∧ Fields.get? fields name = some value) ∧
    (name ∉ row.columns → ∀ value, row.get? name = some value ↔ row.IsFirstAlike name value) := by
  constructor
  · intro named
    have held := get?_eq_of_full full name
    rw [if_pos named] at held
    rw [columns_eq_map_pairs full, ← lastNamed?_isSome_iff] at named
    obtain ⟨value, last⟩ := Option.isSome_iff_exists.1 named
    have mapped : Fields.get? (Fields.ofList row.pairs) name = some value := by
      rw [Fields.get?_ofList, last]
    exact ⟨value, lastNamed?_eq_some_iff.1 last, held.trans last, ⟨_, rfl, mapped⟩,
      fun typeName => ⟨_, rfl, mapped⟩⟩
  · intro unnamed value
    rw [get?_eq_of_full full name, if_neg unnamed]
    constructor
    · intro found
      obtain ⟨⟨own, held⟩, first, rfl⟩ := Option.map_eq_some_iff.1 found
      obtain ⟨same, before, after, split, others⟩ := List.find?_eq_some_iff_append.1 first
      refine ⟨before, own, after, split, Text.equalIgnoringCase_iff.1 same, fun entry mem => ?_⟩
      simpa [← Text.equalIgnoringCase_iff] using others entry mem
    · rintro ⟨before, own, after, split, same, others⟩
      refine Option.map_eq_some_iff.2 ⟨(own, value), List.find?_eq_some_iff_append.2 ⟨?_, before,
        after, split, fun entry mem => ?_⟩, rfl⟩
      · exact Text.equalIgnoringCase_iff.2 same
      · simpa [← Text.equalIgnoringCase_iff] using others entry mem

end

def doubled : Row where
  columns := ["id", "ID", "name", "id", "Name"]
  values := [.int 1, .int 2, .text "ann", .int 3, .text "bea"]

theorem get?_eq_mapped_doubled :
    doubled.values.length = doubled.columns.length ∧
      doubled.IsLastNamed "id" (.int 3) ∧ doubled.get? "id" = some (.int 3) ∧
      doubled.get? "NAME" = some (.text "ann") := by
  have full : doubled.values.length = doubled.columns.length := rfl
  have last : doubled.get? "id" = some (.int 3) := rfl
  obtain ⟨value, named, held, -⟩ := (get?_eq_mapped full "id").1 (by decide)
  obtain rfl : value = .int 3 := Option.some.inj (held.symm.trans last)
  have alike : doubled.IsFirstAlike "NAME" (.text "ann") :=
    ⟨[("id", .int 1), ("ID", .int 2)], "name", [("id", .int 3), ("Name", .text "bea")], rfl,
      by decide, by decide⟩
  exact ⟨full, named, last, ((get?_eq_mapped full "NAME").2 (by decide) _).2 alike⟩

end Row

end MappedSql
