import MappedSql.Proofs.Execution.Calls
import MappedSql.Proofs.Marker.Elements
import MappedSql.Proofs.Placeholder.Written

namespace MappedSql

namespace Written

def ofPieces : List Piece → List Written
  | [] => []
  | .plain text :: rest => ofChars text ++ ofPieces rest
  | .token content :: rest => slot content :: ofPieces rest

def ofText (text : String) : List Written :=
  ofPieces (Piece.ofText '#' text)

def markedOne : Written → Char
  | char c => c
  | slot _ => '?'

def marked (written : List Written) : List Char :=
  written.map markedOne

def numbered (sign : Char) : Nat → List Written → List Char
  | _, [] => []
  | next, char c :: rest => c :: numbered sign next rest
  | next, slot _ :: rest => sign :: (toString next).toList ++ numbered sign (next + 1) rest

def InCode (written : List Written) : Prop :=
  ∀ before content after, written = before ++ slot content :: after →
    Marker.Code (marked written) ('?' :: marked after) ∧
      ∀ d ∈ (marked after).head?, d.isDigit = false

@[simp] theorem marked_append (a b : List Written) : marked (a ++ b) = marked a ++ marked b :=
  List.map_append

@[simp] theorem marked_slot (content : List Char) (rest : List Written) :
    marked (slot content :: rest) = '?' :: marked rest :=
  rfl

@[simp] theorem marked_char (c : Char) (rest : List Written) :
    marked (char c :: rest) = c :: marked rest :=
  rfl

@[simp] theorem length_marked (written : List Written) : (marked written).length = written.length :=
  List.length_map _

theorem contents_eq (pieces : List Piece) :
    Piece.contents pieces = (slots (ofPieces pieces)).map String.ofList := by
  induction pieces with
  | nil => rfl
  | cons piece rest ih => cases piece <;> simp [Piece.contents, ofPieces, slots, ih]

theorem replaceWith_eq (pieces : List Piece) :
    Id.run (Piece.replaceWith (fun _ => "?") pieces) =
      String.ofList (marked (ofPieces pieces)) := by
  induction pieces with
  | nil => rfl
  | cons piece rest ih =>
      cases piece with
      | plain text =>
          have same : marked (ofChars text) = text := by
            simp [marked, ofChars, Function.comp_def, markedOne]
          rw [ofPieces, marked_append, String.ofList_append, same, ← ih]
          rfl
      | token content =>
          have split : '?' :: marked (ofPieces rest) = ['?'] ++ marked (ofPieces rest) := rfl
          rw [ofPieces, marked_slot, split, String.ofList_append, ← ih]
          rfl

variable {written : List Written}

theorem getElem?_flags (unmarked : char '?' ∉ written) (inCode : InCode written)
    {before after : List Written} {head : Written} (split : written = before ++ head :: after) :
    (Marker.flags .code 0 (marked written))[before.length]? = some (isSlot head) := by
  cases head with
  | slot content =>
      have stands := inCode before content after split
      rw [split, marked_append, marked_slot] at stands ⊢
      rw [← length_marked before]
      exact Marker.flag_iff.2 stands
  | char c =>
      have inside : before.length < (Marker.flags .code 0 (marked written)).length := by
        simp [Marker.length_flags, split]
      rw [List.getElem?_eq_getElem inside, Option.some.injEq]
      -- a flagged character is a question mark, and the text has none of its own
      refine Bool.eq_false_iff.2 fun flagged => unmarked ?_
      have marks := Marker.marker_of_flagged (List.getElem?_eq_some_iff.2 ⟨inside, flagged⟩)
      rw [split, marked_append, marked_char, ← length_marked before,
        List.getElem?_append_right (Nat.le_refl _), Nat.sub_self] at marks
      obtain rfl : c = '?' := Option.some.inj marks
      simp [split]

theorem flags_eq_iff (unmarked : char '?' ∉ written) :
    Marker.flags .code 0 (marked written) = written.map isSlot ↔ InCode written := by
  constructor
  · rintro same before content after rfl
    rw [marked_append, marked_slot] at same ⊢
    refine Marker.flag_iff.1 ?_
    rw [same]
    simp [isSlot]
  · intro inCode
    have lengths :
        (Marker.flags .code 0 (marked written)).length = (written.map isSlot).length := by
      rw [Marker.length_flags, length_marked, List.length_map]
    refine List.ext_getElem lengths fun i flagged inside => ?_
    have inside : i < written.length := List.length_map isSlot ▸ inside
    have split : written = written.take i ++ written[i] :: written.drop (i + 1) := by
      rw [← List.drop_eq_getElem_cons inside, List.take_append_drop]
    have same := getElem?_flags unmarked inCode split
    rw [List.length_take_of_le inside.le, List.getElem?_eq_getElem flagged] at same
    rw [Option.some.inj same, List.getElem_map]

theorem writeNumbered_eq (sign : Char) (next : Nat) (written : List Written) :
    Marker.writeNumbered sign next ((marked written).zip (written.map isSlot)) =
      numbered sign next written := by
  induction written generalizing next with
  | nil => rfl
  | cons head rest ih =>
      cases head with
      | char c => exact congrArg (c :: ·) (ih next)
      | slot content =>
          exact congrArg (sign :: (toString next).toList ++ ·) (ih (next + 1))

theorem length_slots (written : List Written) :
    (slots written).length = written.countP isSlot := by
  induction written with
  | nil => rfl
  | cons head rest ih => cases head <;> simp [slots, isSlot, ih, List.countP_cons]

end Written

theorem Marker.length_positions (cs : List Char) :
    (positions cs).length = (flags .code 0 cs).countP id := by
  have counted (fs : List Bool) (start : Nat) :
      ((fs.zipIdx start).filter (·.1)).length = fs.countP id := by
    induction fs generalizing start with
    | nil => rfl
    | cons flag rest ih => cases flag <;> simp [List.zipIdx_cons, ih]
  rw [positions, List.length_map, counted]

def MarkerStyle.sign? : MarkerStyle → Option Char
  | .plain => none
  | .question => some '?'
  | .dollar => some '$'

theorem MarkerStyle.number_eq {style : MarkerStyle} {sign : Char} (signed : style.sign? = some sign)
    (sql : String) : style.number sql = Marker.numbered sign sql := by
  cases style <;> cases signed <;> rfl

theorem BoundSql.mem_placedFrom {bound : BoundSql} {mappings : List ParameterMapping}
    {start number : Nat} {value : Value} (mem : (number, value) ∈ bound.placedFrom start mappings) :
    ∃ i mapping, number = start + i ∧ mappings[i]? = some mapping ∧
      bound.converted mapping = .ok value := by
  induction mappings generalizing start with
  | nil => cases mem
  | cons mapping rest ih =>
      have later (mem : (number, value) ∈ bound.placedFrom (start + 1) rest) :
          ∃ i own, number = start + i ∧ (mapping :: rest)[i]? = some own ∧
            bound.converted own = .ok value := by
        obtain ⟨i, own, same, found, converted⟩ := ih mem
        exact ⟨i + 1, own, by omega, found, converted⟩
      unfold placedFrom at mem
      split at mem
      · split at mem
        · rename_i converted
          rcases List.mem_cons.1 mem with here | there
          · cases here
            exact ⟨0, mapping, rfl, rfl, converted⟩
          · exact later there
        · cases mem
      · exact later mem

namespace MarkedSql

open Written (InCode)

theorem written_of_ofText {setting : ParameterMapping.Setting} {text : String} {marked : MarkedSql}
    (parsed : MarkedSql.ofText setting text = .ok marked) :
    marked.sql = String.ofList (Written.marked (Written.ofText text)) ∧
      List.Forall₂ (fun content mapping =>
          ParameterMapping.ofPlaceholder setting (String.ofList content) = .ok mapping)
        (Written.slots (Written.ofText text)) marked.mappings := by
  obtain ⟨mappings, resolved, made⟩ := bind_eq_ok.1 parsed
  obtain rfl := pure_eq_ok.1 made
  rw [Written.contents_eq, mapM_eq_ok, List.forall₂_map_left_iff] at resolved
  exact ⟨Written.replaceWith_eq _, resolved⟩

/-- If all placeholders of a text stand in code and no digit follows any, as many markers are
numbered as there are mappings. The k-th placeholder became the marker with the number k, its
mapping is the k-th one, and the parameter handler sets at a number the value of that mapping. -/
theorem aligned_of_inCode {setting : ParameterMapping.Setting} {text : String} {marked : MarkedSql}
    (parsed : MarkedSql.ofText setting text = .ok marked)
    (unmarked : Written.char '?' ∉ Written.ofText text) (inCode : InCode (Written.ofText text))
    {style : MarkerStyle} {sign : Char} (signed : style.sign? = some sign) :
    (Marker.positions marked.sql.toList).length = marked.mappings.length ∧
      style.number marked.sql = String.ofList (Written.numbered sign 1 (Written.ofText text)) ∧
      List.Forall₂ (fun content mapping =>
          ParameterMapping.ofPlaceholder setting (String.ofList content) = .ok mapping)
        (Written.slots (Written.ofText text)) marked.mappings ∧
      ∀ {σ : Type} (pipeline : Pipeline σ) (handler : Handler),
        handler.bound.mappings = marked.mappings → ∀ (statement : StatementId) (scene : Scene σ),
          let placed := handler.bound.placedFrom 1 handler.bound.mappings
          (handler.bindFrom pipeline statement 1 handler.bound.mappings scene).2.source =
              (pipeline.source.place statement placed scene.source).2 ∧
            ∀ number value, (number, value) ∈ placed →
              ∃ i mapping, number = i + 1 ∧ marked.mappings[i]? = some mapping ∧
                handler.bound.converted mapping = .ok value := by
  obtain ⟨sql, mappings⟩ := written_of_ofText parsed
  have flagged := (Written.flags_eq_iff unmarked).2 inCode
  refine ⟨?_, ?_, mappings, fun pipeline handler same statement scene => ⟨?_, ?_⟩⟩
  · rw [Marker.length_positions, sql, String.toList_ofList, flagged, ← mappings.length_eq,
      Written.length_slots, List.countP_map]
    rfl
  · rw [MarkerStyle.number_eq signed, Marker.numbered, sql, String.toList_ofList, flagged,
      Written.writeNumbered_eq]
  · rw [handler.bindFrom_after]
  · intro number value mem
    obtain ⟨i, mapping, rfl, found, converted⟩ := BoundSql.mem_placedFrom mem
    exact ⟨i, mapping, Nat.add_comm 1 i, same ▸ found, converted⟩

def amongElements : String :=
  "select '#', #\x7ba\x7d /* it's */ from \"t\" where b = #\x7bb\x7d and c = $x$ it's $x$ -- #"

theorem aligned_of_inCode_amongElements :
    ∃ marked, MarkedSql.ofText ⟨.any, [], .initial⟩ amongElements = .ok marked ∧
      (Marker.positions marked.sql.toList).length = marked.mappings.length ∧
      marked.mappings.map (·.property) = ["a", "b"] ∧
      MarkerStyle.dollar.number marked.sql =
        "select '#', $1 /* it's */ from \"t\" where b = $2 and c = $x$ it's $x$ -- #" := by
  have parses : ∃ marked ∈ (MarkedSql.ofText ⟨.any, [], .initial⟩ amongElements).toOption,
      marked.mappings.map (·.property) = ["a", "b"] := by
    decide +kernel
  obtain ⟨marked, parsed, properties⟩ := parses
  have parsed := toOption_eq_some.1 parsed
  have unmarked : Written.char '?' ∉ Written.ofText amongElements := by decide +kernel
  have inCode : InCode (Written.ofText amongElements) :=
    (Written.flags_eq_iff unmarked).1 (by decide +kernel)
  have signed : MarkerStyle.dollar.sign? = some '$' := rfl
  obtain ⟨counted, numbered, -, -⟩ := aligned_of_inCode parsed unmarked inCode signed
  refine ⟨marked, parsed, counted, properties, numbered.trans ?_⟩
  decide +kernel

def Misaligned (text : String) : Prop :=
  Written.char '?' ∉ Written.ofText text ∧
    ∃ marked ∈ (ofText ⟨.any, [], .initial⟩ text).toOption,
      (Marker.positions marked.sql.toList).length < marked.mappings.length

instance : DecidablePred Misaligned := fun text =>
  inferInstanceAs (Decidable (_ ∧ ∃ marked ∈ (ofText ⟨.any, [], .initial⟩ text).toOption, _))

theorem exists_misaligned :
    Misaligned "select '#\x7ba\x7d', #\x7bb\x7d" ∧ Misaligned "select #\x7ba\x7d1, #\x7bb\x7d" := by
  decide +kernel

end MarkedSql

end MappedSql
