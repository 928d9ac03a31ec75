import MappedSql.Proofs.Expr.Printing
import MappedSql.Proofs.Number.Numerals
import MappedSql.Proofs.Outcome
import MappedSql.Proofs.Template.Binding
import MappedSql.Proofs.Text.Trimming
import MappedSql.Source
import MappedSql.Value.Path

/-!
# Paths in expressions and in placeholders

A path that writes plain names behind points and indexes in brackets is read as the steps it was
written from, from its root on as well as below it.

A path of identifiers and indexes can be evaluated as an expression, and it can stand in a
placeholder. Both lead to the same value (`evaluate_eq_ok_iff_parameterValue`), unless an identifier
is applied to a list, which an expression refuses and a placeholder takes for null.
-/

namespace MappedSql

/-! ## Written paths -/

namespace Step

def written : Step → List Char
  | field name => '.' :: name.toList
  | index position => '[' :: (Nat.toDigits 10 position ++ [']'])

def IsPlain : Step → Prop
  | field name => IsName name.toList
  | index position => position < Nat.pow 2 64

theorem ofKey?_toDigits {position : Nat} (fits : position < Nat.pow 2 64) :
    ofKey? (Nat.toDigits 10 position) = some (index position) := by
  have trimmed : Text.trim (Nat.toDigits 10 position) = Nat.toDigits 10 position :=
    Text.trimBoth_eq_self fun c mem => Text.not_isBlank_of_isDigit (Number.isDigit_of_mem_toDigits mem)
  have unquoted : Text.trimBoth isQuote (Nat.toDigits 10 position) = Nat.toDigits 10 position :=
    Text.trimBoth_eq_self fun c mem => by
      have digit := Number.isDigit_of_mem_toDigits mem
      have other : c ≠ '\'' ∧ c ≠ '"' :=
        ⟨Number.ne_of_isDigit digit (by decide), Number.ne_of_isDigit digit (by decide)⟩
      simp [isQuote, other]
  rw [ofKey?, trimmed, unquoted, Number.readIndex?_toDigits fits]

theorem IsPlain.visible {step : Step} (plain : step.IsPlain) :
    ∀ c ∈ step.written, Text.isBlank c = false := by
  intro c mem
  cases step with
  | field name =>
      rcases List.mem_cons.1 mem with rfl | inside
      · decide
      · exact isNameChar_visible (plain.2 c inside)
  | index position =>
      simp only [written, List.mem_cons, List.mem_append, List.not_mem_nil, or_false] at mem
      rcases mem with rfl | digit | rfl
      · decide
      · exact Text.not_isBlank_of_isDigit (Number.isDigit_of_mem_toDigits digit)
      · decide

end Step

namespace Path

theorem readSteps?_name {name : List Char} (plain : ∀ c ∈ name, isNameChar c) (after : Bool)
    (pending rest : List Char) :
    readSteps? after pending (name ++ rest) = readSteps? after (name.reverse ++ pending) rest := by
  induction name generalizing pending with
  | nil => rfl
  | cons c name ih =>
      have char := isNameChar_plain (plain c List.mem_cons_self)
      have visible := isNameChar_visible (plain c List.mem_cons_self)
      rw [List.cons_append, readSteps?, if_neg char.1, if_neg char.2.1, visible, if_neg (by decide),
        ih fun d mem => plain d (List.mem_cons_of_mem c mem)]
      simp

theorem readKey?_digits {digits : List Char} (numeral : ∀ c ∈ digits, c.isDigit)
    (key rest : List Char) :
    readKey? key (digits ++ ']' :: rest) = readKey? (digits.reverse ++ key) (']' :: rest) := by
  induction digits generalizing key with
  | nil => rfl
  | cons c digits ih =>
      have inside := Number.ne_of_isDigit (numeral c List.mem_cons_self) (d := ']') (by decide)
      rw [List.cons_append, readKey?, if_neg inside,
        ih fun d mem => numeral d (List.mem_cons_of_mem c mem)]
      simp

theorem readKey?_toDigits {position : Nat} (fits : position < Nat.pow 2 64) (rest : List Char) :
    readKey? [] (Nat.toDigits 10 position ++ ']' :: rest) =
      (readSteps? true [] rest).map (.index position :: ·) := by
  rw [readKey?_digits fun c mem => Number.isDigit_of_mem_toDigits mem, List.append_nil, readKey?,
    if_pos rfl, List.reverse_reverse, Step.ofKey?_toDigits fits]
  rfl

theorem readSteps?_written {steps : List Step} (plain : ∀ step ∈ steps, step.IsPlain) :
    (∀ after pending, pending ≠ [] → readSteps? after pending (steps.flatMap Step.written) =
      some (.field (String.ofList pending.reverse) :: steps)) ∧
    readSteps? true [] (steps.flatMap Step.written) = some steps := by
  induction steps with
  | nil =>
      refine ⟨fun after pending ne => ?_, rfl⟩
      simp [readSteps?, pendingStep, ne]
  | cons step steps ih =>
      obtain ⟨named, unnamed⟩ := ih fun s mem => plain s (List.mem_cons_of_mem step mem)
      have known := plain step List.mem_cons_self
      cases step with
      | field name =>
          have read : ∀ after, readSteps? after [] (name.toList ++ steps.flatMap Step.written) =
              some (.field name :: steps) := by
            intro after
            rw [readSteps?_name known.2, named after _ (by simpa using known.1)]
            simp
          refine ⟨fun after pending ne => ?_, ?_⟩
          · simp [Step.written, readSteps?, pendingStep, ne, read]
          · simp [Step.written, readSteps?, read]
      | index position =>
          have read := readKey?_toDigits known (steps.flatMap Step.written)
          refine ⟨fun after pending ne => ?_, ?_⟩
          · simp [Step.written, readSteps?, pendingStep, ne, read, unnamed]
          · simp [Step.written, readSteps?, pendingStep, read, unnamed]

theorem parse_of_readSteps? {cs : List Char} {step : Step} {steps : List Step}
    (visible : ∀ c ∈ cs, Text.isBlank c = false)
    (read : readSteps? false [] cs = some (step :: steps)) :
    parse (String.ofList cs) = .ok (step :: steps) := by
  rw [parse, String.toList_ofList, Text.trim_eq_self visible, read]

def text (root : String) (steps : List Step) : String :=
  String.ofList (root.toList ++ steps.flatMap Step.written)

section

variable {root : String} {steps : List Step}

theorem visible_written (plain : ∀ step ∈ steps, step.IsPlain) :
    ∀ c ∈ steps.flatMap Step.written, Text.isBlank c = false := by
  intro c mem
  obtain ⟨step, inside, mem⟩ := List.mem_flatMap.1 mem
  exact (plain step inside).visible c mem

theorem parse_text (named : IsName root.toList) (plain : ∀ step ∈ steps, step.IsPlain) :
    parse (text root steps) = .ok (.field root :: steps) := by
  refine parse_of_readSteps? (fun c mem => ?_) ?_
  · rcases List.mem_append.1 mem with before | behind
    · exact isNameChar_visible (named.2 c before)
    · exact visible_written plain c behind
  · rw [readSteps?_name named.2, (readSteps?_written plain).1 _ _ (by simpa using named.1)]
    simp

theorem isBelow_written (steps : List Step) : IsBelow (steps.flatMap Step.written) := by
  cases steps with
  | nil => exact .inl rfl
  | cons step steps =>
      cases step with
      | field name => exact .inr ⟨_, .inl rfl⟩
      | index position => exact .inr ⟨_, .inr rfl⟩

theorem splitRoot_text (named : IsName root.toList) (steps : List Step) :
    splitRoot (text root steps) = (root, belowPath (steps.flatMap Step.written)) := by
  have rooted : ∀ c ∈ root.toList, c ≠ '.' ∧ c ≠ '[' := fun c mem =>
    have plain := isNameChar_plain (named.2 c mem)
    ⟨plain.1, plain.2.1⟩
  rw [text, splitRoot_append rooted (isBelow_written steps), String.ofList_toList]

theorem exists_belowPath {step : Step} (plain : ∀ other ∈ step :: steps, other.IsPlain) :
    ∃ path, belowPath ((step :: steps).flatMap Step.written) = some path ∧
      parse path = .ok (step :: steps) := by
  have known := plain step List.mem_cons_self
  have visible := visible_written plain
  obtain ⟨named, unnamed⟩ :=
    readSteps?_written fun other mem => plain other (List.mem_cons_of_mem step mem)
  cases step with
  | field name =>
      refine ⟨String.ofList (name.toList ++ steps.flatMap Step.written), ?_, ?_⟩
      · simp [belowPath, splitRoot, Step.written]
      · refine parse_of_readSteps? (fun c mem => visible c (List.mem_cons_of_mem '.' mem)) ?_
        rw [readSteps?_name known.2, named _ _ (by simpa using known.1)]
        simp
  | index position =>
      refine ⟨_, ?_, parse_of_readSteps? visible ?_⟩
      · simp [belowPath, splitRoot, Step.written]
      · simp [Step.written, readSteps?, pendingStep, readKey?_toDigits known, unnamed]

end

end Path

/-! ## Simple paths -/

/-- An identifier, or an index that a signed machine word holds. -/
def Step.IsSimple : Step → Prop
  | field name => Expr.isIdentifier name = true
  | index position => position < Nat.pow 2 63

namespace Expr

/-! ## A path as an expression -/

def stepTokens : Step → List Token
  | .field name => [.dot, .name name]
  | .index position => [.leftBracket, .int (Int64.ofNat position), .rightBracket]

def stepBelow (target : Expr) : Step → Expr
  | .field name => member target name
  | .index position => index target (literal (.int (Int64.ofNat position)))

variable {root : String} {step : Step} {steps : List Step}

theorem isNameChar_of_isAlphanum {c : Char} (plain : c.isAlphanum) : isNameChar c := by
  have ascii : ∀ n < 0x80, (Char.ofNat n).isAlphanum → isNameChar (Char.ofNat n) := by decide
  have known := ascii c.toNat (Text.toNat_lt_of_isAlphanum plain)
  rw [Char.ofNat_toNat] at known
  exact known plain

theorem isName_of_isIdentifier {word : String} (identifier : isIdentifier word = true) :
    IsName word.toList := by
  unfold isIdentifier at identifier
  split at identifier
  · contradiction
  · next c rest split =>
      simp only [Bool.and_eq_true, Bool.or_eq_true, beq_iff_eq, List.all_eq_true] at identifier
      rw [split]
      refine ⟨List.cons_ne_nil c rest, List.forall_mem_cons.2 ⟨?_, fun d mem => ?_⟩⟩
      · rcases identifier.1 with (letter | rfl) | rfl
        · exact isNameChar_of_isAlphanum (by simp [Char.isAlphanum, letter])
        all_goals decide
      · rcases identifier.2 d mem with (plain | rfl) | rfl
        · exact isNameChar_of_isAlphanum plain
        all_goals decide

theorem toInt_ofNat {position : Nat} (fits : position < Nat.pow 2 63) :
    (Int64.ofNat position).toInt = position :=
  Int64.toInt_ofNat_of_lt fits

theorem isPlain_of_isSimple (simple : step.IsSimple) : step.IsPlain := by
  cases step with
  | field name => exact isName_of_isIdentifier simple
  | index position => exact Nat.lt_trans simple (by decide)

theorem write_stepTokens (simple : ∀ step ∈ steps, step.IsSimple) (n : Nat) :
    Gaps.none.write n (steps.flatMap stepTokens) = steps.flatMap Step.written := by
  induction steps generalizing n with
  | nil => rfl
  | cons step steps ih =>
      have rest := fun n => ih (fun other mem => simple other (List.mem_cons_of_mem step mem)) n
      have known := simple step List.mem_cons_self
      cases step with
      | field name => simp [stepTokens, Gaps.write, Gaps.none, Token.spell, Step.written, ← rest (n + 2)]
      | index position =>
          simp [stepTokens, Gaps.write, Gaps.none, Token.spell, Step.written, ← rest (n + 3),
            toInt_ofNat known]

theorem legible_stepTokens {token : Token} (writable : token.Writable)
    (told : token.apart .dot = true ∧ token.apart .leftBracket = true)
    (simple : ∀ step ∈ steps, step.IsSimple) : Legible (token :: steps.flatMap stepTokens) := by
  induction steps generalizing token with
  | nil => exact .single writable
  | cons step steps ih =>
      have rest : ∀ token : Token, token.Writable →
          token.apart .dot = true ∧ token.apart .leftBracket = true →
            Legible (token :: steps.flatMap stepTokens) :=
        fun token writable told => ih writable told fun other mem =>
          simple other (List.mem_cons_of_mem step mem)
      have known := simple step List.mem_cons_self
      cases step with
      | field name =>
          exact .cons writable told.1 (.cons trivial rfl
            (rest (.name name) (writable_of_isIdentifier known) ⟨rfl, rfl⟩))
      | index position =>
          have number : (Token.int (Int64.ofNat position)).Writable := by
            change 0 ≤ (Int64.ofNat position).toInt
            rw [toInt_ofNat known]
            exact Int.natCast_nonneg position
          exact .cons writable told.2 (.cons trivial rfl (.cons number rfl
            (rest .rightBracket trivial ⟨rfl, rfl⟩)))

theorem extends_stepTokens (target : Expr) (steps : List Step) :
    Extends (steps.length + 8) target (steps.flatMap stepTokens) (steps.foldl stepBelow target) := by
  induction steps generalizing target with
  | nil => exact .nil target
  | cons step steps ih =>
      rw [List.length_cons, Nat.add_right_comm, List.foldl_cons, List.flatMap_cons]
      cases step with
      | field name =>
          refine (ih (member target name)).member ?_
          cases steps with
          | nil => simp
          | cons next steps => cases next <;> simp [stepTokens]
      | index position =>
          have plain : (Token.int (Int64.ofNat position)).Plain := ⟨rfl, rfl⟩
          have key := reads_token plain fun _ _ => rfl
          exact .index (key.mono (Nat.le_add_left 8 _)) (ih _)

theorem length_le_stepTokens (steps : List Step) :
    steps.length ≤ (steps.flatMap stepTokens).length := by
  induction steps with
  | nil => exact Nat.le_refl 0
  | cons step steps ih =>
      rw [List.flatMap_cons, List.length_append, List.length_cons, Nat.add_comm]
      exact Nat.add_le_add (by cases step <;> simp [stepTokens]) ih

theorem parse_path (named : isVariable root = true) (simple : ∀ step ∈ steps, step.IsSimple) :
    parse (Path.text root steps) = .ok (steps.foldl stepBelow (var root)) := by
  have writable := writable_of_isIdentifier (isVariable_iff.1 named).1
  have primary := (reads_single (parsePrimary_variable named)).mono
    (Nat.le_add_left 1 (steps.length + 7))
  have reads := (primary.extend (extends_stepTokens (var root) steps)).ofPostfix (plain_variable named)
  have enough : steps.length + 7 + 1 + 1 + 6 ≤ enoughFuel (.name root :: steps.flatMap stepTokens) := by
    have shorter := length_le_stepTokens steps
    rw [enoughFuel, List.length_cons]
    omega
  have text : Path.text root steps =
      String.ofList (Gaps.none.write 0 (.name root :: steps.flatMap stepTokens)) := by
    rw [Gaps.write, write_stepTokens simple]
    rfl
  rw [text]
  exact parse_write (legible_stepTokens writable ⟨rfl, rfl⟩ simple) (reads.mono enough) Gaps.none

/-! ## Evaluating a path -/

def stepInto (value : Value) : Step → Evaluated Value
  | .field name => memberOf name value
  | .index position => elementOf value (.int (Int64.ofNat position))

theorem eval_foldl_stepBelow (scope : Scope) (target : Expr) (steps : List Step) :
    eval scope (steps.foldl stepBelow target) =
      eval scope target >>= fun value => steps.foldlM stepInto value := by
  induction steps generalizing target with
  | nil => simp
  | cons step steps ih =>
      rw [List.foldl_cons, ih]
      cases step with
      | field name => simp [stepBelow, eval, stepInto]
      | index position =>
          simp only [stepBelow, eval, stepInto, List.foldlM_cons, bind_assoc]
          rfl

theorem foldlM_stepInto_null (steps : List Step) :
    steps.foldlM stepInto .null = .ok .null := by
  induction steps with
  | nil => rfl
  | cons step steps ih => cases step <;> exact ih

end Expr

/-! ## Following a path -/

namespace Value

def refuses : Value → Step → Bool
  | list _, .field _ => true
  | _, _ => false

/-- Whether following steps from a value applies no name to a list. -/
def offLists (value : Value) : List Step → Bool
  | [] => true
  | step :: steps =>
      !value.refuses step && match value.child? step with
        | some next => next.offLists steps
        | none => true

/-- Whether steps from a value come through null, to a key that is missing or to an index out of range. -/
def vanishes : Value → List Step → Bool
  | null, _ => true
  | _, [] => false
  | value, step :: steps =>
      value.isComposite && match value.child? step with
        | some next => next.vanishes steps
        | none => true

variable {value found : Value} {step : Step} {steps : List Step}

theorem vanishes_cons (present : value.isNull = false) :
    value.vanishes (step :: steps) = (value.isComposite && match value.child? step with
      | some next => next.vanishes steps
      | none => true) := by
  cases value with
  | null => cases present
  | _ => rfl

theorem stepInto_composite (composite : value.isComposite = true)
    (unrefused : value.refuses step = false) (simple : step.IsSimple) :
    Expr.stepInto value step = .ok ((value.child? step).getD .null) := by
  cases step with
  | field name =>
      cases value with
      | list _ => cases unrefused
      | map _ | record _ _ => rfl
      | _ => cases composite
  | index position =>
      have exact := Expr.toInt_ofNat simple
      have shown : toString (position : Int) = toString position := rfl
      cases value with
      | list items => simp [Expr.stepInto, Expr.elementOf, child?, exact]
      | map fields => simp [Expr.stepInto, Expr.elementOf, child?, exact, display, shown]
      | record typeName fields => simp [Expr.stepInto, Expr.elementOf, child?, exact, display, shown]
      | _ => cases composite

theorem stepInto_scalar (step : Step) (present : value.isNull = false)
    (scalar : value.isComposite = false) : ∃ message, Expr.stepInto value step = .error message := by
  cases value with
  | null => cases present
  | list _ | map _ | record _ _ => cases scalar
  | _ => cases step <;> exact ⟨_, rfl⟩

theorem foldlM_stepInto_of_vanishes (vanishes : value.vanishes steps = true)
    (off : value.offLists steps = true) (simple : ∀ step ∈ steps, step.IsSimple) :
    steps.foldlM Expr.stepInto value = .ok .null := by
  induction steps generalizing value with
  | nil =>
      cases value with
      | null => rfl
      | _ => cases vanishes
  | cons step steps ih =>
      have later : ∀ other ∈ steps, other.IsSimple := fun other mem =>
        simple other (List.mem_cons_of_mem step mem)
      cases absent : value.isNull with
      | true =>
          cases value with
          | null => exact Expr.foldlM_stepInto_null _
          | _ => cases absent
      | false =>
          rw [vanishes_cons absent, Bool.and_eq_true] at vanishes
          simp only [offLists, Bool.and_eq_true, Bool.not_eq_true'] at off
          rw [List.foldlM_cons, stepInto_composite vanishes.1 off.1 (simple step List.mem_cons_self)]
          cases reached : value.child? step with
          | none => exact Expr.foldlM_stepInto_null steps
          | some next =>
              rw [reached] at vanishes off
              exact ih vanishes.2 off.2 later

theorem foldlM_stepInto_eq_ok_iff (off : value.offLists steps = true)
    (simple : ∀ step ∈ steps, step.IsSimple) (path : String) :
    steps.foldlM Expr.stepInto value = .ok found ↔
      (value.follow path steps).map (·.getD .null) = .ok found := by
  induction steps generalizing value with
  | nil => exact Iff.of_eq (by simp [follow, Except.map, pure, Except.pure])
  | cons step steps ih =>
      have later : ∀ other ∈ steps, other.IsSimple := fun other mem =>
        simple other (List.mem_cons_of_mem step mem)
      simp only [offLists, Bool.and_eq_true, Bool.not_eq_true'] at off
      rw [follow]
      cases absent : value.isNull with
      | true =>
          cases value with
          | null => rw [Expr.foldlM_stepInto_null]; simp [Except.map]
          | _ => cases absent
      | false =>
          cases composite : value.isComposite with
          | false =>
              obtain ⟨message, failed⟩ := stepInto_scalar step absent composite
              rw [List.foldlM_cons, failed]
              simp [failWith, Except.map, throw, throwThe, MonadExceptOf.throw, bind, Except.bind]
          | true =>
              rw [List.foldlM_cons, stepInto_composite composite off.1 (simple step List.mem_cons_self)]
              cases reached : value.child? step with
              | none =>
                  change steps.foldlM Expr.stepInto .null = _ ↔ _
                  rw [Expr.foldlM_stepInto_null]
                  simp [Except.map]
              | some next =>
                  rw [reached] at off
                  exact ih off.2 later

end Value

/-! ## Placeholders -/

namespace BoundSql

variable {value found : Value} {steps : List Step}

theorem resolvePath_eq_ok_iff {path : String} (read : Path.parse path = .ok steps)
    (property : String) : resolvePath value path property = .ok found ↔
      (value.follow path steps).map (·.getD .null) = .ok found := by
  have looked : value.lookupPath path = value.follow path steps := by
    rw [Value.lookupPath, read]
    rfl
  rw [resolvePath, looked]
  split <;> next failed => rw [failed]; simp [Except.map]

theorem resolveBelow_eq_ok_iff (off : value.offLists steps = true)
    (simple : ∀ step ∈ steps, step.IsSimple) (property : String) :
    resolveBelow value (belowPath (steps.flatMap Step.written)) property = .ok found ↔
      steps.foldlM Expr.stepInto value = .ok found := by
  cases steps with
  | nil => simp [belowPath, splitRoot, resolveBelow, pure, Except.pure]
  | cons step steps =>
      obtain ⟨path, written, read⟩ := Path.exists_belowPath fun other mem =>
        Expr.isPlain_of_isSimple (simple other mem)
      rw [written, Value.foldlM_stepInto_eq_ok_iff off simple path]
      exact resolvePath_eq_ok_iff read property

theorem propertyValue_eq_resolvePath {bound : BoundSql} {property : String}
    (unbound : Fields.get? bound.additional (splitRoot property).1 = none)
    (other : (splitRoot property).1 ≠ parameterName) (present : bound.parameter.isNull = false)
    (apart : bound.boundWhole = false)
    (declared : undeclared bound.declaredFields (splitRoot property).1 = false) :
    bound.propertyValue property = resolvePath bound.parameter property property := by
  simp only [propertyValue, unbound, if_neg other, present, apart, declared, Bool.false_eq_true,
    if_false]

end BoundSql

/-- A map, or a record of a type that no schema declares, and no handler binds it as a whole. -/
def CompileSetting.Exposes (setting : CompileSetting) (parameter : Value) : Prop :=
  setting.registry.hasHandler parameter.kind = false ∧
    match parameter with
    | .map _ => True
    | .record typeName _ => setting.registry.schema? typeName = none
    | _ => False

namespace CompileSetting.Exposes

variable {setting : CompileSetting} {parameter : Value} (exposed : setting.Exposes parameter)
include exposed

theorem cases : (∃ fields, parameter = .map fields) ∨
    ∃ typeName fields, parameter = .record typeName fields ∧
      setting.registry.schema? typeName = none := by
  have shape := exposed.2
  split at shape
  · next fields => exact .inl ⟨fields, rfl⟩
  · next typeName fields => exact .inr ⟨typeName, fields, rfl, shape⟩
  · cases shape

theorem isNull : parameter.isNull = false := by
  obtain ⟨fields, rfl⟩ | ⟨typeName, fields, rfl, -⟩ := exposed.cases <;> rfl

theorem isComposite : parameter.isComposite = true := by
  obtain ⟨fields, rfl⟩ | ⟨typeName, fields, rfl, -⟩ := exposed.cases <;> rfl

theorem refuses_field (name : String) : parameter.refuses (.field name) = false := by
  obtain ⟨fields, rfl⟩ | ⟨typeName, fields, rfl, -⟩ := exposed.cases <;> rfl

theorem undeclared (name : String) :
    BoundSql.undeclared (SqlSource.declaredFields setting.registry parameter) name = false := by
  obtain ⟨fields, rfl⟩ | ⟨typeName, fields, rfl, unknown⟩ := exposed.cases
  · rfl
  · simp only [SqlSource.declaredFields, unknown, Option.map_none]
    rfl

end CompileSetting.Exposes

theorem Expr.evaluate_eq_ok_iff {source : String} {e : Expr} (parsed : parse source = .ok e)
    (scope : Scope) (found : Value) :
    evaluate source scope = .ok found ↔ e.eval scope = .ok found := by
  rw [evaluate, compile, parsed]
  cases result : e.eval scope <;> simp [result, Except.mapError, bind, Except.bind]

section

variable {context : Context} {setting : CompileSetting} {root : String} {steps : List Step}

theorem Context.lookup_eq_child? (exposed : setting.Exposes context.parameter)
    (unbound : Fields.get? context.bindings root = none) (other : root ≠ parameterName) :
    context.lookup root = context.parameter.child? (.field root) := by
  rw [Context.lookup, unbound]
  dsimp only
  rw [if_neg other]
  obtain ⟨fields, eq⟩ | ⟨typeName, fields, eq, -⟩ := exposed.cases
  all_goals
    rw [eq]
    rfl

theorem resolvePath_parameter_eq_ok_iff (exposed : setting.Exposes context.parameter)
    (named : Expr.isVariable root = true) (simple : ∀ step ∈ steps, step.IsSimple)
    (unbound : Fields.get? context.bindings root = none) (other : root ≠ parameterName)
    (off : ((context.lookup root).getD .null).offLists steps = true) (property : String)
    (found : Value) :
    BoundSql.resolvePath context.parameter (Path.text root steps) property = .ok found ↔
      steps.foldlM Expr.stepInto ((context.lookup root).getD .null) = .ok found := by
  have identifier := (Expr.isVariable_iff.1 named).1
  have read := Path.parse_text (Expr.isName_of_isIdentifier identifier) fun step mem =>
    Expr.isPlain_of_isSimple (simple step mem)
  have looked := Context.lookup_eq_child? exposed unbound other
  have unrefused := exposed.refuses_field root
  have offRoot : context.parameter.offLists (.field root :: steps) = true := by
    rw [Value.offLists, unrefused, ← looked]
    cases reached : context.lookup root with
    | none => rfl
    | some next =>
        rw [reached] at off
        exact off
  have simpleRoot : ∀ step ∈ Step.field root :: steps, step.IsSimple :=
    List.forall_mem_cons.2 ⟨identifier, simple⟩
  rw [BoundSql.resolvePath_eq_ok_iff read,
    ← Value.foldlM_stepInto_eq_ok_iff offRoot simpleRoot, List.foldlM_cons,
    Value.stepInto_composite exposed.isComposite unrefused identifier, looked]
  rfl

theorem evaluate_path_eq_ok_iff (named : Expr.isVariable root = true)
    (simple : ∀ step ∈ steps, step.IsSimple) (scope : Scope) (found : Value) :
    Expr.evaluate (Path.text root steps) scope = .ok found ↔
      steps.foldlM Expr.stepInto ((scope root).getD .null) = .ok found := by
  rw [Expr.evaluate_eq_ok_iff (Expr.parse_path named simple), Expr.eval_foldl_stepBelow]
  rfl

theorem parameterValue_path_eq_ok_iff (exposed : setting.Exposes context.parameter)
    (named : Expr.isVariable root = true) (simple : ∀ step ∈ steps, step.IsSimple)
    (off : ((context.lookup root).getD .null).offLists steps = true) (marked : MarkedSql)
    {mapping : ParameterMapping} (same : mapping.property = Path.text root steps) (found : Value) :
    (SqlSource.bind context.parameter setting marked context.bindings).parameterValue mapping =
        .ok found ↔
      steps.foldlM Expr.stepInto ((context.lookup root).getD .null) = .ok found := by
  have identifier := (Expr.isVariable_iff.1 named).1
  have split := Path.splitRoot_text (Expr.isName_of_isIdentifier identifier) steps
  rw [BoundSql.parameterValue, same]
  cases bound : Fields.get? context.bindings root with
  | some value =>
      have looked : context.lookup root = some value := by rw [Context.lookup, bound]
      rw [looked] at off ⊢
      rw [BoundSql.propertyValue, split]
      dsimp only [SqlSource.bind]
      rw [bound]
      exact BoundSql.resolveBelow_eq_ok_iff off simple _
  | none =>
      by_cases whole : root = parameterName
      · have looked : context.lookup root = some context.parameter := by
          rw [Context.lookup, bound]
          exact if_pos whole
        rw [looked] at off ⊢
        rw [BoundSql.propertyValue, split]
        dsimp only [SqlSource.bind]
        rw [bound]
        dsimp only
        rw [if_pos whole]
        exact BoundSql.resolveBelow_eq_ok_iff off simple _
      · rw [BoundSql.propertyValue_eq_resolvePath (by rwa [split]) (by rwa [split]) exposed.isNull
          (by simp [SqlSource.bind, exposed.1]) (by rw [split]; exact exposed.undeclared root)]
        exact resolvePath_parameter_eq_ok_iff exposed named simple bound whole off _ found

/-- Evaluating a path gives a value exactly if a placeholder with that path does, and the same one;
both give null where the path comes through null, to a missing key or to an index out of range. -/
theorem evaluate_eq_ok_iff_parameterValue (exposed : setting.Exposes context.parameter)
    (named : Expr.isVariable root = true) (simple : ∀ step ∈ steps, step.IsSimple)
    (off : ((context.lookup root).getD .null).offLists steps = true) (marked : MarkedSql)
    (mapping : ParameterMapping) (same : mapping.property = Path.text root steps) :
    (∀ found, Expr.evaluate (Path.text root steps) context.lookup = .ok found ↔
      (SqlSource.bind context.parameter setting marked context.bindings).parameterValue mapping =
        .ok found) ∧
    (((context.lookup root).getD .null).vanishes steps = true →
      Expr.evaluate (Path.text root steps) context.lookup = .ok .null ∧
        (SqlSource.bind context.parameter setting marked context.bindings).parameterValue mapping =
          .ok .null) := by
  have evaluated := @evaluate_path_eq_ok_iff root steps named simple context.lookup
  have resolved := parameterValue_path_eq_ok_iff exposed named simple off marked same
  refine ⟨fun found => (evaluated found).trans (resolved found).symm, fun vanishes => ?_⟩
  have null := Value.foldlM_stepInto_of_vanishes vanishes off simple
  exact ⟨(evaluated .null).2 null, (resolved .null).2 null⟩

end

def loopContext : Context where
  parameter := .map [("user", .record "User" [("roles", .list [.text "admin", .text "guest"])])]
  bindings := [("item", .map [("1", .int 7)])]
  sql := ""
  unique := 1

def plainSetting : CompileSetting := ⟨.initial, none, false⟩

def rolePath (position : Nat) : List Step := [.field "roles", .index position]

def roleMapping (position : Nat) : ParameterMapping :=
  ⟨Path.text "user" (rolePath position), .any, none, none, .input, none, none, .builtin .any⟩

def GivesRole (position : Nat) (role : Value) : Prop :=
  Expr.evaluate (Path.text "user" (rolePath position)) loopContext.lookup = .ok role ∧
    (SqlSource.bind loopContext.parameter plainSetting ⟨"?", [roleMapping position]⟩
      loopContext.bindings).parameterValue (roleMapping position) = .ok role

theorem evaluate_eq_ok_iff_parameterValue_role :
    (plainSetting.Exposes loopContext.parameter ∧ Expr.isVariable "user" = true) ∧
      GivesRole 1 (.text "guest") ∧ GivesRole 2 .null := by
  have exposed : plainSetting.Exposes loopContext.parameter := ⟨by decide, trivial⟩
  have simple : ∀ position < 3, ∀ step ∈ rolePath position, step.IsSimple := by
    intro position few step mem
    have small : position < Nat.pow 2 63 := Nat.lt_trans few (by decide)
    simp only [rolePath, List.mem_cons, List.not_mem_nil, or_false] at mem
    rcases mem with rfl | rfl
    · simp [Step.IsSimple, Expr.isIdentifier]
    · exact small
  have second := evaluate_eq_ok_iff_parameterValue exposed (by decide) (simple 1 (by decide))
    (by decide) ⟨"?", [roleMapping 1]⟩ (roleMapping 1) rfl
  have third := evaluate_eq_ok_iff_parameterValue exposed (by decide) (simple 2 (by decide))
    (by decide) ⟨"?", [roleMapping 2]⟩ (roleMapping 2) rfl
  have evaluated : Expr.evaluate (Path.text "user" (rolePath 1)) loopContext.lookup =
      .ok (.text "guest") :=
    (evaluate_path_eq_ok_iff (by decide) (simple 1 (by decide)) _ _).2 rfl
  exact ⟨⟨exposed, by decide⟩, ⟨evaluated, (second.1 _).1 evaluated⟩, third.2 (by decide)⟩

end MappedSql
