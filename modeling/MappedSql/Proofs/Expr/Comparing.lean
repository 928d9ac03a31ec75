import MappedSql.Proofs.Expr.Paths
import MappedSql.Proofs.Number.Nearest

namespace MappedSql

namespace Comparison

def relates : Comparison → Int → Int → Bool
  | eq, m, n => m == n
  | ne, m, n => m != n
  | lt, m, n => m < n
  | le, m, n => m ≤ n
  | gt, m, n => n < m
  | ge, m, n => n ≤ m

def isEquality : Comparison → Bool
  | eq | ne => true
  | _ => false

def relatesRounded (comparison : Comparison) (m n : Int) : Bool :=
  if comparison.isEquality then comparison.relates (Binary64.rounded m) (Binary64.rounded n)
  else comparison.relates m n

theorem relatesRounded_of_exact (comparison : Comparison) {m n : Int}
    (exact : Binary64.rounded m = Binary64.rounded n ↔ m = n) :
    comparison.relatesRounded m n = comparison.relates m n := by
  cases comparison <;> simp [relatesRounded, isEquality, relates, bne, exact]

theorem holds_compare (comparison : Comparison) (m n : Int) :
    Expr.holds comparison (compare m n) = comparison.relates m n := by
  rw [Bool.eq_iff_iff]
  rcases Int.lt_trichotomy m n with less | same | greater
  · rw [compare_lt_iff_lt.2 less]
    cases comparison <;> simp [Expr.holds, relates] <;> omega
  · rw [compare_eq_iff_eq.2 same]
    cases comparison <;> simp [Expr.holds, relates] <;> omega
  · rw [compare_gt_iff_gt.2 greater]
    cases comparison <;> simp [Expr.holds, relates] <;> omega

end Comparison

namespace Expr

section

variable {name left right : String} (comparison : Comparison)

theorem reads_variable (named : isVariable name = true) :
    Reads parseSum 4 4 [.name name] (var name) := by
  have postfixed := (reads_single (parsePrimary_variable named)).extend (.nil (var name))
  rw [List.append_nil] at postfixed
  exact folds_sum.single (postfixed.atSigned (plain_variable named).signless)

/-- The text of a comparison between two variables, with blanks of any kind around its tokens. -/
def comparisonText (gaps : Gaps) (left right : String) : String :=
  String.ofList (gaps.write 0 [.name left, .op comparison.sign, .name right])

theorem parse_comparisonText (named : isVariable left = true) (named' : isVariable right = true)
    (gaps : Gaps) :
    parse (comparisonText comparison gaps left right) =
      .ok (compare comparison (var left) (var right)) := by
  have writable := writable_of_isIdentifier (isVariable_iff.1 named).1
  have writable' := writable_of_isIdentifier (isVariable_iff.1 named').1
  obtain ⟨sign, loose⟩ := comparisonOf?_sign comparison
  have compared := reads_compare sign loose (reads_variable named) (reads_variable named')
  have reads := compared.ofComparison (plain_variable named).2
  have operator : (Token.op comparison.sign).Writable := sign_mem_operators comparison
  have legible : Legible [.name left, .op comparison.sign, .name right] :=
    .cons writable rfl (.cons operator rfl (.single writable'))
  exact parse_write legible (reads.mono (by simp [enoughFuel])) gaps

end

theorem natAbs_toInt_lt (n : Int64) : n.toInt.natAbs < 2 ^ 64 := by
  have low := n.le_toInt
  have high := n.toInt_lt
  omega

theorem compareValues_int (comparison : Comparison) (m n : Int64) :
    compareValues comparison (.int m) (.int n) =
      .ok (comparison.relatesRounded m.toInt n.toInt) := by
  have equal : equalValues (.int m) (.int n) =
      (Binary64.rounded m.toInt == Binary64.rounded n.toInt) :=
    Bool.eq_iff_iff.2 ((Binary64.numEq_ofInt (natAbs_toInt_lt m) (natAbs_toInt_lt n)).trans
      beq_iff_eq.symm)
  have order : orderOf? (.int m) (.int n) = some (Ord.compare m.toInt n.toInt) := rfl
  cases comparison with
  | eq => exact congrArg Except.ok equal
  | ne => exact congrArg (fun same => Except.ok !same) equal
  | lt | le | gt | ge =>
      simp only [compareValues, order, Comparison.holds_compare]
      rfl

section

variable {left right : String} {scope : Scope} {m n : Int64}

theorem evaluate_comparisonText (named : isVariable left = true) (named' : isVariable right = true)
    (bound : scope left = some (.int m)) (bound' : scope right = some (.int n))
    (comparison : Comparison) (gaps : Gaps) :
    evaluate (comparisonText comparison gaps left right) scope =
      .ok (.bool (comparison.relatesRounded m.toInt n.toInt)) := by
  rw [evaluate_eq_ok_iff (parse_comparisonText comparison named named' gaps)]
  have evaluated :
      eval scope (var left) = .ok (.int m) ∧ eval scope (var right) = .ok (.int n) := by
    simp [eval, bound, bound']
  rw [eval, evaluated.1, evaluated.2]
  simp only [bind, Except.bind, compareValues_int]
  rfl

/-- Order between two integer variables is exact, and so is equality if one of them is below
`2 ^ 53` in size. In general they are taken for equal if their nearest floating-point numbers are. -/
theorem evaluate_comparison (named : isVariable left = true) (named' : isVariable right = true)
    (bound : scope left = some (.int m)) (bound' : scope right = some (.int n)) (gaps : Gaps) :
    (∀ comparison : Comparison, comparison.isEquality = false →
      evaluate (comparisonText comparison gaps left right) scope =
        .ok (.bool (comparison.relates m.toInt n.toInt))) ∧
    (∀ comparison : Comparison, comparison.isEquality = true →
      evaluate (comparisonText comparison gaps left right) scope =
        .ok (.bool (comparison.relates (Binary64.rounded m.toInt) (Binary64.rounded n.toInt)))) ∧
    (m.toInt.natAbs < 2 ^ 53 ∨ n.toInt.natAbs < 2 ^ 53 → ∀ comparison : Comparison,
      evaluate (comparisonText comparison gaps left right) scope =
        .ok (.bool (comparison.relates m.toInt n.toInt))) := by
  have evaluated := fun comparison =>
    evaluate_comparisonText named named' bound bound' comparison gaps
  refine ⟨fun comparison ordering => ?_, fun comparison equality => ?_, fun small comparison => ?_⟩
  · rw [evaluated, Comparison.relatesRounded, ordering]
    rfl
  · rw [evaluated, Comparison.relatesRounded, if_pos equality]
  · have exact : Binary64.rounded m.toInt = Binary64.rounded n.toInt ↔ m.toInt = n.toInt := by
      rcases small with small | small
      · exact Binary64.rounded_eq_iff_of_small small
      · rw [eq_comm, Binary64.rounded_eq_iff_of_small small, eq_comm]
    rw [evaluated, Comparison.relatesRounded_of_exact comparison exact]

end

def spaced : Gaps where
  blanks n := if n = 1 ∨ n = 2 then [' '] else []
  blank n c mem := by
    split at mem
    · rw [List.mem_singleton.1 mem]; decide
    · cases mem

def pairContext (m n : Int64) : Context :=
  .initial (.map [("x", .int m), ("y", .int n)]) none

theorem isVariable_x_y : isVariable "x" = true ∧ isVariable "y" = true := by
  decide

theorem lookup_pairContext (m n : Int64) :
    (pairContext m n).lookup "x" = some (.int m) ∧ (pairContext m n).lookup "y" = some (.int n) :=
  ⟨rfl, rfl⟩

theorem evaluate_comparison_pastLimit :
    isVariable "x" = true ∧ isVariable "y" = true ∧
      (pairContext 9007199254740993 9007199254740991).lookup "x" = some (.int 9007199254740993) ∧
      (pairContext 9007199254740993 9007199254740991).lookup "y" = some (.int 9007199254740991) ∧
      comparisonText .ne spaced "x" "y" = "x != y" ∧
      evaluate (comparisonText .ne spaced "x" "y")
        (pairContext 9007199254740993 9007199254740991).lookup = .ok (.bool true) := by
  obtain ⟨x, y⟩ := lookup_pairContext 9007199254740993 9007199254740991
  have small : (9007199254740991 : Int64).toInt.natAbs < 2 ^ 53 := by decide
  have compared := evaluate_comparison isVariable_x_y.1 isVariable_x_y.2 x y spaced
  exact ⟨isVariable_x_y.1, isVariable_x_y.2, x, y, by decide, compared.2.2 (.inr small) .ne⟩

theorem exists_equal_of_less :
    ∃ m n : Int64, m < n ∧ evaluate "x < y" (pairContext m n).lookup = .ok (.bool true) ∧
      evaluate "x == y" (pairContext m n).lookup = .ok (.bool true) := by
  obtain ⟨x, y⟩ := lookup_pairContext 9007199254740992 9007199254740993
  have evaluated := evaluate_comparisonText isVariable_x_y.1 isVariable_x_y.2 x y
  have less := evaluated .lt spaced
  have equal := evaluated .eq spaced
  rw [show comparisonText .lt spaced "x" "y" = "x < y" by decide] at less
  rw [show comparisonText .eq spaced "x" "y" = "x == y" by decide,
    show Comparison.relatesRounded .eq _ _ = true by decide] at equal
  exact ⟨9007199254740992, 9007199254740993, by decide, less, equal⟩

end Expr

end MappedSql
