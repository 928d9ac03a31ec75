import MappedSql.Proofs.Expr.Printing

namespace MappedSql

/-- Expressions of integers and variables with minus signs, sums and differences. -/
inductive Arithmetic
  | literal (n : Int64)
  | var (name : String)
  | neg (operand : Arithmetic)
  | add (left right : Arithmetic)
  | sub (left right : Arithmetic)

def IsInt64 (n : Int) : Prop :=
  -2 ^ 63 ≤ n ∧ n < 2 ^ 63

theorem isInt64_toInt (n : Int64) : IsInt64 n.toInt :=
  ⟨n.le_toInt, n.toInt_lt⟩

theorem IsInt64.toInt_ofInt {n : Int} (fits : IsInt64 n) : (Int64.ofInt n).toInt = n :=
  Int64.toInt_ofInt_of_le fits.1 fits.2

instance (n : Int) : Decidable (IsInt64 n) :=
  inferInstanceAs (Decidable (_ ∧ _))

namespace Expr

def checked (fits : Prop) [Decidable fits] (n : Int) : Evaluated Value :=
  if fits then .ok (.int (Int64.ofInt n)) else .error "integer overflow"

section

variable {m n : Int} {fits fits' : Prop} [Decidable fits] [Decidable fits']

theorem checked_pos (fit : fits) (n : Int) : checked fits n = .ok (.int (Int64.ofInt n)) :=
  if_pos fit

theorem checked_neg (large : ¬fits) (n : Int) : checked fits n = .error "integer overflow" :=
  if_neg large

theorem checked_congr (same : fits ↔ fits') (n : Int) : checked fits n = checked fits' n :=
  if_congr same rfl rfl

theorem exactInt_eq (n : Int) : exactInt n = checked (IsInt64 n) n := by
  by_cases word : IsInt64 n
  · rw [checked_pos word, exactInt, Number.int64?, if_pos (Number.fitsInt64_iff.2 word)]
  · rw [checked_neg word, exactInt, Number.int64?, if_neg (mt Number.fitsInt64_iff.1 word)]

theorem negate_checked (word : fits → IsInt64 m) :
    (checked fits m >>= negate) = checked (IsInt64 (-m) ∧ fits) (-m) := by
  by_cases fit : fits
  · rw [checked_pos fit]
    change exactInt (-(Int64.ofInt m).toInt) = _
    rw [(word fit).toInt_ofInt, exactInt_eq, checked_congr (and_iff_left fit)]
  · rw [checked_neg fit, checked_neg fun both => fit both.2]
    rfl

theorem operate_checked {operate : Value → Value → Evaluated Value} {result : Int}
    (exact : fits → fits' →
      operate (.int (Int64.ofInt m)) (.int (Int64.ofInt n)) = exactInt result) :
    (do let left ← checked fits m
        let right ← checked fits' n
        operate left right) = checked (IsInt64 result ∧ fits ∧ fits') result := by
  by_cases fit : fits
  · rw [checked_pos fit]
    by_cases fit' : fits'
    · rw [checked_pos fit']
      change operate _ _ = _
      rw [exact fit fit', exactInt_eq, checked_congr (and_iff_left ⟨fit, fit'⟩)]
    · rw [checked_neg fit', checked_neg fun all => fit' all.2.2]
      rfl
  · rw [checked_neg fit, checked_neg fun all : IsInt64 result ∧ fits ∧ fits' => fit all.2.1]
    rfl

theorem sum_ofInt (word : IsInt64 m) (word' : IsInt64 n) :
    sum (.int (Int64.ofInt m)) (.int (Int64.ofInt n)) = exactInt (m + n) := by
  change exactInt ((Int64.ofInt m).toInt + (Int64.ofInt n).toInt) = _
  rw [word.toInt_ofInt, word'.toInt_ofInt]

theorem difference_ofInt (word : IsInt64 m) (word' : IsInt64 n) :
    difference (.int (Int64.ofInt m)) (.int (Int64.ofInt n)) = exactInt (m - n) := by
  change exactInt ((Int64.ofInt m).toInt - (Int64.ofInt n).toInt) = _
  rw [word.toInt_ofInt, word'.toInt_ofInt]

end

theorem evaluate_of_parse {source : String} {e : Expr} (parsed : parse source = .ok e)
    (scope : Scope) : evaluate source scope = (e.eval scope).mapError (failure source) := by
  rw [evaluate, compile, parsed]
  rfl

end Expr

namespace Arithmetic

def expr : Arithmetic → Expr
  | literal n => .literal (.int n)
  | var name => .var name
  | neg operand => .neg operand.expr
  | add left right => .add left.expr right.expr
  | sub left right => .sub left.expr right.expr

variable (values : String → Int64)

def exact : Arithmetic → Int
  | literal n => n.toInt
  | var name => (values name).toInt
  | neg operand => -operand.exact
  | add left right => left.exact + right.exact
  | sub left right => left.exact - right.exact

def parts : Arithmetic → List Arithmetic
  | literal n => [literal n]
  | var name => [var name]
  | neg operand => neg operand :: operand.parts
  | add left right => add left right :: (left.parts ++ right.parts)
  | sub left right => sub left right :: (left.parts ++ right.parts)

/-- A machine word holds what an expression stands for and every result on the way to it. -/
def Fits (term : Arithmetic) : Prop :=
  ∀ part ∈ term.parts, IsInt64 (part.exact values)

instance (term : Arithmetic) : Decidable (term.Fits values) :=
  inferInstanceAs (Decidable (∀ part ∈ term.parts, IsInt64 (part.exact values)))

section

variable {values} {term operand left right : Arithmetic}

theorem mem_parts_self (term : Arithmetic) : term ∈ term.parts := by
  cases term <;> simp [parts]

theorem Fits.isInt64 (fits : term.Fits values) : IsInt64 (term.exact values) :=
  fits term term.mem_parts_self

theorem fits_literal (n : Int64) : (literal n).Fits values := by
  simp [Fits, parts, exact, isInt64_toInt]

theorem fits_var (name : String) : (var name).Fits values := by
  simp [Fits, parts, exact, isInt64_toInt]

theorem fits_neg : (neg operand).Fits values ↔
    IsInt64 (-operand.exact values) ∧ operand.Fits values := by
  simp [Fits, parts, exact]

theorem fits_add : (add left right).Fits values ↔
    IsInt64 (left.exact values + right.exact values) ∧ left.Fits values ∧ right.Fits values := by
  simp [Fits, parts, exact, or_imp, forall_and]

theorem fits_sub : (sub left right).Fits values ↔
    IsInt64 (left.exact values - right.exact values) ∧ left.Fits values ∧ right.Fits values := by
  simp [Fits, parts, exact, or_imp, forall_and]

variable {scope : Scope}

def Binds (values : String → Int64) (scope : Scope) (term : Arithmetic) : Prop :=
  ∀ name ∈ term.expr.vars, scope name = some (.int (values name))

theorem eval_expr (bound : term.Binds values scope) :
    term.expr.eval scope = Expr.checked (term.Fits values) (term.exact values) := by
  induction term with
  | literal n => simp [expr, exact, Expr.eval, Expr.checked, fits_literal]
  | var name =>
      simp [expr, exact, Expr.eval, Expr.checked, fits_var, bound name (List.mem_singleton_self name)]
  | neg operand ih =>
      rw [expr, Expr.eval, ih bound, Expr.negate_checked Fits.isInt64, exact,
        Expr.checked_congr fits_neg]
  | add left right ihl ihr =>
      obtain ⟨boundLeft, boundRight⟩ := List.forall_mem_append.1 bound
      rw [expr, Expr.eval, ihl boundLeft, ihr boundRight, exact, Expr.checked_congr fits_add]
      exact Expr.operate_checked fun fits fits' => Expr.sum_ofInt fits.isInt64 fits'.isInt64
  | sub left right ihl ihr =>
      obtain ⟨boundLeft, boundRight⟩ := List.forall_mem_append.1 bound
      rw [expr, Expr.eval, ihl boundLeft, ihr boundRight, exact, Expr.checked_congr fits_sub]
      exact Expr.operate_checked fun fits fits' => Expr.difference_ofInt fits.isInt64 fits'.isInt64

/-- An expression of integers yields exactly the integer it stands for, if a machine word holds that
integer and every result on the way, and fails otherwise. -/
theorem evaluate_expr (term : Arithmetic) (bound : term.Binds values scope) :
    (term.Fits values → ∃ n : Int64, n.toInt = term.exact values ∧
      term.expr.eval scope = .ok (.int n) ∧
      ∀ source, Expr.parse source = .ok term.expr →
        Expr.evaluate source scope = .ok (.int n)) ∧
    (¬term.Fits values →
      term.expr.eval scope = .error "integer overflow" ∧
      ∀ source, Expr.parse source = .ok term.expr →
        Expr.evaluate source scope = .error (Expr.failure source "integer overflow")) := by
  refine ⟨fun fits => ?_, fun large => ?_⟩
  · have evaluated := eval_expr bound
    rw [Expr.checked_pos fits] at evaluated
    refine ⟨Int64.ofInt (term.exact values), fits.isInt64.toInt_ofInt, evaluated,
      fun source parsed => ?_⟩
    rw [Expr.evaluate_of_parse parsed, evaluated]
    rfl
  · have evaluated := eval_expr bound
    rw [Expr.checked_neg large] at evaluated
    refine ⟨evaluated, fun source parsed => ?_⟩
    rw [Expr.evaluate_of_parse parsed, evaluated]
    rfl

end

def opposite : Arithmetic :=
  sub (neg (var "x")) (literal 1)

theorem print_opposite : opposite.expr.print .none = "(-(x))-(1)" := by
  decide

def least (_ : String) : Int64 :=
  Int64.minValue

theorem evaluate_expr_opposite :
    opposite.Binds least (fun _ => some (.int Int64.minValue)) ∧
      opposite.exact least = 2 ^ 63 - 1 ∧ ¬opposite.Fits least ∧
      Expr.evaluate "(-(x))-(1)" (fun _ => some (.int Int64.minValue)) =
        .error (Expr.failure "(-(x))-(1)" "integer overflow") := by
  have bound : opposite.Binds least (fun _ => some (.int Int64.minValue)) := fun _ _ => rfl
  have large : ¬opposite.Fits least := by decide
  have parsed := Expr.parse_print opposite.expr (by decide) .none
  rw [print_opposite] at parsed
  exact ⟨bound, by decide, large, ((evaluate_expr opposite bound).2 large).2 _ parsed⟩

end Arithmetic

end MappedSql
