import MappedSql.Expr.Parser
import MappedSql.Proofs.Expr.Lexing
import MappedSql.Proofs.Outcome

/-!
# Printed expressions are parsed back

Each level of the grammar reads an expression in front of whatever does not go on with it
(`Reads`). A level hands on what the next tighter one reads, and for each operator there is one lemma
at its own level.

An expression is printed with every operand in parentheses. Whatever blanks stand between its tokens,
parsing reads the same tree again (`Expr.parse_print`).
-/

namespace MappedSql.Expr

def Token.tightness (token : Token) : Nat :=
  if token ∈ [dot, leftBracket, leftParen] then 5
  else if isWord ["+"] token || isWord ["-"] token then 4
  else if comparisonOf? token ≠ none then 3
  else if isWord ["and", "&&"] token then 2
  else if isWord ["or", "||"] token then 1
  else 0

def Ends (tight : Nat) (rest : List Token) : Prop :=
  ∀ token ∈ rest.head?, token.tightness < tight

def Reads (level : Nat → List Token → ParseResult) (tight depth : Nat) (tokens : List Token)
    (e : Expr) : Prop :=
  ∀ fuel rest, depth ≤ fuel → Ends tight rest → level fuel (tokens ++ rest) = .ok (e, rest)

variable {level : Nat → List Token → ParseResult} {tight depth : Nat} {token : Token}
  {tokens rest : List Token} {e : Expr}

theorem Ends.nil (tight : Nat) : Ends tight [] := by
  intro token mem
  cases mem

theorem Ends.cons (loose : token.tightness < tight) (rest : List Token) :
    Ends tight (token :: rest) := by
  intro other mem
  obtain rfl : token = other := by simpa using mem
  exact loose

theorem Ends.mono {tight' : Nat} (ends : Ends tight rest) (looser : tight ≤ tight') :
    Ends tight' rest :=
  fun token mem => Nat.lt_of_lt_of_le (ends token mem) looser

theorem Reads.mono {depth' : Nat} (reads : Reads level tight depth tokens e)
    (deeper : depth ≤ depth') : Reads level tight depth' tokens e :=
  fun fuel rest enough ends => reads fuel rest (Nat.le_trans deeper enough) ends

theorem Reads.both {depth' : Nat} {tokens' : List Token} {e' : Expr}
    (left : Reads level tight depth tokens e) (right : Reads level tight depth' tokens' e') :
    Reads level tight (depth + depth') tokens e ∧ Reads level tight (depth + depth') tokens' e' :=
  ⟨left.mono (Nat.le_add_right depth depth'), right.mono (Nat.le_add_left depth' depth)⟩

theorem Ends.all (rest : List Token) : Ends 6 rest := by
  intro token _
  grind [Token.tightness]

theorem exists_fuel {fuel : Nat} (enough : depth + 1 ≤ fuel) :
    ∃ less, depth ≤ less ∧ fuel = less + 1 :=
  ⟨fuel - 1, by omega, by omega⟩

/-! ## Primary expressions -/

theorem parsePrimary_leftParen (fuel : Nat) (tokens : List Token) :
    parsePrimary (fuel + 1) (.leftParen :: tokens) = (do
      let (inner, rest) ← parseOr fuel tokens
      return (inner, ← expect .rightParen rest)) :=
  rfl

theorem parsePrimary_name (fuel : Nat) (word : String) (rest : List Token) :
    parsePrimary (fuel + 1) (.name word :: rest) = (ofName word).map (·, rest) :=
  rfl

theorem reads_parens (inner : Reads parseOr 1 depth tokens e) :
    Reads parsePrimary 6 (depth + 1) (.leftParen :: (tokens ++ [.rightParen])) e := by
  intro fuel rest enough _
  obtain ⟨less, ample, rfl⟩ := exists_fuel enough
  have read := inner less (.rightParen :: rest) ample (Ends.cons (by decide) rest)
  rw [List.cons_append, List.append_assoc, List.cons_append, List.nil_append,
    parsePrimary_leftParen, read]
  rfl

theorem reads_single (read : ∀ fuel rest, parsePrimary (fuel + 1) (token :: rest) = .ok (e, rest)) :
    Reads parsePrimary 6 1 [token] e := by
  intro fuel rest enough _
  obtain ⟨less, -, rfl⟩ := exists_fuel enough
  exact read less rest

/-! ## Members, indexes and methods -/

abbrev Extends (depth : Nat) (target : Expr) (tokens : List Token) (e : Expr) : Prop :=
  Reads (fun fuel => parsePostfixRest fuel target) 5 depth tokens e

section postfixes

variable {target : Expr} {more : List Token}

theorem Extends.nil (e : Expr) : Extends (depth + 1) e [] e := by
  intro fuel rest enough ends
  obtain ⟨less, -, rfl⟩ := exists_fuel enough
  cases rest with
  | nil => rfl
  | cons token rest =>
      have loose := ends token rfl
      cases token with
      | dot | leftBracket | leftParen => exact absurd loose (by decide)
      | _ => rfl

theorem Extends.member {name : String} (uncalled : more.head? ≠ some .leftParen)
    (below : Extends depth (member target name) more e) :
    Extends (depth + 1) target (.dot :: .name name :: more) e := by
  intro fuel rest enough ends
  obtain ⟨less, ample, rfl⟩ := exists_fuel enough
  have other : ∀ after, more ++ rest ≠ .leftParen :: after := by
    intro after eq
    cases more with
    | nil =>
        obtain rfl : rest = .leftParen :: after := eq
        exact absurd (ends .leftParen rfl) (by decide)
    | cons token more => exact uncalled (congrArg some (List.cons.inj eq).1)
  change parsePostfixRest (less + 1) target (.dot :: .name name :: (more ++ rest)) = _
  rw [parsePostfixRest.eq_3 _ _ _ _ other]
  exact below less rest ample ends

theorem Extends.index {keyTokens : List Token} {key : Expr}
    (keyReads : Reads parseOr 1 depth keyTokens key)
    (below : Extends depth (index target key) more e) :
    Extends (depth + 1) target (.leftBracket :: (keyTokens ++ .rightBracket :: more)) e := by
  intro fuel rest enough ends
  obtain ⟨less, ample, rfl⟩ := exists_fuel enough
  have read := keyReads less (.rightBracket :: (more ++ rest)) ample (Ends.cons (by decide) _)
  change parsePostfixRest (less + 1) target
    (.leftBracket :: (keyTokens ++ .rightBracket :: more ++ rest)) = _
  rw [parsePostfixRest, List.append_assoc, List.cons_append, read]
  exact below less rest ample ends

theorem Extends.method {name : String} {result : Expr} (known : ofMethod name target = .ok result)
    (below : Extends depth result more e) :
    Extends (depth + 1) target (.dot :: .name name :: .leftParen :: .rightParen :: more) e := by
  intro fuel rest enough ends
  obtain ⟨less, ample, rfl⟩ := exists_fuel enough
  change parsePostfixRest (less + 1) target
    (.dot :: .name name :: .leftParen :: .rightParen :: (more ++ rest)) = _
  rw [parsePostfixRest, known]
  exact below less rest ample ends

theorem Reads.extend (primary : Reads parsePrimary 6 depth tokens target)
    (below : Extends depth target more e) :
    Reads parsePostfix 5 (depth + 1) (tokens ++ more) e := by
  intro fuel rest enough ends
  obtain ⟨less, ample, rfl⟩ := exists_fuel enough
  rw [parsePostfix, List.append_assoc, primary less _ ample (Ends.all _)]
  exact below less rest ample ends

end postfixes

/-! ## Signs, comparisons and negations -/

theorem Reads.atSigned (signless : isWord ["-"] token = false ∧ isWord ["!"] token = false)
    (unsigned : Reads parsePostfix 5 depth (token :: tokens) e) :
    Reads parseSigned 5 (depth + 1) (token :: tokens) e := by
  intro fuel rest enough ends
  obtain ⟨less, ample, rfl⟩ := exists_fuel enough
  have read := unsigned less rest ample ends
  simpa [parseSigned, signless] using read

theorem reads_neg (operand : Reads parseSigned 5 depth tokens e) :
    Reads parseSigned 5 (depth + 1) (.op "-" :: tokens) (neg e) := by
  intro fuel rest enough ends
  obtain ⟨less, ample, rfl⟩ := exists_fuel enough
  rw [List.cons_append, parseSigned, if_pos (by decide), operand less rest ample ends]
  rfl

theorem Reads.atComparison (sum : Reads parseSum 4 depth tokens e) :
    Reads parseComparison 3 (depth + 1) tokens e := by
  intro fuel rest enough ends
  obtain ⟨less, ample, rfl⟩ := exists_fuel enough
  rw [parseComparison, sum less rest ample (ends.mono (by decide))]
  cases rest with
  | nil => rfl
  | cons token rest =>
      have loose := ends token rfl
      have wordless : comparisonOf? token = none := by grind [Token.tightness]
      simp only [Bind.bind, Except.bind, wordless]
      rfl

theorem reads_compare {leftTokens rightTokens : List Token} {left right : Expr}
    {comparison : Comparison} (sign : comparisonOf? token = some comparison)
    (loose : token.tightness < 4) (leftReads : Reads parseSum 4 depth leftTokens left)
    (rightReads : Reads parseSum 4 depth rightTokens right) :
    Reads parseComparison 3 (depth + 1) (leftTokens ++ token :: rightTokens)
      (compare comparison left right) := by
  intro fuel rest enough ends
  obtain ⟨less, ample, rfl⟩ := exists_fuel enough
  have read := rightReads less rest ample (ends.mono (by decide))
  rw [parseComparison, List.append_assoc, List.cons_append,
    leftReads less _ ample (Ends.cons loose _)]
  simp only [Bind.bind, Except.bind, sign, read]
  rfl

theorem Reads.atNot (plain : isWord ["not", "!"] token = false)
    (comparison : Reads parseComparison 3 depth (token :: tokens) e) :
    Reads parseNot 3 (depth + 1) (token :: tokens) e := by
  intro fuel rest enough ends
  obtain ⟨less, ample, rfl⟩ := exists_fuel enough
  have read := comparison less rest ample ends
  simpa [parseNot, plain] using read

theorem reads_not (operand : Reads parseNot 3 depth tokens e) :
    Reads parseNot 3 (depth + 1) (.op "!" :: tokens) (not e) := by
  intro fuel rest enough ends
  obtain ⟨less, ample, rfl⟩ := exists_fuel enough
  rw [List.cons_append, parseNot, if_pos (by decide), operand less rest ample ends]
  rfl

/-! ## Sums, conjunctions and disjunctions -/

structure Folds (outer inner : Nat → List Token → ParseResult)
    (next : Nat → Expr → List Token → ParseResult) (loose tight : Nat) : Prop where
  opens : ∀ fuel tokens, outer (fuel + 1) tokens = inner fuel tokens >>= fun p => next fuel p.1 p.2
  stops : ∀ {rest}, Ends loose rest → ∀ fuel e, next (fuel + 1) e rest = .ok (e, rest)
  looser : loose ≤ tight

theorem folds_sum : Folds parseSum parseSigned parseSumRest 4 5 where
  opens _ _ := by rw [parseSum]
  stops {rest} ends fuel e := by
    cases rest with
    | nil => rfl
    | cons token rest =>
        have loose := ends token rfl
        have signless : isWord ["+"] token = false ∧ isWord ["-"] token = false := by
          grind [Token.tightness]
        simp [parseSumRest, signless]
  looser := by decide

theorem folds_and : Folds parseAnd parseNot parseAndRest 2 3 where
  opens _ _ := by rw [parseAnd]
  stops {rest} ends fuel e := by
    cases rest with
    | nil => rfl
    | cons token rest =>
        have loose := ends token rfl
        have wordless : isWord ["and", "&&"] token = false := by grind [Token.tightness]
        simp [parseAndRest, wordless]
  looser := by decide

theorem folds_or : Folds parseOr parseAnd parseOrRest 1 2 where
  opens _ _ := by rw [parseOr]
  stops {rest} ends fuel e := by
    cases rest with
    | nil => rfl
    | cons token rest =>
        have loose := ends token rfl
        have wordless : isWord ["or", "||"] token = false := by grind [Token.tightness]
        simp [parseOrRest, wordless]
  looser := by decide

section folds

variable {outer inner : Nat → List Token → ParseResult}
  {next : Nat → Expr → List Token → ParseResult} {loose : Nat}

theorem Folds.single (folds : Folds outer inner next loose tight)
    (reads : Reads inner tight (depth + 1) tokens e) : Reads outer loose (depth + 2) tokens e := by
  intro fuel rest enough ends
  obtain ⟨less, ample, rfl⟩ := exists_fuel enough
  rw [folds.opens, reads less rest ample (ends.mono folds.looser)]
  obtain ⟨less, -, rfl⟩ := exists_fuel ample
  exact folds.stops ends less e

theorem Folds.pair {leftTokens rightTokens : List Token} {left right : Expr}
    {make : Expr → Expr → Expr} (folds : Folds outer inner next loose tight)
    (goes : ∀ fuel tokens, next (fuel + 1) left (token :: tokens) =
      inner fuel tokens >>= fun p => next fuel (make left p.1) p.2)
    (bound : token.tightness < tight) (leftReads : Reads inner tight (depth + 1) leftTokens left)
    (rightReads : Reads inner tight (depth + 1) rightTokens right) :
    Reads outer loose (depth + 3) (leftTokens ++ token :: rightTokens) (make left right) := by
  intro fuel rest enough ends
  obtain ⟨less, ample, rfl⟩ := exists_fuel enough
  rw [folds.opens, List.append_assoc, List.cons_append,
    leftReads less _ (by omega) (Ends.cons bound _)]
  obtain ⟨fewer, enough', rfl⟩ := exists_fuel ample
  change next (fewer + 1) left (token :: (rightTokens ++ rest)) = _
  rw [goes, rightReads fewer rest enough' (ends.mono folds.looser)]
  obtain ⟨fewest, -, rfl⟩ := exists_fuel enough'
  exact folds.stops ends fewest (make left right)

end folds

theorem parseSumRest_plus (left : Expr) (fuel : Nat) (tokens : List Token) :
    parseSumRest (fuel + 1) left (.op "+" :: tokens) =
      parseSigned fuel tokens >>= fun p => parseSumRest fuel (add left p.1) p.2 := by
  rw [parseSumRest, if_pos (by decide)]

theorem parseSumRest_minus (left : Expr) (fuel : Nat) (tokens : List Token) :
    parseSumRest (fuel + 1) left (.op "-" :: tokens) =
      parseSigned fuel tokens >>= fun p => parseSumRest fuel (sub left p.1) p.2 := by
  rw [parseSumRest, if_neg (by decide), if_pos (by decide)]

theorem parseAndRest_and (left : Expr) (fuel : Nat) (tokens : List Token) :
    parseAndRest (fuel + 1) left (.name "and" :: tokens) =
      parseNot fuel tokens >>= fun p => parseAndRest fuel (and left p.1) p.2 := by
  rw [parseAndRest, if_pos (by decide)]

theorem parseOrRest_or (left : Expr) (fuel : Nat) (tokens : List Token) :
    parseOrRest (fuel + 1) left (.name "or" :: tokens) =
      parseAnd fuel tokens >>= fun p => parseOrRest fuel (or left p.1) p.2 := by
  rw [parseOrRest, if_pos (by decide)]

/-! ## From the operands to a whole expression -/

def Token.Plain (token : Token) : Prop :=
  isWord ["-"] token = false ∧ isWord ["not", "!"] token = false

instance (token : Token) : Decidable token.Plain :=
  inferInstanceAs (Decidable (_ ∧ _))

theorem Token.Plain.signless (plain : token.Plain) :
    isWord ["-"] token = false ∧ isWord ["!"] token = false := by
  refine ⟨plain.1, ?_⟩
  have negationless := plain.2
  cases token <;> simp_all [isWord]

theorem Reads.ofComparison (plain : isWord ["not", "!"] token = false)
    (comparison : Reads parseComparison 3 depth (token :: tokens) e) :
    Reads parseOr 1 (depth + 3) (token :: tokens) e :=
  folds_or.single (folds_and.single (comparison.atNot plain))

theorem Reads.ofPostfix (plain : token.Plain)
    (postfixed : Reads parsePostfix 5 depth (token :: tokens) e) :
    Reads parseOr 1 (depth + 6) (token :: tokens) e :=
  (folds_sum.single (postfixed.atSigned plain.signless)).atComparison.ofComparison plain.2

end MappedSql.Expr

namespace MappedSql

/-! ## Printing -/

def Comparison.sign : Comparison → String
  | eq => "=="
  | ne => "!="
  | lt => "<"
  | le => "<="
  | gt => ">"
  | ge => ">="

namespace Expr

def parens (tokens : List Token) : List Token :=
  .leftParen :: (tokens ++ [.rightParen])

theorem length_parens (tokens : List Token) : (parens tokens).length = tokens.length + 2 := by
  simp [parens]

def literalToken? : Value → Option Token
  | .null => some (.name "null")
  | .bool true => some (.name "true")
  | .bool false => some (.name "false")
  | .int n => some (.int n)
  | .text s => some (.text s)
  | _ => none

def tokens : Expr → List Token
  | literal value => (literalToken? value).toList
  | var name => [.name name]
  | member target name => parens target.tokens ++ [.dot, .name name]
  | index target key => parens target.tokens ++ .leftBracket :: (parens key.tokens ++ [.rightBracket])
  | size target => parens target.tokens ++ [.dot, .name "size", .leftParen, .rightParen]
  | isEmpty target => parens target.tokens ++ [.dot, .name "isEmpty", .leftParen, .rightParen]
  | not operand => .op "!" :: parens operand.tokens
  | neg operand => .op "-" :: parens operand.tokens
  | and left right => parens left.tokens ++ .name "and" :: parens right.tokens
  | or left right => parens left.tokens ++ .name "or" :: parens right.tokens
  | compare comparison left right =>
      parens left.tokens ++ .op comparison.sign :: parens right.tokens
  | add left right => parens left.tokens ++ .op "+" :: parens right.tokens
  | sub left right => parens left.tokens ++ .op "-" :: parens right.tokens

/-- The text of an expression with blanks of any kind around its tokens. -/
def print (gaps : Gaps) (e : Expr) : String :=
  String.ofList (gaps.write 0 e.tokens)

def isVariable (name : String) : Bool :=
  isIdentifier name && !(keywords ++ ["null", "true", "false"]).contains name

theorem isVariable_iff {name : String} : isVariable name = true ↔
    isIdentifier name = true ∧ name ∉ keywords ∧ name ≠ "null" ∧ name ≠ "true" ∧ name ≠ "false" := by
  simp [isVariable, List.contains_eq_mem, List.mem_append]

def isPlainLiteral : Value → Bool
  | .null | .bool _ | .text _ => true
  | .int n => 0 ≤ n.toInt
  | _ => false

/-- Literals are null, booleans, integers from zero on and texts; names are identifiers. -/
def isPrintable : Expr → Bool
  | literal value => isPlainLiteral value
  | var name => isVariable name
  | member target name => target.isPrintable && isIdentifier name
  | size e | isEmpty e | not e | neg e => e.isPrintable
  | index a b | and a b | or a b | compare _ a b | add a b | sub a b => a.isPrintable && b.isPrintable

/-! ## The tokens of an expression can be told apart -/

theorem apart_leftParen (token : Token) : Token.apart .leftParen token = true := by
  cases token <;> rfl

theorem apart_rightParen (token : Token) : token.apart .rightParen = true := by
  cases token <;> rfl

variable {ts more : List Token}

theorem Legible.leftParen (legible : Legible ts) : Legible (.leftParen :: ts) := by
  cases ts with
  | nil => exact .single trivial
  | cons token ts => exact .cons trivial (apart_leftParen token) legible

theorem Legible.rightParen (legible : Legible ts) : Legible (ts ++ [.rightParen]) := by
  induction ts with
  | nil => exact .single trivial
  | cons token ts ih =>
      have writable := legible.writable token List.mem_cons_self
      cases ts with
      | nil => exact .cons writable (apart_rightParen token) (.single trivial)
      | cons next ts => exact .cons writable (List.isChain_cons_cons.1 legible.told).1 (ih legible.tail)

theorem Legible.parens (legible : Legible ts) : Legible (parens ts) :=
  legible.rightParen.leftParen

theorem Legible.parens_append (legible : Legible ts) (behind : Legible (.rightParen :: more)) :
    Legible (Expr.parens ts ++ more) := by
  have split := Legible.split.2 ⟨legible.leftParen.rightParen, behind⟩
  simpa [Expr.parens] using split

theorem legible_between {operator : Token} (writable : operator.Writable)
    (told : Token.apart .rightParen operator = true ∧ operator.apart .leftParen = true)
    (left : Legible ts) (right : Legible more) :
    Legible (Expr.parens ts ++ operator :: Expr.parens more) :=
  left.parens_append (.cons trivial told.1 (.cons writable told.2 right.parens))

theorem legible_call {name : String} (identifier : isIdentifier name = true) (target : Legible ts) :
    Legible (Expr.parens ts ++ [.dot, .name name, .leftParen, .rightParen]) :=
  target.parens_append (.cons trivial rfl (.cons trivial rfl
    (.cons (writable_of_isIdentifier identifier) rfl (.cons trivial rfl (.single trivial)))))

theorem sign_mem_operators (comparison : Comparison) : comparison.sign ∈ operators := by
  cases comparison <;> decide

theorem legible_tokens {e : Expr} (printable : e.isPrintable = true) : Legible e.tokens := by
  induction e with
  | literal value =>
      cases value with
      | int n => exact .single (of_decide_eq_true (p := 0 ≤ n.toInt) printable)
      | text s => exact .single trivial
      | null => exact .single (writable_of_isIdentifier (by decide))
      | bool b => cases b <;> exact .single (writable_of_isIdentifier (by decide))
      | _ => cases printable
  | var name =>
      exact .single (writable_of_isIdentifier (isVariable_iff.1 printable).1)
  | member target name ih =>
      simp only [isPrintable, Bool.and_eq_true] at printable
      exact (ih printable.1).parens_append (.cons trivial rfl (.cons trivial rfl
        (.single (writable_of_isIdentifier printable.2))))
  | index target key ihTarget ihKey =>
      simp only [isPrintable, Bool.and_eq_true] at printable
      have behind : Legible [.rightParen, .rightBracket] := .cons trivial rfl (.single trivial)
      exact (ihTarget printable.1).parens_append (.cons trivial rfl (.cons trivial rfl
        ((ihKey printable.2).parens_append behind)))
  | size target ih => exact legible_call (by decide) (ih printable)
  | isEmpty target ih => exact legible_call (by decide) (ih printable)
  | not operand ih | neg operand ih =>
      refine .cons ?_ rfl (ih printable).parens
      simp [Token.Writable, operators]
  | compare comparison left right ihLeft ihRight =>
      simp only [isPrintable, Bool.and_eq_true] at printable
      exact legible_between (sign_mem_operators comparison) ⟨rfl, rfl⟩ (ihLeft printable.1)
        (ihRight printable.2)
  | and left right ihLeft ihRight | or left right ihLeft ihRight =>
      simp only [isPrintable, Bool.and_eq_true] at printable
      exact legible_between (writable_of_isIdentifier (by decide)) ⟨rfl, rfl⟩ (ihLeft printable.1)
        (ihRight printable.2)
  | add left right ihLeft ihRight | sub left right ihLeft ihRight =>
      simp only [isPrintable, Bool.and_eq_true] at printable
      refine legible_between ?_ ⟨rfl, rfl⟩ (ihLeft printable.1) (ihRight printable.2)
      simp [Token.Writable, operators]

/-! ## The tokens of an expression are read as the expression -/

variable {depth : Nat} {e target : Expr}

theorem reads_target (reads : Reads parseOr 1 depth ts target)
    (below : Extends (depth + 2) target more e) :
    Reads parseOr 1 (depth + 9) (parens ts ++ more) e :=
  (((reads_parens reads).mono (Nat.le_succ _)).extend below).ofPostfix (by decide)

theorem reads_operand (reads : Reads parseOr 1 depth ts e) :
    Reads parseOr 1 (depth + 9) (parens ts) e := by
  have read := reads_target reads (.nil e)
  rwa [List.append_nil] at read

theorem reads_operand_signed (reads : Reads parseOr 1 depth ts e) :
    Reads parseSigned 5 (depth + 3) (parens ts) e := by
  have postfixed := (reads_parens reads).extend (.nil e)
  rw [List.append_nil] at postfixed
  exact postfixed.atSigned (by decide)

theorem reads_operand_sum (reads : Reads parseOr 1 depth ts e) :
    Reads parseSum 4 (depth + 4) (parens ts) e :=
  folds_sum.single (reads_operand_signed reads)

theorem reads_operand_not (reads : Reads parseOr 1 depth ts e) :
    Reads parseNot 3 (depth + 6) (parens ts) e :=
  (reads_operand_sum reads).atComparison.atNot (by decide)

theorem reads_operand_and (reads : Reads parseOr 1 depth ts e) :
    Reads parseAnd 2 (depth + 7) (parens ts) e :=
  folds_and.single (reads_operand_not reads)

theorem reads_token {token : Token} (plain : token.Plain)
    (read : ∀ fuel rest, parsePrimary (fuel + 1) (token :: rest) = .ok (e, rest)) :
    Reads parseOr 1 8 [token] e :=
  ((reads_single read).extend (.nil e)).ofPostfix plain

theorem plain_variable {name : String} (named : isVariable name = true) :
    (Token.name name).Plain := by
  obtain ⟨identifier, unreserved, -⟩ := isVariable_iff.1 named
  have signless : name ≠ "-" ∧ name ≠ "!" := by
    constructor
    all_goals
      rintro rfl
      exact absurd identifier (by decide)
  have plain : name ≠ "not" := by
    rintro rfl
    exact unreserved (by decide)
  simp [Token.Plain, isWord, signless, plain]

theorem parsePrimary_variable {name : String} (named : isVariable name = true) (fuel : Nat)
    (rest : List Token) : parsePrimary (fuel + 1) (.name name :: rest) = .ok (var name, rest) := by
  obtain ⟨-, unreserved, other⟩ := isVariable_iff.1 named
  simp [parsePrimary_name, ofName, unreserved, other, Except.map]

theorem reads_literal {value : Value} (plain : isPlainLiteral value = true) :
    Reads parseOr 1 8 (literalToken? value).toList (literal value) := by
  cases value with
  | null => exact reads_token (by decide) fun _ _ => rfl
  | bool b => cases b <;> exact reads_token (by decide) fun _ _ => rfl
  | int n => exact reads_token ⟨rfl, rfl⟩ fun _ _ => rfl
  | text s => exact reads_token ⟨rfl, rfl⟩ fun _ _ => rfl
  | _ => cases plain

theorem comparisonOf?_sign (comparison : Comparison) :
    comparisonOf? (.op comparison.sign) = some comparison ∧
      (Token.op comparison.sign).tightness < 4 := by
  cases comparison <;> decide

/-- The parser reads an expression off its tokens; what stands between parentheses is shorter by two
tokens, which pay for the calls in between. -/
theorem reads_tokens {e : Expr} (printable : e.isPrintable = true) :
    Reads parseOr 1 (12 * e.tokens.length) e.tokens e := by
  induction e with
  | literal value =>
      refine (reads_literal printable).mono ?_
      cases value with
      | bool b => cases b <;> decide
      | null | int _ | text _ => simp [tokens, literalToken?]
      | _ => cases printable
  | var name =>
      have read := reads_token (plain_variable printable) (parsePrimary_variable printable)
      exact read.mono (by simp [tokens])
  | member target name ih =>
      simp only [isPrintable, Bool.and_eq_true] at printable
      refine (reads_target (ih printable.1) (.member (by simp) (.nil _))).mono ?_
      simp only [tokens, length_parens, List.length_append, List.length_cons, List.length_nil]
      omega
  | index target key ihTarget ihKey =>
      simp only [isPrintable, Bool.and_eq_true] at printable
      obtain ⟨readTarget, readKey⟩ := (ihTarget printable.1).both (ihKey printable.2)
      refine (reads_target (readTarget.mono (Nat.le_add_right _ 8))
        (.index (reads_operand readKey) (.nil _))).mono ?_
      simp only [tokens, length_parens, List.length_append, List.length_cons, List.length_nil]
      omega
  | size target ih =>
      refine (reads_target (ih printable) (.method rfl (.nil _))).mono ?_
      simp only [tokens, length_parens, List.length_append, List.length_cons, List.length_nil]
      omega
  | isEmpty target ih =>
      refine (reads_target (ih printable) (.method rfl (.nil _))).mono ?_
      simp only [tokens, length_parens, List.length_append, List.length_cons, List.length_nil]
      omega
  | not operand ih =>
      -- an operator is read at its own level, and at those above it as their only operand
      have negated := reads_not (reads_operand_not (ih printable))
      refine (folds_or.single (folds_and.single negated)).mono ?_
      simp only [tokens, length_parens, List.length_cons]
      omega
  | neg operand ih =>
      have negative := reads_neg (reads_operand_signed (ih printable))
      refine ((folds_sum.single negative).atComparison.ofComparison (by decide)).mono ?_
      simp only [tokens, length_parens, List.length_cons]
      omega
  | and left right ihLeft ihRight =>
      simp only [isPrintable, Bool.and_eq_true] at printable
      obtain ⟨readLeft, readRight⟩ := (ihLeft printable.1).both (ihRight printable.2)
      have both := folds_and.pair (parseAndRest_and left) (by decide) (reads_operand_not readLeft)
        (reads_operand_not readRight)
      refine (folds_or.single both).mono ?_
      simp only [tokens, length_parens, List.length_append, List.length_cons]
      omega
  | or left right ihLeft ihRight =>
      simp only [isPrintable, Bool.and_eq_true] at printable
      obtain ⟨readLeft, readRight⟩ := (ihLeft printable.1).both (ihRight printable.2)
      refine (folds_or.pair (parseOrRest_or left) (by decide) (reads_operand_and readLeft)
        (reads_operand_and readRight)).mono ?_
      simp only [tokens, length_parens, List.length_append, List.length_cons]
      omega
  | compare comparison left right ihLeft ihRight =>
      simp only [isPrintable, Bool.and_eq_true] at printable
      obtain ⟨readLeft, readRight⟩ := (ihLeft printable.1).both (ihRight printable.2)
      obtain ⟨sign, loose⟩ := comparisonOf?_sign comparison
      have compared := reads_compare sign loose (reads_operand_sum readLeft)
        (reads_operand_sum readRight)
      refine (compared.ofComparison (by decide)).mono ?_
      simp only [tokens, length_parens, List.length_append, List.length_cons]
      omega
  | add left right ihLeft ihRight =>
      simp only [isPrintable, Bool.and_eq_true] at printable
      obtain ⟨readLeft, readRight⟩ := (ihLeft printable.1).both (ihRight printable.2)
      have total := folds_sum.pair (parseSumRest_plus left) (by decide)
        (reads_operand_signed readLeft) (reads_operand_signed readRight)
      refine (total.atComparison.ofComparison (by decide)).mono ?_
      simp only [tokens, length_parens, List.length_append, List.length_cons]
      omega
  | sub left right ihLeft ihRight =>
      simp only [isPrintable, Bool.and_eq_true] at printable
      obtain ⟨readLeft, readRight⟩ := (ihLeft printable.1).both (ihRight printable.2)
      have total := folds_sum.pair (parseSumRest_minus left) (by decide)
        (reads_operand_signed readLeft) (reads_operand_signed readRight)
      refine (total.atComparison.ofComparison (by decide)).mono ?_
      simp only [tokens, length_parens, List.length_append, List.length_cons]
      omega

theorem tokens_ne_nil {e : Expr} (printable : e.isPrintable = true) : e.tokens ≠ [] := by
  cases e with
  | literal value =>
      cases value with
      | bool b => cases b <;> simp [tokens, literalToken?]
      | null | int _ | text _ => simp [tokens, literalToken?]
      | _ => cases printable
  | _ => simp [tokens, parens]

theorem parse_write {token : Token} (legible : Legible (token :: ts))
    (reads : Reads parseOr 1 (enoughFuel (token :: ts)) (token :: ts) e) (gaps : Gaps) :
    parse (String.ofList (gaps.write 0 (token :: ts))) = .ok e := by
  have read := reads _ [] (Nat.le_refl _) (Ends.nil 1)
  rw [List.append_nil] at read
  rw [parse, legible.tokenize_write gaps]
  change parseTokens (token :: ts) = .ok e
  rw [parseTokens, read]
  rfl

/-- Parsing the text of an expression reads the expression. -/
theorem parse_print (e : Expr) (printable : e.isPrintable = true) (gaps : Gaps) :
    parse (e.print gaps) = .ok e := by
  have legible := legible_tokens printable
  have reads := (reads_tokens printable).mono
    (show _ ≤ enoughFuel e.tokens by rw [enoughFuel]; omega)
  obtain ⟨token, rest, split⟩ := List.exists_cons_of_ne_nil (tokens_ne_nil printable)
  rw [print, split]
  rw [split] at legible reads
  exact parse_write legible reads gaps

def widening : Gaps where
  blanks n := List.replicate n ' '
  blank n c mem := by rw [List.eq_of_mem_replicate mem]; decide

def overLimit : Expr :=
  or (not (isEmpty (var "rows")))
    (compare .ge (neg (index (member (var "limits") "by") (literal (.text "it's \\ it"))))
      (sub (literal (.int 10)) (add (size (var "rows")) (literal .null))))

theorem parse_print_overLimit :
    overLimit.isPrintable = true ∧ parse (overLimit.print widening) = .ok overLimit :=
  ⟨by decide, parse_print overLimit (by decide) widening⟩

example : (or (not (var "a")) (index (var "b") (literal (.text "it's")))).print .none =
    "(!(a))or((b)[('it\\'s')])" := by
  decide

end Expr

end MappedSql
