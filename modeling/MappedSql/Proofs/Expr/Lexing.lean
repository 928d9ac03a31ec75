import Mathlib.Data.List.Chain
import MappedSql.Expr.Token
import MappedSql.Proofs.Number.Numerals
import MappedSql.Proofs.Text.Trimming

namespace MappedSql.Expr

def guarded (c : Char) : List Char :=
  if c = '\'' ∨ c = '\\' then ['\\', c] else [c]

def operators : List String :=
  ["==", "!=", "<=", ">=", "&&", "||", "<", ">", "!", "+", "-"]

def Token.spell : Token → List Char
  | name word => word.toList
  | int value => Nat.toDigits 10 value.toInt.toNat
  | float _ => []
  | text value => '\'' :: (value.toList.flatMap guarded ++ ['\''])
  | op symbol => symbol.toList
  | leftParen => ['(']
  | rightParen => [')']
  | leftBracket => ['[']
  | rightBracket => [']']
  | dot => ['.']

def Token.Writable : Token → Prop
  | name word => ∃ c rest, word.toList = c :: rest ∧ startsName c ∧ ∀ d ∈ rest, continuesName d
  | int value => 0 ≤ value.toInt
  | float _ => False
  | op symbol => symbol ∈ operators
  | _ => True

def Token.apart : Token → Token → Bool
  | name _, name _ | name _, int _ | int _, name _ | int _, int _ => false
  | int _, dot | dot, int _ | op _, op _ => false
  | _, _ => true

def Token.Stops (token : Token) (rest : List Char) : Prop :=
  ∀ c ∈ rest.head?, match token with
    | name _ => continuesName c = false
    | int _ => isNumberChar c = false ∧ isNumberSuffix c = false
    | op _ => c ≠ '='
    | dot => c.isDigit = false
    | _ => True

theorem takeWhile_append_stop {p : Char → Bool} {cs rest : List Char} (taken : ∀ c ∈ cs, p c)
    (stops : ∀ c ∈ rest.head?, p c = false) : (cs ++ rest).takeWhile p = cs := by
  rw [List.takeWhile_append_of_pos taken]
  cases rest with
  | nil => simp
  | cons c rest => simp [stops c (by simp)]

theorem dropWhile_append_stop {p : Char → Bool} {cs rest : List Char} (taken : ∀ c ∈ cs, p c)
    (stops : ∀ c ∈ rest.head?, p c = false) : (cs ++ rest).dropWhile p = rest := by
  rw [List.dropWhile_append_of_pos taken]
  cases rest with
  | nil => simp
  | cons c rest => simp [stops c (by simp)]

theorem readText_guarded (value rest : List Char) :
    readText '\'' (value.flatMap guarded ++ '\'' :: rest) = some (value, rest) := by
  induction value with
  | nil => simp [readText]
  | cons c value ih =>
      by_cases special : c = '\'' ∨ c = '\\'
      · rw [List.flatMap_cons, guarded, if_pos special, List.append_assoc, List.cons_append,
          List.cons_append, List.nil_append, readText, ih]
        rcases special with rfl | rfl <;> rfl
      · rw [List.flatMap_cons, guarded, if_neg special, List.append_assoc, List.cons_append,
          List.nil_append]
        rw [not_or] at special
        rw [readText, ih, if_neg (by simpa using special.1)]
        · rfl
        · exact fun backslash _ => absurd backslash special.2
        · exact fun _ _ backslash _ => absurd backslash special.2

theorem isNumberChar_of_isDigit {c : Char} (digit : c.isDigit) : isNumberChar c := by
  simp [isNumberChar, digit]

theorem numberToken_toDigits {value : Int64} (positive : 0 ≤ value.toInt) :
    numberToken (Nat.toDigits 10 value.toInt.toNat) = .ok (.int value) := by
  have pointless : (Nat.toDigits 10 value.toInt.toNat).contains '.' = false := by
    rw [List.contains_eq_mem, decide_eq_false_iff_not]
    exact fun mem => absurd (Number.isDigit_of_mem_toDigits mem) (by decide)
  simp only [numberToken, pointless, Bool.false_eq_true, if_false, Number.readInt64?_toDigits positive,
    Option.map_some]

theorem readToken_int {value : Int64} (positive : 0 ≤ value.toInt) {c : Char} {cs rest : List Char}
    (spelled : Nat.toDigits 10 value.toInt.toNat = c :: cs) (stops : Token.Stops (.int value) rest) :
    readToken c (cs ++ rest) = .ok (.int value, rest) := by
  have digits : ∀ d ∈ c :: cs, d.isDigit := fun d mem =>
    Number.isDigit_of_mem_toDigits (spelled ▸ mem)
  have digit := digits c List.mem_cons_self
  have taken : ∀ d ∈ cs, isNumberChar d := fun d mem =>
    isNumberChar_of_isDigit (digits d (List.mem_cons_of_mem _ mem))
  have past : ∀ d ∈ rest.head?, isNumberChar d = false := fun d mem => (stops d mem).1
  have unsuffixed : rest.head?.any isNumberSuffix = false := by
    cases rest with
    | nil => rfl
    | cons d rest => exact (stops d rfl).2
  have differs : ∀ d : Char, d.isDigit = false → (c == d) = false := fun d other =>
    beq_eq_false_iff_ne.2 (Number.ne_of_isDigit digit other)
  rw [readToken.eq_5 c _
    (Number.ne_of_isDigit digit (by decide)) (Number.ne_of_isDigit digit (by decide))
    (Number.ne_of_isDigit digit (by decide)) (Number.ne_of_isDigit digit (by decide))]
  simp only [differs '.' (by decide), differs '\'' (by decide), differs '"' (by decide),
    Bool.false_and, Bool.or_self, Bool.false_eq_true, if_false, isNumberChar_of_isDigit digit, if_true,
    takeWhile_append_stop taken past, dropWhile_append_stop taken past, unsuffixed, ← spelled,
    numberToken_toDigits positive]
  rfl

theorem not_isDigit_of_startsName {c : Char} (starts : startsName c) : c.isDigit = false := by
  by_contra digit
  rw [Bool.not_eq_false] at digit
  have bounds : 48 ≤ c.toNat ∧ c.toNat ≤ 57 := by
    simpa [Char.isDigit, UInt32.le_iff_toNat_le] using digit
  have numeral : ∀ n, n < 58 → 48 ≤ n → startsName (Char.ofNat n) = false := by decide
  have := numeral c.toNat (by omega) bounds.1
  rw [Char.ofNat_toNat, starts] at this
  contradiction

theorem readToken_name {word : String} {c : Char} {cs rest : List Char} (spelled : word.toList = c :: cs)
    (starts : startsName c) (continues : ∀ d ∈ cs, continuesName d)
    (stops : Token.Stops (.name word) rest) : readToken c (cs ++ rest) = .ok (.name word, rest) := by
  have differs : ∀ d : Char, startsName d = false → c ≠ d := by
    rintro d other rfl
    rw [starts] at other
    contradiction
  have unequal : ∀ d : Char, startsName d = false → (c == d) = false := fun d other =>
    beq_eq_false_iff_ne.2 (differs d other)
  have wordy : isNumberChar c = false := by
    simp [isNumberChar, not_isDigit_of_startsName starts, differs '.' (by decide)]
  rw [readToken.eq_5 c _ (differs _ (by decide)) (differs _ (by decide)) (differs _ (by decide))
    (differs _ (by decide))]
  simp only [unequal '.' (by decide), unequal '\'' (by decide), unequal '"' (by decide),
    Bool.false_and, Bool.or_self, Bool.false_eq_true, if_false, wordy, starts, if_true,
    takeWhile_append_stop continues stops, dropWhile_append_stop continues stops, ← spelled,
    String.ofList_toList]

theorem readToken_text (value : String) (rest : List Char) :
    readToken '\'' (value.toList.flatMap guarded ++ ['\''] ++ rest) = .ok (.text value, rest) := by
  rw [List.append_assoc, readToken.eq_5 '\'' _ (by decide) (by decide) (by decide) (by decide)]
  simp [readText_guarded]

theorem readToken_dot {rest : List Char} (stops : Token.Stops .dot rest) :
    readToken '.' rest = .ok (.dot, rest) := by
  have digitless : rest.head?.any Char.isDigit = false := by
    cases rest with
    | nil => rfl
    | cons d rest => exact stops d rfl
  rw [readToken.eq_5 '.' _ (by decide) (by decide) (by decide) (by decide), digitless]
  rfl

theorem operator?_append {symbol : String} (known : symbol ∈ operators) {rest : List Char}
    (stops : Token.Stops (.op symbol) rest) :
    operator? (symbol.toList ++ rest) = some (symbol, symbol.toList.length) := by
  have past : ∀ tail, rest = '=' :: tail → False := by
    rintro tail rfl
    exact stops '=' rfl rfl
  simp only [operators, List.mem_cons, List.not_mem_nil, or_false] at known
  rcases known with rfl | rfl | rfl | rfl | rfl | rfl | rfl | rfl | rfl | rfl | rfl
  case inr.inr.inr.inr.inr.inr.inl => exact operator?.eq_7 rest past
  case inr.inr.inr.inr.inr.inr.inr.inl => exact operator?.eq_8 rest past
  case inr.inr.inr.inr.inr.inr.inr.inr.inl => exact operator?.eq_9 rest past
  all_goals rfl

theorem readToken_op {symbol : String} (known : symbol ∈ operators) {c : Char} {cs rest : List Char}
    (spelled : symbol.toList = c :: cs) (stops : Token.Stops (.op symbol) rest) :
    readToken c (cs ++ rest) = .ok (.op symbol, rest) := by
  have found := operator?_append known stops
  have plain : ∀ symbol ∈ operators, symbol.toList.headD '.' ∉ ['(', ')', '[', ']', '.', '\'', '"'] ∧
      isNumberChar (symbol.toList.headD '.') = false ∧
      startsName (symbol.toList.headD '.') = false ∧ symbol ∉ ["=", "&", "|"] := by
    decide
  obtain ⟨unlike, numberless, nameless, finished⟩ := plain symbol known
  rw [spelled, List.headD_cons] at unlike numberless nameless
  simp only [List.mem_cons, List.not_mem_nil, or_false, not_or] at unlike finished
  rw [spelled, List.cons_append] at found
  rw [readToken.eq_5 c _ unlike.1 unlike.2.1 unlike.2.2.1 unlike.2.2.2.1]
  simp [unlike, numberless, nameless, finished, found]

theorem readToken_spell {token : Token} (writable : token.Writable) {c : Char} {cs rest : List Char}
    (spelled : token.spell = c :: cs) (stops : token.Stops rest) :
    readToken c (cs ++ rest) = .ok (token, rest) := by
  cases token with
  | name word =>
      obtain ⟨d, ds, split, starts, continues⟩ := writable
      obtain ⟨rfl, rfl⟩ := List.cons.inj (split.symm.trans spelled)
      exact readToken_name split starts continues stops
  | int value => exact readToken_int writable spelled stops
  | float value => cases writable
  | text value =>
      obtain ⟨rfl, rfl⟩ := List.cons.inj spelled
      exact readToken_text value rest
  | op symbol => exact readToken_op writable spelled stops
  | dot =>
      obtain ⟨rfl, rfl⟩ := List.cons.inj spelled
      exact readToken_dot stops
  | leftParen | rightParen | leftBracket | rightBracket =>
      obtain ⟨rfl, rfl⟩ := List.cons.inj spelled
      rfl

theorem idle_of_blank {c : Char} (blank : Text.isBlank c) :
    startsName c = false ∧ continuesName c = false ∧ isNumberChar c = false ∧
      isNumberSuffix c = false ∧ c ≠ '=' := by
  obtain ⟨letterless, wordless⟩ := Text.isLetterOrNumber_of_isBlank blank
  have other : ∀ d ∈ Text.blanks, d ≠ '_' ∧ d ≠ '$' ∧ isNumberChar d = false ∧
      isNumberSuffix d = false ∧ d ≠ '=' :=
    List.all_iff_forall_prop.1 (by decide +kernel)
  obtain ⟨underscore, dollar, rest⟩ := other c (Text.mem_blanks blank)
  refine ⟨?_, ?_, rest⟩
  · simp [startsName, letterless, underscore, dollar]
  · simp [continuesName, wordless, underscore, dollar]

theorem Token.stops_nil (token : Token) : token.Stops [] := by
  intro c mem
  cases mem

theorem Token.stops_of_blank (token : Token) {c : Char} (blank : Text.isBlank c) (rest : List Char) :
    token.Stops (c :: rest) := by
  obtain ⟨-, wordless, numberless, suffixless, unequal⟩ := idle_of_blank blank
  intro d mem
  obtain rfl : c = d := by simpa using mem
  cases token with
  | name word => exact wordless
  | int value => exact ⟨numberless, suffixless⟩
  | op symbol => exact unequal
  | dot =>
      simp only [isNumberChar, Bool.or_eq_false_iff] at numberless
      exact numberless.1
  | float _ | text _ | leftParen | rightParen | leftBracket | rightBracket => trivial

def signs : List Char :=
  ['=', '!', '<', '>', '&', '|', '+', '-', '.', '\'', '(', ')', '[', ']']

def Token.Begins (token : Token) (c : Char) : Prop :=
  match token with
  | name _ => startsName c = true
  | int _ => c.isDigit = true
  | float _ => False
  | op _ => c ∈ signs ∧ c ≠ '.'
  | dot => c = '.'
  | _ => c ∈ ['\'', '(', ')', '[', ']']

theorem Token.Writable.exists_begins {token : Token} (writable : token.Writable) :
    ∃ c cs, token.spell = c :: cs ∧ token.Begins c := by
  cases token with
  | name word =>
      obtain ⟨c, cs, split, starts, -⟩ := writable
      exact ⟨c, cs, split, starts⟩
  | int value =>
      obtain ⟨c, cs, split⟩ := List.exists_cons_of_ne_nil
        (Nat.toDigits_ne_nil (n := value.toInt.toNat) (b := 10))
      exact ⟨c, cs, split, Number.isDigit_of_mem_toDigits (split ▸ List.mem_cons_self)⟩
  | float value => cases writable
  | op symbol =>
      have known : ∀ symbol ∈ operators,
          symbol.toList.headD '.' ∈ signs ∧ symbol.toList.headD '.' ≠ '.' := by
        decide
      obtain ⟨mem, other⟩ := known symbol writable
      cases split : symbol.toList with
      | nil =>
          rw [split] at other
          contradiction
      | cons c cs =>
          rw [split] at mem other
          exact ⟨c, cs, split, mem, other⟩
  | text value => exact ⟨_, _, rfl, List.mem_cons_self⟩
  | dot => exact ⟨_, _, rfl, rfl⟩
  | leftParen | rightParen | leftBracket | rightBracket =>
      exact ⟨_, _, rfl, List.mem_of_elem_eq_true rfl⟩

theorem Token.Begins.cases {token : Token} {c : Char} (begins : token.Begins c) :
    (∃ word, token = name word) ∧ startsName c ∨ (∃ value, token = int value) ∧ c.isDigit ∨
      c ∈ signs ∧ (c = '.' → token = dot) ∧ (c = '=' → ∃ symbol, token = op symbol) := by
  have brackets : ∀ c ∈ ['\'', '(', ')', '[', ']'], c ∈ signs ∧ c ≠ '.' ∧ c ≠ '=' :=
    List.all_iff_forall_prop.1 (by decide)
  cases token with
  | name word => exact .inl ⟨⟨word, rfl⟩, begins⟩
  | int value => exact .inr (.inl ⟨⟨value, rfl⟩, begins⟩)
  | float value => exact begins.elim
  | op symbol => exact .inr (.inr ⟨begins.1, fun point => absurd point begins.2, fun _ => ⟨symbol, rfl⟩⟩)
  | dot =>
      obtain rfl : c = '.' := begins
      exact .inr (.inr ⟨by decide, fun _ => rfl, fun equal => absurd equal (by decide)⟩)
  | text _ | leftParen | rightParen | leftBracket | rightBracket =>
      obtain ⟨sign, pointless, unequal⟩ := brackets c begins
      exact .inr (.inr ⟨sign, fun point => absurd point pointless, fun equal => absurd equal unequal⟩)

theorem idle_of_sign : ∀ c ∈ signs, Text.isBlank c = false ∧ continuesName c = false ∧
    isNumberSuffix c = false ∧ c.isDigit = false :=
  List.all_iff_forall_prop.1 (by decide)

theorem Token.Begins.not_blank {token : Token} {c : Char} (begins : token.Begins c) :
    Text.isBlank c = false := by
  by_contra blank
  rw [Bool.not_eq_false] at blank
  obtain ⟨nameless, -, numberless, -, -⟩ := idle_of_blank blank
  rcases begins.cases with ⟨-, starts⟩ | ⟨-, digit⟩ | ⟨sign, -⟩
  · exact absurd (starts.symm.trans nameless) (by decide)
  · exact absurd ((isNumberChar_of_isDigit digit).symm.trans numberless) (by decide)
  · exact absurd (blank.symm.trans (idle_of_sign c sign).1) (by decide)

theorem Token.stops_of_apart {left right : Token} (told : left.apart right = true) {c : Char}
    (begins : right.Begins c) (rest : List Char) : left.Stops (c :: rest) := by
  intro d mem
  obtain rfl : c = d := by simpa using mem
  have unequal : startsName '=' = false ∧ '='.isDigit = false := by decide
  rcases begins.cases with ⟨⟨word, rfl⟩, starts⟩ | ⟨⟨value, rfl⟩, digit⟩ | ⟨sign, point, equal⟩
  · cases left with
    | name _ | int _ => cases told
    | op symbol =>
        rintro rfl
        exact absurd (starts.symm.trans unequal.1) (by decide)
    | dot => exact not_isDigit_of_startsName starts
    | float _ | text _ | leftParen | rightParen | leftBracket | rightBracket => trivial
  · cases left with
    | name _ | int _ | dot => cases told
    | op symbol =>
        rintro rfl
        exact absurd (digit.symm.trans unequal.2) (by decide)
    | float _ | text _ | leftParen | rightParen | leftBracket | rightBracket => trivial
  · obtain ⟨-, wordless, suffixless, digitless⟩ := idle_of_sign c sign
    cases left with
    | name _ => exact wordless
    | int _ =>
        have pointless : c ≠ '.' := by
          intro eq
          rw [point eq] at told
          cases told
        exact ⟨by simp [isNumberChar, digitless, pointless], suffixless⟩
    | op symbol =>
        intro eq
        obtain ⟨other, rfl⟩ := equal eq
        cases told
    | dot => exact digitless
    | float _ | text _ | leftParen | rightParen | leftBracket | rightBracket => trivial

/-- Blanks to stand between tokens, before the first and behind the last. -/
structure Gaps where
  blanks : Nat → List Char
  blank : ∀ n, ∀ c ∈ blanks n, Text.isBlank c

def Gaps.none : Gaps where
  blanks _ := []
  blank := by simp

/-- Tokens one after the other, from the `n`-th on, with a gap before each and one at the end. -/
def Gaps.write (gaps : Gaps) (n : Nat) : List Token → List Char
  | [] => gaps.blanks n
  | token :: rest => gaps.blanks n ++ token.spell ++ gaps.write (n + 1) rest

theorem readTokens_blank_append {gap : List Char} (blank : ∀ c ∈ gap, Text.isBlank c) (fuel : Nat)
    (cs : List Char) : readTokens (gap.length + fuel) (gap ++ cs) = readTokens fuel cs := by
  induction gap with
  | nil => rw [List.length_nil, Nat.zero_add, List.nil_append]
  | cons c gap ih =>
      rw [List.length_cons, Nat.add_right_comm, List.cons_append, readTokens,
        if_pos (blank c List.mem_cons_self), ih fun d mem => blank d (List.mem_cons_of_mem c mem)]

theorem readTokens_of_readToken {token : Token} {c : Char} {cs rest : List Char} {fuel : Nat}
    (visible : Text.isBlank c = false) (read : readToken c cs = .ok (token, rest)) :
    readTokens (fuel + 1) (c :: cs) = (readTokens fuel rest).map (token :: ·) := by
  rw [readTokens, visible, read]
  rfl

theorem Gaps.stops_write (gaps : Gaps) (n : Nat) {token : Token} {rest : List Token}
    (told : ∀ next ∈ rest.head?, token.apart next = true) (writable : ∀ next ∈ rest, next.Writable) :
    token.Stops (gaps.write n rest) := by
  cases gap : gaps.blanks n with
  | cons c gap' =>
      have blank := gaps.blank n c (by rw [gap]; exact List.mem_cons_self)
      cases rest <;> exact (by rw [write, gap]; exact token.stops_of_blank blank _)
  | nil =>
      cases rest with
      | nil => rw [write, gap]; exact token.stops_nil
      | cons next rest =>
          obtain ⟨c, cs, split, begins⟩ := (writable next List.mem_cons_self).exists_begins
          rw [write, gap, List.nil_append, split]
          exact Token.stops_of_apart (told next rfl) begins _

structure Legible (tokens : List Token) : Prop where
  writable : ∀ token ∈ tokens, token.Writable
  told : tokens.IsChain fun left right => left.apart right = true

theorem Legible.single {token : Token} (writable : token.Writable) : Legible [token] :=
  ⟨by simpa using writable, .singleton token⟩

theorem Legible.cons {token next : Token} {rest : List Token} (writable : token.Writable)
    (told : token.apart next = true) (legible : Legible (next :: rest)) :
    Legible (token :: next :: rest) :=
  ⟨List.forall_mem_cons.2 ⟨writable, legible.writable⟩, .cons_cons told legible.told⟩

theorem Legible.tail {token : Token} {rest : List Token} (legible : Legible (token :: rest)) :
    Legible rest :=
  ⟨(List.forall_mem_cons.1 legible.writable).2, legible.told.tail⟩

theorem Legible.split {left right : List Token} {token : Token} :
    Legible (left ++ token :: right) ↔ Legible (left ++ [token]) ∧ Legible (token :: right) := by
  constructor
  · intro legible
    have chains := List.isChain_split.1 legible.told
    refine ⟨⟨fun t mem => legible.writable t ?_, chains.1⟩, fun t mem => legible.writable t ?_, chains.2⟩
    · simp only [List.mem_append, List.mem_cons] at mem ⊢
      tauto
    · exact List.mem_append_right left mem
  · rintro ⟨first, second⟩
    refine ⟨fun t mem => ?_, List.isChain_split.2 ⟨first.told, second.told⟩⟩
    rcases List.mem_append.1 mem with before | behind
    · exact first.writable t (List.mem_append_left _ before)
    · exact second.writable t behind

theorem Gaps.readTokens_write (gaps : Gaps) (n : Nat) {tokens : List Token}
    (legible : Legible tokens) {fuel : Nat} (enough : (gaps.write n tokens).length ≤ fuel) :
    readTokens fuel (gaps.write n tokens) = .ok tokens := by
  induction tokens generalizing n fuel with
  | nil =>
      obtain ⟨more, rfl⟩ := Nat.exists_eq_add_of_le enough
      have read := readTokens_blank_append (gaps.blank n) more []
      rw [List.append_nil] at read
      rw [write, read]
      cases more <;> rfl
  | cons token rest ih =>
      have writable := legible.writable token List.mem_cons_self
      obtain ⟨c, cs, split, begins⟩ := writable.exists_begins
      have told : ∀ next ∈ rest.head?, token.apart next = true := by
        cases rest with
        | nil => simp
        | cons next rest => simpa using (List.isChain_cons_cons.1 legible.told).1
      have stops := gaps.stops_write (n + 1) told legible.tail.writable
      rw [write, split, List.append_assoc, List.cons_append] at enough ⊢
      simp only [List.length_append, List.length_cons] at enough
      obtain ⟨more, rfl⟩ := Nat.exists_eq_add_of_le (show (gaps.blanks n).length + 1 ≤ fuel by omega)
      rw [Nat.add_assoc, Nat.add_comm 1 more, readTokens_blank_append (gaps.blank n),
        readTokens_of_readToken begins.not_blank (readToken_spell writable split stops),
        ih (n + 1) legible.tail (by omega)]
      rfl

theorem Legible.tokenize_write {tokens : List Token} (legible : Legible tokens) (gaps : Gaps) :
    tokenize (String.ofList (gaps.write 0 tokens)) = .ok tokens := by
  rw [tokenize, String.toList_ofList]
  exact gaps.readTokens_write 0 legible (Nat.le_refl _)

/-- A name of ASCII letters, digits, `_` and `$` that does not begin with a digit. -/
def isIdentifier (word : String) : Bool :=
  match word.toList with
  | [] => false
  | c :: rest =>
      (c.isAlpha || c == '_' || c == '$') && rest.all fun d => d.isAlphanum || d == '_' || d == '$'

theorem startsName_of_isAlpha {c : Char} (letter : c.isAlpha) : startsName c := by
  have ascii := @Text.toNat_lt_of_isAlphanum c (by simp [Char.isAlphanum, letter])
  simp [startsName, Text.isLetter, ascii, letter]

theorem continuesName_of_isAlphanum {c : Char} (plain : c.isAlphanum) : continuesName c := by
  simp [continuesName, Text.isLetterOrNumber_of_isAlphanum plain]

theorem writable_of_isIdentifier {word : String} (identifier : isIdentifier word = true) :
    (Token.name word).Writable := by
  unfold isIdentifier at identifier
  split at identifier
  · contradiction
  · next c rest split =>
      simp only [Bool.and_eq_true, Bool.or_eq_true, beq_iff_eq, List.all_eq_true] at identifier
      refine ⟨c, rest, split, ?_, fun d mem => ?_⟩
      · rcases identifier.1 with (letter | rfl) | rfl
        · exact startsName_of_isAlpha letter
        all_goals decide
      · rcases identifier.2 d mem with (plain | rfl) | rfl
        · exact continuesName_of_isAlphanum plain
        all_goals decide

end MappedSql.Expr
