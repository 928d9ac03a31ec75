import MappedSql.Text.Blank
import MappedSql.Text.Letters

namespace MappedSql.Text

/-- A regular expression. A repetition without `most` has no upper bound. -/
inductive Pattern
  | empty
  | oneOf (accepts : Char → Bool)
  | lineStart (everyLine : Bool)
  | lineEnd (everyLine : Bool)
  | wordBoundary (expected : Bool)
  | seq (first second : Pattern)
  | alt (first second : Pattern)
  | repeated (body : Pattern) (least : Nat) (most : Option Nat) (greedy : Bool)

namespace Pattern

/-- A place in a text: the character before it and the characters after it. -/
structure Place where
  previous : Option Char
  rest : List Char

namespace Place

def sameAs (p q : Place) : Bool :=
  p.rest.length == q.rest.length

def atWordBoundary (p : Place) : Bool :=
  p.previous.any isWordChar != p.rest.head?.any isWordChar

end Place

def distinctPlaces : List Place → List Place
  | [] => []
  | p :: rest => p :: (distinctPlaces rest).filter fun q => !p.sameAs q

def iterate (step : Place → List Place) (greedy : Bool) : Nat → Place → List Place
  | 0, p => [p]
  | fuel + 1, p =>
      let further := (step p).filter (fun q => q.rest.length < p.rest.length)
      let after := further.flatMap (iterate step greedy fuel)
      distinctPlaces (if greedy then after ++ [p] else p :: after)

def ends : Pattern → Place → List Place
  | .empty, p => [p]
  | .oneOf accepts, p =>
      match p.rest with
      | c :: rest => if accepts c then [⟨some c, rest⟩] else []
      | [] => []
  | .lineStart everyLine, p =>
      if p.previous.isNone || (everyLine && p.previous == some '\n') then [p] else []
  | .lineEnd everyLine, p =>
      if p.rest.isEmpty || (everyLine && p.rest.head? == some '\n') then [p] else []
  | .wordBoundary expected, p => if p.atWordBoundary == expected then [p] else []
  | .seq first second, p => distinctPlaces ((first.ends p).flatMap second.ends)
  | .alt first second, p => distinctPlaces (first.ends p ++ second.ends p)
  | .repeated body least most greedy, p =>
      let required := (List.replicate least ()).foldl
        (fun places _ => distinctPlaces (places.flatMap body.ends)) [p]
      let optional : Place → List Place := fun q =>
        iterate body.ends greedy ((most.map (· - least)).getD q.rest.length) q
      distinctPlaces (required.flatMap optional)

def spans (pattern : Pattern) (s : String) : Bool :=
  (pattern.ends ⟨none, s.toList⟩).head?.any (·.rest.isEmpty)

structure Flags where
  ignoreCase : Bool := false
  dotAll : Bool := false
  everyLine : Bool := false
  lazy : Bool := false

def otherCase (c : Char) : Char :=
  let n := c.toNat
  if c.isUpper then c.toLower
  else if c.isLower then c.toUpper
  else if (0xc0 ≤ n && n ≤ 0xde && n != 0xd7) || (0x391 ≤ n && n ≤ 0x3a9)
      || (0x410 ≤ n && n ≤ 0x42f) then Char.ofNat (n + 32)
  else if (0xe0 ≤ n && n ≤ 0xfe && n != 0xf7) || (0x3b1 ≤ n && n ≤ 0x3c9 && n != 0x3c2)
      || (0x430 ≤ n && n ≤ 0x44f) then Char.ofNat (n - 32)
  else if 0x400 ≤ n && n ≤ 0x40f then Char.ofNat (n + 80)
  else if 0x450 ≤ n && n ≤ 0x45f then Char.ofNat (n - 80)
  else c

def foldedSet (flags : Flags) (accepts : Char → Bool) : Char → Bool :=
  if flags.ignoreCase then fun c => accepts c || accepts (otherCase c) else accepts

def namedClass? : Char → Option (Char → Bool)
  | 'w' => some isWordChar
  | 'W' => some fun c => !isWordChar c
  | 'd' => some isDecimalDigit
  | 'D' => some fun c => !isDecimalDigit c
  | 's' => some isBlank
  | 'S' => some fun c => !isBlank c
  | _ => none

def escapedChar? : Char → Option Char
  | 'n' => some '\n'
  | 't' => some '\t'
  | 'r' => some '\r'
  | 'f' => some '\x0c'
  | 'v' => some '\x0b'
  | 'a' => some '\x07'
  | c => if c.isAlphanum || c.toNat ≥ 0x80 || isBlank c then none else some c

def readNat (cs : List Char) : Option (Nat × List Char) :=
  let digits := cs.takeWhile Char.isDigit
  if digits.isEmpty then none
  else some (digits.foldl (fun n d => 10 * n + (d.toNat - '0'.toNat)) 0, cs.drop digits.length)

def readCounts (cs : List Char) : Option ((Nat × Option Nat) × List Char) :=
  match readNat cs with
  | some (m, '}' :: rest) => some ((m, some m), rest)
  | some (m, ',' :: '}' :: rest) => some ((m, none), rest)
  | some (m, ',' :: rest) =>
      match readNat rest with
      | some (n, '}' :: rest) => if m ≤ n then some ((m, some n), rest) else none
      | _ => none
  | _ => none

inductive ClassItem
  | single (c : Char)
  | set (accepts : Char → Bool)

def readClassItem : List Char → Option (ClassItem × List Char)
  | '\\' :: c :: rest =>
      match namedClass? c, escapedChar? c with
      | some accepts, _ => some (.set accepts, rest)
      | none, some c => some (.single c, rest)
      | none, none => none
  | ['\\'] => none
  | c :: rest => some (.single c, rest)
  | [] => none

def readClassItems (fuel : Nat) (first : Bool) (cs : List Char) :
    Option ((Char → Bool) × List Char) :=
  match fuel with
  | 0 => none
  | fuel + 1 =>
      match cs with
      | ']' :: rest =>
          if first then continueWith fuel (.single ']') rest else some (fun _ => false, rest)
      | _ => do
          let (item, rest) ← readClassItem cs
          continueWith fuel item rest
where
  continueWith (fuel : Nat) (item : ClassItem) (rest : List Char) :
      Option ((Char → Bool) × List Char) :=
    match item, rest with
    | .single low, '-' :: next :: tail =>
        if next == ']' then do
          let (others, rest) ← readClassItems fuel false rest
          some (fun c => c == low || others c, rest)
        else
          match readClassItem (next :: tail) with
          | some (.single high, rest) =>
              if low ≤ high then do
                let (others, rest) ← readClassItems fuel false rest
                some (fun c => (low ≤ c && c ≤ high) || others c, rest)
              else none
          | _ => none
    | .single low, rest => do
        let (others, rest) ← readClassItems fuel false rest
        some (fun c => c == low || others c, rest)
    | .set accepts, rest => do
        let (others, rest) ← readClassItems fuel false rest
        some (fun c => accepts c || others c, rest)

def readClass (cs : List Char) : Option ((Char → Bool) × List Char) :=
  match cs with
  | '^' :: rest => do
      let (accepts, rest) ← readClassItems (cs.length + 1) true rest
      some (fun c => !accepts c, rest)
  | _ => readClassItems (cs.length + 1) true cs

def readFlags (flags : Flags) (value : Bool) : List Char → Option (Flags × Bool × List Char)
  | ')' :: rest => some (flags, false, rest)
  | ':' :: rest => some (flags, true, rest)
  | '-' :: rest => if value then readFlags flags false rest else none
  | 'i' :: rest => readFlags { flags with ignoreCase := value } value rest
  | 's' :: rest => readFlags { flags with dotAll := value } value rest
  | 'm' :: rest => readFlags { flags with everyLine := value } value rest
  | 'U' :: rest => readFlags { flags with lazy := value } value rest
  | 'u' :: rest => readFlags flags value rest
  | _ => none

def readRepetitions (fuel : Nat) (flags : Flags) (body : Pattern) (cs : List Char) :
    Option (Pattern × List Char) :=
  match fuel with
  | 0 => none
  | fuel + 1 =>
      let apply (least : Nat) (most : Option Nat) (rest : List Char) :=
        match rest with
        | '?' :: rest => readRepetitions fuel flags (.repeated body least most flags.lazy) rest
        | rest => readRepetitions fuel flags (.repeated body least most (!flags.lazy)) rest
      match cs with
      | '*' :: rest => apply 0 none rest
      | '+' :: rest => apply 1 none rest
      | '?' :: rest => apply 0 (some 1) rest
      | '{' :: rest => do
          let ((least, most), rest) ← readCounts rest
          apply least most rest
      | _ => some (body, cs)

mutual

/-- Reads one alternative after another; flags set in one hold in those that follow. -/
def readAlternatives (fuel : Nat) (flags : Flags) (cs : List Char) :
    Option (Pattern × List Char) :=
  match fuel with
  | 0 => none
  | fuel + 1 => do
      let (first, flags, rest) ← readSequence fuel flags cs
      match rest with
      | '|' :: rest =>
          let (second, rest) ← readAlternatives fuel flags rest
          some (.alt first second, rest)
      | _ => some (first, rest)

def readSequence (fuel : Nat) (flags : Flags) (cs : List Char) :
    Option (Pattern × Flags × List Char) :=
  match fuel with
  | 0 => none
  | fuel + 1 =>
      let continueWith (body : Pattern) (rest : List Char) := do
        let (body, rest) ← readRepetitions (rest.length + 1) flags body rest
        let (others, flags, rest) ← readSequence fuel flags rest
        some (.seq body others, flags, rest)
      let continueGroup (inner : Flags) (rest : List Char) := do
        let (body, rest) ← readAlternatives fuel inner rest
        match rest with
        | ')' :: rest => continueWith body rest
        | _ => none
      match cs with
      | [] => some (.empty, flags, [])
      | '|' :: _ | ')' :: _ => some (.empty, flags, cs)
      | '*' :: _ | '+' :: _ | '?' :: _ | '{' :: _ => none
      | '(' :: '?' :: rest =>
          match readFlags flags true rest with
          | some (inner, true, rest) => continueGroup inner rest
          | some (inner, false, rest) => readSequence fuel inner rest
          | none => none
      | '(' :: rest => continueGroup flags rest
      | '[' :: rest => do
          let (accepts, rest) ← readClass rest
          continueWith (.oneOf (foldedSet flags accepts)) rest
      | '.' :: rest => continueWith (.oneOf fun c => flags.dotAll || c != '\n') rest
      | '^' :: rest => continueWith (.lineStart flags.everyLine) rest
      | '$' :: rest => continueWith (.lineEnd flags.everyLine) rest
      | '\\' :: 'b' :: rest => continueWith (.wordBoundary true) rest
      | '\\' :: 'B' :: rest => continueWith (.wordBoundary false) rest
      | '\\' :: 'A' :: rest => continueWith (.lineStart false) rest
      | '\\' :: 'z' :: rest => continueWith (.lineEnd false) rest
      | '\\' :: c :: rest =>
          match namedClass? c, escapedChar? c with
          | some accepts, _ => continueWith (.oneOf accepts) rest
          | none, some c => continueWith (.oneOf (foldedSet flags (· == c))) rest
          | none, none => none
      | ['\\'] => none
      | c :: rest => continueWith (.oneOf (foldedSet flags (· == c))) rest

end

def read? (s : String) : Option Pattern :=
  match readAlternatives (2 * s.length + 2) {} s.toList with
  | some (pattern, []) => some pattern
  | _ => none

end Pattern

end MappedSql.Text
