import MappedSql.Proofs.Expr.Lexing
import MappedSql.Proofs.Text.Trimming
import MappedSql.Value.Path

/-!
# Texts of property paths

A path is spelled as a name or a bracketed key, followed by names behind points and by further keys.
The reader takes segments and any points behind them, as long as there is one at most behind a name
and none behind a quoted key (`Path.parse_eq_ok_iff_split`). A text splits into segments and points in
one way, so the reader and the spelling part only where points are missing or stand where they do not
belong (`Path.parse_spelled`).
-/

namespace MappedSql.Path

/-! ## Segments -/

inductive Segment
  | name (text : List Char)
  | key (text : List Char)
  deriving DecidableEq

namespace Segment

def isName : Segment → Bool
  | name _ => true
  | key _ => false

def text : Segment → List Char
  | name own => own
  | key own => '[' :: (own ++ [']'])

def further : Segment → List Char
  | name own => '.' :: own
  | key own => '[' :: (own ++ [']'])

def bare (key : List Char) : List Char :=
  Text.trimBoth Step.isQuote (Text.trim key)

/-- A name is not empty and holds no point, bracket or blank; a key ends at the first closing bracket
and says something. -/
def Legal : Segment → Prop
  | name own => own ≠ [] ∧ ∀ c ∈ own, c ≠ '.' ∧ c ≠ '[' ∧ Text.isBlank c = false
  | key own => ']' ∉ own ∧ bare own ≠ []

instance : (segment : Segment) → Decidable segment.Legal
  | name own =>
      -- a name is decided along its characters, not over all that there are
      decidable_of_iff (own ≠ [] ∧ own.all fun c => c != '.' && c != '[' && !Text.isBlank c)
        (by simp [Legal, and_assoc])
  | key own => inferInstanceAs (Decidable (']' ∉ own ∧ bare own ≠ []))

def step : Segment → Step
  | name own => .field (String.ofList own)
  | key own =>
      match Number.readIndex? (bare own) with
      | some position => .index position
      | none => .field (String.ofList (bare own))

end Segment

/-! ## Spelling -/

def spelled : List Segment → List Char
  | [] => []
  | first :: rest => first.text ++ rest.flatMap Segment.further

/-- A text that spells segments, of which there is at least one. -/
structure IsSpelled (cs : List Char) (segments : List Segment) : Prop where
  some : segments ≠ []
  legal : ∀ segment ∈ segments, segment.Legal
  text : spelled segments = cs

/-! ## Points -/

/-- A segment and the number of points behind it. -/
structure Stretch where
  segment : Segment
  points : Nat
  deriving DecidableEq

def Stretch.text (stretch : Stretch) : List Char :=
  stretch.segment.text ++ List.replicate stretch.points '.'

/-- A text in segments and points. Between two names there is a point. -/
structure IsSplit (cs : List Char) (stretches : List Stretch) : Prop where
  text : stretches.flatMap Stretch.text = cs
  legal : ∀ stretch ∈ stretches, stretch.segment.Legal
  apart : stretches.IsChain fun a b => a.points = 0 → ¬(a.segment.isName ∧ b.segment.isName)

def Stretch.Admitted (stretch : Stretch) : Prop :=
  match stretch.segment with
  | .name _ => stretch.points ≤ 1
  | .key own => stretch.points = 0 ∨ (Segment.key own).step.isIndex = true

instance (stretch : Stretch) : Decidable stretch.Admitted := by
  unfold Stretch.Admitted
  split <;> infer_instance

def pointsBefore : List Segment → Nat
  | .name _ :: _ => 1
  | _ => 0

def joined : List Segment → List Stretch
  | [] => []
  | segment :: rest => ⟨segment, pointsBefore rest⟩ :: joined rest

/-- There is a point before each name but the first, and none elsewhere. -/
def Regular (stretches : List Stretch) : Prop :=
  stretches = joined (stretches.map Stretch.segment)

instance (stretches : List Stretch) : Decidable (Regular stretches) :=
  inferInstanceAs (Decidable (_ = _))

def steps (stretches : List Stretch) : List Step :=
  stretches.map fun stretch => stretch.segment.step

/-! ## Beginnings of segments -/

def inName (c : Char) : Bool :=
  c != '.' && c != '[' && !Text.isBlank c

theorem inName_iff {c : Char} :
    inName c ↔ c ≠ '.' ∧ c ≠ '[' ∧ Text.isBlank c = false := by
  simp [inName, and_assoc]

theorem Segment.legal_name_iff {own : List Char} :
    (name own).Legal ↔ own ≠ [] ∧ ∀ c ∈ own, inName c := by
  simp only [inName_iff]
  rfl

section

variable {segment : Segment} {stretch : Stretch} {stretches : List Stretch} {cs : List Char}

theorem Segment.Legal.exists_cons (legal : segment.Legal) :
    ∃ c rest, segment.text = c :: rest ∧ inName c = segment.isName ∧ c ≠ '.' := by
  cases segment with
  | name own =>
    obtain ⟨some, inside⟩ := legal_name_iff.1 legal
    obtain ⟨c, rest, rfl⟩ := List.exists_cons_of_ne_nil some
    have first := inside c List.mem_cons_self
    exact ⟨c, rest, rfl, first, (inName_iff.1 first).1⟩
  | key own => exact ⟨'[', _, rfl, rfl, by decide⟩

theorem IsSplit.tail (split : IsSplit cs (stretch :: stretches)) :
    IsSplit (stretches.flatMap Stretch.text) stretches where
  text := rfl
  legal := fun other mem => split.legal other (List.mem_cons_of_mem stretch mem)
  apart := split.apart.tail

theorem IsSplit.exists_cons (split : IsSplit cs (stretch :: stretches)) :
    ∃ c rest, cs = c :: rest ∧ inName c = stretch.segment.isName ∧ c ≠ '.' := by
  obtain ⟨c, rest, begins, kind⟩ := (split.legal stretch List.mem_cons_self).exists_cons
  have whole := split.text
  rw [List.flatMap_cons, Stretch.text, begins, List.cons_append, List.cons_append] at whole
  exact ⟨c, _, whole.symm, kind⟩

theorem IsSplit.head_ne_point (split : IsSplit cs stretches) : ∀ c ∈ cs.head?, c ≠ '.' := by
  intro c begins
  cases stretches with
  | nil => simp [← split.text] at begins
  | cons stretch stretches =>
    obtain ⟨d, rest, rfl, -, other⟩ := split.exists_cons
    obtain rfl : d = c := by simpa using begins
    exact other

theorem IsSplit.stops_name {own : List Char} {points : Nat}
    (split : IsSplit cs (⟨.name own, points⟩ :: stretches)) :
    ∀ c ∈ (List.replicate points '.' ++ stretches.flatMap Stretch.text).head?,
      inName c = false := by
  intro c begins
  cases points with
  | succ points =>
    obtain rfl : '.' = c := by simpa [List.replicate_succ] using begins
    rfl
  | zero =>
    cases stretches with
    | nil => simp at begins
    | cons next rest =>
      have key : next.segment.isName = false := by
        simpa [Segment.isName] using (List.isChain_cons_cons.1 split.apart).1 rfl
      obtain ⟨d, tail, begun, kind, -⟩ := split.tail.exists_cons
      obtain rfl : d = c := by simpa [begun] using begins
      exact kind.trans key

end

/-! ## One way to split -/

theorem eq_of_append_run {p : Char → Bool} {a b left right : List Char} (inA : ∀ c ∈ a, p c)
    (inB : ∀ c ∈ b, p c) (stopsLeft : ∀ c ∈ left.head?, p c = false)
    (stopsRight : ∀ c ∈ right.head?, p c = false) (same : a ++ left = b ++ right) :
    a = b ∧ left = right := by
  have runs := congrArg (List.takeWhile p) same
  have rests := congrArg (List.dropWhile p) same
  rw [Expr.takeWhile_append_stop inA stopsLeft, Expr.takeWhile_append_stop inB stopsRight] at runs
  rw [Expr.dropWhile_append_stop inA stopsLeft, Expr.dropWhile_append_stop inB stopsRight] at rests
  exact ⟨runs, rests⟩

theorem eq_of_points {m n : Nat} {left right : List Char} (stopsLeft : ∀ c ∈ left.head?, c ≠ '.')
    (stopsRight : ∀ c ∈ right.head?, c ≠ '.')
    (same : List.replicate m '.' ++ left = List.replicate n '.' ++ right) : m = n ∧ left = right := by
  have split := @eq_of_append_run (· == '.') _ _ left right (by simp) (by simp)
    (by simpa using stopsLeft) (by simpa using stopsRight) same
  exact ⟨by simpa using congrArg List.length split.1, split.2⟩

theorem IsSplit.unique {cs : List Char} {first second : List Stretch} (left : IsSplit cs first)
    (right : IsSplit cs second) : first = second := by
  induction first generalizing cs second with
  | nil =>
    cases second with
    | nil => rfl
    | cons stretch rest =>
      obtain ⟨c, tail, begins, -⟩ := right.exists_cons
      rw [← left.text] at begins
      cases begins
  | cons stretch rest ih =>
    cases second with
    | nil =>
      obtain ⟨c, tail, begins, -⟩ := left.exists_cons
      rw [← right.text] at begins
      cases begins
    | cons other others =>
      obtain ⟨segment, points⟩ := stretch
      obtain ⟨segment', points'⟩ := other
      have same := left.text.trans right.text.symm
      simp only [List.flatMap_cons, Stretch.text, List.append_assoc] at same
      have legal := left.legal _ List.mem_cons_self
      have legal' := right.legal _ List.mem_cons_self
      -- the same segment stands first, and behind it the same points and the same text
      obtain ⟨rfl, behind⟩ : segment = segment' ∧
          List.replicate points '.' ++ rest.flatMap Stretch.text =
            List.replicate points' '.' ++ others.flatMap Stretch.text := by
        obtain ⟨c, tail, begins, kind, -⟩ := left.exists_cons
        obtain ⟨c', tail', begins', kind', -⟩ := right.exists_cons
        obtain ⟨rfl, -⟩ := List.cons.inj (begins.symm.trans begins')
        have alike : segment.isName = segment'.isName := kind.symm.trans kind'
        cases segment with
        | name own =>
          cases segment' with
          | name own' =>
            obtain ⟨rfl, behind⟩ := eq_of_append_run (Segment.legal_name_iff.1 legal).2
              (Segment.legal_name_iff.1 legal').2 left.stops_name right.stops_name same
            exact ⟨rfl, behind⟩
          | key own' => cases alike
        | key own =>
          cases segment' with
          | name own' => cases alike
          | key own' =>
            simp only [Segment.text, List.cons_append, List.append_assoc, List.nil_append,
              List.cons.injEq, true_and] at same
            obtain ⟨rfl, behind⟩ := @eq_of_append_run (· != ']') _ _ _ _
              (fun c mem => bne_iff_ne.2 (ne_of_mem_of_not_mem mem legal.1))
              (fun c mem => bne_iff_ne.2 (ne_of_mem_of_not_mem mem legal'.1)) (by simp) (by simp) same
            exact ⟨rfl, (List.cons.inj behind).2⟩
      obtain ⟨rfl, texts⟩ := eq_of_points left.tail.head_ne_point right.tail.head_ne_point behind
      rw [ih left.tail (texts ▸ right.tail)]

theorem IsSplit.nil : IsSplit [] [] :=
  ⟨rfl, by simp, .nil⟩

theorem IsSplit.cons {cs : List Char} {stretches : List Stretch} {segment : Segment} (points : Nat)
    (legal : segment.Legal)
    (apart : ∀ next ∈ stretches.head?, points = 0 → ¬(segment.isName ∧ next.segment.isName))
    (split : IsSplit cs stretches) :
    IsSplit (segment.text ++ (List.replicate points '.' ++ cs)) (⟨segment, points⟩ :: stretches) where
  text := by rw [List.flatMap_cons, split.text, Stretch.text, List.append_assoc]
  legal := List.forall_mem_cons.2 ⟨legal, split.legal⟩
  apart := List.isChain_cons.2 ⟨apart, split.apart⟩

/-! ## Reading -/

theorem pendingStep_reverse {own : List Char} (some : own ≠ []) :
    pendingStep own.reverse = [(Segment.name own).step] := by
  simp [pendingStep, some, Segment.step]

theorem readSteps?_inName {name : List Char} (inside : ∀ c ∈ name, inName c) (afterIndex : Bool)
    (pending rest : List Char) : readSteps? afterIndex pending (name ++ rest) =
      readSteps? afterIndex (name.reverse ++ pending) rest := by
  induction name generalizing pending with
  | nil => rfl
  | cons c name ih =>
    obtain ⟨first, later⟩ := List.forall_mem_cons.1 inside
    obtain ⟨noPoint, noBracket, visible⟩ := inName_iff.1 first
    rw [List.cons_append, readSteps?, if_neg noPoint, if_neg noBracket, visible,
      if_neg Bool.false_ne_true, ih later, List.reverse_cons, List.append_assoc,
      List.singleton_append]

theorem readSteps?_points (points : Nat) (rest : List Char) :
    readSteps? true [] (List.replicate points '.' ++ rest) = readSteps? true [] rest := by
  induction points with
  | zero => rfl
  | succ points ih => simpa [List.replicate_succ, readSteps?] using ih

theorem readSteps?_open (afterIndex : Bool) (pending rest : List Char) :
    readSteps? afterIndex pending ('[' :: rest) =
      (readSteps? afterIndex [] ('[' :: rest)).map (pendingStep pending ++ ·) := by
  simp [readSteps?, pendingStep]

theorem ofKey?_eq (own : List Char) : Step.ofKey? own =
    if Segment.bare own = [] then none else some (Segment.key own).step := by
  have unfolded : Step.ofKey? own =
      match Number.readIndex? (Segment.bare own) with
      | some position => some (.index position)
      | none => if (Segment.bare own).isEmpty then none
          else some (.field (String.ofList (Segment.bare own))) := rfl
  rw [unfolded, Segment.step]
  by_cases empty : Segment.bare own = []
  · rw [empty]
    rfl
  · cases Number.readIndex? (Segment.bare own) <;> simp [empty]

theorem readKey?_closed {own : List Char} (inside : ']' ∉ own) (key rest : List Char) :
    readKey? key (own ++ ']' :: rest) = (Step.ofKey? (key.reverse ++ own)).bind fun step =>
      (readSteps? step.isIndex [] rest).map (step :: ·) := by
  induction own generalizing key with
  | nil =>
    rw [List.nil_append, readKey?, if_pos rfl, List.append_nil]
    cases Step.ofKey? key.reverse <;> rfl
  | cons c own ih =>
    obtain ⟨first, later⟩ := List.ne_and_not_mem_of_not_mem_cons inside
    rw [List.cons_append, readKey?, if_neg first.symm, ih later, List.reverse_cons,
      List.append_assoc, List.singleton_append]

theorem readKey?_unclosed {cs : List Char} (unclosed : ']' ∉ cs) (key : List Char) :
    readKey? key cs = none := by
  induction cs generalizing key with
  | nil => rfl
  | cons c cs ih =>
    obtain ⟨first, later⟩ := List.ne_and_not_mem_of_not_mem_cons unclosed
    rw [readKey?, if_neg first.symm, ih later]

theorem readSteps?_key {own : List Char} (legal : (Segment.key own).Legal) (afterIndex : Bool)
    (rest : List Char) : readSteps? afterIndex [] ((Segment.key own).text ++ rest) =
      (readSteps? (Segment.key own).step.isIndex [] rest).map ((Segment.key own).step :: ·) := by
  have closed := readKey?_closed legal.1 [] rest
  rw [List.reverse_nil, List.nil_append, ofKey?_eq, if_neg legal.2, Option.bind_some] at closed
  rw [Segment.text, List.cons_append, List.append_assoc, List.singleton_append, ← closed]
  simp [readSteps?, pendingStep]

theorem readSteps?_of_split {cs : List Char} {stretches : List Stretch} (split : IsSplit cs stretches)
    (admitted : ∀ stretch ∈ stretches, stretch.Admitted) (afterIndex : Bool) :
    readSteps? afterIndex [] cs = some (steps stretches) := by
  induction stretches generalizing cs afterIndex with
  | nil =>
    rw [← split.text]
    rfl
  | cons stretch rest ih =>
    obtain ⟨segment, points⟩ := stretch
    obtain ⟨taken, later⟩ := List.forall_mem_cons.1 admitted
    have legal := split.legal _ List.mem_cons_self
    have behind := ih split.tail later
    rw [← split.text, List.flatMap_cons, Stretch.text, List.append_assoc]
    cases segment with
    | name own =>
      obtain ⟨some, inside⟩ := Segment.legal_name_iff.1 legal
      rw [Segment.text, readSteps?_inName inside, List.append_nil]
      obtain rfl | rfl : points = 0 ∨ points = 1 := Nat.le_one_iff_eq_zero_or_eq_one.1 taken
      · -- with no point behind the name, the text ends or a bracket opens
        have stops := split.stops_name
        cases others : rest.flatMap Stretch.text with
        | nil =>
          obtain rfl : rest = [] := by
            cases rest with
            | nil => rfl
            | cons next rest =>
              obtain ⟨c, tail, begins, -⟩ := split.tail.exists_cons
              rw [others] at begins
              cases begins
          simp [readSteps?, pendingStep, some, steps, Segment.step]
        | cons c tail =>
          rw [others] at behind stops
          have bracket : c = '[' := by
            have outside := stops c (by simp)
            have point := split.tail.head_ne_point c (by simp [others])
            by_contra bracket
            have blank : Text.isBlank c = true := by simpa [inName, point, bracket] using outside
            have unread := behind true
            simp [readSteps?, point, bracket, blank] at unread
          subst bracket
          rw [List.replicate_zero, List.nil_append, readSteps?_open, behind, pendingStep_reverse some]
          rfl
      · have pending : own.reverse.isEmpty = false := by simpa using some
        rw [List.replicate_one, List.singleton_append, readSteps?, if_pos rfl, pending,
          Bool.not_false, if_pos rfl, behind, pendingStep_reverse some]
        rfl
    | key own =>
      rw [readSteps?_key legal]
      rcases taken with rfl | index
      · rw [List.replicate_zero, List.nil_append, behind]
        rfl
      · rw [index, readSteps?_points, behind]
        rfl

theorem exists_key_of_readSteps? {afterIndex : Bool} {cs : List Char} {found : List Step}
    (read : readSteps? afterIndex [] ('[' :: cs) = some found) :
    ∃ own rest, '[' :: cs = (Segment.key own).text ++ rest ∧ (Segment.key own).Legal := by
  have opened : readKey? [] cs = some found := by
    simpa [readSteps?, pendingStep] using read
  by_cases closed : ']' ∈ cs
  · obtain ⟨own, rest, rfl, inside⟩ := List.eq_append_cons_of_mem closed
    refine ⟨own, rest, by simp [Segment.text], inside, fun empty => ?_⟩
    rw [readKey?_closed inside, List.reverse_nil, List.nil_append, ofKey?_eq, if_pos empty] at opened
    cases opened
  · rw [readKey?_unclosed closed] at opened
    cases opened

theorem exists_name_of_readSteps? {afterIndex : Bool} {c : Char} {cs : List Char} {found : List Step}
    (point : c ≠ '.') (bracket : c ≠ '[')
    (read : readSteps? afterIndex [] (c :: cs) = some found) :
    ∃ own rest, c :: cs = own ++ rest ∧ (Segment.name own).Legal ∧
      (∀ d ∈ rest.head?, inName d = false) ∧
      readSteps? afterIndex own.reverse rest = some found := by
  have visible : Text.isBlank c = false := by
    by_contra blank
    simp [readSteps?, point, bracket, blank] at read
  have first : inName c := inName_iff.2 ⟨point, bracket, visible⟩
  have inside : ∀ d ∈ (c :: cs).takeWhile inName, inName d := fun d mem => List.mem_takeWhile_imp mem
  have whole : (c :: cs).takeWhile inName ++ (c :: cs).dropWhile inName = c :: cs :=
    List.takeWhile_append_dropWhile
  refine ⟨_, _, whole.symm, Segment.legal_name_iff.2 ⟨by simp [first], inside⟩, fun d begins => ?_, ?_⟩
  · by_contra other
    have kept := List.head?_dropWhile_not inName (c :: cs)
    rw [Option.mem_def.1 begins] at kept
    simp [other] at kept
  · rw [← whole, readSteps?_inName inside, List.append_nil] at read
    exact read

theorem exists_split_of_readSteps? {afterIndex : Bool} {cs : List Char} {found : List Step}
    (read : readSteps? afterIndex [] cs = some found) :
    ∃ points stretches rest, cs = List.replicate points '.' ++ rest ∧
      (afterIndex = false → points = 0) ∧ IsSplit rest stretches ∧
      (∀ stretch ∈ stretches, stretch.Admitted) ∧ found = steps stretches := by
  match cs with
  | [] =>
    obtain rfl : [] = found := by simpa [readSteps?, pendingStep] using read
    exact ⟨0, [], [], rfl, fun _ => rfl, .nil, by simp, rfl⟩
  | c :: cs =>
    -- at a seam a point is passed over behind an index only, a bracket opens a key, and a name begins
    -- at anything else
    by_cases point : c = '.'
    · subst point
      cases afterIndex with
      | false => simp [readSteps?] at read
      | true =>
        have behind : readSteps? true [] cs = some found := by simpa [readSteps?] using read
        obtain ⟨points, stretches, rest, rfl, -, split, admitted, same⟩ :=
          exists_split_of_readSteps? behind
        exact ⟨points + 1, stretches, rest, rfl, by simp, split, admitted, same⟩
    by_cases bracket : c = '['
    · subst bracket
      obtain ⟨own, behind, whole, legal⟩ := exists_key_of_readSteps? read
      have shorter : behind.length < cs.length + 1 := by
        have lengths := congrArg List.length whole
        simp only [Segment.text, List.length_cons, List.length_append] at lengths
        omega
      rw [whole, readSteps?_key legal, Option.map_eq_some_iff] at read
      obtain ⟨later, read, rfl⟩ := read
      obtain ⟨points, stretches, rest, rfl, none, split, admitted, rfl⟩ :=
        exists_split_of_readSteps? read
      refine ⟨0, ⟨.key own, points⟩ :: stretches, _, whole, fun _ => rfl,
        .cons points legal (by simp [Segment.isName]) split, List.forall_mem_cons.2 ⟨?_, admitted⟩, rfl⟩
      show points = 0 ∨ (Segment.key own).step.isIndex = true
      cases index : (Segment.key own).step.isIndex with
      | true => exact .inr rfl
      | false => exact .inl (none index)
    · obtain ⟨own, behind, whole, legal, stops, next⟩ := exists_name_of_readSteps? point bracket read
      have some := legal.1
      have pending := pendingStep_reverse some
      -- the name ends with the text, at a point or at a bracket; a blank behind it is refused
      cases behind with
      | nil =>
        obtain rfl : [(Segment.name own).step] = found := by simpa [readSteps?, pending] using next
        refine ⟨0, [⟨.name own, 0⟩], _, rfl, fun _ => rfl, ?_, by simp [Stretch.Admitted], rfl⟩
        rw [whole]
        exact .cons 0 legal (by simp) .nil
      | cons d tail =>
        have shorter : tail.length + 1 < cs.length + 1 := by
          have lengths := congrArg List.length whole
          have filled := List.length_pos_iff.2 some
          simp only [List.length_cons, List.length_append] at lengths
          omega
        by_cases dotted : d = '.'
        · subst dotted
          have held : own.reverse.isEmpty = false := by simpa using some
          rw [readSteps?, if_pos rfl, held, Bool.not_false, if_pos rfl, pending,
            Option.map_eq_some_iff] at next
          obtain ⟨later, next, rfl⟩ := next
          obtain ⟨points, stretches, rest, rfl, none, split, admitted, rfl⟩ :=
            exists_split_of_readSteps? next
          obtain rfl := none rfl
          refine ⟨0, ⟨.name own, 1⟩ :: stretches, _, rfl, fun _ => rfl, ?_,
            List.forall_mem_cons.2 ⟨Nat.le_refl 1, admitted⟩, rfl⟩
          rw [whole]
          exact .cons 1 legal (by simp) split
        by_cases opened : d = '['
        · subst opened
          rw [readSteps?_open, pending, Option.map_eq_some_iff] at next
          obtain ⟨later, next, rfl⟩ := next
          obtain ⟨points, stretches, rest, split', none, split, admitted, rfl⟩ :=
            exists_split_of_readSteps? next
          obtain ⟨rfl, rfl⟩ : points = 0 ∧ rest = '[' :: tail := by
            cases points with
            | zero => exact ⟨rfl, split'.symm⟩
            | succ points => simp [List.replicate_succ] at split'
          refine ⟨0, ⟨.name own, 0⟩ :: stretches, _, rfl, fun _ => rfl, ?_,
            List.forall_mem_cons.2 ⟨Nat.zero_le 1, admitted⟩, rfl⟩
          rw [whole]
          refine .cons 0 legal (fun following begins _ => ?_) split
          obtain ⟨later, rfl⟩ := List.head?_eq_some_iff.1 begins
          obtain ⟨e, _, starts, kind, -⟩ := split.exists_cons
          obtain rfl := (List.cons.inj starts).1
          simp [← kind, inName]
        · have blank : Text.isBlank d = true := by simpa [inName, dotted, opened] using stops d rfl
          simp [readSteps?, dotted, opened, blank] at next
termination_by cs.length

/-! ## Reading a spelled path -/

section

variable {cs : List Char} {segments : List Segment} {path : String} {found : List Step}

theorem points_append_spelled (segments : List Segment) :
    List.replicate (pointsBefore segments) '.' ++ spelled segments =
      segments.flatMap Segment.further := by
  cases segments with
  | nil => rfl
  | cons first rest => cases first <;> rfl

theorem flatMap_joined (segments : List Segment) :
    (joined segments).flatMap Stretch.text = spelled segments := by
  induction segments with
  | nil => rfl
  | cons segment rest ih =>
    rw [joined, List.flatMap_cons, ih, Stretch.text, List.append_assoc, points_append_spelled,
      spelled]

theorem map_segment_joined (segments : List Segment) :
    (joined segments).map Stretch.segment = segments := by
  induction segments with
  | nil => rfl
  | cons segment rest ih => rw [joined, List.map_cons, ih]

theorem steps_joined (segments : List Segment) :
    steps (joined segments) = segments.map Segment.step := by
  conv_rhs => rw [← map_segment_joined segments, List.map_map]
  rfl

theorem isSpelled_iff : IsSpelled cs segments ↔ segments ≠ [] ∧ IsSplit cs (joined segments) := by
  have apart : (joined segments).IsChain
      fun a b => a.points = 0 → ¬(a.segment.isName ∧ b.segment.isName) := by
    induction segments with
    | nil => exact .nil
    | cons segment rest ih =>
      refine List.isChain_cons.2 ⟨fun next begins none => ?_, ih⟩
      cases rest with
      | nil => cases begins
      | cons following rest =>
        obtain rfl := Option.some.inj begins
        cases following with
        | name own => cases none
        | key own => simp [Segment.isName]
  constructor
  · rintro ⟨some, legal, text⟩
    refine ⟨some, (flatMap_joined segments).trans text, fun stretch mem => legal _ ?_, apart⟩
    rw [← map_segment_joined segments]
    exact List.mem_map_of_mem mem
  · rintro ⟨some, split⟩
    refine ⟨some, fun segment mem => ?_, (flatMap_joined segments).symm.trans split.text⟩
    rw [← map_segment_joined segments] at mem
    obtain ⟨stretch, held, rfl⟩ := List.mem_map.1 mem
    exact split.legal stretch held

def Followed (segments : List Segment) : Prop :=
  segments.IsChain fun a b => b.isName → a.isName ∨ a.step.isIndex

instance (segments : List Segment) : Decidable (Followed segments) :=
  inferInstanceAs (Decidable (List.IsChain _ _))

theorem admitted_joined_iff (segments : List Segment) :
    (∀ stretch ∈ joined segments, stretch.Admitted) ↔ Followed segments := by
  induction segments with
  | nil => simp [joined, Followed]
  | cons segment rest ih =>
    have followed : Followed (segment :: rest) ↔
        (∀ next ∈ rest.head?, next.isName → segment.isName ∨ segment.step.isIndex) ∧ Followed rest :=
      List.isChain_cons
    rw [joined, List.forall_mem_cons, ih, followed]
    refine and_congr_left fun _ => ?_
    cases segment with
    | name own =>
      have few : pointsBefore rest ≤ 1 := by
        unfold pointsBefore
        split <;> decide
      simp [Stretch.Admitted, few, Segment.isName]
    | key own =>
      cases rest with
      | nil => simp [Stretch.Admitted, pointsBefore]
      | cons next rest => cases next <;> simp [Stretch.Admitted, pointsBefore, Segment.isName]

theorem parse_eq_ok_iff_split : parse path = .ok found ↔
    ∃ stretches, stretches ≠ [] ∧ IsSplit (Text.trim path.toList) stretches ∧
      (∀ stretch ∈ stretches, stretch.Admitted) ∧ found = steps stretches := by
  rw [parse]
  constructor
  · intro parsed
    split at parsed
    next step rest read =>
      obtain rfl := Except.ok.inj parsed
      obtain ⟨points, stretches, text, whole, none, split, admitted, same⟩ :=
        exists_split_of_readSteps? read
      obtain rfl := none rfl
      rw [List.replicate_zero, List.nil_append] at whole
      refine ⟨stretches, ?_, whole ▸ split, admitted, same⟩
      rintro rfl
      cases same
    next => cases parsed
  · rintro ⟨stretches, some, split, admitted, rfl⟩
    rw [readSteps?_of_split split admitted]
    cases stretches with
    | nil => contradiction
    | cons stretch rest => rfl

theorem parse_eq_malformed (unread : ∀ found, parse path ≠ .ok found) :
    parse path = .error (malformed path) := by
  unfold parse at unread ⊢
  split
  next read => exact absurd (by rw [read]) (unread _)
  next => rfl

/-- A spelled path is read as its segments, unless a name stands behind a quoted key. Any other text is
refused, unless its points stand where they do not belong and are admitted there. -/
theorem parse_spelled (path : String) :
    (∀ segments, IsSpelled (Text.trim path.toList) segments → parse path =
      if Followed segments then .ok (segments.map Segment.step) else .error (malformed path)) ∧
    ((∀ segments, ¬IsSpelled (Text.trim path.toList) segments) →
      (∀ found, parse path = .ok found ↔
        ∃ stretches, stretches ≠ [] ∧ IsSplit (Text.trim path.toList) stretches ∧
          (∀ stretch ∈ stretches, stretch.Admitted) ∧ ¬Regular stretches ∧
          found = steps stretches) ∧
      ((∀ found, parse path ≠ .ok found) → parse path = .error (malformed path))) := by
  constructor
  · intro segments isSpelled
    obtain ⟨some, split⟩ := isSpelled_iff.1 isSpelled
    split
    next followed =>
      refine parse_eq_ok_iff_split.2 ⟨joined segments, fun none => some ?_, split,
        (admitted_joined_iff segments).2 followed, (steps_joined segments).symm⟩
      rw [← map_segment_joined segments, none, List.map_nil]
    next unfollowed =>
      refine parse_eq_malformed fun found parsed => unfollowed ?_
      obtain ⟨stretches, -, other, admitted, -⟩ := parse_eq_ok_iff_split.1 parsed
      rw [← admitted_joined_iff, ← other.unique split]
      exact admitted
  · intro unspelled
    refine ⟨fun found => parse_eq_ok_iff_split.trans (exists_congr fun stretches => ?_),
      parse_eq_malformed⟩
    refine and_congr_right fun some => and_congr_right fun split => and_congr_right fun _ =>
      (and_iff_right fun regular => ?_).symm
    rw [regular] at split
    exact unspelled _ (isSpelled_iff.2 ⟨by simpa using some, split⟩)

end

theorem parse_spelled_roles :
    IsSpelled "user.roles[0]".toList [.name "user".toList, .name "roles".toList, .key ['0']] ∧
    parse "user.roles[0]" = .ok [.field "user", .field "roles", .index 0] := by
  have isSpelled : IsSpelled "user.roles[0]".toList
      [.name "user".toList, .name "roles".toList, .key ['0']] :=
    ⟨by decide, by decide +kernel, by decide⟩
  have trimmed : Text.trim "user.roles[0]".toList = "user.roles[0]".toList := by decide +kernel
  exact ⟨isSpelled, ((parse_spelled "user.roles[0]").1 _ (trimmed.symm ▸ isSpelled)).trans (by rfl)⟩

/-- A name behind a quoted key is refused, and a point that leads to no name is passed over. -/
theorem parse_ne_spelled :
    (IsSpelled "['user'].name".toList [.key "'user'".toList, .name "name".toList] ∧
      parse "['user'].name" = .error (malformed "['user'].name")) ∧
    ((∀ segments, ¬IsSpelled "user.".toList segments) ∧ parse "user." = .ok [.field "user"]) := by
  refine ⟨⟨⟨by decide, by decide +kernel, by decide⟩, by rfl⟩, fun segments isSpelled => ?_, by rfl⟩
  have split : IsSplit "user.".toList [⟨.name "user".toList, 1⟩] :=
    ⟨by decide, by decide +kernel, by simp⟩
  have same := (isSpelled_iff.1 isSpelled).2.unique split
  have regular := congrArg joined ((map_segment_joined segments).symm.trans
    (congrArg (List.map Stretch.segment) same))
  rw [same] at regular
  exact absurd regular (by decide)

end MappedSql.Path
