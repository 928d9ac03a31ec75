import MappedSql.Proofs.Expr.Lexing
import MappedSql.Proofs.Placeholder.Respacing

/-!
# Printed placeholders are parsed back

A placeholder can be printed with blanks around its property, its signs and its attributes, and with
empty options among them. Parsing reads the placeholder off every such content, and reads nothing
off any other (`Placeholder.parse_eq_ok_iff`).
-/

namespace MappedSql

namespace Text

def Pads (text padded : List Char) : Prop :=
  ∃ before after, (∀ c ∈ before, isBlank c) ∧ (∀ c ∈ after, isBlank c) ∧
    padded = before ++ text ++ after

structure Prints (signs : List Char) (text : String) (printed : List Char) : Prop where
  trimmed : trim text.toList = text.toList
  lacks : ∀ sign ∈ signs, sign ∉ text.toList
  pads : Pads text.toList printed

theorem Pads.trim {text padded : List Char} (pads : Pads text padded) :
    Text.trim padded = Text.trim text := by
  obtain ⟨before, after, left, right, rfl⟩ := pads
  rw [trim_append_blank right, trim_blank_append left]

theorem pads_trim (padded : List Char) : Pads (trim padded) padded := by
  obtain ⟨before, after, split, left, right⟩ := exists_trim padded
  exact ⟨before, after, left, right, split⟩

theorem Pads.mem_of_visible {text padded : List Char} (pads : Pads text padded) {c : Char}
    (visible : isBlank c = false) : c ∈ padded ↔ c ∈ text := by
  obtain ⟨before, after, left, right, rfl⟩ := pads
  have apart : c ∉ before ∧ c ∉ after :=
    ⟨fun mem => by simp [left c mem] at visible, fun mem => by simp [right c mem] at visible⟩
  simp [apart]

theorem prints_iff {signs : List Char} (visible : signs.all (!isBlank ·) = true)
    {text : String} {printed : List Char} :
    Prints signs text printed ↔
      trim printed = text.toList ∧ ∀ sign ∈ signs, sign ∉ printed := by
  have visible : ∀ sign ∈ signs, isBlank sign = false := by simpa using visible
  constructor
  · intro prints
    exact ⟨prints.pads.trim.trans prints.trimmed, fun sign mem within =>
      prints.lacks sign mem ((prints.pads.mem_of_visible (visible sign mem)).1 within)⟩
  · rintro ⟨trimmed, lacks⟩
    have pads := pads_trim printed
    rw [trimmed] at pads
    exact ⟨by rw [← trimmed, trim_trim], fun sign mem within =>
      lacks sign mem ((pads.mem_of_visible (visible sign mem)).2 within), pads⟩

theorem trimStart_append_trimmed {before text : List Char} (blank : ∀ c ∈ before, isBlank c)
    (trimmed : trim text = text) (nonempty : text ≠ []) (rest : List Char) :
    trimStart (before ++ (text ++ rest)) = text ++ rest := by
  obtain ⟨c, tail, rfl⟩ := List.exists_cons_of_ne_nil nonempty
  have kept : trimStart (c :: tail) = c :: tail := by rw [← trimmed, trimStart_trim]
  rw [trimStart_append blank, List.cons_append,
    trimStart_cons (Placeholder.of_dropWhile_eq_cons kept)]

theorem not_mem_of_mem_splitAtChar {separator : Char} {cs piece : List Char}
    (mem : piece ∈ splitAtChar separator cs) : separator ∉ piece := by
  induction cs generalizing piece with
  | nil => simp_all [splitAtChar]
  | cons c rest ih =>
      obtain ⟨first, others, split⟩ :=
        List.exists_cons_of_ne_nil (splitAtChar_ne_nil separator rest)
      rw [split] at ih
      by_cases same : c = separator
      · simp only [splitAtChar, same, beq_self_eq_true, if_true, split, List.mem_cons] at mem
        rcases mem with rfl | mem
        · exact List.not_mem_nil
        · exact ih (List.mem_cons.2 mem)
      · simp only [splitAtChar, split, beq_iff_eq, same, if_false, List.mem_cons] at mem
        rcases mem with rfl | mem
        · have apart := ih List.mem_cons_self
          simp [Ne.symm same, apart]
        · exact ih (List.mem_cons_of_mem _ mem)

theorem flatMap_splitAtChar (separator : Char) (cs : List Char) :
    (splitAtChar separator cs).flatMap (separator :: ·) = separator :: cs := by
  induction cs with
  | nil => rfl
  | cons c rest ih =>
      obtain ⟨first, others, split⟩ :=
        List.exists_cons_of_ne_nil (splitAtChar_ne_nil separator rest)
      rw [split, List.flatMap_cons, List.cons_append, List.cons.injEq] at ih
      by_cases same : c = separator
      · simp [splitAtChar, same, split, ih.2]
      · simp [splitAtChar, split, same, ih.2]

end Text

open Text (Pads Prints prints_iff)

namespace Placeholder

inductive Balanced : List Char → Prop
  | nil : Balanced []
  | plain {c : Char} {rest : List Char} (apart : c ≠ '(' ∧ c ≠ ')') (others : Balanced rest) :
      Balanced (c :: rest)
  | group {inner rest : List Char} (within : Balanced inner) (others : Balanced rest) :
      Balanced ('(' :: (inner ++ ')' :: rest))

theorem Balanced.append {front back : List Char} (balanced : Balanced front)
    (others : Balanced back) : Balanced (front ++ back) := by
  induction balanced with
  | nil => exact others
  | plain apart _ ih => exact .plain apart ih
  | group within _ _ ih =>
      rw [List.cons_append, List.append_assoc, List.cons_append]
      exact .group within ih

theorem readBalanced_plain {c : Char} (apart : c ≠ '(' ∧ c ≠ ')') (depth : Nat)
    (rest : List Char) : readBalanced depth (c :: rest) =
      (readBalanced depth rest).map fun (text, rest) => (c :: text, rest) :=
  readBalanced.eq_5 depth c rest apart.1 apart.2

theorem Balanced.readBalanced_append {inner : List Char} (balanced : Balanced inner) (depth : Nat)
    (rest : List Char) : readBalanced depth (inner ++ rest) =
      (readBalanced depth rest).map fun (text, rest) => (inner ++ text, rest) := by
  induction balanced generalizing depth rest with
  | nil => simp
  | plain apart _ ih => simp [readBalanced_plain apart, ih, Function.comp_def]
  | group _ _ ihWithin ihOthers =>
      simp [readBalanced, ihWithin, ihOthers, Function.comp_def]

def Closes : Nat → List Char → Prop
  | 0, text => Balanced text
  | depth + 1, text =>
      ∃ inner rest, Balanced inner ∧ Closes depth rest ∧ text = inner ++ ')' :: rest

theorem Closes.prepend {front text : List Char} {depth : Nat} (closes : Closes depth text)
    (balanced : Balanced front) : Closes depth (front ++ text) := by
  cases depth with
  | zero => exact balanced.append closes
  | succ depth =>
      obtain ⟨inner, rest, within, closes, rfl⟩ := closes
      exact ⟨front ++ inner, rest, balanced.append within, closes, (List.append_assoc ..).symm⟩

theorem closes_of_readBalanced {depth : Nat} {cs text rest : List Char}
    (read : readBalanced depth cs = some (text, rest)) :
    cs = text ++ ')' :: rest ∧ Closes depth text := by
  induction cs generalizing depth text with
  | nil => cases read
  | cons c cs ih =>
      by_cases opens : c = '('
      · subst opens
        rw [readBalanced, Option.map_eq_some_iff] at read
        obtain ⟨⟨text, _⟩, read, found⟩ := read
        cases found
        obtain ⟨rfl, inner, others, within, closes, rfl⟩ := ih read
        refine ⟨rfl, ?_⟩
        have group := closes.prepend (.group within .nil)
        rwa [List.cons_append, List.append_assoc, List.singleton_append] at group
      · by_cases shuts : c = ')'
        · subst shuts
          cases depth with
          | zero => cases read; exact ⟨rfl, .nil⟩
          | succ depth =>
              rw [readBalanced, Option.map_eq_some_iff] at read
              obtain ⟨⟨text, _⟩, read, found⟩ := read
              cases found
              obtain ⟨rfl, closes⟩ := ih read
              exact ⟨rfl, [], text, .nil, closes, rfl⟩
        · rw [readBalanced_plain ⟨opens, shuts⟩, Option.map_eq_some_iff] at read
          obtain ⟨⟨text, _⟩, read, found⟩ := read
          cases found
          obtain ⟨rfl, closes⟩ := ih read
          exact ⟨rfl, closes.prepend (.plain ⟨opens, shuts⟩ .nil)⟩

theorem readBalanced_zero {cs inner rest : List Char} :
    readBalanced 0 cs = some (inner, rest) ↔ cs = inner ++ ')' :: rest ∧ Balanced inner := by
  constructor
  · exact closes_of_readBalanced
  · rintro ⟨rfl, balanced⟩
    rw [balanced.readBalanced_append]
    simp [readBalanced]

inductive PrintsListed : List (String × String) → List Char → Prop
  | nil : PrintsListed [] []
  | empty {attributes : List (String × String)} {gap rest : List Char}
      (blank : ∀ c ∈ gap, Text.isBlank c) (others : PrintsListed attributes rest) :
      PrintsListed attributes (',' :: gap ++ rest)
  | pair {attributes : List (String × String)} {name value : String}
      {left right rest : List Char} (named : Prints ['=', ','] name left)
      (valued : Prints [','] value right) (others : PrintsListed attributes rest) :
      PrintsListed ((name, value) :: attributes) (',' :: (left ++ '=' :: right) ++ rest)

inductive PrintsType : Option String → List Char → Prop
  | none : PrintsType none []
  | some {name : String} {printed : List Char} (nonempty : name ≠ "")
      (named : Prints [','] name printed) : PrintsType (some name) (':' :: printed)

theorem printsName_iff {name : String} {printed : List Char} : Prints ['=', ','] name printed ↔
    Text.trim printed = name.toList ∧ '=' ∉ printed ∧ ',' ∉ printed := by
  rw [prints_iff (by decide)]
  simp

theorem printsValue_iff {value : String} {printed : List Char} : Prints [','] value printed ↔
    Text.trim printed = value.toList ∧ ',' ∉ printed := by
  rw [prints_iff (by decide)]
  simp

section

variable {sign : Char} {front rest : List Char} (apart : sign ∉ front)
  (starts : ∀ c ∈ rest.head?, c = sign)
include apart starts

theorem takeWhile_ne : (front ++ rest).takeWhile (· != sign) = front :=
  Expr.takeWhile_append_stop (fun c mem => bne_iff_ne.2 fun same => apart (same ▸ mem))
    fun c mem => by simp [starts c mem]

theorem dropWhile_ne : (front ++ rest).dropWhile (· != sign) = rest :=
  Expr.dropWhile_append_stop (fun c mem => bne_iff_ne.2 fun same => apart (same ▸ mem))
    fun c mem => by simp [starts c mem]

end

theorem readOption?_append {left : List Char} (apart : '=' ∉ left) (right : List Char) :
    readOption? (left ++ '=' :: right) =
      some (String.ofList (Text.trim left), String.ofList (Text.trim right)) := by
  have starts : ∀ c ∈ ('=' :: right).head?, c = '=' := by simp
  rw [readOption?, if_pos (by simp)]
  dsimp only
  rw [takeWhile_ne apart starts, dropWhile_ne apart starts, List.drop_one, List.tail_cons]

theorem exists_of_readOption? {option : List Char} {pair : String × String}
    (read : readOption? option = some pair) : ∃ left right, option = left ++ '=' :: right ∧
      '=' ∉ left ∧ Text.trim left = pair.1.toList ∧ Text.trim right = pair.2.toList := by
  by_cases equals : '=' ∈ option
  · obtain ⟨left, right, rfl, apart⟩ := List.eq_append_cons_of_mem equals
    rw [readOption?_append apart] at read
    cases read
    exact ⟨left, right, rfl, apart, by simp, by simp⟩
  · rw [readOption?, if_neg (by simpa using equals)] at read
    cases read

def optionsOf : List Char → List (List Char)
  | ',' :: options => Text.splitAtChar ',' options
  | _ => []

theorem PrintsListed.starts {attributes : List (String × String)} {printed : List Char}
    (listed : PrintsListed attributes printed) : ∀ c ∈ printed.head?, c = ',' := by
  cases listed <;> simp

theorem optionsOf_cons {option rest : List Char} (apart : ',' ∉ option)
    (starts : ∀ c ∈ rest.head?, c = ',') :
    optionsOf (',' :: option ++ rest) = option :: optionsOf rest := by
  rw [List.cons_append, optionsOf]
  cases rest with
  | nil => rw [List.append_nil, Text.splitAtChar_of_not_mem apart]; rfl
  | cons c rest =>
      obtain rfl := starts c rfl
      rw [Text.splitAtChar_append apart]
      rfl

theorem PrintsListed.readOptions {attributes : List (String × String)} {printed : List Char}
    (listed : PrintsListed attributes printed) (content : String) (position : Nat) :
    readOptions content position (optionsOf printed) = .ok attributes := by
  induction listed with
  | nil => rfl
  | empty blank others ih =>
      have apart : ',' ∉ _ := fun mem => absurd (blank ',' mem) (by decide)
      rw [optionsOf_cons apart others.starts, Placeholder.readOptions,
        if_pos (isEmpty_trim.2 blank), ih]
  | @pair _ name value left right _ named valued others ih =>
      obtain ⟨trimmed, unequal, apart⟩ := printsName_iff.1 named
      obtain ⟨trimmed', apart'⟩ := printsValue_iff.1 valued
      have visible : ¬(Text.trim (left ++ '=' :: right)).isEmpty = true := fun blank =>
        absurd (isEmpty_trim.1 blank '=' (by simp)) (by decide)
      rw [optionsOf_cons (by simp [apart, apart']) others.starts, Placeholder.readOptions,
        if_neg visible, readOption?_append unequal, trimmed, trimmed', String.ofList_toList,
        String.ofList_toList]
      simp [ih]

theorem printsListed_of_readOptions {attributes : List (String × String)} {content : String}
    {position : Nat} {options : List (List Char)}
    (read : readOptions content position options = .ok attributes)
    (apart : ∀ option ∈ options, ',' ∉ option) :
    PrintsListed attributes (options.flatMap (',' :: ·)) := by
  induction options generalizing attributes with
  | nil => cases read; exact .nil
  | cons option rest ih =>
      obtain ⟨apart, others⟩ := List.forall_mem_cons.1 apart
      rw [readOptions] at read
      rw [List.flatMap_cons]
      split at read
      next blank => exact .empty (isEmpty_trim.1 blank) (ih read others)
      next visible =>
        cases found : readOption? option with
        | none => rw [found] at read; cases read
        | some pair =>
            simp only [found, bind_eq_ok, pure_eq_ok] at read
            obtain ⟨listed, read, rfl⟩ := read
            obtain ⟨left, right, rfl, unequal, named, valued⟩ := exists_of_readOption? found
            simp only [List.mem_append, List.mem_cons, not_or] at apart
            exact .pair (printsName_iff.2 ⟨named, unequal, apart.1⟩)
              (printsValue_iff.2 ⟨valued, apart.2.2⟩) (ih read others)

theorem readListed_eq_ok {content : String} {typed attributes : List (String × String)}
    {printed : List Char} : readListed content typed printed = .ok attributes ↔
      ∃ listed, PrintsListed listed printed ∧ attributes = typed ++ listed := by
  constructor
  · intro read
    unfold readListed at read
    split at read
    · cases read; exact ⟨[], .nil, (List.append_nil typed).symm⟩
    next options =>
      cases found : readOptions content (positionOf content options)
          (Text.splitAtChar ',' options) with
      | error e => rw [found] at read; cases read
      | ok listed =>
          rw [found] at read
          cases read
          have prints := printsListed_of_readOptions found fun _ =>
            Text.not_mem_of_mem_splitAtChar
          rw [Text.flatMap_splitAtChar] at prints
          exact ⟨listed, prints, rfl⟩
    · cases read
  · rintro ⟨listed, prints, rfl⟩
    cases printed with
    | nil =>
        cases prints
        rw [readListed, List.append_nil]
    | cons c options =>
        obtain rfl := prints.starts c rfl
        have read := prints.readOptions content (positionOf content options)
        rw [optionsOf] at read
        rw [readListed, read]
        rfl

theorem trimStart_of_starts {sign : Char} (visible : Text.isBlank sign = false)
    {rest : List Char} (starts : ∀ c ∈ rest.head?, c = sign) : Text.trimStart rest = rest :=
  Text.trimStart_of_visible_head fun c mem => starts c mem ▸ visible

/-- Prints the attributes of a placeholder, of which a column type makes the first. -/
inductive PrintsAttributes : List (String × String) → List Char → Prop
  | intro {columnType : Option String} {listed : List (String × String)} {first rest : List Char}
      (typed : PrintsType columnType first) (others : PrintsListed listed rest) :
      PrintsAttributes (columnType.toList.map (("jdbcType", ·)) ++ listed) (first ++ rest)

theorem stops_dropWhile {p : Char → Bool} {cs : List Char} :
    ∀ c ∈ (cs.dropWhile p).head?, p c = false := by
  intro c mem
  have stops := List.head?_dropWhile_not p cs
  rwa [Option.mem_def.1 mem] at stops

theorem readColumnType_of_prints {columnType : Option String} {first rest : List Char}
    (typed : PrintsType columnType first) (starts : ∀ c ∈ rest.head?, c = ',') (content : String) :
    readColumnType content (first ++ rest) = .ok (columnType, rest) := by
  cases typed with
  | none =>
      refine readColumnType.eq_2 content rest fun tail eq => ?_
      exact absurd (starts ':' (by simp [eq])) (by decide)
  | @some name printed nonempty named =>
      obtain ⟨trimmed, apart⟩ := printsValue_iff.1 named
      rw [List.cons_append, readColumnType, takeWhile_ne apart starts, dropWhile_ne apart starts,
        trimmed, if_neg (by simpa using nonempty), String.ofList_toList]

theorem readAttributes_eq_ok {content : String} {printed : List Char}
    (visible : Text.trimStart printed = printed) {attributes : List (String × String)} :
    readAttributes content printed = .ok attributes ↔ PrintsAttributes attributes printed := by
  rw [readAttributes, bind_eq_ok]
  constructor
  · rintro ⟨⟨columnType, rest⟩, typed, listed⟩
    obtain ⟨listed, others, rfl⟩ := readListed_eq_ok.1 listed
    unfold readColumnType at typed
    split at typed
    next name =>
      dsimp only at typed
      split at typed
      · cases typed
      next nonempty =>
        cases typed
        have starts : ∀ c ∈ (name.dropWhile (· != ',')).head?, c = ',' := fun c mem => by
          simpa using stops_dropWhile c mem
        rw [trimStart_of_starts (by decide) starts] at others
        have apart : ',' ∉ name.takeWhile (· != ',') := fun mem => by
          simpa using List.mem_takeWhile_imp mem
        have named : PrintsType (some (String.ofList (Text.trim (name.takeWhile (· != ',')))))
            (':' :: name.takeWhile (· != ',')) :=
          .some (by simpa using nonempty) (printsValue_iff.2 ⟨by simp, apart⟩)
        have prints := PrintsAttributes.intro named others
        rwa [List.cons_append, List.takeWhile_append_dropWhile] at prints
    next =>
      cases typed
      rw [visible] at others
      exact .intro .none others
  · rintro ⟨typed, others⟩
    refine ⟨_, readColumnType_of_prints typed others.starts content, ?_⟩
    dsimp only
    rw [trimStart_of_starts (by decide) others.starts]
    exact readListed_eq_ok.2 ⟨_, others, rfl⟩

inductive PrintsSubject : Option String × Option String → List Char → Prop
  | property {name : String} {printed : List Char} (nonempty : name ≠ "")
      (plain : name.toList.head? ≠ some '(') (named : Prints [',', ':'] name printed) :
      PrintsSubject (some name, none) printed
  | expression {text : String} {inner printed : List Char} (balanced : Balanced inner)
      (within : Prints [] text inner) (pads : Pads ('(' :: (inner ++ [')'])) printed) :
      PrintsSubject (none, some text) printed

theorem printsProperty_iff {name : String} {printed : List Char} :
    Prints [',', ':'] name printed ↔
      Text.trim printed = name.toList ∧ ∀ c ∈ printed, isPlain c = true := by
  rw [prints_iff (by decide)]
  refine and_congr_right fun _ => ⟨fun lacks c mem => ?_, fun plain sign signs mem => ?_⟩
  · have comma : c ≠ ',' := by rintro rfl; exact lacks ',' (by simp) mem
    have colon : c ≠ ':' := by rintro rfl; exact lacks ':' (by simp) mem
    simp [isPlain, comma, colon]
  · have plain := plain sign mem
    simp only [List.mem_cons, List.not_mem_nil, or_false] at signs
    rcases signs with rfl | rfl <;> exact absurd plain (by decide)

theorem readSubject_unopened {cs : List Char} (unopened : ∀ rest, cs ≠ '(' :: rest)
    (content : String) : readSubject content cs =
      if (Text.trim (cs.takeWhile isPlain)).isEmpty then
        .error (syntaxError content (positionOf content cs) "missing property name")
      else .ok ((some (String.ofList (Text.trim (cs.takeWhile isPlain))), none),
        cs.dropWhile isPlain) :=
  readSubject.eq_2 content cs unopened

theorem exists_opening_of_trim {cs rest tail : List Char} (opens : Text.trim cs = '(' :: tail)
    (visible : Text.trimStart (cs ++ rest) = cs ++ rest) : ∃ tail, cs ++ rest = '(' :: tail := by
  obtain ⟨before, after, split, left, -⟩ := Text.exists_trim cs
  rw [opens] at split
  rw [split, List.append_assoc, List.append_assoc, Text.trimStart_append left, List.cons_append,
    Text.trimStart_cons (by decide)] at visible
  exact ⟨_, by rw [split, List.append_assoc, List.append_assoc]; exact visible.symm⟩

theorem readSubject_of_prints {found : Option String × Option String} {printed rest : List Char}
    (subject : PrintsSubject found printed) (starts : ∀ c ∈ rest.head?, isPlain c = false)
    (content : String) : ∃ remainder,
      readSubject content (Text.trimStart (printed ++ rest)) = .ok (found, remainder) ∧
        Text.trimStart remainder = rest := by
  have visible : Text.trimStart rest = rest :=
    Text.trimStart_of_visible_head fun c mem => visible_of_sign (starts c mem)
  cases subject with
  | @property name printed nonempty plain named =>
      have within := (printsProperty_iff.1 named).2
      obtain ⟨before, after, left, right, rfl⟩ := named.pads
      have some : name.toList ≠ [] := fun none => nonempty (String.toList_eq_nil_iff.1 none)
      have start := Text.trimStart_append_trimmed left named.trimmed some (after ++ rest)
      rw [← List.append_assoc name.toList, ← List.append_assoc before,
        ← List.append_assoc before] at start
      have plains : ∀ c ∈ name.toList ++ after, isPlain c = true := fun c mem =>
        within c (by rw [List.append_assoc]; exact List.mem_append_right _ mem)
      have unopened : ∀ other, name.toList ++ after ++ rest ≠ '(' :: other := by
        intro other opens
        obtain ⟨c, tail, text⟩ := List.exists_cons_of_ne_nil some
        rw [text, List.cons_append, List.cons_append] at opens
        exact plain (by rw [text, (List.cons.inj opens).1]; rfl)
      refine ⟨rest, ?_, visible⟩
      rw [start, readSubject_unopened unopened, Expr.takeWhile_append_stop plains starts,
        Expr.dropWhile_append_stop plains starts, Text.trim_append_blank right, named.trimmed,
        String.ofList_toList, if_neg (by simpa using nonempty)]
  | @expression text inner printed balanced within pads =>
      obtain ⟨before, after, left, right, rfl⟩ := pads
      refine ⟨after ++ rest, ?_, (Text.trimStart_append right rest).trans visible⟩
      have start : Text.trimStart (before ++ '(' :: (inner ++ [')']) ++ after ++ rest) =
          '(' :: (inner ++ ')' :: (after ++ rest)) := by
        rw [List.append_assoc, List.append_assoc, Text.trimStart_append left]
        simpa using Text.trimStart_cons (c := '(') (by decide) (inner ++ ')' :: (after ++ rest))
      rw [start, readSubject, readBalanced_zero.2 ⟨rfl, balanced⟩]
      dsimp only
      rw [within.pads.trim, within.trimmed, String.ofList_toList]

theorem prints_of_readSubject {content : String} {found : Option String × Option String}
    {cs rest : List Char} (read : readSubject content (Text.trimStart cs) = .ok (found, rest)) :
    ∃ printed, PrintsSubject found printed ∧ cs = printed ++ Text.trimStart rest := by
  obtain ⟨before, split, left⟩ := Text.exists_trimStart cs
  have visible : Text.trimStart (Text.trimStart cs) = Text.trimStart cs :=
    Text.trimStart_of_visible_head stops_dropWhile
  by_cases opening : ∃ tail, Text.trimStart cs = '(' :: tail
  · obtain ⟨tail, opens⟩ := opening
    rw [opens, readSubject] at read
    cases balanced : readBalanced 0 tail with
    | none => simp only [balanced] at read; cases read
    | some pair =>
        obtain ⟨inner, rest⟩ := pair
        simp only [balanced] at read
        cases read
        obtain ⟨rfl, closed⟩ := readBalanced_zero.1 balanced
        obtain ⟨after, gap, right⟩ := Text.exists_trimStart rest
        refine ⟨before ++ '(' :: (inner ++ [')']) ++ after,
          .expression closed ?_ ⟨before, after, left, right, rfl⟩, ?_⟩
        · exact (prints_iff rfl).2 ⟨by simp, by simp⟩
        · rw [split, opens]
          conv_lhs => rw [gap]
          simp
  · rw [readSubject_unopened fun tail opens => opening ⟨tail, opens⟩] at read
    split at read
    · cases read
    next nonempty =>
      cases read
      have plains : ∀ c ∈ before ++ (Text.trimStart cs).takeWhile isPlain, isPlain c = true :=
        List.forall_mem_append.2
          ⟨fun c mem => isPlain_of_blank (left c mem), fun c mem => List.mem_takeWhile_imp mem⟩
      refine ⟨before ++ (Text.trimStart cs).takeWhile isPlain,
        .property (by simpa using nonempty) ?_ (printsProperty_iff.2 ⟨?_, plains⟩), ?_⟩
      · rw [String.toList_ofList]
        intro opens
        obtain ⟨tail, starts⟩ := List.head?_eq_some_iff.1 opens
        rw [← List.takeWhile_append_dropWhile (p := isPlain) (l := Text.trimStart cs)]
          at visible opening
        exact opening (exists_opening_of_trim starts visible)
      · rw [Text.trim_blank_append left, String.toList_ofList]
      · rw [Text.trimStart_of_visible_head fun c mem => visible_of_sign (stops_dropWhile c mem),
          List.append_assoc, List.takeWhile_append_dropWhile, ← split]

/-- Prints a placeholder. -/
inductive Printed : Placeholder → List Char → Prop
  | intro {found : Option String × Option String} {attributes : List (String × String)}
      {first rest : List Char} (subject : PrintsSubject found first)
      (others : PrintsAttributes attributes rest) :
      Printed ⟨found.1, found.2, attributes⟩ (first ++ rest)

theorem PrintsAttributes.starts {attributes : List (String × String)} {printed : List Char}
    (prints : PrintsAttributes attributes printed) : ∀ c ∈ printed.head?, isPlain c = false := by
  obtain ⟨typed, others⟩ := prints
  cases typed with
  | none => exact fun c mem => others.starts c mem ▸ rfl
  | some nonempty named => simp [isPlain]

/-- Parsing reads a placeholder off exactly the contents that print it. -/
theorem parse_eq_ok_iff {content : String} {placeholder : Placeholder} :
    parse content = .ok placeholder ↔ Printed placeholder content.toList := by
  constructor
  · intro parsed
    cases read : readSubject content (Text.trimStart content.toList) with
    | error e =>
        rw [parse, read] at parsed
        cases parsed
    | ok pair =>
        obtain ⟨found, rest⟩ := pair
        obtain ⟨printed, subject, split⟩ := prints_of_readSubject read
        rw [parse_of_readSubject read] at parsed
        have visible : Text.trimStart (Text.trimStart rest) = Text.trimStart rest :=
          Text.trimStart_of_visible_head stops_dropWhile
        cases others : readAttributes content (Text.trimStart rest) with
        | error e => rw [others] at parsed; cases parsed
        | ok attributes =>
            rw [others] at parsed
            cases parsed
            rw [split]
            exact .intro subject ((readAttributes_eq_ok visible).1 others)
  · intro printed
    generalize split : content.toList = cs at printed
    cases printed with
    | intro subject others =>
        obtain ⟨remainder, read, rest⟩ := readSubject_of_prints subject others.starts content
        rw [← split] at read
        have visible := Text.trimStart_of_visible_head fun c mem =>
          visible_of_sign (others.starts c mem)
        rw [parse_of_readSubject read, rest, (readAttributes_eq_ok visible).2 others]
        rfl

example : parse " name : VARCHAR ,, mode = OUT" =
    .ok ⟨some "name", none, [("jdbcType", "VARCHAR"), ("mode", "OUT")]⟩ := by
  rfl

end Placeholder

end MappedSql
