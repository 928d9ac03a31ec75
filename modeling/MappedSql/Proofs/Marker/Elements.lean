import Mathlib.Data.List.TakeWhile
import Mathlib.Logic.Relation
import MappedSql.Marker

namespace MappedSql

namespace Marker

inductive QuotedEnds (quote : Char) : List Char → List Char → Prop
  | close {rest : List Char} (single : rest.head? ≠ some quote) :
      QuotedEnds quote (quote :: rest) rest
  | doubled {text rest : List Char} (ends : QuotedEnds quote text rest) :
      QuotedEnds quote (quote :: quote :: text) rest
  | char {c : Char} {text rest : List Char} (other : c ≠ quote)
      (ends : QuotedEnds quote text rest) : QuotedEnds quote (c :: text) rest

inductive LineEnds : List Char → List Char → Prop
  | close {rest : List Char} : LineEnds ('\n' :: rest) rest
  | char {c : Char} {text rest : List Char} (other : c ≠ '\n') (ends : LineEnds text rest) :
      LineEnds (c :: text) rest

inductive CommentEnds : List Char → List Char → Prop
  | close {rest : List Char} : CommentEnds ('*' :: '/' :: rest) rest
  | nested {text middle rest : List Char} (inner : CommentEnds text middle)
      (ends : CommentEnds middle rest) : CommentEnds ('/' :: '*' :: text) rest
  | char {c : Char} {text rest : List Char} (closes : ¬['*', '/'] <+: c :: text)
      (opens : ¬['/', '*'] <+: c :: text) (ends : CommentEnds text rest) :
      CommentEnds (c :: text) rest

inductive BodyEnds (tag : List Char) : List Char → List Char → Prop
  | close {rest : List Char} : BodyEnds tag (tag ++ rest) rest
  | char {c : Char} {text rest : List Char} (other : ¬tag <+: c :: text)
      (ends : BodyEnds tag text rest) : BodyEnds tag (c :: text) rest

structure TagName (name : List Char) : Prop where
  starts : ∀ c ∈ name.head?, startsTag c = true
  continues : ∀ c ∈ name, continuesTag c = true

def tagOf (name : List Char) : List Char :=
  '$' :: name ++ ['$']

def Opens (text : List Char) : Prop :=
  ['\''] <+: text ∨ ['"'] <+: text ∨ ['-', '-'] <+: text ∨ ['/', '*'] <+: text ∨
    ∃ name, TagName name ∧ tagOf name <+: text

inductive Element : List Char → List Char → Prop
  | char {c : Char} {text : List Char} (plain : ¬Opens (c :: text)) : Element (c :: text) text
  | quoted {quote : Char} {text rest : List Char} (isQuote : quote = '\'' ∨ quote = '"')
      (ends : QuotedEnds quote text rest) : Element (quote :: text) rest
  | line {text rest : List Char} (ends : LineEnds text rest) : Element ('-' :: '-' :: text) rest
  | comment {text rest : List Char} (ends : CommentEnds text rest) :
      Element ('/' :: '*' :: text) rest
  | body {name text rest : List Char} (named : TagName name)
      (ends : BodyEnds (tagOf name) text rest) : Element (tagOf name ++ text) rest

def Code : List Char → List Char → Prop :=
  Relation.ReflTransGen Element

theorem continuesTag_of_starts {c : Char} (starts : startsTag c = true) :
    continuesTag c = true := by
  unfold startsTag at starts
  unfold continuesTag Char.isAlphanum
  grind

theorem dollarTag?_of_name {name : List Char} (named : TagName name) (rest : List Char) :
    dollarTag? (name ++ '$' :: rest) = some (tagOf name) := by
  cases name with
  | nil => rfl
  | cons c cs =>
      have starts : startsTag c = true := named.starts c rfl
      have continues : ∀ d ∈ cs, continuesTag d = true := fun d mem =>
        named.continues d (List.mem_cons_of_mem _ mem)
      have isNot : c ≠ '$' := by
        rintro rfl
        exact absurd starts (by decide)
      rw [List.cons_append, dollarTag?.eq_2 _ _ (by simpa using isNot), if_pos starts,
        List.takeWhile_append_of_pos continues, List.dropWhile_append_of_pos continues,
        List.takeWhile_cons_of_neg (by decide), List.dropWhile_cons_of_neg (by decide)]
      simp [tagOf]

theorem exists_name_of_dollarTag? {text tag : List Char} (found : dollarTag? text = some tag) :
    ∃ name rest, TagName name ∧ tag = tagOf name ∧ text = name ++ '$' :: rest := by
  unfold dollarTag? at found
  split at found
  · rename_i rest
    exact ⟨[], rest, ⟨by simp, by simp⟩, (Option.some.inj found).symm, rfl⟩
  · rename_i c rest isNot
    split at found
    · rename_i starts
      split at found
      · rename_i after ends
        refine ⟨c :: rest.takeWhile continuesTag, after, ⟨?_, ?_⟩, (Option.some.inj found).symm, ?_⟩
        · simpa using starts
        · refine List.forall_mem_cons.2 ⟨continuesTag_of_starts starts, fun d mem => ?_⟩
          exact List.mem_takeWhile_imp mem
        · rw [List.cons_append, ← ends, List.takeWhile_append_dropWhile]
      · cases found
    · cases found
  · cases found

def Passes (mode : Mode) (text : List Char) (next : Mode) (rest : List Char) : Prop :=
  ∃ front, text = front ++ rest ∧
    flags mode 0 text = List.replicate front.length false ++ flags next 0 rest

theorem Passes.trans {mode next last : Mode} {text middle rest : List Char}
    (first : Passes mode text next middle) (second : Passes next middle last rest) :
    Passes mode text last rest := by
  obtain ⟨front, rfl, same⟩ := first
  obtain ⟨behind, rfl, same'⟩ := second
  refine ⟨front ++ behind, (List.append_assoc _ _ _).symm, ?_⟩
  rw [same, same', ← List.append_assoc, List.replicate_append_replicate, List.length_append]

theorem Passes.mem {mode next : Mode} {text rest : List Char} (passes : Passes mode text next rest)
    (mem : true ∈ flags mode 0 text) : true ∈ flags next 0 rest := by
  obtain ⟨front, -, same⟩ := passes
  rw [same] at mem
  simpa using mem

theorem Passes.length_le {mode next : Mode} {text rest : List Char}
    (passes : Passes mode text next rest) : rest.length ≤ text.length := by
  obtain ⟨front, rfl, -⟩ := passes
  simp

theorem flags_skip (mode : Mode) (front rest : List Char) :
    flags mode front.length (front ++ rest) =
      List.replicate front.length false ++ flags mode 0 rest := by
  induction front with
  | nil => rfl
  | cons c front ih => simpa [flags, List.replicate_succ] using ih

theorem Passes.of_read {mode next : Mode} {c : Char} (front : List Char) {rest : List Char}
    (reads : read mode c (front ++ rest) = { mode := next, skip := front.length }) :
    Passes mode (c :: (front ++ rest)) next rest := by
  refine ⟨c :: front, rfl, ?_⟩
  rw [flags, if_neg (Nat.lt_irrefl 0)]
  simp only [reads]
  rw [flags_skip, List.length_cons, List.replicate_succ, List.cons_append]

theorem Passes.of_stay {mode next : Mode} {c : Char} {rest : List Char}
    (reads : read mode c rest = { mode := next }) : Passes mode (c :: rest) next rest :=
  Passes.of_read [] reads

variable {text rest : List Char}

theorem passes_quoted {quote : Char} (ends : QuotedEnds quote text rest) :
    Passes (.quoted quote) text .code rest := by
  induction ends with
  | close single => exact .of_stay (by simp [read, single])
  | @doubled text rest _ ih =>
      exact (Passes.of_read [quote] (by simp [read])).trans ih
  | char other _ ih => exact (Passes.of_stay (by simp [read, other])).trans ih

theorem passes_line (ends : LineEnds text rest) : Passes .lineComment text .code rest := by
  induction ends with
  | close => exact .of_stay (by simp [read])
  | char other _ ih => exact (Passes.of_stay (by simp [read, other])).trans ih

def afterComment (depth : Nat) : Mode :=
  if depth ≤ 1 then .code else .blockComment (depth - 1)

theorem read_comment_char (depth : Nat) {c : Char} (closes : ¬['*', '/'] <+: c :: text)
    (opens : ¬['/', '*'] <+: c :: text) :
    read (.blockComment depth) c text = { mode := .blockComment depth } := by
  show readBlockComment depth c text = _
  unfold readBlockComment
  split
  · exact absurd (by simp) opens
  · exact absurd (by simp) closes
  · rfl

theorem passes_comment (ends : CommentEnds text rest) {depth : Nat} (inside : 0 < depth) :
    Passes (.blockComment depth) text (afterComment depth) rest := by
  induction ends generalizing depth with
  | close => exact .of_read ['/'] rfl
  | nested inner ends ihInner ihEnds =>
      have entered := ihInner (Nat.succ_pos depth)
      rw [afterComment, if_neg (by omega), Nat.succ_sub_one] at entered
      exact ((Passes.of_read ['*'] rfl).trans entered).trans (ihEnds inside)
  | char closes opens _ ih =>
      exact (Passes.of_stay (read_comment_char _ closes opens)).trans (ih inside)

theorem passes_body {tag : List Char} (sign : tag ≠ []) (ends : BodyEnds tag text rest) :
    Passes (.dollarBody tag) text .code rest := by
  induction ends with
  | @close rest =>
      obtain ⟨c, front, rfl⟩ := List.exists_cons_of_ne_nil sign
      exact .of_read front (by simp [read])
  | char other _ ih =>
      exact (Passes.of_stay (by simp [read, List.isPrefixOf_iff_prefix, other])).trans ih

theorem tagOf_append (name text : List Char) :
    tagOf name ++ text = '$' :: (name ++ '$' :: text) := by
  simp [tagOf]

theorem dollarTag?_of_plain (plain : ¬Opens ('$' :: text)) : dollarTag? text = none := by
  cases found : dollarTag? text with
  | none => rfl
  | some tag =>
      obtain ⟨name, rest, named, rfl, rfl⟩ := exists_name_of_dollarTag? found
      refine absurd (.inr (.inr (.inr (.inr ⟨name, named, rest, ?_⟩)))) plain
      exact tagOf_append name rest

def isBare (c : Char) (rest : List Char) : Bool :=
  c == '?' && !(rest.head?.any Char.isDigit)

theorem readCode_of_plain {c : Char} (plain : ¬Opens (c :: text)) :
    readCode c text = { marked := isBare c text, mode := .code } := by
  unfold readCode
  split
  · exact absurd (.inl (by simp)) plain
  · exact absurd (.inr (.inl (by simp))) plain
  · exact absurd (.inr (.inr (.inl (by simp)))) plain
  · exact absurd (.inr (.inr (.inr (.inl (by simp))))) plain
  · rw [dollarTag?_of_plain plain]
    rfl
  · rfl
  · have isNot : c ≠ '?' := by
      rintro rfl
      simp_all
    simp [isBare, isNot]

theorem flags_of_plain {c : Char} (plain : ¬Opens (c :: text)) :
    flags .code 0 (c :: text) = isBare c text :: flags .code 0 text := by
  rw [flags, if_neg (Nat.lt_irrefl 0)]
  simp only [read, readCode_of_plain plain]

theorem passes_opening {mode : Mode} (opening : List Char) {c : Char}
    (reads : read .code c (opening ++ text) = { mode := mode, skip := opening.length })
    (passes : Passes mode text .code rest) : Passes .code (c :: (opening ++ text)) .code rest :=
  (Passes.of_read opening reads).trans passes

theorem readCode_tag {name : List Char} (named : TagName name) (text : List Char) :
    readCode '$' (name ++ ['$'] ++ text) =
      { mode := .dollarBody (tagOf name), skip := (name ++ ['$']).length } := by
  have found := dollarTag?_of_name named text
  rw [List.append_assoc, List.singleton_append]
  simp [readCode, found, tagOf]

theorem Element.passes_or (element : Element text rest) :
    Passes .code text .code rest ∨ ¬Opens text ∧ ∃ c, text = c :: rest := by
  cases element with
  | char plain => exact .inr ⟨plain, _, rfl⟩
  | quoted isQuote ends =>
      refine .inl (passes_opening [] ?_ (passes_quoted ends))
      rcases isQuote with rfl | rfl <;> rfl
  | line ends => exact .inl (passes_opening ['-'] rfl (passes_line ends))
  | comment ends =>
      exact .inl (passes_opening ['*'] rfl (passes_comment ends Nat.one_pos))
  | @body name text rest named ends =>
      exact .inl (passes_opening (name ++ ['$']) (readCode_tag named text)
        (passes_body (by simp [tagOf]) ends))

theorem Element.length_lt (element : Element text rest) : rest.length < text.length := by
  cases element with
  | char => exact Nat.lt_succ_self _
  | quoted _ ends => exact Nat.lt_succ_of_le (passes_quoted ends).length_le
  | line ends => exact Nat.lt_succ_of_lt (Nat.lt_succ_of_le (passes_line ends).length_le)
  | comment ends =>
      exact Nat.lt_succ_of_lt (Nat.lt_succ_of_le (passes_comment ends Nat.one_pos).length_le)
  | @body name text rest named ends =>
      have behind := (passes_body (by simp [tagOf]) ends).length_le
      rw [tagOf_append, List.length_cons, List.length_append, List.length_cons]
      omega

theorem Code.flags_eq (code : Code text rest) :
    ∃ front fronts, text = front ++ rest ∧ fronts.length = front.length ∧
      flags .code 0 text = fronts ++ flags .code 0 rest := by
  induction code using Relation.ReflTransGen.head_induction_on with
  | refl => exact ⟨[], [], rfl, rfl, rfl⟩
  | head element _ ih =>
      obtain ⟨behind, behinds, rfl, length, same⟩ := ih
      rcases element.passes_or with ⟨front, rfl, passed⟩ | ⟨plain, c, rfl⟩
      · refine ⟨front ++ behind, List.replicate front.length false ++ behinds,
          (List.append_assoc _ _ _).symm, ?_, ?_⟩
        · simp [length]
        · rw [passed, same, List.append_assoc]
      · refine ⟨c :: behind, isBare c (behind ++ rest) :: behinds, rfl,
          congrArg (· + 1) length, ?_⟩
        rw [flags_of_plain plain, same]
        rfl

theorem exists_quotedEnds {quote : Char} (mem : true ∈ flags (.quoted quote) 0 text) :
    ∃ rest, QuotedEnds quote text rest := by
  -- on the length, since a doubled quote takes two characters
  induction length : text.length using Nat.strong_induction_on generalizing text with
  | _ n ih =>
      subst length
      cases text with
      | nil => cases mem
      | cons c text =>
          by_cases same : c = quote
          · subst same
            by_cases doubled : text.head? = some c
            · obtain ⟨text, rfl⟩ := List.head?_eq_some_iff.1 doubled
              have passes : Passes (.quoted c) (c :: c :: text) (.quoted c) text :=
                .of_read [c] (by simp [read])
              have shorter : text.length < (c :: c :: text).length := by
                simp only [List.length_cons]; omega
              obtain ⟨rest, ends⟩ := ih text.length shorter (passes.mem mem) rfl
              exact ⟨rest, .doubled ends⟩
            · exact ⟨text, .close doubled⟩
          · have passes : Passes (.quoted quote) (c :: text) (.quoted quote) text :=
              .of_stay (by simp [read, same])
            obtain ⟨rest, ends⟩ := ih _ (by simp) (passes.mem mem) rfl
            exact ⟨rest, .char same ends⟩

theorem exists_lineEnds (mem : true ∈ flags .lineComment 0 text) : ∃ rest, LineEnds text rest := by
  induction text with
  | nil => cases mem
  | cons c text ih =>
      by_cases same : c = '\n'
      · exact ⟨text, same ▸ .close⟩
      · have passes : Passes .lineComment (c :: text) .lineComment text :=
          .of_stay (by simp [read, same])
        obtain ⟨rest, ends⟩ := ih (passes.mem mem)
        exact ⟨rest, .char same ends⟩

theorem exists_commentEnds {depth : Nat} (inside : 0 < depth)
    (mem : true ∈ flags (.blockComment depth) 0 text) : ∃ rest, CommentEnds text rest := by
  -- on the length: the comment goes on behind a further one, wherever that ends
  induction length : text.length using Nat.strong_induction_on generalizing text depth with
  | _ n ih =>
      subst length
      cases text with
      | nil => cases mem
      | cons c text =>
          by_cases closes : ['*', '/'] <+: c :: text
          · obtain ⟨rest, same⟩ := closes
            exact ⟨rest, same ▸ .close⟩
          by_cases opens : ['/', '*'] <+: c :: text
          · obtain ⟨text, same⟩ := opens
            cases same
            have entered : Passes (.blockComment depth) ('/' :: '*' :: text)
                (.blockComment (depth + 1)) text := .of_read ['*'] rfl
            have mem := entered.mem mem
            have shorter : text.length < ('/' :: '*' :: text).length := by
              simp only [List.length_cons]; omega
            obtain ⟨middle, inner⟩ := ih text.length shorter (Nat.succ_pos depth) mem rfl
            have left := passes_comment inner (Nat.succ_pos depth)
            rw [afterComment, if_neg (by omega), Nat.succ_sub_one] at left
            have mem := left.mem mem
            obtain ⟨front, split, -⟩ := left
            obtain ⟨rest, ends⟩ := ih middle.length (by simp [split]; omega) inside mem rfl
            exact ⟨rest, .nested inner ends⟩
          · have passes := Passes.of_stay (read_comment_char depth closes opens)
            obtain ⟨rest, ends⟩ := ih _ (by simp) inside (passes.mem mem) rfl
            exact ⟨rest, .char closes opens ends⟩

theorem exists_bodyEnds {tag : List Char} (mem : true ∈ flags (.dollarBody tag) 0 text) :
    ∃ rest, BodyEnds tag text rest := by
  induction text with
  | nil => cases mem
  | cons c text ih =>
      by_cases closes : tag <+: c :: text
      · obtain ⟨rest, same⟩ := closes
        exact ⟨rest, same ▸ .close⟩
      · have passes : Passes (.dollarBody tag) (c :: text) (.dollarBody tag) text :=
          .of_stay (by simp [read, List.isPrefixOf_iff_prefix, closes])
        obtain ⟨rest, ends⟩ := ih (passes.mem mem)
        exact ⟨rest, .char closes ends⟩

theorem Element.exists_of_opens (opens : Opens text) (mem : true ∈ flags .code 0 text) :
    ∃ rest, Element text rest := by
  rcases opens with ⟨text, rfl⟩ | ⟨text, rfl⟩ | ⟨text, rfl⟩ | ⟨text, rfl⟩ |
    ⟨name, named, text, rfl⟩
  · have passes : Passes .code ('\'' :: text) (.quoted '\'') text := .of_stay rfl
    obtain ⟨rest, ends⟩ := exists_quotedEnds (passes.mem mem)
    exact ⟨rest, .quoted (.inl rfl) ends⟩
  · have passes : Passes .code ('"' :: text) (.quoted '"') text := .of_stay rfl
    obtain ⟨rest, ends⟩ := exists_quotedEnds (passes.mem mem)
    exact ⟨rest, .quoted (.inr rfl) ends⟩
  · have passes : Passes .code ('-' :: '-' :: text) .lineComment text :=
      .of_read ['-'] rfl
    obtain ⟨rest, ends⟩ := exists_lineEnds (passes.mem mem)
    exact ⟨rest, .line ends⟩
  · have passes : Passes .code ('/' :: '*' :: text) (.blockComment 1) text :=
      .of_read ['*'] rfl
    obtain ⟨rest, ends⟩ := exists_commentEnds Nat.one_pos (passes.mem mem)
    exact ⟨rest, .comment ends⟩
  · have passes : Passes .code (tagOf name ++ text) (.dollarBody (tagOf name)) text :=
      .of_read (name ++ ['$']) (readCode_tag named text)
    obtain ⟨rest, ends⟩ := exists_bodyEnds (passes.mem mem)
    exact ⟨rest, .body named ends⟩

theorem code_of_flagged {i : Nat} (flagged : (flags .code 0 text)[i]? = some true) :
    ∃ c rest, text.drop i = c :: rest ∧ isBare c rest = true ∧ Code text (c :: rest) := by
  -- one element at a time; as something behind it is flagged, an element that opens ends
  induction length : text.length using Nat.strong_induction_on generalizing text i with
  | _ n ih =>
      subst length
      by_cases opens : Opens text
      · obtain ⟨behind, element⟩ := Element.exists_of_opens opens (List.mem_of_getElem? flagged)
        have shorter := element.length_lt
        rcases element.passes_or with ⟨front, rfl, passed⟩ | ⟨plain, -⟩
        · rw [passed, List.getElem?_append] at flagged
          split at flagged
          · simp_all
          · rename_i beyond
            rw [List.length_replicate] at beyond flagged
            obtain ⟨c, rest, split, bare, code⟩ := ih _ shorter flagged rfl
            refine ⟨c, rest, ?_, bare, .head element code⟩
            rw [List.drop_append, List.drop_of_length_le (by omega), List.nil_append, split]
        · exact absurd opens plain
      · cases text with
        | nil => cases flagged
        | cons c text =>
            rw [flags_of_plain opens] at flagged
            cases i with
            | zero => exact ⟨c, text, rfl, Option.some.inj flagged, .refl⟩
            | succ i =>
                obtain ⟨d, rest, split, bare, code⟩ := ih _ (by simp) flagged rfl
                exact ⟨d, rest, split, bare, .head (.char opens) code⟩

theorem not_opens_marker : ¬Opens ('?' :: text) := by
  simp [Opens, tagOf]

theorem flag_iff {before rest : List Char} :
    (flags .code 0 (before ++ '?' :: rest))[before.length]? = some true ↔
      Code (before ++ '?' :: rest) ('?' :: rest) ∧ ∀ d ∈ rest.head?, d.isDigit = false := by
  have bare : isBare '?' rest = true ↔ ∀ d ∈ rest.head?, d.isDigit = false := by
    cases rest <;> simp [isBare]
  constructor
  · intro flagged
    obtain ⟨c, after, split, isBare, code⟩ := code_of_flagged flagged
    rw [List.drop_left, List.cons.injEq] at split
    obtain ⟨rfl, rfl⟩ := split
    exact ⟨code, bare.1 isBare⟩
  · rintro ⟨code, undigited⟩
    obtain ⟨front, fronts, split, length, same⟩ := code.flags_eq
    obtain rfl := List.append_cancel_right split
    rw [same, ← length, List.getElem?_append_right (Nat.le_refl _), Nat.sub_self,
      flags_of_plain not_opens_marker, bare.2 undigited]
    rfl

theorem length_flags (mode : Mode) (skip : Nat) : (flags mode skip text).length = text.length := by
  induction text generalizing mode skip with
  | nil => rfl
  | cons c text ih =>
      unfold flags
      split <;> simp [ih]

theorem marker_of_flagged {i : Nat} (flagged : (flags .code 0 text)[i]? = some true) :
    text[i]? = some '?' := by
  obtain ⟨c, rest, split, bare, -⟩ := code_of_flagged flagged
  have isMarker : c = '?' := by
    unfold isBare at bare
    simp_all
  rw [← isMarker, ← List.head?_drop, split]
  rfl

end Marker

end MappedSql
