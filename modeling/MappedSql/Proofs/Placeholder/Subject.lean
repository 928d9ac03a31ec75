import MappedSql.Placeholder.Mapping
import MappedSql.Proofs.Outcome
import MappedSql.Proofs.Text.Trimming

namespace MappedSql

def isNameChar (c : Char) : Bool :=
  !Text.isBlank c && !(['.', ',', ':', '[', ']', '(', ')', '{', '}', '#', '\\'].contains c)

def isPathChar (c : Char) : Bool :=
  isNameChar c || c == '.' || c == '[' || c == ']'

def IsName (name : List Char) : Prop :=
  name ≠ [] ∧ ∀ c ∈ name, isNameChar c

def IsPath (path : List Char) : Prop :=
  path ≠ [] ∧ ∀ c ∈ path, isPathChar c

instance (name : List Char) : Decidable (IsName name) :=
  decidable_of_iff ((!name.isEmpty && name.all isNameChar) = true) (by simp [IsName])

instance (path : List Char) : Decidable (IsPath path) :=
  decidable_of_iff ((!path.isEmpty && path.all isPathChar) = true) (by simp [IsPath])

def rootOf (path : List Char) : List Char :=
  path.takeWhile fun c => c != '.' && c != '['

def IsBelow (below : List Char) : Prop :=
  below = [] ∨ ∃ rest, below = '.' :: rest ∨ below = '[' :: rest

theorem isNameChar_visible {c : Char} (name : isNameChar c) : Text.isBlank c = false := by
  simp only [isNameChar, Bool.and_eq_true, Bool.not_eq_true'] at name
  exact name.1

theorem isPathChar_visible {c : Char} (path : isPathChar c) : Text.isBlank c = false := by
  simp only [isPathChar, Bool.or_eq_true, beq_iff_eq] at path
  rcases path with ((name | rfl) | rfl) | rfl
  · exact isNameChar_visible name
  all_goals decide

theorem isNameChar_plain {c : Char} (name : isNameChar c) :
    c ≠ '.' ∧ c ≠ '[' ∧ c ≠ ',' ∧ c ≠ ':' ∧ c ≠ '(' ∧ c ≠ '}' ∧ c ≠ '\\' := by
  simp only [isNameChar, Bool.and_eq_true, Bool.not_eq_true', List.contains_eq_mem,
    List.mem_cons, List.not_mem_nil, or_false, decide_eq_false_iff_not, not_or] at name
  simp only [ne_eq]
  tauto

theorem isPathChar_plain {c : Char} (path : isPathChar c) :
    c ≠ ',' ∧ c ≠ ':' ∧ c ≠ '(' ∧ c ≠ '}' ∧ c ≠ '\\' := by
  simp only [isPathChar, Bool.or_eq_true, beq_iff_eq] at path
  rcases path with ((name | rfl) | rfl) | rfl
  · have := isNameChar_plain name
    tauto
  all_goals decide

theorem IsName.isPath {name : List Char} (plain : IsName name) : IsPath name :=
  ⟨plain.1, fun c mem => by simp [isPathChar, plain.2 c mem]⟩

theorem exists_rootOf (path : List Char) :
    ∃ below, path = rootOf path ++ below ∧ IsBelow below := by
  refine ⟨path.dropWhile _, (List.takeWhile_append_dropWhile).symm, ?_⟩
  cases remainder : path.dropWhile fun c => c != '.' && c != '[' with
  | nil => exact .inl rfl
  | cons c rest =>
      have stops := List.head_dropWhile_not (fun c : Char => c != '.' && c != '[')
        (l := path) (by simp [remainder])
      simp only [remainder, List.head_cons, Bool.and_eq_false_iff, bne_eq_false_iff_eq] at stops
      rcases stops with rfl | rfl
      · exact .inr ⟨rest, .inl rfl⟩
      · exact .inr ⟨rest, .inr rfl⟩

namespace Placeholder

def isPlain (c : Char) : Bool :=
  c != ',' && c != ':'

def subject (content : List Char) : List Char :=
  Text.trim ((Text.trimStart content).takeWhile isPlain)

def Follows (rest : List Char) : Prop :=
  ∀ c ∈ rest.takeWhile isPlain, Text.isBlank c

theorem takeWhile_isPlain_append {path : List Char} (plain : IsPath path) (rest : List Char) :
    (path ++ rest).takeWhile isPlain = path ++ rest.takeWhile isPlain := by
  refine List.takeWhile_append_of_pos fun c mem => ?_
  have := isPathChar_plain (plain.2 c mem)
  simp [isPlain, this.1, this.2.1]

theorem takeWhile_dropWhile (p : Char → Bool) (cs : List Char) :
    (cs.dropWhile p).takeWhile p = [] := by
  cases remainder : cs.dropWhile p with
  | nil => rfl
  | cons c rest =>
      have stops := List.head_dropWhile_not p (l := cs) (by simp [remainder])
      simp only [remainder, List.head_cons] at stops
      simp [stops]

theorem trimStart_append_path {before path : List Char} (blank : ∀ c ∈ before, Text.isBlank c)
    (plain : IsPath path) (rest : List Char) :
    Text.trimStart (before ++ path ++ rest) = path ++ rest := by
  rw [List.append_assoc, Text.trimStart_append blank]
  cases path with
  | nil => exact absurd rfl plain.1
  | cons c path => exact Text.trimStart_cons (isPathChar_visible (plain.2 c (by simp))) _

theorem subject_append {before path rest : List Char} (blank : ∀ c ∈ before, Text.isBlank c)
    (plain : IsPath path) (follows : Follows rest) :
    subject (before ++ path ++ rest) = path := by
  have visible : ∀ c ∈ path, Text.isBlank c = false := fun c mem =>
    isPathChar_visible (plain.2 c mem)
  rw [subject, trimStart_append_path blank plain, takeWhile_isPlain_append plain, Text.trim]
  cases path with
  | nil => exact absurd rfl plain.1
  | cons c path =>
      rw [List.cons_append, Text.trimStart_cons (visible c (by simp)), ← List.cons_append,
        Text.trimEnd_append follows, Text.trimEnd_of_visible visible]

theorem exists_of_subject {content : List Char} (_plain : IsPath (subject content)) :
    ∃ before rest, content = before ++ subject content ++ rest ∧
      (∀ c ∈ before, Text.isBlank c) ∧ Follows rest := by
  obtain ⟨before, start, blank⟩ := Text.exists_trimStart content
  obtain ⟨a, b, split, blankLeft, blankRight⟩ :=
    Text.exists_trim ((Text.trimStart content).takeWhile isPlain)
  set cs := Text.trimStart content with cs_def
  have parts : cs = a ++ subject content ++ (b ++ cs.dropWhile isPlain) := by
    rw [subject, ← cs_def, ← List.append_assoc, ← split, List.takeWhile_append_dropWhile]
  refine ⟨before ++ a, b ++ cs.dropWhile isPlain, ?_, ?_, ?_⟩
  · rw [List.append_assoc before, List.append_assoc before, ← parts, ← start]
  · intro c mem
    exact (List.mem_append.1 mem).elim (blank c) (blankLeft c)
  · intro c mem
    have plainBlanks : ∀ d ∈ b, isPlain d := fun d mem =>
      List.mem_takeWhile_imp (by rw [split]; simp [mem])
    rw [List.takeWhile_append_of_pos plainBlanks, takeWhile_dropWhile, List.append_nil] at mem
    exact blankRight c mem

theorem property_of_readSubject {content : String} {c : Char} {cs rest : List Char}
    {property expression : Option String} (plain : c ≠ '(')
    (read : readSubject content (c :: cs) = .ok ((property, expression), rest)) :
    property = some (String.ofList (Text.trim ((c :: cs).takeWhile isPlain))) := by
  rw [readSubject.eq_def] at read
  split at read
  · rename_i eq
    exact absurd (List.cons.inj eq).1 plain
  · dsimp only at read
    split at read
    · cases read
    · cases read
      rfl

theorem property_of_parse {content : String} {placeholder : Placeholder}
    (plain : IsPath (subject content.toList)) (parsed : parse content = .ok placeholder) :
    placeholder.property = some (String.ofList (subject content.toList)) := by
  obtain ⟨before, rest, split, blank, -⟩ := exists_of_subject plain
  have start : Text.trimStart content.toList = subject content.toList ++ rest := by
    conv_lhs => rw [split]
    exact trimStart_append_path blank plain rest
  obtain ⟨c, path, eq⟩ := List.exists_cons_of_ne_nil plain.1
  have plainStart : c ≠ '(' := (isPathChar_plain (plain.2 c (by simp [eq]))).2.2.1
  unfold parse at parsed
  simp only [bind_eq_ok] at parsed
  obtain ⟨⟨⟨property, expression⟩, remainder⟩, read, ⟨columnType, options⟩, -, parsed⟩ := parsed
  have found : property = some (String.ofList (subject content.toList)) := by
    rw [start, eq, List.cons_append] at read
    rw [property_of_readSubject plainStart read, ← List.cons_append, ← eq, ← start]
    rfl
  rw [← found]
  dsimp only at parsed
  split at parsed
  · cases parsed
    rfl
  · simp only [bind_eq_ok] at parsed
    obtain ⟨attributes, -, parsed⟩ := parsed
    cases parsed
    rfl
  · cases parsed

end Placeholder

namespace ParameterMapping

theorem property_of_finish {draft : Draft} {registry : Registry} {property : String}
    {dbType : Option DbType} {mapping : ParameterMapping}
    (finished : draft.finish registry property dbType = .ok mapping) :
    mapping.property = property := by
  unfold Draft.finish at finished
  by_cases refused : (draft.type = .cursor && draft.resultMap.isNone) = true
  · simp only [if_pos refused, bind_eq_ok, failWith_ne_ok, false_and, exists_false] at finished
  · simp only [if_neg refused] at finished
    cases named : draft.handlerName <;>
      · simp only [named, bind_eq_ok, pure_eq_ok] at finished
        obtain ⟨handler, -, rfl⟩ := finished
        rfl

theorem property_of_ofPlaceholder {setting : Setting} {content : String}
    {mapping : ParameterMapping} (plain : IsPath (Placeholder.subject content.toList))
    (resolved : ofPlaceholder setting content = .ok mapping) :
    mapping.property = String.ofList (Placeholder.subject content.toList) := by
  unfold ofPlaceholder at resolved
  simp only [bind_eq_ok] at resolved
  obtain ⟨placeholder, parsed, -, -, dbType, -, draft, -, finished⟩ := resolved
  rw [property_of_finish finished, Placeholder.property_of_parse plain parsed]
  rfl

end ParameterMapping

end MappedSql
