import MappedSql.Proofs.Placeholder.Joining
import MappedSql.Proofs.Placeholder.Subject
import MappedSql.Template.Loop
import MappedSql.Template.Trim

namespace MappedSql

namespace Loop

theorem toList_roundName (name : String) (unique : Nat) :
    (roundName name unique).toList =
      "__frch_".toList ++ name.toList ++ '_' :: Nat.toDigits 10 unique := by
  simp [roundName, toString, Nat.toList_repr]

theorem isNameChar_of_isDigit {c : Char} (digit : c.isDigit) : isNameChar c := by
  have bounds : 48 ≤ c.toNat ∧ c.toNat ≤ 57 := by
    simpa [Char.isDigit, UInt32.le_iff_toNat_le] using digit
  have numeral : ∀ n, n < 58 → 48 ≤ n → isNameChar (Char.ofNat n) := by decide
  have := numeral c.toNat (by omega) bounds.1
  rwa [Char.ofNat_toNat] at this

theorem isName_roundName {name : String} (plain : IsName name.toList) (unique : Nat) :
    IsName (roundName name unique).toList := by
  constructor
  · simp [toList_roundName]
  · intro c mem
    simp only [toList_roundName, List.mem_append, List.mem_cons] at mem
    rcases mem with (mem | mem) | rfl | mem
    · have framed : "__frch_".toList.all isNameChar = true := by decide
      exact List.all_eq_true.1 framed c mem
    · exact plain.2 c mem
    · decide
    · exact isNameChar_of_isDigit (Nat.isDigit_of_mem_toDigits (by decide) (by decide) mem)

theorem append_underscore_inj {a b digits others : List Char} (left : '_' ∉ digits)
    (right : '_' ∉ others) (same : a ++ '_' :: digits = b ++ '_' :: others) :
    a = b ∧ digits = others := by
  have backwards := congrArg List.reverse same
  simp only [List.reverse_append, List.reverse_cons, List.append_assoc, List.cons_append,
    List.nil_append] at backwards
  have tails : ∀ c ∈ digits.reverse, (c != '_') = true := by
    intro c mem
    simpa using fun eq : c = '_' => left (eq ▸ List.mem_reverse.1 mem)
  have others_tails : ∀ c ∈ others.reverse, (c != '_') = true := by
    intro c mem
    simpa using fun eq : c = '_' => right (eq ▸ List.mem_reverse.1 mem)
  have taken := congrArg (List.takeWhile (· != '_')) backwards
  rw [List.takeWhile_append_of_pos tails, List.takeWhile_append_of_pos others_tails] at taken
  simp only [bne_self_eq_false, Bool.false_eq_true, not_false_eq_true, List.takeWhile_cons_of_neg,
    List.append_nil, List.reverse_inj] at taken
  subst taken
  simpa using same

theorem roundName_inj {name other : String} {unique count : Nat} :
    roundName name unique = roundName other count ↔ name = other ∧ unique = count := by
  constructor
  · intro same
    have spelled := congrArg String.toList same
    rw [toList_roundName, toList_roundName] at spelled
    obtain ⟨names, digits⟩ := append_underscore_inj Nat.underscore_not_in_toDigits
      Nat.underscore_not_in_toDigits spelled
    refine ⟨String.toList_inj.1 (List.append_cancel_left names), ?_⟩
    have values := congrArg (Nat.ofDigitChars 10 · 0) digits
    simpa using values
  · rintro ⟨rfl, rfl⟩
    rfl

structure IsVariable (name : String) : Prop where
  plain : IsName name.toList
  apart : ¬"__frch_".toList <+: name.toList

instance (name : String) : Decidable (IsVariable name) :=
  decidable_of_iff (_ ∧ _) ⟨fun ⟨plain, apart⟩ => ⟨plain, apart⟩, fun own => ⟨own.plain, own.apart⟩⟩

theorem IsVariable.ne_roundName {name : String} (own : IsVariable name) (other : String)
    (unique : Nat) : name ≠ roundName other unique := by
  rintro rfl
  exact own.apart ⟨_, by rw [toList_roundName, List.append_assoc]⟩

def delimits (c : Char) : Bool :=
  c == '.' || c == ',' || c == ':' || c == '[' || Text.isBlank c

def nameAt (content : List Char) : List Char :=
  (Text.trimStart content).takeWhile (!delimits ·)

def afterName (content : List Char) : List Char :=
  (Text.trimStart content).dropWhile (!delimits ·)

theorem not_delimits_of_isNameChar {c : Char} (name : isNameChar c) : delimits c = false := by
  have := isNameChar_plain name
  simp [delimits, isNameChar_visible name, this.1, this.2.1, this.2.2.1, this.2.2.2.1]

theorem afterVariable?_eq {content : List Char} {name : String} (plain : IsName name.toList) :
    afterVariable? content name =
      if name.toList = nameAt content then some (afterName content) else none := by
  have inside : ∀ c ∈ name.toList, (!delimits c) = true := fun c mem => by
    simp [not_delimits_of_isNameChar (plain.2 c mem)]
  by_cases starts : name.toList <+: Text.trimStart content
  · obtain ⟨tail, split⟩ := starts
    simp only [afterVariable?, nameAt, afterName, ← split, List.isPrefixOf_iff_prefix,
      List.prefix_append, if_true, ← String.length_toList, List.drop_left,
      List.takeWhile_append_of_pos inside, List.dropWhile_append_of_pos inside]
    cases tail with
    | nil => simp
    | cons c tail =>
        change (if delimits c then some (c :: tail) else none) = _
        cases stops : delimits c <;> simp [stops]
  · have apart : name.toList ≠ nameAt content := by
      intro same
      exact starts (same ▸ List.takeWhile_prefix _)
    simp only [afterVariable?, List.isPrefixOf_iff_prefix, starts, if_neg apart, if_false]

theorem renameVariable_of_mem {loop : Loop} (plain : ∀ name ∈ loop.names, IsName name.toList)
    {content name : String} (found : name ∈ loop.names)
    (starts : name.toList = nameAt content.toList) (unique : Nat) :
    loop.renameVariable unique content =
      roundName name unique ++ String.ofList (afterName content.toList) := by
  unfold renameVariable
  generalize loop.names = names at plain found
  induction names with
  | nil => simp at found
  | cons head rest ih =>
      simp only [List.findSome?_cons, afterVariable?_eq (plain head (by simp))]
      by_cases same : head.toList = nameAt content.toList
      · rw [if_pos same, ← starts, String.toList_inj] at *
        simp [same]
      · rw [if_neg same]
        refine ih (fun name mem => plain name (by simp [mem])) ?_
        rcases List.mem_cons.1 found with rfl | found
        · exact absurd starts same
        · exact found

theorem renameVariable_of_not_mem {loop : Loop} (plain : ∀ name ∈ loop.names, IsName name.toList)
    {content : String} (apart : ∀ name ∈ loop.names, name.toList ≠ nameAt content.toList)
    (unique : Nat) : loop.renameVariable unique content = content := by
  unfold renameVariable
  rw [List.findSome?_eq_none_iff.2]
  · rfl
  · intro name mem
    rw [afterVariable?_eq (plain name mem), if_neg (apart name mem)]
    rfl

theorem exists_afterName {content : List Char} (plain : IsPath (Placeholder.subject content)) :
    ∃ below rest, Placeholder.subject content = nameAt content ++ below ∧ IsBelow below ∧
      afterName content = below ++ rest ∧ Placeholder.Follows rest := by
  obtain ⟨before, rest, split, blank, follows⟩ := Placeholder.exists_of_subject plain
  obtain ⟨below, path, bounded⟩ := exists_rootOf (Placeholder.subject content)
  have start : Text.trimStart content =
      rootOf (Placeholder.subject content) ++ (below ++ rest) := by
    rw [← List.append_assoc, ← path]
    conv_lhs => rw [split]
    exact Placeholder.trimStart_append_path blank plain rest
  have inside : ∀ c ∈ rootOf (Placeholder.subject content), (!delimits c) = true := by
    intro c mem
    have bounds := List.mem_takeWhile_imp mem
    have member : isPathChar c := plain.2 c (List.takeWhile_prefix _ |>.subset mem)
    have signs := isPathChar_plain member
    simp only [Bool.and_eq_true, bne_iff_ne, ne_eq] at bounds
    simp [delimits, isPathChar_visible member, bounds, signs.1, signs.2.1]
  -- the name ends where the path goes on or where the property ends
  have stops : ∀ c, (below ++ rest).head? = some c → delimits c := by
    intro c head
    rcases bounded with rfl | ⟨tail, rfl | rfl⟩
    · obtain ⟨tail, rfl⟩ := List.head?_eq_some_iff.1 head
      cases ends : Placeholder.isPlain c with
      | true =>
          have blankEnd := follows c (by simp [ends])
          simp [delimits, blankEnd]
      | false =>
          have signs : c = ',' ∨ c = ':' := by
            by_contra other
            simp only [not_or] at other
            simp [Placeholder.isPlain, other] at ends
          rcases signs with rfl | rfl <;> decide
    · obtain rfl : '.' = c := by simpa using head
      decide
    · obtain rfl : '[' = c := by simpa using head
      decide
  have ended : (below ++ rest).takeWhile (!delimits ·) = [] ∧
      (below ++ rest).dropWhile (!delimits ·) = below ++ rest := by
    cases remainder : below ++ rest with
    | nil => simp
    | cons c tail => simp [stops c (by simp [remainder])]
  refine ⟨below, rest, ?_, bounded, ?_, follows⟩
  · rw [nameAt, start, List.takeWhile_append_of_pos inside, ended.1, List.append_nil, ← path]
  · rw [afterName, start, List.dropWhile_append_of_pos inside, ended.2]

theorem subject_append_afterName {content name : List Char}
    (plain : IsPath (Placeholder.subject content)) (named : IsName name) :
    ∃ below, Placeholder.subject content = nameAt content ++ below ∧ IsPath (name ++ below) ∧
      Placeholder.subject (name ++ afterName content) = name ++ below := by
  obtain ⟨below, rest, path, bounded, after, follows⟩ := exists_afterName plain
  have renamed : IsPath (name ++ below) := by
    refine ⟨by simp [named.1], fun c mem => ?_⟩
    rcases List.mem_append.1 mem with mem | mem
    · exact named.isPath.2 c mem
    · exact plain.2 c (by rw [path]; exact List.mem_append_right _ mem)
  have subject := Placeholder.subject_append (List.forall_mem_nil _) renamed follows
  rw [List.nil_append, List.append_assoc, ← after] at subject
  exact ⟨below, path, renamed, subject⟩

section Fragments

open Written

def rename (loop : Loop) (unique : Nat) (content : List Char) : List Char :=
  (loop.renameVariable unique (String.ofList content)).toList

theorem toList_escapeBraces {content : String} (enclosed : '}' ∉ content.toList) :
    (escapeBraces content).toList = content.toList := by
  rw [escapeBraces, String.toList_ofList]
  generalize content.toList = cs at enclosed
  induction cs with
  | nil => rfl
  | cons c cs ih =>
      simp only [List.mem_cons, not_or] at enclosed
      rw [List.flatMap_cons, ih enclosed.2, if_neg (Ne.symm enclosed.1)]
      rfl

theorem rename_enclosed {loop : Loop} (plain : ∀ name ∈ loop.names, IsName name.toList)
    (unique : Nat) {content : List Char} (enclosed : '}' ∉ content ∧ '\\' ∉ content) :
    '}' ∉ loop.rename unique content ∧ '\\' ∉ loop.rename unique content := by
  by_cases found : ∃ name ∈ loop.names, name.toList = nameAt content
  · obtain ⟨name, mem, starts⟩ := found
    have renamed : loop.rename unique content =
        (roundName name unique).toList ++ afterName content := by
      rw [rename, renameVariable_of_mem plain mem (by simpa using starts)]
      simp
    have after : ∀ c ∈ afterName content, c ∈ content := fun c mem =>
      (List.dropWhile_suffix _).subset ((List.dropWhile_suffix _).subset mem)
    have fresh : ∀ c ∈ (roundName name unique).toList, c ≠ '}' ∧ c ≠ '\\' := fun c mem =>
      (isNameChar_plain ((isName_roundName (plain name ‹_›) unique).2 c mem)).2.2.2.2.2
    rw [renamed]
    simp only [List.mem_append, not_or]
    exact ⟨⟨fun mem => (fresh _ mem).1 rfl, fun mem => enclosed.1 (after _ mem)⟩,
      ⟨fun mem => (fresh _ mem).2 rfl, fun mem => enclosed.2 (after _ mem)⟩⟩
  · simp only [not_exists, not_and] at found
    rw [rename, renameVariable_of_not_mem plain (by simpa using found), String.toList_ofList]
    exact enclosed

theorem replaceWith_pieces {rewrite : List Char → List Char} {handler : String → String}
    (written : List Written) (before : List Char)
    (rewrites : ∀ content ∈ slots written, (handler (String.ofList content)).toList =
      spellOne (.slot (rewrite content))) :
    (Id.run (Piece.replaceWith (m := Id) handler (pieces before written))).toList =
      before.reverse ++ spell (mapSlots rewrite written) := by
  induction written generalizing before with
  | nil => simp [pieces, Piece.replaceWith]
  | cons head rest ih =>
      cases head with
      | char c =>
          rw [pieces, ih _ rewrites]
          simp
      | slot content =>
          have others := ih [] fun content mem => rewrites content (by simp [slots, mem])
          simp only [pieces, Piece.replaceWith, Id.run_bind, Id.run_pure, String.toList_append,
            String.toList_ofList, others]
          rw [show Id.run (handler (String.ofList content)) = handler (String.ofList content) from
            rfl, rewrites content (by simp [slots])]
          simp [spellOne]

theorem renamePlaceholders_spell {loop : Loop} (plain : ∀ name ∈ loop.names, IsName name.toList)
    (unique : Nat) {written : List Written} (readable : Readable written) :
    (loop.renamePlaceholders unique (String.ofList (spell written))).toList =
      spell (mapSlots (loop.rename unique) written) := by
  rw [renamePlaceholders, replaceTokens, ofText_spell written readable,
    replaceWith_pieces]
  · rfl
  · intro content mem
    have enclosed := rename_enclosed plain unique (readable.enclosed _ (mem_slots.1 mem))
    simp [toList_escapeBraces enclosed.1, spellOne, rename]

end Fragments

end Loop

open Written

def Holds (edges : Edges) (s : String) (contents : List String) : Prop :=
  ∃ written, spell written = s.toList ∧ Sound edges written ∧
    (slots written).map String.ofList = contents

variable {edges : Edges} {s t : String} {contents others : List String}

theorem holds_empty : Holds edges "" [] :=
  ⟨[], by simp, sound_nil, rfl⟩

theorem Holds.append (left : Holds edges s contents) (right : Holds edges t others) :
    Holds edges (s ++ t) (contents ++ others) := by
  obtain ⟨a, spelled, sound, rfl⟩ := left
  obtain ⟨b, spelledRight, soundRight, rfl⟩ := right
  exact ⟨a ++ b, by simp [spelled, spelledRight], sound.append soundRight, by simp⟩

theorem Holds.eq_nil (holds : Holds edges "" contents) : contents = [] := by
  obtain ⟨written, spelled, -, rfl⟩ := holds
  rw [spell_eq_nil.1 spelled]
  rfl

theorem Holds.contents_ofText (holds : Holds edges s contents) :
    Piece.contents (Piece.ofText '#' s) = contents := by
  obtain ⟨written, spelled, sound, rfl⟩ := holds
  rw [← String.ofList_toList (s := s), ← spelled, contents_ofText_spell _ sound.toReadable]

theorem holds_of_fits (fits : edges.Fits s.toList) :
    Holds edges s (Piece.contents (Piece.ofText '#' s)) := by
  obtain ⟨written, spelled, sound⟩ := exists_sound fits
  have holds : Holds edges s ((slots written).map String.ofList) := ⟨written, spelled, sound, rfl⟩
  rwa [holds.contents_ofText]

theorem holds_of_unopened (fits : edges.Fits s.toList) (unopened : Unopened s.toList) :
    Holds edges s [] := by
  obtain ⟨written, spelled, sound⟩ := exists_sound fits
  refine ⟨written, spelled, sound, ?_⟩
  rw [slots_eq_nil_of_unopened (spelled ▸ unopened)]
  rfl

theorem Holds.rename {loop : Loop} (plain : ∀ name ∈ loop.names, IsName name.toList)
    (unique : Nat) (holds : Holds edges s contents) :
    Holds edges (loop.renamePlaceholders unique s)
      (contents.map (loop.renameVariable unique)) := by
  obtain ⟨written, spelled, sound, rfl⟩ := holds
  refine ⟨mapSlots (loop.rename unique) written, ?_, ?_, ?_⟩
  · rw [← loop.renamePlaceholders_spell plain unique sound.toReadable, spelled,
      String.ofList_toList]
  · exact sound.mapSlots fun content mem =>
      Loop.rename_enclosed plain unique (sound.enclosed _ (mem_slots.1 mem))
  · simp [Loop.rename, Function.comp_def]

theorem Edges.Peels.refl (cs : List Char) : edges.Peels cs cs :=
  ⟨[], [], by simp, by simp, by simp⟩

theorem Edges.Peels.trans {cs ds es : List Char} (outer : edges.Peels cs ds)
    (inner : edges.Peels ds es) : edges.Peels cs es := by
  obtain ⟨a, b, rfl, looseLeft, looseRight⟩ := outer
  obtain ⟨a', b', rfl, looseLeft', looseRight'⟩ := inner
  refine ⟨a ++ a', b' ++ b, by simp, fun c mem => ?_, fun c mem => ?_⟩
  · exact (List.mem_append.1 mem).elim (looseLeft c) (looseLeft' c)
  · exact (List.mem_append.1 mem).elim (looseRight' c) (looseRight c)

theorem Holds.peel (holds : Holds edges s contents) (peels : edges.Peels s.toList t.toList) :
    Holds edges t contents := by
  obtain ⟨written, spelled, sound, rfl⟩ := holds
  obtain ⟨rest, left, kept, same⟩ := sound.peel (spelled ▸ peels)
  exact ⟨rest, left, kept, by rw [same]⟩

def Edges.Blanks (edges : Edges) : Prop :=
  ∀ c, Text.isBlank c → edges.loose c

theorem peels_trim (blanks : edges.Blanks) (cs : List Char) : edges.Peels cs (Text.trim cs) := by
  obtain ⟨a, b, split, left, right⟩ := Text.exists_trim cs
  exact ⟨a, b, split, fun c mem => blanks c (left c mem), fun c mem => blanks c (right c mem)⟩

theorem peels_trimStart (blanks : edges.Blanks) (cs : List Char) :
    edges.Peels cs (Text.trimStart cs) := by
  obtain ⟨a, split, left⟩ := Text.exists_trimStart cs
  exact ⟨a, [], by simpa using split, fun c mem => blanks c (left c mem), by simp⟩

theorem peels_trimEnd (blanks : edges.Blanks) (cs : List Char) :
    edges.Peels cs (Text.trimEnd cs) := by
  obtain ⟨b, split, right⟩ := Text.exists_trimEnd cs
  exact ⟨[], b, by simpa using split, by simp, fun c mem => blanks c (right c mem)⟩

def Edges.Takes (edges : Edges) (token : String) : Prop :=
  ∀ c : Char, c.toUpper ∈ token.toList → edges.loose c

namespace TrimStyle

theorem peels_cutStart {style : TrimStyle} (blanks : edges.Blanks)
    (takes : ∀ token ∈ style.startOverrides, edges.Takes token) (body : List Char) :
    edges.Peels body (style.cutStart body) := by
  unfold cutStart
  split
  · rename_i token found
    have starts := List.find?_some found
    refine Edges.Peels.trans ?_ (peels_trimStart blanks _)
    refine ⟨body.take token.length, [], by simp, fun c mem => ?_, by simp⟩
    apply takes token (List.mem_of_find?_eq_some found)
    obtain ⟨tail, split⟩ := List.isPrefixOf_iff_prefix.1 starts
    have taken : (body.take token.length).map Char.toUpper = token.toList := by
      rw [List.map_take, ← split, ← String.length_toList, List.take_left]
    rw [← taken]
    exact List.mem_map_of_mem mem
  · exact Edges.Peels.refl body

theorem exists_of_endLength? {body : List Char} {token : String} {length : Nat}
    (found : endLength? body token = some length) :
    ∃ taken : List Char, (∀ c ∈ taken, c ∈ token.toList) ∧ taken <:+ body.map Char.toUpper ∧
      taken.length = length := by
  unfold endLength? at found
  simp only at found
  split at found
  · rename_i ends
    obtain rfl := Option.some.inj found
    exact ⟨token.toList, fun _ mem => mem, List.isSuffixOf_iff_suffix.1 ends,
      String.length_toList⟩
  · split at found
    · rename_i ends
      obtain rfl := Option.some.inj found
      simp only [Bool.and_eq_true] at ends
      refine ⟨Text.trim token.toList, fun c mem => ?_, List.isSuffixOf_iff_suffix.1 ends.2, rfl⟩
      obtain ⟨a, b, split, -, -⟩ := Text.exists_trim token.toList
      rw [split]
      simp [mem]
    · cases found

theorem peels_cutEnd {style : TrimStyle} (blanks : edges.Blanks)
    (takes : ∀ token ∈ style.endOverrides, edges.Takes token) (body : List Char) :
    edges.Peels body (style.cutEnd body) := by
  unfold cutEnd
  split
  · rename_i length found
    obtain ⟨token, mem, found⟩ := List.exists_of_findSome?_eq_some found
    obtain ⟨taken, inside, ⟨front, split⟩, rfl⟩ := exists_of_endLength? found
    refine Edges.Peels.trans ?_ (peels_trimEnd blanks _)
    refine ⟨[], body.drop (body.length - taken.length), by simp, by simp, fun c member => ?_⟩
    apply takes token mem
    apply inside
    have dropped : (body.drop (body.length - taken.length)).map Char.toUpper = taken := by
      have lengths := congrArg List.length split
      simp only [List.length_append, List.length_map] at lengths
      rw [List.map_drop, ← split, ← lengths, Nat.add_sub_cancel, List.drop_left]
    rw [← dropped]
    exact List.mem_map_of_mem member
  · exact Edges.Peels.refl body

theorem peels_strip {style : TrimStyle} (blanks : edges.Blanks)
    (takes : ∀ token ∈ style.startOverrides ++ style.endOverrides, edges.Takes token)
    (body : List Char) : edges.Peels body (style.strip body) := by
  simp only [List.mem_append] at takes
  have start := peels_cutStart blanks (fun token mem => takes token (.inl mem)) (Text.trim body)
  have ends := peels_cutEnd blanks (fun token mem => takes token (.inr mem))
    (style.cutStart (Text.trim body))
  exact ((peels_trim blanks body).trans start).trans ends

end TrimStyle

end MappedSql
