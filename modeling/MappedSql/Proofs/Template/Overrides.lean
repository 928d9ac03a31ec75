import Mathlib.Data.List.DropRight
import MappedSql.Proofs.Text.Slicing
import MappedSql.Proofs.Text.Trimming
import MappedSql.Template.Trim

/-!
# Overrides

An override is matched at the end of a trimmed text with its blanks or without them, so the blanks
make no difference: what is taken is the letters of the first override that end the last word
(`TrimStyle.strip_of_letters`). Stripping keeps words whole exactly as long as these letters are the
word.

For any overrides, stripping takes blanks, one override from the start of a text and then one from the
end of what is left, each the first in its list that is found there in either case
(`TrimStyle.strip_takes`). The same is done by slices at the byte sizes of override tokens, and no
slice leaves the text or divides a character, since raising a letter keeps its size
(`TrimStyle.stripAt?_eq`).
-/

namespace MappedSql

namespace Text

/-! ## Letters in either case -/

theorem toUpper_eq_self_or (c : Char) : c.toUpper = c ∨ ∃ k < 26, c = Char.ofNat (97 + k) := by
  unfold Char.toUpper
  split
  next lower =>
    obtain ⟨low, high⟩ := lower
    change 97 ≤ c.toNat at low
    change c.toNat ≤ 122 at high
    refine .inr ⟨c.toNat - 97, by omega, ?_⟩
    rw [Nat.add_sub_of_le low, Char.ofNat_toNat]
  next => exact .inl rfl

theorem toUpper_toUpper (c : Char) : c.toUpper.toUpper = c.toUpper := by
  rcases toUpper_eq_self_or c with same | ⟨k, below, rfl⟩
  · rw [same, same]
  · exact (by decide : ∀ k < 26, (Char.ofNat (97 + k)).toUpper.toUpper =
      (Char.ofNat (97 + k)).toUpper) k below

theorem isBlank_toUpper (c : Char) : isBlank c.toUpper = isBlank c := by
  rcases toUpper_eq_self_or c with same | ⟨k, below, rfl⟩
  · rw [same]
  · exact (by decide : ∀ k < 26, isBlank (Char.ofNat (97 + k)).toUpper =
      isBlank (Char.ofNat (97 + k))) k below

theorem isAlpha_toUpper (c : Char) : c.toUpper.isAlpha = c.isAlpha := by
  rcases toUpper_eq_self_or c with same | ⟨k, below, rfl⟩
  · rw [same]
  · exact (by decide : ∀ k < 26, (Char.ofNat (97 + k)).toUpper.isAlpha =
      (Char.ofNat (97 + k)).isAlpha) k below

theorem trim_map_toUpper (cs : List Char) :
    trim (cs.map Char.toUpper) = (trim cs).map Char.toUpper := by
  have blind : isBlank ∘ Char.toUpper = isBlank := funext isBlank_toUpper
  simp only [trim, trimEnd, dropEndWhile, trimStart, List.dropWhile_map, blind, ← List.map_reverse]

theorem utf8Size_toUpper (c : Char) : c.toUpper.utf8Size = c.utf8Size := by
  rcases toUpper_eq_self_or c with same | ⟨k, below, rfl⟩
  · rw [same]
  · exact (by decide : ∀ k < 26, (Char.ofNat (97 + k)).toUpper.utf8Size =
      (Char.ofNat (97 + k)).utf8Size) k below

theorem size_map_toUpper (cs : List Char) : size (cs.map Char.toUpper) = size cs := by
  induction cs with
  | nil => rfl
  | cons c rest ih => rw [List.map_cons, size_cons, size_cons, ih, utf8Size_toUpper]

/-! ## Words -/

def inWord (c : Char) : Bool :=
  isLetterOrNumber c || c == '_'

def lastWord (cs : List Char) : List Char :=
  cs.rtakeWhile inWord

def SameLetters (a b : List Char) : Prop :=
  a.map Char.toUpper = b.map Char.toUpper

instance (a b : List Char) : Decidable (SameLetters a b) :=
  inferInstanceAs (Decidable (_ = _))

def EndsIn (letters cs : List Char) : Prop :=
  letters.map Char.toUpper <:+ cs.map Char.toUpper

instance (letters cs : List Char) : Decidable (EndsIn letters cs) :=
  inferInstanceAs (Decidable (_ <:+ _))

def StartsIn (letters cs : List Char) : Prop :=
  letters.map Char.toUpper <+: cs.map Char.toUpper

instance (letters cs : List Char) : Decidable (StartsIn letters cs) :=
  inferInstanceAs (Decidable (_ <+: _))

theorem isBlank_of_inWord {c : Char} (within : inWord c) : isBlank c = false := by
  by_contra blank
  rw [Bool.not_eq_false] at blank
  have underscore : c ≠ '_' := by
    rintro rfl
    contradiction
  simp [inWord, (isLetterOrNumber_of_isBlank blank).2, underscore] at within

theorem inWord_of_isAlpha {c : Char} (letter : c.isAlpha) : inWord c := by
  simp [inWord, isLetterOrNumber_of_isAlphanum, Char.isAlphanum, letter]

theorem endsIn_iff {letters cs : List Char} :
    EndsIn letters cs ↔ ∃ front taken, cs = front ++ taken ∧ SameLetters letters taken := by
  constructor
  · rintro ⟨front, split⟩
    obtain ⟨front, taken, rfl, -, same⟩ := List.map_eq_append_iff.1 split.symm
    exact ⟨front, taken, rfl, same.symm⟩
  · rintro ⟨front, taken, rfl, same⟩
    exact ⟨front.map Char.toUpper, by rw [same, List.map_append]⟩

theorem SameLetters.length_eq {a b : List Char} (same : SameLetters a b) : a.length = b.length := by
  simpa using congrArg List.length same

theorem SameLetters.forall_of {p : Char → Bool} (blind : ∀ c : Char, p c.toUpper = p c)
    {a b : List Char} (same : SameLetters a b) (each : ∀ c ∈ a, p c) : ∀ c ∈ b, p c := by
  intro c mem
  have among : c.toUpper ∈ a.map Char.toUpper := same ▸ List.mem_map_of_mem mem
  obtain ⟨d, member, upper⟩ := List.mem_map.1 among
  rw [← blind c, ← upper, blind d]
  exact each d member

theorem lastWord_append {front taken : List Char} (within : ∀ c ∈ taken, inWord c) :
    lastWord (front ++ taken) = lastWord front ++ taken := by
  rw [lastWord, List.rtakeWhile, List.reverse_append, List.takeWhile_append_of_pos (by simpa)]
  simp [lastWord, List.rtakeWhile]

theorem endsIn_lastWord_iff {letters : List Char} (alphabetic : ∀ c ∈ letters, c.isAlpha)
    {cs : List Char} : EndsIn letters (lastWord cs) ↔ EndsIn letters cs := by
  constructor
  · exact fun ends => ends.trans (List.rtakeWhile_suffix inWord cs |>.map Char.toUpper)
  · intro ends
    obtain ⟨front, taken, rfl, same⟩ := endsIn_iff.1 ends
    have within : ∀ c ∈ taken, inWord c := fun c mem =>
      inWord_of_isAlpha (same.forall_of isAlpha_toUpper alphabetic c mem)
    exact endsIn_iff.2 ⟨lastWord front, taken, lastWord_append within, same⟩

theorem trimEnd_trim (cs : List Char) : trimEnd (trim cs) = trim cs :=
  List.rdropWhile_idempotent isBlank _

theorem eq_nil_of_trimEnd {front blank : List Char} (blanks : ∀ c ∈ blank, isBlank c)
    (ended : trimEnd (front ++ blank) = front ++ blank) : blank = [] := by
  rw [trimEnd_append blanks] at ended
  have shorter : (trimEnd front).length ≤ front.length :=
    (List.rdropWhile_prefix isBlank front).length_le
  have lengths := congrArg List.length ended
  rw [List.length_append] at lengths
  exact List.eq_nil_of_length_eq_zero (by omega)

end Text

namespace TrimStyle

open Text (EndsIn SameLetters lastWord inWord)

def letters (token : String) : List Char :=
  Text.trim token.toList

/-- An override that is a word, with any blanks around it. -/
structure IsLettered (token : String) : Prop where
  nonempty : letters token ≠ []
  alphabetic : ∀ c ∈ letters token, c.isAlpha

instance (token : String) : Decidable (IsLettered token) :=
  decidable_of_iff (letters token ≠ [] ∧ (letters token).all Char.isAlpha)
    ⟨fun ⟨nonempty, each⟩ => ⟨nonempty, List.all_eq_true.1 each⟩,
      fun lettered => ⟨lettered.nonempty, List.all_eq_true.2 lettered.alphabetic⟩⟩

def endToken? (tokens : List String) (word : List Char) : Option String :=
  tokens.find? fun token => EndsIn (letters token) word

def IsRaised (token : String) : Prop :=
  ∀ c ∈ token.toList, c.toUpper = c

theorem isRaised_of_mem {overrides token : String} (mem : token ∈ readOverrides overrides) :
    IsRaised token := by
  obtain ⟨piece, -, rfl⟩ := List.mem_map.1 mem
  intro c among
  obtain ⟨d, -, rfl⟩ := List.mem_map.1 (by simpa [Text.raised] using among)
  exact Text.toUpper_toUpper d

theorem IsRaised.isSuffixIgnoringCase_iff {token : String} (raised : IsRaised token)
    {part text : List Char} (among : ∀ c ∈ part, c ∈ token.toList) :
    isSuffixIgnoringCase part text ↔ EndsIn part text := by
  have same : part.map Char.toUpper = part := by
    simpa using List.map_congr_left fun c mem => raised c (among c mem)
  rw [isSuffixIgnoringCase, List.isSuffixOf_iff_suffix, EndsIn, same]

section

variable {text : List Char} (ended : Text.trimEnd text = text)
include ended

theorem trimEnd_take_of_endsIn {token : List Char} (ends : EndsIn token text) :
    EndsIn (Text.trim token) text ∧ Text.trimEnd (text.take (text.length - token.length)) =
      Text.trimEnd (text.rdrop (Text.trim token).length) := by
  obtain ⟨front, taken, rfl, same⟩ := Text.endsIn_iff.1 ends
  obtain ⟨a, b, split, blankLeft, blankRight⟩ := Text.exists_trim token
  obtain ⟨left, behind, rfl, sameLeft, sameRight⟩ := List.map_eq_append_iff.1
    (same.symm.trans (by rw [split, List.map_append]))
  obtain ⟨before, word, rfl, sameBefore, sameWord⟩ := List.map_eq_append_iff.1
    (sameLeft.trans List.map_append)
  have blankBefore := SameLetters.forall_of Text.isBlank_toUpper sameBefore.symm blankLeft
  have blankBehind := SameLetters.forall_of Text.isBlank_toUpper sameRight.symm blankRight
  obtain rfl : behind = [] := by
    refine @Text.eq_nil_of_trimEnd (front ++ (before ++ word)) _ blankBehind ?_
    simpa using ended
  have length : (Text.trim token).length = word.length := SameLetters.length_eq sameWord.symm
  refine ⟨Text.endsIn_iff.2 ⟨front ++ before, word, by simp, sameWord.symm⟩, ?_⟩
  have taken : (front ++ (before ++ word ++ [])).take
      ((front ++ (before ++ word ++ [])).length - token.length) = front := by
    rw [same.length_eq, List.length_append, Nat.add_sub_cancel, List.take_left]
  have dropped : (front ++ (before ++ word ++ [])).rdrop (Text.trim token).length =
      front ++ before := by
    rw [length, List.append_nil, ← List.append_assoc, List.rdrop, List.length_append,
      Nat.add_sub_cancel, List.take_left]
  rw [taken, dropped, Text.trimEnd_append blankBefore]

theorem endLength?_of_lettered {token : String} (raised : IsRaised token)
    (lettered : IsLettered token) :
    (endLength? text token).map (fun length => Text.trimEnd (text.take (text.length - length))) =
      if EndsIn (letters token) text then
        some (Text.trimEnd (text.rdrop (letters token).length))
      else none := by
  have unfolded : endLength? text token =
      if isSuffixIgnoringCase token.toList text then some token.length
      else if !(letters token).isEmpty && isSuffixIgnoringCase (letters token) text then
        some (letters token).length
      else none := rfl
  have padded : isSuffixIgnoringCase token.toList text ↔ EndsIn token.toList text :=
    raised.isSuffixIgnoringCase_iff fun _ mem => mem
  have bare : isSuffixIgnoringCase (letters token) text ↔ EndsIn (letters token) text := by
    refine raised.isSuffixIgnoringCase_iff fun c mem => ?_
    obtain ⟨a, b, split, -, -⟩ := Text.exists_trim token.toList
    rw [split]
    exact List.mem_append_left b (List.mem_append_right a mem)
  rw [unfolded]
  by_cases whole : EndsIn token.toList text
  · obtain ⟨ends, same⟩ := trimEnd_take_of_endsIn ended whole
    rw [if_pos (padded.2 whole), Option.map_some, ← String.length_toList, same, letters,
      if_pos ends]
  · rw [if_neg (mt padded.1 whole)]
    by_cases ends : EndsIn (letters token) text
    · simp [lettered.nonempty, bare.2 ends, ends, List.rdrop]
    · simp [mt bare.1 ends, ends]

end

theorem cutEnd_of_lettered {style : TrimStyle}
    (raised : ∀ token ∈ style.endOverrides, IsRaised token)
    (lettered : ∀ token ∈ style.endOverrides, IsLettered token) {text : List Char}
    (ended : Text.trimEnd text = text) :
    style.cutEnd text = match endToken? style.endOverrides (lastWord text) with
      | some token => Text.trimEnd (text.rdrop (letters token).length)
      | none => text := by
  have found : (style.endOverrides.findSome? (endLength? text)).map
        (fun length => Text.trimEnd (text.take (text.length - length))) =
      (endToken? style.endOverrides (lastWord text)).map
        fun token => Text.trimEnd (text.rdrop (letters token).length) := by
    unfold endToken?
    generalize style.endOverrides = tokens at raised lettered
    induction tokens with
    | nil => rfl
    | cons token rest ih =>
      rw [List.forall_mem_cons] at raised lettered
      have first := endLength?_of_lettered ended raised.1 lettered.1
      have ends : EndsIn (letters token) (lastWord text) ↔ EndsIn (letters token) text :=
        Text.endsIn_lastWord_iff lettered.1.alphabetic
      rw [List.findSome?_cons, List.find?_cons]
      by_cases took : EndsIn (letters token) text
      · rw [if_pos took, Option.map_eq_some_iff] at first
        obtain ⟨length, matched, same⟩ := first
        simp [matched, same, ends.2 took]
      · rw [if_neg took, Option.map_eq_none_iff] at first
        simp [first, mt ends.1 took, ih raised.2 lettered.2]
  unfold cutEnd
  cases ran : style.endOverrides.findSome? (endLength? text) <;>
    cases took : endToken? style.endOverrides (lastWord text) <;>
    simp_all

/-- Stripping takes blanks only, or also the last word as a whole, which an override is. -/
def KeepsWords (style : TrimStyle) (body : List Char) : Prop :=
  style.strip body = Text.trim body ∨
    (∃ token ∈ style.endOverrides, SameLetters (letters token) (lastWord (Text.trim body))) ∧
      style.strip body = Text.trimEnd ((Text.trim body).rdropWhile inWord)

instance (style : TrimStyle) (body : List Char) : Decidable (style.KeepsWords body) :=
  inferInstanceAs (Decidable (_ ∨ _ ∧ _))

section

variable {text front taken : List Char} (word : lastWord text = front ++ taken)
include word

theorem rdropWhile_append_word : text.rdropWhile inWord ++ front ++ taken = text := by
  rw [List.append_assoc, ← word]
  exact List.rdropWhile_append_rtakeWhile

theorem rdrop_append_word : text.rdrop taken.length = text.rdropWhile inWord ++ front := by
  conv_lhs => rw [← rdropWhile_append_word word]
  rw [List.rdrop, List.length_append, Nat.add_sub_cancel, List.take_left]

end

theorem trimEnd_append_word {cs front : List Char} (within : ∀ c ∈ front, inWord c)
    (nonempty : front ≠ []) : Text.trimEnd (cs ++ front) = cs ++ front := by
  refine Text.trimEnd_of_visible_last fun c last => ?_
  rw [List.getLast?_append_of_ne_nil _ nonempty] at last
  exact Text.isBlank_of_inWord (within c (List.mem_of_getLast? last))

theorem keepsWords_iff {style : TrimStyle} {text : List Char} {token : String}
    (lettered : IsLettered token)
    (found : endToken? style.endOverrides (lastWord text) = some token) :
    (Text.trimEnd (text.rdrop (letters token).length) = text ∨
      (∃ token ∈ style.endOverrides, SameLetters (letters token) (lastWord text)) ∧
        Text.trimEnd (text.rdrop (letters token).length) =
          Text.trimEnd (text.rdropWhile inWord)) ↔
    SameLetters (letters token) (lastWord text) := by
  obtain ⟨front, taken, word, same⟩ := Text.endsIn_iff.1
    (by simpa using List.find?_some found : EndsIn (letters token) (lastWord text))
  have within : ∀ c ∈ front, inWord c := fun c mem =>
    List.mem_rtakeWhile_imp (word ▸ List.mem_append_left taken mem)
  have split := rdropWhile_append_word word
  have nonempty : taken ≠ [] := by
    rw [← List.length_pos_iff_ne_nil, ← same.length_eq]
    exact List.length_pos_iff_ne_nil.2 lettered.nonempty
  rw [same.length_eq, rdrop_append_word word]
  constructor
  · intro kept
    by_cases whole : front = []
    · rwa [word, whole]
    · -- letters of the word are left, so it is neither untouched nor gone
      exfalso
      rw [trimEnd_append_word within whole] at kept
      rcases kept with untouched | ⟨-, gone⟩
      · exact nonempty (by simpa using untouched.trans split.symm)
      · have shorter : (text.rdropWhile inWord ++ front).length ≤
            (text.rdropWhile inWord).length := by
          rw [gone]
          exact (List.rdropWhile_prefix Text.isBlank _).length_le
        rw [List.length_append] at shorter
        exact whole (List.eq_nil_of_length_eq_zero (by omega))
  · intro whole
    have none : front = [] := by
      have lengths := whole.length_eq
      rw [word, List.length_append, ← same.length_eq] at lengths
      exact List.eq_nil_of_length_eq_zero (by omega)
    rw [none, List.append_nil]
    exact .inr ⟨⟨token, List.mem_of_find?_eq_some found, whole⟩, rfl⟩

/-- With words as overrides, what is left is the trimmed text without the letters of the first
override that end its last word, and words are kept whole exactly if these letters are that word. -/
theorem strip_of_letters {style : TrimStyle} {overrides : String}
    (starts : style.startOverrides = []) (ends : style.endOverrides = readOverrides overrides)
    (lettered : ∀ token ∈ readOverrides overrides, IsLettered token) (body : List Char) :
    (style.strip body = match endToken? style.endOverrides (lastWord (Text.trim body)) with
      | some token => Text.trimEnd ((Text.trim body).rdrop (letters token).length)
      | none => Text.trim body) ∧
    (style.KeepsWords body ↔
      ∀ token, endToken? style.endOverrides (lastWord (Text.trim body)) = some token →
        SameLetters (letters token) (lastWord (Text.trim body))) := by
  have raised : ∀ token ∈ style.endOverrides, IsRaised token := fun token mem =>
    isRaised_of_mem (ends ▸ mem)
  rw [← ends] at lettered
  have uncut : style.cutStart (Text.trim body) = Text.trim body := by
    simp [cutStart, starts]
  have stripped := cutEnd_of_lettered raised lettered (Text.trimEnd_trim body)
  rw [← uncut] at stripped
  change style.strip body = _ at stripped
  rw [uncut] at stripped
  refine ⟨stripped, ?_⟩
  rw [KeepsWords, stripped]
  cases found : endToken? style.endOverrides (lastWord (Text.trim body)) with
  | none => simp
  | some token =>
    have known := lettered token (List.mem_of_find?_eq_some found)
    simpa using keepsWords_iff known found

def withoutConnectives : TrimStyle where
  before := some "WHERE"
  endOverrides := readOverrides " AND |OR "

theorem strip_of_letters_connective :
    (∀ token ∈ readOverrides " AND |OR ", IsLettered token) ∧
    withoutConnectives.strip " name = brand\t or\n".toList = "name = brand".toList ∧
    withoutConnectives.KeepsWords " name = brand\t or\n".toList := by
  have lettered : ∀ token ∈ readOverrides " AND |OR ", IsLettered token := by decide
  have stripped := @strip_of_letters withoutConnectives _ rfl rfl lettered
    " name = brand\t or\n".toList
  exact ⟨lettered, stripped.1.trans (by decide +kernel), stripped.2.2 (by decide +kernel)⟩

theorem exists_not_keepsWords : ∃ style : TrimStyle, style.startOverrides = [] ∧
    style.endOverrides = readOverrides " AND |OR " ∧
    (∀ token ∈ style.endOverrides, IsLettered token ∧ letters token ≠ token.toList) ∧
    style.strip "price > brand".toList = "price > br".toList ∧
    ¬style.KeepsWords "price > brand".toList :=
  ⟨withoutConnectives, by decide +kernel⟩

end TrimStyle
namespace TrimStyle

open Text (EndsIn SameLetters StartsIn size slice?)

/-! ## Stripping by byte offsets -/

def raisedStartsWith (text token : String) : Bool :=
  token.toList.isPrefixOf (Text.raised text).toList

def raisedEndsWith (text token : String) : Bool :=
  token.toList.isSuffixOf (Text.raised text).toList

/-- Cuts the bytes of a token from the start of a text, and the blanks behind them. -/
def cutStartAt? (style : TrimStyle) (text : String) : Option String :=
  match style.startOverrides.find? (raisedStartsWith text) with
  | some token =>
      (slice? text token.utf8ByteSize text.utf8ByteSize).map fun rest =>
        String.ofList (Text.trimStart rest.toList)
  | none => some text

def endSize? (text token : String) : Option Nat :=
  let bare := Text.trimmed token
  if raisedEndsWith text token then some token.utf8ByteSize
  else if bare ≠ "" ∧ raisedEndsWith text bare then some bare.utf8ByteSize
  else none

/-- Cuts the bytes of a token from the end of a text, of which there must be so many, and the blanks
before them. -/
def cutEndAt? (style : TrimStyle) (text : String) : Option String :=
  match style.endOverrides.findSome? (endSize? text) with
  | some bytes =>
      if bytes ≤ text.utf8ByteSize then
        (slice? text 0 (text.utf8ByteSize - bytes)).map fun front =>
          String.ofList (Text.trimEnd front.toList)
      else none
  | none => some text

def stripAt? (style : TrimStyle) (body : String) : Option String :=
  (style.cutStartAt? (Text.trimmed body)).bind style.cutEndAt?

/-! ## What is cut -/

def endForm? (text : List Char) (token : String) : Option (List Char) :=
  let bare := Text.trim token.toList
  if isSuffixIgnoringCase token.toList text then some token.toList
  else if !bare.isEmpty && isSuffixIgnoringCase bare text then some bare
  else none

theorem endLength?_eq (text : List Char) :
    endLength? text = Option.map List.length ∘ endForm? text := by
  funext token
  simp only [endLength?, Function.comp_apply, endForm?]
  split
  · rw [Option.map_some, String.length_toList]
  · split <;> rfl

theorem exists_of_endForm? {text form : List Char} {token : String}
    (found : endForm? text token = some form) :
    ∃ front finish, text = front ++ finish ∧ finish.map Char.toUpper = form := by
  have ends : isSuffixIgnoringCase form text := by
    simp only [endForm?] at found
    split at found
    next padded => exact Option.some.inj found ▸ padded
    next =>
      split at found
      next bare =>
        rw [Bool.and_eq_true] at bare
        exact Option.some.inj found ▸ bare.2
      next => cases found
  obtain ⟨front, split⟩ := List.isSuffixOf_iff_suffix.1 ends
  obtain ⟨front, finish, rfl, -, same⟩ := List.map_eq_append_iff.1 split.symm
  exact ⟨front, finish, rfl, same⟩

section

variable (style : TrimStyle) (text : List Char)

theorem cutStart_cases :
    style.startOverrides.find? (fun token => isPrefixIgnoringCase token text) = none ∧
      style.cutStart text = text ∨
    ∃ token start rest,
      style.startOverrides.find? (fun token => isPrefixIgnoringCase token text) = some token ∧
      text = start ++ rest ∧ start.map Char.toUpper = token.toList ∧
      style.cutStart text = Text.trimStart rest := by
  unfold cutStart
  cases found : style.startOverrides.find? (fun token => isPrefixIgnoringCase token text) with
  | none => exact .inl ⟨rfl, rfl⟩
  | some token =>
    have starts : isPrefixIgnoringCase token text := by simpa using List.find?_some found
    obtain ⟨rest, split⟩ := List.isPrefixOf_iff_prefix.1 starts
    obtain ⟨start, rest, rfl, same, -⟩ := List.map_eq_append_iff.1 split.symm
    have length : token.length = start.length := by
      rw [← String.length_toList, ← same, List.length_map]
    refine .inr ⟨token, start, rest, rfl, rfl, same, ?_⟩
    simp only [length, List.drop_left]

theorem cutEnd_cases :
    style.endOverrides.findSome? (endForm? text) = none ∧ style.cutEnd text = text ∨
    ∃ form front finish, style.endOverrides.findSome? (endForm? text) = some form ∧
      text = front ++ finish ∧ finish.map Char.toUpper = form ∧
      style.cutEnd text = Text.trimEnd front := by
  unfold cutEnd
  rw [endLength?_eq, ← List.map_findSome?]
  cases found : style.endOverrides.findSome? (endForm? text) with
  | none => exact .inl ⟨rfl, rfl⟩
  | some form =>
    obtain ⟨token, -, matched⟩ := List.exists_of_findSome?_eq_some found
    obtain ⟨front, finish, rfl, same⟩ := exists_of_endForm? matched
    refine .inr ⟨form, front, finish, rfl, rfl, same, ?_⟩
    simp only [Option.map_some, ← same, List.length_map, List.length_append, Nat.add_sub_cancel,
      List.take_left]

end

/-! ## Slices within the text -/

theorem toList_raised (text : String) :
    (Text.raised text).toList = text.toList.map Char.toUpper :=
  String.toList_ofList

theorem raisedStartsWith_eq (text : String) :
    raisedStartsWith text = fun token => isPrefixIgnoringCase token text.toList := by
  funext token
  rw [raisedStartsWith, toList_raised]
  rfl

theorem raisedEndsWith_eq (text token : String) :
    raisedEndsWith text token = isSuffixIgnoringCase token.toList text.toList := by
  rw [raisedEndsWith, toList_raised]
  rfl

theorem endSize?_eq (text : String) :
    endSize? text = Option.map size ∘ endForm? text.toList := by
  funext token
  have bare : Text.trimmed token ≠ "" ↔ (!(Text.trim token.toList).isEmpty) = true := by
    rw [Text.trimmed, ← String.toList_inj.ne, String.toList_ofList]
    simp
  simp only [endSize?, Function.comp_apply, endForm?, raisedEndsWith_eq, bare, ← Bool.and_eq_true]
  rw [Text.trimmed, String.toList_ofList]
  split
  · rw [Option.map_some, Text.size_toList]
  · split <;> rfl

theorem cutStartAt?_eq (style : TrimStyle) (text : String) :
    style.cutStartAt? text = some (String.ofList (style.cutStart text.toList)) := by
  rw [cutStartAt?, raisedStartsWith_eq]
  rcases style.cutStart_cases text.toList with
    ⟨none, same⟩ | ⟨token, start, rest, found, split, same, cut⟩
  · rw [none, same, String.ofList_toList]
  · have bytes : token.utf8ByteSize = size start := by
      rw [← Text.size_toList, ← same, Text.size_map_toUpper]
    rw [found, cut]
    simp only [bytes, Text.slice?_from split, Option.map_some, String.toList_ofList]

theorem cutEndAt?_eq (style : TrimStyle) (text : String) :
    style.cutEndAt? text = some (String.ofList (style.cutEnd text.toList)) := by
  rw [cutEndAt?, endSize?_eq, ← List.map_findSome?]
  rcases style.cutEnd_cases text.toList with
    ⟨none, same⟩ | ⟨form, front, finish, found, split, same, cut⟩
  · rw [none, same, String.ofList_toList]
    rfl
  · have bytes : text.utf8ByteSize = size front + size form := by
      rw [← Text.size_toList, split, Text.size_append, ← same, Text.size_map_toUpper]
    rw [found, cut]
    simp only [Option.map_some, bytes, Nat.le_add_left, if_true, Nat.add_sub_cancel,
      Text.slice?_upTo split, String.toList_ofList]

theorem stripAt?_eq (style : TrimStyle) (body : String) :
    style.stripAt? body = some (String.ofList (style.strip body.toList)) := by
  rw [stripAt?, cutStartAt?_eq, Option.bind_some, cutEndAt?_eq, String.toList_ofList, Text.trimmed,
    String.toList_ofList]
  rfl

/-! ## Which override is taken -/

/-- The overrides of a list separated by bars, as they are written. -/
def overrideTokens (overrides : String) : List (List Char) :=
  (overrides.toList.splitOn '|').filter (· ≠ [])

theorem readOverrides_eq (overrides : String) : readOverrides overrides =
    (overrideTokens overrides).map fun token => Text.raised (String.ofList token) := by
  rw [readOverrides, Text.splitAtChar_eq_splitOn, overrideTokens]
  refine congrArg _ (List.filter_congr fun token _ => ?_)
  cases token <;> rfl

def startPart? (tokens : List (List Char)) (text : List Char) : Option (List Char) :=
  tokens.find? fun token => StartsIn token text

/-- The first override that a text ends in, or its bare form if the text ends in that only. -/
def endPart? (tokens : List (List Char)) (text : List Char) : Option (List Char) :=
  tokens.findSome? fun token =>
    if EndsIn token text then some token
    else if Text.trim token ≠ [] ∧ EndsIn (Text.trim token) text then some (Text.trim token)
    else none

def withOverrides (style : TrimStyle) (starts ends : String) : TrimStyle :=
  { style with startOverrides := readOverrides starts, endOverrides := readOverrides ends }

section

variable (style : TrimStyle) (starts ends : String) (text : List Char)

theorem find?_startOverrides :
    (style.withOverrides starts ends).startOverrides.find?
        (fun token => isPrefixIgnoringCase token text) =
      (startPart? (overrideTokens starts) text).map fun token =>
        Text.raised (String.ofList token) := by
  change (readOverrides starts).find? _ = _
  rw [readOverrides_eq, List.find?_map, startPart?]
  refine congrArg (fun test => Option.map _ (List.find? test _)) (funext fun token => ?_)
  rw [Function.comp_apply, isPrefixIgnoringCase, toList_raised, String.toList_ofList,
    Bool.eq_iff_iff, List.isPrefixOf_iff_prefix, decide_eq_true_iff, StartsIn]

theorem findSome?_endOverrides :
    (style.withOverrides starts ends).endOverrides.findSome? (endForm? text) =
      (endPart? (overrideTokens ends) text).map (List.map Char.toUpper) := by
  change (readOverrides ends).findSome? _ = _
  rw [readOverrides_eq, List.findSome?_map, endPart?, List.map_findSome?]
  refine congrArg (fun form => List.findSome? form _) (funext fun token => ?_)
  have bare : (!((Text.trim token).map Char.toUpper).isEmpty &&
        isSuffixIgnoringCase ((Text.trim token).map Char.toUpper) text) = true ↔
      Text.trim token ≠ [] ∧ EndsIn (Text.trim token) text := by
    rw [Bool.and_eq_true, isSuffixIgnoringCase, List.isSuffixOf_iff_suffix]
    simp [EndsIn]
  have padded : isSuffixIgnoringCase (token.map Char.toUpper) text = true ↔ EndsIn token text :=
    List.isSuffixOf_iff_suffix
  simp only [Function.comp_apply, endForm?, toList_raised, String.toList_ofList,
    Text.trim_map_toUpper, padded, bare]
  split
  · rfl
  · split <;> rfl

/-! ## What is left -/

theorem exists_cutStart_withOverrides : ∃ start gap,
    text = start ++ gap ++ (style.withOverrides starts ends).cutStart text ∧
    (∀ c ∈ gap, Text.isBlank c) ∧
    SameLetters ((startPart? (overrideTokens starts) text).getD []) start := by
  have search := style.find?_startOverrides starts ends text
  rcases (style.withOverrides starts ends).cutStart_cases text with
    ⟨none, same⟩ | ⟨token, start, rest, found, split, same, cut⟩
  · rw [eq_comm, none, Option.map_eq_none_iff] at search
    exact ⟨[], [], same.symm, by simp, by rw [search]; rfl⟩
  · rw [eq_comm, found, Option.map_eq_some_iff] at search
    obtain ⟨written, first, rfl⟩ := search
    obtain ⟨gap, trimmed, blank⟩ := Text.exists_trimStart rest
    refine ⟨start, gap, ?_, blank, ?_⟩
    · rw [cut, List.append_assoc, ← trimmed]
      exact split
    · rw [first, Option.getD_some, SameLetters, same, toList_raised, String.toList_ofList]

theorem exists_cutEnd_withOverrides : ∃ room finish,
    text = (style.withOverrides starts ends).cutEnd text ++ room ++ finish ∧
    (∀ c ∈ room, Text.isBlank c) ∧
    SameLetters ((endPart? (overrideTokens ends) text).getD []) finish := by
  have search := style.findSome?_endOverrides starts ends text
  rcases (style.withOverrides starts ends).cutEnd_cases text with
    ⟨none, same⟩ | ⟨form, front, finish, found, split, same, cut⟩
  · rw [eq_comm, none, Option.map_eq_none_iff] at search
    exact ⟨[], [], by simp [same], by simp, by rw [search]; rfl⟩
  · rw [eq_comm, found, Option.map_eq_some_iff] at search
    obtain ⟨written, first, raised⟩ := search
    obtain ⟨room, trimmed, blank⟩ := Text.exists_trimEnd front
    refine ⟨room, finish, ?_, blank, ?_⟩
    · rw [cut, ← trimmed]
      exact split
    · rw [first, Option.getD_some, SameLetters, same, raised]

end

theorem isTrimmed_cutStart {style : TrimStyle} {text : List Char} (ends : Text.IsTrimmed text) :
    Text.IsTrimmed (style.cutStart text) := by
  rcases style.cutStart_cases text with ⟨-, same⟩ | ⟨token, start, rest, -, rfl, -, cut⟩
  · rwa [same]
  · rw [cut]
    obtain ⟨gap, split, -⟩ := Text.exists_trimStart rest
    refine ⟨Text.visible_head?_trimStart rest, fun c last => ends.2 c ?_⟩
    rw [split, ← List.append_assoc]
    exact List.mem_getLast?_append_of_mem_getLast? last

theorem isTrimmed_cutEnd {style : TrimStyle} {text : List Char} (ends : Text.IsTrimmed text) :
    Text.IsTrimmed (style.cutEnd text) := by
  rcases style.cutEnd_cases text with ⟨-, same⟩ | ⟨form, front, finish, -, rfl, -, cut⟩
  · rwa [same]
  · rw [cut]
    obtain ⟨room, split, -⟩ := Text.exists_trimEnd front
    refine ⟨fun c first => ends.1 c ?_, Text.visible_getLast?_trimEnd front⟩
    rw [split, List.append_assoc]
    exact List.mem_head?_append_of_mem_head? first

/-- Stripping by byte offsets stays within the text, and what it leaves is a part of the text without
blanks at its ends. Beside blanks, it takes the first override that the trimmed text begins with, and
then the first one that the rest ends in. -/
theorem strip_takes (style : TrimStyle) (starts ends body : String) :
    ∃ left start gap kept room finish right : List Char,
      body.toList = left ++ start ++ gap ++ kept ++ room ++ finish ++ right ∧
      Text.trim body.toList = start ++ gap ++ kept ++ room ++ finish ∧
      (∀ c ∈ left ++ gap ++ room ++ right, Text.isBlank c) ∧
      SameLetters ((startPart? (overrideTokens starts) (Text.trim body.toList)).getD []) start ∧
      SameLetters ((endPart? (overrideTokens ends) (kept ++ room ++ finish)).getD []) finish ∧
      Text.IsTrimmed kept ∧
      (style.withOverrides starts ends).strip body.toList = kept ∧
      (style.withOverrides starts ends).stripAt? body = some (String.ofList kept) := by
  obtain ⟨left, right, whole, blankLeft, blankRight⟩ := Text.exists_trim body.toList
  obtain ⟨start, gap, front, blankGap, sameStart⟩ :=
    style.exists_cutStart_withOverrides starts ends (Text.trim body.toList)
  obtain ⟨room, finish, back, blankRoom, sameFinish⟩ := style.exists_cutEnd_withOverrides starts ends
    ((style.withOverrides starts ends).cutStart (Text.trim body.toList))
  have middle : Text.trim body.toList = start ++ gap ++
      (style.withOverrides starts ends).strip body.toList ++ room ++ finish := by
    rw [List.append_assoc _ room, List.append_assoc, ← List.append_assoc _ room]
    exact front.trans (congrArg _ back)
  refine ⟨left, start, gap, (style.withOverrides starts ends).strip body.toList, room, finish, right,
    ?_, middle, ?_, sameStart, ?_, isTrimmed_cutEnd (isTrimmed_cutStart (Text.isTrimmed_trim _)), rfl,
    stripAt?_eq _ body⟩
  · rw [middle] at whole
    simpa only [List.append_assoc] using whole
  · simp only [List.mem_append]
    rintro c (((mem | mem) | mem) | mem)
    exacts [blankLeft c mem, blankGap c mem, blankRoom c mem, blankRight c mem]
  · exact back ▸ sameFinish

example : (withOverrides {} "AND |OR " " ,").stripAt? " or naïve = 'é',\n" = some "naïve = 'é'" := by
  decide +kernel

end TrimStyle

end MappedSql
