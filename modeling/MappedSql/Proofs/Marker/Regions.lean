import Mathlib.Data.List.Chain
import MappedSql.Proofs.Marker.Lookahead
import MappedSql.Proofs.Placeholder.Alignment
import MappedSql.Proofs.Template.Escapes

/-!
# Shrinking and the regions of SQL

The scanner reads a text in regions: code, quoted texts, comments, and bodies between dollar tags.
Putting one space for every run of blanks leaves each region what and where it was, and each marker,
and only does in every region what it does to the whole text (`regions_finishSql`). The line break
that ends a line comment is a blank, too: a comment that was ended goes on over what followed it.
-/

namespace MappedSql

namespace Marker

/-! ## Regions -/

structure Scanned where
  char : Char
  mode : Mode
  marked : Bool

/-- Reads a text character by character. The first `skip` ones belong to one that was read in the
mode `within`. -/
def scan (within mode : Mode) (skip : Nat) : List Char → List Scanned
  | [] => []
  | c :: rest =>
      if 0 < skip then ⟨c, within, false⟩ :: scan within mode (skip - 1) rest
      else
        let reading := read mode c rest
        ⟨c, mode, reading.marked⟩ :: scan mode reading.mode reading.skip rest

/-- A longest part of a text that is read in one mode. A sign that opens something still belongs to
the code before it, and one that closes it to what it closes. -/
structure Region where
  mode : Mode
  text : List Char
  deriving DecidableEq

def prepend (c : Char) (mode : Mode) : List Region → List Region
  | [] => [⟨mode, [c]⟩]
  | region :: rest =>
      if region.mode = mode then ⟨mode, c :: region.text⟩ :: rest
      else ⟨mode, [c]⟩ :: region :: rest

def gather : List Scanned → List Region
  | [] => []
  | s :: rest => prepend s.char s.mode (gather rest)

def regions (cs : List Char) : List Region :=
  gather (scan .code .code 0 cs)

/-- The contents of the quoted texts, each with the quote that closes it. -/
def quotedTexts (cs : List Char) : List (List Char) :=
  (regions cs).filterMap fun region =>
    match region.mode with
    | .quoted _ => some region.text
    | _ => none

def Region.spaced (region : Region) : Region :=
  { region with text := MappedSql.spaced false region.text }

def LineLast (cs : List Char) : Prop :=
  (regions cs).IsChain fun region _ => region.mode ≠ .lineComment

instance : DecidablePred LineLast := fun cs =>
  inferInstanceAs (Decidable ((regions cs).IsChain _))

def SingleSpaced (text : List Char) : Prop :=
  (∀ c ∈ text, Text.isBlank c → c = ' ') ∧
    text.IsChain fun c d => Text.isBlank c → Text.isBlank d = false

instance : DecidablePred SingleSpaced := fun text =>
  -- not by way of all characters there are, which are finitely many, too
  haveI : Decidable (∀ c ∈ text, Text.isBlank c → c = ' ') := List.decidableBAll _ text
  inferInstanceAs (Decidable ((∀ c ∈ text, _) ∧ text.IsChain _))

variable {within mode : Mode} {skip : Nat} {gap : Bool} {cs : List Char} {scanned : List Scanned}

theorem flags_eq_map_scan (within mode : Mode) (skip : Nat) (cs : List Char) :
    flags mode skip cs = (scan within mode skip cs).map (·.marked) := by
  induction cs generalizing within mode skip with
  | nil => rfl
  | cons c rest ih =>
      rw [flags, scan]
      split
      · exact congrArg (false :: ·) (ih ..)
      · exact congrArg (_ :: ·) (ih ..)

theorem map_char_scan (within mode : Mode) (skip : Nat) (cs : List Char) :
    (scan within mode skip cs).map (·.char) = cs := by
  induction cs generalizing within mode skip with
  | nil => rfl
  | cons c rest ih =>
      rw [scan]
      split
      · exact congrArg (c :: ·) (ih ..)
      · exact congrArg (c :: ·) (ih ..)

theorem scan_within (within other mode : Mode) (cs : List Char) :
    scan within mode 0 cs = scan other mode 0 cs := by
  cases cs <;> rfl

theorem char_of_marked {s : Scanned} (mem : s ∈ scan within mode skip cs) (marked : s.marked) :
    s.char = '?' := by
  have both : cs.zip (flags mode skip cs) =
      (scan within mode skip cs).map fun s => (s.char, s.marked) := by
    rw [flags_eq_map_scan within, ← List.zip_map', map_char_scan]
  have flag : (s.char, true) ∈ cs.zip (flags mode skip cs) := by
    rw [both]
    exact List.mem_map.2 ⟨s, mem, by rw [marked]⟩
  exact marker_of_mem_zip_flags mode skip flag

theorem scan_cons {c : Char} {rest : List Char} : scan within mode 0 (c :: rest) =
    ⟨c, mode, (read mode c rest).marked⟩ ::
      scan mode (read mode c rest).mode (read mode c rest).skip rest :=
  rfl

/-! ## Shrinking what was scanned -/

def shrunk (gap : Bool) : List Scanned → List Scanned
  | [] => []
  | s :: rest =>
      if Text.isBlank s.char then shrunk true rest
      else (gapText gap).map (⟨·, s.mode, false⟩) ++ s :: shrunk false rest

def Unended (scanned : List Scanned) : Prop :=
  ∀ s ∈ scanned, s.mode = .lineComment → s.char ≠ '\n'

theorem takeWhile_squeeze (cs : List Char) :
    (squeeze false cs).takeWhile ahead = cs.takeWhile ahead := by
  induction cs with
  | nil => rfl
  | cons c rest ih =>
      cases blank : Text.isBlank c with
      | true =>
          have stops : ahead ' ' = false := by decide
          have none : ∀ cs, (squeeze true cs).takeWhile ahead = [] := by
            intro cs
            induction cs with
            | nil => rfl
            | cons d cs ih => cases visible : Text.isBlank d <;> simp [squeeze, visible, gapText, stops, ih]
          simp [squeeze, blank, none, ahead_of_isBlank blank]
      | false => simp [squeeze, blank, gapText, List.takeWhile_cons, ih]

theorem read_squeeze (sound : mode.Sound) (c : Char) (rest : List Char) :
    read mode c (squeeze false rest) = read mode c rest :=
  read_congr sound (takeWhile_squeeze rest)

theorem read_blank (sound : mode.Sound) {c : Char} (blank : Text.isBlank c)
    (stays : mode = .lineComment → c ≠ '\n') (rest : List Char) :
    read mode c rest = { mode := mode } :=
  read_idle sound (not_mem_signs_of_isBlank blank) stays

theorem scan_squeeze (sound : mode.Sound) (solid : ∀ d ∈ cs.take skip, ahead d)
    (apart : gap = true → skip = 0) (unended : Unended (scan within mode skip cs)) :
    scan within mode skip (squeeze gap cs) = shrunk gap (scan within mode skip cs) := by
  induction cs generalizing within mode skip gap with
  | nil => rfl
  | cons c rest ih =>
      cases blank : Text.isBlank c with
      | true =>
          -- a blank is no part of a sign, and leaves the mode
          obtain rfl : skip = 0 := by
            by_contra some
            obtain ⟨skip, rfl⟩ := Nat.exists_eq_succ_of_ne_zero some
            have sign := solid c (by simp)
            rw [ahead_of_isBlank blank] at sign
            contradiction
          have stays : mode = .lineComment → c ≠ '\n' := unended ⟨c, mode, _⟩ List.mem_cons_self
          rw [scan_cons, read_blank sound blank stays] at unended ⊢
          rw [squeeze, if_pos blank, shrunk, if_pos blank, scan_within within mode]
          exact ih sound (by simp) (fun _ => rfl)
            fun s mem => unended s (List.mem_cons_of_mem _ mem)
      | false =>
          have never {p : Prop} : false = true → p := Bool.noConfusion
          have visible : scan within mode skip (c :: squeeze false rest) =
              shrunk false (scan within mode skip (c :: rest)) := by
            by_cases inside : 0 < skip
            · obtain ⟨skip, rfl⟩ := Nat.exists_eq_succ_of_ne_zero inside.ne'
              simp only [scan, inside, if_true] at unended ⊢
              rw [ih sound (fun d mem => solid d (by simp_all)) never
                fun s mem => unended s (List.mem_cons_of_mem _ mem)]
              simp [shrunk, blank, gapText]
            · obtain rfl : skip = 0 := Nat.eq_zero_of_not_pos inside
              rw [scan_cons, read_squeeze sound, ih sound.read (ahead_of_mem_skipped sound) never
                fun s mem => unended s (List.mem_cons_of_mem _ mem), scan_cons]
              simp [shrunk, blank, gapText]
          cases gap with
          | false => simpa [squeeze, blank, gapText] using visible
          | true =>
              obtain rfl := apart rfl
              have space : read mode ' ' (c :: squeeze false rest) = { mode := mode } :=
                read_blank sound (by decide) (fun _ => by decide) _
              have split : squeeze true (c :: rest) = ' ' :: c :: squeeze false rest := by
                simp [squeeze, blank, gapText]
              rw [split, scan_cons, space, scan_within mode within, visible, scan_cons]
              simp [shrunk, blank, gapText]

theorem countP_shrunk (unmarked : ∀ s ∈ scanned, Text.isBlank s.char → s.marked = false) :
    (shrunk gap scanned).countP (·.marked) = scanned.countP (·.marked) := by
  induction scanned generalizing gap with
  | nil => rfl
  | cons s rest ih =>
      have others := fun t mem => unmarked t (List.mem_cons_of_mem s mem)
      cases blank : Text.isBlank s.char with
      | true =>
          rw [shrunk, if_pos blank, ih others, List.countP_cons,
            unmarked s List.mem_cons_self blank]
          rfl
      | false =>
          have spaces : ((gapText gap).map (Scanned.mk · s.mode false)).countP (·.marked) = 0 := by
            cases gap <;> rfl
          rw [shrunk, blank, if_neg Bool.false_ne_true, List.countP_append, spaces, Nat.zero_add,
            List.countP_cons, List.countP_cons, ih others]

/-! ## Neighbours -/

theorem getLast?_scan {s : Scanned} (last : s ∈ (scan within mode skip cs).getLast?) :
    s.char ∈ cs.getLast? := by
  rw [← map_char_scan within mode skip cs, List.getLast?_map]
  exact Option.mem_map_of_mem _ last

theorem mode_of_mem_head?_scan {s : Scanned} (next : s ∈ (scan within mode skip cs).head?) :
    s.mode = if 0 < skip then within else mode := by
  cases cs with
  | nil => cases next
  | cons c rest =>
      rw [scan] at next
      split at next
      · next inside =>
          obtain rfl := Option.mem_some.1 next
          rw [if_pos inside]
      · next outside =>
          obtain rfl := Option.mem_some.1 next
          rw [if_neg outside]

theorem scan_steady (sound : mode.Sound) (solid : ∀ d ∈ cs.take skip, ahead d)
    (unended : Unended (scan within mode skip cs)) :
    (scan within mode skip cs).IsChain fun s t => Text.isBlank s.char → t.mode = s.mode := by
  induction cs generalizing within mode skip with
  | nil => exact .nil
  | cons c rest ih =>
      by_cases inside : 0 < skip
      · obtain ⟨skip, rfl⟩ := Nat.exists_eq_succ_of_ne_zero inside.ne'
        simp only [scan, inside, if_true] at unended ⊢
        refine List.isChain_cons.2 ⟨fun t _ blank => ?_, ih sound (fun d mem => solid d (by simp_all))
          fun s mem => unended s (List.mem_cons_of_mem _ mem)⟩
        have sign := solid c (by simp)
        rw [ahead_of_isBlank blank] at sign
        contradiction
      · obtain rfl : skip = 0 := Nat.eq_zero_of_not_pos inside
        rw [scan_cons] at unended ⊢
        refine List.isChain_cons.2 ⟨fun t next blank => ?_, ih sound.read
          (ahead_of_mem_skipped sound) fun s mem => unended s (List.mem_cons_of_mem _ mem)⟩
        have stays : mode = .lineComment → c ≠ '\n' := unended ⟨c, mode, _⟩ List.mem_cons_self
        rw [mode_of_mem_head?_scan next, read_blank sound blank stays]
        rfl

theorem scan_line (other : 0 < skip → within ≠ .lineComment) :
    (scan within mode skip cs).IsChain fun s t =>
      s.mode = .lineComment → (t.mode = .lineComment ↔ s.char ≠ '\n') := by
  induction cs generalizing within mode skip with
  | nil => exact .nil
  | cons c rest ih =>
      by_cases inside : 0 < skip
      · simp only [scan, inside, if_true]
        refine List.isChain_cons.2 ⟨fun t _ line => absurd line (other inside), ih fun _ => other inside⟩
      · obtain rfl : skip = 0 := Nat.eq_zero_of_not_pos inside
        rw [scan_cons]
        refine List.isChain_cons.2 ⟨?_, ih ?_⟩
        · rintro t next rfl
          rw [mode_of_mem_head?_scan next]
          by_cases ends : c = '\n' <;> simp [read, ends]
        · rintro skips rfl
          simp [read] at skips

theorem unended_iff (chain : scanned.IsChain fun s t =>
      s.mode = .lineComment → (t.mode = .lineComment ↔ s.char ≠ '\n'))
    (ends : ∀ s ∈ scanned.getLast?, s.char ≠ '\n') :
    Unended scanned ↔
      scanned.IsChain fun s t => s.mode ≠ t.mode → s.mode ≠ .lineComment := by
  induction scanned with
  | nil => simp [Unended]
  | cons s rest ih =>
      obtain ⟨here, later⟩ := List.isChain_cons.1 chain
      have rest_iff := ih later fun t last =>
        ends t (List.mem_getLast?_cons last)
      have first : (s.mode = .lineComment → s.char ≠ '\n') ↔
          ∀ t ∈ rest.head?, s.mode ≠ t.mode → s.mode ≠ .lineComment := by
        cases rest with
        | nil => simpa using fun _ => ends s rfl
        | cons t rest =>
            have next := here t rfl
            constructor
            · intro stays u found apart line
              obtain rfl := Option.mem_some.1 found
              exact apart (line.trans ((next line).2 (stays line)).symm)
            · intro same line broken
              have left : t.mode ≠ .lineComment := fun goes => (next line).1 goes broken
              exact same t rfl (fun same => left (same.symm.trans line)) line
      rw [List.isChain_cons, ← first, ← rest_iff]
      exact List.forall_mem_cons

/-! ## Regions of the shrunk text -/

def spacedFrom (gap : Bool) : List Region → List Region
  | [] => []
  | region :: rest => ⟨region.mode, spaced gap region.text⟩ :: rest.map Region.spaced

theorem spacedFrom_false (all : List Region) : spacedFrom false all = all.map Region.spaced := by
  cases all <;> rfl

theorem exists_gather_cons (s : Scanned) (rest : List Scanned) :
    ∃ text others, gather (s :: rest) = ⟨s.mode, text⟩ :: others := by
  rw [gather, prepend.eq_def]
  split
  · exact ⟨_, _, rfl⟩
  · split <;> exact ⟨_, _, rfl⟩

theorem spacedFrom_prepend {c : Char} (visible : Text.isBlank c = false) (all : List Region) :
    spacedFrom false (prepend c mode all) = prepend c mode (spacedFrom false all) ∧
      spacedFrom true (prepend c mode all) =
        prepend ' ' mode (prepend c mode (spacedFrom false all)) := by
  cases all with
  | nil => simp [prepend, spacedFrom, spaced, visible, gapText]
  | cons region rest =>
      by_cases same : region.mode = mode
      · simp [prepend, spacedFrom, spaced, visible, gapText, same]
      · simp [prepend, spacedFrom, Region.spaced, spaced, visible, gapText, same]

theorem gather_shrunk
    (steady : scanned.IsChain fun s t => Text.isBlank s.char → t.mode = s.mode)
    (ends : ∀ s ∈ scanned.getLast?, Text.isBlank s.char = false) :
    gather (shrunk gap scanned) = spacedFrom gap (gather scanned) := by
  induction scanned generalizing gap with
  | nil => rfl
  | cons s rest ih =>
      obtain ⟨here, later⟩ := List.isChain_cons.1 steady
      cases blank : Text.isBlank s.char with
      | true =>
          -- the text does not end here, and goes on in the same mode
          cases rest with
          | nil => simp [ends s rfl] at blank
          | cons t rest =>
              obtain ⟨text, others, same⟩ := exists_gather_cons t rest
              have within : t.mode = s.mode := here t rfl blank
              rw [shrunk, if_pos blank, ih later ends, gather.eq_2 s, same]
              simp [prepend, spacedFrom, within, spaced, blank]
      | false =>
          have rest_eq := @ih false later fun t last =>
            ends t (List.mem_getLast?_cons last)
          rw [shrunk, blank, if_neg Bool.false_ne_true, gather]
          cases gap with
          | false => exact (congrArg _ rest_eq).trans (spacedFrom_prepend blank _).1.symm
          | true =>
              refine Eq.trans ?_ (spacedFrom_prepend blank _).2.symm
              exact congrArg (prepend ' ' s.mode <| prepend s.char s.mode ·) rest_eq

theorem isChain_gather {R : Mode → Mode → Prop} :
    (gather scanned).IsChain (fun a b => R a.mode b.mode) ↔
      scanned.IsChain fun s t => s.mode ≠ t.mode → R s.mode t.mode := by
  induction scanned with
  | nil => simp [gather]
  | cons s rest ih =>
      cases rest with
      | nil => simp [gather, prepend]
      | cons t rest =>
          obtain ⟨text, others, same⟩ := exists_gather_cons t rest
          rw [List.isChain_cons_cons, ← ih, gather, same, prepend]
          by_cases joined : t.mode = s.mode
          · simp only [joined, if_true, ne_eq, not_true, false_imp_iff, true_and]
            cases others <;> simp [List.isChain_cons_cons]
          · rw [if_neg joined, List.isChain_cons_cons]
            simp [Ne.symm joined]

/-! ## Shrinking a text -/

theorem lineLast_iff (ends : ∀ c ∈ cs.getLast?, c ≠ '\n') :
    LineLast cs ↔ Unended (scan .code .code 0 cs) := by
  have within : 0 < 0 → Mode.code ≠ .lineComment := fun no => absurd no (Nat.lt_irrefl 0)
  have last : ∀ s ∈ (scan .code .code 0 cs).getLast?, s.char ≠ '\n' := fun s last =>
    ends s.char (getLast?_scan last)
  exact (isChain_gather (R := fun mode _ => mode ≠ .lineComment)).trans
    (unended_iff (scan_line within) last).symm

theorem mem_squeeze {c : Char} (mem : c ∈ squeeze gap cs) : c = ' ' ∨ Text.isBlank c = false := by
  induction cs generalizing gap with
  | nil => cases mem
  | cons d rest ih =>
      rw [squeeze] at mem
      split at mem
      · exact ih mem
      · next visible =>
          rcases List.mem_append.1 mem with space | mem
          · cases gap <;> simp_all [gapText]
          · rcases List.mem_cons.1 mem with rfl | mem
            · exact .inr (by simpa using visible)
            · exact ih mem

theorem lineLast_squeeze (gap : Bool) (cs : List Char) : LineLast (squeeze gap cs) := by
  have unbroken : '\n' ∉ squeeze gap cs := fun mem => absurd (mem_squeeze mem) (by decide)
  refine (lineLast_iff fun c last broken => ?_).2 fun s mem _ broken => ?_
  · exact unbroken (broken ▸ List.mem_of_getLast? last)
  · refine unbroken (broken ▸ ?_)
    rw [← map_char_scan .code .code 0 (squeeze gap cs)]
    exact List.mem_map_of_mem mem

section

variable (ends : ∀ c ∈ cs.getLast?, Text.isBlank c = false)

include ends

theorem unbroken_of_visible : ∀ c ∈ cs.getLast?, c ≠ '\n' := by
  rintro c last rfl
  exact absurd (ends _ last) (by decide)

theorem scan_squeeze_of_lineLast (line : LineLast cs) :
    scan .code .code 0 (squeeze false cs) = shrunk false (scan .code .code 0 cs) := by
  have sound : Mode.code.Sound := trivial
  have unended := (lineLast_iff (unbroken_of_visible ends)).1 line
  exact scan_squeeze sound (by simp) (fun _ => rfl) unended

theorem regions_squeeze : regions (squeeze false cs) = (regions cs).map Region.spaced ↔
    LineLast cs := by
  constructor
  · intro same
    have shrunk := lineLast_squeeze false cs
    rw [LineLast, same, List.isChain_map] at shrunk
    exact shrunk
  · intro line
    have sound : Mode.code.Sound := trivial
    have unended := (lineLast_iff (unbroken_of_visible ends)).1 line
    have steady := scan_steady sound (by simp) unended
    rw [regions, scan_squeeze_of_lineLast ends line,
      gather_shrunk steady fun s last => ends s.char (getLast?_scan last), spacedFrom_false, regions]

theorem length_positions_squeeze (line : LineLast cs) :
    (positions (squeeze false cs)).length = (positions cs).length := by
  have unmarked : ∀ s ∈ scan .code .code 0 cs, Text.isBlank s.char → s.marked = false := by
    intro s mem blank
    by_contra marked
    rw [char_of_marked mem (by simpa using marked)] at blank
    exact absurd blank (by decide)
  rw [length_positions, length_positions, flags_eq_map_scan .code, flags_eq_map_scan .code,
    scan_squeeze_of_lineLast ends line, List.countP_map, List.countP_map]
  exact countP_shrunk unmarked

theorem quotedTexts_squeeze (line : LineLast cs) :
    quotedTexts (squeeze false cs) = (quotedTexts cs).map (spaced false) := by
  rw [quotedTexts, (regions_squeeze ends).2 line, quotedTexts, List.filterMap_map,
    List.map_filterMap]
  refine List.filterMap_congr fun region _ => ?_
  cases mode : region.mode <;> simp [Region.spaced, mode]

end

theorem exists_spaced_true (text : List Char) : ∃ rest, spaced true text = ' ' :: rest := by
  induction text with
  | nil => exact ⟨[], rfl⟩
  | cons c rest ih =>
      rw [spaced]
      split
      · exact ih
      · exact ⟨_, rfl⟩

theorem length_spaced_le (gap : Bool) (text : List Char) :
    (spaced gap text).length ≤ (gapText gap).length + text.length := by
  induction text generalizing gap with
  | nil => exact Nat.le_refl _
  | cons c rest ih =>
      rw [spaced]
      split
      · have shorter := ih true
        simp only [gapText, if_true, List.length_cons, List.length_nil] at shorter ⊢
        omega
      · have shorter := ih false
        simp only [gapText, Bool.false_eq_true, if_false, List.length_append, List.length_cons,
          List.length_nil] at shorter ⊢
        omega

theorem spaced_eq_append_iff (gap : Bool) (text : List Char) :
    spaced gap text = gapText gap ++ text ↔
      SingleSpaced text ∧ (gap → ∀ c ∈ text.head?, Text.isBlank c = false) := by
  induction text generalizing gap with
  | nil => simp [spaced, SingleSpaced]
  | cons c rest ih =>
      have single : SingleSpaced (c :: rest) ↔ (Text.isBlank c → c = ' ') ∧
          (∀ d ∈ rest.head?, Text.isBlank c → Text.isBlank d = false) ∧ SingleSpaced rest := by
        rw [SingleSpaced, List.forall_mem_cons, List.isChain_cons, SingleSpaced]
        tauto
      cases blank : Text.isBlank c with
      | true =>
          rw [spaced, if_pos blank]
          cases gap with
          | true =>
              -- two blanks have become one
              have shorter := length_spaced_le true rest
              have visible : ¬(true → ∀ d ∈ (c :: rest).head?, Text.isBlank d = false) := by
                simp [blank]
              refine iff_of_false (fun same => ?_) fun single => visible single.2
              rw [same] at shorter
              simp only [gapText, if_true, List.length_append, List.length_cons,
                List.length_nil] at shorter
              omega
          | false =>
              obtain ⟨after, starts⟩ := exists_spaced_true rest
              have gapped := ih true
              rw [starts] at gapped ⊢
              simp only [gapText, if_true, Bool.false_eq_true, if_false, List.cons_append,
                List.nil_append, List.cons.injEq, true_and, forall_const, false_imp_iff,
                and_true] at gapped ⊢
              rw [gapped, single]
              simp only [blank, forall_const, eq_comm]
              tauto
      | false =>
          have visible : ¬Text.isBlank c := by simp [blank]
          rw [spaced, if_neg visible, List.append_cancel_left_eq, List.cons.injEq, single]
          simpa [blank, gapText] using ih false

theorem spaced_eq_self_iff (text : List Char) : spaced false text = text ↔ SingleSpaced text := by
  simpa [gapText] using spaced_eq_append_iff false text

end Marker

theorem toList_finishSql (sql : String) :
    (finishSql sql false).toList = Text.trim sql.toList ∧
      (finishSql sql true).toList = squeeze false (finishSql sql false).toList := by
  have kept : (finishSql sql false).toList = Text.trim sql.toList := String.toList_ofList
  have trimmed : Text.trim (finishSql sql false).toList = Text.trim sql.toList := by
    rw [kept, Text.trim_trim]
  refine ⟨kept, ?_⟩
  rw [← finishSql_of_trim trimmed, toList_finishSql_shrunk, kept, Text.trimStart_trim]

/-- Shrinking finishes a text with the same regions in the same order, each with one space for every
run of its blanks, if nothing follows a line comment, and only then. Quoted texts are then the same if
all their blanks are single spaces, and only then, and there are as many bare markers. -/
theorem regions_finishSql (sql : String) :
    let kept := (finishSql sql false).toList
    let shrunk := (finishSql sql true).toList
    (Marker.regions shrunk = (Marker.regions kept).map Marker.Region.spaced ↔
        Marker.LineLast kept) ∧
      (Marker.LineLast kept →
        (Marker.quotedTexts shrunk = Marker.quotedTexts kept ↔
            ∀ text ∈ Marker.quotedTexts kept, Marker.SingleSpaced text) ∧
          (Marker.positions shrunk).length = (Marker.positions kept).length) := by
  obtain ⟨trimmed, squeezed⟩ := toList_finishSql sql
  have ends : ∀ c ∈ (finishSql sql false).toList.getLast?, Text.isBlank c = false := by
    rw [trimmed]
    exact Text.visible_getLast?_trim sql.toList
  intro kept shrunk
  have same : shrunk = squeeze false kept := squeezed
  rw [same]
  refine ⟨Marker.regions_squeeze ends, fun line => ⟨?_, Marker.length_positions_squeeze ends line⟩⟩
  rw [Marker.quotedTexts_squeeze ends line]
  conv_lhs => rhs; rw [← List.map_id (Marker.quotedTexts kept)]
  rw [List.map_inj_left]
  exact forall₂_congr fun text _ => Marker.spaced_eq_self_iff text

def amongRegions : String :=
  "  select 'it''s  ?',\n  \"a b\" /* x  /* ? */ */ from t\n where c = $q$ '\n? $q$ and d = ?  -- ?  "

theorem regions_finishSql_amongRegions :
    Marker.LineLast (finishSql amongRegions false).toList ∧
      Marker.regions (finishSql amongRegions true).toList =
        (Marker.regions (finishSql amongRegions false).toList).map Marker.Region.spaced ∧
      Marker.quotedTexts (finishSql amongRegions true).toList ≠
        Marker.quotedTexts (finishSql amongRegions false).toList ∧
      (Marker.positions (finishSql amongRegions true).toList).length = 1 := by
  have line : Marker.LineLast (finishSql amongRegions false).toList := by decide +kernel
  obtain ⟨same, kept⟩ := regions_finishSql amongRegions
  obtain ⟨texts, markers⟩ := kept line
  refine ⟨line, same.2 line, fun equal => ?_, markers.trans (by decide +kernel)⟩
  exact absurd (texts.1 equal) (by decide +kernel)

theorem not_same_regions :
    Marker.quotedTexts (finishSql "select 'a  b'" true).toList ≠
        Marker.quotedTexts (finishSql "select 'a  b'" false).toList ∧
      (Marker.positions (finishSql "select 1 -- c\nwhere id = ?" true).toList).length ≠
        (Marker.positions (finishSql "select 1 -- c\nwhere id = ?" false).toList).length := by
  decide +kernel

end MappedSql
