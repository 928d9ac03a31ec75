import Mathlib.Data.List.Perm.Basic
import Mathlib.Data.List.TakeWhile
import MappedSql.Proofs.Fields
import MappedSql.Proofs.Outcome
import MappedSql.Statement.Mapped

/-!
# Selecting declarations

Of the declarations of an id that count for a database the selection keeps one, the one that names
the database if there is one. Which it keeps does not depend on the order of the declarations, but
whether two of a kind are noticed does (`StatementDraft.select_of_perm`): of declarations for all
databases only those in front of the one that names the database are told apart.
-/

namespace MappedSql

theorem Fields.Sorted.ext {α : Type} {fields others : Fields α} (sorted : Sorted fields)
    (sorted' : Sorted others) (same : ∀ name, get? fields name = get? others name) :
    fields = others := by
  induction fields generalizing others with
  | nil =>
      cases others with
      | nil => rfl
      | cons entry rest => simpa [get?] using same entry.1
  | cons entry rest ih =>
      obtain ⟨key, value⟩ := entry
      cases others with
      | nil => simpa [get?] using same key
      | cons other rest' =>
          obtain ⟨key', value'⟩ := other
          obtain ⟨first, later⟩ := List.pairwise_cons.1 sorted
          obtain ⟨first', later'⟩ := List.pairwise_cons.1 sorted'
          rcases lt_trichotomy key key' with before | rfl | behind
          · have none : get? ((key', value') :: rest') key = none :=
              get?_eq_none_of_forall_ne (List.forall_mem_cons.2
                ⟨before.ne', fun other mem => (before.trans (first' other mem)).ne'⟩)
            have own := same key
            rw [none, get?, if_pos rfl] at own
            cases own
          · have own := same key
            rw [get?, get?, if_pos rfl, if_pos rfl] at own
            obtain rfl := Option.some.inj own
            rw [ih later later' fun name => ?_]
            by_cases here : key = name
            · subst here
              rw [get?_eq_none_of_forall_ne fun other mem => (first other mem).ne',
                get?_eq_none_of_forall_ne fun other mem => (first' other mem).ne']
            · simpa only [get?, if_neg here] using same name
          · have none : get? ((key, value) :: rest) key' = none :=
              get?_eq_none_of_forall_ne (List.forall_mem_cons.2
                ⟨behind.ne', fun other mem => (behind.trans (first other mem)).ne'⟩)
            have own := same key'
            rw [none, get?, if_pos rfl] at own
            cases own

namespace StatementDraft

variable {databaseId : Option String} {id : String} {draft : StatementDraft}
  {drafts earlier : List StatementDraft}

/-- The declarations of an id that count for a database, in order. -/
def contenders (databaseId : Option String) (id : String) (drafts : List StatementDraft) :
    List StatementDraft :=
  drafts.filter fun draft => draft.applies databaseId && draft.id == id

/-- The contender that names the database counts, or else the first. -/
def winner (contenders : List StatementDraft) : Option StatementDraft :=
  (contenders.find? isSpecific).or contenders.head?

/-- Two contenders name the database, or there are two in front of all that do. -/
def Clash (contenders : List StatementDraft) : Prop :=
  1 < contenders.countP isSpecific ∨ 1 < (contenders.takeWhile (!·.isSpecific)).length

def duplicate (id : String) : Error :=
  .of (.config s!"Mapped Statements collection already contains value for {id}")

theorem contenders_append (drafts more : List StatementDraft) :
    contenders databaseId id (drafts ++ more) =
      contenders databaseId id drafts ++ contenders databaseId id more :=
  List.filter_append ..

theorem contenders_own (counts : draft.applies databaseId = true) :
    contenders databaseId draft.id [draft] = [draft] := by
  simp [contenders, counts]

theorem contenders_other (other : draft.applies databaseId = false ∨ draft.id ≠ id) :
    contenders databaseId id [draft] = [] := by
  rcases other with other | other <;> simp [contenders, other]

theorem Clash.append (clash : Clash earlier) (more : List StatementDraft) :
    Clash (earlier ++ more) := by
  refine clash.imp (fun two => ?_) fun two => ?_
  · rw [List.countP_append]
    omega
  · refine two.trans_le (List.IsPrefix.length_le ?_)
    rw [List.takeWhile_append]
    split
    · next all =>
        rw [(List.takeWhile_prefix _).eq_of_length all]
        exact List.prefix_append _ _
    · exact List.prefix_rfl

theorem winner_concat_of_specific (specific : draft.isSpecific = true)
    (none : earlier.find? isSpecific = none) : winner (earlier ++ [draft]) = some draft := by
  simp [winner, List.find?_append, none, specific]

theorem winner_concat_of_present {present : StatementDraft} (won : winner earlier = some present)
    (generic : draft.isSpecific = false) : winner (earlier ++ [draft]) = some present := by
  have some : earlier ≠ [] := by
    rintro rfl
    cases won
  have last : [draft].find? isSpecific = none := by simp [generic]
  rw [winner, List.find?_append, last, Option.or_none, List.head?_append_of_ne_nil _ some]
  exact won

theorem winner_eq_none (contenders : List StatementDraft) : winner contenders = none ↔ contenders = [] := by
  cases contenders <;> simp [winner]

theorem isSpecific_winner {present : StatementDraft} (won : winner earlier = some present) :
    present.isSpecific = (earlier.find? isSpecific).isSome := by
  cases found : earlier.find? isSpecific with
  | some specific =>
      rw [winner, found, Option.some_or] at won
      obtain rfl := Option.some.inj won
      exact List.find?_some found
  | none =>
      rw [winner, found, Option.none_or] at won
      have generic := List.find?_eq_none.1 found present (List.mem_of_head? won)
      simpa using generic

theorem takeWhile_of_generic (none : earlier.find? isSpecific = none) :
    earlier.takeWhile (!·.isSpecific) = earlier :=
  List.takeWhile_eq_self_iff.2 fun draft mem => by simpa using List.find?_eq_none.1 none draft mem

theorem clash_concat (settled : ¬Clash earlier) : Clash (earlier ++ [draft]) ↔
    ∃ present, winner earlier = some present ∧ present.isSpecific = draft.isSpecific := by
  unfold Clash at settled ⊢
  rw [not_or] at settled
  rw [List.countP_append, List.countP_singleton, List.takeWhile_append]
  cases found : earlier.find? isSpecific with
  | some specific =>
      have won : winner earlier = some specific := by rw [winner, found, Option.some_or]
      have names : specific.isSpecific = true := List.find?_some found
      have some : 0 < earlier.countP isSpecific :=
        List.countP_pos_iff.2 ⟨specific, List.mem_of_find?_eq_some found, names⟩
      -- behind a specific declaration, general ones are no longer counted
      have stops : (earlier.takeWhile (!·.isSpecific)).length ≠ earlier.length := by
        intro all
        have generic := (List.takeWhile_eq_self_iff.1
          ((List.takeWhile_prefix _).eq_of_length all)) specific (List.mem_of_find?_eq_some found)
        simp [names] at generic
      rw [if_neg stops, won]
      cases kind : draft.isSpecific with
      | true => exact iff_of_true (.inl (Nat.succ_lt_succ some)) ⟨specific, rfl, names⟩
      | false =>
          refine iff_of_false (by simp; omega) ?_
          rintro ⟨present, same, other⟩
          obtain rfl := Option.some.inj same
          cases names.symm.trans other
  | none =>
      have generic (present : StatementDraft) (won : winner earlier = some present) :
          present.isSpecific = false := by rw [isSpecific_winner won, found]; rfl
      rw [takeWhile_of_generic found] at settled ⊢
      have zero : earlier.countP isSpecific = 0 :=
        List.countP_eq_zero.2 fun draft mem => List.find?_eq_none.1 found draft mem
      rw [if_pos rfl, zero]
      cases kind : draft.isSpecific with
      | true =>
          refine iff_of_false (by simp [kind]; omega) ?_
          rintro ⟨present, won, same⟩
          cases (generic present won).symm.trans same
      | false =>
          cases won : winner earlier with
          | none =>
              rw [winner_eq_none] at won
              exact iff_of_false (by simp [won, kind]) (by simp)
          | some present =>
              have some : earlier ≠ [] := fun none => by simp [(winner_eq_none _).2 none] at won
              have length := List.length_pos_iff.2 some
              exact iff_of_true (.inr (by simp [kind]; omega)) ⟨present, rfl, generic present won⟩

structure Selects (databaseId : Option String) (drafts : List StatementDraft)
    (selected : Fields StatementDraft) : Prop where
  sorted : selected.Sorted
  winner : ∀ id, Fields.get? selected id = winner (contenders databaseId id drafts)
  settled : ∀ id, ¬Clash (contenders databaseId id drafts)

variable {selected : Fields StatementDraft}

theorem selects_nil (databaseId : Option String) : Selects databaseId [] [] :=
  ⟨.nil, fun _ => rfl, fun _ => by simp [Clash, contenders]⟩

theorem Selects.skip (selects : Selects databaseId earlier selected)
    (other : draft.applies databaseId = false) : Selects databaseId (earlier ++ [draft]) selected := by
  have same (id : String) : contenders databaseId id (earlier ++ [draft]) =
      contenders databaseId id earlier := by
    rw [contenders_append, contenders_other (.inl other), List.append_nil]
  refine ⟨selects.sorted, fun id => ?_, fun id => ?_⟩
  · rw [same]
    exact selects.winner id
  · rw [same]
    exact selects.settled id

theorem Selects.insert (selects : Selects databaseId earlier selected)
    (counts : draft.applies databaseId = true)
    (wins : StatementDraft.winner (contenders databaseId draft.id earlier ++ [draft]) = some draft)
    (settled : ¬Clash (contenders databaseId draft.id earlier ++ [draft])) :
    Selects databaseId (earlier ++ [draft]) (Fields.insert selected draft.id draft) := by
  refine ⟨selects.sorted.insert _ _, fun id => ?_, fun id => ?_⟩
  · rw [contenders_append]
    by_cases own : draft.id = id
    · subst own
      rw [contenders_own counts, wins, Fields.get?_insert_self]
    · rw [contenders_other (.inr own), List.append_nil, Fields.get?_insert_of_ne _ _ own]
      exact selects.winner id
  · rw [contenders_append]
    by_cases own : draft.id = id
    · subst own
      rwa [contenders_own counts]
    · rw [contenders_other (.inr own), List.append_nil]
      exact selects.settled id

theorem Selects.choose (selects : Selects databaseId earlier selected)
    (counts : draft.applies databaseId = true) :
    (∃ after, choose selected draft = .ok after ∧ Selects databaseId (earlier ++ [draft]) after) ∨
      choose selected draft = .error (duplicate draft.id) ∧
        Clash (contenders databaseId draft.id (earlier ++ [draft])) := by
  have clashes : Clash (contenders databaseId draft.id earlier ++ [draft]) ↔ _ :=
    clash_concat (selects.settled draft.id)
  have found := selects.winner draft.id
  unfold StatementDraft.choose
  rw [contenders_append, contenders_own counts]
  cases won : StatementDraft.winner (contenders databaseId draft.id earlier) with
  | none =>
      rw [won] at found
      have none := (winner_eq_none _).1 won
      rw [found]
      refine .inl ⟨_, rfl, selects.insert counts ?_ fun clash => ?_⟩
      · rw [none]
        cases kind : draft.isSpecific <;> simp [StatementDraft.winner, kind]
      · obtain ⟨present, some, -⟩ := clashes.1 clash
        cases won.symm.trans some
  | some present =>
      rw [won] at found
      rw [found]
      -- the winner so far stands for all before it: only a declaration of its own kind clashes
      by_cases same : present.isSpecific = draft.isSpecific
      · exact .inr ⟨if_pos (beq_iff_eq.2 same), clashes.2 ⟨present, won, same⟩⟩
      · have settled : ¬Clash (contenders databaseId draft.id earlier ++ [draft]) := by
          rw [clashes]
          rintro ⟨other, some, same'⟩
          obtain rfl := Option.some.inj (won.symm.trans some)
          exact same same'
        dsimp only
        rw [if_neg (by simpa using same)]
        cases kind : draft.isSpecific with
        | true =>
            have generic : present.isSpecific = false := by simpa [kind] using same
            rw [isSpecific_winner won, Option.isSome_eq_false_iff, Option.isNone_iff_eq_none] at generic
            exact .inl ⟨_, rfl, selects.insert counts (winner_concat_of_specific kind generic) settled⟩
        | false =>
            refine .inl ⟨selected, rfl, selects.sorted, fun id => ?_, fun id => ?_⟩
            · rw [contenders_append]
              by_cases own : draft.id = id
              · subst own
                rw [contenders_own counts, winner_concat_of_present won kind, found]
              · rw [contenders_other (.inr own), List.append_nil]
                exact selects.winner id
            · rw [contenders_append]
              by_cases own : draft.id = id
              · subst own
                rwa [contenders_own counts]
              · rw [contenders_other (.inr own), List.append_nil]
                exact selects.settled id

theorem Selects.chooseAll (selects : Selects databaseId earlier selected)
    (drafts : List StatementDraft) :
    (∃ after, chooseAll databaseId selected drafts = .ok after ∧
        Selects databaseId (earlier ++ drafts) after) ∨
      ∃ id, chooseAll databaseId selected drafts = .error (duplicate id) ∧
        Clash (contenders databaseId id (earlier ++ drafts)) := by
  -- what is behind the first clash does not matter any more
  induction drafts generalizing earlier selected with
  | nil => exact .inl ⟨selected, rfl, by rwa [List.append_nil]⟩
  | cons draft rest ih =>
      have assoc : earlier ++ draft :: rest = earlier ++ [draft] ++ rest := by simp
      rw [assoc]
      unfold StatementDraft.chooseAll
      cases counts : draft.applies databaseId with
      | false => exact ih (selects.skip counts)
      | true =>
          rw [if_pos rfl]
          rcases selects.choose counts with ⟨after, chosen, selects'⟩ | ⟨refused, clash⟩
          · rw [chosen]
            exact ih selects'
          · rw [refused]
            refine .inr ⟨draft.id, rfl, ?_⟩
            rw [contenders_append]
            exact clash.append _

theorem select_cases (drafts : List StatementDraft) (databaseId : Option String) :
    (∃ selected, select drafts databaseId = .ok selected ∧ Selects databaseId drafts selected) ∨
      ∃ id, select drafts databaseId = .error (duplicate id) ∧
        Clash (contenders databaseId id drafts) :=
  (selects_nil databaseId).chooseAll drafts

theorem eq_of_perm_of_length_le_one {α : Type} {as bs : List α} (same : as.Perm bs)
    (short : as.length ≤ 1) : as = bs := by
  match as with
  | [] => exact same.nil_eq
  | [a] => exact (List.singleton_perm.1 same).symm ▸ rfl

theorem winner_of_perm {own other : List StatementDraft} (same : own.Perm other)
    (settled : ¬Clash own) : winner own = winner other := by
  rw [Clash, not_or, not_lt, not_lt] at settled
  have specifics : own.filter isSpecific = other.filter isSpecific :=
    eq_of_perm_of_length_le_one (same.filter _) (by
      rw [← List.countP_eq_length_filter]
      exact settled.1)
  have found : own.find? isSpecific = other.find? isSpecific := by
    rw [← List.head?_filter, ← List.head?_filter, specifics]
  unfold winner
  rw [← found]
  cases none : own.find? isSpecific with
  | some specific => rfl
  | none =>
      rw [takeWhile_of_generic none] at settled
      rw [eq_of_perm_of_length_le_one same settled.2]

theorem Selects.eq_of_perm {drafts drafts' : List StatementDraft} {selected selected' : Fields StatementDraft}
    (same : drafts.Perm drafts') (selects : Selects databaseId drafts selected)
    (selects' : Selects databaseId drafts' selected') : selected = selected' := by
  refine selects.sorted.ext selects'.sorted fun id => ?_
  rw [selects.winner, selects'.winner]
  exact winner_of_perm (same.filter _) (selects.settled id)

/-- Two of a kind: two that name the database, or two that do not. -/
def Doubled (contenders : List StatementDraft) : Prop :=
  1 < contenders.countP isSpecific ∨ 1 < contenders.countP (!·.isSpecific)

instance : DecidablePred Doubled := fun _ => inferInstanceAs (Decidable (_ ∨ _))

def Shadowed (contenders : List StatementDraft) : Prop :=
  contenders.countP isSpecific = 1 ∧ 1 < contenders.countP (!·.isSpecific)

theorem Doubled.of_perm {own other : List StatementDraft} (same : own.Perm other)
    (doubled : Doubled own) : Doubled other := by
  rwa [Doubled, ← same.countP_eq, ← same.countP_eq]

theorem clash_iff_doubled {own : List StatementDraft} (visible : ¬Shadowed own) :
    Clash own ↔ Doubled own := by
  have leading : (own.takeWhile (!·.isSpecific)).length ≤ own.countP (!·.isSpecific) := by
    rw [← List.countP_eq_length.2 fun _ mem => List.mem_takeWhile_imp mem]
    exact (List.takeWhile_prefix _).sublist.countP_le
  have all : own.countP isSpecific = 0 →
      (own.takeWhile (!·.isSpecific)).length = own.countP (!·.isSpecific) := by
    intro zero
    have none : own.find? isSpecific = none := List.find?_eq_none.2 (List.countP_eq_zero.1 zero)
    rw [takeWhile_of_generic none, eq_comm, List.countP_eq_length]
    exact fun draft mem => by simpa using List.find?_eq_none.1 none draft mem
  unfold Clash Doubled
  unfold Shadowed at visible
  omega

/-- The selection fails exactly where declarations of an id clash. Two orders of the same
declarations have the same winners if both succeed. They fail alike, exactly if two declarations of
an id are of a kind, as long as no declaration that names the database meets several of its id that
do not. -/
theorem select_of_perm {drafts drafts' : List StatementDraft} (same : drafts.Perm drafts')
    (databaseId : Option String) :
    ((∃ e, select drafts databaseId = .error e) ↔ ∃ id, Clash (contenders databaseId id drafts)) ∧
    (∀ e, select drafts databaseId = .error e →
      ∃ id, e = duplicate id ∧ Clash (contenders databaseId id drafts)) ∧
    (∀ selected selected', select drafts databaseId = .ok selected →
      select drafts' databaseId = .ok selected' →
        selected = selected' ∧
        ∀ id, Fields.get? selected id = winner (contenders databaseId id drafts)) ∧
    ((∀ id, ¬Shadowed (contenders databaseId id drafts)) →
      ((∃ id, Doubled (contenders databaseId id drafts)) ∧
          (∃ e, select drafts databaseId = .error e) ∧ ∃ e, select drafts' databaseId = .error e) ∨
        (∀ id, ¬Doubled (contenders databaseId id drafts)) ∧
          ∃ selected, select drafts databaseId = .ok selected ∧
            select drafts' databaseId = .ok selected) := by
  have permuted (id : String) : (contenders databaseId id drafts).Perm
      (contenders databaseId id drafts') := same.filter _
  have shadowed (id : String) (visible : ¬Shadowed (contenders databaseId id drafts)) :
      ¬Shadowed (contenders databaseId id drafts') := by
    rwa [Shadowed, ← (permuted id).countP_eq, ← (permuted id).countP_eq]
  -- which of the two orders fails may differ only where a winner hides a general declaration
  rcases select_cases drafts databaseId with ⟨selected, chosen, selects⟩ | ⟨id, refused, clash⟩
  · refine ⟨iff_of_false ?_ ?_, ?_, ?_, fun visible => .inr ⟨fun id doubled => ?_, selected, chosen, ?_⟩⟩
    · rintro ⟨e, failed⟩
      cases chosen.symm.trans failed
    · rintro ⟨id, clash⟩
      exact selects.settled id clash
    · intro e failed
      cases chosen.symm.trans failed
    · intro own other chosenOwn chosenOther
      obtain rfl := Except.ok.inj (chosen.symm.trans chosenOwn)
      rcases select_cases drafts' databaseId with ⟨selected', chosen', selects'⟩ | ⟨_, refused', -⟩
      · obtain rfl := Except.ok.inj (chosen'.symm.trans chosenOther)
        exact ⟨selects.eq_of_perm same selects', selects.winner⟩
      · cases refused'.symm.trans chosenOther
    · exact selects.settled id ((clash_iff_doubled (visible id)).2 doubled)
    · rcases select_cases drafts' databaseId with ⟨selected', chosen', selects'⟩ | ⟨id, -, clash'⟩
      · rw [chosen', selects.eq_of_perm same selects']
      · have doubled := (clash_iff_doubled (shadowed id (visible id))).1 clash'
        exact absurd ((clash_iff_doubled (visible id)).2 (doubled.of_perm (permuted id).symm))
          (selects.settled id)
  · refine ⟨iff_of_true ⟨_, refused⟩ ⟨id, clash⟩, ?_, ?_, fun visible => .inl ?_⟩
    · intro e failed
      obtain rfl := Except.error.inj (refused.symm.trans failed)
      exact ⟨id, rfl, clash⟩
    · intro own other chosen
      cases refused.symm.trans chosen
    · have doubled := (clash_iff_doubled (visible id)).1 clash
      refine ⟨⟨id, doubled⟩, ⟨_, refused⟩, ?_⟩
      rcases select_cases drafts' databaseId with ⟨selected', -, selects'⟩ | ⟨id', refused', -⟩
      · exact absurd ((clash_iff_doubled (shadowed id (visible id))).2 (doubled.of_perm (permuted id)))
          (selects'.settled id)
      · exact ⟨_, refused'⟩

def declared (id sql : String) (databaseId : Option String) : StatementDraft where
  id := id
  template := .static sql
  databaseId := databaseId

def clocks : List StatementDraft :=
  [declared "now" "select now()" none, declared "now" "select datetime('now')" (some "sqlite"),
    declared "seq" "select nextval('s')" (some "postgres")]

theorem select_of_perm_clocks :
    clocks.Perm clocks.reverse ∧
      ∃ selected, select clocks (some "sqlite") = .ok selected ∧
        select clocks.reverse (some "sqlite") = .ok selected ∧
        (Fields.get? selected "now").map (·.databaseId) = some (some "sqlite") := by
  have same : clocks.Perm clocks.reverse := (List.reverse_perm clocks).symm
  obtain ⟨-, -, agree, together⟩ := select_of_perm same (some "sqlite")
  have visible (id : String) : ¬Shadowed (contenders (some "sqlite") id clocks) := by
    by_cases now : "now" = id
    · subst now
      simp [Shadowed, contenders, clocks, declared, applies, isSpecific]
    · simp [Shadowed, contenders, clocks, declared, applies, now]
  rcases together visible with ⟨⟨id, doubled⟩, -⟩ | ⟨-, selected, chosen, chosen'⟩
  · refine absurd doubled ?_
    by_cases now : "now" = id
    · subst now
      simp [Doubled, contenders, clocks, declared, applies, isSpecific]
    · simp [Doubled, contenders, clocks, declared, applies, now]
  · refine ⟨same, selected, chosen, chosen', ?_⟩
    rw [(agree selected selected chosen chosen').2 "now"]
    decide

/-- Two declarations for all databases are of a kind, and whether that is noticed depends on where
the one for a database stands. -/
theorem exists_select_of_shadowed :
    ∃ generic other specific : StatementDraft,
      [generic, other, specific].Perm [generic, specific, other] ∧
      Doubled (contenders (some "sqlite") "now" [generic, specific, other]) ∧
      (∃ e, select [generic, other, specific] (some "sqlite") = .error e) ∧
      ∃ selected, select [generic, specific, other] (some "sqlite") = .ok selected := by
  refine ⟨declared "now" "select 1" none, declared "now" "select 3" none,
    declared "now" "select 2" (some "sqlite"), (List.Perm.swap _ _ _).cons _, by decide,
    ⟨duplicate "now", rfl⟩, _, rfl⟩

end StatementDraft

end MappedSql
