import MappedSql.Proofs.Template.Rendering
import MappedSql.Proofs.Template.Scanning
import MappedSql.Proofs.Template.Substitution

namespace MappedSql

namespace Piece

variable {m : Type → Type} [Monad m] [LawfulMonad m]

theorem replaceWith_append (handler : String → m String) (ps qs : List Piece) :
    replaceWith handler (ps ++ qs) = (do
      let left ← replaceWith handler ps
      let right ← replaceWith handler qs
      pure (left ++ right)) := by
  induction ps with
  | nil => simp only [List.nil_append, replaceWith, pure_bind, String.empty_append, bind_pure]
  | cons piece rest ih =>
    cases piece <;>
      simp only [List.cons_append, replaceWith, ih, bind_assoc, pure_bind, String.append_assoc]

theorem replaceWith_join (handler : String → m String) (ps qs : List Piece) (a b : List Char) :
    replaceWith handler (ps ++ .plain (a ++ b) :: qs) =
      replaceWith handler ((ps ++ [.plain a]) ++ .plain b :: qs) := by
  simp only [replaceWith_append, replaceWith, bind_assoc, pure_bind, String.ofList_append,
    String.append_assoc, String.append_empty]

end Piece

/-- Every opening in the first text is escaped or closed, and its end escapes or opens nothing. -/
structure Splits (mark : Char) (t : String) : Prop where
  settled : settles mark false t.toList
  ended : ∀ c ∈ t.toList.getLast?, c ≠ '\\' ∧ c ≠ mark

instance (mark : Char) (t : String) : Decidable (Splits mark t) :=
  decidable_of_iff
    (settles mark false t.toList ∧ t.toList.getLast?.all fun c => c != '\\' && c != mark)
    ⟨fun ⟨settled, ended⟩ => ⟨settled, by simpa [Option.all_eq_true] using ended⟩,
      fun splits => ⟨splits.settled, by simpa [Option.all_eq_true] using splits.ended⟩⟩

section

variable {mark : Char} {t : String} (splits : Splits mark t) (u : String)
include splits

theorem Splits.exists_ofText : ∃ ps a b qs, Piece.ofText mark t = ps ++ [.plain a] ∧
    Piece.ofText mark u = .plain b :: qs ∧
    Piece.ofText mark (t ++ u) = ps ++ .plain (a ++ b) :: qs := by
  unfold Piece.ofText
  rw [String.toList_append]
  exact Piece.exists_scan_append u.toList (by simpa using splits.settled)
    (by simpa [List.head?_reverse] using splits.ended)

theorem replaceTokens_append {m : Type → Type} [Monad m] [LawfulMonad m]
    (handler : String → m String) : replaceTokens mark (t ++ u) handler = (do
      let left ← replaceTokens mark t handler
      let right ← replaceTokens mark u handler
      pure (left ++ right)) := by
  obtain ⟨ps, a, b, qs, first, second, whole⟩ := splits.exists_ofText u
  rw [replaceTokens, replaceTokens, replaceTokens, whole, first, second, Piece.replaceWith_join,
    Piece.replaceWith_append]

theorem hasToken_append : hasToken mark (t ++ u) = (hasToken mark t || hasToken mark u) := by
  obtain ⟨ps, a, b, qs, first, second, whole⟩ := splits.exists_ofText u
  simp [hasToken, first, second, whole, Piece.isToken]

end

namespace Node

variable {context after : Context}

theorem context_of_spliced {content shown : String}
    (done : spliced none content context = (.ok shown, after)) : after = context := by
  simp only [spliced, Render.bind_eq_ok, Render.pure_eq_ok] at done
  obtain ⟨value, middle, evaluated, -, rfl⟩ := done
  exact Render.evaluate_eq_ok evaluated

theorem context_of_replaceWith {pieces : List Piece} {written : String}
    (done : Piece.replaceWith (spliced none) pieces context = (.ok written, after)) :
    after = context := by
  induction pieces generalizing after written with
  | nil => exact (Render.pure_eq_ok.1 done).2.symm
  | cons piece rest ih =>
    cases piece with
    | plain text =>
      simp only [Piece.replaceWith, Render.bind_eq_ok, Render.pure_eq_ok] at done
      obtain ⟨tail, middle, ran, -, rfl⟩ := done
      exact ih ran
    | token content =>
      simp only [Piece.replaceWith, Render.bind_eq_ok, Render.pure_eq_ok] at done
      obtain ⟨replaced, first, shown, tail, middle, ran, -, rfl⟩ := done
      obtain rfl := context_of_spliced shown
      exact ih ran

/-- The backslashes that a text loses next to another one: those of all its escapes, if only the other
one holds a token. -/
def lostBeside (other s : String) : Nat :=
  if hasToken '$' other && !hasToken '$' s then escapes '$' false s.toList else 0

theorem exists_render_ofText {s : String} {applied : Bool}
    (done : (ofText s).render context = (.ok applied, after)) :
    ∃ alone beside, after = context.append alone ∧
      replaceTokens '$' s (spliced none) context = (.ok beside, context) ∧
      (hasToken '$' s = false → alone = s) ∧
      ∀ other, hasToken '$' s || hasToken '$' other →
        Loses (lostBeside other s) beside.toList alone.toList := by
  unfold ofText at done
  split at done
  next holds =>
    simp only [render, Render.bind_eq_ok, Render.modify_eq_ok, Render.pure_eq_ok] at done
    obtain ⟨written, middle, replaced, _, _, rfl, -, rfl⟩ := done
    obtain rfl := context_of_replaceWith replaced
    refine ⟨written, written, rfl, replaced, by simp [holds], fun other _ => ?_⟩
    simpa [lostBeside, holds] using Loses.refl written.toList
  next plain =>
    have none : hasToken '$' s = false := by simpa using plain
    simp only [render, Render.bind_eq_ok, Render.modify_eq_ok, Render.pure_eq_ok] at done
    obtain ⟨_, _, rfl, -, rfl⟩ := done
    refine ⟨s, String.ofList ((Piece.ofText '$' s).flatMap (Piece.bare '$')), rfl, ?_, fun _ => rfl,
      fun other found => ?_⟩
    · rw [replaceTokens, Piece.replaceWith_of_plain _ '$' none]
      rfl
    · have beside : hasToken '$' other := by simpa [none] using found
      have lost : Loses (escapes '$' false s.toList)
          ((Piece.ofText '$' s).flatMap (Piece.bare '$')) s.toList :=
        Piece.loses_scan '$' [] s.toList
      rw [String.toList_ofList]
      simpa [lostBeside, none, beside] using lost

/-- A text put together from two renders to what these render to, one behind the other, without the
backslashes of a part that holds no token next to one that does. -/
theorem render_ofText_append {t u : String} (splits : Splits '$' t) {after' : Context}
    {applied applied' : Bool} (first : (ofText t).render context = (.ok applied, after))
    (second : (ofText u).render context = (.ok applied', after')) :
    ∃ left right whole, after = context.append left ∧ after' = context.append right ∧
      (ofText (t ++ u)).render context = (.ok true, context.append whole) ∧
      Loses (lostBeside u t + lostBeside t u) whole.toList (left ++ right).toList ∧
      (whole = left ++ right ↔ lostBeside u t = 0 ∧ lostBeside t u = 0) := by
  obtain ⟨left, leftBeside, rfl, replacedLeft, sameLeft, losesLeft⟩ := exists_render_ofText first
  obtain ⟨right, rightBeside, rfl, replacedRight, sameRight, losesRight⟩ :=
    exists_render_ofText second
  obtain ⟨whole, rendered, loses⟩ : ∃ whole,
      (ofText (t ++ u)).render context = (.ok true, context.append whole) ∧
      Loses (lostBeside u t + lostBeside t u) whole.toList (left ++ right).toList := by
    cases tokens : hasToken '$' (t ++ u) with
    | false =>
      refine ⟨t ++ u, by simp only [ofText, tokens, Bool.false_eq_true, if_false, render]; rfl, ?_⟩
      rw [hasToken_append splits, Bool.or_eq_false_iff] at tokens
      rw [sameLeft tokens.1, sameRight tokens.2]
      simpa [lostBeside, tokens] using Loses.refl _
    | true =>
      have replaced : replaceTokens '$' (t ++ u) (spliced none) context =
          (.ok (leftBeside ++ rightBeside), context) := by
        rw [replaceTokens_append splits]
        refine Render.bind_eq_ok.2 ⟨leftBeside, context, replacedLeft, ?_⟩
        exact Render.bind_eq_ok.2 ⟨rightBeside, context, replacedRight, rfl⟩
      refine ⟨leftBeside ++ rightBeside, ?_, ?_⟩
      · rw [ofText, if_pos tokens, render]
        exact Render.bind_eq_ok.2 ⟨_, context, replaced, rfl⟩
      · rw [hasToken_append splits] at tokens
        rw [String.toList_append, String.toList_append]
        exact (losesLeft u tokens).append (losesRight t (by rwa [Bool.or_comm]))
  refine ⟨left, right, whole, rfl, rfl, rendered, loses, ?_⟩
  rw [← String.toList_inj, loses.eq_iff, Nat.add_eq_zero_iff]

def ordering : String :=
  "order by $\x7bcolumn\x7d -- \\$\x7bcolumn\x7d\n"

def limiting : String :=
  "limit $\x7b limit \x7d -- \\$\x7blimit\x7d"

def ordered : Context :=
  .initial (.map [("column", .text "name"), ("limit", .int 3)]) none

theorem render_ofText_append_ordering : Splits '$' ordering ∧
    ∃ left right, (ofText ordering).render ordered = (.ok true, ordered.append left) ∧
      (ofText limiting).render ordered = (.ok true, ordered.append right) ∧
      (ofText (ordering ++ limiting)).render ordered =
        (.ok true, ordered.append (left ++ right)) := by
  have splits : Splits '$' ordering := by decide +kernel
  refine ⟨splits, ?_⟩
  have runs : ((ofText ordering).render ordered).1 = .ok true := by decide +kernel
  have runs' : ((ofText limiting).render ordered).1 = .ok true := by decide +kernel
  rcases first : (ofText ordering).render ordered with ⟨outcome, after⟩
  rcases second : (ofText limiting).render ordered with ⟨outcome', after'⟩
  rw [first] at runs
  rw [second] at runs'
  obtain rfl : outcome = .ok true := runs
  obtain rfl : outcome' = .ok true := runs'
  obtain ⟨left, right, whole, rfl, rfl, rendered, -, whenNone⟩ :=
    render_ofText_append splits first second
  obtain rfl := whenNone.2 (by decide +kernel)
  exact ⟨left, right, rfl, rfl, rendered⟩

theorem exists_render_ofText_append_ne : ∃ t u : String, ∃ context : Context, Splits '$' t ∧
    ((ofText t).render context).1.isOk ∧ ((ofText u).render context).1.isOk ∧
    ((ofText t).render context).2.sql = "\\$\x7ba\x7d " ∧
    ((ofText u).render context).2.sql = "1" ∧
    ((ofText (t ++ u)).render context).2.sql = "$\x7ba\x7d 1" :=
  ⟨"\\$\x7ba\x7d ", "$\x7bb\x7d", .initial (.map [("b", .int 1)]) none, by decide +kernel⟩

end Node

end MappedSql
