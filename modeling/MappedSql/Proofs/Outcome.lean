import Mathlib.Data.List.Forall2
import MappedSql.Template.Context

namespace MappedSql

variable {α β : Type}

theorem bind_eq_ok {act : Except Error α} {next : α → Except Error β} {b : β} :
    (act >>= next) = .ok b ↔ ∃ a, act = .ok a ∧ next a = .ok b := by
  cases act <;> simp [bind, Except.bind]

theorem pure_eq_ok {a b : α} : (pure a : Except Error α) = .ok b ↔ a = b := by
  simp [pure, Except.pure]

theorem failWith_ne_ok {cause : Cause} {a : α} :
    (failWith cause : Except Error α) ≠ .ok a := by
  simp [failWith, throw, throwThe, MonadExceptOf.throw]

theorem toOption_eq_some {ε : Type} {result : Except ε α} {a : α} :
    result.toOption = some a ↔ result = .ok a := by
  cases result with
  | error e => simp [Except.toOption]
  | ok b => simp [Except.toOption]

theorem exists_of_isOk {ε : Type} {result : Except ε α} (went : result.isOk = true) :
    ∃ a, result = .ok a := by
  cases result with
  | error e => cases went
  | ok a => exact ⟨a, rfl⟩

theorem mapM_eq_ok {f : α → Except Error β} {as : List α} {bs : List β} :
    as.mapM f = .ok bs ↔ List.Forall₂ (fun a b => f a = .ok b) as bs := by
  induction as generalizing bs with
  | nil => rw [List.mapM_nil, pure_eq_ok, List.forall₂_nil_left_iff, eq_comm]
  | cons a as ih =>
      simp only [List.mapM_cons, bind_eq_ok, pure_eq_ok, List.forall₂_cons_left_iff]
      constructor
      · rintro ⟨b, found, rest, others, rfl⟩
        exact ⟨b, rest, found, ih.1 others, rfl⟩
      · rintro ⟨b, rest, found, others, rfl⟩
        exact ⟨b, found, rest, ih.2 others, rfl⟩

theorem forall₂_common {α β γ : Type} {r : α → β → Prop} {s : α → γ → Prop} {as : List α}
    {bs : List β} {cs : List γ} (left : List.Forall₂ r as bs) (right : List.Forall₂ s as cs) :
    List.Forall₂ (fun b c => c ∈ cs ∧ ∃ a, r a b ∧ s a c) bs cs := by
  induction left generalizing cs with
  | nil =>
      cases right
      exact .nil
  | @cons a b as bs first rest ih =>
      cases right with
      | @cons _ c _ cs firstRight restRight =>
          refine .cons ⟨by simp, a, first, firstRight⟩ ((ih restRight).imp ?_)
          rintro b c ⟨mem, related⟩
          exact ⟨by simp [mem], related⟩

namespace Render

theorem bind_eq_ok {act : Render α} {next : α → Render β} {context after : Context} {b : β} :
    (act >>= next) context = (.ok b, after) ↔
      ∃ a middle, act context = (.ok a, middle) ∧ next a middle = (.ok b, after) := by
  change (ExceptT.bindCont next (act context).1) (act context).2 = (.ok b, after) ↔ _
  rcases act context with ⟨e | a, middle⟩
  · constructor
    · intro done
      cases done
    · rintro ⟨a, between, ⟨⟩, -⟩
  · change next a middle = (Except.ok b, after) ↔ _
    constructor
    · intro done
      exact ⟨a, middle, rfl, done⟩
    · rintro ⟨other, between, ⟨⟩, done⟩
      exact done

@[simp] theorem pure_eq_ok {a b : α} {context after : Context} :
    (pure a : Render α) context = (.ok b, after) ↔ a = b ∧ context = after := by
  change (Except.ok a, context) = (Except.ok b, after) ↔ _
  simp

@[simp] theorem modify_eq_ok {change : Context → Context} {context after : Context} {u : Unit} :
    (modify change : Render Unit) context = (.ok u, after) ↔ change context = after := by
  change (Except.ok (), change context) = (Except.ok u, after) ↔ _
  simp

@[simp] theorem get_eq_ok {context after result : Context} :
    (get : Render Context) context = (.ok result, after) ↔ context = result ∧ context = after := by
  change (Except.ok context, context) = (Except.ok result, after) ↔ _
  simp

@[simp] theorem throw_ne_ok {e : Error} {context after : Context} {a : α} :
    (throw e : Render α) context ≠ (.ok a, after) := by
  change (Except.error e, context) ≠ (Except.ok a, after)
  simp

theorem isolated_eq_ok {body : Render α} {context after : Context} {result : α} {text : String} :
    isolated body context = (.ok (result, text), after) ↔
      ∃ inner, body { context with sql := "" } = (.ok result, inner) ∧
        text = inner.sql ∧ after = { inner with sql := context.sql } := by
  unfold isolated
  rcases body { context with sql := "" } with ⟨_ | a, inner⟩
  · constructor
    · nofun
    · rintro ⟨inner, ⟨⟩, -⟩
  · constructor
    · rintro ⟨⟩
      exact ⟨inner, rfl, rfl, rfl⟩
    · rintro ⟨inner, ⟨⟩, rfl, rfl⟩
      rfl

end Render

end MappedSql
