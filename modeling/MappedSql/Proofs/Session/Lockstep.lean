import MappedSql.Proofs.Session.Cursors
import MappedSql.Proofs.Session.Publication

namespace MappedSql

open MappedSql.Action (Tracks)
open Scene (CalmTwins)
open Session (toScene)

variable {pipeline : Pipeline Recording} {strict : Prop} {admits : Handler → Prop} {kin : Kin}
  {apart : List StatementId} {due : List (Value × Nat)}

namespace Session

variable {α β : Type}

def Over (holds : Scene Recording → Scene Recording → Prop) (s t : SessionScene Recording) : Prop :=
  holds (toScene s) (toScene t) ∧ s.session.autocommit = t.session.autocommit ∧
    s.session.dirty = t.session.dirty

theorem Over.mono {holds more : Scene Recording → Scene Recording → Prop}
    {s t : SessionScene Recording} (flagged : Over holds s t)
    (implies : ∀ s t, holds s t → more s t) : Over more s t :=
  ⟨implies _ _ flagged.1, flagged.2⟩

theorem tracks_perform {pre fails : Scene Recording → Scene Recording → Prop}
    {post : α → β → Scene Recording → Scene Recording → Prop} {left : Work Recording α}
    {right : Work Recording β} (tracks : Tracks strict pre left right post fails) :
    Tracks strict (Over pre) (perform left) (perform right) (fun a b => Over (post a b))
      (Over fails) := by
  rintro s t ⟨held, flags⟩
  obtain ⟨goes, stops⟩ := tracks (toScene s) (toScene t) held
  refine ⟨fun b done => ?_, fun isStrict e failed => ?_⟩
  · obtain ⟨a, ran, holds⟩ := goes b done
    exact ⟨a, ran, holds, flags⟩
  · obtain ⟨ran, holds⟩ := stops isStrict e failed
    exact ⟨ran, holds, flags⟩

theorem tracks_setDirty {holds : Scene Recording → Scene Recording → Prop} (dirty : Bool) :
    Tracks strict (Over holds) (setDirty dirty) (setDirty dirty) (fun _ _ => Over holds)
      (Over holds) :=
  Tracks.modify fun _ _ flagged => ⟨flagged.1, flagged.2.1, rfl⟩

def Admitted (pipeline : Pipeline Recording) (admits : Handler → Prop) (id : String)
    (parameter : Value) : Prop :=
  ∀ statement, pipeline.configuration.statement id = .ok statement →
    pipeline.Admits admits statement parameter

def Ready (kin : Kin) (apart : List StatementId) (due : List (Value × Nat)) (asked : Value → Prop)
    (s t : SessionScene Recording) : Prop :=
  asked t.parameter ∧ Over (Scene.Twins kin True apart due) s t

variable (lockstep : Lockstep pipeline strict admits kin) (plain : pipeline.Plain)
  (recorded : pipeline.source = Recording.source)

include lockstep plain

theorem tracks_list (name : String) (bounds : RowBounds) :
    Tracks strict (Ready kin apart due (Admitted pipeline admits name)) (list pipeline name bounds)
      (list pipeline name bounds) (fun a b s t => a = b ∧ Over (CalmTwins kin True apart due) s t)
      (Over (CalmTwins kin True apart due)) := by
  refine Tracks.same_bind _ (fun statement found => ?_)
    fun s t ready => ready.2.mono fun _ _ twins => twins.calm
  refine Tracks.get_bind fun s t ready => ?_
  have same : s.parameter = t.parameter := ready.2.1.parameter trivial
  rw [same]
  have queried := tracks_perform (@Executor.tracks_query pipeline strict admits kin True apart due
    lockstep plain statement t.parameter bounds (ready.1 statement found))
  refine (queried.inContext _).weaken (fun _ _ ready => ready.2) ?_ (fun _ _ => id) id
  rintro a b s t ⟨⟨rfl, calm⟩, flags⟩
  exact ⟨rfl, calm, flags⟩

theorem tracks_one (name : String) :
    Tracks strict (Ready kin apart due (Admitted pipeline admits name)) (one pipeline name)
      (one pipeline name) (fun a b s t => a = b ∧ Over (CalmTwins kin True apart due) s t)
      (Over (CalmTwins kin True apart due)) := by
  refine (tracks_list lockstep plain name .unbounded).bind_same fun rows => ?_
  rcases rows with _ | ⟨row, _ | ⟨second, rest⟩⟩
  · exact Tracks.pure fun s t calm => ⟨rfl, calm⟩
  · exact Tracks.pure fun s t calm => ⟨rfl, calm⟩
  · exact Tracks.throw fun _ _ => id

def Opened (kin : Kin) (apart : List StatementId) (due : List (Value × Nat)) (a b : Cursor)
    (s t : SessionScene Recording) : Prop :=
  ∃ apart', a.Twins (apart' ++ apart) b ∧ Over (CalmTwins kin True (apart' ++ apart) due) s t

theorem tracks_cursor (name : String) (bounds : RowBounds) :
    Tracks strict (Ready kin apart due (Admitted pipeline admits name)) (cursor pipeline name bounds)
      (cursor pipeline name bounds) (Opened kin apart due) (Over (Scene.Twins kin True apart due)) := by
  refine Tracks.same_bind _ (fun statement found => ?_) fun s t ready => ready.2
  refine Tracks.get_bind fun s t ready => ?_
  have same : s.parameter = t.parameter := ready.2.1.parameter trivial
  rw [same]
  have opened := tracks_perform (@Executor.tracks_queryCursor pipeline strict admits kin True apart
    due lockstep plain statement t.parameter bounds (ready.1 statement found))
  refine (opened.inContext _).weaken (fun _ _ ready => ready.2) ?_ (fun _ _ => id) id
  rintro a b s t ⟨⟨apart', twin, calm⟩, flags⟩
  exact ⟨apart', twin, calm, flags⟩

theorem tracks_update (name : String) :
    Tracks strict (Ready kin apart due (Admitted pipeline admits name)) (update pipeline name)
      (update pipeline name)
      (fun a b s t => (strict → a = b) ∧
        Over (Scene.Twins kin strict apart (due ++ [(t.parameter, b)])) s t)
      (Over (Scene.Twins kin True apart due)) := by
  refine Tracks.same_bind _ (fun statement found => ?_) fun s t ready => ready.2
  have marked : Tracks strict (Ready kin apart due (Admitted pipeline admits name)) (setDirty true)
      (setDirty true) (fun _ _ => Ready kin apart due (Admitted pipeline admits name))
      (Over (Scene.Twins kin True apart due)) :=
    Tracks.modify fun s t ready => ⟨ready.1, ready.2.1, ready.2.2.1, rfl⟩
  refine marked.bind fun _ _ => ?_
  have updated := tracks_perform (@Executor.tracks_update pipeline strict admits kin apart due lockstep
    plain statement)
  refine (updated.inContext _).weaken ?_ ?_ (fun s t flagged => flagged) id
  · exact fun s t ready => ⟨⟨ready.1 statement found, ready.2.1⟩, ready.2.2⟩
  · rintro a b s t ⟨⟨same, twins⟩, flags⟩
    exact ⟨same, twins, flags⟩

theorem tracks_flush :
    Tracks strict (Over (Scene.Twins kin True apart due)) (flush pipeline) (flush pipeline)
      (fun a b s t => (strict → a = b) ∧ Over (Scene.Twins kin True apart []) s t)
      (Over (Scene.Twins kin True apart due)) := by
  have flushed := tracks_perform (@Executor.tracks_flush pipeline strict admits kin True apart due
    lockstep plain)
  refine (flushed.inContext _).weaken (fun _ _ => id) ?_ (fun _ _ => id) id
  rintro a b s t ⟨⟨same, twins⟩, flags⟩
  exact ⟨same, twins, flags⟩

omit lockstep plain in
theorem tracks_ending {work : Bool → Work Recording Unit} {post fails : Scene Recording →
    Scene Recording → Prop} (force : Bool) (context : String)
    (tracks : ∀ required, Tracks strict (Scene.Twins kin True apart due) (work required)
      (work required) (fun _ _ => post) fails) :
    Tracks strict (Over (Scene.Twins kin True apart due))
      (do
        let required := (← get).session.required force
        (perform (work required)).inContext context
        setDirty false)
      (do
        let required := (← get).session.required force
        (perform (work required)).inContext context
        setDirty false)
      (fun _ _ => Over post) (Over fails) := by
  refine Tracks.get_bind fun s t flagged => ?_
  have same : s.session.required force = t.session.required force := by
    unfold required
    rw [flagged.2.1, flagged.2.2]
  dsimp only
  rw [same]
  refine ((tracks_perform (tracks _)).inContext context).bind fun _ _ => ?_
  exact Tracks.modify fun s t flagged => ⟨flagged.1, flagged.2.1, rfl⟩

theorem tracks_commit (recorded : pipeline.source = Recording.source) (force : Bool) :
    Tracks strict (Over (Scene.Twins kin True apart due)) (commit pipeline force)
      (commit pipeline force) (fun _ _ => Over (Scene.Twins kin True apart []))
      (Over (CalmTwins kin True apart due)) :=
  tracks_ending force _ (Executor.tracks_commit lockstep plain recorded)

theorem tracks_rollback (recorded : pipeline.source = Recording.source) (isStrict : strict)
    (force : Bool) :
    Tracks strict (Over (Scene.Twins kin True apart due)) (rollback pipeline force)
      (rollback pipeline force) (fun _ _ => Over (Scene.Twins kin True apart due))
      (Over (Scene.Twins kin True apart due)) :=
  tracks_ending force _ (Executor.tracks_rollback lockstep plain recorded isStrict)

omit lockstep plain in
theorem tracks_clearCache :
    Tracks strict (Over (Scene.Twins kin True apart due)) (clearCache : Act Recording Unit) clearCache
      (fun _ _ => Over (Scene.Twins kin True apart due)) (Over (Scene.Twins kin True apart due)) :=
  tracks_perform Executor.tracks_clearLocal

omit plain in
theorem tracks_close (recorded : pipeline.source = Recording.source) (isStrict : strict) :
    Tracks strict (Over (Scene.Twins kin True apart due)) (close pipeline) (close pipeline)
      (fun _ _ => Over (Scene.Twins kin True apart due)) (Over (Scene.Twins kin True apart due)) := by
  refine Tracks.get_bind fun s t flagged => ?_
  have closed : t.session.isClosed = s.session.isClosed := flagged.1.closed
  have same : s.session.required false = t.session.required false := by
    unfold required
    rw [flagged.2.1, flagged.2.2]
  dsimp only
  rw [closed, same]
  cases s.session.isClosed with
  | true => exact Tracks.pure fun _ _ => id
  | false =>
      have ended := tracks_perform (@Executor.tracks_close pipeline strict admits kin True apart due
        lockstep recorded isStrict (t.session.required false))
      exact ended.bind fun _ _ => tracks_setDirty false

def handOut {τ : Type} (receive : Nat → Value → Action τ Bool) (receiver : τ) (opened : Cursor) :
    Act Recording (Except Error Unit × τ) :=
  onSource fun source =>
    let (result, ((source, _), receiver)) :=
      (stream Recording.source receive opened.bounds.limit).run ((source, opened), receiver)
    (.ok (result, receiver), source)

omit lockstep plain in
theorem handOut_apply {τ : Type} (receive : Nat → Value → Action τ Bool) (receiver : τ)
    {opened : Cursor} {limit : Nat} (same : opened.bounds.limit = limit)
    (scene : SessionScene Recording) :
    handOut receive receiver opened scene =
      let went := stream Recording.source receive limit ((scene.source, opened), receiver)
      (.ok (went.1, went.2.2), { scene with source := went.2.1.1 }) := by
  subst same
  rfl

omit plain in
theorem tracks_handOut {τ : Type} (receive : Nat → Value → Action τ Bool) (receiver : τ)
    {opened opened' : Cursor} (twin : opened.Twins apart opened') :
    Tracks strict (Over (CalmTwins kin True apart due)) (handOut receive receiver opened)
      (handOut receive receiver opened')
      (fun a b s t => a = b ∧ Over (CalmTwins kin True apart due) s t)
      (Over (CalmTwins kin True apart due)) := by
  refine Tracks.through ?_
  rintro s t ⟨⟨due', calm, twins⟩, flags⟩
  have limit : opened'.bounds.limit = opened.bounds.limit := by rw [twin.fields.2.2.1]
  have streamed := (@tracks_stream τ apart s.source t.source receive opened.bounds.limit).weaken
    (fun _ _ => id) (fun _ _ s t (held : Beside apart _ _ s t) => (⟨rfl, held⟩ : () = () ∧ _))
    (fun _ _ => id) id
  have begun : Beside apart s.source t.source ((s.source, opened), receiver)
      ((t.source, opened'), receiver) :=
    ⟨⟨⟨.refl _ _, .refl _ _, lockstep.rowSources twins.kin⟩, twin⟩, rfl⟩
  obtain ⟨ran, ⟨rows, -⟩, receivers⟩ := streamed.alike begun
  rw [handOut_apply receive receiver rfl, handOut_apply receive receiver limit]
  refine ⟨_, _, rfl, rfl, Prod.ext ran receivers, ⟨due', calm, ?_⟩, flags⟩
  exact lockstep.drift twins rows.own rows.other rows.rowSources

def handIfOpened {τ : Type} (receive : Nat → Value → Action τ Bool) (receiver : τ) :
    Except Error Cursor → Act Recording (Except Error Unit × τ)
  | .error e => return (.error e, receiver)
  | .ok opened => handOut receive receiver opened

omit lockstep plain in
theorem handIfOpened_ok {τ : Type} (receive : Nat → Value → Action τ Bool) (receiver : τ)
    (result : Except Error Cursor) (scene : SessionScene Recording) :
    ∃ answer, (handIfOpened receive receiver result scene).1 = .ok answer := by
  cases result with
  | error e => exact ⟨_, rfl⟩
  | ok opened => exact ⟨_, congrArg Prod.fst (handOut_apply receive receiver rfl scene)⟩

omit lockstep plain in
theorem select_eq {τ : Type} (recorded : pipeline.source = Recording.source) (name : String)
    (bounds : RowBounds) (receive : Nat → Value → Action τ Bool) (receiver : τ) :
    select pipeline name bounds receive receiver =
      (cursor pipeline name bounds).attempt >>= handIfOpened receive receiver := by
  unfold select
  rw [recorded]
  congr 1

theorem tracks_select {τ : Type} (recorded : pipeline.source = Recording.source) (name : String)
    (bounds : RowBounds) (receive : Nat → Value → Action τ Bool) (receiver : τ) :
    Tracks strict (Ready kin apart due (Admitted pipeline admits name))
      (select pipeline name bounds receive receiver) (select pipeline name bounds receive receiver)
      (fun a b s t => strict ∨ b.1 = .ok () →
        a = b ∧ ∃ apart', Over (CalmTwins kin True (apart' ++ apart) due) s t)
      (Over (CalmTwins kin True apart due)) := by
  rw [select_eq recorded]
  refine (tracks_cursor lockstep plain name bounds).attempt.bind fun a b => ?_
  cases b with
  | error e =>
      refine Tracks.through fun s t attempted => ?_
      obtain ⟨answer, went⟩ := handIfOpened_ok receive receiver a s
      refine ⟨answer, (.error e, receiver), went, rfl, fun known => ?_⟩
      obtain isStrict | no := known
      · obtain ⟨rfl, twins, flags⟩ := attempted.failed isStrict e rfl
        obtain rfl := Except.ok.inj went
        exact ⟨rfl, [], twins.calm, flags⟩
      · cases no
  | ok opened' =>
      intro s t attempted
      obtain ⟨opened, rfl, apart', twin, flagged⟩ := attempted.done opened' rfl
      have handed := @tracks_handOut pipeline strict admits kin (apart' ++ apart) due lockstep τ receive
        receiver opened opened' twin
      obtain ⟨answer, went⟩ := handIfOpened_ok receive receiver (.ok opened') t
      refine ⟨fun answer done => ?_, fun _ e failed => by cases went.symm.trans failed⟩
      obtain ⟨_, ran, rfl, calm⟩ := (handed s t flagged).1 answer done
      exact ⟨_, ran, fun _ => ⟨rfl, apart', calm⟩⟩

end Session

theorem Cursor.Twins.mono {apart' : List StatementId} {left right : Cursor}
    (twin : left.Twins apart right) : left.Twins (apart' ++ apart) right :=
  ⟨twin.same, fun st own => List.mem_append_right _ (twin.statement st own)⟩

def Settles (due written due' : List (Value × Nat)) : Prop :=
  due' = due ++ written ∨ written = [] ∧ due' = []

theorem Calm.settles {due' : List (Value × Nat)} (calm : Calm due due') : Settles due [] due' := by
  rcases calm with rfl | rfl
  · exact .inl (List.append_nil _).symm
  · exact .inr ⟨rfl, rfl⟩

namespace Session.Call

def Asked (pipeline : Pipeline Recording) (admits : Handler → Prop) (call : Call)
    (parameter : Value) : Prop :=
  ∀ name, call.statement? = some name → Admitted pipeline admits name parameter

def Forward : Call → Prop
  | rollback _ | close => False
  | _ => True

def CatchesUp : Call → Prop
  | flush | commit _ => True
  | _ => False

def Done : (call : Call) → call.Reply → Prop
  | select _ _ _ _, reply => reply.1 = .ok ()
  | _, _ => True

def written : (call : Call) → call.Reply → Value → List (Value × Nat)
  | update _, count, parameter => [(parameter, count)]
  | _, _, _ => []

structure Answered (strict : Prop) (kin : Kin) (apart : List StatementId) (due : List (Value × Nat))
    (call : Call) (a b : call.Reply × List Cursor) (s t : SessionScene Recording) : Prop where
  done : call.Done b.1 → call.Done a.1
  same : strict → a.1 = b.1
  after : ∃ apart' due', List.Forall₂ (Cursor.Twins (apart' ++ apart)) a.2 b.2 ∧
    Settles due (call.written b.1 t.parameter) due' ∧ (call.CatchesUp → due' = []) ∧
    Over (Scene.Twins kin strict (apart' ++ apart) due') s t

theorem Answered.of_calm {call : Call} {reply : call.Reply} {s t : SessionScene Recording}
    (silent : call.written reply t.parameter = []) (owes : ¬call.CatchesUp)
    (flagged : Over (CalmTwins kin True apart due) s t) :
    Answered strict kin apart due call (reply, []) (reply, []) s t := by
  obtain ⟨⟨due', calm, twins⟩, flags⟩ := flagged
  refine ⟨id, fun _ => rfl, [], due', .nil, ?_, fun catches => absurd catches owes,
    twins.weaken fun _ => trivial, flags⟩
  rw [silent]
  exact calm.settles

variable (lockstep : Lockstep pipeline strict admits kin) (plain : pipeline.Plain)
  (recorded : pipeline.source = Recording.source)

include lockstep plain recorded

theorem tracks_ask (call : Call) (forward : strict ∨ call.Forward) :
    Tracks strict (Ready kin apart due (call.Asked pipeline admits)) (call.ask pipeline)
      (call.ask pipeline)
      (fun a b s t => strict ∨ call.Done b.1 → Answered strict kin apart due call a b s t)
      (Over (CalmTwins kin True apart due)) := by
  have calm {s t : SessionScene Recording} (flagged : Over (Scene.Twins kin True apart due) s t) :
      Over (CalmTwins kin True apart due) s t := flagged.mono fun _ _ twins => twins.calm
  have asks {name : String} {s t : SessionScene Recording}
      (ready : Ready kin apart due (fun parameter => ∀ other, some name = some other →
        Admitted pipeline admits other parameter) s t) :
      Ready kin apart due (Admitted pipeline admits name) s t := ⟨ready.1 name rfl, ready.2⟩
  -- an update adds to what is owed, a flush or a commit pays it, and the rest leave it or pay it
  cases call with
  | list name bounds =>
      refine ((tracks_list lockstep plain name bounds).under fun _ _ => asks).bind_same fun rows => ?_
      exact Tracks.pure fun s t flagged _ => .of_calm rfl id flagged
  | one name =>
      refine ((tracks_one lockstep plain name).under fun _ _ => asks).bind_same fun row => ?_
      exact Tracks.pure fun s t flagged _ => .of_calm rfl id flagged
  | cursor name bounds =>
      refine (((tracks_cursor lockstep plain name bounds).under fun _ _ => asks).failing
        fun _ _ => calm).bind fun a b => ?_
      refine Tracks.pure fun s t opened _ => ⟨id, fun _ => rfl, ?_⟩
      obtain ⟨apart', twin, ⟨due', quiet, twins⟩, flags⟩ := opened
      exact ⟨apart', due', .cons twin .nil, quiet.settles, fun no => no.elim,
        twins.weaken fun _ => trivial, flags⟩
  | select name bounds receive receiver =>
      refine ((tracks_select lockstep plain recorded name bounds receive receiver).under
        fun _ _ => asks).bind fun a b => ?_
      refine Tracks.pure fun s t selected known => ?_
      obtain ⟨rfl, apart', ⟨due', quiet, twins⟩, flags⟩ := selected known
      exact ⟨id, fun _ => rfl, apart', due', .nil, quiet.settles, fun no => no.elim,
        twins.weaken fun _ => trivial, flags⟩
  | update name =>
      refine (((tracks_update lockstep plain name).under fun _ _ => asks).failing
        fun _ _ => calm).bind fun a b => ?_
      exact Tracks.pure fun s t updated _ =>
        ⟨fun _ => trivial, updated.1, [], _, .nil, .inl rfl, fun no => no.elim, updated.2⟩
  | flush =>
      refine (((tracks_flush lockstep plain).under fun _ _ ready => ready.2).failing
        fun _ _ => calm).bind fun a b => ?_
      refine Tracks.pure fun s t flushed _ => ⟨fun _ => trivial, flushed.1, [], [], .nil,
        .inr ⟨rfl, rfl⟩, fun _ => rfl, flushed.2.mono fun _ _ twins => twins.weaken fun _ => trivial⟩
  | commit force =>
      refine ((tracks_commit lockstep plain recorded force).under
        fun _ _ ready => ready.2).bind fun _ _ => ?_
      exact Tracks.pure fun s t flagged _ => ⟨fun _ => trivial, fun _ => rfl, [], [], .nil,
        .inr ⟨rfl, rfl⟩, fun _ => rfl, flagged.mono fun _ _ twins => twins.weaken fun _ => trivial⟩
  | rollback force =>
      have isStrict : strict := forward.resolve_right id
      refine (((tracks_rollback lockstep plain recorded isStrict force).under
        fun _ _ ready => ready.2).failing fun _ _ => calm).bind fun _ _ => ?_
      exact Tracks.pure fun s t flagged _ => .of_calm rfl id (calm flagged)
  | clearCache =>
      refine ((tracks_clearCache.under fun _ _ ready => ready.2).failing
        fun _ _ => calm).bind fun _ _ => ?_
      exact Tracks.pure fun s t flagged _ => .of_calm rfl id (calm flagged)
  | close =>
      have isStrict : strict := forward.resolve_right id
      refine (((tracks_close lockstep recorded isStrict).under
        fun _ _ ready => ready.2).failing fun _ _ => calm).bind fun _ _ => ?_
      exact Tracks.pure fun s t flagged _ => .of_calm rfl id (calm flagged)

end Session.Call

theorem forall₂_place {α β : Type} {holds : α → β → Prop} {as : List α} {bs : List β}
    (all : List.Forall₂ holds as bs) (place : Nat) :
    (as[place]? = none ∧ bs[place]? = none) ∨
      ∃ a b, as[place]? = some a ∧ bs[place]? = some b ∧ holds a b ∧
        ∀ a' b', holds a' b' → List.Forall₂ holds (as.set place a') (bs.set place b') := by
  induction all generalizing place with
  | nil => exact .inl ⟨rfl, rfl⟩
  | @cons a b as bs first rest ih =>
      cases place with
      | zero => exact .inr ⟨a, b, rfl, rfl, first, fun a' b' holds => .cons holds rest⟩
      | succ place =>
          obtain ⟨none, none'⟩ | ⟨a', b', found, found', holds, sets⟩ := ih place
          · exact .inl ⟨none, none'⟩
          · exact .inr ⟨a', b', found, found', holds, fun a b holds => .cons first (sets a b holds)⟩

namespace Visit

namespace Move

def Asked (pipeline : Pipeline Recording) (admits : Handler → Prop) : Move → Prop
  | calls parameter call => call.Asked pipeline admits parameter
  | _ => True

def Forward : Move → Prop
  | calls _ call => call.Forward
  | _ => True

def CatchesUp : Move → Prop
  | calls _ call => call.CatchesUp
  | _ => False

def Done : (move : Move) → move.Reply → Prop
  | calls _ call, reply => ∃ answer, reply.1 = .ok answer ∧ call.Done answer
  | _, _ => True

def written : (move : Move) → move.Reply → List (Value × Nat)
  | calls _ call, (.ok answer, parameter) => call.written answer parameter
  | _, _ => []

end Move

structure Twins (kin : Kin) (apart : List StatementId) (due : List (Value × Nat))
    (s t : Visit Recording) : Prop where
  scene : ∀ parameter, Session.Over (Scene.Twins kin True apart due) (s.scene parameter)
    (t.scene parameter)
  cursors : List.Forall₂ (Cursor.Twins apart) s.cursors t.cursors

structure Matched (pipeline : Pipeline Recording) (strict : Prop) (kin : Kin)
    (due : List (Value × Nat)) (s t : Visit Recording) (move : Move) : Prop where
  after : ∃ apart' due', Twins kin apart' due' (s.step pipeline move).2 (t.step pipeline move).2 ∧
    Settles due (move.written (t.step pipeline move).1) due' ∧
    (move.CatchesUp → move.Done (t.step pipeline move).1 → due' = [])
  same : strict → (s.step pipeline move).1 = (t.step pipeline move).1
  done : move.Done (t.step pipeline move).1 → move.Done (s.step pipeline move).1

variable {s t : Visit Recording}

theorem twins_leave {alike : Prop} {apart' : List StatementId} {due' : List (Value × Nat)}
    {after after' : SessionScene Recording} {handed handed' : List Cursor}
    (twins : Twins kin apart due s t)
    (flagged : Session.Over (Scene.Twins kin alike (apart' ++ apart) due') after after')
    (cursors : List.Forall₂ (Cursor.Twins (apart' ++ apart)) handed handed') :
    Twins kin (apart' ++ apart) due' (s.leave after handed) (t.leave after' handed') := by
  obtain ⟨scene, flags⟩ := flagged
  refine ⟨fun parameter => ⟨⟨scene.sharing, fun _ => rfl, scene.executor, scene.kin⟩, flags⟩, ?_⟩
  have kept := twins.cursors.imp fun _ _ twin => @Cursor.Twins.mono apart apart' _ _ twin
  exact List.rel_append kept cursors

section

variable (lockstep : Lockstep pipeline strict admits kin) (plain : pipeline.Plain)
  (recorded : pipeline.source = Recording.source)

include lockstep plain recorded

theorem matched_calls (twins : Twins kin apart due s t) (parameter : Value) (call : Session.Call)
    (asked : call.Asked pipeline admits parameter) (forward : strict ∨ call.Forward)
    (goes : strict ∨ (Move.calls parameter call).Done (t.step pipeline (.calls parameter call)).1) :
    Matched pipeline strict kin due s t (.calls parameter call) := by
  obtain ⟨answers, fails⟩ := Session.Call.tracks_ask lockstep plain recorded call forward
    (s.scene parameter) (t.scene parameter) ⟨asked, twins.scene parameter⟩
  rcases went : call.ask pipeline (t.scene parameter) with ⟨e | ⟨reply', handed'⟩, after'⟩ <;>
    rw [went] at answers fails
  · -- where the other call fails, the two are compared only if all is strict
    have isStrict : strict := by
      obtain isStrict | ⟨answer, no, -⟩ := goes
      · exact isStrict
      · rw [ask_of_error went] at no
        cases no
    obtain ⟨failed, ⟨due', calm, left⟩, flags⟩ := fails isStrict e rfl
    rcases ran : call.ask pipeline (s.scene parameter) with ⟨e' | answer, after⟩ <;>
      rw [ran] at failed left flags
    · obtain rfl := Except.error.inj failed
      have replies : after.parameter = after'.parameter := left.parameter trivial
      have never : ¬(Move.calls parameter call).Done (t.step pipeline (.calls parameter call)).1 := by
        rintro ⟨answer, no, -⟩
        rw [ask_of_error went] at no
        cases no
      refine ⟨⟨[] ++ apart, due', ?_, ?_, fun _ done => absurd done never⟩, fun _ => ?_,
        fun done => absurd done never⟩
      · rw [ask_of_error went, ask_of_error ran]
        exact twins_leave twins ⟨left, flags⟩ .nil
      · rw [ask_of_error went]
        exact calm.settles
      · rw [ask_of_error went, ask_of_error ran, replies]
    · cases failed
  · obtain ⟨⟨reply, handed⟩, ran, answered⟩ := answers (reply', handed') rfl
    rcases ran' : call.ask pipeline (s.scene parameter) with ⟨e' | answer, after⟩ <;>
      rw [ran'] at ran answered
    · cases ran
    · obtain rfl := Except.ok.inj ran
      have known : strict ∨ call.Done reply' := by
        obtain isStrict | ⟨answer, same, done⟩ := goes
        · exact .inl isStrict
        · rw [ask_of_ok went] at same
          obtain rfl := Except.ok.inj same
          exact .inr done
      obtain ⟨done, same, apart', due', cursors, settles, catches, flagged⟩ := answered known
      refine ⟨⟨apart' ++ apart, due', ?_, ?_, fun last _ => catches last⟩, fun isStrict => ?_,
        fun goes => ?_⟩
      · rw [ask_of_ok went, ask_of_ok ran']
        exact twins_leave twins flagged cursors
      · rw [ask_of_ok went]
        exact settles
      · have replies : reply = reply' := same isStrict
        have parameters : after.parameter = after'.parameter := flagged.1.parameter isStrict
        rw [ask_of_ok went, ask_of_ok ran', replies, parameters]
      · rw [ask_of_ok went] at goes
        rw [ask_of_ok ran']
        obtain ⟨answer, same, holds⟩ := goes
        obtain rfl := Except.ok.inj same
        exact ⟨reply, rfl, done holds⟩

omit plain recorded in
theorem matched_onCursor {α : Type} {act : Action (Recording × Cursor) α}
    (tracks : ∀ apart s₀ t₀, Tracks True (Cursor.Beside apart s₀ t₀) act act
      (fun a b s t => a = b ∧ Cursor.Beside apart s₀ t₀ s t) (Cursor.Beside apart s₀ t₀))
    (twins : Twins kin apart due s t) (place : Nat) :
    (s.onCursor place act).1 = (t.onCursor place act).1 ∧
      Twins kin apart due (s.onCursor place act).2 (t.onCursor place act).2 := by
  obtain ⟨none, none'⟩ | ⟨c, d, found, found', twin, sets⟩ := forall₂_place twins.cursors place
  · rw [onCursor_of_none none, onCursor_of_none none']
    exact ⟨rfl, twins⟩
  · rw [onCursor_of_some found, onCursor_of_some found']
    have begun : Cursor.Beside apart s.source t.source (s.source, c) (t.source, d) :=
      ⟨⟨.refl _ _, .refl _ _, lockstep.rowSources (twins.scene .null).1.kin⟩, twin⟩
    obtain ⟨same, rows, after⟩ := (tracks apart s.source t.source).alike begun
    refine ⟨congrArg some same, fun parameter => ?_, sets _ _ after⟩
    obtain ⟨scene, flags⟩ := twins.scene parameter
    exact ⟨lockstep.drift scene rows.own rows.other rows.rowSources, flags⟩

theorem matched_step (twins : Twins kin apart due s t) (move : Move)
    (asked : move.Asked pipeline admits) (forward : strict ∨ move.Forward)
    (goes : strict ∨ move.Done (t.step pipeline move).1) :
    Matched pipeline strict kin due s t move := by
  have settled : Settles due [] due := .inl (List.append_nil due).symm
  cases move with
  | calls parameter call =>
      exact matched_calls lockstep plain recorded twins parameter call asked forward goes
  | next place =>
      have step (visit : Visit Recording) : visit.step pipeline (.next place) =
          visit.onCursor place (Cursor.next Recording.source) := by rw [← recorded]; rfl
      obtain ⟨same, after⟩ := matched_onCursor lockstep (fun _ _ _ => Cursor.tracks_next) twins place
      refine ⟨⟨apart, due, ?_, settled, fun no => no.elim⟩, fun _ => ?_, fun _ => trivial⟩
      · rw [step, step]
        exact after
      · rw [step, step]
        exact same
  | closes place =>
      have step (visit : Visit Recording) : visit.step pipeline (.closes place) =
          visit.onCursor place (Cursor.close Recording.source) := by rw [← recorded]; rfl
      have closes (apart : List StatementId) (s₀ t₀ : Recording) :=
        (@Cursor.tracks_close True apart s₀ t₀).weaken (fun _ _ => id)
          (fun a b _ _ held => (⟨rfl, held⟩ : a = b ∧ _)) (fun _ _ => id) id
      obtain ⟨same, after⟩ := matched_onCursor lockstep closes twins place
      refine ⟨⟨apart, due, ?_, settled, fun no => no.elim⟩, fun _ => ?_, fun _ => trivial⟩
      · rw [step, step]
        exact after
      · rw [step, step]
        exact same
  | drops place =>
      refine ⟨⟨apart, due, ?_, settled, fun no => no.elim⟩, fun _ => rfl, fun _ => trivial⟩
      show Twins kin apart due (s.letGo pipeline place) (t.letGo pipeline place)
      unfold letGo Cursor.drop
      rw [recorded]
      obtain ⟨none, none'⟩ | ⟨c, d, found, found', twin, -⟩ := forall₂_place twins.cursors place
      · rw [none, none']
        exact twins
      · rw [found, found']
        have begun : Cursor.Beside apart s.source t.source (s.source, c) (t.source, d) :=
          ⟨⟨.refl _ _, .refl _ _, lockstep.rowSources (twins.scene .null).1.kin⟩, twin⟩
        obtain ⟨rows, -⟩ := Cursor.tracks_close.after trivial begun
        refine ⟨fun parameter => ?_, ?_⟩
        · obtain ⟨scene, flags⟩ := twins.scene parameter
          exact ⟨lockstep.drift scene rows.own rows.other rows.rowSources, flags⟩
        · dsimp only
          rw [List.eraseIdx_eq_take_drop_succ, List.eraseIdx_eq_take_drop_succ]
          exact List.rel_append (List.forall₂_take place twins.cursors)
            (List.forall₂_drop (place + 1) twins.cursors)

end

end Visit

end MappedSql
