import DecBridge.Proofs.Session.Course

/-!
# Panics that wait

A panic of the host in a callback is not a fault at once. The engine keeps it,
the script sees an exception in its place, and the panic goes on when an
exception next leaves the engine, be it one that is thrown while another is put
into words. This module follows the panic that waits along the course of a
session: `pending` is that panic after some moments, and `Moment.stop?` says at
which moment it goes on. A failure of the engine goes on at once.

`Orderly` is what the moments of a part of a session have to do with how that
part stops: what goes on ends it there, and nothing else does. `Follows` carries
it through everything a session is made of, from the laws of the engine
(`Run.Keeps`) to the drive of a session.
-/

namespace DecBridge.Session

open DecBridge.Bundle (Locator)

open Engine (Failure Outcome)

open Script (Request Run)

variable {η σ α β : Type}

/-! ## The panic that waits -/

/-- Why the engine's part of a session stops before it comes to an outcome. -/
inductive Stop where
  | panic (payload : Payload)
  | failure (reason : String)

/-- The message of the fault that this is. -/
def Stop.message : Stop → String
  | .panic payload => panicMessage payload
  | .failure reason => reason

/-- The panic that waits after a moment, if `kept` did before it. -/
def Moment.keeping (kept : Option Payload) : Moment η σ → Option Payload
  | .callback _ _ (.panicked q, _) => some q
  | _ => kept

/-- What goes on at a moment, if the panic `kept` waits: the panic of a text that
the session prints itself, the panic that waits when an exception leaves the
engine, or the failure of the engine. -/
def Moment.stop? (kept : Option Payload) : Moment η σ → Option Stop
  | .console _ _ (.panicked q, _) => some (.panic q)
  | .crossed true => kept.map .panic
  | .failed reason => some (.failure reason)
  | _ => none

/-- A moment at which no call of the host panics and the engine does not fail. -/
def Moment.Calm : Moment η σ → Prop
  | .callback _ _ (.panicked _, _) | .console _ _ (.panicked _, _) | .failed _ => False
  | _ => True

/-- The panic that waits after some moments. -/
def pending (kept : Option Payload) (ms : List (Moment η σ)) : Option Payload :=
  ms.foldl Moment.keeping kept

theorem pending_append (kept : Option Payload) (ms ms' : List (Moment η σ)) :
    pending kept (ms ++ ms') = pending (pending kept ms) ms' := List.foldl_append

theorem Moment.Calm.stays {m : Moment η σ} (h : m.Calm) :
    m.keeping none = none ∧ m.stop? none = none := by
  cases m with
  | callback c before result =>
      obtain ⟨_ | _ | _ | _ | _, w⟩ := result
      case panicked => exact h.elim
      all_goals exact ⟨rfl, rfl⟩
  | console text before result =>
      obtain ⟨_ | _ | _ | _ | _, w⟩ := result
      case panicked => exact h.elim
      all_goals exact ⟨rfl, rfl⟩
  | crossed exceptional => cases exceptional <;> exact ⟨rfl, rfl⟩
  | failed reason => exact h.elim

/-- Without a panic none ever waits. -/
theorem pending_calm {ms : List (Moment η σ)} (h : ∀ m ∈ ms, m.Calm) :
    pending none ms = none := by
  induction ms with
  | nil => rfl
  | cons m ms ih =>
      show pending (m.keeping none) ms = none
      rw [(h m List.mem_cons_self).stays.1]
      exact ih fun x hx => h x (List.mem_cons_of_mem _ hx)

/-- A panic that waits is one that waited before or one of a callback. -/
theorem callback_of_pending {kept : Option Payload} {ms : List (Moment η σ)}
    {q : Payload} (h : pending kept ms = some q) :
    kept = some q ∨
      ∃ c before after, .callback c before (.panicked q, after) ∈ ms := by
  induction ms generalizing kept with
  | nil => exact .inl h
  | cons m ms ih =>
      rcases ih h with hkept | ⟨c, before, after, hmem⟩
      · cases m with
        | callback c before result =>
            obtain ⟨_ | q' | _ | _ | _, after⟩ := result
            case panicked =>
              obtain rfl : q' = q := Option.some.inj hkept
              exact .inr ⟨c, before, after, List.mem_cons_self⟩
            all_goals exact .inl hkept
        | console text before result => exact .inl hkept
        | crossed exceptional => exact .inl hkept
        | failed reason => exact .inl hkept
      · exact .inr ⟨c, before, after, List.mem_cons_of_mem _ hmem⟩

/-! ## Moments and the end they lead to -/

/-- What goes on is the last moment and the reason to stop, and without it there
is no reason to stop. -/
def Orderly (kept : Option Payload) : List (Moment η σ) → Option Stop → Prop
  | [], e => e = none
  | m :: ms, e =>
    match m.stop? kept with
    | some s => ms = [] ∧ e = some s
    | none => Orderly (m.keeping kept) ms e

namespace Orderly

variable {kept : Option Payload} {ms ms' : List (Moment η σ)} {e : Option Stop}

theorem append (h : Orderly kept ms none) (h' : Orderly (pending kept ms) ms' e) :
    Orderly kept (ms ++ ms') e := by
  induction ms generalizing kept with
  | nil => exact h'
  | cons m ms ih =>
      unfold Orderly at h
      show Orderly kept (m :: (ms ++ ms')) e
      unfold Orderly
      cases hm : m.stop? kept with
      | some s =>
          rw [hm] at h
          nomatch h.2
      | none =>
          rw [hm] at h
          exact ih h h'

/-- What goes on ends everything. -/
theorem stop (h : Orderly kept ms e) {pre post : List (Moment η σ)}
    {m : Moment η σ} {s : Stop} (hms : ms = pre ++ m :: post)
    (hm : m.stop? (pending kept pre) = some s) : post = [] ∧ e = some s := by
  induction pre generalizing kept ms with
  | nil =>
      subst hms
      change m.stop? kept = some s at hm
      change Orderly kept (m :: post) e at h
      unfold Orderly at h
      rw [hm] at h
      exact h
  | cons x pre ih =>
      subst hms
      change Orderly kept (x :: (pre ++ m :: post)) e at h
      unfold Orderly at h
      cases hx : x.stop? kept with
      | some s' =>
          rw [hx] at h
          exact absurd h.1 (by simp)
      | none =>
          rw [hx] at h
          exact ih h rfl hm

/-- If nothing goes on, there is no reason to stop. -/
theorem calm (h : Orderly kept ms e)
    (hms : ∀ pre m post, ms = pre ++ m :: post → m.stop? (pending kept pre) = none) :
    e = none := by
  induction ms generalizing kept with
  | nil => exact h
  | cons m ms ih =>
      have hm : m.stop? kept = none := hms [] m ms rfl
      unfold Orderly at h
      rw [hm] at h
      refine ih h fun pre x post hsplit => ?_
      exact hms (m :: pre) x post (by rw [hsplit, List.cons_append])

end Orderly

/-! ## Parts of a session -/

/-- The reason to stop that an exit is; `fails` says which values are failures. -/
def stopOf (fails : α → Option String) : Exit α → Option Stop
  | .done a => (fails a).map .failure
  | .panicked q => some (.panic q)
  | _ => none

/-- No value is a failure. -/
def unfailing (_ : α) : Option String := none

/-- An error is a failure. -/
def errorOf : Except String α → Option String
  | .error reason => some reason
  | .ok _ => none

/-- What holds of a part of a session that begins while `kept` waits and `host`
is in charge: its moments are orderly, and with a value that is no failure it
ends in a world where `host` is still in charge and the value fits the panic that
waits then. -/
def Follows (host : η) (kept : Option Payload) (fails : α → Option String) (x : Course η σ α)
    (post : α → Option Payload → Prop) : Prop :=
  ∀ w, w.link.slot = some host →
    Orderly kept (x w).2 (stopOf fails (x w).1.1) ∧
      ∀ a, (x w).1.1 = .done a → fails a = none →
        (x w).1.2.link.slot = some host ∧ post a (pending kept (x w).2)

section Follows

variable {p : Port η σ} {host : η} {kept : Option Payload}

theorem Follows.then {x : Course η σ α} {f : α → Course η σ β} {fails : α → Option String}
    {fails' : β → Option String} {mid : α → Option Payload → Prop}
    {post : β → Option Payload → Prop} (hx : Follows host kept fails x mid)
    (hf : ∀ a k, fails a = none → mid a k → Follows host k fails' (f a) post)
    (hfails : ∀ a reason, fails a = some reason →
      ∃ b, fails' b = some reason ∧ f a = Pure.pure b) :
    Follows host kept fails' (x >>= f) post := by
  intro w hw
  obtain ⟨horderly, hdone⟩ := hx w hw
  rcases hexit : (x w).1.1 with a | q | _ | _ | _
  case done =>
    rw [Watched.bind_of_done f hexit]
    rw [hexit] at horderly
    cases ha : fails a with
    | none =>
        obtain ⟨hw', hmid⟩ := hdone a hexit ha
        obtain ⟨horderly', hdone'⟩ := hf a _ ha hmid _ hw'
        have hcalm : stopOf fails (.done a) = none := congrArg (Option.map _) ha
        refine ⟨(hcalm ▸ horderly).append horderly', fun b hb hgood => ?_⟩
        dsimp only
        rw [pending_append]
        exact hdone' b hb hgood
    | some reason =>
        obtain ⟨b, hb, hpure⟩ := hfails a reason ha
        have hsame : stopOf fails (.done a) = stopOf fails' (.done b) :=
          congrArg (Option.map _) (ha.trans hb.symm)
        rw [hpure]
        show Orderly kept ((x w).2 ++ []) (stopOf fails' (.done b)) ∧ _
        rw [List.append_nil, ← hsame]
        refine ⟨horderly, fun b' hb' hgood => ?_⟩
        obtain rfl : b = b' := Exit.done.inj hb'
        nomatch hb.symm.trans hgood
  all_goals
    rw [hexit] at horderly
  case panicked =>
    rw [Watched.bind_of_broken f (b := .panicked q) hexit]
    exact ⟨horderly, fun b hb => nomatch hb⟩
  case terminated =>
    rw [Watched.bind_of_broken f (b := .terminated) hexit]
    exact ⟨horderly, fun b hb => nomatch hb⟩
  case killed =>
    rw [Watched.bind_of_broken f (b := .killed) hexit]
    exact ⟨horderly, fun b hb => nomatch hb⟩
  case stalled =>
    rw [Watched.bind_of_broken f (b := .stalled) hexit]
    exact ⟨horderly, fun b hb => nomatch hb⟩

theorem Follows.bind {x : Course η σ α} {f : α → Course η σ β} {fails : β → Option String}
    {mid : α → Option Payload → Prop} {post : β → Option Payload → Prop}
    (hx : Follows host kept unfailing x mid)
    (hf : ∀ a k, mid a k → Follows host k fails (f a) post) :
    Follows host kept fails (x >>= f) post :=
  hx.then (fun a k _ => hf a k) fun _ _ h => nomatch h

/-- A value that is no error, and fits the panic that waits. -/
def OkAnd (post : α → Option Payload → Prop) : Except String α → Option Payload → Prop
  | .ok a, k => post a k
  | .error _, _ => True

theorem Follows.proceed {x : Course η σ (Except String α)}
    {f : α → Course η σ (Except String β)} {mid : α → Option Payload → Prop}
    {post : Except String β → Option Payload → Prop}
    (hx : Follows host kept errorOf x (OkAnd mid))
    (hf : ∀ a k, mid a k → Follows host k errorOf (f a) post) :
    Follows host kept errorOf (x.proceed f) post := by
  refine Follows.then hx ?_ ?_
  · rintro (reason | a) k herror hmid
    · nomatch herror
    · exact hf a k hmid
  · rintro (reason | a) reason' herror
    · exact ⟨.error reason, herror, rfl⟩
    · nomatch herror

theorem Follows.pure {a : α} {fails : α → Option String} {post : α → Option Payload → Prop}
    (hgood : fails a = none) (h : post a kept) :
    Follows host kept fails (Pure.pure a : Course η σ α) post := by
  refine fun w hw => ⟨congrArg (Option.map _) hgood, fun b hb _ => ?_⟩
  obtain rfl : a = b := Exit.done.inj hb
  exact ⟨hw, h⟩

/-- A report to the log before something else. -/
theorem Follows.note {e : Log.Event} {x : Course η σ α} {fails : α → Option String}
    {post : α → Option Payload → Prop} (hx : Follows host kept fails x post) :
    Follows host kept fails (Watched.plain (Act.note e) >>= fun _ => x) post :=
  fun w hw => hx { w with log := w.log.push e } hw

theorem Follows.notes {es : List Log.Event} {x : Course η σ α} {fails : α → Option String}
    {post : α → Option Payload → Prop} (hx : Follows host kept fails x post) :
    Follows host kept fails (Watched.plain (Act.notes es) >>= fun _ => x) post :=
  fun w hw => hx { w with log := w.log ++ es.toArray } hw

/-! ## Callbacks -/

theorem stopOf_of_calm {e : Exit α} (h : ∀ q, e ≠ .panicked q) : stopOf unfailing e = none := by
  cases e with
  | panicked q => exact absurd rfl (h q)
  | _ => rfl

theorem serveSafely_eq (l : Locator) (r : Request) (w : World η σ) :
    serveSafely p l r w =
      match serve p l r w with
      | (.panicked payload, w') => (.done (.panicked payload), w')
      | other => other := by
  show Act.bind (Act.catching (serve p l r)) _ w = _
  unfold Act.bind Act.catching
  rcases serve p l r w with ⟨_ | _ | _ | _ | _, w'⟩ <;> rfl

/-- Serving a request never panics, and the panic that waits afterwards is the
one that the engine keeps with the answer. -/
theorem serveSafely_keeping (p : Port η σ) (l : Locator) (r : Request)
    (kept : Option Payload) {w : World η σ} (hw : w.link.slot = some host) :
    (∀ q, (serveSafely p l r w).1 ≠ .panicked q) ∧
      ∀ answer, (serveSafely p l r w).1 = .done answer →
        pending kept (callbacks p l r w) = answer.keeping kept := by
  rw [serveSafely_eq]
  unfold callbacks
  cases hc : call? l r w with
  | none =>
      obtain ⟨text, w', hserve⟩ := serve_unreaching (p := p) hc
      rw [hserve]
      refine ⟨fun q hq => (nomatch hq), fun answer ha => ?_⟩
      obtain rfl := Exit.done.inj ha
      rfl
  | some cb =>
      obtain ⟨c, before⟩ := cb
      obtain ⟨finish, hfinish, hserve⟩ := serve_reaching (p := p) hw hc
      have hbefore : before.link.slot = some host :=
        (congrArg Link.slot (call?_link hc)).trans hw
      dsimp only
      rw [hserve, Act.bind_apply, Link.call_reaching hbefore]
      unfold Act.bind
      rcases p host c before with ⟨a | q | _ | _ | _, w'⟩
      · obtain ⟨answer, w'', hanswer, hkeeps⟩ := hfinish a w'
        dsimp only
        rw [hanswer]
        refine ⟨fun q hq => (nomatch hq), fun answer' ha => ?_⟩
        obtain rfl := Exit.done.inj ha
        exact (hkeeps kept).symm
      · refine ⟨fun q hq => (nomatch hq), fun answer ha => ?_⟩
        obtain rfl := Exit.done.inj ha
        rfl
      · exact ⟨fun q hq => (nomatch hq), fun answer ha => (nomatch ha)⟩
      · exact ⟨fun q hq => (nomatch hq), fun answer ha => (nomatch ha)⟩
      · exact ⟨fun q hq => (nomatch hq), fun answer ha => (nomatch ha)⟩

theorem serveSafely_follows (hp : p.Steady) (l : Locator) (r : Request) :
    Follows host kept unfailing (Watched.of (serveSafely p l r) (callbacks p l r))
      fun answer k => k = answer.keeping kept := by
  intro w hw
  obtain ⟨hcalm, hkeeping⟩ := serveSafely_keeping p l r kept hw
  have hstay := (serveSafely_alike hp l r w (isAttached_of_slot hw)).2
  refine ⟨?_, fun answer ha _ => ⟨?_, hkeeping answer ha⟩⟩
  · show Orderly kept (callbacks p l r w) (stopOf unfailing (serveSafely p l r w).1)
    rw [stopOf_of_calm hcalm]
    unfold callbacks
    cases call? l r w with
    | none => exact rfl
    | some cb => exact rfl
  · exact (congrArg Link.slot hstay.link).trans hw

/-! ## The engine -/

section Engine

variable (hp : p.Steady) (E : Engine) (l : Locator)
include hp

omit E in
theorem watchPerform_follows {S : Type} {keeps : S → Option Payload} {x : Run (α × S)}
    (hx : x.Keeps keeps kept) :
    Follows host kept unfailing (watchPerform p l x) fun r k => keeps r.2 = k := by
  induction x generalizing kept with
  | done r => exact Follows.pure rfl hx
  | stalled => exact fun w _ => ⟨rfl, fun a ha => nomatch ha⟩
  | ask r resume ih =>
      refine (serveSafely_follows hp l r).bind fun answer k hk => ?_
      subst hk
      exact ih answer (hx answer)

/-- An operation of the engine ends with an exception only if no panic waits, and
else with the panic; whatever it ends with, the engine keeps the panic that
waits. -/
theorem watchCrossing_follows {x : Outcome E.State E.Value α} (hx : x.Keeps E.kept kept) :
    Follows host kept unfailing (watchCrossing E p l x) fun r k => E.kept r.2 = k := by
  refine (watchPerform_follows hp l hx).bind ?_
  rintro ⟨(v | _ | message) | a, s⟩ k rfl
  case error.thrown =>
    intro w hw
    show Orderly _ [.crossed true] (stopOf unfailing (handBack E _ w).1) ∧
      ∀ a, (handBack E _ w).1 = .done a → _ → (handBack E _ w).2.link.slot = some host ∧ _
    unfold handBack
    dsimp only
    cases hkept : E.kept s with
    | none =>
        refine ⟨rfl, fun r hr _ => ⟨hw, ?_⟩⟩
        obtain rfl := Exit.done.inj hr
        exact hkept
    | some payload => exact ⟨⟨rfl, rfl⟩, fun r hr => nomatch hr⟩
  all_goals
    refine fun w hw => ⟨rfl, fun r hr _ => ⟨hw, ?_⟩⟩
    obtain rfl := Exit.done.inj hr
    rfl

theorem watchRead_follows (v : E.Value) (key : String) {s : E.State} (hs : E.kept s = kept) :
    Follows host kept unfailing (watchRead E p l v key s) fun r k => E.kept r.2 = k := by
  subst hs
  refine (watchCrossing_follows hp E l (E.read_keeps v key s)).bind ?_
  rintro ⟨f | text, s⟩ k hk
  · exact Follows.pure rfl hk
  · exact Follows.pure rfl hk

theorem watchDescribe_follows (v : E.Value) {s : E.State} (hs : E.kept s = kept) :
    Follows host kept unfailing (watchDescribe E p l v s) fun r k => E.kept r.2 = k := by
  unfold watchDescribe
  split
  · exact (watchRead_follows hp E l v _ hs).bind fun r _ hr =>
      (watchRead_follows hp E l v _ hr).bind fun _ _ hr => Follows.pure rfl hr
  · exact Follows.pure rfl hs

/-! ## The stages of a session -/

omit E in
theorem watchPrint_follows (text : String) :
    Follows host kept unfailing (watchPrint p text) fun _ k => k = kept := by
  intro w hw
  have hstay := (print_alike hp text w (isAttached_of_slot hw)).2
  have hstop : Orderly kept [.console text w (Link.print p text w)]
      (stopOf unfailing (print p text w).1) := by
    unfold print
    rw [Act.bind_apply]
    unfold Act.bind
    rcases Link.print p text w with ⟨(e | _) | q | _ | _ | _, w'⟩
    case panicked => exact ⟨rfl, rfl⟩
    all_goals exact rfl
  exact ⟨hstop, fun _ _ _ => ⟨(congrArg Link.slot hstay.link).trans hw, rfl⟩⟩

omit E in
theorem watchReport_follows (stage message : String) :
    Follows host kept unfailing (watchReport p stage message) fun _ k => k = kept :=
  (watchPrint_follows hp _).note

omit hp E in
theorem watchFailure_follows {ε : Type} (reason : String)
    {post : Except String ε → Option Payload → Prop} :
    Follows host kept errorOf (watchFailure reason : Course η σ (Except String ε)) post := by
  refine fun w _ => ⟨⟨rfl, rfl⟩, fun r hr herror => ?_⟩
  obtain rfl : Except.error reason = r := Exit.done.inj hr
  nomatch herror

theorem watchScriptError_follows (stage : String) (f : Failure E.Value) {s : E.State}
    (hs : E.kept s = kept) :
    Follows host kept errorOf (watchScriptError E p l stage f s)
      (OkAnd fun r k => E.kept r.2 = k) := by
  cases f with
  | noMemory => exact watchFailure_follows _
  | refused message =>
      exact (watchReport_follows hp stage message).bind fun _ _ hk =>
        Follows.pure rfl (hs.trans hk.symm)
  | thrown v =>
      exact (watchDescribe_follows hp E l v hs).bind fun r _ hr =>
        (watchReport_follows hp stage r.1).bind fun _ _ hk =>
          Follows.pure rfl (hr.trans hk.symm)

theorem watchEvaluate_follows (name : String) {s : E.State} (hs : E.kept s = kept) :
    Follows host kept errorOf (watchEvaluate E p l name s) (OkAnd fun s k => E.kept s = k) := by
  subst hs
  refine Follows.notes ?_
  cases l.load name with
  | error e =>
      refine Follows.note ?_
      exact Follows.pure rfl rfl
  | ok source =>
      refine (watchCrossing_follows hp E l (E.evaluate_keeps source s)).bind ?_
      rintro ⟨f | _, s⟩ k hk
      · exact (watchScriptError_follows hp E l name f hk).proceed fun _ _ hr => Follows.pure rfl hr
      · exact Follows.pure rfl hk

/-- No outcome that the engine's part of a session comes to is a fault. -/
def Unfaulted (outcome : SessionOutcome) : Prop := ∀ message, outcome ≠ .faulted message

theorem watchFailEntryPoint_follows (o : SessionOptions) (f : Failure E.Value) {s : E.State}
    (hs : E.kept s = kept) :
    Follows host kept errorOf (watchFailEntryPoint E p l o f s)
      (OkAnd fun outcome _ => Unfaulted outcome) :=
  (watchScriptError_follows hp E l _ f hs).proceed fun _ _ _ =>
    Follows.pure rfl fun _ h => nomatch h

theorem watchInvoke_follows (o : SessionOptions) (args : List String) (main : E.Value)
    {s : E.State} (hs : E.kept s = kept) :
    Follows host kept errorOf (watchInvoke E p l o args main s)
      (OkAnd fun outcome _ => Unfaulted outcome) := by
  subst hs
  unfold watchInvoke
  split
  · exact ((watchPrint_follows hp _).bind fun _ _ _ =>
      Follows.pure rfl fun _ h => nomatch h).note
  · refine (watchCrossing_follows hp E l (E.callWith_keeps main args s)).bind ?_
    rintro ⟨f | _, s⟩ k hk
    · exact watchFailEntryPoint_follows hp E l o f hk
    · exact Follows.pure rfl fun _ h => nomatch h

theorem watchEntryPoint_follows (o : SessionOptions) (args : List String) {s : E.State}
    (hs : E.kept s = kept) :
    Follows host kept errorOf (watchEntryPoint E p l o args s)
      (OkAnd fun outcome _ => Unfaulted outcome) := by
  subst hs
  refine (watchCrossing_follows hp E l (E.lookup_keeps _ s)).bind ?_
  rintro ⟨f | main, s⟩ k hk
  · exact watchFailEntryPoint_follows hp E l o f hk
  · exact watchInvoke_follows hp E l o args main hk

theorem watchDrive_follows (o : SessionOptions) (args : List String) {s : E.State}
    (hs : E.kept s = none) :
    Follows host none errorOf (watchDrive E p l o args s)
      (OkAnd fun outcome _ => Unfaulted outcome) := by
  unfold watchDrive
  cases hinstall : E.install s with
  | error reason => exact watchFailure_follows _
  | ok s' =>
      have hs' : E.kept s' = none := (E.install_kept hinstall).trans hs
      refine Follows.note ((watchEvaluate_follows hp E l o.bootstrap hs').proceed fun s k hk => ?_)
      exact (watchEvaluate_follows hp E l o.entry hk).proceed fun s k hk =>
        watchEntryPoint_follows hp E l o args hk

end Engine

end Follows

end DecBridge.Session
