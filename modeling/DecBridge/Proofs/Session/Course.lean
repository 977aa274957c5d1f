import DecBridge.Proofs.Session.Busy
import DecBridge.Session.Course

/-!
# The course of a session

Forgetting the moments of a session gives back the session itself
(`watchRun_act`), so they are those of the run.

`Reaching` is the first thing that is said of courses: in a world
where `host` is in charge every use of the link reaches `host`.
-/

namespace DecBridge.Session

open DecBridge.Bundle (Locator)

open Engine (Failure Outcome)

open Host (Call HostError)

open Act (Alike Stays Steady)

open Script (Answer Request Run)

variable {η σ α β : Type}

/-! ## Watching changes nothing -/

@[simp]
theorem watchPerform_act (p : Port η σ) (l : Locator) (x : Run α) :
    (watchPerform p l x).act = perform p l x := by
  induction x with
  | done a => rfl
  | stalled => rfl
  | ask r resume ih =>
      rw [watchPerform, perform_ask, Watched.act_bind]
      simp only [Watched.act_of, ih]

@[simp]
theorem watchReport_act (p : Port η σ) (stage message : String) :
    (watchReport p stage message).act = reportException p stage message := by
  unfold watchReport reportException
  rw [Watched.act_bind]
  rfl

section Engine

variable (E : Engine) (p : Port η σ) (l : Locator)

@[simp]
theorem watchCrossing_act (x : Outcome E.State E.Value α) :
    (watchCrossing E p l x).act = crossing E p l x := by
  unfold watchCrossing crossing
  rw [Watched.act_bind, watchPerform_act]
  rfl

@[simp]
theorem watchRead_act (v : E.Value) (key : String) (s : E.State) :
    (watchRead E p l v key s).act = readPart E p l v key s := by
  unfold watchRead readPart
  rw [Watched.act_bind, watchCrossing_act]
  congr 1
  funext r
  rcases r with ⟨f | text, s⟩ <;> rfl

@[simp]
theorem watchDescribe_act (v : E.Value) (s : E.State) :
    (watchDescribe E p l v s).act = describe E p l v s := by
  unfold watchDescribe describe
  split
  · simp only [Watched.act_bind, watchRead_act, Watched.act_pure]
  · rfl

@[simp]
theorem watchScriptError_act (stage : String) (f : Failure E.Value) (s : E.State) :
    (watchScriptError E p l stage f s).act = scriptError E p l stage f s := by
  cases f with
  | noMemory => rfl
  | refused message => simp [watchScriptError, scriptError]
  | thrown v => simp [watchScriptError, scriptError]

@[simp]
theorem watchEvaluate_act (name : String) (s : E.State) :
    (watchEvaluate E p l name s).act = evaluate E p l name s := by
  unfold watchEvaluate evaluate
  rw [Watched.act_bind]
  congr 1
  funext _
  cases l.load name with
  | error e => simp
  | ok source =>
      simp only [Watched.act_bind, watchCrossing_act]
      congr 1
      funext r
      rcases r with ⟨f | _, s⟩ <;> simp

@[simp]
theorem watchFailEntryPoint_act (o : SessionOptions) (f : Failure E.Value) (s : E.State) :
    (watchFailEntryPoint E p l o f s).act = failEntryPoint E p l o f s := by
  simp [watchFailEntryPoint, failEntryPoint]

@[simp]
theorem watchInvoke_act (o : SessionOptions) (args : List String) (main : E.Value)
    (s : E.State) : (watchInvoke E p l o args main s).act = invoke E p l o args main s := by
  unfold watchInvoke invoke
  split
  · simp [watchPrint]
  · rw [Watched.act_bind, watchCrossing_act]
    congr 1
    funext r
    rcases r with ⟨f | _, s⟩ <;> simp

@[simp]
theorem watchEntryPoint_act (o : SessionOptions) (args : List String) (s : E.State) :
    (watchEntryPoint E p l o args s).act = callEntryPoint E p l o args s := by
  unfold watchEntryPoint callEntryPoint
  rw [Watched.act_bind, watchCrossing_act]
  congr 1
  funext r
  rcases r with ⟨f | main, s⟩ <;> simp

theorem watchDrive_act (o : SessionOptions) (args : List String) (s : E.State) :
    (watchDrive E p l o args s).act = drive E p l o args s := by
  unfold watchDrive drive
  cases E.install s with
  | error reason => rfl
  | ok s => simp

theorem watchAttached_act (o : SessionOptions) (args : List String) :
    (watchAttached E p l o args).act = runAttached E p l o args := by
  unfold watchAttached runAttached
  rw [Watched.act_bind]
  congr 1
  funext r
  cases r with
  | error reason => rfl
  | ok s => simp [watchDrive_act]

/-- A session that is watched is the session. -/
theorem watchRun_act (o : SessionOptions) (host : η) (args : List String) :
    (watchRun E p l o host args).act = run E p l o host args := by
  unfold watchRun run
  rw [Watched.act_bind]
  congr 1
  funext r
  cases r with
  | error e => rfl
  | ok guard => rw [Watched.act_around, watchAttached_act]

end Engine

/-! ## The calls of callbacks -/

theorem call?_link {l : Locator} {r : Request} {w before : World η σ} {c : Call}
    (h : call? l r w = some (c, before)) : before.link = w.link := by
  have lookup : ∀ {form : Lookup} {name : String},
      form.call? l name w = some (c, before) → before.link = w.link := by
    intro form name h
    unfold Lookup.call? at h
    split at h
    · cases h
    · cases h
      rfl
  cases r with
  | command text =>
      cases h
      rfl
  | load name => exact lookup h
  | require name => exact lookup h
  | print line =>
      cases h
      rfl

/-- An action that always answers, and not with a panic. -/
def Answers (x : Act η σ Answer) : Prop :=
  ∀ w, ∃ answer w', x w = (.done answer, w') ∧
    ∀ kept, answer.keeping kept = kept

/-- A request that makes a call is served by the host in charge: it is called
once, and what is left then is to turn its answer into one for the script. -/
theorem serve_reaching {p : Port η σ} {l : Locator} {host : η} {r : Request}
    {w before : World η σ} {c : Call} (hw : w.link.slot = some host)
    (hc : call? l r w = some (c, before)) :
    ∃ finish : Except HostError String → Act η σ Answer,
      (∀ a, Answers (finish a)) ∧
        serve p l r w = (p host c >>= finish) before := by
  have lookup : ∀ {form : Lookup} {name : String},
      form.call? l name w = some (c, before) →
      ∃ finish : Except HostError String → Act η σ Answer,
        (∀ a, Answers (finish a)) ∧
          serveLookup p l form name w = (p host c >>= finish) before := by
    intro form name h
    unfold Lookup.call? at h
    cases hf : form.find l name with
    | ok text =>
        rw [hf] at h
        cases h
    | error e =>
        rw [hf] at h
        cases h
        refine ⟨fun _ => return .refused .type (form.function ++ ": " ++ e.message),
          fun _ w => ⟨_, w, rfl, fun _ => rfl⟩, ?_⟩
        unfold serveLookup
        rw [hf]
        exact Link.print_then (w := { w with
          log := (w.log ++ (form.events l name).toArray).push
            (form.failedEvent name e) }) hw _ _
  cases r with
  | command text =>
      cases hc
      refine ⟨_, ?_,
        Link.call_then (w := { w with log := w.log.push (commandEvent text) }) hw _ _⟩
      rintro (e | text)
      · exact fun w => ⟨_, _, rfl, fun _ => rfl⟩
      · exact fun w => ⟨_, w, rfl, fun _ => rfl⟩
  | load name => exact lookup hc
  | require name => exact lookup hc
  | print line =>
      cases hc
      exact ⟨fun _ => return .nothing, fun _ w => ⟨_, w, rfl, fun _ => rfl⟩,
        Link.print_then hw line _⟩

/-- A request that makes no call is answered all the same. -/
theorem serve_unreaching {p : Port η σ} {l : Locator} {r : Request}
    {w : World η σ} (hc : call? l r w = none) :
    ∃ text w', serve p l r w = (.done (.text text), w') := by
  have lookup : ∀ {form : Lookup} {name : String}, form.call? l name w = none →
      ∃ text w', serveLookup p l form name w = (.done (.text text), w') := by
    intro form name h
    unfold Lookup.call? at h
    cases hf : form.find l name with
    | ok text =>
        refine ⟨text, { w with log := w.log ++ (form.events l name).toArray }, ?_⟩
        unfold serveLookup
        rw [hf]
        rfl
    | error e =>
        rw [hf] at h
        cases h
  cases r with
  | command text => cases hc
  | load name => exact lookup hc
  | require name => exact lookup hc
  | print line => cases hc

/-! ## Reaching the host -/

/-- While `host` is in charge, the action leaves link and trap alone and every
use of the link reaches `host`. -/
def Reaching (p : Port η σ) (host : η) (x : Course η σ α) : Prop :=
  ∀ w, w.link.slot = some host →
    Stays w (x w).1 ∧ ∀ m ∈ (x w).2, m.Reaches p host

section Reaching

variable {p : Port η σ} {host : η}

theorem isAttached_of_slot {w : World η σ} (hw : w.link.slot = some host) :
    w.link.isAttached = true := by
  unfold Link.isAttached
  rw [hw]
  rfl

theorem Reaching.of {x : Act η σ α} (hx : Steady x)
    {ms : World η σ → List (Moment η σ)}
    (hms : ∀ w, w.link.slot = some host → ∀ m ∈ ms w, m.Reaches p host) :
    Reaching p host (Watched.of x ms) :=
  fun w hw => ⟨(hx w (isAttached_of_slot hw)).2, hms w hw⟩

theorem Reaching.plain {x : Act η σ α} (hx : Steady x) :
    Reaching p host (Watched.plain x) :=
  Reaching.of hx fun _ _ _ hm => nomatch hm

theorem Reaching.bind {x : Course η σ α} {f : α → Course η σ β}
    (hx : Reaching p host x) (hf : ∀ a, Reaching p host (f a)) :
    Reaching p host (x >>= f) := by
  intro w hw
  obtain ⟨hstay, hms⟩ := hx w hw
  show Stays w (Watched.bind x f w).1 ∧ ∀ m ∈ (Watched.bind x f w).2, _
  unfold Watched.bind
  generalize x w = r at hstay hms
  obtain ⟨⟨e, w'⟩, ms⟩ := r
  cases e with
  | done a =>
      have hw' : w'.link.slot = some host := (congrArg Link.slot hstay.link).trans hw
      obtain ⟨hstay', hms'⟩ := hf a w' hw'
      refine ⟨hstay'.trans hstay.link hstay.trap, fun m hm => ?_⟩
      rcases List.mem_append.mp hm with hm | hm
      · exact hms m hm
      · exact hms' m hm
  | panicked q => exact ⟨⟨trivial, hstay.link, hstay.trap⟩, hms⟩
  | stalled => exact ⟨⟨trivial, hstay.link, hstay.trap⟩, hms⟩
  | terminated => exact hstay.lasts.elim
  | killed => exact hstay.lasts.elim

theorem Reaching.proceed {ε : Type} {x : Course η σ (Except ε α)}
    {f : α → Course η σ (Except ε β)} (hx : Reaching p host x)
    (hf : ∀ a, Reaching p host (f a)) : Reaching p host (x.proceed f) := by
  refine hx.bind ?_
  rintro (e | a)
  · exact Reaching.plain (Alike.pure _)
  · exact hf a

theorem callbacks_reaching {l : Locator} {r : Request} {w : World η σ}
    (hw : w.link.slot = some host) :
    ∀ m ∈ callbacks p l r w, m.Reaches p host := by
  intro m hm
  unfold callbacks at hm
  cases hc : call? l r w with
  | none =>
      rw [hc] at hm
      cases hm
  | some cb =>
      obtain ⟨c, before⟩ := cb
      rw [hc] at hm
      obtain rfl := List.mem_singleton.mp hm
      have hbefore : before.link.slot = some host :=
        (congrArg Link.slot (call?_link hc)).trans hw
      exact ⟨hbefore, Link.call_reaching hbefore c⟩

variable (hp : p.Steady)
include hp

theorem watchPerform_reaching (l : Locator) (x : Run α) :
    Reaching p host (watchPerform p l x) := by
  induction x with
  | done a => exact Reaching.plain (Alike.pure a)
  | stalled => exact Reaching.plain (Alike.exit trivial)
  | ask r resume ih =>
      exact (Reaching.of (serveSafely_alike hp l r)
        fun w hw => callbacks_reaching hw).bind ih

theorem watchPrint_reaching (text : String) :
    Reaching p host (watchPrint p text) := by
  refine Reaching.of (print_alike hp text) fun w hw m hm => ?_
  obtain rfl := List.mem_singleton.mp hm
  refine ⟨hw, ?_⟩
  unfold Link.print
  rw [hw]

theorem watchReport_reaching (stage message : String) :
    Reaching p host (watchReport p stage message) :=
  (Reaching.plain (Alike.note _)).bind fun _ => watchPrint_reaching hp _

variable (E : Engine) (l : Locator)

theorem watchCrossing_reaching (x : Outcome E.State E.Value α) :
    Reaching p host (watchCrossing E p l x) := by
  refine (watchPerform_reaching hp l x).bind fun r => ?_
  refine Reaching.of (handBack_steady E r) fun w _ m hm => ?_
  obtain rfl := List.mem_singleton.mp hm
  trivial

theorem watchRead_reaching (v : E.Value) (key : String) (s : E.State) :
    Reaching p host (watchRead E p l v key s) := by
  refine (watchCrossing_reaching hp E l _).bind ?_
  rintro ⟨f | text, s⟩
  · exact .plain (Alike.pure _)
  · exact .plain (Alike.pure _)

theorem watchDescribe_reaching (v : E.Value) (s : E.State) :
    Reaching p host (watchDescribe E p l v s) := by
  unfold watchDescribe
  split
  · exact (watchRead_reaching hp E l v _ s).bind fun r =>
      (watchRead_reaching hp E l v _ r.2).bind fun _ => .plain (Alike.pure _)
  · exact .plain (Alike.pure _)

omit hp in
theorem watchFailure_reaching {ε : Type} (reason : String) :
    Reaching p host (watchFailure reason : Course η σ (Except String ε)) := by
  refine Reaching.of (Alike.pure _) fun w _ m hm => ?_
  obtain rfl := List.mem_singleton.mp hm
  trivial

theorem watchScriptError_reaching (stage : String) (f : Failure E.Value) (s : E.State) :
    Reaching p host (watchScriptError E p l stage f s) := by
  cases f with
  | noMemory => exact watchFailure_reaching _
  | refused message =>
      exact (watchReport_reaching hp stage message).bind fun _ => .plain (Alike.pure _)
  | thrown v =>
      exact (watchDescribe_reaching hp E l v s).bind fun r =>
        (watchReport_reaching hp stage r.1).bind fun _ => .plain (Alike.pure _)

theorem watchEvaluate_reaching (name : String) (s : E.State) :
    Reaching p host (watchEvaluate E p l name s) := by
  refine (Reaching.plain (Alike.notes _)).bind fun _ => ?_
  cases l.load name with
  | error e => exact (Reaching.plain (Alike.note _)).bind fun _ => .plain (Alike.pure _)
  | ok source =>
      refine (watchCrossing_reaching hp E l _).bind ?_
      rintro ⟨f | _, s⟩
      · exact (watchScriptError_reaching hp E l name f s).proceed fun _ => .plain (Alike.pure _)
      · exact .plain (Alike.pure _)

theorem watchFailEntryPoint_reaching (o : SessionOptions) (f : Failure E.Value) (s : E.State) :
    Reaching p host (watchFailEntryPoint E p l o f s) :=
  (watchScriptError_reaching hp E l _ f s).proceed fun _ => .plain (Alike.pure _)

theorem watchInvoke_reaching (o : SessionOptions) (args : List String) (main : E.Value)
    (s : E.State) : Reaching p host (watchInvoke E p l o args main s) := by
  unfold watchInvoke
  split
  · exact (Reaching.plain (Alike.note _)).bind fun _ =>
      (watchPrint_reaching hp _).bind fun _ => .plain (Alike.pure _)
  · refine (watchCrossing_reaching hp E l _).bind ?_
    rintro ⟨f | _, s⟩
    · exact watchFailEntryPoint_reaching hp E l o f s
    · exact .plain (Alike.pure _)

theorem watchEntryPoint_reaching (o : SessionOptions) (args : List String) (s : E.State) :
    Reaching p host (watchEntryPoint E p l o args s) := by
  refine (watchCrossing_reaching hp E l _).bind ?_
  rintro ⟨f | main, s⟩
  · exact watchFailEntryPoint_reaching hp E l o f s
  · exact watchInvoke_reaching hp E l o args main s

theorem watchDrive_reaching (o : SessionOptions) (args : List String) (s : E.State) :
    Reaching p host (watchDrive E p l o args s) := by
  unfold watchDrive
  cases E.install s with
  | error reason => exact watchFailure_reaching _
  | ok s =>
      exact (Reaching.plain (Alike.note _)).bind fun _ =>
        (watchEvaluate_reaching hp E l _ s).proceed fun s =>
          (watchEvaluate_reaching hp E l _ s).proceed fun s =>
            watchEntryPoint_reaching hp E l o args s

end Reaching

end DecBridge.Session
