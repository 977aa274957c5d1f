import DecBridge.Proofs.Session.Course
import DecBridge.Proofs.World.Carried

/-!
# The calls of a session

The host is called for the moments of a session and for nothing else
(`watchRun_lists`): a session whose port lists its calls has listed those of its
moments in the end, in their order.
-/

namespace DecBridge

open DecBridge.Bundle (Locator)

open Engine (Failure Outcome)

open Host (Call HostError)

open Script (Answer Request Run)

variable {η σ α : Type} {p : Port η σ}

/-! ## Calls through the link -/

namespace Link

variable {w : World η σ} {cs : List Call}

theorem call_then_listed {c : Call}
    {f : Except HostError String → Act η (σ × List Call) α}
    (hf : ∀ a w, (f a w).2.host = w.host) :
    ((Link.call p.noting c >>= f) (w.listing cs)).2.host.2 =
      cs ++ if w.link.isAttached then [c] else [] := by
  rw [Act.bind_apply]
  unfold Act.bind call isAttached
  rw [show (w.listing cs).link.slot = w.link.slot from rfl]
  cases w.link.slot with
  | none => exact (congrArg Prod.snd (hf _ _)).trans (List.append_nil cs).symm
  | some host =>
      have hlist : (p.noting host c (w.listing cs)).2.host.2 = cs ++ [c] := rfl
      dsimp only
      rcases hcall : p.noting host c (w.listing cs) with ⟨_ | _ | _ | _ | _, w'⟩
      all_goals rw [hcall] at hlist
      case done => exact (congrArg Prod.snd (hf _ _)).trans hlist
      all_goals exact hlist

theorem print_then_listed {text : String}
    {f : Except HostError Unit → Act η (σ × List Call) α}
    (hf : ∀ a w, (f a w).2.host = w.host) :
    ((Link.print p.noting text >>= f) (w.listing cs)).2.host.2 =
      cs ++ if w.link.isAttached then [.print text] else [] := by
  cases hslot : w.link.slot with
  | none =>
      rw [Act.bind_apply]
      unfold Act.bind print isAttached
      rw [show (w.listing cs).link.slot = none from hslot, hslot]
      exact (congrArg Prod.snd (hf _ _)).trans (List.append_nil cs).symm
  | some host =>
      rw [print_then (w := w.listing cs) hslot, ← call_then (w := w.listing cs) hslot]
      exact call_then_listed fun _ => hf _

end Link

namespace Session

/-! ## Callbacks -/

theorem serve_listed (l : Locator) (r : Request) (w : World η σ) (cs : List Call) :
    (serve p.noting l r (w.listing cs)).2.host.2 =
      cs ++ (callbacks p l r w).flatMap Moment.calls := by
  have lookup : ∀ (form : Lookup) name r, call? l r w = form.call? l name w →
      (serveLookup p.noting l form name (w.listing cs)).2.host.2 =
        cs ++ (callbacks p l r w).flatMap Moment.calls := by
    intro form name r hr
    unfold callbacks
    rw [hr]
    unfold serveLookup Lookup.call?
    cases form.find l name with
    | ok text => exact (List.append_nil cs).symm
    | error e =>
        refine Eq.trans (Link.print_then_listed (w := { w with
          log := (w.log ++ (form.events l name).toArray).push (form.failedEvent name e) }) ?_) ?_
        · rintro (dropped | _) _ <;> rfl
        · rw [List.flatMap_cons, List.flatMap_nil, List.append_nil]
          rfl
  cases r with
  | command text =>
      refine Eq.trans (Link.call_then_listed
        (w := { w with log := w.log.push (commandEvent text) }) ?_) ?_
      · rintro (e | answer) _ <;> rfl
      · exact congrArg (cs ++ ·) (List.append_nil _).symm
  | load name => exact lookup .file name _ rfl
  | require name => exact lookup .module name _ rfl
  | print line =>
      refine Eq.trans (Link.print_then_listed (w := w) ?_) ?_
      · rintro (e | _) _ <;> rfl
      · exact congrArg (cs ++ ·) (List.append_nil _).symm

theorem serveSafely_host (q : Port η σ) (l : Locator) (r : Request) (w : World η σ) :
    (serveSafely q l r w).2 = (serve q l r w).2 := by
  unfold serveSafely
  rw [Act.bind_apply]
  unfold Act.bind Act.catching
  rcases serve q l r w with ⟨_ | _ | _ | _ | _, w'⟩ <;> rfl

/-- An action and its moments are listed under a port that lists its calls. -/
abbrev Listed (x : Course η σ α) (y : Act η (σ × List Call) α) : Prop :=
  Watched.Lists Moment.calls x y

theorem watchPerform_lists (p : Port η σ) (l : Locator) (x : Run α) :
    Listed (watchPerform p l x) (perform p.noting l x) := by
  induction x with
  | done a => exact .pure a
  | stalled => exact .of (fun _ => rfl) fun _ _ => rfl
  | ask r resume ih =>
      rw [perform_ask]
      refine Watched.Lists.bind (.of_coupled (serveSafely_coupled p.noting_coupled l r) ?_) ih
      intro w cs
      rw [serveSafely_host]
      exact serve_listed l r w cs

/-! ## The stages of a session -/

theorem watchPrint_lists (p : Port η σ) (text : String) :
    Listed (watchPrint p text) (print p.noting text) := by
  refine .of_coupled (print_coupled p.noting_coupled text) fun w cs => ?_
  refine Eq.trans (Link.print_then_listed (w := w) ?_) ?_
  · rintro (e | _) _ <;> rfl
  · exact congrArg (cs ++ ·) (List.append_nil _).symm

theorem note_lists (e : Log.Event) :
    Listed (Watched.plain (Act.note e) : Course η σ Unit) (Act.note e) :=
  .of (fun _ => rfl) fun _ _ => rfl

theorem watchReport_lists (p : Port η σ) (stage message : String) :
    Listed (watchReport p stage message) (reportException p.noting stage message) :=
  (note_lists _).bind fun _ => watchPrint_lists p _

section Engine

variable (E : Engine) (p : Port η σ) (l : Locator)

theorem watchCrossing_lists (x : Outcome E.State E.Value α) :
    Listed (watchCrossing E p l x) (crossing E p.noting l x) := by
  refine (watchPerform_lists p l x).bind fun r => ?_
  exact .of_coupled (handBack_coupled E r) fun w cs => by
    rw [show (handBack E r (w.listing cs)).2 = w.listing cs from handBack_world E r _]
    exact (List.append_nil cs).symm

theorem watchRead_lists (v : E.Value) (key : String) (s : E.State) :
    Listed (watchRead E p l v key s) (readPart E p.noting l v key s) := by
  refine (watchCrossing_lists E p l _).bind ?_
  rintro ⟨f | text, s⟩
  · exact .pure _
  · exact .pure _

theorem watchDescribe_lists (v : E.Value) (s : E.State) :
    Listed (watchDescribe E p l v s) (describe E p.noting l v s) := by
  unfold watchDescribe describe
  split
  · exact (watchRead_lists E p l v _ s).bind fun r =>
      (watchRead_lists E p l v _ r.2).bind fun _ => .pure _
  · exact .pure _

theorem watchFailure_lists {ε : Type} (reason : String) :
    Listed (watchFailure reason : Course η σ (Except String ε)) (pure (.error reason)) :=
  .of (fun _ => rfl) fun _ _ => rfl

theorem watchScriptError_lists (stage : String) (f : Failure E.Value) (s : E.State) :
    Listed (watchScriptError E p l stage f s) (scriptError E p.noting l stage f s) := by
  cases f with
  | noMemory => exact watchFailure_lists _
  | refused message => exact (watchReport_lists p stage message).bind fun _ => .pure _
  | thrown v =>
      exact (watchDescribe_lists E p l v s).bind fun r =>
        (watchReport_lists p stage r.1).bind fun _ => .pure _

theorem watchEvaluate_lists (name : String) (s : E.State) :
    Listed (watchEvaluate E p l name s) (evaluate E p.noting l name s) := by
  refine Watched.Lists.bind (.of (fun _ => rfl) fun _ _ => rfl) fun _ => ?_
  cases l.load name with
  | error e => exact (note_lists _).bind fun _ => .pure _
  | ok source =>
      refine (watchCrossing_lists E p l _).bind ?_
      rintro ⟨f | _, s⟩
      · exact (watchScriptError_lists E p l name f s).proceed fun _ => .pure _
      · exact .pure _

theorem watchFailEntryPoint_lists (o : SessionOptions) (f : Failure E.Value) (s : E.State) :
    Listed (watchFailEntryPoint E p l o f s) (failEntryPoint E p.noting l o f s) :=
  (watchScriptError_lists E p l _ f s).proceed fun _ => .pure _

theorem watchInvoke_lists (o : SessionOptions) (args : List String) (main : E.Value)
    (s : E.State) :
    Listed (watchInvoke E p l o args main s) (invoke E p.noting l o args main s) := by
  unfold watchInvoke invoke
  split
  · exact (note_lists _).bind fun _ => (watchPrint_lists p _).bind fun _ => .pure _
  · refine (watchCrossing_lists E p l _).bind ?_
    rintro ⟨f | _, s⟩
    · exact watchFailEntryPoint_lists E p l o f s
    · exact .pure _

theorem watchEntryPoint_lists (o : SessionOptions) (args : List String) (s : E.State) :
    Listed (watchEntryPoint E p l o args s) (callEntryPoint E p.noting l o args s) := by
  refine (watchCrossing_lists E p l _).bind ?_
  rintro ⟨f | main, s⟩
  · exact watchFailEntryPoint_lists E p l o f s
  · exact watchInvoke_lists E p l o args main s

theorem watchDrive_lists (o : SessionOptions) (args : List String) (s : E.State) :
    Listed (watchDrive E p l o args s) (drive E p.noting l o args s) := by
  unfold watchDrive drive
  cases E.install s with
  | error reason => exact watchFailure_lists _
  | ok s =>
      exact (note_lists _).bind fun _ => (watchEvaluate_lists E p l _ s).proceed fun s =>
        (watchEvaluate_lists E p l _ s).proceed fun s => watchEntryPoint_lists E p l o args s

/-! ## Whole sessions -/

theorem conclude_listing (r : Except Payload (Except String SessionOutcome)) (w : World η σ)
    (cs : List Call) : conclude r (w.listing cs) =
      ((conclude r w).1, (conclude r w).2.listing cs) := by
  obtain ⟨hexit, -, hhost, hlink, htrap, hlog, hengines⟩ :=
    conclude_coupled (ofHosts_through (S := fun s t => t = (s, cs))) r w (w.listing cs)
      ⟨rfl, rfl, rfl, rfl, rfl⟩
  refine Prod.ext hexit.symm ?_
  show _ = World.mk _ _ _ _ _
  rw [World.mk.injEq]
  exact ⟨hhost, hlink.symm, htrap.symm, hlog.symm, hengines.symm⟩

theorem watchAttached_lists (o : SessionOptions) (args : List String) :
    Listed (watchAttached E p l o args) (runAttached E p.noting l o args) := by
  refine Watched.Lists.bind (.of (fun _ => rfl) fun _ _ => rfl) ?_
  rintro (reason | s)
  · exact .pure _
  · exact (note_lists _).bind fun _ => (watchDrive_lists E p l o args s).catching.bind fun r =>
      .of (fun _ => rfl) (conclude_listing r)

theorem attach_listing (host : η) (w : World η σ) (cs : List Call) :
    Link.attach host (w.listing cs) =
      ((Link.attach host w).1, (Link.attach host w).2.listing cs) := by
  unfold Link.attach World.listing
  dsimp only
  split <;> rfl

theorem release_listing (guard : Nat) (w : World η σ) (cs : List Call) :
    Link.release guard (w.listing cs) = (Link.release guard w).listing cs := by
  unfold Link.release World.listing
  dsimp only
  split <;> rfl

/-- A session calls hosts for its moments. -/
theorem watchRun_lists (o : SessionOptions) (host : η) (args : List String) :
    Listed (watchRun E p l o host args) (run E p.noting l o host args) := by
  refine Watched.Lists.bind (.of (fun _ => rfl) (attach_listing host)) ?_
  rintro (e | guard)
  · exact .pure _
  · exact (watchAttached_lists E p l o args).afterwards (release_listing guard)

theorem watchRun_eq (o : SessionOptions) (host : η) (args : List String) (w : World η σ) :
    watchRun E p l o host args w = (run E p l o host args w, moments E p l o host args w) :=
  Prod.ext (congrFun (watchRun_act E p l o host args) w) rfl

theorem run_noting (o : SessionOptions) (host : η) (args : List String) (w : World η σ) :
    run E p.noting l o host args { w with host := (w.host, []) } =
      ((run E p l o host args w).1, { (run E p l o host args w).2 with
        host := ((run E p l o host args w).2.host,
          (moments E p l o host args w).flatMap Moment.calls) }) := by
  have h := watchRun_lists E p l o host args w []
  rw [watchRun_eq] at h
  exact h

theorem calls_eq (o : SessionOptions) (host : η) (args : List String) (w : World η σ) :
    calls E p l o host args w = (moments E p l o host args w).flatMap Moment.calls :=
  congrArg (fun r => r.2.host.2) (run_noting E p l o host args w)

end Engine

end Session

end DecBridge
