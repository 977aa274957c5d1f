import DecBridge.Proofs.Trap.Reports
import DecBridge.World

/-!
# What is asked of a trap

A trap is asked to report faults, and to report one and then do as its policy
says. Requests are served one after the other, up to the first that does not
come back.

A request that comes back and one that does not leave the same world behind, that
of the report (`Request.serve_eq`). So what was reported at the end is what was
asked for until then, and only the policy decides how far that goes
(`requests_reported`).
-/

namespace DecBridge

open Output (Sink)

variable {η σ : Type}

/-- The world once faults with these messages were reported. -/
def World.told (w : World η σ) (messages : List (Option String)) : World η σ :=
  { w with
    trap := w.trap.told messages
    log := w.log ++ (messages.flatMap w.trap.noted).toArray }

theorem World.told_nil (w : World η σ) : w.told [] = w := by
  simp [told, Trap.told_nil]

theorem World.told_told (w : World η σ) (messages more : List (Option String)) :
    (w.told messages).told more = w.told (messages ++ more) := by
  simp [told, Trap.told_told]

namespace Trap

/-! ## One request -/

inductive Request where
  | report (message : Option String)
  | trip (message : Option String)
  deriving DecidableEq, Repr

/-- Reports a fault, whatever the policy. -/
def reporting (message : Option String) : Act η σ Unit := fun w =>
  let (trap, events) := w.trap.report message
  (.done (), { w with trap, log := w.log ++ events.toArray })

theorem reporting_eq (message : Option String) (w : World η σ) :
    reporting message w = (.done (), w.told [message]) := by
  unfold reporting
  rw [report_eq]
  simp [World.told]

/-- How a trap ends the program. -/
def ending (t : Trap) : Exit Unit := if t.unwinds then .terminated else .killed

/-- The fault is reported first, and as if nothing came after it. -/
theorem trip_eq (message : Option String) (w : World η σ) :
    trip message w =
      (if w.trap.policy = .abort then w.trap.ending else .done (), w.told [message]) := by
  unfold trip
  rw [report_eq]
  cases hpolicy : w.trap.policy with
  | contain => simp [terminates, World.told, hpolicy]
  | abort => cases hunwinds : w.trap.unwinds <;>
      simp [ending, terminates, World.told, hpolicy, hunwinds]

namespace Request

def message : Request → Option String
  | .report m | .trip m => m

/-- Whether a request ends the program. -/
def ends (p : FatalPolicy) : Request → Bool
  | .report _ => false
  | .trip _ => p == .abort

theorem ends_contain (r : Request) : r.ends .contain = false := by
  cases r <;> rfl

theorem ends_abort_of_reports {rs : List Request} (h : ∀ m, .trip m ∉ rs) :
    ∀ r ∈ rs, r.ends .abort = false := by
  intro r hr
  cases r with
  | report m => rfl
  | trip m => exact absurd hr (h m)

def serve : Request → Act η σ Unit
  | .report m => reporting m
  | .trip m => Trap.trip m

theorem serve_eq (r : Request) (w : World η σ) :
    r.serve w =
      (if r.ends w.trap.policy then w.trap.ending else .done (), w.told [r.message]) := by
  cases r with
  | report m => exact reporting_eq m w
  | trip m =>
      refine (trip_eq m w).trans ?_
      simp [ends, message]

/-! ## Requests in a row -/

/-- Serves requests in order; yields how each of them ended that was served. -/
def serveAll : List Request → World η σ → List (Exit Unit) × World η σ
  | [], w => ([], w)
  | r :: rest, w =>
    match r.serve w with
    | (.done (), w) =>
      let (exits, w) := serveAll rest w
      (.done () :: exits, w)
    | (e, w) => ([e], w)

/-- Requests that come back are served, and then those that follow. -/
theorem serveAll_append {before : List Request} {w : World η σ}
    (h : ∀ r ∈ before, r.ends w.trap.policy = false) (rs : List Request) :
    serveAll (before ++ rs) w =
      (before.map (fun _ => .done ()) ++ (serveAll rs (w.told (before.map message))).1,
        (serveAll rs (w.told (before.map message))).2) := by
  induction before generalizing w with
  | nil => simp [World.told_nil]
  | cons q before ih =>
      have hq : q.serve w = (.done (), w.told [q.message]) := by
        rw [serve_eq, h q List.mem_cons_self]
        rfl
      rw [List.cons_append, serveAll, hq]
      dsimp only
      rw [ih (w := w.told [q.message]) fun r hr => h r (List.mem_cons_of_mem q hr),
        World.told_told]
      rfl

theorem serveAll_returning {rs : List Request} {w : World η σ}
    (h : ∀ r ∈ rs, r.ends w.trap.policy = false) :
    serveAll rs w = (rs.map fun _ => .done (), w.told (rs.map message)) := by
  have hall := serveAll_append h []
  simpa [serveAll] using hall

/-- Nothing is served after a request that ends the program. -/
theorem serveAll_cons_ending {r : Request} {w : World η σ}
    (h : r.ends w.trap.policy = true) (rest : List Request) :
    serveAll (r :: rest) w = ([w.trap.ending], w.told [r.message]) := by
  rw [serveAll, serve_eq, if_pos h]
  unfold ending
  cases w.trap.unwinds <;> rfl

theorem serveAll_ending {before : List Request} {r : Request} {w : World η σ}
    (hbefore : ∀ q ∈ before, q.ends w.trap.policy = false)
    (hr : r.ends w.trap.policy = true) (after : List Request) :
    serveAll (before ++ r :: after) w =
      (before.map (fun _ => .done ()) ++ [w.trap.ending],
        w.told ((before ++ [r]).map message)) := by
  rw [serveAll_append hbefore, serveAll_cons_ending (by exact hr), World.told_told,
    List.map_append]
  rfl

/-- Either all requests come back, or there is a first that does not. -/
theorem returning_or_ending (p : FatalPolicy) (rs : List Request) :
    (∀ r ∈ rs, r.ends p = false) ∨
      ∃ before r after, rs = before ++ r :: after ∧ (∀ q ∈ before, q.ends p = false) ∧
        r.ends p = true := by
  cases hfind : rs.find? (·.ends p) with
  | none => exact .inl fun r hr => by simpa using List.find?_eq_none.mp hfind r hr
  | some r =>
      obtain ⟨hr, before, after, hsplit, hbefore⟩ := List.find?_eq_some_iff_append.mp hfind
      exact .inr ⟨before, r, after, hsplit, by simpa using hbefore, hr⟩

/-- What was reported at the end is what was asked for in the requests that were
served, the last of them included. -/
theorem serveAll_told (rs : List Request) (w : World η σ) :
    (serveAll rs w).2 = w.told ((rs.take (serveAll rs w).1.length).map message) := by
  rcases returning_or_ending w.trap.policy rs with h | ⟨before, r, after, rfl, hbefore, hr⟩
  · simp [serveAll_returning h]
  · have hserved : (before ++ r :: after).take (before.length + 1) = before ++ [r] := by
      rw [List.take_append, List.take_of_length_le (Nat.le_succ _)]
      simp
    rw [serveAll_ending hbefore hr, List.length_append, List.length_map, List.length_singleton,
      hserved]

/-- The sink has no say in how requests end. -/
theorem exits_of_sink (rs : List Request) (w : World η σ) (sink : Sink) :
    (serveAll rs { w with trap := { w.trap with sink } }).1 = (serveAll rs w).1 := by
  rcases returning_or_ending w.trap.policy rs with h | ⟨before, r, after, rfl, hbefore, hr⟩
  · rw [serveAll_returning h, serveAll_returning (by exact h)]
  · rw [serveAll_ending hbefore hr, serveAll_ending (by exact hbefore) (by exact hr)]
    rfl

end Request

/-! ## What was reported -/

/-- Whatever requests a trap gets and whatever becomes of its lines, each request
that is served is reported once and in its place, and the policy alone decides
which of them end the program.

The world in the end is the world at the moment in which the last request was
through or the program ended. A sink that stores lines has got one for each request
that was served, and was flushed after each; any other sink has got nothing, and
was never flushed. The log has heard of each fault, and of why the sink failed if
it did. All requests come back if faults are contained, and so do reports in any
case; the first request to trip the trap ends the program otherwise, its own
report included. -/
theorem requests_reported (rs : List Request) (w : World η σ) :
    let r := Request.serveAll rs w
    let served := rs.take r.1.length
    let lines := if w.trap.sink.stores then served.map fun q => diagnostic q.message else []
    r.2 = { w with
        trap := { w.trap with
          sink := { w.trap.sink with
            text := w.trap.sink.text ++ String.join lines
            flushes := w.trap.sink.flushes + lines.length } }
        log := w.log ++ (served.flatMap fun q => w.trap.noted q.message).toArray } ∧
      (w.trap.policy = .contain → r.1 = rs.map fun _ => .done ()) ∧
      (w.trap.policy = .abort →
        ((∀ m, .trip m ∉ rs) → r.1 = rs.map fun _ => .done ()) ∧
          ∀ before m after, rs = before ++ .trip m :: after → (∀ m, .trip m ∉ before) →
            r.1 = before.map (fun _ => .done ()) ++
              [if w.trap.unwinds then .terminated else .killed]) ∧
      (∀ sink, (Request.serveAll rs { w with trap := { w.trap with sink } }).1 = r.1) ∧
      diagnostic none = "*** FATAL ERROR: no message\n" ∧
      ∀ message : String,
        ∃ (stem : String) (blanks : List Char), message = stem ++ String.ofList blanks ∧
          Text.Blanks blanks ∧
          (∀ c, stem.toList.getLast? = some c → Text.isBlank c = false) ∧
          diagnostic (some message) =
            "*** FATAL ERROR: " ++ (if stem = "" then "no message" else stem) ++ "\n" := by
  refine ⟨?_, fun hcontain => ?_, fun habort => ⟨fun hreports => ?_, ?_⟩,
    Request.exits_of_sink rs w, rfl, diagnostic_spec⟩
  · rw [Request.serveAll_told]
    simp only [World.told, told, Sink.given, Sink.stored, List.map_map, List.flatMap_map]
    rfl
  · rw [Request.serveAll_returning fun r _ => hcontain ▸ r.ends_contain]
  · rw [Request.serveAll_returning (habort ▸ Request.ends_abort_of_reports hreports)]
  · rintro before m after rfl hreports
    have hlast : (Request.trip m).ends w.trap.policy = true := by
      rw [habort]
      rfl
    rw [Request.serveAll_ending (habort ▸ Request.ends_abort_of_reports hreports) hlast]
    rfl

/-- The program ends in the third request, although nothing can be flushed. -/
theorem requests_reported_unflushed :
    let w : World Unit Unit :=
      { host := (), link := {}, log := #[]
        trap := { policy := .abort, sink := { behaviour := .failsFlushes } } }
    let reports : List Request := [.report none, .report (some "stack exhausted \n")]
    let rs := reports ++ .trip (some "heap corrupted") :: [.report (some "late")]
    (w.trap.policy = .abort ∧ ∀ m, .trip m ∉ reports) ∧
      (Request.serveAll rs w).1 = [.done (), .done (), .killed] ∧
      (Request.serveAll rs w).2.trap.sink.text =
        "*** FATAL ERROR: no message\n" ++ "*** FATAL ERROR: stack exhausted\n" ++
          "*** FATAL ERROR: heap corrupted\n" ∧
      (Request.serveAll rs w).2.trap.sink.flushes = 3 := by
  intro w reports rs
  have hreports : ∀ m, .trip m ∉ reports := by simp [reports]
  obtain ⟨hworld, -, habort, -⟩ := requests_reported rs w
  have hexits : (Request.serveAll rs w).1 = [.done (), .done (), .killed] :=
    (habort rfl).2 _ _ _ rfl hreports
  rw [hworld, hexits]
  exact ⟨⟨rfl, hreports⟩, rfl, by decide, rfl⟩

end Trap

end DecBridge
