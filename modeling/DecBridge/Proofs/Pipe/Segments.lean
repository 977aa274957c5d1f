import DecBridge.Proofs.Pipe.Transcript
import Mathlib.Data.List.Infix
import Mathlib.Data.List.TakeWhile

/-!
# Replies of an arbitrary process

Nothing is asked of the process here: it may write anything before it closes its
output, with NULs too many or too few, and go on reading. The lines that it was
sent say what it has written so far (`Child.life`), and what it has written falls
into segments that a NUL ends and a tail that none does.

`Remains` ties what is unread to the segments: so many were read and the rest is
unread, or a read has found the end of the stream. The second case never ends,
which is why a closed stream stays closed although the pipe keeps no mark of it.
One read keeps this (`read_cases`), so one line does (`exchange_cases`), the lines
of a command (`exchangeAll_served`) and any commands (`cmdAll_served`).
-/

namespace DecBridge

open Output (Sink)

open Host (HostError)

open Text (Bytes decodeLossy)

variable {γ : Type}

/-! ## Segments -/

namespace Text

/-- The segments of a stream that a NUL ends. -/
def terminated (bytes : Bytes) : List Bytes := (cutAt 0 bytes).dropLast

theorem terminated_append_nul {segment : Bytes} (h : 0 ∉ segment) (rest : Bytes) :
    terminated (segment ++ 0 :: rest) = segment :: terminated rest := by
  unfold terminated
  rw [cutAt_append_stop h, List.dropLast_cons_of_ne_nil (cutAt_ne_nil rest)]

theorem terminated_of_notMem {bytes : Bytes} (h : 0 ∉ bytes) : terminated bytes = [] := by
  unfold terminated
  rw [cutAt_of_notMem h]
  rfl

theorem terminated_flatMap {segments : List Bytes} (h : ∀ s ∈ segments, 0 ∉ s) (rest : Bytes) :
    terminated (segments.flatMap (· ++ [0]) ++ rest) = segments ++ terminated rest := by
  induction segments with
  | nil => rfl
  | cons s segments ih =>
      obtain ⟨hs, hsegments⟩ := List.forall_mem_cons.mp h
      rw [List.flatMap_cons, List.append_assoc, List.append_assoc, List.singleton_append,
        terminated_append_nul hs, ih hsegments, List.cons_append]

/-- Every stream is some segments with their NULs and a tail. -/
theorem exists_segments (bytes : Bytes) :
    ∃ (segments : List Bytes) (tail : Bytes), bytes = segments.flatMap (· ++ [0]) ++ tail ∧
      (∀ s ∈ segments, 0 ∉ s) ∧ 0 ∉ tail := by
  induction bytes with
  | nil => exact ⟨[], [], rfl, nofun, List.not_mem_nil⟩
  | cons b bytes ih =>
      obtain ⟨segments, tail, rfl, hsegments, htail⟩ := ih
      by_cases hb : b = 0
      · subst hb
        refine ⟨[] :: segments, tail, by simp, ?_, htail⟩
        exact List.forall_mem_cons.mpr ⟨List.not_mem_nil, hsegments⟩
      · cases segments with
        | nil =>
            refine ⟨[], b :: tail, by simp, nofun, ?_⟩
            exact List.not_mem_cons_of_ne_of_not_mem (Ne.symm hb) htail
        | cons s segments =>
            obtain ⟨hs, hrest⟩ := List.forall_mem_cons.mp hsegments
            refine ⟨(b :: s) :: segments, tail, by simp, ?_, htail⟩
            refine List.forall_mem_cons.mpr ⟨?_, hrest⟩
            exact List.not_mem_cons_of_ne_of_not_mem (Ne.symm hb) hs

/-- What is written later does not change the segments that are there. -/
theorem terminated_append (bytes more : Bytes) :
    terminated bytes <+: terminated (bytes ++ more) := by
  obtain ⟨segments, tail, rfl, hsegments, htail⟩ := exists_segments bytes
  rw [List.append_assoc, terminated_flatMap hsegments, terminated_flatMap hsegments,
    terminated_of_notMem htail, List.append_nil]
  exact List.prefix_append segments _

end Text

/-! ## What a process has written -/

/-- A process that has read some lines: its state while it runs, whether it has
closed its output, and what it wrote before. -/
structure Life (γ : Type) where
  running : Option γ
  ended : Bool
  written : Bytes

def Life.hear (c : Child γ) (l : Life γ) (line : String) : Life γ :=
  match l.running with
  | none => l
  | some g =>
    let response := c.step g line
    { running := response.running
      ended := l.ended || response.ends
      written := if l.ended then l.written else l.written ++ response.output }

namespace Child

/-- The life of a process that was sent these lines. -/
def life (c : Child γ) (lines : List String) : Life γ :=
  lines.foldl (Life.hear c) ⟨c.start.running, c.start.ends, c.start.output⟩

/-- The segments that it has written by then. The first is its banner. -/
def segments (c : Child γ) (lines : List String) : List Bytes :=
  Text.terminated (c.life lines).written

/-- Having read these lines, the process has written the segment for each of
them, or it has closed its output: nobody waits for it in vain. -/
def Responds (c : Child γ) (lines : List String) : Prop :=
  (c.life lines).ended = true ∨ lines.length < (c.segments lines).length

instance (c : Child γ) (lines : List String) : Decidable (c.Responds lines) :=
  inferInstanceAs (Decidable (_ ∨ _))

variable (c : Child γ)

theorem life_append (lines more : List String) :
    c.life (lines ++ more) = more.foldl (Life.hear c) (c.life lines) :=
  List.foldl_append

/-- What it wrote stays, and nothing is added to an output that was closed. -/
theorem hear_written (l : Life γ) (line : String) :
    l.written <+: (l.hear c line).written ∧
      (l.ended = true → (l.hear c line).ended = true ∧ (l.hear c line).written = l.written) := by
  unfold Life.hear
  split
  · exact ⟨List.prefix_rfl, fun h => ⟨h, rfl⟩⟩
  · cases l.ended with
    | true => exact ⟨List.prefix_rfl, fun _ => ⟨rfl, rfl⟩⟩
    | false => exact ⟨List.prefix_append _ _, nofun⟩

theorem foldl_hear_written (l : Life γ) (lines : List String) :
    l.written <+: (lines.foldl (Life.hear c) l).written ∧
      (l.ended = true → (lines.foldl (Life.hear c) l).written = l.written) := by
  induction lines generalizing l with
  | nil => exact ⟨List.prefix_rfl, fun _ => rfl⟩
  | cons line lines ih =>
      obtain ⟨hwritten, hended⟩ := c.hear_written l line
      obtain ⟨hrest, hlast⟩ := ih (l.hear c line)
      refine ⟨hwritten.trans hrest, fun h => ?_⟩
      rw [List.foldl_cons, hlast (hended h).1, (hended h).2]

theorem segments_mono {lines all : List String} (h : lines <+: all) :
    c.segments lines <+: c.segments all := by
  obtain ⟨more, rfl⟩ := h
  obtain ⟨⟨later, hlater⟩, -⟩ := c.foldl_hear_written (c.life lines) more
  unfold segments
  rw [life_append, ← hlater]
  exact Text.terminated_append _ later

theorem segments_of_ended {lines all : List String} (h : lines <+: all)
    (hended : (c.life lines).ended = true) : c.segments all = c.segments lines := by
  obtain ⟨more, rfl⟩ := h
  obtain ⟨-, hwritten⟩ := c.foldl_hear_written (c.life lines) more
  unfold segments
  rw [life_append, hwritten hended]

end Child

namespace Pipe

variable {c : Child γ} {p : Pipe γ}

/-! ## One read -/

/-- How much of a stream is left after so many reads: what follows the segments
that were read, or nothing at all once a read has met its end. -/
inductive Remains (written unread : Bytes) (ended : Bool) : Nat → Prop
  | rest {read : List Bytes} (hread : ∀ s ∈ read, 0 ∉ s)
      (hwritten : written = read.flatMap (· ++ [0]) ++ unread) :
      Remains written unread ended read.length
  | spent {n : Nat} (hended : ended = true) (hunread : unread = [])
      (hn : (Text.terminated written).length < n) : Remains written unread ended n

/-- The pipe knows the process by the lines it has sent, and has read so many
times. -/
structure Tracks (c : Child γ) (n : Nat) (p : Pipe γ) : Prop where
  running : p.running = (c.life p.sent.toList).running
  ended : p.ended = (c.life p.sent.toList).ended
  remains : Remains (c.life p.sent.toList).written p.unread p.ended n

theorem read_of_mem {segment rest : Bytes} (h : p.unread = segment ++ 0 :: rest)
    (hsegment : 0 ∉ segment) : p.read = (.reply segment, { p with unread := rest }) := by
  have hne : ∀ b ∈ segment, (b != 0) = true := by
    intro b hb
    rw [bne_iff_ne]
    rintro rfl
    exact hsegment hb
  unfold read
  rw [h, List.dropWhile_append_of_pos hne, List.takeWhile_append_of_pos hne]
  simp

theorem read_of_notMem (h : 0 ∉ p.unread) :
    p.read = if p.ended then (.ended p.unread.length, { p with unread := [] })
      else (.waiting, p) := by
  have hdrop : p.unread.dropWhile (· != 0) = [] := by
    rw [List.dropWhile_eq_nil_iff]
    intro b hb
    rw [bne_iff_ne]
    rintro rfl
    exact h hb
  unfold read
  rw [hdrop]

/-- A read yields the next segment, or it meets the end of the stream, or the
process still owes the segment. -/
theorem read_cases {n : Nat} (h : Tracks c n p) :
    (∃ segment, (c.segments p.sent.toList)[n]? = some segment ∧ p.read.1 = .reply segment ∧
      Tracks c (n + 1) p.read.2) ∨
    ((c.segments p.sent.toList).length ≤ n ∧
      ((p.ended = true ∧ (∃ size, p.read.1 = .ended size) ∧ Tracks c (n + 1) p.read.2) ∨
        (p.ended = false ∧ p.read = (.waiting, p)))) := by
  obtain ⟨hrunning, hended, hremains⟩ := h
  cases hremains with
  | @rest read hread hwritten =>
      have hsegments : c.segments p.sent.toList = read ++ Text.terminated p.unread := by
        unfold Child.segments
        rw [hwritten, Text.terminated_flatMap hread]
      by_cases hmem : 0 ∈ p.unread
      · obtain ⟨segment, rest, hunread, hsegment⟩ := List.eq_append_cons_of_mem hmem
        rw [read_of_mem hunread hsegment, hsegments, hunread,
          Text.terminated_append_nul hsegment]
        refine .inl ⟨segment, by simp, rfl, hrunning, hended, ?_⟩
        have hall : ∀ s ∈ read ++ [segment], 0 ∉ s := by
          simpa [or_imp, forall_and] using And.intro hread hsegment
        have hremains : Remains (c.life p.sent.toList).written rest p.ended
            (read ++ [segment]).length := by
          apply Remains.rest hall
          rw [hwritten, hunread]
          simp
        rwa [List.length_append] at hremains
      · have hlength : (c.segments p.sent.toList).length = read.length := by
          rw [hsegments, Text.terminated_of_notMem hmem, List.append_nil]
        refine .inr ⟨Nat.le_of_eq hlength, ?_⟩
        rw [read_of_notMem hmem]
        by_cases hclosed : p.ended = true
        · rw [if_pos hclosed]
          refine .inl ⟨hclosed, ⟨_, rfl⟩, hrunning, hended, .spent hclosed rfl ?_⟩
          exact Nat.lt_succ_of_le (Nat.le_of_eq hlength)
        · rw [if_neg hclosed]
          exact .inr ⟨Bool.eq_false_iff.mpr hclosed, rfl⟩
  | spent hclosed hunread hn =>
      refine .inr ⟨Nat.le_of_lt hn, .inl ⟨hclosed, ?_⟩⟩
      rw [read_of_notMem (by simp [hunread]), if_pos hclosed]
      exact ⟨⟨_, rfl⟩, hrunning, hended, .spent hclosed rfl (Nat.lt_succ_of_lt hn)⟩

/-! ## One line -/

theorem send_tracks {g : γ} (hrunning : p.running = some g) {n : Nat} (h : Tracks c n p)
    (line : String) :
    ∃ q, p.send c line = (none, q) ∧ q.sent = p.sent.push line ∧ Tracks c n q := by
  have hlife : c.life (p.sent.push line).toList = (c.life p.sent.toList).hear c line := by
    rw [Array.toList_push, Child.life_append]
    rfl
  have hheard : (c.life p.sent.toList).hear c line =
      { running := (c.step g line).running, ended := p.ended || (c.step g line).ends
        written := if p.ended then (c.life p.sent.toList).written
          else (c.life p.sent.toList).written ++ (c.step g line).output } := by
    unfold Life.hear
    rw [← h.running, hrunning, ← h.ended]
  rw [hheard] at hlife
  unfold send
  rw [hrunning]
  refine ⟨_, rfl, rfl, by rw [hlife], by rw [hlife], ?_⟩
  rw [hlife]
  cases h.remains with
  | rest hread hwritten =>
      by_cases hended : p.ended = true
      · simp only [hended, if_true]
        exact .rest hread hwritten
      · simp only [hended, Bool.false_eq_true, if_false]
        refine .rest hread ?_
        rw [hwritten, List.append_assoc]
  | spent hended hunread hn =>
      refine .spent (by rw [hended]; rfl) ?_ ?_
      · simp only [hended, if_true]
        exact hunread
      · simpa only [hended, if_true] using hn

/-- What became of a line: a process that is gone does not get it; else it is
answered by the segment of its own number, or there is none, because the output
was closed or because the process still owes it. -/
inductive Exchanged (c : Child γ) (p : Pipe γ) (line : String) : Answer → Pipe γ → Prop
  | refused {q : Pipe γ} : Exchanged c p line (.done (.error (.io .brokenPipe))) q
  | replied {q : Pipe γ} {segment : Bytes} (hq : q.sent = p.sent.push line)
      (htracks : Tracks c (q.sent.size + 1) q)
      (hsegment : (c.segments q.sent.toList)[q.sent.size]? = some segment) :
      Exchanged c p line (.done (.ok (decodeLossy segment))) q
  | closed {q : Pipe γ} (hq : q.sent = p.sent.push line) (htracks : Tracks c (q.sent.size + 1) q)
      (hlength : (c.segments q.sent.toList).length ≤ q.sent.size)
      (hended : (c.life q.sent.toList).ended = true) :
      Exchanged c p line (.done (.error .closed)) q
  | owed {q : Pipe γ} (hq : q.sent = p.sent.push line)
      (hlength : (c.segments q.sent.toList).length ≤ q.sent.size)
      (hended : (c.life q.sent.toList).ended = false) : Exchanged c p line .waiting q

theorem exchange_cases (h : Tracks c (p.sent.size + 1) p) (line : String) :
    Exchanged c p line (exchange c line p).1 (exchange c line p).2.1 := by
  cases hrunning : p.running with
  | none =>
      rw [exchange_gone hrunning]
      exact .refused
  | some g =>
      obtain ⟨q, hsend, hsent, htracks⟩ := send_tracks hrunning h line
      have hsize : p.sent.size + 1 = q.sent.size := by rw [hsent, Array.size_push]
      rw [hsize] at htracks
      have hread := read_cases htracks
      have hkeeps := q.read_keeps.2
      have hended := htracks.ended
      unfold exchange
      rw [hsend]
      dsimp only
      generalize q.read = r at hread hkeeps
      obtain ⟨reading, q'⟩ := r
      dsimp only at hread hkeeps
      rw [← hkeeps] at hread hended hsent
      rcases hread with ⟨segment, hsegment, rfl, htracks'⟩ |
          ⟨hlength, ⟨hclosed, ⟨size, rfl⟩, htracks'⟩ | ⟨hopen, hwaits⟩⟩
      · exact .replied hsent htracks' hsegment
      · exact .closed hsent htracks' hlength (hended.symm.trans hclosed)
      · cases hwaits
        exact .owed hsent hlength (hended.symm.trans hopen)

theorem exchange_only_adds (c : Child γ) (line : String) (p : Pipe γ) :
    p.sent.toList <+: (exchange c line p).2.1.sent.toList := by
  cases hrunning : p.running with
  | none => rw [exchange_gone hrunning]
  | some g =>
      rw [(exchange_reads hrunning line).1, Array.toList_push]
      exact List.prefix_append _ _

/-! ## The lines of a command -/

/-- What lines are answered by when these segments are to come: each takes one,
and they fail together if there are too few. -/
def serve (segments : List Bytes) (lines : List String) : Except HostError String :=
  if lines.length ≤ segments.length then
    .ok (String.join ((segments.take lines.length).map decodeLossy))
  else .error .closed

theorem serve_cons (segment : Bytes) (segments : List Bytes) (line : String)
    (lines : List String) :
    Answer.done (serve (segment :: segments) (line :: lines)) =
      (Answer.done (serve segments lines)).behind (decodeLossy segment) := by
  unfold serve
  simp only [List.length_cons, Nat.add_le_add_iff_right]
  split
  · simp [Answer.behind]
  · rfl

theorem exchangeAll_only_adds (c : Child γ) (lines : List String) (p : Pipe γ) :
    p.sent.toList <+: (exchangeAll c lines p).2.1.sent.toList := by
  induction lines generalizing p with
  | nil => exact List.prefix_rfl
  | cons line lines ih =>
      have hfirst := exchange_only_adds c line p
      rcases hexchange : exchange c line p with ⟨(e | output) | _, q, events⟩
      all_goals rw [hexchange] at hfirst
      · rw [exchangeAll, hexchange]
        exact hfirst
      · rw [exchangeAll_cons lines hexchange]
        exact hfirst.trans (ih q)
      · rw [exchangeAll, hexchange]
        exact hfirst

variable {all : List String}

/-- The lines of a command are answered by the segments that come next, and are
sent up to the first without one. `all` is everything that is ever sent. -/
theorem exchangeAll_served (hall : ∀ heard, heard <+: all → c.Responds heard)
    (lines : List String) {p : Pipe γ} (h : Tracks c (p.sent.size + 1) p)
    (hwrites : (exchangeAll c lines p).1 ≠ .done (.error (.io .brokenPipe)))
    (hsent : (exchangeAll c lines p).2.1.sent.toList <+: all) :
    let segments := (c.segments all).drop (p.sent.size + 1)
    (exchangeAll c lines p).1 = .done (serve segments lines) ∧
      (exchangeAll c lines p).2.1.sent.toList =
        p.sent.toList ++ lines.take (segments.length + 1) ∧
      Tracks c ((exchangeAll c lines p).2.1.sent.size + 1) (exchangeAll c lines p).2.1 := by
  induction lines generalizing p with
  | nil => exact ⟨by simp [exchangeAll, serve], by simp [exchangeAll], h⟩
  | cons line lines ih =>
      have hcases := exchange_cases h line
      rcases hexchange : exchange c line p with ⟨answer, q, events⟩
      rw [hexchange] at hcases
      dsimp only at hcases
      cases hcases with
      | refused =>
          rw [exchangeAll, hexchange] at hwrites
          exact absurd rfl hwrites
      | @replied _ segment hq htracks hsegment =>
          have hsize : p.sent.size + 1 = q.sent.size := by rw [hq, Array.size_push]
          rw [exchangeAll_cons lines hexchange] at hwrites hsent ⊢
          have hwrites' : (exchangeAll c lines q).1 ≠ .done (.error (.io .brokenPipe)) := by
            intro hio
            rw [hio] at hwrites
            exact hwrites rfl
          obtain ⟨hanswer, hlines, hlast⟩ := ih htracks hwrites' hsent
          have hheard : q.sent.toList <+: all := (exchangeAll_only_adds c lines q).trans hsent
          have hnext : (c.segments all).drop q.sent.size =
              segment :: (c.segments all).drop (q.sent.size + 1) := by
            obtain ⟨more, hmore⟩ := c.segments_mono hheard
            obtain ⟨hlt, rfl⟩ := List.getElem?_eq_some_iff.mp hsegment
            rw [← hmore, List.drop_eq_getElem_cons (by rw [List.length_append]; omega),
              List.getElem_append_left hlt]
          rw [hsize, hnext]
          refine ⟨?_, ?_, hlast⟩
          · rw [serve_cons, ← hanswer]
          · rw [hlines, hq, Array.toList_push]
            simp
      | closed hq htracks hlength hended =>
          have hsize : p.sent.size + 1 = q.sent.size := by rw [hq, Array.size_push]
          have hstop : exchangeAll c (line :: lines) p =
              (.done (.error .closed), q, events) := by rw [exchangeAll, hexchange]
          rw [hstop] at hsent ⊢
          have hnone : (c.segments all).drop (p.sent.size + 1) = [] := by
            rw [c.segments_of_ended hsent hended, hsize]
            exact List.drop_eq_nil_of_le hlength
          rw [hnone]
          exact ⟨by simp [serve], by simp [hq], htracks⟩
      | owed hq hlength hended =>
          have hstop : exchangeAll c (line :: lines) p = (.waiting, q, events) := by
            rw [exchangeAll, hexchange]
          rw [hstop] at hsent
          dsimp only at hsent
          rcases hall _ hsent with hclosed | hwritten
          · rw [hended] at hclosed
            cases hclosed
          · rw [Array.length_toList] at hwritten
            omega

/-! ## Any commands -/

/-- What commands are answered by when these segments are to come. -/
def serveAll : List Bytes → List (List String) → List (Except HostError String)
  | _, [] => []
  | segments, lines :: calls =>
    serve segments lines :: serveAll (segments.drop lines.length) calls

/-- The lines that are sent: of each command those that have a segment, and one
more if it has one without. -/
def sendAll : List Bytes → List (List String) → List String
  | _, [] => []
  | segments, lines :: calls =>
    lines.take (segments.length + 1) ++ sendAll (segments.drop lines.length) calls

theorem cmdAll_only_adds (c : Child γ) (texts : List String) (p : Pipe γ) :
    p.sent.toList <+: (cmdAll c texts p).2.sent.toList := by
  induction texts generalizing p with
  | nil => exact List.prefix_rfl
  | cons text texts ih =>
      rw [cmdAll]
      exact (exchangeAll_only_adds c (commandLines text) p).trans (ih _)

/-- The segments that are left after a command, counted by the lines it was sent
with or by the lines it has. -/
theorem drop_after_lines {segments : List Bytes} {n m : Nat} {lines : List String}
    (h : m = n + (lines.take ((segments.drop (n + 1)).length + 1)).length) :
    segments.drop (m + 1) = (segments.drop (n + 1)).drop lines.length := by
  rw [List.length_take, List.length_drop] at h
  rw [List.drop_drop]
  by_cases hfew : lines.length ≤ segments.length - (n + 1) + 1
  · rw [Nat.min_eq_right hfew] at h
    congr 1
    omega
  · rw [List.drop_eq_nil_of_le (by omega), List.drop_eq_nil_of_le (by omega)]

theorem cmdAll_served (hall : ∀ heard, heard <+: all → c.Responds heard)
    (texts : List String) {p : Pipe γ} (h : Tracks c (p.sent.size + 1) p)
    (hwrites : ∀ answer ∈ (cmdAll c texts p).1, answer ≠ .done (.error (.io .brokenPipe)))
    (hsent : (cmdAll c texts p).2.sent.toList <+: all) :
    let segments := (c.segments all).drop (p.sent.size + 1)
    (cmdAll c texts p).1 = (serveAll segments (texts.map commandLines)).map .done ∧
      (cmdAll c texts p).2.sent.toList =
        p.sent.toList ++ sendAll segments (texts.map commandLines) := by
  induction texts generalizing p with
  | nil => exact ⟨rfl, by simp [cmdAll, sendAll]⟩
  | cons text texts ih =>
      have hheard := (cmdAll_only_adds c texts ((p.cmd c text).2.1)).trans hsent
      obtain ⟨hfirst, hrest⟩ := List.forall_mem_cons.mp hwrites
      obtain ⟨hanswer, hlines, htracks⟩ := exchangeAll_served hall _ h hfirst hheard
      obtain ⟨hanswers, hlast⟩ := ih htracks hrest hsent
      have hsize := congrArg List.length hlines
      rw [List.length_append, Array.length_toList, Array.length_toList] at hsize
      rw [drop_after_lines hsize] at hanswers hlast
      dsimp only
      rw [List.map_cons, serveAll, sendAll]
      refine ⟨?_, ?_⟩
      · exact congrArg₂ List.cons hanswer hanswers
      · rw [← List.append_assoc, ← hlines]
        exact hlast

/-! ## The closed pipe -/

/-- Without any segment left, only commands without a line succeed. -/
theorem serveAll_nil {calls : List (List String)} {i : Nat} {lines : List String}
    (h : calls[i]? = some lines) (hne : lines ≠ []) :
    (serveAll [] calls)[i]? = some (.error .closed) := by
  induction calls generalizing i with
  | nil => simp at h
  | cons first calls ih =>
      rw [serveAll, List.drop_nil]
      cases i with
      | zero =>
          obtain rfl : first = lines := by simpa using h
          have hpos := List.length_pos_iff.mpr hne
          simp only [List.getElem?_cons_zero, serve, List.length_nil]
          rw [if_neg (by omega)]
      | succ i => simpa using ih (by simpa using h)

theorem serveAll_closed {segments : List Bytes} {calls : List (List String)} {i j : Nat}
    {lines : List String} (hij : i < j)
    (hi : (serveAll segments calls)[i]? = some (.error .closed)) (hj : calls[j]? = some lines)
    (hne : lines ≠ []) : (serveAll segments calls)[j]? = some (.error .closed) := by
  induction calls generalizing segments i j with
  | nil => simp at hj
  | cons first calls ih =>
      obtain ⟨j, rfl⟩ := Nat.exists_eq_add_one_of_ne_zero (Nat.ne_zero_of_lt hij)
      rw [List.getElem?_cons_succ] at hj
      rw [serveAll] at hi
      rw [serveAll, List.getElem?_cons_succ]
      cases i with
      | zero =>
          have hfew : ¬first.length ≤ segments.length := by
            intro hle
            rw [List.getElem?_cons_zero, serve, if_pos hle] at hi
            cases hi
          rw [List.drop_eq_nil_of_le (by omega)]
          exact serveAll_nil hj hne
      | succ i =>
          rw [List.getElem?_cons_succ] at hi
          exact ih (Nat.lt_of_succ_lt_succ hij) hi hj

/-! ## Starting -/

/-- A process that was just started has written its banner and nothing was read. -/
theorem tracks_fresh (c : Child γ) (program target : String) (console : Sink) :
    Tracks c 0 (fresh c program target console) := by
  have hnone : ∀ s ∈ ([] : List Bytes), 0 ∉ s := nofun
  exact ⟨rfl, rfl, .rest hnone rfl⟩

/-- Starting takes the first segment. -/
theorem awaitReady_cases (c : Child γ) (program target : String) (console : Sink) :
    let start := (awaitReady c (fresh c program target console)).1
    (c.segments [] ≠ [] ∧ ∃ p, start = .ready p ∧ p.sent = #[] ∧ Tracks c 1 p) ∨
    (c.segments [] = [] ∧ ((c.life []).ended = true ∧ (∃ p, start = .failed .closed p) ∨
      (c.life []).ended = false ∧ ∃ p, start = .waiting p)) := by
  have htracks := tracks_fresh c program target console
  have hread := read_cases htracks
  have hkeeps := (fresh c program target console).read_keeps.2
  have hended := htracks.ended
  generalize hfresh : fresh c program target console = p at hread hkeeps hended
  have hsent : p.sent = #[] := by rw [← hfresh]; rfl
  rw [hsent] at hread hended hkeeps
  unfold awaitReady
  generalize p.read = r at hread hkeeps
  obtain ⟨reading, q⟩ := r
  dsimp only at hread hkeeps ⊢
  rcases hread with ⟨segment, hsegment, rfl, htracks'⟩ |
      ⟨hlength, ⟨hclosed, ⟨size, rfl⟩, -⟩ | ⟨hopen, hwaits⟩⟩
  · refine .inl ⟨?_, q, rfl, hkeeps, htracks'⟩
    intro hnil
    rw [hnil] at hsegment
    cases hsegment
  · refine .inr ⟨List.length_eq_zero_iff.mp (Nat.le_zero.mp hlength), .inl ?_⟩
    exact ⟨hended.symm.trans hclosed, _, rfl⟩
  · cases hwaits
    refine .inr ⟨List.length_eq_zero_iff.mp (Nat.le_zero.mp hlength), .inr ?_⟩
    exact ⟨hended.symm.trans hopen, _, rfl⟩

/-- Whatever a process writes before it closes its output, its segments are taken
one by one. The first is for the start, and each line that is sent takes the
next, so the tail that no NUL ends is never a reply. The start, or a call, fails
exactly if it needs a segment that is not there, and of a call that fails the
lines behind that one are not sent. From then on every call with a line fails; a
call without one touches nothing in any state.

The writes have to succeed, and where the process has not written what a line
needs it has to close its output, or the reader waits for ever. -/
theorem replies_are_segments (c : Child γ) (program target : String) (console : Sink) :
    let start := (awaitReady c (fresh c program target console)).1
    ((∃ p, start = .ready p) ↔ c.segments [] ≠ []) ∧
      ((∃ p, start = .failed .closed p) ↔ c.segments [] = [] ∧ (c.life []).ended = true) ∧
      ((∃ p, start = .waiting p) ↔ c.segments [] = [] ∧ (c.life []).ended = false) ∧
      (∀ p, start = .ready p → ∀ texts : List String,
        let answers := (cmdAll c texts p).1
        let sent := (cmdAll c texts p).2.sent.toList
        let segments := (c.segments sent).tail
        (∀ answer ∈ answers, answer ≠ .done (.error (.io .brokenPipe))) →
        (∀ heard, heard <+: sent → c.Responds heard) →
        answers = (serveAll segments (texts.map commandLines)).map Answer.done ∧
          sent = sendAll segments (texts.map commandLines) ∧
          ∀ (i j : Nat) (text : String), i < j → answers[i]? = some (.done (.error .closed)) →
            texts[j]? = some text → commandLines text ≠ [] →
            answers[j]? = some (.done (.error .closed))) ∧
      ∀ (p : Pipe γ) (text : String), (∀ line ∈ Text.lines text, Text.isBlankText line = true) →
        p.cmd c text = (.done (.ok ""), p, []) := by
  have hstart := awaitReady_cases c program target console
  dsimp only at hstart ⊢
  generalize (awaitReady c (fresh c program target console)).1 = start at hstart
  refine ⟨?_, ?_, ?_, ?_, ?_⟩
  · rcases hstart with ⟨hne, p, rfl, -⟩ | ⟨hnil, ⟨-, p, rfl⟩ | ⟨-, p, rfl⟩⟩ <;> simp_all
  · rcases hstart with ⟨hne, p, rfl, -⟩ | ⟨hnil, ⟨hended, p, rfl⟩ | ⟨hended, p, rfl⟩⟩ <;> simp_all
  · rcases hstart with ⟨hne, p, rfl, -⟩ | ⟨hnil, ⟨hended, p, rfl⟩ | ⟨hended, p, rfl⟩⟩ <;> simp_all
  · rintro p rfl texts hwrites hresponds
    obtain ⟨-, q, hq, hnone, htracks⟩ | ⟨-, ⟨-, q, hq⟩ | ⟨-, q, hq⟩⟩ := hstart <;> cases hq
    have hsize : p.sent.size = 0 := by rw [hnone]; rfl
    have hserved := cmdAll_served hresponds texts (hsize.symm ▸ htracks) hwrites List.prefix_rfl
    rw [hsize, hnone] at hserved
    obtain ⟨hanswers, hsent⟩ := hserved
    rw [List.drop_one] at hanswers hsent
    refine ⟨hanswers, by simpa using hsent, ?_⟩
    intro i j text hij hi hj hne
    rw [hanswers, List.getElem?_map] at hi ⊢
    obtain ⟨result, hresult, hclosed⟩ := Option.map_eq_some_iff.mp hi
    cases hclosed
    have hcall : (texts.map commandLines)[j]? = some (commandLines text) := by
      rw [List.getElem?_map, hj]
      rfl
    rw [serveAll_closed hij hresult hcall hne]
    rfl
  · intro p text hblank
    have hnone : commandLines text = [] := by
      simpa [commandLines, List.filter_eq_nil_iff] using hblank
    rw [cmd, hnone]
    rfl

/-- A process that writes two replies and the beginning of a third at the first
line, closes its output and reads on. -/
def hasty : Child Unit where
  start := .waits [0x2e, 0] ()
  step _ line := if line == "x" then .mutes [0x61, 0, 0x62, 0, 0x63] () else .waits [0x64, 0] ()

def hastyReady : Pipe Unit where
  program := "r2"
  target := "a.out"
  running := some ()
  unread := []
  sent := #[]
  console := {}

/-- Two lines share what was written at the first of them; the third finds only
the beginning of a reply, its call sends no more, and the next call fails too. -/
theorem replies_are_segments_hasty :
    (awaitReady hasty (fresh hasty "r2" "a.out" {})).1 = .ready hastyReady ∧
      let r := cmdAll hasty ["x\ny", " \n", "z\nw", "v"] hastyReady
      r.1 = [.done (.ok "ab"), .done (.ok ""), .done (.error .closed), .done (.error .closed)] ∧
        r.2.sent.toList = ["x", "y", "z", "v"] ∧
        hasty.segments ["x", "y", "z", "v"] = [[0x2e], [0x61], [0x62]] := by
  have hready : (awaitReady hasty (fresh hasty "r2" "a.out" {})).1 = .ready hastyReady := rfl
  have hsegments : hasty.segments ["x", "y", "z", "v"] = [[0x2e], [0x61], [0x62]] := by decide
  have hwrites : ∀ answer ∈ (cmdAll hasty ["x\ny", " \n", "z\nw", "v"] hastyReady).1,
      answer ≠ .done (.error (.io .brokenPipe)) := by
    intro answer hmem
    have hmem : answer ∈ [Answer.done (.ok "ab"), .done (.ok ""), .done (.error .closed),
      .done (.error .closed)] := hmem
    rintro rfl
    simp at hmem
  have hresponds : ∀ heard, heard <+: ["x", "y", "z", "v"] → hasty.Responds heard := by
    intro heard hheard
    have hall : ∀ heard ∈ ["x", "y", "z", "v"].inits, hasty.Responds heard := by decide
    exact hall heard ((List.mem_inits heard _).mpr hheard)
  obtain ⟨-, -, -, hcalls, -⟩ := replies_are_segments hasty "r2" "a.out" {}
  obtain ⟨hanswers, hsent, -⟩ := hcalls _ hready _ hwrites hresponds
  exact ⟨hready, hanswers, hsent, hsegments⟩

end Pipe

end DecBridge
