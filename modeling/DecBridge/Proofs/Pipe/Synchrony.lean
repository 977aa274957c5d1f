import DecBridge.Pipe
import DecBridge.Proofs.Text.Lines
import DecBridge.Proofs.Text.Utf8

/-!
# The pipe and its disassembler stay in step

A disassembler that keeps to the framing (`Child.Framed`) answers every line
with one reply and a NUL. Between two commands the pipe is then in sync with
it: the process runs and nothing is left unread (`Pipe.Synced`). One exchange
keeps it so (`exchange_synced`), and from that a command does and a whole
sequence of commands (`cmdAll_synced`).

What was sent is read by the other party byte by byte. `framing_synchronous`
therefore also says what the bytes are and that they fall into the same lines
when they are cut at line feeds.
-/

namespace DecBridge

open Output (Sink)

open Text (Bytes decodeLossy encode lineFeed)

variable {γ : Type}

/-- A process that keeps to the framing: it says something and a NUL, and then
for each line that it gets it writes a reply and a NUL. -/
structure Child.Framed (c : Child γ) where
  banner : Bytes
  first : γ
  reply : γ → String → Bytes
  next : γ → String → γ
  banner_noNul : 0 ∉ banner
  reply_noNul : ∀ g line, '\n' ∉ line.toList → 0 ∉ reply g line
  start_eq : c.start = .waits (banner ++ [0]) first
  step_eq : ∀ g line, '\n' ∉ line.toList →
    c.step g line = .waits (reply g line ++ [0]) (next g line)

namespace Child.Framed

variable {c : Child γ} (f : c.Framed)

/-- What the process remembers after some lines. -/
def after (g : γ) (lines : List String) : γ := lines.foldl f.next g

/-- Its replies to some lines, one for each. -/
def replies : γ → List String → List Bytes
  | _, [] => []
  | g, line :: lines => f.reply g line :: replies (f.next g line) lines

/-- Its replies to some commands, those to each command apart. -/
def dialogue : γ → List String → List (List Bytes)
  | _, [] => []
  | g, text :: texts =>
    f.replies g (Pipe.commandLines text) ::
      dialogue (f.after g (Pipe.commandLines text)) texts

theorem replies_append (g : γ) (xs ys : List String) :
    f.replies g (xs ++ ys) = f.replies g xs ++ f.replies (f.after g xs) ys := by
  induction xs generalizing g with
  | nil => rfl
  | cons line xs ih =>
      show _ :: f.replies _ (xs ++ ys) = _
      rw [ih]
      rfl

/-- The replies to all commands are the replies to all their lines. -/
theorem dialogue_flatten (g : γ) (texts : List String) :
    (f.dialogue g texts).flatten = f.replies g (texts.flatMap Pipe.commandLines) := by
  induction texts generalizing g with
  | nil => rfl
  | cons text texts ih =>
      rw [dialogue, List.flatten_cons, ih, List.flatMap_cons, replies_append]

end Child.Framed

namespace Pipe

/-! ## The lines of a command -/

theorem mem_commandLines {text line : String} (h : line ∈ commandLines text) :
    '\n' ∉ line.toList ∧ Text.isBlankText line = false := by
  obtain ⟨hline, hblank⟩ := List.mem_filter.mp h
  exact ⟨Text.lineFeed_notMem_lines hline, by simpa using hblank⟩

theorem lineFeed_notMem_commandLines (texts : List String) :
    ∀ line ∈ texts.flatMap commandLines, '\n' ∉ line.toList := by
  intro line hline
  obtain ⟨text, -, hmem⟩ := List.mem_flatMap.mp hline
  exact (mem_commandLines hmem).1

/-- The first line of a command is sent unless it is blank. -/
theorem commandLines_cons {cs : List Char} (h : '\n' ∉ cs) (rest : List Char) :
    commandLines (String.ofList (cs ++ '\n' :: rest)) =
      (if cs.all Text.isBlank then []
        else [String.ofList (Text.dropFinalReturn cs)]) ++
        commandLines (String.ofList rest) := by
  unfold commandLines
  rw [Text.lines_cons h, List.filter_cons]
  have hblank : Text.isBlankText (String.ofList (Text.dropFinalReturn cs)) =
      cs.all Text.isBlank := by
    rw [Text.isBlankText, String.toList_ofList, Text.dropFinalReturn_all_isBlank]
  rw [hblank]
  cases cs.all Text.isBlank <;> rfl

/-- So is a last one that was not ended. -/
theorem commandLines_last {cs : List Char} (h : '\n' ∉ cs) :
    commandLines (String.ofList cs) =
      if cs.all Text.isBlank then [] else [String.ofList cs] := by
  unfold commandLines
  rw [Text.lines_last h]
  cases cs with
  | nil => rfl
  | cons c cs =>
      rw [List.isEmpty_cons, if_neg Bool.false_ne_true, List.filter_cons,
        Text.isBlankText, String.toList_ofList]
      cases (c :: cs).all Text.isBlank <;> rfl

/-! ## Staying in step -/

/-- The process runs, remembering `g`, its output is open, and nothing that it
wrote is unread. -/
structure Synced (g : γ) (p : Pipe γ) : Prop where
  running : p.running = some g
  unread : p.unread = []
  ended : p.ended = false

theorem Synced.same {g : γ} {p : Pipe γ} (h : p.Synced g) :
    { p with running := some g } = p := by
  rw [← h.running]

theorem read_reply {p : Pipe γ} {bytes : Bytes} (h : p.unread = bytes ++ [0])
    (hbytes : 0 ∉ bytes) : p.read = (.reply bytes, { p with unread := [] }) := by
  have hne : ∀ b ∈ bytes, (b != 0) = true := by
    intro b hb
    rw [bne_iff_ne]
    rintro rfl
    exact hbytes hb
  have hdrop : p.unread.dropWhile (· != 0) = [0] := by
    rw [h, List.dropWhile_append_of_pos hne]
    rfl
  have htake : p.unread.takeWhile (· != 0) = bytes := by
    rw [h, List.takeWhile_append_of_pos hne]
    simp
  unfold read
  rw [hdrop, htake]

variable {c : Child γ} (f : c.Framed)

theorem exchange_synced {g : γ} {p : Pipe γ} (hp : p.Synced g) {line : String}
    (hline : '\n' ∉ line.toList) :
    ∃ events, exchange c line p =
      (.done (.ok (decodeLossy (f.reply g line))),
        { p with running := some (f.next g line), sent := p.sent.push line },
        events) := by
  have hsend : p.send c line = (none, { p with
      running := some (f.next g line), unread := f.reply g line ++ [0]
      sent := p.sent.push line }) := by
    unfold send
    rw [hp.running]
    dsimp only
    rw [f.step_eq g line hline, hp.unread, hp.ended]
    rfl
  refine ⟨[sendingEvent line, completedEvent line (decodeLossy (f.reply g line))], ?_⟩
  unfold exchange
  rw [hsend]
  dsimp only
  rw [read_reply rfl (f.reply_noNul g line hline), ← hp.unread]

theorem exchangeAll_synced {g : γ} {p : Pipe γ} (hp : p.Synced g)
    {lines : List String} (hlines : ∀ line ∈ lines, '\n' ∉ line.toList) :
    ∃ events, exchangeAll c lines p =
      (.done (.ok (String.join ((f.replies g lines).map decodeLossy))),
        { p with
          running := some (f.after g lines), sent := p.sent ++ lines.toArray },
        events) := by
  induction lines generalizing g p with
  | nil =>
      refine ⟨[], ?_⟩
      simp [exchangeAll, Child.Framed.after, Child.Framed.replies, hp.same]
  | cons line lines ih =>
      obtain ⟨events, hfirst⟩ := exchange_synced f hp (hlines line List.mem_cons_self)
      obtain ⟨later, hrest⟩ := ih (g := f.next g line)
        (p := { p with running := some (f.next g line), sent := p.sent.push line })
        ⟨rfl, hp.unread, hp.ended⟩ fun l hl => hlines l (List.mem_cons_of_mem _ hl)
      refine ⟨events ++ later, ?_⟩
      rw [exchangeAll, hfirst]
      dsimp only
      rw [hrest]
      simp [Child.Framed.after, Child.Framed.replies]

/-- Runs commands one after the other. -/
def cmdAll (c : Child γ) : List String → Pipe γ → List Answer × Pipe γ
  | [], p => ([], p)
  | text :: texts, p =>
    let (answer, p, _) := p.cmd c text
    let (answers, p) := cmdAll c texts p
    (answer :: answers, p)

theorem cmdAll_synced {g : γ} {p : Pipe γ} (hp : p.Synced g) (texts : List String) :
    cmdAll c texts p =
      ((f.dialogue g texts).map fun replies =>
          .done (.ok (String.join (replies.map decodeLossy))),
        { p with
          running := some (f.after g (texts.flatMap commandLines))
          sent := p.sent ++ (texts.flatMap commandLines).toArray }) := by
  induction texts generalizing g p with
  | nil =>
      simp [cmdAll, Child.Framed.after, Child.Framed.dialogue, hp.same]
  | cons text texts ih =>
      have hlines : ∀ line ∈ commandLines text, '\n' ∉ line.toList :=
        fun line hline => (mem_commandLines hline).1
      obtain ⟨events, hcmd⟩ := exchangeAll_synced f hp hlines
      have hrest := ih (g := f.after g (commandLines text)) (p := { p with
        running := some (f.after g (commandLines text))
        sent := p.sent ++ (commandLines text).toArray }) ⟨rfl, hp.unread, hp.ended⟩
      rw [cmdAll, cmd, hcmd]
      dsimp only
      rw [hrest]
      simp [Child.Framed.after, Child.Framed.dialogue, List.foldl_append]

/-! ## The streams -/

/-- The bytes that were received are the lines, each with a line feed. -/
theorem encode_received {p : Pipe γ} {lines : List String}
    (h : p.sent.toList = lines) :
    encode p.received = lines.flatMap fun line => encode line ++ [lineFeed] := by
  unfold received
  rw [h]
  clear h
  induction lines with
  | nil =>
      rw [List.map_nil, String.join_nil, Text.encode_eq_flatMap]
      rfl
  | cons line lines ih =>
      have hfeed : encode "\n" = [lineFeed] := by
        rw [Text.encode_eq_flatMap]
        rfl
      rw [List.map_cons, String.join_cons, Text.encode_append, Text.encode_append, ih,
        hfeed, List.flatMap_cons]

/-- Bytes that are lines with their line feeds are cut into those lines. -/
theorem cutAt_encoded {lines : List String} (h : ∀ line ∈ lines, '\n' ∉ line.toList) :
    Text.cutAt lineFeed (lines.flatMap fun line => encode line ++ [lineFeed]) =
      lines.map encode ++ [[]] := by
  have hpieces : ∀ piece ∈ lines.map encode, lineFeed ∉ piece := by
    intro piece hpiece
    obtain ⟨line, hline, rfl⟩ := List.mem_map.mp hpiece
    exact Text.lineFeed_notMem_encode (h line hline)
  have hcut := Text.cutAt_flatMap hpieces
  rw [List.flatMap_map] at hcut
  exact hcut

/-- A process that was just started and keeps to the framing gets ready. -/
theorem awaitReady_framed (program target : String) (console : Sink) :
    awaitReady c (fresh c program target console) =
      (.ready { program, target, running := some f.first, unread := [], sent := #[],
                console }, [readyEvent (decodeLossy f.banner)]) := by
  have hunread : (fresh c program target console).unread = f.banner ++ [0] := by
    show c.start.output = _
    rw [f.start_eq]
    rfl
  unfold awaitReady
  rw [read_reply hunread f.banner_noNul]
  dsimp only [fresh]
  rw [f.start_eq]
  rfl

/-- The pipe never loses synchrony with a process that keeps to the framing.

The process gets ready, and then, for any commands: each command is answered
by the replies to its own lines, read as UTF-8; the bytes that the process
received are the lines of all commands in order, none of them blank, each with
one line feed behind it and none inside, so that the process sees these same
lines; and nothing is left unread. A reply that is UTF-8 is read as it is. The
last two clauses say what the lines of a command are. -/
theorem framing_synchronous (program target : String) (console : Sink) :
    (∃ p₀, awaitReady c (fresh c program target console) =
        (.ready p₀, [readyEvent (decodeLossy f.banner)]) ∧
      ∀ texts : List String,
        let r := cmdAll c texts p₀
        let lines := texts.flatMap commandLines
        r.1 = (f.dialogue f.first texts).map (fun replies =>
            .done (.ok (String.join (replies.map decodeLossy)))) ∧
          (f.dialogue f.first texts).flatten = f.replies f.first lines ∧
          encode r.2.received =
            lines.flatMap (fun line => encode line ++ [lineFeed]) ∧
          Text.cutAt lineFeed (encode r.2.received) = lines.map encode ++ [[]] ∧
          (∀ line ∈ lines,
            lineFeed ∉ encode line ∧ Text.isBlankText line = false) ∧
          r.2.unread = []) ∧
      (∀ s : String, decodeLossy (encode s) = s) ∧
      (∀ cs rest : List Char, '\n' ∉ cs →
        commandLines (String.ofList (cs ++ '\n' :: rest)) =
          (if cs.all Text.isBlank then []
            else [String.ofList (Text.dropFinalReturn cs)]) ++
            commandLines (String.ofList rest)) ∧
      ∀ cs : List Char, '\n' ∉ cs →
        commandLines (String.ofList cs) =
          if cs.all Text.isBlank then [] else [String.ofList cs] := by
  refine ⟨⟨_, awaitReady_framed f program target console, fun texts => ?_⟩,
    Text.decodeLossy_encode, fun cs rest h => commandLines_cons h rest,
    fun cs h => commandLines_last h⟩
  dsimp only
  rw [cmdAll_synced f (g := f.first) ⟨rfl, rfl, rfl⟩]
  have hlines := lineFeed_notMem_commandLines texts
  have hsent : (#[] ++ (texts.flatMap commandLines).toArray).toList =
      texts.flatMap commandLines := by simp
  refine ⟨rfl, f.dialogue_flatten f.first texts, encode_received hsent, ?_, ?_, rfl⟩
  · rw [encode_received hsent]
    exact cutAt_encoded hlines
  · intro line hline
    obtain ⟨text, -, hmem⟩ := List.mem_flatMap.mp hline
    exact ⟨Text.lineFeed_notMem_encode (hlines line hline), (mem_commandLines hmem).2⟩

/-- A process that answers the n-th line by n dots. -/
def dots : Child Nat where
  start := .waits [0x2e, 0] 0
  step n _ := .waits (List.replicate (n + 1) 0x2e ++ [0]) (n + 1)

def dotsFramed : dots.Framed where
  banner := [0x2e]
  first := 0
  reply n _ := List.replicate (n + 1) 0x2e
  next n _ := n + 1
  banner_noNul := by decide
  reply_noNul := by simp
  start_eq := rfl
  step_eq _ _ _ := rfl

/-- The lines of a command may end in either way, and blank ones cost no
reply. -/
theorem framing_synchronous_dots :
    ∃ p₀, awaitReady dots (fresh dots "r2" "a.out" {}) =
        (.ready p₀, [readyEvent "."]) ∧
      let r := cmdAll dots ["a\r\nb", "", " \t\n", "c"] p₀
      r.1 = [.done (.ok "..."), .done (.ok ""), .done (.ok ""), .done (.ok "...")] ∧
        encode r.2.received = [97, 10, 98, 10, 99, 10] ∧
        commandLines (String.ofList ['a', '\r']) = ["a\r"] := by
  obtain ⟨⟨p₀, hready, h⟩, -, -, hlast⟩ :=
    framing_synchronous dotsFramed "r2" "a.out" {}
  obtain ⟨hanswers, -, hreceived, -⟩ := h ["a\r\nb", "", " \t\n", "c"]
  refine ⟨p₀, hready, hanswers.trans ?_, hreceived.trans ?_, ?_⟩
  · rfl
  · decide +kernel
  · exact hlast ['a', '\r'] (by decide)

end Pipe

end DecBridge
