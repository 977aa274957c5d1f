import DecBridge.Proofs.Settings.Command
import DecBridge.Proofs.Workbench.Calls

/-!
# Commands of several lines

The overlay of the settings looks at a text as a whole, and the pipe behind it
at the lines of a text. `wholeEffect` says what a text comes to at the workbench
and `lineEffect` what its lines come to one after the other, with a disassembler
that keeps to the framing.

`commands_linewise` compares the two: they agree in all settings exactly if the
text has one line at most, or neither the text nor any line of it is recognised
as a settings command. The hard part is that several recognised lines never mean
what they mean as one text (`Settings.carryOut_ne`): the lines behind the first
become a part of its value or of its key. `settings_between_lines` has the two
ways in which a text goes wrong.
-/

namespace DecBridge

open Text (Blanks Tight trimmed)

/-! ## Carrying out commands -/

namespace Settings

/-- The output of commands one after the other, and the settings after them. -/
def carryOut (s : Settings) : List SettingsCommand → String × Settings
  | [] => ("", s)
  | x :: xs =>
    let (more, last) := (s.after x).carryOut xs
    (s.output x ++ more, last)

theorem carryOut_cons (s : Settings) (x : SettingsCommand) (xs : List SettingsCommand) :
    s.carryOut (x :: xs) =
      (s.output x ++ ((s.after x).carryOut xs).1, ((s.after x).carryOut xs).2) :=
  rfl

theorem ofName_cases (key : String) :
    key = "pdw.casts" ∧ Setting.ofName key = .ok .casts ∨
    key = "pdw.theme" ∧ Setting.ofName key = .ok .theme ∨
    Setting.ofName key = .error (.unknownKey key) := by
  by_cases hcasts : key = "pdw.casts"
  · subst hcasts
    exact .inl ⟨rfl, rfl⟩
  by_cases htheme : key = "pdw.theme"
  · subst htheme
    exact .inr (.inl ⟨rfl, rfl⟩)
  refine .inr (.inr ?_)
  simp [Setting.ofName, Setting.all, Setting.name, Ne.symm hcasts, Ne.symm htheme]

theorem execute_unknown (s : Settings) {x : SettingsCommand}
    (h : Setting.ofName x.key = .error (.unknownKey x.key)) :
    s.execute x = .error (.unknownKey x.key) := by
  cases x with
  | get key =>
      rw [execute, show Setting.ofName key = _ from h]
      rfl
  | set key value =>
      rw [execute, show Setting.ofName key = _ from h]
      rfl

theorem unknown_spec (s : Settings) {x : SettingsCommand}
    (h : Setting.ofName x.key = .error (.unknownKey x.key)) :
    s.output x = "ERROR: " ++ (SettingsError.unknownKey x.key).message ++ "\n" ∧
      s.after x = s := by
  unfold output after
  rw [execute_unknown s h]
  exact ⟨rfl, rfl⟩

theorem casts_spec (s : Settings) (value : String) :
    (∃ b, Settings.boolOf? value = some b ∧ s.output (.set "pdw.casts" value) = "" ∧
      s.after (.set "pdw.casts" value) = { s with casts := b }) ∨
    Settings.boolOf? value = none ∧
      s.output (.set "pdw.casts" value) =
        "ERROR: " ++ (SettingsError.invalidBool .casts value).message ++ "\n" ∧
      s.after (.set "pdw.casts" value) = s := by
  have hexecute : s.execute (.set "pdw.casts" value) =
      (s.set .casts value).bind fun next => .ok ("", next) := rfl
  unfold output after
  rw [hexecute, Settings.set]
  cases Settings.boolOf? value with
  | some b => exact .inl ⟨b, rfl, rfl, rfl⟩
  | none => exact .inr ⟨rfl, rfl, rfl⟩

/-- A value with a blank in it is no truth value. -/
theorem boolOf?_of_blank {value : String} (h : ' ' ∈ value.toList) :
    Settings.boolOf? value = none := by
  have hlower : ' ' ∈ (Text.lower value).toList := by
    unfold Text.lower
    rw [String.toList_ofList]
    exact List.mem_map.mpr ⟨' ', h, by decide⟩
  have hne : ∀ word, ' ' ∉ word.toList → Text.lower value ≠ word := by
    rintro word hword rfl
    exact hword hlower
  unfold Settings.boolOf?
  simp [hne "true" (by decide), hne "1" (by decide), hne "false" (by decide),
    hne "0" (by decide)]

theorem theme_after (s : Settings) (x : SettingsCommand) :
    (s.after x).theme = s.theme ∨
      ∃ key value, x = .set key value ∧ (s.after x).theme = value := by
  rcases ofName_cases x.key with ⟨hkey, hname⟩ | ⟨hkey, hname⟩ | hname
  · cases x with
    | get key =>
        obtain rfl : key = "pdw.casts" := hkey
        exact .inl rfl
    | set key value =>
        obtain rfl : key = "pdw.casts" := hkey
        rcases s.casts_spec value with ⟨b, -, -, hafter⟩ | ⟨-, -, hafter⟩
        · exact .inl (by rw [hafter])
        · exact .inl (by rw [hafter])
  · cases x with
    | get key =>
        obtain rfl : key = "pdw.theme" := hkey
        exact .inl rfl
    | set key value =>
        obtain rfl : key = "pdw.theme" := hkey
        exact .inr ⟨_, value, rfl, rfl⟩
  · exact .inl (by rw [(s.unknown_spec hname).2])

theorem theme_carryOut (s : Settings) (xs : List SettingsCommand) :
    (s.carryOut xs).2.theme = s.theme ∨
      ∃ key value, .set key value ∈ xs ∧ (s.carryOut xs).2.theme = value := by
  induction xs generalizing s with
  | nil => exact .inl rfl
  | cons x xs ih =>
      rcases ih (s.after x) with hlast | ⟨key, value, hmem, hlast⟩
      · rcases s.theme_after x with hfirst | ⟨key, value, rfl, hfirst⟩
        · exact .inl (hlast.trans hfirst)
        · exact .inr ⟨key, value, List.mem_cons_self, hlast.trans hfirst⟩
      · exact .inr ⟨key, value, List.mem_cons_of_mem _ hmem, hlast⟩

/-! ## Several commands are not one -/

/-- Messages that quote a text and the same text with more behind it. -/
theorem quoted_ne (word start stop feed rest : String) (text : List Char) {c : Char}
    (more : List Char) (hstop : stop.toList.head? = some '\'') (hc : c ≠ '\'') :
    word ++ (start ++ String.ofList (text ++ c :: more) ++ stop) ++ feed ≠
      word ++ (start ++ String.ofList text ++ stop) ++ feed ++ rest := by
  intro heq
  have hlist := congrArg String.toList heq
  simp only [String.toList_append, String.toList_ofList, List.append_assoc,
    List.append_cancel_left_eq, List.cons_append] at hlist
  obtain ⟨stops, hstops⟩ := List.head?_eq_some_iff.mp hstop
  rw [hstops] at hlist
  exact hc (List.cons.inj hlist).1

theorem invalid_message (value : String) :
    (SettingsError.invalidBool .casts value).message = "invalid value '" ++ value ++
      ("' for '" ++ (Setting.casts.name ++ "', expected true or false")) := by
  have hassoc : ∀ a b c d e : String, a ++ b ++ c ++ d ++ e = a ++ b ++ (c ++ (d ++ e)) := by
    intro a b c d e
    rw [String.append_assoc, String.append_assoc]
  exact hassoc _ _ _ _ _

/-- What the casts are after an assignment does not depend on what they were, so
some settings are changed by it. -/
theorem exists_casts_changed {value : String} {b : Bool} (h : boolOf? value = some b)
    (xs : List SettingsCommand) :
    ∃ s : Settings, (s.carryOut (.set "pdw.casts" value :: xs)).2 ≠ s := by
  let last := (carryOut { casts := b } xs).2
  refine ⟨{ casts := !last.casts }, fun heq => ?_⟩
  rcases casts_spec { casts := !last.casts } value with ⟨b', hb', -, hafter⟩ | ⟨hnone, -⟩
  · obtain rfl : b = b' := Option.some.inj (h.symm.trans hb')
    rw [carryOut_cons, hafter] at heq
    exact (Bool.eq_not_self _).mp (congrArg Settings.casts heq)
  · rw [h] at hnone
    cases hnone

/-- No commands are without effect in all settings. -/
theorem carryOut_effect (x : SettingsCommand) (xs : List SettingsCommand) :
    ∃ s : Settings, s.carryOut (x :: xs) ≠ ("", s) := by
  have hshown : ∀ s : Settings, s.output x ≠ "" → s.carryOut (x :: xs) ≠ ("", s) := by
    intro s hs heq
    rw [carryOut_cons, Prod.mk.injEq] at heq
    exact hs (String.append_eq_empty_iff.mp heq.1).1
  have herror : ∀ e : SettingsError, "ERROR: " ++ e.message ++ "\n" ≠ "" := by
    intro e heq
    have := congrArg String.toList heq
    simp at this
  rcases ofName_cases x.key with ⟨hkey, -⟩ | ⟨hkey, -⟩ | hname
  · cases x with
    | get key =>
        obtain rfl : key = "pdw.casts" := hkey
        exact ⟨{}, hshown {} (by decide)⟩
    | set key value =>
        obtain rfl : key = "pdw.casts" := hkey
        rcases ({} : Settings).casts_spec value with ⟨b, hb, -, -⟩ | ⟨-, houtput, -⟩
        · obtain ⟨s, hs⟩ := exists_casts_changed hb xs
          exact ⟨s, fun heq => hs (congrArg Prod.snd heq)⟩
        · exact ⟨{}, hshown {} (houtput ▸ herror _)⟩
  · cases x with
    | get key =>
        obtain rfl : key = "pdw.theme" := hkey
        exact ⟨{}, hshown {} (by decide)⟩
    | set key value =>
        obtain rfl : key = "pdw.theme" := hkey
        -- the theme afterwards does not depend on the theme before
        refine ⟨{ theme := (carryOut { theme := value } xs).2.theme ++ "x" }, fun heq => ?_⟩
        have htheme := congrArg (fun r => r.2.theme.toList.length) heq
        change (carryOut { theme := value } xs).2.theme.toList.length = _ at htheme
        simp at htheme
  · exact ⟨{}, hshown {} ((unknown_spec {} hname).1 ▸ herror _)⟩

/-- A text whose value is longer than that of its first line and holds all other
lines: assigning it is not what the lines come to. -/
theorem assignment_ne {key : String} {value more : List Char} {xs : List SettingsCommand}
    (hxs : xs ≠ []) (hblank : ' ' ∈ more) (hmore : ∀ c, more.head? = some c → c ≠ '\'')
    (hshort : ∀ k v, .set k v ∈ xs → v.toList.length < more.length) :
    ∃ s : Settings,
      (s.output (.set key (String.ofList (value ++ more))),
        s.after (.set key (String.ofList (value ++ more)))) ≠
      s.carryOut (.set key (String.ofList value) :: xs) := by
  obtain ⟨c, rest, rfl⟩ := List.exists_cons_of_ne_nil (List.ne_nil_of_mem hblank)
  rcases ofName_cases key with ⟨rfl, -⟩ | ⟨rfl, -⟩ | hname
  · have hnone : boolOf? (String.ofList (value ++ c :: rest)) = none :=
      boolOf?_of_blank (by simp only [String.toList_ofList]; exact List.mem_append_right _ hblank)
    have hwhole : ∀ s : Settings,
        s.output (.set "pdw.casts" (String.ofList (value ++ c :: rest))) = "ERROR: " ++
            (SettingsError.invalidBool .casts (String.ofList (value ++ c :: rest))).message ++
            "\n" ∧
          s.after (.set "pdw.casts" (String.ofList (value ++ c :: rest))) = s := by
      intro s
      rcases s.casts_spec (String.ofList (value ++ c :: rest)) with ⟨_, hb, -⟩ | ⟨-, hspec⟩
      · rw [hnone] at hb
        cases hb
      · exact hspec
    rcases casts_spec {} (String.ofList value) with ⟨b, hb, -⟩ | ⟨-, houtput, -⟩
    · obtain ⟨s, hs⟩ := exists_casts_changed hb xs
      exact ⟨s, fun heq => hs ((congrArg Prod.snd heq).symm.trans (hwhole s).2)⟩
    · refine ⟨{}, fun heq => ?_⟩
      rw [carryOut_cons, Prod.mk.injEq, (hwhole {}).1, houtput, invalid_message,
        invalid_message] at heq
      exact quoted_ne _ _ _ _ _ _ _ (by decide) (hmore c rfl) heq.1
  · refine ⟨{}, fun heq => ?_⟩
    have htheme : String.ofList (value ++ c :: rest) =
        (carryOut { theme := String.ofList value } xs).2.theme :=
      congrArg (fun r => r.2.theme) heq
    have hlength := congrArg (fun t => t.toList.length) htheme
    rcases theme_carryOut { theme := String.ofList value } xs with hlast | ⟨k, v, hmem, hlast⟩
    · rw [hlast] at hlength
      simp at hlength
    · have := hshort k v hmem
      rw [hlast] at hlength
      simp at hlength
      simp at this
      omega
  · obtain ⟨x, xs, rfl⟩ := List.exists_cons_of_ne_nil hxs
    obtain ⟨s, hs⟩ := carryOut_effect x xs
    refine ⟨s, fun heq => hs ?_⟩
    obtain ⟨houtput, hafter⟩ :=
      s.unknown_spec (x := .set key (String.ofList (value ++ c :: rest))) hname
    obtain ⟨houtput', hafter'⟩ := s.unknown_spec (x := .set key (String.ofList value)) hname
    rw [carryOut_cons, Prod.mk.injEq, hafter, hafter', houtput, houtput'] at heq
    have hnone : ∀ a b : String, a = a ++ b → b = "" := by
      intro a b h
      have hlist := congrArg String.toList h
      rw [String.toList_append] at hlist
      exact String.toList_eq_nil_iff.mp (List.self_eq_append_right.mp hlist)
    exact Prod.ext (hnone _ _ heq.1) heq.2.symm

/-- What reads a longer key is not what the lines come to. -/
theorem reading_ne {key more : List Char} {blank : Char} {y : SettingsCommand}
    (hblank : Text.isBlank blank = true) (hy : y.key = String.ofList (key ++ blank :: more))
    (xs : List SettingsCommand) :
    ∃ s : Settings, (s.output y, s.after y) ≠
      s.carryOut (.get (String.ofList key) :: xs) := by
  have hmem : blank ∈ y.key.toList := by
    rw [hy, String.toList_ofList]
    simp
  have hunknown : Setting.ofName y.key = .error (.unknownKey y.key) := by
    have hplain : ∀ c ∈ "pdw.casts".toList ++ "pdw.theme".toList, Text.isBlank c = false := by
      have hall : ("pdw.casts".toList ++ "pdw.theme".toList).all (!Text.isBlank ·) = true := by
        decide
      simpa using List.all_eq_true.mp hall
    rcases ofName_cases y.key with ⟨hkey, -⟩ | ⟨hkey, -⟩ | hname
    · rw [hkey] at hmem
      rw [hplain blank (List.mem_append_left _ hmem)] at hblank
      cases hblank
    · rw [hkey] at hmem
      rw [hplain blank (List.mem_append_right _ hmem)] at hblank
      cases hblank
    · exact hname
  have hquote : blank ≠ '\'' := by
    rintro rfl
    exact absurd hblank (by decide)
  refine ⟨{ theme := "" }, fun heq => ?_⟩
  rw [carryOut_cons, Prod.mk.injEq, (unknown_spec _ hunknown).1, hy] at heq
  have hhead := congrArg (fun t => t.toList.head?) heq.1
  rcases ofName_cases (String.ofList key) with ⟨hkey, -⟩ | ⟨hkey, -⟩ | hname
  · rw [hkey, show output { theme := "" } (.get "pdw.casts") = "false\n" from rfl] at hhead
    simp at hhead
  · rw [hkey, show output { theme := "" } (.get "pdw.theme") = "\n" from rfl] at hhead
    simp at hhead
  · have hfirst := (unknown_spec { theme := "" } (x := .get (String.ofList key)) hname).1
    rw [hfirst] at heq
    exact quoted_ne _ _ _ _ _ _ _ (by decide) hquote heq.1

/-- A text of several lines that are recognised is not read as these lines. -/
theorem carryOut_ne {text : String} {xs : List SettingsCommand} {y : SettingsCommand}
    (hlines : (Pipe.commandLines text).map SettingsCommand.parse = xs.map some)
    (hmany : 1 < xs.length) (hy : SettingsCommand.parse text = some y) :
    ∃ s : Settings, (s.output y, s.after y) ≠ s.carryOut xs := by
  obtain _ | ⟨x, _ | ⟨z, xs⟩⟩ := xs
  · simp at hmany
  · simp at hmany
  obtain ⟨line, others, hcons, hx, hothers⟩ := List.map_eq_cons_iff.mp hlines
  obtain ⟨next, rest, rfl, hz, hrest⟩ := List.map_eq_cons_iff.mp hothers
  rcases SettingsCommand.parse_extended hcons hx hz hy with
    ⟨key, value, gap, after, rfl, hne, hgap, hafter, rfl⟩ |
    ⟨key, blank, more, rfl, hblank, hkey⟩
  · obtain ⟨more, hmore⟩ := SettingsCommand.trimmed_start hafter hz
    rw [List.append_assoc]
    refine assignment_ne (by simp) (by simp [hmore]) ?_ ?_
    · intro c hc
      cases gap with
      | nil =>
          rw [hmore] at hc
          cases hc
          decide
      | cons blank gap =>
          cases hc
          rintro rfl
          exact absurd (hgap _ List.mem_cons_self) (by decide)
    · -- a value is shorter than its line, and the line is in what follows
      intro k v hmem
      obtain ⟨l, hl, hparse⟩ : ∃ l ∈ next :: rest, SettingsCommand.parse l = some (.set k v) := by
        have hsome : some (.set k v) ∈ (next :: rest).map SettingsCommand.parse := by
          rw [hothers]
          exact List.mem_map_of_mem hmem
        exact List.mem_map.mp hsome
      have hvalue := SettingsCommand.length_value_lt hparse
      have hline := SettingsCommand.length_line_le (hafter ▸ hl)
      rw [List.length_append]
      omega
  · exact reading_ne hblank hkey _

end Settings

/-! ## The workbench -/

namespace Workbench

open Host (HostError)

open Text (decodeLossy)

variable {γ : Type} {c : Child γ}

/-- A text that is recognised is answered here, and nothing is sent. -/
theorem cmd_recognised {text : String} {x : SettingsCommand}
    (h : SettingsCommand.parse text = some x) (w : World Unit (Workbench γ)) :
    ∃ log, port c () (.cmd text) w = (.done (.ok (w.host.settings.output x)),
      { w with host := { w.host with settings := w.host.settings.after x }, log }) := by
  show ∃ log, (roster c () (.cmd text) w.host).perform _ w = _
  rw [roster_recognised h, Host.Reaction.perform_notes]
  exact ⟨_, rfl⟩

/-- Any other text is sent line by line. -/
theorem cmd_passed (f : c.Framed) {text : String} (h : SettingsCommand.parse text = none)
    {w : World Unit (Workbench γ)} {g : γ} (hw : w.host.pipe.Synced g) :
    ∃ log, port c () (.cmd text) w =
      (.done (.ok (String.join ((f.replies g (Pipe.commandLines text)).map decodeLossy))),
        { w with
          host := { w.host with
            pipe := { w.host.pipe with
              running := some (f.after g (Pipe.commandLines text))
              sent := w.host.pipe.sent ++ (Pipe.commandLines text).toArray } }
          log }) := by
  have hlines : ∀ line ∈ Pipe.commandLines text, '\n' ∉ line.toList :=
    fun line hline => (Pipe.mem_commandLines hline).1
  obtain ⟨events, hcmd⟩ := Pipe.exchangeAll_synced f hw hlines
  show ∃ log, (roster c () (.cmd text) w.host).perform _ w = _
  rw [roster_passed h, Pipe.react, show pipePart.get w.host = w.host.pipe from rfl, Pipe.cmd, hcmd]
  dsimp only
  rw [Host.Reaction.perform_notes]
  exact ⟨_, rfl⟩

/-! ## Texts and lines -/

/-- Runs commands one after the other and joins what they put out. -/
def cmdEach (c : Child γ) : List String → Act Unit (Workbench γ) (Except HostError String)
  | [] => return .ok ""
  | text :: texts => do
    match ← port c () (.cmd text) with
    | .error e => return .error e
    | .ok output =>
      match ← cmdEach c texts with
      | .error e => return .error e
      | .ok more => return .ok (output ++ more)

/-- What running commands comes to. -/
structure Effect where
  output : String
  settings : Settings
  /-- The lines that were sent. -/
  sent : List String

/-- A run had this effect. -/
structure Effect.Of (e : Effect) (w : World Unit (Workbench γ))
    (r : Exit (Except HostError String) × World Unit (Workbench γ)) : Prop where
  output : r.1 = .done (.ok e.output)
  settings : r.2.host.settings = e.settings
  sent : r.2.host.pipe.sent = w.host.pipe.sent ++ e.sent.toArray

/-- Two runs put out the same, leave the same settings and sent the same. -/
structure SameEffect (r r' : Exit (Except HostError String) × World Unit (Workbench γ)) :
    Prop where
  output : r.1 = r'.1
  settings : r.2.host.settings = r'.2.host.settings
  sent : r.2.host.pipe.sent = r'.2.host.pipe.sent

theorem sameEffect_iff {e e' : Effect} {w : World Unit (Workbench γ)}
    {r r' : Exit (Except HostError String) × World Unit (Workbench γ)}
    (h : e.Of w r) (h' : e'.Of w r') : SameEffect r r' ↔ e = e' := by
  constructor
  · rintro ⟨houtput, hsettings, hsent⟩
    rw [h.output, h'.output] at houtput
    rw [h.settings, h'.settings] at hsettings
    rw [h.sent, h'.sent] at hsent
    obtain ⟨output, settings, sent⟩ := e
    cases houtput
    cases hsettings
    have hlist := congrArg Array.toList hsent
    simp at hlist
    cases hlist
    rfl
  · rintro rfl
    exact ⟨h.output.trans h'.output.symm, h.settings.trans h'.settings.symm,
      h.sent.trans h'.sent.symm⟩

/-- The effect of a text: it is one settings command, or all its lines are sent. -/
def wholeEffect (f : c.Framed) (g : γ) (s : Settings) (text : String) : Effect :=
  match SettingsCommand.parse text with
  | some x => ⟨s.output x, s.after x, []⟩
  | none =>
    ⟨String.join ((f.replies g (Pipe.commandLines text)).map decodeLossy), s,
      Pipe.commandLines text⟩

/-- The effect of lines one after the other: each is a settings command, or it is
sent. -/
def lineEffect (f : c.Framed) : γ → Settings → List String → Effect
  | _, s, [] => ⟨"", s, []⟩
  | g, s, line :: rest =>
    match SettingsCommand.parse line with
    | some x =>
      let later := lineEffect f g (s.after x) rest
      { later with output := s.output x ++ later.output }
    | none =>
      let later := lineEffect f (f.next g line) s rest
      { later with
        output := decodeLossy (f.reply g line) ++ later.output
        sent := line :: later.sent }

theorem whole_of (f : c.Framed) (text : String) {w : World Unit (Workbench γ)} {g : γ}
    (hw : w.host.pipe.Synced g) :
    (wholeEffect f g w.host.settings text).Of w (port c () (.cmd text) w) := by
  unfold wholeEffect
  cases h : SettingsCommand.parse text with
  | some x =>
      obtain ⟨log, hrun⟩ := cmd_recognised (c := c) h w
      rw [hrun]
      exact ⟨rfl, rfl, by simp⟩
  | none =>
      obtain ⟨log, hrun⟩ := cmd_passed f h hw
      rw [hrun]
      exact ⟨rfl, rfl, rfl⟩

theorem commandLines_line {line : String} (h : '\n' ∉ line.toList)
    (hblank : Text.isBlankText line = false) : Pipe.commandLines line = [line] := by
  have hlast := Pipe.commandLines_last h
  rw [String.ofList_toList] at hlast
  rw [hlast, if_neg]
  simpa [Text.isBlankText] using hblank

theorem cmdEach_cons (text : String) (texts : List String) {w w₁ w₂ : World Unit (Workbench γ)}
    {output more : String} (h : port c () (.cmd text) w = (.done (.ok output), w₁))
    (hrest : cmdEach c texts w₁ = (.done (.ok more), w₂)) :
    cmdEach c (text :: texts) w = (.done (.ok (output ++ more)), w₂) := by
  show Act.bind (port c () (.cmd text)) _ w = _
  unfold Act.bind
  rw [h]
  show Act.bind (cmdEach c texts) _ w₁ = _
  unfold Act.bind
  rw [hrest]
  rfl

theorem lines_of (f : c.Framed) {lines : List String}
    (hlines : ∀ line ∈ lines, '\n' ∉ line.toList ∧ Text.isBlankText line = false)
    {w : World Unit (Workbench γ)} {g : γ} (hw : w.host.pipe.Synced g) :
    (lineEffect f g w.host.settings lines).Of w (cmdEach c lines w) := by
  induction lines generalizing w g with
  | nil => exact ⟨rfl, rfl, by simp [lineEffect]; rfl⟩
  | cons line lines ih =>
      obtain ⟨hfeed, hblank⟩ := hlines line List.mem_cons_self
      have hrest : ∀ l ∈ lines, '\n' ∉ l.toList ∧ Text.isBlankText l = false :=
        fun l hl => hlines l (List.mem_cons_of_mem _ hl)
      unfold lineEffect
      cases h : SettingsCommand.parse line with
      | some x =>
          obtain ⟨log, hrun⟩ := cmd_recognised (c := c) h w
          have hlater := ih hrest (w := { w with
            host := { w.host with settings := w.host.settings.after x }, log }) hw
          have hall := cmdEach_cons line lines hrun (Prod.ext hlater.output rfl)
          rw [hall]
          exact ⟨rfl, hlater.settings, hlater.sent⟩
      | none =>
          obtain ⟨log, hrun⟩ := cmd_passed f h hw
          rw [commandLines_line hfeed hblank] at hrun
          have hlater := ih hrest (g := f.next g line) (w := { w with
            host := { w.host with
              pipe := { w.host.pipe with
                running := some (f.next g line), sent := w.host.pipe.sent ++ #[line] } }
            log }) ⟨rfl, hw.unread, hw.ended⟩
          have hall := cmdEach_cons line lines hrun (Prod.ext hlater.output rfl)
          rw [hall]
          refine ⟨?_, hlater.settings, hlater.sent.trans ?_⟩
          · simp [Child.Framed.replies]
          · simp

/-! ## Which texts are read by their lines -/

/-- A text that means what its lines mean: it has one line at most, or it has no
settings in it. -/
def ReadByLines (text : String) : Prop :=
  (Pipe.commandLines text).length ≤ 1 ∨
    SettingsCommand.parse text = none ∧
      ∀ line ∈ Pipe.commandLines text, SettingsCommand.parse line = none

theorem lineEffect_unrecognised (f : c.Framed) (g : γ) (s : Settings) {lines : List String}
    (h : ∀ line ∈ lines, SettingsCommand.parse line = none) :
    lineEffect f g s lines =
      ⟨String.join ((f.replies g lines).map decodeLossy), s, lines⟩ := by
  induction lines generalizing g with
  | nil => simp [lineEffect, Child.Framed.replies]
  | cons line lines ih =>
      rw [lineEffect, h line List.mem_cons_self, ih _ fun l hl => h l (List.mem_cons_of_mem _ hl)]
      simp [Child.Framed.replies]

theorem lineEffect_recognised (f : c.Framed) (g : γ) (s : Settings) {lines : List String}
    {xs : List SettingsCommand} (h : lines.map SettingsCommand.parse = xs.map some) :
    lineEffect f g s lines = ⟨(s.carryOut xs).1, (s.carryOut xs).2, []⟩ := by
  induction lines generalizing s xs with
  | nil =>
      cases xs with
      | nil => rfl
      | cons x xs => cases h
  | cons line lines ih =>
      cases xs with
      | nil => cases h
      | cons x xs =>
          obtain ⟨hline, hrest⟩ := List.cons.inj h
          rw [lineEffect, hline, Settings.carryOut_cons]
          dsimp only
          rw [ih (s.after x) hrest]

/-- Only the lines that are not recognised are sent. -/
theorem sent_lineEffect (f : c.Framed) (g : γ) (s : Settings) (lines : List String) :
    (lineEffect f g s lines).sent =
      lines.filter fun line => (SettingsCommand.parse line).isNone := by
  induction lines generalizing g s with
  | nil => rfl
  | cons line lines ih =>
      rw [lineEffect, List.filter_cons]
      cases h : SettingsCommand.parse line with
      | some x => exact ih _ _
      | none =>
          dsimp only
          rw [ih]
          rfl

theorem effect_of_readByLines {text : String} (h : ReadByLines text) (f : c.Framed) (g : γ)
    (s : Settings) : wholeEffect f g s text = lineEffect f g s (Pipe.commandLines text) := by
  unfold wholeEffect
  rcases h with hone | ⟨hnone, hlines⟩
  · cases hcase : Pipe.commandLines text with
    | nil =>
        rw [SettingsCommand.parse_of_no_line hcase]
        simp [lineEffect, Child.Framed.replies]
    | cons line rest =>
        obtain rfl : rest = [] := by
          rw [hcase] at hone
          simpa using hone
        rw [SettingsCommand.parse_of_one_line hcase]
        cases hline : SettingsCommand.parse line with
        | some x => simp [lineEffect, hline]
        | none => simp [lineEffect, hline, Child.Framed.replies]
  · rw [hnone, lineEffect_unrecognised f g s hlines]

/-- A text that is not read by its lines shows it in some settings. -/
theorem readByLines_of_effect {text : String} (f : c.Framed) (g : γ)
    (h : ∀ s, wholeEffect f g s text = lineEffect f g s (Pipe.commandLines text)) :
    ReadByLines text := by
  by_cases hmany : (Pipe.commandLines text).length ≤ 1
  · exact .inl hmany
  have hsent : (wholeEffect f g {} text).sent = (Pipe.commandLines text).filter
      fun line => (SettingsCommand.parse line).isNone := by
    rw [h, sent_lineEffect]
  cases hwhole : SettingsCommand.parse text with
  | none =>
      refine .inr ⟨hwhole, fun line hline => ?_⟩
      rw [wholeEffect, hwhole] at hsent
      have := List.filter_eq_self.mp hsent.symm line hline
      simpa using this
  | some y =>
      rw [wholeEffect, hwhole] at hsent
      obtain ⟨xs, hxs⟩ : ∃ xs : List SettingsCommand,
          (Pipe.commandLines text).map SettingsCommand.parse = xs.map some := by
        refine ⟨(Pipe.commandLines text).map fun line =>
          (SettingsCommand.parse line).getD default, ?_⟩
        rw [List.map_map]
        refine List.map_congr_left fun line hline => ?_
        have hsome := List.filter_eq_nil_iff.mp hsent.symm line hline
        cases hparse : SettingsCommand.parse line with
        | none => simp [hparse] at hsome
        | some x => simp [hparse]
      have hlength : 1 < xs.length := by
        have := congrArg List.length hxs
        simp at this
        omega
      obtain ⟨s, hs⟩ := Settings.carryOut_ne hxs hlength hwhole
      have heffect := h s
      rw [wholeEffect, hwhole, lineEffect_recognised f g s hxs] at heffect
      refine absurd ?_ hs
      have houtput := congrArg Effect.output heffect
      have hsettings := congrArg Effect.settings heffect
      exact Prod.ext houtput hsettings

/-- The world of a process that was not sent anything yet. -/
def beforeDots (s : Settings) : World Unit (Workbench Nat) where
  host := { pipe := ⟨"r2", "a.out", some 0, [], false, #[], {}⟩, settings := s }
  link := {}
  trap := { policy := .contain, sink := {} }
  log := #[]

/-- A text means what its lines mean exactly if it is read by its lines: for any
other there are settings in which its output, the settings afterwards or the
lines that are sent differ. What a text comes to is said first. -/
theorem commands_linewise (text : String) :
    (∀ {γ : Type} (c : Child γ) (f : c.Framed) (g : γ) (w : World Unit (Workbench γ)),
      w.host.pipe.Synced g →
        (wholeEffect f g w.host.settings text).Of w (port c () (.cmd text) w) ∧
        (lineEffect f g w.host.settings (Pipe.commandLines text)).Of w
          (cmdEach c (Pipe.commandLines text) w)) ∧
    ((∀ {γ : Type} (c : Child γ), c.Framed → ∀ (g : γ) (w : World Unit (Workbench γ)),
      w.host.pipe.Synced g →
        SameEffect (port c () (.cmd text) w) (cmdEach c (Pipe.commandLines text) w)) ↔
      ReadByLines text) := by
  have heffects : ∀ {γ : Type} (c : Child γ) (f : c.Framed) (g : γ)
      (w : World Unit (Workbench γ)), w.host.pipe.Synced g →
        (wholeEffect f g w.host.settings text).Of w (port c () (.cmd text) w) ∧
        (lineEffect f g w.host.settings (Pipe.commandLines text)).Of w
          (cmdEach c (Pipe.commandLines text) w) :=
    fun c f g w hw => ⟨whole_of f text hw, lines_of f (fun _ => Pipe.mem_commandLines) hw⟩
  refine ⟨heffects, fun h => ?_, fun h γ c f g w hw => ?_⟩
  · -- one process that keeps to the framing is enough to tell them apart
    refine readByLines_of_effect Pipe.dotsFramed 0 fun s => ?_
    have hw : (beforeDots s).host.pipe.Synced 0 := ⟨rfl, rfl, rfl⟩
    obtain ⟨hwhole, hlines⟩ := heffects Pipe.dots Pipe.dotsFramed 0 (beforeDots s) hw
    exact (sameEffect_iff hwhole hlines).mp (h Pipe.dots Pipe.dotsFramed 0 (beforeDots s) hw)
  · obtain ⟨hwhole, hlines⟩ := heffects c f g w hw
    exact (sameEffect_iff hwhole hlines).mpr (effect_of_readByLines h f g w.host.settings)

/-- Several lines, a blank one among them, that hold no settings. -/
theorem commands_linewise_plain :
    SameEffect (port Pipe.dots () (.cmd "s main\r\n \npdf") (beforeDots {}))
      (cmdEach Pipe.dots ["s main", "pdf"] (beforeDots {})) := by
  have hlines : Pipe.commandLines "s main\r\n \npdf" = ["s main", "pdf"] := by decide
  have hplain : ReadByLines "s main\r\n \npdf" := by
    refine .inr ⟨by decide, ?_⟩
    rw [hlines]
    decide
  rw [← hlines]
  exact (commands_linewise _).2.mpr hplain Pipe.dots Pipe.dotsFramed 0 (beforeDots {}) ⟨rfl, rfl, rfl⟩

/-- A command behind a settings command is not sent but assigned, and a settings
command behind a command is sent and not carried out. -/
theorem settings_between_lines :
    (let whole := port Pipe.dots () (.cmd "e pdw.theme=dark\npdf") (beforeDots {})
     let lines := cmdEach Pipe.dots ["e pdw.theme=dark", "pdf"] (beforeDots {})
     Pipe.commandLines "e pdw.theme=dark\npdf" = ["e pdw.theme=dark", "pdf"] ∧
       whole.2.host.pipe.sent = #[] ∧ lines.2.host.pipe.sent = #["pdf"] ∧
       whole.2.host.settings.theme = "dark\npdf" ∧ lines.2.host.settings.theme = "dark") ∧
    (let whole := port Pipe.dots () (.cmd "pdf\ne pdw.theme") (beforeDots {})
     let lines := cmdEach Pipe.dots ["pdf", "e pdw.theme"] (beforeDots {})
     Pipe.commandLines "pdf\ne pdw.theme" = ["pdf", "e pdw.theme"] ∧
       whole.2.host.pipe.sent = #["pdf", "e pdw.theme"] ∧
       lines.2.host.pipe.sent = #["pdf"]) := by
  have hsynced : (beforeDots {}).host.pipe.Synced 0 := ⟨rfl, rfl, rfl⟩
  have hpdf : SettingsCommand.parse "pdf" = none := by decide
  constructor
  · have hlines : Pipe.commandLines "e pdw.theme=dark\npdf" = ["e pdw.theme=dark", "pdf"] := by
      decide
    have hset : SettingsCommand.parse "e pdw.theme=dark\npdf" =
        some (.set "pdw.theme" "dark\npdf") := by decide
    have hfirst : SettingsCommand.parse "e pdw.theme=dark" = some (.set "pdw.theme" "dark") := by
      decide
    have hwhole := whole_of Pipe.dotsFramed "e pdw.theme=dark\npdf" hsynced
    have hmem : ∀ line ∈ Pipe.commandLines "e pdw.theme=dark\npdf",
        '\n' ∉ line.toList ∧ Text.isBlankText line = false := fun _ => Pipe.mem_commandLines
    have heach := lines_of Pipe.dotsFramed hmem hsynced
    rw [wholeEffect, hset] at hwhole
    rw [hlines, lineEffect, hfirst, lineEffect, hpdf] at heach
    exact ⟨hlines, hwhole.sent, heach.sent, congrArg Settings.theme hwhole.settings,
      congrArg Settings.theme heach.settings⟩
  · have hlines : Pipe.commandLines "pdf\ne pdw.theme" = ["pdf", "e pdw.theme"] := by decide
    have hnone : SettingsCommand.parse "pdf\ne pdw.theme" = none := by decide
    have hget : SettingsCommand.parse "e pdw.theme" = some (.get "pdw.theme") := by decide
    have hwhole := whole_of Pipe.dotsFramed "pdf\ne pdw.theme" hsynced
    have hmem : ∀ line ∈ Pipe.commandLines "pdf\ne pdw.theme",
        '\n' ∉ line.toList ∧ Text.isBlankText line = false := fun _ => Pipe.mem_commandLines
    have heach := lines_of Pipe.dotsFramed hmem hsynced
    rw [wholeEffect, hnone, hlines] at hwhole
    rw [hlines, lineEffect, hpdf, lineEffect, hget] at heach
    exact ⟨hlines, hwhole.sent, heach.sent⟩

end Workbench

end DecBridge
