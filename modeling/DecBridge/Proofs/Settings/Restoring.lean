import DecBridge.Proofs.Settings.Grammar
import DecBridge.Proofs.Settings.Transparency

/-!
# Saving and restoring settings

What a setting reads as can be assigned to it again (`execute_assign_get`). The
line that reading it puts out ends in a line feed, and assigning trims, so this
brings a setting back if its text has no blanks around it. A theme may be given
any text when the program is put together, but commands assign only trimmed
texts: settings that started out tidy stay tidy (`Tidy.foldl_after`).

`saved_and_restored` is about any settings that calls of the overlay lead to from
the default ones, with any host behind the overlay.
-/

namespace DecBridge

open Host (Call Reaction)

open SettingsCommand (IsKey parse)

open Dispatcher (Line Verdict)

open Text (Blanks Tight)

/-! ## Commands about a setting -/

theorem Setting.isKey_name (key : Setting) : IsKey key.name := by
  have htight : Tight key.name.toList := by cases key <;> decide
  refine ⟨?_, ?_, htight.last⟩
  · cases key <;> decide
  · cases key <;> decide

theorem Setting.ofName_name (key : Setting) : Setting.ofName key.name = .ok key := by
  cases key <;> rfl

namespace SettingsCommand

/-- Anything may be written behind the equals sign. -/
theorem parse_assignment (key : Setting) (value : String) :
    parse ("e " ++ key.name ++ "=" ++ value) = some (.set key.name (Text.trim value)) := by
  obtain ⟨before, after, hsplit, hbefore, hafter⟩ := Text.trimmed_spec value.toList
  have hvalue : value =
      String.ofList before ++ Text.trim value ++ String.ofList after := by
    rw [← String.toList_inj]
    simpa [Text.trim, Text.trimmed] using hsplit
  have hblank : Blanks "".toList := blanks_nil
  have hbefore : Blanks (String.ofList before).toList := by simpa using hbefore
  have hafter : Blanks (String.ofList after).toList := by simpa using hafter
  have hparse :=
    parse_assigning key.isKey_name (Text.tight_trim value) hblank hblank hblank hbefore hafter
  conv_lhs => rw [hvalue]
  simpa [String.append_assoc] using hparse

theorem parse_read (key : Setting) : parse ("e " ++ key.name) = some (.get key.name) := by
  have hblank : Blanks "".toList := blanks_nil
  simpa using parse_reading key.isKey_name hblank hblank hblank

/-- The value of an assignment has no blanks around it. -/
theorem tight_of_parse {text key value : String} (h : parse text = some (.set key value)) :
    Tight value.toList := by
  cases parse_eq_some_iff.mp h with
  | assigning _ hvalue => exact hvalue

end SettingsCommand

namespace Settings

/-- The words for a truth value, in lower case. -/
def words : Bool → List String
  | true => ["true", "1"]
  | false => ["false", "0"]

theorem boolOf?_eq_some_iff {value : String} {b : Bool} :
    boolOf? value = some b ↔ Text.lower value ∈ words b := by
  unfold boolOf?
  generalize Text.lower value = word
  by_cases hyes : word = "true" ∨ word = "1"
  · have hno : word ≠ "false" ∧ word ≠ "0" := by
      rcases hyes with rfl | rfl <;> decide
    cases b <;> simp [words, hyes, hno]
  · cases b <;> simp [words, not_or.mp hyes, or_iff_not_imp_left]

/-! ## Reading and assigning -/

variable (s : Settings) (key : Setting)

theorem output_read : s.output (.get key.name) = s.get key ++ "\n" := by
  unfold output
  rw [execute, key.ofName_name]
  rfl

theorem after_read (name : String) : s.after (.get name) = s := by
  unfold after
  rw [execute]
  cases Setting.ofName name <;> rfl

theorem execute_assign (value : String) :
    s.execute (.set key.name value) = (s.set key value).map fun next => ("", next) := by
  rw [execute, key.ofName_name]
  show (s.set key value >>= fun next => pure ("", next)) = _
  cases s.set key value <;> rfl

theorem boolOf?_boolText (b : Bool) : boolOf? (boolText b) = some b := by
  cases b <;> decide

/-- A setting may be assigned what it reads as, and that changes nothing. -/
theorem set_get : s.set key (s.get key) = .ok s := by
  cases key with
  | casts =>
      unfold set get
      dsimp only
      rw [boolOf?_boolText]
  | theme => rfl

/-- So a command that assigns what a setting reads as says nothing and changes
nothing. -/
theorem execute_assign_get : s.execute (.set key.name (s.get key)) = .ok ("", s) := by
  rw [execute_assign, set_get]
  rfl

/-! ## Texts without blanks around them -/

variable {s key}

theorem tight_boolText (b : Bool) : Tight (boolText b).toList := by
  cases b <;> decide

/-- No text of these settings has blanks around it. -/
def Tidy (s : Settings) : Prop := ∀ key, Tight (s.get key).toList

theorem tidy_iff : s.Tidy ↔ Tight s.theme.toList := by
  refine ⟨fun h => h .theme, fun h key => ?_⟩
  cases key with
  | theme => exact h
  | casts => exact tight_boolText s.casts

theorem tidy_default : ({} : Settings).Tidy :=
  tidy_iff.mpr (by decide)

/-- Whatever a command assigns, it leaves no blanks around a text. -/
theorem Tidy.after (h : s.Tidy) {text : String} {x : SettingsCommand}
    (hx : parse text = some x) : (s.after x).Tidy := by
  rw [tidy_iff]
  rcases s.theme_after x with htheme | ⟨key, value, rfl, htheme⟩
  · rw [htheme]
    exact tidy_iff.mp h
  · rw [htheme]
    exact SettingsCommand.tight_of_parse hx

theorem Tidy.foldl_after (h : s.Tidy) (cs : List Call) :
    ((cs.filterMap Call.settings?).foldl Settings.after s).Tidy := by
  induction cs generalizing s with
  | nil => exact h
  | cons c cs ih =>
      cases hc : c.settings? with
      | none =>
          rw [List.filterMap_cons_none hc]
          exact ih h
      | some x =>
          rw [List.filterMap_cons_some hc]
          cases c with
          | print text => nomatch hc
          | cmd text => exact ih (h.after hc)

/-! ## The overlay -/

open Dispatcher (ask askAll)

variable {η τ : Type} (d : Dispatcher) (inner : Call → τ → Reaction η τ (Line η) Verdict)

/-- Settings that calls lead to from the default ones are tidy. -/
theorem tidy_askAll (cs : List Call) (w : World η τ) :
    (d.askAll (overlaid inner) cs { w with host := (w.host, {}) }).2.host.2.Tidy := by
  obtain ⟨⟨⟨-, hsettings⟩, -⟩, -⟩ := d.askAll_overlaid inner cs
    (t := w.trap) (b := {}) (v := w) (w := { w with host := (w.host, {}) })
    ⟨⟨rfl, rfl⟩, rfl, rfl, [], rfl, rfl⟩
  rw [hsettings]
  exact tidy_default.foldl_after cs

/-- Settings are saved by reading them and restored by assigning what was read.

Calls of the overlay have led from the default settings to some others. Then the
line that a setting reads as may be assigned to it as it is: nothing is put out,
and neither the settings nor the wrapped host are changed. Any text may be
assigned to the theme and is then what the theme reads as, without the blanks
around it, and the casts read as before. The casts may be assigned a word for a
truth value, which they then read as; any other text is a mistake that leaves
both settings as they were. -/
theorem saved_and_restored (cs : List Call) (w : World η τ) :
    let tell := fun text => d.ask (overlaid inner) (.cmd text)
    let s := (d.askAll (overlaid inner) cs { w with host := (w.host, {}) }).2
    (∀ key : Setting, ∃ line s₁ s₂, tell ("e " ++ key.name) s = (.done (.ok line), s₁) ∧
      tell ("e " ++ key.name ++ "=" ++ line) s₁ = (.done (.ok ""), s₂) ∧ s₂.host = s.host) ∧
    (∀ value, ∃ s₁, tell ("e pdw.theme=" ++ value) s = (.done (.ok ""), s₁) ∧
      (tell "e pdw.theme" s₁).1 = .done (.ok (Text.trim value ++ "\n")) ∧
      (tell "e pdw.casts" s₁).1 = (tell "e pdw.casts" s).1) ∧
    ∀ value,
      (∃ b s₁, Text.lower (Text.trim value) ∈ words b ∧
        tell ("e pdw.casts=" ++ value) s = (.done (.ok ""), s₁) ∧
        (tell "e pdw.casts" s₁).1 = .done (.ok (boolText b ++ "\n")) ∧
        (tell "e pdw.theme" s₁).1 = (tell "e pdw.theme" s).1) ∨
      (∀ b, Text.lower (Text.trim value) ∉ words b) ∧
        ∃ s₁, tell ("e pdw.casts=" ++ value) s = (.done (.ok ("ERROR: " ++
            (SettingsError.invalidBool .casts (Text.trim value)).message ++ "\n")), s₁) ∧
          (tell "e pdw.casts" s₁).1 = (tell "e pdw.casts" s).1 ∧
          (tell "e pdw.theme" s₁).1 = (tell "e pdw.theme" s).1 := by
  intro tell s
  have htidy : s.host.2.Tidy := tidy_askAll d inner cs w
  have hread : ∀ (key : Setting) w, tell ("e " ++ key.name) w =
      (.done (.ok (w.host.2.get key ++ "\n")), w) := by
    intro key w
    show d.ask (overlaid inner) _ w = _
    rw [d.ask_of_settings inner (c := .cmd _) (SettingsCommand.parse_read key), output_read,
      after_read]
    simp [event?]
  have hassign : ∀ (key : Setting) value w, ∃ w₁, tell ("e " ++ key.name ++ "=" ++ value) w =
      (.done (.ok (w.host.2.output (.set key.name (Text.trim value)))), w₁) ∧
        w₁.host = (w.host.1, w.host.2.after (.set key.name (Text.trim value))) :=
    fun key value w =>
      ⟨_, d.ask_of_settings inner (c := .cmd _) (SettingsCommand.parse_assignment key value) w, rfl⟩
  have hcasts : ∀ w, tell "e pdw.casts" w =
      (.done (.ok (boolText w.host.2.casts ++ "\n")), w) := hread .casts
  have htheme : ∀ w, tell "e pdw.theme" w = (.done (.ok (w.host.2.theme ++ "\n")), w) :=
    hread .theme
  refine ⟨fun key => ?_, fun value => ?_, fun value => ?_⟩
  · obtain ⟨s₂, hback, hhost⟩ := hassign key (s.host.2.get key ++ "\n") s
    rw [Text.trim_append (by decide : Blanks "\n".toList), Text.trim_of_tight (htidy key)]
      at hback hhost
    unfold output at hback
    unfold after at hhost
    rw [execute_assign_get] at hback hhost
    exact ⟨_, s, s₂, hread key s, hback, hhost⟩
  · obtain ⟨s₁, htold, hhost⟩ := hassign .theme value s
    refine ⟨s₁, htold, ?_, ?_⟩
    · rw [htheme, hhost]
      rfl
    · rw [hcasts, hcasts, hhost]
      rfl
  · obtain ⟨s₁, htold, hhost⟩ := hassign .casts value s
    rcases s.host.2.casts_spec (Text.trim value) with ⟨b, hb, hout, hafter⟩ | ⟨hb, hout, hafter⟩
    · refine .inl ⟨b, s₁, boolOf?_eq_some_iff.mp hb, htold.trans (by rw [← hout]; rfl), ?_, ?_⟩
      · rw [hcasts, hhost, Setting.name, hafter]
      · rw [htheme, htheme, hhost, Setting.name, hafter]
    · refine .inr ⟨fun b hmem => ?_, s₁, htold.trans (by rw [← hout]; rfl), ?_, ?_⟩
      · exact Option.some_ne_none b ((boolOf?_eq_some_iff.mpr hmem).symm.trans hb)
      · rw [hcasts, hcasts, hhost, Setting.name, hafter]
      · rw [htheme, htheme, hhost, Setting.name, hafter]

end Settings

end DecBridge
