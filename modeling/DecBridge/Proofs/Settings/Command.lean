import DecBridge.Proofs.Pipe.Synchrony
import DecBridge.Proofs.Text.Blank
import DecBridge.Settings.Overlay

/-!
# Settings commands and lines

A settings command is recognised in a text as a whole, blanks around it apart,
whereas a disassembler reads a text line by line. This module compares the two:
what a text of one line is recognised as is what the line is recognised as, and
a text of several recognised lines is never read as these lines are.
-/

namespace DecBridge

open Text (Blanks Tight trimmed)

/-! ## The lines of a text -/

namespace Pipe

theorem commandLines_eq_nil_iff {cs : List Char} :
    commandLines (String.ofList cs) = [] ↔ Blanks cs := by
  rw [Text.blanks_iff_all]
  induction cs using Text.line_induction with
  | last cs h =>
      rw [commandLines_last h]
      split <;> simp_all
  | line first rest h ih =>
      have hfeed : Text.isBlank '\n' = true := by decide
      rw [commandLines_cons h, List.append_eq_nil_iff, ih]
      cases hfirst : first.all Text.isBlank <;> simp [hfirst, hfeed]

/-- A text starts with its first line, blanks before it apart; what follows has
the other lines. -/
theorem commandLines_split {cs : List Char} {line : String} {rest : List String}
    (h : commandLines (String.ofList cs) = line :: rest) :
    ∃ before between after, cs = before ++ line.toList ++ (between ++ after) ∧
      Blanks before ∧ Blanks between ∧ commandLines (String.ofList after) = rest ∧
      (rest ≠ [] → between ≠ []) := by
  have hfeed : Text.isBlank '\n' = true := by decide
  have hreturn : Text.isBlank '\r' = true := by decide
  induction cs using Text.line_induction with
  | last cs hcs =>
      rw [commandLines_last hcs] at h
      split at h
      · cases h
      · cases h
        exact ⟨[], [], [], by simp, by simp [Blanks], by simp [Blanks], rfl, by simp⟩
  | line first others hfirst ih =>
      rw [commandLines_cons hfirst] at h
      split at h
      · next hblank =>
        obtain ⟨before, between, after, rfl, hbefore, hrest⟩ := ih h
        refine ⟨first ++ '\n' :: before, between, after, by simp, ?_, hrest⟩
        intro c hc
        simp only [List.mem_append, List.mem_cons] at hc
        rcases hc with hc | rfl | hc
        · exact List.all_eq_true.mp hblank c hc
        · exact hfeed
        · exact hbefore c hc
      · obtain ⟨rfl, hrest⟩ := List.cons.inj h
        obtain ⟨ret, hret, hcase⟩ := Text.exists_final_return first
        refine ⟨[], ret ++ ['\n'], others, ?_, by simp [Blanks], ?_, hrest, by simp⟩
        · conv_lhs => rw [hret]
          simp
        · rcases hcase with rfl | rfl <;> simp [Blanks, hfeed, hreturn]

/-- What is left of a text without the blanks around it, by its lines. -/
theorem trimmed_of_commandLines {text line : String} {rest : List String}
    (h : commandLines text = line :: rest) :
    (rest = [] ∧ trimmed text.toList = trimmed line.toList) ∨
    ∃ between after, between ≠ [] ∧ Blanks between ∧ commandLines after = rest ∧
      rest ≠ [] ∧ trimmed text.toList =
        trimmed line.toList ++ between ++ trimmed after.toList := by
  have hline : ¬Blanks line.toList := by
    have hmem := (mem_commandLines (h ▸ List.mem_cons_self : line ∈ commandLines text)).2
    rw [Text.blanks_iff_all]
    simpa [Text.isBlankText] using hmem
  rw [← String.ofList_toList (s := text)] at h
  obtain ⟨before, between, after, htext, hbefore, hbetween, hafter, hne⟩ :=
    commandLines_split h
  obtain ⟨b₁, a₁, hline_eq, hb₁, ha₁⟩ := Text.trimmed_spec line.toList
  have htight := Text.tight_trimmed line.toList
  by_cases hrest : rest = []
  · have hblank : Blanks after := commandLines_eq_nil_iff.mp (hafter.trans hrest)
    refine .inl ⟨hrest, ?_⟩
    have hsplit : text.toList =
        (before ++ b₁) ++ trimmed line.toList ++ (a₁ ++ (between ++ after)) := by
      rw [htext]
      conv_lhs => rw [hline_eq]
      simp
    rw [hsplit, Text.trimmed_around (hbefore.append hb₁) htight
      (ha₁.append (hbetween.append hblank))]
  · refine .inr ?_
    have hblank : ¬Blanks after :=
      fun hblank => hrest (hafter.symm.trans (commandLines_eq_nil_iff.mpr hblank))
    obtain ⟨b₂, a₂, hafter_eq, hb₂, ha₂⟩ := Text.trimmed_spec after
    refine ⟨a₁ ++ between ++ b₂, String.ofList after, ?_, ?_, hafter, hrest, ?_⟩
    · simp [hne hrest]
    · exact (ha₁.append hbetween).append hb₂
    · rw [String.toList_ofList]
      have hsplit : text.toList = (before ++ b₁) ++
          (trimmed line.toList ++ (a₁ ++ between ++ b₂) ++ trimmed after) ++ a₂ := by
        rw [htext]
        conv_lhs => rw [hline_eq, hafter_eq]
        simp
      rw [hsplit, Text.trimmed_around (hbefore.append hb₁) ?_ ha₂]
      exact htight.join (Text.tight_trimmed after) (Text.trimmed_ne_nil hline)
        (Text.trimmed_ne_nil hblank) _

end Pipe

/-! ## Recognising a command -/

namespace SettingsCommand

theorem parse_congr {s t : String} (h : trimmed s.toList = trimmed t.toList) :
    parse s = parse t := by
  unfold parse
  unfold trimmed at h
  rw [h]

theorem parse_of_no_line {text : String} (h : Pipe.commandLines text = []) :
    parse text = none := by
  rw [← String.ofList_toList (s := text), Pipe.commandLines_eq_nil_iff] at h
  have hnil : Text.dropBlanks text.toList = [] := List.dropWhile_eq_nil_iff.mpr h
  unfold parse
  rw [hnil]
  rfl

theorem parse_of_one_line {text line : String} (h : Pipe.commandLines text = [line]) :
    parse text = parse line := by
  rcases Pipe.trimmed_of_commandLines h with ⟨-, htrimmed⟩ | ⟨_, _, -, -, -, hne, -⟩
  · exact parse_congr htrimmed
  · exact absurd rfl hne

/-- What follows the command word in a command that is recognised. -/
theorem body_of_parse {line : String} {x : SettingsCommand} (h : parse line = some x) :
    ∃ gap body, trimmed line.toList = 'e' :: ' ' :: (gap ++ body) ∧ Blanks gap ∧
      Tight body ∧ body ≠ [] ∧ ofRest body = some x := by
  unfold parse at h
  split at h
  · next rest hrest =>
    obtain ⟨gap, hgap, hblanks⟩ := Text.exists_blanks_before rest
    have hne : Text.dropBlanks rest ≠ [] := by
      intro hnil
      rw [hnil] at h
      cases h
    have htrimmed : trimmed line.toList = 'e' :: ' ' :: (gap ++ Text.dropBlanks rest) := by
      rw [← hgap]
      exact hrest
    refine ⟨gap, _, htrimmed, hblanks, ⟨fun c hc => Text.dropBlanks_head hc, fun c hc => ?_⟩,
      hne, h⟩
    apply (Text.tight_trimmed line.toList).last
    rw [htrimmed, ← List.cons_append, ← List.cons_append,
      List.getLast?_append_of_ne_nil _ hne]
    exact hc
  · cases h

theorem parse_of_body {text : String} {gap body more : List Char}
    (h : trimmed text.toList = 'e' :: ' ' :: (gap ++ body) ++ more) (hgap : Blanks gap)
    (hbody : Tight body) (hne : body ≠ []) : parse text = ofRest (body ++ more) := by
  have hdrop : Text.dropBlanks (gap ++ body ++ more) = body ++ more := by
    rw [List.append_assoc, Text.dropBlanks_append hgap]
    cases body with
    | nil => exact absurd rfl hne
    | cons c cs => exact List.dropWhile_cons_of_neg (by simp [hbody.head c rfl])
  unfold parse
  unfold trimmed at h
  rw [h]
  show ofRest (Text.dropBlanks (gap ++ body ++ more)) = _
  rw [hdrop]

theorem ofRest_assignment {key : List Char} (hkey : '=' ∉ key) (value : List Char) :
    ofRest (key ++ '=' :: value) =
      if keyStart.isPrefixOf (trimmed key) then
        some (.set (String.ofList (trimmed key)) (String.ofList (trimmed value)))
      else none := by
  have hne : ∀ c ∈ key, (c != '=') = true := by
    intro c hc
    rw [bne_iff_ne]
    rintro rfl
    exact hkey hc
  unfold ofRest
  rw [if_pos (by simp), List.takeWhile_append_of_pos hne, List.dropWhile_append_of_pos hne]
  simp [trimmed]

theorem ofRest_reading {rest : List Char} (h : '=' ∉ rest) :
    ofRest rest = if keyStart.isPrefixOf rest then
      some (.get (String.ofList (Text.dropTrailingBlanks rest))) else none := by
  unfold ofRest
  rw [if_neg (by simpa using h)]

/-- The key that a command is about. -/
def key : SettingsCommand → String
  | .get key => key
  | .set key _ => key

/-- Text that follows an assignment becomes a part of the value. -/
theorem trimmed_value_extended {between after : List Char} (hbetween : Blanks between)
    (hgap : between ≠ []) (hafter : Tight after) (hne : after ≠ []) (value : List Char) :
    ∃ gap, (trimmed value ≠ [] → gap ≠ []) ∧ Blanks gap ∧
      trimmed (value ++ (between ++ after)) = trimmed value ++ gap ++ after := by
  have hnil : Blanks [] := by simp [Blanks]
  by_cases hblank : Blanks value
  · refine ⟨[], fun h => absurd (Text.trimmed_of_blanks hblank) h, hnil, ?_⟩
    have hsplit : value ++ (between ++ after) = (value ++ between) ++ after ++ [] := by simp
    rw [Text.trimmed_of_blanks hblank, hsplit,
      Text.trimmed_around (hblank.append hbetween) hafter hnil]
    rfl
  · obtain ⟨before, behind, hvalue, hbefore, hbehind⟩ := Text.trimmed_spec value
    refine ⟨behind ++ between, fun _ => by simp [hgap], hbehind.append hbetween, ?_⟩
    have hsplit : value ++ (between ++ after) =
        before ++ (trimmed value ++ (behind ++ between) ++ after) ++ [] := by
      conv_lhs => rw [hvalue]
      simp
    rw [hsplit, Text.trimmed_around hbefore ?_ hnil]
    exact (Text.tight_trimmed value).join hafter (Text.trimmed_ne_nil hblank) hne _

/-- Text that follows a key without an assignment becomes a part of the key. -/
theorem key_extended {body between after : List Char} {y : SettingsCommand}
    (hbody : Tight body) (hne : body ≠ []) (hmem : '=' ∉ body) (hbetween : Blanks between)
    (hafter : Tight after) (hstart : after.head? = some 'e')
    (hy : ofRest (body ++ (between ++ after)) = some y) :
    ∃ more, y.key = String.ofList (body ++ (between ++ more)) := by
  have hnil : Blanks [] := by simp [Blanks]
  have hbetween_mem : '=' ∉ between := fun h => absurd (hbetween _ h) (by decide)
  by_cases hafter_mem : '=' ∈ after
  · obtain ⟨front, value, rfl, hfront⟩ := List.eq_append_cons_of_mem hafter_mem
    have hfront_blank : ¬Blanks front := by
      intro hblank
      cases front with
      | nil => cases hstart
      | cons c front =>
          cases hstart
          exact absurd (hblank 'e' List.mem_cons_self) (by decide)
    obtain ⟨before, behind, hsplit, hbefore, hbehind⟩ := Text.trimmed_spec front
    have hkey : trimmed (body ++ between ++ front) =
        body ++ (between ++ before) ++ trimmed front := by
      have hparts : body ++ between ++ front =
          [] ++ (body ++ (between ++ before) ++ trimmed front) ++ behind := by
        conv_lhs => rw [hsplit]
        simp
      rw [hparts, Text.trimmed_around hnil ?_ hbehind]
      exact hbody.join (Text.tight_trimmed front) hne (Text.trimmed_ne_nil hfront_blank) _
    have hmem_key : '=' ∉ body ++ between ++ front := by
      simp [hmem, hbetween_mem, hfront]
    rw [show body ++ (between ++ (front ++ '=' :: value)) =
      (body ++ between ++ front) ++ '=' :: value by simp, ofRest_assignment hmem_key,
      hkey] at hy
    split at hy
    · cases hy
      exact ⟨before ++ trimmed front, by simp [key]⟩
    · cases hy
  · have hmem_all : '=' ∉ body ++ (between ++ after) := by
      simp [hmem, hbetween_mem, hafter_mem]
    have hafter_ne : after ≠ [] := by
      rintro rfl
      cases hstart
    have hlast : Text.dropTrailingBlanks (body ++ (between ++ after)) =
        body ++ (between ++ after) := by
      rw [← List.append_assoc]
      exact Text.dropTrailingBlanks_eq_self (hbody.join hafter hne hafter_ne between).last
    rw [ofRest_reading hmem_all, hlast] at hy
    split at hy
    · cases hy
      exact ⟨after, rfl⟩
    · cases hy

/-- How the command that a line holds changes when blanks and more text follow:
an assignment gets a longer value, and what reads a key gets a longer key. -/
theorem ofRest_extended {body between after : List Char} {x y : SettingsCommand}
    (hbody : Tight body) (hne : body ≠ []) (hbetween : Blanks between) (hgap : between ≠ [])
    (hafter : Tight after) (hstart : after.head? = some 'e')
    (hx : ofRest body = some x) (hy : ofRest (body ++ (between ++ after)) = some y) :
    (∃ key value gap, x = .set key (String.ofList value) ∧ (value ≠ [] → gap ≠ []) ∧
      Blanks gap ∧ y = .set key (String.ofList (value ++ gap ++ after))) ∨
    (∃ key blank more, x = .get (String.ofList key) ∧ Text.isBlank blank = true ∧
      y.key = String.ofList (key ++ blank :: more)) := by
  have hafter_ne : after ≠ [] := by
    rintro rfl
    cases hstart
  by_cases hmem : '=' ∈ body
  · obtain ⟨key, value, rfl, hkey⟩ := List.eq_append_cons_of_mem hmem
    rw [ofRest_assignment hkey] at hx
    rw [List.append_assoc, List.cons_append, ofRest_assignment hkey] at hy
    split at hx
    · next hprefix =>
      rw [if_pos hprefix] at hy
      cases hx
      cases hy
      obtain ⟨gap, hgap', hblanks, heq⟩ :=
        trimmed_value_extended hbetween hgap hafter hafter_ne value
      exact .inl ⟨_, _, gap, rfl, hgap', hblanks, by rw [heq]⟩
    · cases hx
  · obtain ⟨more, hkey⟩ := key_extended hbody hne hmem hbetween hafter hstart hy
    obtain ⟨blank, blanks, rfl⟩ := List.exists_cons_of_ne_nil hgap
    have hlast : Text.dropTrailingBlanks body = body :=
      Text.dropTrailingBlanks_eq_self hbody.last
    rw [ofRest_reading hmem, hlast] at hx
    split at hx
    · cases hx
      exact .inr ⟨body, blank, blanks ++ more, rfl, hbetween blank List.mem_cons_self, hkey⟩
    · cases hx

theorem trimmed_start {text line : String} {rest : List String} {x : SettingsCommand}
    (h : Pipe.commandLines text = line :: rest) (hx : parse line = some x) :
    ∃ more, trimmed text.toList = 'e' :: ' ' :: more := by
  obtain ⟨_, _, hline, -⟩ := body_of_parse hx
  rcases Pipe.trimmed_of_commandLines h with ⟨-, heq⟩ | ⟨_, _, -, -, -, -, heq⟩
  · exact ⟨_, heq.trans hline⟩
  · rw [hline] at heq
    exact ⟨_, heq⟩

/-- A line that is recognised, and the text of which it is the first line: the
lines after it become a part of the value or of the key. -/
theorem parse_extended {text line next : String} {rest : List String} {x y z : SettingsCommand}
    (h : Pipe.commandLines text = line :: next :: rest) (hx : parse line = some x)
    (hz : parse next = some z) (hy : parse text = some y) :
    (∃ key value gap after, x = .set key (String.ofList value) ∧ (value ≠ [] → gap ≠ []) ∧
      Blanks gap ∧ Pipe.commandLines after = next :: rest ∧
      y = .set key (String.ofList (value ++ gap ++ trimmed after.toList))) ∨
    (∃ key blank more, x = .get (String.ofList key) ∧ Text.isBlank blank = true ∧
      y.key = String.ofList (key ++ blank :: more)) := by
  rcases Pipe.trimmed_of_commandLines h with
    ⟨hnil, -⟩ | ⟨between, after, hgap, hbetween, hafter, -, htext⟩
  · cases hnil
  obtain ⟨gap, body, hline, hblanks, hbody, hne, hx⟩ := body_of_parse hx
  have hstart : (trimmed after.toList).head? = some 'e' := by
    obtain ⟨_, heq⟩ := trimmed_start hafter hz
    rw [heq]
    rfl
  rw [hline, List.append_assoc] at htext
  rw [parse_of_body htext hblanks hbody hne] at hy
  rcases ofRest_extended hbody hne hbetween hgap (Text.tight_trimmed _) hstart hx hy with
    ⟨key, value, gap, hx, hne, hgap, hy⟩ | hread
  · exact .inl ⟨key, value, gap, after, hx, hne, hgap, hafter, hy⟩
  · exact .inr hread

/-! ## Lengths -/

theorem length_trimmed_le (cs : List Char) : (trimmed cs).length ≤ cs.length := by
  obtain ⟨before, after, hsplit, -⟩ := Text.trimmed_spec cs
  have := congrArg List.length hsplit
  simp at this
  omega

theorem length_value_lt {line key value : String} (h : parse line = some (.set key value)) :
    value.toList.length < (trimmed line.toList).length := by
  obtain ⟨gap, body, hline, -, -, -, hbody⟩ := body_of_parse h
  by_cases hmem : '=' ∈ body
  · obtain ⟨front, back, rfl, hfront⟩ := List.eq_append_cons_of_mem hmem
    rw [ofRest_assignment hfront] at hbody
    split at hbody
    · cases hbody
      have := length_trimmed_le back
      simp [hline]
      omega
    · cases hbody
  · rw [ofRest_reading hmem] at hbody
    split at hbody
    · cases hbody
    · cases hbody

theorem length_line_le {text line : String} (h : line ∈ Pipe.commandLines text) :
    (trimmed line.toList).length ≤ (trimmed text.toList).length := by
  generalize hlines : Pipe.commandLines text = lines at h
  induction lines generalizing text with
  | nil => cases h
  | cons first rest ih =>
      rcases Pipe.trimmed_of_commandLines hlines with
        ⟨rfl, heq⟩ | ⟨between, after, -, -, hafter, -, heq⟩
      · rw [List.mem_singleton.mp h, heq]
      · rw [heq]
        rcases List.mem_cons.mp h with rfl | h
        · simp
        · have := ih hafter h
          simp
          omega

end SettingsCommand

end DecBridge
