import DecBridge.Proofs.Settings.Command

/-!
# The grammar of settings commands

`Says text x` is the grammar: the letter `e` and a space, a key, for an
assignment an equals sign and a value, and blanks wherever they do not count.
`recognises_exactly` ties it to the reader: a command is recognised in a text
exactly if the text says it, nothing is recognised in any other text, and a
command that was recognised is recognised again when it is written out.
-/

namespace DecBridge.SettingsCommand

open Text (Blanks Tight trimmed)

/-- A key starts with `pdw.`, holds no equals sign and does not end in a blank. -/
structure IsKey (key : String) : Prop where
  starts : keyStart <+: key.toList
  noEquals : '=' ∉ key.toList
  last : ∀ c, key.toList.getLast? = some c → Text.isBlank c = false

inductive Says : String → SettingsCommand → Prop
  | reading {key w₁ w₂ w₃ : String} (hkey : IsKey key) (h₁ : Blanks w₁.toList)
      (h₂ : Blanks w₂.toList) (h₃ : Blanks w₃.toList) :
      Says (w₁ ++ "e " ++ w₂ ++ key ++ w₃) (.get key)
  | assigning {key value w₁ w₂ w₃ w₄ w₅ : String} (hkey : IsKey key)
      (hvalue : Tight value.toList) (h₁ : Blanks w₁.toList) (h₂ : Blanks w₂.toList)
      (h₃ : Blanks w₃.toList) (h₄ : Blanks w₄.toList) (h₅ : Blanks w₅.toList) :
      Says (w₁ ++ "e " ++ w₂ ++ key ++ w₃ ++ "=" ++ w₄ ++ value ++ w₅) (.set key value)

theorem blanks_nil : Blanks [] := by
  simp [Blanks]

/-! ## Keys -/

theorem IsKey.ne_nil {key : String} (h : IsKey key) : key.toList ≠ [] := by
  intro hnil
  have hstart := h.starts
  rw [hnil] at hstart
  exact absurd hstart (by decide)

theorem IsKey.tight {key : String} (h : IsKey key) : Tight key.toList where
  head c hc := by
    obtain ⟨rest, hrest⟩ := h.starts
    rw [← hrest] at hc
    cases hc
    decide
  last := h.last

theorem isKey_trimmed {cs : List Char} (hstart : keyStart <+: trimmed cs) (hmem : '=' ∉ cs) :
    IsKey (String.ofList (trimmed cs)) where
  starts := by rwa [String.toList_ofList]
  noEquals := by
    obtain ⟨before, after, hsplit, -, -⟩ := Text.trimmed_spec cs
    rw [String.toList_ofList]
    intro h
    apply hmem
    rw [hsplit]
    simp [h]
  last := by
    rw [String.toList_ofList]
    exact (Text.tight_trimmed cs).last

/-! ## What is said is recognised -/

/-- The value at the end of a text: trimming the text takes away the blanks
behind the value, and those before it too if the value is empty. -/
theorem exists_value_end {before value after : List Char} (hb : Blanks before)
    (hv : Tight value) (ha : Blanks after) :
    ∃ left gone, before ++ value ++ after = left ++ gone ∧ Blanks gone ∧
      trimmed left = value ∧ ∀ c, left.getLast? = some c → Text.isBlank c = false := by
  by_cases hnil : value = []
  · subst hnil
    exact ⟨[], before ++ after, by simp, hb.append ha, rfl, nofun⟩
  · refine ⟨before ++ value, after, rfl, ha, ?_, ?_⟩
    · have haround := Text.trimmed_around hb hv blanks_nil
      rwa [List.append_nil] at haround
    · intro c hc
      rw [List.getLast?_append_of_ne_nil _ hnil] at hc
      exact hv.last c hc

/-- What starts with the command word and ends without a blank is found again
between blanks. -/
theorem trimmed_command {before rest after : List Char} (hb : Blanks before)
    (hne : rest ≠ []) (hlast : ∀ c, rest.getLast? = some c → Text.isBlank c = false)
    (ha : Blanks after) :
    trimmed (before ++ ('e' :: ' ' :: rest) ++ after) = 'e' :: ' ' :: rest := by
  apply Text.trimmed_around hb ?_ ha
  refine ⟨?_, fun c hc => ?_⟩
  · intro c hc
    cases hc
    decide
  · rw [show 'e' :: ' ' :: rest = ['e', ' '] ++ rest from rfl,
      List.getLast?_append_of_ne_nil _ hne] at hc
    exact hlast c hc

theorem parse_reading {key w₁ w₂ w₃ : String} (hkey : IsKey key) (h₁ : Blanks w₁.toList)
    (h₂ : Blanks w₂.toList) (h₃ : Blanks w₃.toList) :
    parse (w₁ ++ "e " ++ w₂ ++ key ++ w₃) = some (.get key) := by
  have hlast : ∀ c, (w₂.toList ++ key.toList).getLast? = some c → Text.isBlank c = false := by
    intro c hc
    rw [List.getLast?_append_of_ne_nil _ hkey.ne_nil] at hc
    exact hkey.last c hc
  have htrimmed : trimmed (w₁ ++ "e " ++ w₂ ++ key ++ w₃).toList =
      'e' :: ' ' :: (w₂.toList ++ key.toList) ++ [] := by
    simpa using trimmed_command h₁ (by simp [hkey.ne_nil]) hlast h₃
  rw [parse_of_body htrimmed h₂ hkey.tight hkey.ne_nil, List.append_nil,
    ofRest_reading hkey.noEquals,
    if_pos (List.isPrefixOf_iff_prefix.mpr hkey.starts),
    Text.dropTrailingBlanks_eq_self hkey.last, String.ofList_toList]

theorem parse_assigning {key value w₁ w₂ w₃ w₄ w₅ : String} (hkey : IsKey key)
    (hvalue : Tight value.toList) (h₁ : Blanks w₁.toList) (h₂ : Blanks w₂.toList)
    (h₃ : Blanks w₃.toList) (h₄ : Blanks w₄.toList) (h₅ : Blanks w₅.toList) :
    parse (w₁ ++ "e " ++ w₂ ++ key ++ w₃ ++ "=" ++ w₄ ++ value ++ w₅) =
      some (.set key value) := by
  obtain ⟨left, gone, hend, hgone, hleft, hlast⟩ := exists_value_end h₄ hvalue h₅
  have hbody : ∀ c, (w₂.toList ++ key.toList ++ (w₃.toList ++ '=' :: left)).getLast? = some c →
      Text.isBlank c = false := by
    intro c hc
    cases left with
    | nil =>
        simp at hc
        subst hc
        decide
    | cons d left => exact hlast c (by simpa using hc)
  have htrimmed := trimmed_command h₁ (by simp) hbody hgone
  have htext : (w₁ ++ "e " ++ w₂ ++ key ++ w₃ ++ "=" ++ w₄ ++ value ++ w₅).toList =
      w₁.toList ++ ('e' :: ' ' :: (w₂.toList ++ key.toList ++ (w₃.toList ++ '=' :: left))) ++
        gone := by
    have hsplit : w₄.toList ++ (value.toList ++ w₅.toList) = left ++ gone := by
      rw [← List.append_assoc, hend]
    simp [hsplit]
  rw [← htext] at htrimmed
  have hparse := parse_of_body htrimmed h₂ hkey.tight hkey.ne_nil
  have hequals : '=' ∉ key.toList ++ w₃.toList := by
    have hblanks : '=' ∉ w₃.toList := fun h => absurd (h₃ _ h) (by decide)
    simp [hkey.noEquals, hblanks]
  have haround : trimmed (key.toList ++ w₃.toList) = key.toList :=
    Text.trimmed_around blanks_nil hkey.tight h₃
  rw [hparse, ← List.append_assoc, ofRest_assignment hequals, haround,
    if_pos (List.isPrefixOf_iff_prefix.mpr hkey.starts), hleft, String.ofList_toList,
    String.ofList_toList]

/-! ## What is recognised is said -/

/-- The words of a command that is recognised in a text. -/
theorem said_of_ofRest {text : String} {gap body : List Char} {x : SettingsCommand}
    (htrimmed : trimmed text.toList = 'e' :: ' ' :: (gap ++ body)) (hgap : Blanks gap)
    (hbody : Tight body) (h : ofRest body = some x) : Says text x := by
  obtain ⟨before, after, htext, hbefore, hafter⟩ := Text.trimmed_spec text.toList
  rw [htrimmed] at htext
  by_cases hmem : '=' ∈ body
  · obtain ⟨key, value, rfl, hkey⟩ := List.eq_append_cons_of_mem hmem
    rw [ofRest_assignment hkey] at h
    split at h
    · next hstart =>
      cases h
      obtain ⟨b₁, a₁, hkeys, hb₁, ha₁⟩ := Text.trimmed_spec key
      obtain ⟨b₂, a₂, hvalues, hb₂, ha₂⟩ := Text.trimmed_spec value
      have hwords : text = String.ofList before ++ "e " ++ String.ofList (gap ++ b₁) ++
          String.ofList (trimmed key) ++ String.ofList a₁ ++ "=" ++ String.ofList b₂ ++
          String.ofList (trimmed value) ++ String.ofList (a₂ ++ after) := by
        rw [← String.toList_inj, htext]
        conv_lhs => rw [hkeys, hvalues]
        simp
      rw [hwords]
      exact .assigning (isKey_trimmed (List.isPrefixOf_iff_prefix.mp hstart) hkey)
        (by simpa using Text.tight_trimmed value) (by simpa using hbefore)
        (by simpa using hgap.append hb₁) (by simpa using ha₁) (by simpa using hb₂)
        (by simpa using ha₂.append hafter)
    · cases h
  · rw [ofRest_reading hmem, Text.dropTrailingBlanks_eq_self hbody.last] at h
    split at h
    · next hstart =>
      cases h
      have hkey : IsKey (String.ofList body) :=
        ⟨by simpa using List.isPrefixOf_iff_prefix.mp hstart, by simpa using hmem,
          by simpa using hbody.last⟩
      have hwords : text = String.ofList before ++ "e " ++ String.ofList gap ++
          String.ofList body ++ String.ofList after := by
        rw [← String.toList_inj, htext]
        simp
      rw [hwords]
      exact .reading hkey (by simpa using hbefore) (by simpa using hgap) (by simpa using hafter)
    · cases h

theorem parse_eq_some_iff {text : String} {x : SettingsCommand} :
    parse text = some x ↔ Says text x := by
  constructor
  · intro h
    obtain ⟨gap, body, htrimmed, hgap, hbody, -, hrest⟩ := body_of_parse h
    exact said_of_ofRest htrimmed hgap hbody hrest
  · intro h
    cases h with
    | reading hkey h₁ h₂ h₃ => exact parse_reading hkey h₁ h₂ h₃
    | assigning hkey hvalue h₁ h₂ h₃ h₄ h₅ =>
        exact parse_assigning hkey hvalue h₁ h₂ h₃ h₄ h₅

/-- A command says itself when it is written in the plainest way. -/
theorem Says.render {text : String} {x : SettingsCommand} (h : Says text x) :
    Says x.render x := by
  have hnone : Blanks "".toList := by simp [Blanks]
  cases h with
  | reading hkey =>
      have hsaid := Says.reading hkey hnone hnone hnone
      simpa [SettingsCommand.render] using hsaid
  | assigning hkey hvalue =>
      have hsaid := Says.assigning hkey hvalue hnone hnone hnone hnone hnone
      simpa [SettingsCommand.render] using hsaid

/-- The reader accepts the grammar and nothing else, and the layout of a command
does not matter to it. -/
theorem recognises_exactly (text : String) :
    (∀ x, parse text = some x ↔ Says text x) ∧
      (parse text = none ↔ ∀ x, ¬Says text x) ∧
      ∀ x, parse text = some x → parse x.render = some x := by
  refine ⟨fun x => parse_eq_some_iff, ?_, ?_⟩
  · simp only [← parse_eq_some_iff, Option.eq_none_iff_forall_not_mem, Option.mem_def]
  · intro x h
    exact parse_eq_some_iff.mpr (parse_eq_some_iff.mp h).render

-- only the first equals sign divides, and blanks count inside a value
example : parse "\t e  pdw.theme = a =  b\n" = some (.set "pdw.theme" "a =  b") := by decide

end DecBridge.SettingsCommand
