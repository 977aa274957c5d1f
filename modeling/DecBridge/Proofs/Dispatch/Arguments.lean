import DecBridge.Dispatch.Action
import DecBridge.Proofs.Text.Words

/-!
# Arguments of a decompilation

A line that starts with `pdw` and a space asks for a decompilation, whatever the
rest of it holds, and its arguments are the words of that rest
(`route_command`). `arguments_are_words` says what that means for those who write
such lines: nothing but white space is lost, texts may be put together with any
white space between them, and arguments that are joined by spaces arrive as they
were.
-/

namespace DecBridge.Action

open Text (IsWord whiteSpace words)

/-- The rest of the line chooses nothing: only its words matter. -/
theorem route_command (text : String) :
    route ("pdw " ++ text) = some (.decompile (words text)) := by
  have hchars : ("pdw " ++ text).toList = 'p' :: 'd' :: 'w' :: ' ' :: text.toList :=
    String.toList_append
  have hspace : words (String.ofList (' ' :: text.toList)) = words text := by
    have h : words (" " ++ text) = words text := Text.words_of_blanks_append (by decide) text
    rwa [← String.ofList_toList (s := " " ++ text), String.toList_append] at h
  have hroute : route ("pdw " ++ text) = some (ofRest (' ' :: text.toList)) := by
    unfold route
    rw [hchars]
    rfl
  rw [hroute, ofRest, hspace]

/-- The arguments of a decompilation are what the line holds besides white space,
cut where it stands.

Every text behind the command and a space is taken. Its arguments are words, and
together they are the text without its white space. White space between two texts
keeps their arguments apart, however much and of whichever kind it is, and words
that are joined by spaces are the arguments of the line that results. -/
theorem arguments_are_words :
    (∀ text : String, route ("pdw " ++ text) = some (.decompile (words text)) ∧
      (∀ arg ∈ words text, arg ≠ "" ∧ ∀ c ∈ arg.toList, c ∉ whiteSpace) ∧
      String.join (words text) = String.ofList (text.toList.filter (· ∉ whiteSpace))) ∧
    (∀ before between after : String, between ≠ "" → (∀ c ∈ between.toList, c ∈ whiteSpace) →
      words (before ++ between ++ after) = words before ++ words after) ∧
    ∀ args : List String, (∀ arg ∈ args, arg ≠ "" ∧ ∀ c ∈ arg.toList, c ∉ whiteSpace) →
      route ("pdw " ++ " ".intercalate args) = some (.decompile args) := by
  refine ⟨fun text => ⟨route_command text, fun arg harg => ?_, Text.join_words text⟩, ?_, ?_⟩
  · exact Text.isWord_iff.mp (Text.isWord_of_mem_words harg)
  · intro before between after hne hspace
    exact Text.words_between hne (fun c hc => Text.isBlank_iff_mem.mpr (hspace c hc)) before after
  · intro args hargs
    rw [route_command, Text.words_joined fun arg harg => Text.isWord_iff.mpr (hargs arg harg)]

/-- White space from three blocks of characters stands between two options. -/
theorem arguments_are_words_wide :
    ("\u3000\t\u2028" ≠ "" ∧ (∀ c ∈ "\u3000\t\u2028".toList, c ∈ whiteSpace) ∧
      ∀ arg ∈ ["--casts", "--html"], arg ≠ "" ∧ ∀ c ∈ arg.toList, c ∉ whiteSpace) ∧
    words (" --casts" ++ "\u3000\t\u2028" ++ "--html") = ["--casts", "--html"] ∧
    route ("pdw " ++ " ".intercalate ["--casts", "--html"]) =
      some (.decompile ["--casts", "--html"]) := by
  obtain ⟨-, hbetween, hjoined⟩ := arguments_are_words
  have hspace : ∀ c ∈ "\u3000\t\u2028".toList, c ∈ whiteSpace := by simp [whiteSpace]
  have hwords : ∀ arg ∈ ["--casts", "--html"], arg ≠ "" ∧ ∀ c ∈ arg.toList, c ∉ whiteSpace := by
    simp [whiteSpace]
  refine ⟨⟨by decide, hspace, hwords⟩, ?_, hjoined _ hwords⟩
  rw [hbetween _ _ _ (by decide) hspace]
  decide

end DecBridge.Action
