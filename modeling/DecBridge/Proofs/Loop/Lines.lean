import DecBridge.Loop

/-!
# The lines of the loop

`Selects` says what is executed of commands that may be unreadable: the ones that
hold something, in their order, up to the first that quits or cannot be read. The
one that quits is left out, and the unreadable one ends the list.

`lines_of_input` says that this is what the loop makes of its input, where the
commands are the pieces between line feeds without the blanks around them.
-/

namespace DecBridge.Loop

open CommandLine (Invocation)

open Output (Fault)

open Text (Bytes)

/-- A piece of the input as a command. -/
def commandOf (piece : Bytes) : Except Fault String := (readLine piece).map Text.trim

inductive Selects : List (Except Fault String) → List (Except Fault String) → Prop where
  | all (before : List String) (h : "q" ∉ before) :
      Selects (before.map .ok) ((before.filter (· ≠ "")).map .ok)
  | quit (before : List String) (h : "q" ∉ before) (rest : List (Except Fault String)) :
      Selects (before.map .ok ++ .ok "q" :: rest) ((before.filter (· ≠ "")).map .ok)
  | unreadable (before : List String) (h : "q" ∉ before) (fault : Fault)
      (rest : List (Except Fault String)) :
      Selects (before.map .ok ++ .error fault :: rest)
        ((before.filter (· ≠ "")).map .ok ++ [.error fault])

theorem Selects.cons {commands selected : List (Except Fault String)} {command : String}
    (hquit : command ≠ "q") (h : Selects commands selected) :
    Selects (.ok command :: commands)
      (if command = "" then selected else .ok command :: selected) := by
  have hmem : ∀ {before : List String}, "q" ∉ before → "q" ∉ command :: before := by
    intro before hbefore hin
    rcases List.mem_cons.mp hin with heq | hin
    · exact hquit heq.symm
    · exact hbefore hin
  cases h with
  | all before hbefore =>
      have hall := Selects.all (command :: before) (hmem hbefore)
      by_cases hempty : command = "" <;> simpa [hempty] using hall
  | quit before hbefore rest =>
      have hall := Selects.quit (command :: before) (hmem hbefore) rest
      by_cases hempty : command = "" <;> simpa [hempty] using hall
  | unreadable before hbefore fault rest =>
      have hall := Selects.unreadable (command :: before) (hmem hbefore) fault rest
      by_cases hempty : command = "" <;> simpa [hempty] using hall

theorem ofInput_selects (ls : List (Except Fault String)) :
    Selects (ls.map fun line => line.map Text.trim) (ofInput ls) := by
  induction ls with
  | nil => exact .all [] List.not_mem_nil
  | cons line rest ih =>
      cases line with
      | error fault => exact .unreadable [] List.not_mem_nil fault _
      | ok line =>
          have hquits : (Text.trim line == quitCommand) = decide (Text.trim line = "q") := rfl
          have hempty : (Text.trim line).isEmpty = decide (Text.trim line = "") := by
            rw [Bool.eq_iff_iff, String.isEmpty_iff, decide_eq_true_iff]
          rw [ofInput, hquits, hempty]
          by_cases hquit : Text.trim line = "q"
          · simp only [List.map_cons, Except.map, hquit, decide_true, if_true]
            exact .quit [] List.not_mem_nil _
          · simpa [Except.map, hquit] using ih.cons hquit

/-- An empty piece behind the last line feed makes no difference. -/
theorem ofInput_linePieces (pieces : List Bytes) :
    ofInput ((linePieces pieces).map readLine) = ofInput (pieces.map readLine) := by
  fun_induction linePieces pieces with
  | case1 => rfl
  | case2 rest h =>
      rw [List.isEmpty_iff.mp h]
      rfl
  | case3 rest h => rfl
  | case4 piece pieces hne ih =>
      simp only [List.map_cons]
      cases readLine piece with
      | error fault => rfl
      | ok line => simp only [ofInput, ih]

theorem lines_of_commands {i : Invocation} (h : i.commands ≠ []) (input : Bytes) :
    lines i input = i.commands.map .ok := by
  unfold lines
  rw [if_neg (by simpa using h)]

theorem lines_of_input {i : Invocation} (h : i.commands = []) (input : Bytes) :
    Selects ((Text.cutAt 10 input).map commandOf) (lines i input) := by
  unfold lines inputLines
  rw [if_pos (by simpa using h), ofInput_linePieces]
  have hselects := ofInput_selects ((Text.cutAt 10 input).map readLine)
  rw [List.map_map] at hselects
  exact hselects

end DecBridge.Loop
