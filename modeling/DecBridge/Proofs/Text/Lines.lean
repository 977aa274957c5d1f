import DecBridge.Text.Blank
import DecBridge.Text.Lines

/-!
# Cutting and lines

A list that is put together from pieces, each followed by a stop, is cut into
those pieces again (`cutAt_flatMap`). The two equations `lines_cons` and
`lines_last` say what the lines of any text are: what stands before the first
line feed, less one carriage return at its end, and then the lines of the
rest; a rest without a line feed is one line as it stands, unless it is empty.
-/

namespace DecBridge.Text

/-! ## Cutting -/

section Cutting

variable {α : Type} [BEq α] {stop : α}

theorem cutAt_ne_nil (xs : List α) : cutAt stop xs ≠ [] := by
  cases xs with
  | nil => simp [cutAt]
  | cons x xs =>
      unfold cutAt
      split
      · simp
      · split <;> simp

variable [LawfulBEq α]

theorem cutAt_stop (xs : List α) : cutAt stop (stop :: xs) = [] :: cutAt stop xs := by
  rw [cutAt]
  split
  case h_1 h => exact absurd h (cutAt_ne_nil xs)
  case h_2 piece pieces h => rw [if_pos (beq_self_eq_true stop), h]

theorem cutAt_cons_of_ne {x : α} (hx : x ≠ stop) {xs piece : List α}
    {pieces : List (List α)} (h : cutAt stop xs = piece :: pieces) :
    cutAt stop (x :: xs) = (x :: piece) :: pieces := by
  rw [cutAt, h]
  exact if_neg fun heq => hx (eq_of_beq heq)

theorem cutAt_of_notMem {xs : List α} (h : stop ∉ xs) : cutAt stop xs = [xs] := by
  induction xs with
  | nil => rfl
  | cons x xs ih =>
      obtain ⟨hx, hxs⟩ := List.ne_and_not_mem_of_not_mem_cons h
      exact cutAt_cons_of_ne (Ne.symm hx) (ih hxs)

theorem cutAt_append_stop {xs : List α} (h : stop ∉ xs) (ys : List α) :
    cutAt stop (xs ++ stop :: ys) = xs :: cutAt stop ys := by
  induction xs with
  | nil => exact cutAt_stop ys
  | cons x xs ih =>
      obtain ⟨hx, hxs⟩ := List.ne_and_not_mem_of_not_mem_cons h
      exact cutAt_cons_of_ne (Ne.symm hx) (ih hxs)

/-- Pieces that were each followed by a stop are cut apart again. -/
theorem cutAt_flatMap {pieces : List (List α)} (h : ∀ p ∈ pieces, stop ∉ p) :
    cutAt stop (pieces.flatMap fun p => p ++ [stop]) = pieces ++ [[]] := by
  induction pieces with
  | nil => rfl
  | cons p pieces ih =>
      have hrest := ih fun q hq => h q (List.mem_cons_of_mem _ hq)
      rw [List.flatMap_cons, List.append_assoc, List.singleton_append,
        cutAt_append_stop (h p List.mem_cons_self), hrest, List.cons_append]

theorem notMem_of_mem_cutAt {xs piece : List α} (h : piece ∈ cutAt stop xs) :
    stop ∉ piece := by
  induction xs generalizing piece with
  | nil =>
      obtain rfl := List.mem_singleton.mp h
      exact List.not_mem_nil
  | cons x xs ih =>
      rcases hcut : cutAt stop xs with _ | ⟨first, others⟩
      · exact absurd hcut (cutAt_ne_nil xs)
      · rw [hcut] at ih
        by_cases hx : x = stop
        · subst hx
          rw [cutAt_stop, hcut] at h
          rcases List.mem_cons.mp h with rfl | h
          · exact List.not_mem_nil
          · exact ih h
        · rw [cutAt_cons_of_ne hx hcut] at h
          rcases List.mem_cons.mp h with rfl | h
          · exact List.not_mem_cons_of_ne_of_not_mem (Ne.symm hx)
              (ih List.mem_cons_self)
          · exact ih (List.mem_cons_of_mem _ h)

end Cutting

/-! ## Lines -/

/-- Induction on the lines of a text: it has no line feed, or one after the
first line. -/
@[elab_as_elim]
theorem line_induction {motive : List Char → Prop}
    (last : ∀ cs, '\n' ∉ cs → motive cs)
    (line : ∀ first rest, '\n' ∉ first → motive rest → motive (first ++ '\n' :: rest))
    (cs : List Char) : motive cs := by
  induction hlength : cs.length using Nat.strongRecOn generalizing cs with
  | ind length ih =>
      by_cases hfeed : '\n' ∈ cs
      · obtain ⟨first, rest, rfl, hfirst⟩ := List.eq_append_cons_of_mem hfeed
        have hshorter : rest.length < length := by
          simp at hlength
          omega
        exact line first rest hfirst (ih rest.length hshorter rest rfl)
      · exact last cs hfeed

theorem mem_of_mem_dropFinalReturn {c : Char} {cs : List Char}
    (h : c ∈ dropFinalReturn cs) : c ∈ cs := by
  unfold dropFinalReturn at h
  split at h
  · exact List.dropLast_subset cs h
  · exact h

theorem exists_final_return (cs : List Char) :
    ∃ ret, cs = dropFinalReturn cs ++ ret ∧ (ret = [] ∨ ret = ['\r']) := by
  unfold dropFinalReturn
  split
  case h_1 hlast =>
    obtain ⟨ds, rfl⟩ := List.getLast?_eq_some_iff.mp hlast
    exact ⟨['\r'], by simp, .inr rfl⟩
  case h_2 => exact ⟨[], by simp, .inl rfl⟩

theorem dropFinalReturn_all_isBlank (cs : List Char) :
    (dropFinalReturn cs).all isBlank = cs.all isBlank := by
  unfold dropFinalReturn
  split
  case h_1 hlast =>
    obtain ⟨ds, rfl⟩ := List.getLast?_eq_some_iff.mp hlast
    have hreturn : isBlank '\r' = true := by decide
    simp [hreturn]
  case h_2 => rfl

theorem linesOfPieces_cons (piece : List Char) {pieces : List (List Char)}
    (h : pieces ≠ []) :
    linesOfPieces (piece :: pieces) = dropFinalReturn piece :: linesOfPieces pieces := by
  cases pieces with
  | nil => exact absurd rfl h
  | cons _ _ => rfl

/-- What stands before the first line feed is a line. -/
theorem lines_cons {cs : List Char} (h : '\n' ∉ cs) (rest : List Char) :
    lines (String.ofList (cs ++ '\n' :: rest)) =
      String.ofList (dropFinalReturn cs) :: lines (String.ofList rest) := by
  unfold lines
  rw [String.toList_ofList, String.toList_ofList, cutAt_append_stop h,
    linesOfPieces_cons cs (cutAt_ne_nil rest), List.map_cons]

/-- A text without line feeds is one line, or none if it is empty. -/
theorem lines_last {cs : List Char} (h : '\n' ∉ cs) :
    lines (String.ofList cs) = if cs.isEmpty then [] else [String.ofList cs] := by
  unfold lines
  rw [String.toList_ofList, cutAt_of_notMem h, linesOfPieces]
  split <;> rfl

theorem lineFeed_notMem_linesOfPieces {pieces : List (List Char)}
    (h : ∀ p ∈ pieces, '\n' ∉ p) : ∀ l ∈ linesOfPieces pieces, '\n' ∉ l := by
  induction pieces with
  | nil => exact fun l hl => nomatch hl
  | cons piece pieces ih =>
      intro l hl
      have hpiece := h piece List.mem_cons_self
      by_cases hnil : pieces = []
      · subst hnil
        rw [linesOfPieces] at hl
        split at hl
        · cases hl
        · exact List.mem_singleton.mp hl ▸ hpiece
      · rw [linesOfPieces_cons piece hnil] at hl
        rcases List.mem_cons.mp hl with rfl | hl
        · exact fun hmem => hpiece (mem_of_mem_dropFinalReturn hmem)
        · exact ih (fun p hp => h p (List.mem_cons_of_mem _ hp)) l hl

/-- No line holds a line feed. -/
theorem lineFeed_notMem_lines {s line : String} (h : line ∈ lines s) :
    '\n' ∉ line.toList := by
  obtain ⟨l, hl, rfl⟩ := List.mem_map.mp h
  rw [String.toList_ofList]
  exact lineFeed_notMem_linesOfPieces (fun _ hp => notMem_of_mem_cutAt hp) l hl

end DecBridge.Text
