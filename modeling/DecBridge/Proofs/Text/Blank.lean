import Mathlib.Data.List.DropRight
import DecBridge.Text.Blank

/-!
# Trimming

A text is what trimming leaves of it, with blanks around that; what is left
neither begins nor ends with a blank. The other way round, blanks that are put
around a list of characters are what trimming takes away again.
-/

namespace DecBridge.Text

/-- Nothing but blanks. -/
def Blanks (cs : List Char) : Prop := ∀ c ∈ cs, isBlank c = true

instance (cs : List Char) : Decidable (Blanks cs) :=
  List.decidableBAll (fun c => isBlank c = true) cs

theorem blanks_iff_all {cs : List Char} : Blanks cs ↔ cs.all isBlank = true :=
  List.all_eq_true.symm

theorem Blanks.append {cs ds : List Char} (hc : Blanks cs) (hd : Blanks ds) :
    Blanks (cs ++ ds) := by
  intro c h
  rcases List.mem_append.mp h with h | h
  · exact hc c h
  · exact hd c h

/-! ## The end of a text -/

theorem dropTrailingBlanks_eq (cs : List Char) :
    dropTrailingBlanks cs = cs.rdropWhile isBlank := rfl

/-- What trimming takes away from the end. -/
theorem exists_blanks_after (cs : List Char) :
    ∃ blanks, cs = dropTrailingBlanks cs ++ blanks ∧ Blanks blanks := by
  refine ⟨cs.rtakeWhile isBlank, ?_, fun c hc => List.mem_rtakeWhile_imp hc⟩
  exact (List.rdropWhile_append_rtakeWhile ..).symm

/-- No blank is left at the end. -/
theorem getLast?_dropTrailingBlanks {cs : List Char} {c : Char}
    (h : (dropTrailingBlanks cs).getLast? = some c) : isBlank c = false := by
  obtain ⟨hne, rfl⟩ := List.mem_getLast?_eq_getLast h
  exact Bool.eq_false_iff.mpr (List.rdropWhile_last_not isBlank cs hne)

theorem dropTrailingBlanks_append {blanks : List Char} (h : Blanks blanks)
    (cs : List Char) : dropTrailingBlanks (cs ++ blanks) = dropTrailingBlanks cs := by
  unfold dropTrailingBlanks
  rw [List.reverse_append, List.dropWhile_append_of_pos]
  exact fun c hc => h c (List.mem_reverse.mp hc)

theorem dropTrailingBlanks_eq_self {cs : List Char}
    (h : ∀ c, cs.getLast? = some c → isBlank c = false) :
    dropTrailingBlanks cs = cs := by
  rw [dropTrailingBlanks_eq, List.rdropWhile_eq_self_iff]
  intro hne
  exact Bool.eq_false_iff.mp (h _ (List.getLast?_eq_some_getLast hne))

/-- A text is what is left of it at the end, followed by blanks. -/
theorem trimEnd_spec (s : String) :
    ∃ blanks : List Char, s = trimEnd s ++ String.ofList blanks ∧ Blanks blanks ∧
      ∀ c, (trimEnd s).toList.getLast? = some c → isBlank c = false := by
  obtain ⟨blanks, hsplit, hblanks⟩ := exists_blanks_after s.toList
  refine ⟨blanks, ?_, hblanks, fun c hc => ?_⟩
  · rw [trimEnd, ← String.ofList_append, ← hsplit, String.ofList_toList]
  · rw [trimEnd, String.toList_ofList] at hc
    exact getLast?_dropTrailingBlanks hc

/-! ## The beginning of a text -/

theorem dropBlanks_append {blanks : List Char} (h : Blanks blanks) (cs : List Char) :
    dropBlanks (blanks ++ cs) = dropBlanks cs :=
  List.dropWhile_append_of_pos h

/-! ## Both ends -/

/-- A list of characters without the blanks at either end. -/
def trimmed (cs : List Char) : List Char := dropTrailingBlanks (dropBlanks cs)

/-- Neither the first nor the last character is a blank. -/
structure Tight (cs : List Char) : Prop where
  head : ∀ c, cs.head? = some c → isBlank c = false
  last : ∀ c, cs.getLast? = some c → isBlank c = false

theorem tight_iff_all {cs : List Char} :
    Tight cs ↔ cs.head?.all (!isBlank ·) = true ∧ cs.getLast?.all (!isBlank ·) = true := by
  simp only [Option.all_eq_true, Bool.not_eq_true']
  exact ⟨fun h => ⟨h.head, h.last⟩, fun h => ⟨h.1, h.2⟩⟩

instance (cs : List Char) : Decidable (Tight cs) :=
  decidable_of_iff _ tight_iff_all.symm

theorem dropBlanks_head {cs : List Char} {c : Char} (h : (dropBlanks cs).head? = some c) :
    isBlank c = false := by
  have := List.head?_dropWhile_not isBlank cs
  unfold dropBlanks at h
  rw [h] at this
  simpa using this

theorem exists_blanks_before (cs : List Char) :
    ∃ blanks, cs = blanks ++ dropBlanks cs ∧ Blanks blanks :=
  ⟨cs.takeWhile isBlank, (List.takeWhile_append_dropWhile).symm,
    fun _ hc => List.mem_takeWhile_imp hc⟩

theorem tight_trimmed (cs : List Char) : Tight (trimmed cs) where
  head c hc := by
    obtain ⟨blanks, hsplit, -⟩ := exists_blanks_after (dropBlanks cs)
    refine dropBlanks_head (c := c) (?_ : (dropBlanks cs).head? = some c)
    unfold trimmed at hc
    rw [hsplit, List.head?_append, hc]
    rfl
  last c hc := getLast?_dropTrailingBlanks hc

theorem trimmed_spec (cs : List Char) :
    ∃ before after, cs = before ++ trimmed cs ++ after ∧ Blanks before ∧ Blanks after := by
  obtain ⟨before, hbefore, hb⟩ := exists_blanks_before cs
  obtain ⟨after, hafter, ha⟩ := exists_blanks_after (dropBlanks cs)
  refine ⟨before, after, ?_, hb, ha⟩
  rw [List.append_assoc]
  exact hbefore.trans (congrArg (before ++ ·) hafter)

theorem trimmed_of_blanks {cs : List Char} (h : Blanks cs) : trimmed cs = [] := by
  unfold trimmed dropBlanks
  rw [List.dropWhile_eq_nil_iff.mpr h]
  rfl

theorem trimmed_ne_nil {cs : List Char} (h : ¬Blanks cs) : trimmed cs ≠ [] := by
  intro hnil
  obtain ⟨before, after, hsplit, hb, ha⟩ := trimmed_spec cs
  rw [hnil, List.append_nil] at hsplit
  exact h (hsplit ▸ hb.append ha)

/-- Blanks that are put around something tight are what trimming takes away. -/
theorem trimmed_around {before cs after : List Char} (hb : Blanks before) (h : Tight cs)
    (ha : Blanks after) : trimmed (before ++ cs ++ after) = cs := by
  unfold trimmed
  rw [List.append_assoc, dropBlanks_append hb]
  cases cs with
  | nil =>
      unfold dropBlanks
      rw [List.nil_append, List.dropWhile_eq_nil_iff.mpr ha]
      rfl
  | cons c cs =>
      have hfront : dropBlanks (c :: cs ++ after) = c :: cs ++ after :=
        List.dropWhile_cons_of_neg (by simp [h.head c rfl])
      rw [hfront, dropTrailingBlanks_append ha, dropTrailingBlanks_eq_self h.last]

theorem trimmed_of_tight {cs : List Char} (h : Tight cs) : trimmed cs = cs := by
  have hnone : Blanks [] := by simp [Blanks]
  simpa using trimmed_around hnone h hnone

/-- Blanks behind a text make no difference. -/
theorem trimmed_append {blanks : List Char} (h : Blanks blanks) (cs : List Char) :
    trimmed (cs ++ blanks) = trimmed cs := by
  obtain ⟨before, after, hsplit, hbefore, hafter⟩ := trimmed_spec cs
  conv_lhs => rw [hsplit, List.append_assoc]
  exact trimmed_around hbefore (tight_trimmed cs) (hafter.append h)

theorem tight_trim (s : String) : Tight (trim s).toList := by
  unfold trim
  rw [String.toList_ofList]
  exact tight_trimmed s.toList

theorem trim_of_tight {s : String} (h : Tight s.toList) : trim s = s := by
  show String.ofList (trimmed s.toList) = s
  rw [trimmed_of_tight h, String.ofList_toList]

theorem trim_append {blanks : String} (h : Blanks blanks.toList) (s : String) :
    trim (s ++ blanks) = trim s := by
  show String.ofList (trimmed (s ++ blanks).toList) = _
  rw [String.toList_append, trimmed_append h]
  rfl

theorem Tight.join {x y : List Char} (hx : Tight x) (hy : Tight y) (hxne : x ≠ [])
    (hyne : y ≠ []) (between : List Char) : Tight (x ++ between ++ y) where
  head c hc := by
    rw [List.append_assoc, List.head?_append_of_ne_nil _ hxne] at hc
    exact hx.head c hc
  last c hc := by
    rw [List.getLast?_append_of_ne_nil _ hyne] at hc
    exact hy.last c hc

end DecBridge.Text
