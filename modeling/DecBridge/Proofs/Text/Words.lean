import DecBridge.Proofs.Text.Blank

/-!
# Words of a text

The words of a text are found in one pass that carries the word read so far
(`wordsFrom`). What the pass does at a blank (`wordsFrom_append_blank`) says how
texts with blanks between them are cut (`words_between`), and from that words
that are written one behind the other are read back (`words_joined`). What the
pass keeps says that words hold no white space (`isWord_of_mem_words`) and that
nothing else gets lost (`join_words`).
-/

namespace DecBridge.Text

/-! ## White space -/

/-- The characters with the Unicode property `White_Space`, one by one. -/
def whiteSpace : List Char :=
  ['\t', '\n', '\x0b', '\x0c', '\r', ' ', '\u0085', '\u00a0', '\u1680', '\u2000', '\u2001',
    '\u2002', '\u2003', '\u2004', '\u2005', '\u2006', '\u2007', '\u2008', '\u2009', '\u200a',
    '\u2028', '\u2029', '\u202f', '\u205f', '\u3000']

example : whiteSpace.length = 25 ∧ whiteSpace.Nodup := by decide

theorem isBlank_iff_mem {c : Char} : isBlank c = true ↔ c ∈ whiteSpace := by
  have hcode : c ∈ whiteSpace ↔ c.toNat ∈ whiteSpace.map Char.toNat :=
    (List.mem_map_of_injective fun _ _ => Char.toNat_inj.mp).symm
  rw [hcode]
  simp only [isBlank, Bool.or_eq_true, Bool.and_eq_true, decide_eq_true_eq, beq_iff_eq]
  generalize c.toNat = n
  simp only [whiteSpace, List.map_cons, List.map_nil, List.mem_cons, List.not_mem_nil, or_false,
    Char.reduceToNat]
  omega

theorem isBlank_eq_false_iff {c : Char} : isBlank c = false ↔ c ∉ whiteSpace := by
  rw [← isBlank_iff_mem, Bool.not_eq_true]

/-- A word is a text that holds something, and no white space. -/
structure IsWord (s : String) : Prop where
  ne_empty : s ≠ ""
  solid : ∀ c ∈ s.toList, c ∉ whiteSpace

theorem isWord_iff {s : String} : IsWord s ↔ s ≠ "" ∧ ∀ c ∈ s.toList, c ∉ whiteSpace :=
  ⟨fun h => ⟨h.ne_empty, h.solid⟩, fun h => ⟨h.1, h.2⟩⟩

/-! ## The pass -/

theorem wordsFrom_cons_blank {c : Char} (hc : isBlank c = true) (word cs : List Char) :
    wordsFrom word (c :: cs) = wordsFrom word [] ++ wordsFrom [] cs := by
  simp only [wordsFrom, if_pos hc]
  split <;> rfl

theorem wordsFrom_cons_solid {c : Char} (hc : isBlank c = false) (word cs : List Char) :
    wordsFrom word (c :: cs) = wordsFrom (word ++ [c]) cs := by
  rw [wordsFrom, hc]
  rfl

/-- A blank ends the word that was being read, whatever follows it. -/
theorem wordsFrom_append_blank {c : Char} (hc : isBlank c = true) (word cs ds : List Char) :
    wordsFrom word (cs ++ c :: ds) = wordsFrom word cs ++ wordsFrom [] ds := by
  induction cs generalizing word with
  | nil => exact wordsFrom_cons_blank hc word ds
  | cons d cs ih =>
      rw [List.cons_append]
      cases hd : isBlank d with
      | true => rw [wordsFrom_cons_blank hd, ih, wordsFrom_cons_blank hd, List.append_assoc]
      | false => rw [wordsFrom_cons_solid hd, ih, wordsFrom_cons_solid hd]

/-- No word is read from blanks. -/
theorem wordsFrom_blanks {blanks : List Char} (h : Blanks blanks) (cs : List Char) :
    wordsFrom [] (blanks ++ cs) = wordsFrom [] cs := by
  induction blanks with
  | nil => rfl
  | cons b blanks ih =>
      rw [List.cons_append, wordsFrom_cons_blank (h b List.mem_cons_self),
        ih fun c hc => h c (List.mem_cons_of_mem b hc)]
      rfl

/-- Without blanks, the word read so far goes on to the end. -/
theorem wordsFrom_solid {cs : List Char} (h : ∀ c ∈ cs, isBlank c = false) (word : List Char) :
    wordsFrom word cs = wordsFrom (word ++ cs) [] := by
  induction cs generalizing word with
  | nil => rw [List.append_nil]
  | cons c cs ih =>
      rw [wordsFrom_cons_solid (h c List.mem_cons_self),
        ih fun d hd => h d (List.mem_cons_of_mem c hd), List.append_assoc, List.singleton_append]

theorem ne_nil_and_solid_of_mem_wordsFrom {word cs w : List Char}
    (hword : ∀ c ∈ word, isBlank c = false) (h : w ∈ wordsFrom word cs) :
    w ≠ [] ∧ ∀ c ∈ w, isBlank c = false := by
  fun_induction wordsFrom word cs with
  | case1 => simp at h
  | case2 word hne =>
      rw [List.mem_singleton] at h
      subst h
      exact ⟨by simpa using hne, hword⟩
  | case3 word c cs _ _ ih => exact ih (by simp) h
  | case4 word c cs _ hne ih =>
      rcases List.mem_cons.mp h with rfl | h
      · exact ⟨by simpa using hne, hword⟩
      · exact ih (by simp) h
  | case5 word c cs hc ih =>
      refine ih (fun d hd => ?_) h
      rcases List.mem_append.mp hd with hd | hd
      · exact hword d hd
      · rw [List.mem_singleton.mp hd]
        exact Bool.eq_false_iff.mpr hc

/-- All that is not blank is in some word, in its place. -/
theorem flatten_wordsFrom (word cs : List Char) :
    (wordsFrom word cs).flatten = word ++ cs.filter (!isBlank ·) := by
  fun_induction wordsFrom word cs with
  | case1 word hnil => simpa using hnil
  | case2 => simp
  | case3 word c cs hc hnil ih => simp_all
  | case4 word c cs hc _ ih => simp [hc, ih]
  | case5 word c cs hc ih => simp [hc, ih]

/-! ## Words -/

theorem words_of_blanks_append {blanks : String} (h : Blanks blanks.toList) (s : String) :
    words (blanks ++ s) = words s := by
  unfold words
  rw [String.toList_append, wordsFrom_blanks h]

/-- Where there are blanks between two texts, no word lies in both of them. -/
theorem words_between {blanks : String} (hne : blanks ≠ "") (h : Blanks blanks.toList)
    (s t : String) : words (s ++ blanks ++ t) = words s ++ words t := by
  obtain ⟨b, rest, hb⟩ : ∃ b rest, blanks.toList = b :: rest :=
    List.exists_cons_of_ne_nil (by simpa using hne)
  rw [hb] at h
  have hrest : Blanks rest := fun c hc => h c (List.mem_cons_of_mem b hc)
  unfold words
  rw [← List.map_append, String.toList_append, String.toList_append, hb, List.append_assoc,
    List.cons_append, wordsFrom_append_blank (h b List.mem_cons_self), wordsFrom_blanks hrest]

theorem words_of_isWord {s : String} (h : IsWord s) : words s = [s] := by
  have hsolid : ∀ c ∈ s.toList, isBlank c = false :=
    fun c hc => isBlank_eq_false_iff.mpr (h.solid c hc)
  unfold words
  rw [wordsFrom_solid hsolid, List.nil_append, wordsFrom,
    if_neg (by simpa using h.ne_empty), List.map_singleton, String.ofList_toList]

theorem isWord_of_mem_words {s w : String} (h : w ∈ words s) : IsWord w := by
  obtain ⟨cs, hcs, rfl⟩ := List.mem_map.mp h
  obtain ⟨hne, hsolid⟩ := ne_nil_and_solid_of_mem_wordsFrom (by simp) hcs
  refine ⟨by simpa using hne, fun c hc => ?_⟩
  rw [String.toList_ofList] at hc
  exact isBlank_eq_false_iff.mp (hsolid c hc)

/-- The words of a text, put together, are the text without its white space. -/
theorem join_words (s : String) :
    String.join (words s) = String.ofList (s.toList.filter (· ∉ whiteSpace)) := by
  have hkept : s.toList.filter (· ∉ whiteSpace) = s.toList.filter (!isBlank ·) :=
    List.filter_congr fun c _ => by simp [← isBlank_iff_mem]
  rw [← String.toList_inj, String.toList_join, String.toList_ofList, hkept]
  have hflat := flatten_wordsFrom [] s.toList
  rw [List.nil_append] at hflat
  rw [← hflat, words, List.flatMap_map]
  simp only [String.toList_ofList, List.flatMap_id']

/-- Words that are written with a space between each two of them are read back. -/
theorem words_joined {ws : List String} (h : ∀ w ∈ ws, IsWord w) :
    words (" ".intercalate ws) = ws := by
  induction ws with
  | nil => rfl
  | cons w ws ih =>
      have hw := words_of_isWord (h w List.mem_cons_self)
      cases ws with
      | nil => rwa [String.intercalate_singleton]
      | cons v ws =>
          rw [String.intercalate_cons_cons, words_between (by decide) (by decide), hw,
            ih fun u hu => h u (List.mem_cons_of_mem w hu)]
          rfl

end DecBridge.Text
