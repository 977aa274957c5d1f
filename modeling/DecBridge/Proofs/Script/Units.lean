import DecBridge.Proofs.Text.Utf8
import DecBridge.Script.Key
import DecBridge.Script.Units
import Mathlib.Data.List.TakeWhile

/-!
# Texts in scripts and back

A text that is handed to a script comes out again as it was (`toText_ofString`): a
character is laid out as one unit that is no surrogate or as a pair of surrogates, and
reading the units takes exactly the character off the front (`scalars_unitsOfChar`).

A text inside a message may be cut. If its characters are a byte each, what is left
of it fills the room that there is (`Narrow.size_buffered`).
-/

namespace DecBridge.Script

/-! ## Units of a character -/

theorem isSurrogate_of_toNat {u : Unit16} (h : u.toNat < 0xd800 ∨ 0xe000 ≤ u.toNat) :
    isHighSurrogate u = false ∧ isLowSurrogate u = false := by
  simp only [isHighSurrogate, isLowSurrogate, Bool.and_eq_false_iff, decide_eq_false_iff_not,
    UInt16.le_iff_toNat_le, UInt16.lt_iff_toNat_lt, UInt16.reduceToNat]
  omega

theorem scalars_lone {u : Unit16} (h : isHighSurrogate u = false) (us : List Unit16) :
    scalars (u :: us) = loneScalar u :: scalars us := by
  cases us with
  | nil => rfl
  | cons v rest =>
      rw [scalars, h]
      rfl

/-- A character is read off the units that it was laid out as. -/
theorem scalars_unitsOfChar (c : Char) (us : List Unit16) :
    scalars (unitsOfChar c ++ us) = .char c :: scalars us := by
  have hvalid : c.toNat < 0xd800 ∨ 0xdfff < c.toNat ∧ c.toNat < 0x110000 := c.valid
  unfold unitsOfChar
  by_cases hsmall : c.toNat < 0x10000
  · have hnat : (UInt16.ofNat c.toNat).toNat = c.toNat :=
      UInt16.toNat_ofNat_of_lt' hsmall
    obtain ⟨hhigh, hlow⟩ := isSurrogate_of_toNat (u := UInt16.ofNat c.toNat) (by omega)
    rw [if_pos hsmall, List.singleton_append, scalars_lone hhigh]
    unfold loneScalar
    rw [hhigh, hlow, hnat, Char.ofNat_toNat]
    rfl
  · obtain ⟨k, hk⟩ : ∃ k, c.toNat = 0x10000 + k := ⟨c.toNat - 0x10000, by omega⟩
    have hhi : (UInt16.ofNat (0xd800 + (c.toNat - 0x10000) / 0x400)).toNat =
        0xd800 + k / 0x400 := by
      rw [UInt16.toNat_ofNat_of_lt' (by show _ < 65536; omega), hk, Nat.add_sub_cancel_left]
    have hlo : (UInt16.ofNat (0xdc00 + (c.toNat - 0x10000) % 0x400)).toNat =
        0xdc00 + k % 0x400 := by
      rw [UInt16.toNat_ofNat_of_lt' (by show _ < 65536; omega), hk, Nat.add_sub_cancel_left]
    have hpair : charOfPair (UInt16.ofNat (0xd800 + (c.toNat - 0x10000) / 0x400))
        (UInt16.ofNat (0xdc00 + (c.toNat - 0x10000) % 0x400)) = c := by
      unfold charOfPair
      rw [hhi, hlo, show 0x10000 + (0xd800 + k / 0x400 - 0xd800) * 0x400 +
        (0xdc00 + k % 0x400 - 0xdc00) = c.toNat by omega, Char.ofNat_toNat]
    rw [if_neg hsmall]
    show scalars (_ :: _ :: us) = _
    rw [scalars, if_pos, hpair]
    simp only [isHighSurrogate, isLowSurrogate, Bool.and_eq_true, decide_eq_true_eq,
      UInt16.le_iff_toNat_le, UInt16.lt_iff_toNat_lt, UInt16.reduceToNat, hhi, hlo]
    omega

/-! ## Whole texts -/

theorem scalars_flatMap (cs : List Char) : scalars (cs.flatMap unitsOfChar) = cs.map .char := by
  induction cs with
  | nil => rfl
  | cons c cs ih => rw [List.flatMap_cons, scalars_unitsOfChar, ih, List.map_cons]

theorem Str.readFrom_chars (offset : Nat) (acc cs : List Char) :
    readFrom offset acc (cs.map .char) = .ok (acc.reverse ++ cs) := by
  induction cs generalizing offset acc with
  | nil => simp [readFrom]
  | cons c cs ih => simp [readFrom, ih]

theorem Str.toText_ofString (s : String) : (ofString s).toText = .ok s := by
  have hunits : (ofString s).units = s.toList.flatMap unitsOfChar := by
    show Rope.layOut [.flat _] [] = _
    rw [Rope.layOut, Rope.layOut, List.append_nil]
  unfold toText
  rw [hunits, scalars_flatMap, readFrom_chars]
  exact congrArg Except.ok String.ofList_toList

/-! ## Texts that are cut -/

/-- A text without NUL, all of whose characters are a single byte. -/
def Narrow (s : String) : Prop := ∀ c ∈ s.toList, c ≠ '\x00' ∧ c.utf8Size = 1

instance (s : String) : Decidable (Narrow s) :=
  List.decidableBAll (fun c => c ≠ '\x00' ∧ c.utf8Size = 1) s.toList

namespace Narrow

theorem append {s t : String} (hs : Narrow s) (ht : Narrow t) : Narrow (s ++ t) := by
  intro c hc
  rw [String.toList_append] at hc
  exact (List.mem_append.mp hc).elim (hs c) (ht c)

theorem takeBytes_eq {cs : List Char} (h : ∀ c ∈ cs, c.utf8Size = 1) (room : Nat) :
    takeBytes room cs = cs.take room := by
  induction cs generalizing room with
  | nil => rw [takeBytes, List.take_nil]
  | cons c cs ih =>
      obtain ⟨hc, hcs⟩ := List.forall_mem_cons.mp h
      rw [takeBytes, hc]
      cases room with
      | zero => rfl
      | succ room => exact congrArg (c :: ·) (ih hcs room)

theorem byteLength_eq {cs : List Char} (h : ∀ c ∈ cs, c.utf8Size = 1) :
    Text.byteLength cs = cs.length := by
  induction cs with
  | nil => rfl
  | cons c cs ih =>
      obtain ⟨hc, hcs⟩ := List.forall_mem_cons.mp h
      rw [Text.byteLength_cons, hc, ih hcs, List.length_cons, Nat.add_comm]

theorem size_buffered {s : String} (h : Narrow s) (room : Nat) (hlong : room ≤ s.utf8ByteSize) :
    (buffered room s).utf8ByteSize = room := by
  have hbytes : ∀ c ∈ s.toList, c.utf8Size = 1 := fun c hc => (h c hc).2
  unfold buffered
  split
  · next hfits =>
      rw [Bool.and_eq_true, decide_eq_true_eq] at hfits
      exact Nat.le_antisymm hfits.1 hlong
  · have hwhole : s.toList.takeWhile (· != '\x00') = s.toList :=
      List.takeWhile_eq_self_iff.mpr fun c hc => bne_iff_ne.mpr (h c hc).1
    have hlength : s.toList.length = s.utf8ByteSize := by
      rw [← byteLength_eq hbytes, Text.byteLength_toList]
    rw [hwhole, takeBytes_eq hbytes, ← Text.byteLength_toList, String.toList_ofList,
      byteLength_eq fun c hc => hbytes c (List.mem_of_mem_take hc), List.length_take, hlength,
      Nat.min_eq_left hlong]

end Narrow

end DecBridge.Script
