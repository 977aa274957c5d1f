import DecBridge.CommandLine.Split
import Mathlib.Data.List.Basic

/-!
# Groups of configuration flags

What stands in front of a command line is a sequence of groups, each a flag
with its value in one argument or in two (`Groups`). `Cut` says where they end:
behind the last group there is no further flag, and only at the very end may a
flag lack its value.

A command line has exactly one such cut. Collecting finds a cut
(`cut_collect`), and finds any given one (`collect_of_cut`); the second also
says what becomes of either part when it is split once more.
-/

namespace DecBridge.CommandLine

inductive Groups : List String → Prop
  | nil : Groups []
  | whole {name value : String} {rest : List String} (hname : name ∈ configFlags)
      (hrest : Groups rest) : Groups (("--" ++ name ++ "=" ++ value) :: rest)
  | pair {name value : String} {rest : List String} (hname : name ∈ configFlags)
      (hrest : Groups rest) : Groups (("--" ++ name) :: value :: rest)

/-- An argument that names a configuration flag, in either form. -/
def NamesFlag (argument : String) : Prop :=
  ∃ name ∈ configFlags,
    argument = "--" ++ name ∨ ∃ value, argument = "--" ++ name ++ "=" ++ value

/-- Arguments are cut where their configuration flags end. -/
structure Cut (front back : List String) : Prop where
  groups : Groups front ∨
    back = [] ∧ ∃ whole, ∃ name ∈ configFlags, Groups whole ∧ front = whole ++ ["--" ++ name]
  stops : ∀ a, back.head? = some a → ¬NamesFlag a

/-! ## Forms of arguments -/

theorem equals_notMem {name : String} (h : name ∈ configFlags) : '=' ∉ name.toList := by
  revert name
  decide

theorem takeWhile_name {name : String} (h : name ∈ configFlags) (rest : List Char) :
    (name.toList ++ rest).takeWhile (· != '=') =
      name.toList ++ rest.takeWhile (· != '=') := by
  apply List.takeWhile_append_of_pos
  intro c hc
  rw [bne_iff_ne]
  rintro rfl
  exact equals_notMem h hc

theorem form_whole {name : String} (h : name ∈ configFlags) (value : String) :
    FlagForm.of ("--" ++ name ++ "=" ++ value) = .whole := by
  have hname := takeWhile_name h ('=' :: value.toList)
  rw [List.takeWhile_cons_of_neg (by simp), List.append_nil] at hname
  have hchars : ("--" ++ name ++ "=" ++ value).toList =
      '-' :: '-' :: (name.toList ++ '=' :: value.toList) := by simp
  unfold FlagForm.of
  rw [hchars]
  simp only [hname, String.ofList_toList]
  rw [if_pos (by simpa using h), if_pos (by simp)]

theorem form_opening {name : String} (h : name ∈ configFlags) :
    FlagForm.of ("--" ++ name) = .opening := by
  have hname := takeWhile_name h []
  rw [List.append_nil, List.takeWhile_nil, List.append_nil] at hname
  have hchars : ("--" ++ name).toList = '-' :: '-' :: name.toList := by simp
  unfold FlagForm.of
  rw [hchars]
  simp only [hname, String.ofList_toList]
  rw [if_pos (by simpa using h), if_neg (by simpa using equals_notMem h)]

/-- What stands behind the dashes is split at its first equals sign, if it has
one. -/
theorem namesFlag_of_form {argument : String} (h : FlagForm.of argument ≠ .other) :
    NamesFlag argument := by
  unfold FlagForm.of at h
  split at h
  case h_2 => exact absurd rfl h
  case h_1 body hbody =>
    split at h
    case isFalse => exact absurd rfl h
    case isTrue hknown =>
      refine ⟨_, by simpa using hknown, ?_⟩
      have hsplit := List.takeWhile_append_dropWhile (p := (· != '=')) (l := body)
      cases hrest : body.dropWhile (· != '=') with
      | nil =>
          rw [hrest, List.append_nil] at hsplit
          refine .inl ?_
          rw [← String.toList_inj, hbody, hsplit]
          simp
      | cons c value =>
          have hc := List.head?_dropWhile_not (· != '=') body
          rw [hrest] at hc
          obtain rfl : c = '=' := by simpa using hc
          refine .inr ⟨String.ofList value, ?_⟩
          rw [hrest] at hsplit
          rw [← String.toList_inj, hbody, String.toList_append, String.toList_append,
            String.toList_append, String.toList_ofList, String.toList_ofList]
          simpa using hsplit.symm

/-! ## Cuts -/

theorem Cut.none {back : List String} (h : ∀ a, back.head? = some a → ¬NamesFlag a) :
    Cut [] back :=
  ⟨.inl .nil, h⟩

theorem Cut.whole {name value : String} {front back : List String} (hname : name ∈ configFlags)
    (h : Cut front back) : Cut (("--" ++ name ++ "=" ++ value) :: front) back := by
  refine ⟨?_, h.stops⟩
  rcases h.groups with hgroups | ⟨hback, whole, last, hlast, hgroups, rfl⟩
  · exact .inl (.whole hname hgroups)
  · exact .inr ⟨hback, _, last, hlast, .whole hname hgroups, rfl⟩

theorem Cut.pair {name value : String} {front back : List String} (hname : name ∈ configFlags)
    (h : Cut front back) : Cut (("--" ++ name) :: value :: front) back := by
  refine ⟨?_, h.stops⟩
  rcases h.groups with hgroups | ⟨hback, whole, last, hlast, hgroups, rfl⟩
  · exact .inl (.pair hname hgroups)
  · exact .inr ⟨hback, _, last, hlast, .pair hname hgroups, rfl⟩

theorem Cut.lone {name : String} (hname : name ∈ configFlags) : Cut ["--" ++ name] [] :=
  ⟨.inr ⟨rfl, [], name, hname, .nil, rfl⟩, nofun⟩

/-- The front of a cut is cut behind all of it. -/
theorem Cut.front {front back : List String} (h : Cut front back) : Cut front [] := by
  refine ⟨?_, nofun⟩
  rcases h.groups with hgroups | ⟨-, hlone⟩
  · exact .inl hgroups
  · exact .inr ⟨rfl, hlone⟩

/-! ## Collecting -/

theorem collect_cons {waiting next : Bool} {a : String} (h : waitsAfter? waiting a = some next)
    (rest : List String) :
    collect waiting (a :: rest) = (a :: (collect next rest).1, (collect next rest).2 + 1) := by
  rw [collect, h]

theorem waitsAfter_whole {name : String} (h : name ∈ configFlags) (value : String) :
    waitsAfter? false ("--" ++ name ++ "=" ++ value) = some false := by
  unfold waitsAfter?
  rw [form_whole h]
  rfl

theorem waitsAfter_opening {name : String} (h : name ∈ configFlags) :
    waitsAfter? false ("--" ++ name) = some true := by
  unfold waitsAfter?
  rw [form_opening h]
  rfl

theorem collect_stops {back : List String} (h : ∀ a, back.head? = some a → ¬NamesFlag a) :
    collect false back = ([], 0) := by
  cases back with
  | nil => rfl
  | cons a back =>
      have hother : FlagForm.of a = .other := by
        by_contra hform
        exact h a rfl (namesFlag_of_form hform)
      unfold collect waitsAfter?
      rw [hother]
      rfl

/-- What is collected while a flag waits for its value starts with the value,
unless nothing is left. -/
def Awaited (front back : List String) : Prop :=
  front = [] ∧ back = [] ∨ ∃ value rest, front = value :: rest ∧ Cut rest back

/-- What is collected is the front of a cut, and the count says how long it is. -/
theorem cut_collect (waiting : Bool) (arguments : List String) :
    ∃ front back, arguments = front ++ back ∧
      collect waiting arguments = (front, front.length) ∧
      if waiting then Awaited front back else Cut front back := by
  induction arguments generalizing waiting with
  | nil =>
      refine ⟨[], [], rfl, rfl, ?_⟩
      cases waiting with
      | true => exact .inl ⟨rfl, rfl⟩
      | false => exact .none nofun
  | cons a rest ih =>
      cases waiting with
      | true =>
          obtain ⟨front, back, rfl, hcollect, hcut⟩ := ih false
          refine ⟨a :: front, back, rfl, ?_, .inr ⟨a, front, rfl, hcut⟩⟩
          rw [collect_cons rfl, hcollect]
          rfl
      | false =>
          by_cases hflag : NamesFlag a
          · obtain ⟨name, hname, rfl | ⟨value, rfl⟩⟩ := hflag
            · obtain ⟨front, back, rfl, hcollect, hawaited⟩ := ih true
              refine ⟨_ :: front, back, rfl, ?_, ?_⟩
              · rw [collect_cons (waitsAfter_opening hname), hcollect]
                rfl
              · rcases hawaited with ⟨rfl, rfl⟩ | ⟨value, rest, rfl, hcut⟩
                · exact .lone hname
                · exact .pair hname hcut
            · obtain ⟨front, back, rfl, hcollect, hcut⟩ := ih false
              refine ⟨_ :: front, back, rfl, ?_, .whole hname hcut⟩
              rw [collect_cons (waitsAfter_whole hname value), hcollect]
              rfl
          · have hstops : ∀ b, (a :: rest).head? = some b → ¬NamesFlag b := by
              rintro b ⟨⟩
              exact hflag
            exact ⟨[], a :: rest, rfl, collect_stops hstops, .none hstops⟩

theorem collect_groups {front : List String} (h : Groups front) (back : List String) :
    collect false (front ++ back) =
      (front ++ (collect false back).1, front.length + (collect false back).2) := by
  induction h with
  | nil => simp
  | whole hname hrest ih =>
      rw [List.cons_append, collect_cons (waitsAfter_whole hname _), ih]
      simp [Nat.add_right_comm]
  | pair hname hrest ih =>
      rw [List.cons_append, collect_cons (waitsAfter_opening hname), List.cons_append,
        collect_cons rfl, ih]
      simp [Nat.add_right_comm]

/-- Collecting finds every cut, so there is only one. -/
theorem collect_of_cut {front back : List String} (h : Cut front back) :
    collect false (front ++ back) = (front, front.length) := by
  rcases h.groups with hgroups | ⟨rfl, whole, name, hname, hgroups, rfl⟩
  · rw [collect_groups hgroups, collect_stops h.stops]
    simp
  · rw [List.append_nil, collect_groups hgroups, collect_cons (waitsAfter_opening hname)]
    simp [collect]

theorem split_of_cut {front back : List String} (h : Cut front back) (program : String) :
    split (program :: (front ++ back)) =
      ⟨program :: front, 1 + front.length, program :: back⟩ := by
  unfold split
  simp only [collect_of_cut h]
  simp [prepare, Nat.add_comm]

/-! ## The whole command line -/

/-- A command line is cut in one place and nothing of it is lost: the arguments
behind the program name have exactly one cut, after some `k` of them, and the
two parts are the program name with what stands before and behind it, whatever
the name is. Splitting either part again takes away nothing from the second and
all of the first. -/
theorem split_at_groups (arguments : List String) :
    split [] = ⟨[], 0, []⟩ ∧
      (∃! k, k ≤ arguments.length ∧ Cut (arguments.take k) (arguments.drop k)) ∧
      ∀ k ≤ arguments.length, Cut (arguments.take k) (arguments.drop k) → ∀ program,
        split (program :: arguments) =
            ⟨program :: arguments.take k, 1 + k, program :: arguments.drop k⟩ ∧
          split (program :: arguments.drop k) = ⟨[program], 1, program :: arguments.drop k⟩ ∧
          split (program :: arguments.take k) =
            ⟨program :: arguments.take k, 1 + k, [program]⟩ := by
  obtain ⟨front, back, rfl, hcollect, hcut⟩ := cut_collect false arguments
  refine ⟨rfl, ⟨front.length, ⟨by simp, by simpa using hcut⟩, ?_⟩, ?_⟩
  · rintro k ⟨hk, hcut'⟩
    have hsame := collect_of_cut hcut'
    rw [List.take_append_drop, hcollect] at hsame
    have hlength : front.length = ((front ++ back).take k).length := congrArg Prod.snd hsame
    rw [hlength, List.length_take, Nat.min_eq_left hk]
  · intro k hk hcut' program
    have hlength : ((front ++ back).take k).length = k := by
      rw [List.length_take, Nat.min_eq_left hk]
    have hwhole := split_of_cut hcut' program
    have hback := split_of_cut (.none hcut'.stops) program
    have hfront := split_of_cut hcut'.front program
    rw [List.take_append_drop, hlength] at hwhole
    rw [List.append_nil, hlength] at hfront
    exact ⟨hwhole, hback, hfront⟩

end DecBridge.CommandLine
