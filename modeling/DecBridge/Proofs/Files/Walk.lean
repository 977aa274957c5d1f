import DecBridge.Files.Tree

/-!
# Walks through a file tree

A file tree is seen here through what is at each path (`kindAt`), and `Walks`
says by rules how a name leads to a file: component by component, into
directories, back to the directory above, and through links whose target is
relative. The positions of a walk are listed, so that one can ask whether it
ever left some directory.

`readBeneath_eq_ok_iff` is the main statement: reading beneath a directory finds
a content exactly if such a walk leads to it whose positions all lie beneath
that directory. What lies elsewhere in the tree does not occur in it.
-/

namespace DecBridge.Files

open Output (Fault)

open Text (Bytes)

/-! ## What is at a path -/

/-- What a directory may have an entry for. -/
inductive Kind where
  | file (content : Bytes)
  | dir
  | link (target : String)
  deriving DecidableEq

def Node.kind : Node → Kind
  | .file content => .file content
  | .dir _ => .dir
  | .link target => .link target

/-- What is at a path of names, seen from a directory; links are not followed. -/
def kindAt : Entries → List String → Option Kind
  | _, [] => some .dir
  | entries, name :: rest =>
    match entries.lookup name with
    | none => none
    | some (.dir inner) => kindAt inner rest
    | some (.file content) => if rest = [] then some (.file content) else none
    | some (.link target) => if rest = [] then some (.link target) else none

/-- The directory that the steps of a walk end in. -/
def here (top : Entries) (steps : List Step) : Entries :=
  match steps with
  | s :: _ => s.entries
  | [] => top

@[simp]
theorem here_nil (top : Entries) : here top [] = top := rfl

/-- Each step goes into a directory of the one before. -/
def Leads (top : Entries) : List Step → Prop
  | [] => True
  | s :: up => (here top up).lookup s.name = some (.dir s.entries) ∧ Leads top up

theorem namesOf_cons (s : Step) (up : List Step) :
    namesOf (s :: up) = namesOf up ++ [s.name] := by
  simp [namesOf]

/-- Beneath the directory that some steps end in is what is there in the tree. -/
theorem kindAt_namesOf {top : Entries} {steps : List Step} (h : Leads top steps)
    (path : List String) :
    kindAt top (namesOf steps ++ path) = kindAt (here top steps) path := by
  induction steps generalizing path with
  | nil => rfl
  | cons s up ih =>
      obtain ⟨hlookup, hup⟩ := h
      rw [namesOf_cons, List.append_assoc, ih hup, List.singleton_append, kindAt, hlookup]
      rfl

theorem kindAt_single (entries : Entries) (c : String) :
    kindAt entries [c] = (entries.lookup c).map Node.kind := by
  rw [kindAt]
  cases entries.lookup c with
  | none => rfl
  | some node => cases node <;> rfl

/-! ## The steps of a walk -/

/-- A component that is looked up: it is not empty, no dots, and not too long. -/
structure IsName (c : String) : Prop where
  ne_empty : c ≠ ""
  ne_dot : c ≠ "."
  ne_dots : c ≠ ".."
  short : Text.byteLength c.toList ≤ longestName

theorem IsName.of_tests {c : String} (hskip : ¬(c == "" || c == ".") = true)
    (hup : ¬(c == "..") = true) (hlong : ¬Text.byteLength c.toList > longestName) :
    IsName c where
  ne_empty := by simp_all
  ne_dot := by simp_all
  ne_dots := by simp_all
  short := Nat.not_lt.mp hlong

section Steps

variable (beneath : Bool) (top : Entries) (links : Nat) (steps : List Step)
  (rest : List String)

theorem walk_skip {c : String} (h : c = "" ∨ c = ".") :
    walk beneath top links steps (c :: rest) = walk beneath top links steps rest := by
  rw [walk.eq_def]
  dsimp only
  rw [if_pos (by rcases h with rfl | rfl <;> rfl)]

theorem walk_up (s : Step) :
    walk beneath top links (s :: steps) (".." :: rest) =
      walk beneath top links steps rest := by
  rw [walk.eq_def]
  dsimp only
  rw [if_neg (by decide), if_pos (by decide)]

theorem walk_name {c : String} (h : IsName c) :
    walk beneath top links steps (c :: rest) =
      match (here top steps).lookup c with
      | none => .error .notFound
      | some (.dir inner) => walk beneath top links (⟨c, inner⟩ :: steps) rest
      | some (.file content) =>
        if rest.isEmpty then .ok (.file (namesOf steps ++ [c]) content)
        else .error .notDirectory
      | some (.link target) =>
        match links with
        | 0 => .error .tooManyLinks
        | left + 1 =>
          if isAbsolute target then
            if beneath then .error .leftRoot
            else walk beneath top left [] (components target ++ rest)
          else walk beneath top left steps (components target ++ rest) := by
  rw [walk.eq_def]
  dsimp only
  rw [if_neg (by simp [h.ne_empty, h.ne_dot]), if_neg (by simp [h.ne_dots]),
    if_neg (Nat.not_lt.mpr h.short)]
  cases steps <;> rfl

end Steps

/-! ## Walks -/

/-- How components lead from a position to a file, given what is at each path:
the positions on the way, the number of links that were followed, the place of
the file and its content. -/
inductive Walks (kind : List String → Option Kind) :
    List String → List String → List (List String) → Nat → List String → Bytes → Prop where
  | skip {pos rest visited n place content} (c : String) (hc : c = "" ∨ c = ".")
      (next : Walks kind pos rest visited n place content) :
      Walks kind pos (c :: rest) (pos :: visited) n place content
  | up {pos rest visited n place content} (c : String)
      (next : Walks kind pos rest visited n place content) :
      Walks kind (pos ++ [c]) (".." :: rest) ((pos ++ [c]) :: visited) n place content
  | down {pos rest visited n place content} (c : String) (hc : IsName c)
      (hdir : kind (pos ++ [c]) = some .dir)
      (next : Walks kind (pos ++ [c]) rest visited n place content) :
      Walks kind pos (c :: rest) (pos :: visited) n place content
  | follow {pos rest visited n place content} (c : String) (hc : IsName c)
      (target : String) (hlink : kind (pos ++ [c]) = some (.link target))
      (relative : isAbsolute target = false)
      (next : Walks kind pos (components target ++ rest) visited n place content) :
      Walks kind pos (c :: rest) (pos :: visited) (n + 1) place content
  | arrive {pos content} (c : String) (hc : IsName c)
      (hfile : kind (pos ++ [c]) = some (.file content)) :
      Walks kind pos [c] [pos] 0 (pos ++ [c]) content

theorem Walks.mem_visited {kind : List String → Option Kind} {pos comps place : List String}
    {visited : List (List String)} {n : Nat} {content : Bytes}
    (h : Walks kind pos comps visited n place content) : pos ∈ visited := by
  cases h <;> exact List.mem_cons_self

/-- Positions that all lie in a directory or beneath it. -/
def Stays (root : List String) (visited : List (List String)) : Prop :=
  ∀ pos ∈ visited, root <+: pos

theorem stays_cons {root pos : List String} {visited : List (List String)} :
    Stays root (pos :: visited) ↔ root <+: pos ∧ Stays root visited :=
  List.forall_mem_cons

/-- A name that is looked up at all beneath a directory. -/
structure Admitted (name : String) : Prop where
  ne_empty : name ≠ ""
  no_nul : '\x00' ∉ name.toList
  relative : isAbsolute name = false
  short : Text.byteLength name.toList ≤ longestPath

/-- A name leads to a file with this content, beneath a directory and without
leaving it on the way. -/
def Reaches (kind : List String → Option Kind) (root : List String) (name : String)
    (content : Bytes) : Prop :=
  Admitted name ∧ ∃ visited n path, n ≤ mostLinks ∧ Stays root visited ∧
    Walks kind root (components name) visited n (root ++ path) content

section Beneath

variable {kind : List String → Option Kind} {root : List String} {entries : Entries}
  (hkind : ∀ path, kind (root ++ path) = kindAt entries path)
include hkind

theorem kind_here {steps : List Step} (h : Leads entries steps) (c : String) :
    kind (root ++ namesOf steps ++ [c]) =
      ((here entries steps).lookup c).map Node.kind := by
  rw [List.append_assoc, hkind, kindAt_namesOf h, kindAt_single]

/-- What the walk beneath a directory finds is reached by a walk that stays
there. -/
theorem walks_of_walk {links : Nat} {steps : List Step} {comps place : List String}
    {content : Bytes} (hsteps : Leads entries steps)
    (h : walk true entries links steps comps = .ok (.file place content)) :
    ∃ visited n, n ≤ links ∧ Stays root visited ∧
      Walks kind (root ++ namesOf steps) comps visited n (root ++ place) content := by
  have hhere : ∀ steps : List Step, root <+: root ++ namesOf steps :=
    fun _ => List.prefix_append _ _
  fun_induction walk true entries links steps comps with
  | case1 => cases h
  | case2 links steps c rest hc ih =>
      obtain ⟨visited, n, hn, hstays, hwalk⟩ := ih hsteps h
      exact ⟨_, n, hn, stays_cons.mpr ⟨hhere steps, hstays⟩, .skip c (by simpa using hc) hwalk⟩
  | case3 links c rest hc hdots s up ih =>
      obtain rfl : c = ".." := by simpa using hdots
      obtain ⟨visited, n, hn, hstays, hwalk⟩ := ih hsteps.2 h
      refine ⟨_, n, hn, stays_cons.mpr ⟨hhere (s :: up), hstays⟩, ?_⟩
      rw [namesOf_cons, ← List.append_assoc]
      exact .up s.name hwalk
  | case4 => cases h
  | case5 => contradiction
  | case6 => cases h
  | case7 => cases h
  | case8 links steps c rest hc hdots hlong top inner hlookup ih =>
      have hdir := kind_here hkind hsteps c
      rw [show (here entries steps).lookup c = _ from hlookup] at hdir
      obtain ⟨visited, n, hn, hstays, hwalk⟩ := ih ⟨hlookup, hsteps⟩ h
      rw [namesOf_cons, ← List.append_assoc] at hwalk
      exact ⟨_, n, hn, stays_cons.mpr ⟨hhere steps, hstays⟩,
        .down c (.of_tests hc hdots hlong) hdir hwalk⟩
  | case9 links steps c rest hc hdots hlong top bytes hlookup hrest =>
      have hfile := kind_here hkind hsteps c
      rw [show (here entries steps).lookup c = _ from hlookup] at hfile
      obtain rfl := List.isEmpty_iff.mp hrest
      cases h
      refine ⟨[root ++ namesOf steps], 0, Nat.zero_le _, by simp [Stays], ?_⟩
      rw [← List.append_assoc]
      exact .arrive c (.of_tests hc hdots hlong) hfile
  | case10 => cases h
  | case11 => cases h
  | case12 => cases h
  | case13 => contradiction
  | case14 steps c rest hc hdots hlong top target hlookup left hrelative ih =>
      have hlink := kind_here hkind hsteps c
      rw [show (here entries steps).lookup c = _ from hlookup] at hlink
      obtain ⟨visited, n, hn, hstays, hwalk⟩ := ih hsteps h
      exact ⟨_, n + 1, Nat.succ_le_succ hn, stays_cons.mpr ⟨hhere steps, hstays⟩,
        .follow c (.of_tests hc hdots hlong) target hlink (by simpa using hrelative) hwalk⟩

/-- A walk that stays beneath a directory is found there. -/
theorem walk_of_walks {pos comps place : List String} {visited : List (List String)}
    {n : Nat} {content : Bytes} (h : Walks kind pos comps visited n place content)
    (hstays : Stays root visited) {links : Nat} (hn : n ≤ links) {steps : List Step}
    (hsteps : Leads entries steps) (hpos : pos = root ++ namesOf steps) :
    ∃ path, place = root ++ path ∧
      walk true entries links steps comps = .ok (.file path content) := by
  induction h generalizing links steps with
  | skip c hc next ih =>
      rw [walk_skip _ _ _ _ _ hc]
      exact ih (stays_cons.mp hstays).2 hn hsteps hpos
  | @up pos _ visited _ _ _ c next ih =>
      have hnext := (stays_cons.mp hstays).2
      have hprefix : root <+: pos := hnext pos next.mem_visited
      cases steps with
      | nil =>
          -- the step would leave the directory, but the next position lies in it
          have hlength := hprefix.length_le
          have := congrArg List.length hpos
          simp [namesOf] at this
          omega
      | cons s up =>
          rw [namesOf_cons, ← List.append_assoc] at hpos
          rw [walk_up]
          exact ih hnext hn hsteps.2 (List.append_inj_left' hpos rfl)
  | down c hc hdir next ih =>
      subst hpos
      rw [kind_here hkind hsteps, Option.map_eq_some_iff] at hdir
      obtain ⟨node, hlookup, hnode⟩ := hdir
      cases node with
      | dir inner =>
          rw [walk_name _ _ _ _ _ hc, hlookup]
          refine ih (stays_cons.mp hstays).2 hn ⟨hlookup, hsteps⟩ ?_
          rw [namesOf_cons, List.append_assoc]
      | file bytes => cases hnode
      | link target => cases hnode
  | follow c hc target hlink relative next ih =>
      subst hpos
      rw [kind_here hkind hsteps, Option.map_eq_some_iff] at hlink
      obtain ⟨node, hlookup, hnode⟩ := hlink
      cases node with
      | link t =>
          cases hnode
          obtain ⟨left, rfl⟩ := Nat.exists_eq_succ_of_ne_zero (by omega : links ≠ 0)
          rw [walk_name _ _ _ _ _ hc, hlookup]
          simp only [relative, Bool.false_eq_true, if_false]
          exact ih (stays_cons.mp hstays).2 (by omega) hsteps rfl
      | dir inner => cases hnode
      | file bytes => cases hnode
  | arrive c hc hfile =>
      subst hpos
      rw [kind_here hkind hsteps, Option.map_eq_some_iff] at hfile
      obtain ⟨node, hlookup, hnode⟩ := hfile
      cases node with
      | file bytes =>
          cases hnode
          rw [walk_name _ _ _ _ _ hc, hlookup]
          exact ⟨namesOf steps ++ [c], List.append_assoc _ _ _, rfl⟩
      | dir inner => cases hnode
      | link target => cases hnode

/-- Reading beneath a directory finds exactly what a walk reaches that never
leaves it. -/
theorem readBeneath_eq_ok_iff {name : String} {content : Bytes} :
    readBeneath entries name = .ok content ↔ Reaches kind root name content := by
  have htop : Leads entries [] := trivial
  have hstart : root = root ++ namesOf [] := (List.append_nil root).symm
  constructor
  · intro h
    unfold readBeneath findBeneath at h
    split at h
    · cases h
    · cases h
    · next path bytes hfound =>
      cases h
      split at hfound
      · cases hfound
      split at hfound
      · cases hfound
      split at hfound
      · cases hfound
      split at hfound
      · cases hfound
      next hempty hnul habsolute hlong =>
      obtain ⟨visited, n, hn, hstays, hwalk⟩ := walks_of_walk hkind htop hfound
      rw [← hstart] at hwalk
      exact ⟨⟨by simpa using hempty, by simpa using hnul, by simpa using habsolute,
        Nat.not_lt.mp hlong⟩, visited, n, path, hn, hstays, hwalk⟩
  · rintro ⟨hname, visited, n, path, hn, hstays, hwalk⟩
    obtain ⟨_, -, hfound⟩ := walk_of_walks hkind hwalk hstays hn htop hstart
    unfold readBeneath findBeneath
    rw [if_neg (by simpa using hname.ne_empty), if_neg (by simpa using hname.no_nul),
      if_neg (by simp [hname.relative]), if_neg (Nat.not_lt.mpr hname.short), hfound]

end Beneath

/-! ## The directory that a path opens -/

/-- A walk that ends in a directory went there through directories. -/
theorem leads_of_walk {beneath : Bool} {top : Entries} {links : Nat} {steps : List Step}
    {comps : List String} {path : List String} {entries : Entries}
    (hsteps : Leads top steps)
    (h : walk beneath top links steps comps = .ok (.dir path entries)) :
    ∃ steps', Leads top steps' ∧ path = namesOf steps' ∧ entries = here top steps' := by
  fun_induction walk beneath top links steps comps with
  | case1 links steps =>
      cases h
      exact ⟨steps, hsteps, rfl, rfl⟩
  | case2 _ _ _ _ _ ih => exact ih hsteps h
  | case3 _ _ _ _ _ _ _ ih => exact ih hsteps.2 h
  | case4 => cases h
  | case5 _ _ _ _ _ _ ih => exact ih trivial h
  | case6 => cases h
  | case7 => cases h
  | case8 _ _ _ _ _ _ _ _ _ hlookup ih => exact ih ⟨hlookup, hsteps⟩ h
  | case9 => cases h
  | case10 => cases h
  | case11 => cases h
  | case12 => cases h
  | case13 _ _ _ _ _ _ _ _ _ _ _ _ ih => exact ih trivial h
  | case14 _ _ _ _ _ _ _ _ _ _ _ ih => exact ih hsteps h

/-- A path that can be looked up leads where its components do. -/
theorem FileSystem.find_eq_walk (fs : FileSystem) {path : String}
    (h : (path.isEmpty || path.toList.contains '\x00' ||
      decide (longestPath < Text.byteLength path.toList)) = false) :
    fs.find path = walk false fs.top mostLinks [] (fs.fromTop path) := by
  simp only [Bool.or_eq_false_iff, decide_eq_false_iff_not] at h
  unfold FileSystem.find
  rw [h.1.1, h.1.2, if_neg h.2]
  rfl

/-- The entries of an opened directory are what the tree has beneath its path. -/
theorem FileSystem.kindAt_of_find {fs : FileSystem} {path : String} {root : List String}
    {entries : Entries} (h : fs.find path = .ok (.dir root entries)) (rest : List String) :
    kindAt fs.top (root ++ rest) = kindAt entries rest := by
  unfold FileSystem.find at h
  split at h
  · cases h
  split at h
  · cases h
  split at h
  · cases h
  have htop : Leads fs.top [] := trivial
  obtain ⟨steps, hsteps, rfl, rfl⟩ := leads_of_walk htop h
  exact kindAt_namesOf hsteps rest

end DecBridge.Files
