import DecBridge.Dispatch
import DecBridge.Proofs.Bundle.Flat
import DecBridge.Proofs.Files.Walk
import DecBridge.Proofs.Text.Utf8

/-!
# Lookups stay beneath the root

What a lookup yields depends on what lies beneath the chosen root and on nothing
else: two file systems whose roots have the same things at the same paths give
the same answers, whatever else they hold and wherever the roots are
(`lookups_confined`). A text that is found is that of a file which a walk
reaches without leaving the root (`Reads`), and a name that no such walk
resolves is not found: no other root is tried.
-/

namespace DecBridge.Bundle

open Files (FileSystem Entries kindAt Reaches)

open Text (Bytes encode)

/-- A name leads to a file with this content beneath the directory that a path
opens. -/
def Reads (fs : FileSystem) (path name : String) (content : Bytes) : Prop :=
  ∃ root entries, fs.find path = .ok (.dir root entries) ∧
    Reaches (kindAt fs.top) root name content

namespace Locator

theorem readUnder_eq_ok_iff {fs : FileSystem} {path name : String} {content : Bytes} :
    readUnder fs path name = .ok content ↔ Reads fs path name content := by
  unfold readUnder FileSystem.openDir Reads
  cases hfind : fs.find path with
  | error e => simp
  | ok found =>
      cases found with
      | file place bytes => simp
      | dir root entries =>
          have hkind := FileSystem.kindAt_of_find hfind
          constructor
          · intro h
            exact ⟨root, entries, rfl, (Files.readBeneath_eq_ok_iff hkind).mp h⟩
          · rintro ⟨_, _, h, hreaches⟩
            cases h
            exact (Files.readBeneath_eq_ok_iff hkind).mpr hreaches

/-- What loading makes of the bytes of a file, if there are any. -/
def textOf (root name : String) : Option Bytes → Except LocateError String
  | none | some [] => .error (.notFound name root)
  | some (b :: bs) =>
    match Text.decode (b :: bs) with
    | .ok text => .ok text
    | .error _ => .error (.notText name root)

theorem load_eq_textOf {l : Locator} {root : ScriptRoot} (h : l.root = some root)
    (name : String) :
    l.load name = textOf root.path name (readUnder l.files root.path name).toOption := by
  unfold load
  rw [h]
  dsimp only
  cases readUnder l.files root.path name with
  | error e => rfl
  | ok bytes => cases bytes <;> rfl

theorem textOf_eq_ok_iff {root name text : String} {bytes : Option Bytes} :
    textOf root name bytes = .ok text ↔ text ≠ "" ∧ bytes = some (encode text) := by
  constructor
  · intro h
    unfold textOf at h
    split at h
    · cases h
    · cases h
    · next b bs =>
      split at h
      · next t hdecode =>
        cases h
        have hbytes := Text.decode_eq_ok_iff.mp hdecode
        refine ⟨mt Text.encode_eq_nil_iff.mpr ?_, congrArg some hbytes⟩
        simp [← hbytes]
      · cases h
  · rintro ⟨htext, rfl⟩
    cases hbytes : encode text with
    | nil => exact absurd (Text.encode_eq_nil_iff.mp hbytes) htext
    | cons b bs =>
        unfold textOf
        dsimp only
        rw [← hbytes, Text.decode_encode]

theorem load_eq_ok_iff {l : Locator} {root : ScriptRoot} (h : l.root = some root)
    {name text : String} :
    l.load name = .ok text ↔ text ≠ "" ∧ Reads l.files root.path name (encode text) := by
  rw [load_eq_textOf h, textOf_eq_ok_iff, ← readUnder_eq_ok_iff]
  cases readUnder l.files root.path name <;> simp [Except.toOption]

theorem load_of_not_reads {l : Locator} {root : ScriptRoot} (h : l.root = some root)
    {name : String} (hname : ∀ content, ¬Reads l.files root.path name content) :
    l.load name = .error (.notFound name root.path) := by
  rw [load_eq_textOf h]
  cases hread : readUnder l.files root.path name with
  | error e => rfl
  | ok content => exact absurd (readUnder_eq_ok_iff.mp hread) (hname content)

theorem require_eq_ok_iff {l : Locator} {root : ScriptRoot} (h : l.root = some root)
    {module text : String} :
    l.require module = .ok text ↔
      Text.byteLength (module ++ moduleExtension).toList ≤ longestModuleName ∧ text ≠ "" ∧
        Reads l.files root.path (module ++ moduleExtension) (encode text) := by
  unfold require moduleFileName
  dsimp only
  by_cases hlong : Text.byteLength (module ++ moduleExtension).toList > longestModuleName
  · rw [if_pos hlong]
    simp only [reduceCtorEq, false_iff]
    rintro ⟨hshort, -⟩
    exact Nat.not_lt.mpr hshort hlong
  · rw [if_neg hlong]
    simp only [load_eq_ok_iff h, Nat.not_lt.mp hlong, true_and]

end Locator

/-! ## Two file systems -/

/-- A path opens directories in two file systems that have the same files,
directories and links beneath them. -/
def SameTree (fs fs' : FileSystem) (path : String) : Prop :=
  ∃ entries entries', fs.openDir path = .ok entries ∧ fs'.openDir path = .ok entries' ∧
    ∀ place, kindAt entries place = kindAt entries' place

theorem SameTree.readUnder {fs fs' : FileSystem} {path : String} (h : SameTree fs fs' path)
    (name : String) :
    (Locator.readUnder fs path name).toOption = (Locator.readUnder fs' path name).toOption := by
  obtain ⟨entries, entries', hopen, hopen', hsame⟩ := h
  unfold Locator.readUnder
  rw [hopen, hopen']
  dsimp only
  -- both readings are characterised by the walks of one tree
  have hread : ∀ content, Files.readBeneath entries name = .ok content ↔
      Files.readBeneath entries' name = .ok content := by
    intro content
    rw [@Files.readBeneath_eq_ok_iff (kindAt entries) [] entries (fun _ => rfl),
      @Files.readBeneath_eq_ok_iff (kindAt entries) [] entries' hsame]
  cases hleft : Files.readBeneath entries name with
  | ok content => rw [(hread content).mp hleft]
  | error e =>
      cases hright : Files.readBeneath entries' name with
      | ok content => cases hleft.symm.trans ((hread content).mpr hright)
      | error e' => rfl

theorem Locator.load_of_sameTree {l l' : Locator} {root : ScriptRoot}
    (hroot : l.root = some root) (hroot' : l'.root = some root)
    (h : SameTree l.files l'.files root.path) : l.load = l'.load := by
  funext name
  rw [load_eq_textOf hroot, load_eq_textOf hroot', h.readUnder]

/-- Lookups are confined to the chosen root. What is found is what a walk
reaches that never leaves the root, what no such walk reaches is not found, and
everything outside the root is without influence. -/
theorem lookups_confined (policy : RootPolicy) (env : Environment) (fs : FileSystem)
    {root : ScriptRoot} (hroot : (policy.locator ⟨fs, env⟩).root = some root)
    (name : String) :
    (∀ text, (policy.locator ⟨fs, env⟩).load name = .ok text ↔
      text ≠ "" ∧ Reads fs root.path name (encode text)) ∧
    (∀ text, (policy.locator ⟨fs, env⟩).require name = .ok text ↔
      Text.byteLength (name ++ moduleExtension).toList ≤ longestModuleName ∧ text ≠ "" ∧
        Reads fs root.path (name ++ moduleExtension) (encode text)) ∧
    ((∀ content, ¬Reads fs root.path name content) →
      (policy.locator ⟨fs, env⟩).load name = .error (.notFound name root.path)) ∧
    (∀ fs', SameTree fs fs' root.path →
      (policy.locator ⟨fs', env⟩).load name = (policy.locator ⟨fs, env⟩).load name ∧
      (policy.locator ⟨fs', env⟩).require name = (policy.locator ⟨fs, env⟩).require name) := by
  have hfiles : ∀ fs, (policy.locator ⟨fs, env⟩).files = fs := by
    intro fs
    cases policy <;> rfl
  have hchosen : ∀ fs', (policy.locator ⟨fs', env⟩).root = some root := by
    intro fs'
    cases policy <;> exact hroot
  refine ⟨fun text => ?_, fun text => ?_, fun hname => ?_, fun fs' hsame => ?_⟩
  · rw [Locator.load_eq_ok_iff hroot, hfiles]
  · rw [Locator.require_eq_ok_iff hroot, hfiles]
  · exact Locator.load_of_not_reads hroot (by rwa [hfiles])
  · have hload : (policy.locator ⟨fs', env⟩).load = (policy.locator ⟨fs, env⟩).load :=
      (Locator.load_of_sameTree hroot (hchosen fs') (by rwa [hfiles, hfiles])).symm
    refine ⟨congrFun hload name, ?_⟩
    unfold Locator.require
    rw [hload]

/-- A root with a link that stays in it and one that leaves it, and another
place that has a script the root lacks. -/
def besideOther : FileSystem where
  top := [("a", .dir [("in", .link "sub/../x.js"), ("out", .link "../b/y.js"),
      ("sub", .dir []), ("x.js", .file (encode "1;"))]),
    ("b", .dir [("y.js", .file (encode "2;"))])]
  workingDir := []

/-- The same root elsewhere, in another order, behind a link and without the
other place. -/
def behindLink : FileSystem where
  top := [("c", .dir [("sub", .dir []), ("x.js", .file (encode "1;")),
      ("out", .link "../b/y.js"), ("in", .link "sub/../x.js")]),
    ("a", .link "/c")]
  workingDir := []

theorem find_besideOther : besideOther.find "/a" =
    .ok (.dir ["a"] [("in", .link "sub/../x.js"), ("out", .link "../b/y.js"),
      ("sub", .dir []), ("x.js", .file (encode "1;"))]) := by
  have hname : Files.IsName "a" := ⟨by decide, by decide, by decide, by decide⟩
  have hpath : besideOther.fromTop "/a" = ["", "a"] := by decide
  rw [FileSystem.find_eq_walk _ (by decide), hpath,
    Files.walk_skip _ _ _ _ _ (.inl rfl), Files.walk_name _ _ _ _ _ hname]
  simp [besideOther, Files.walk, Files.namesOf]

theorem find_behindLink : behindLink.find "/a" =
    .ok (.dir ["c"] [("sub", .dir []), ("x.js", .file (encode "1;")),
      ("out", .link "../b/y.js"), ("in", .link "sub/../x.js")]) := by
  have hname : Files.IsName "a" := ⟨by decide, by decide, by decide, by decide⟩
  have htarget : Files.IsName "c" := ⟨by decide, by decide, by decide, by decide⟩
  have hpath : behindLink.fromTop "/a" = ["", "a"] := by decide
  have hcomponents : Files.components "/c" = ["", "c"] := by decide
  have hlink : behindLink.top.lookup "a" = some (.link "/c") := rfl
  rw [FileSystem.find_eq_walk _ (by decide), hpath,
    Files.walk_skip _ _ _ _ _ (.inl rfl), Files.walk_name _ _ _ _ _ hname,
    Files.here_nil, hlink]
  dsimp only [Files.mostLinks]
  rw [if_pos (by decide), if_neg (by decide), hcomponents, List.append_nil,
    Files.walk_skip _ _ _ _ _ (.inl rfl), Files.walk_name _ _ _ _ _ htarget]
  simp [behindLink, Files.walk, Files.namesOf]

theorem sameTree_behindLink : SameTree besideOther behindLink "/a" := by
  unfold SameTree FileSystem.openDir
  rw [find_besideOther, find_behindLink]
  refine ⟨_, _, rfl, rfl, fun place => ?_⟩
  cases place with
  | nil => rfl
  | cons name rest =>
      unfold kindAt
      simp only [List.lookup_cons]
      by_cases hin : name = "in"
      · subst hin; rfl
      by_cases hout : name = "out"
      · subst hout; rfl
      by_cases hsub : name = "sub"
      · subst hsub; rfl
      by_cases hfile : name = "x.js"
      · subst hfile; rfl
      simp only [beq_eq_false_iff_ne.mpr hin, beq_eq_false_iff_ne.mpr hout,
        beq_eq_false_iff_ne.mpr hsub, beq_eq_false_iff_ne.mpr hfile]

/-- The link is followed from the root, into a directory and out of it again. -/
theorem reads_besideOther : Reads besideOther "/a" "in" (encode "1;") := by
  have hname : ∀ c ∈ ["in", "sub", "x.js"], Files.IsName c := by
    intro c hc
    simp only [List.mem_cons, List.not_mem_nil, or_false] at hc
    rcases hc with rfl | rfl | rfl <;> exact ⟨by decide, by decide, by decide, by decide⟩
  have htarget : Files.components "sub/../x.js" = ["sub", "..", "x.js"] := by decide
  refine ⟨["a"], _, find_besideOther, ⟨by decide, by decide, by decide, by decide⟩,
    [["a"], ["a"], ["a", "sub"], ["a"]], 1, ["x.js"], by decide, by simp [Files.Stays], ?_⟩
  rw [show Files.components "in" = ["in"] by decide]
  refine .follow "in" (hname _ (by simp)) "sub/../x.js" rfl (by decide) ?_
  rw [htarget]
  refine .down "sub" (hname _ (by simp)) rfl (.up "sub" ?_)
  exact .arrive "x.js" (hname _ (by simp)) rfl

theorem not_reads_besideOther (content : Bytes) :
    ¬Reads besideOther "/a" "y.js" content := by
  rw [← Locator.readUnder_eq_ok_iff]
  unfold Locator.readUnder FileSystem.openDir
  rw [find_besideOther]
  dsimp only
  rw [Files.readBeneath_of_missing (by decide) rfl]
  simp

/-- The environment names the root; the configured one has the script that is
not found. -/
theorem lookups_confined_behindLink :
    let policy := RootPolicy.environment (some "/b")
    let env : Environment := ⟨some (encode "/a"), some (encode "/home")⟩
    (policy.locator ⟨besideOther, env⟩).root = some ⟨"/a", .environment⟩ ∧
    SameTree besideOther behindLink "/a" ∧
    (policy.locator ⟨behindLink, env⟩).load "in" = .ok "1;" ∧
    (policy.locator ⟨behindLink, env⟩).load "y.js" = .error (.notFound "y.js" "/a") := by
  intro policy env
  have hroot : (policy.locator ⟨besideOther, env⟩).root = some ⟨"/a", .environment⟩ := by
    have hne : (encode "/a").isEmpty = false := by
      rw [List.isEmpty_eq_false_iff]
      exact mt Text.encode_eq_nil_iff.mp (by decide)
    simp [policy, env, RootPolicy.locator, Environment.resolve, resolve, override?, hne]
  obtain ⟨hload, -, -, hsame⟩ := lookups_confined policy env besideOther hroot "in"
  obtain ⟨-, -, hmissing, hsame'⟩ := lookups_confined policy env besideOther hroot "y.js"
  refine ⟨hroot, sameTree_behindLink, ?_, ?_⟩
  · rw [(hsame behindLink sameTree_behindLink).1]
    exact (hload "1;").mpr ⟨by decide, reads_besideOther⟩
  · rw [(hsame' behindLink sameTree_behindLink).1]
    exact hmissing not_reads_besideOther

end DecBridge.Bundle
