import DecBridge.Bundle.Locator
import DecBridge.Proofs.Files.Walk
import DecBridge.Proofs.Text.Utf8

/-!
# Flat bundles

A bundle whose scripts lie next to each other in the root. A plain name, which
is a single component and no dots, is looked up among the entries there and
nothing else happens (`readBeneath_of_file`, `readBeneath_of_missing`), so
loading from a flat bundle is looking a name up in the list of its scripts.
-/

namespace DecBridge

open Text (Bytes encode)

namespace Files

/-- A name that is one component, leads nowhere else and is not too long. -/
def isPlain (name : String) : Bool :=
  !name.isEmpty && !name.toList.contains '\x00' && !isAbsolute name
    && components name == [name] && name != "." && name != ".."
    && Text.byteLength name.toList ≤ longestName

theorem findBeneath_of_plain {name : String} (h : isPlain name = true)
    (entries : Entries) :
    findBeneath entries name = walk true entries mostLinks [] [name] := by
  simp only [isPlain, Bool.and_eq_true, Bool.not_eq_true', beq_iff_eq,
    decide_eq_true_eq] at h
  obtain ⟨⟨⟨⟨⟨⟨hne, hnul⟩, habs⟩, hcomponents⟩, -⟩, -⟩, hlength⟩ := h
  have hlong : ¬ longestPath < Text.byteLength name.toList := by
    have : longestName ≤ longestPath := by decide
    omega
  unfold findBeneath
  rw [hne, hnul, habs, hcomponents]
  simp only [Bool.false_eq_true, if_false, if_neg hlong]

theorem walk_of_plain {name : String} (h : isPlain name = true) (entries : Entries)
    (links : Nat) :
    walk true entries links [] [name] =
      match entries.lookup name, links with
      | none, _ => .error .notFound
      | some (.dir inner), _ => walk true entries links [⟨name, inner⟩] []
      | some (.file content), _ => .ok (.file [name] content)
      | some (.link _), 0 => .error .tooManyLinks
      | some (.link target), left + 1 =>
          if isAbsolute target then .error .leftRoot
          else walk true entries left [] (components target) := by
  simp only [isPlain, Bool.and_eq_true, Bool.not_eq_true', bne_iff_ne,
    decide_eq_true_eq] at h
  obtain ⟨⟨⟨⟨⟨⟨hne, -⟩, -⟩, -⟩, hdot⟩, hdots⟩, hlength⟩ := h
  have hempty : name ≠ "" := by
    rintro rfl
    exact absurd hne (by decide)
  rw [walk_name _ _ _ _ _ ⟨hempty, hdot, hdots, hlength⟩]
  simp only [here_nil, List.append_nil]
  cases entries.lookup name with
  | none => rfl
  | some node =>
      cases node with
      | dir inner => rfl
      | file content => rfl
      | link target => cases links <;> rfl

theorem readBeneath_of_file {name : String} (h : isPlain name = true)
    {entries : Entries} {content : Bytes}
    (hfile : entries.lookup name = some (.file content)) :
    readBeneath entries name = .ok content := by
  unfold readBeneath
  rw [findBeneath_of_plain h, walk_of_plain h, hfile]

theorem readBeneath_of_missing {name : String} (h : isPlain name = true)
    {entries : Entries} (hfile : entries.lookup name = none) :
    readBeneath entries name = .error .notFound := by
  unfold readBeneath
  rw [findBeneath_of_plain h, walk_of_plain h, hfile]

/-- The top of a file system, by its path. -/
theorem openDir_top (files : FileSystem) : files.openDir "/" = .ok files.top := by
  have hpath : files.fromTop "/" = ["", ""] := by
    unfold FileSystem.fromTop
    rw [if_pos (by decide)]
    decide
  have hfind : files.find "/" = .ok (.dir [] files.top) := by
    unfold FileSystem.find
    rw [if_neg (by decide), if_neg (by decide), if_neg (by decide), hpath,
      walk, if_pos (by decide), walk, if_pos (by decide), walk]
    rfl
  unfold FileSystem.openDir
  rw [hfind]

end Files

namespace Bundle.Locator

/-! ## Scripts at the top of a file system -/

section Top

variable {l : Locator} {kind : RootSource} {name : String}

theorem load_top (hroot : l.root = some ⟨"/", kind⟩) (name : String) :
    l.load name =
      match Files.readBeneath l.files.top name with
      | .error _ => .error (.notFound name "/")
      | .ok [] => .error (.notFound name "/")
      | .ok bytes =>
          match Text.decode bytes with
          | .ok text => .ok text
          | .error _ => .error (.notText name "/") := by
  unfold load readUnder
  rw [hroot]
  dsimp only
  exact (Files.openDir_top l.files).symm ▸ rfl

theorem load_top_of_some (hroot : l.root = some ⟨"/", kind⟩) (hname : Files.isPlain name = true)
    {text : String} (h : l.files.top.lookup name = some (.file (encode text)))
    (htext : text ≠ "") : l.load name = .ok text := by
  have hbytes : encode text ≠ [] := mt Text.encode_eq_nil_iff.mp htext
  rw [load_top hroot, Files.readBeneath_of_file hname h]
  cases hcons : encode text with
  | nil => exact absurd hcons hbytes
  | cons b bs =>
      dsimp only
      rw [← hcons, Text.decode_encode]

theorem load_top_of_none (hroot : l.root = some ⟨"/", kind⟩) (hname : Files.isPlain name = true)
    (h : l.files.top.lookup name = none) : l.load name = .error (.notFound name "/") := by
  rw [load_top hroot, Files.readBeneath_of_missing hname h]

end Top

/-! ## Flat bundles -/

/-- Scripts by their names, in a root of their own. -/
def flat (scripts : List (String × String)) : Locator where
  files := ⟨scripts.map fun s => (s.1, .file (encode s.2)), []⟩
  root := some ⟨"/", .configured⟩

theorem lookup_flat (scripts : List (String × String)) (name : String) :
    (flat scripts).files.top.lookup name =
      (scripts.lookup name).map fun text => .file (encode text) := by
  show (scripts.map fun s => (s.1, Files.Node.file (encode s.2))).lookup name = _
  induction scripts with
  | nil => rfl
  | cons s scripts ih =>
      obtain ⟨n, text⟩ := s
      rw [List.map_cons, List.lookup_cons, List.lookup_cons, ih]
      cases name == n <;> rfl

theorem load_flat_of_some {scripts : List (String × String)} {name text : String}
    (hname : Files.isPlain name = true) (h : scripts.lookup name = some text)
    (htext : text ≠ "") : (flat scripts).load name = .ok text :=
  load_top_of_some rfl hname (by rw [lookup_flat, h]; rfl) htext

theorem load_flat_of_none {scripts : List (String × String)} {name : String}
    (hname : Files.isPlain name = true) (h : scripts.lookup name = none) :
    (flat scripts).load name = .error (.notFound name "/") :=
  load_top_of_none rfl hname (by rw [lookup_flat, h]; rfl)

end Bundle.Locator

end DecBridge
