import DecBridge.Proofs.Session.Callbacks
import DecBridge.Proofs.Text.Utf8

/-!
# The two loaders

A script is loaded by the name of its file, or required by the name of its module,
which is that of the file without the extension. The two functions compose the name
in different places: the lookup itself, the line that is printed for a script that
was not found, and the error. `loaders_agree` says that they stay in step, unless the
name of the module is too long to be the name of a file: then requiring it fails
before a root or a file is looked at.

The error says which function threw it, and the engine has room for a part of the
message only. So two errors that were told the same reason may have lost different
ends of it (`loaders_cut_short`).
-/

namespace DecBridge

open DecBridge.Bundle (LocateError Locator ScriptRoot longestModuleName)

open Script (Str Value)

variable {η σ : Type}

/-! ## Names of modules -/

namespace Bundle

theorem moduleName_size (m : String) :
    Text.byteLength (m ++ moduleExtension).toList = m.utf8ByteSize + 3 := by
  rw [Text.byteLength_toList, String.utf8ByteSize_append]
  rfl

namespace Locator

variable (l : Locator) {m : String}

theorem require_eq_load (h : m.utf8ByteSize + 3 ≤ longestModuleName) :
    l.require m = l.load (m ++ moduleExtension) := by
  have hname : moduleFileName m = .ok (m ++ moduleExtension) := by
    unfold moduleFileName
    dsimp only
    rw [moduleName_size, if_neg (Nat.not_lt.mpr h)]
  unfold require
  rw [hname]

/-- A name that is too long is refused whatever the files and the root are. -/
theorem require_of_long (h : longestModuleName < m.utf8ByteSize + 3) :
    l.require m = .error
      (.nameTooLong (m ++ moduleExtension) (m.utf8ByteSize + 3) longestModuleName) := by
  have hname : moduleFileName m = .error
      (.nameTooLong (m ++ moduleExtension) (m.utf8ByteSize + 3) longestModuleName) := by
    unfold moduleFileName
    dsimp only
    rw [moduleName_size, if_pos h]
  unfold require
  rw [hname]

/-- Nothing is found beneath a root that is not there. -/
theorem load_of_no_root {root : ScriptRoot} (hroot : l.root = some root)
    {fault : Output.Fault} (h : l.files.openDir root.path = .error fault) (name : String) :
    l.load name = .error (.notFound name root.path) := by
  unfold load readUnder
  rw [hroot]
  dsimp only
  rw [h]

end Locator

end Bundle

/-! ## Calls of the loaders -/

namespace Session

section Calls

variable (d : Dispatcher) (roster : Host.Roster η σ (Dispatcher.Line η) Dispatcher.Verdict)
  (l : Locator) (ev : Script.Evaluator) (this : Value) (s : State Script.Heap η σ)

/-- Calling a loader with these arguments makes the host in charge print this line,
if there is one, and then throws a type error with this message. -/
def Misses (form : Lookup) (args : List Value) (line message : String) : Prop :=
  let p := d.port roster
  let call := Script.nativeRule ev form.native this args
  match s.world.link.slot with
  | none => Gives p l call s [] (.refused .type message)
  | some host => Meets p l call s [.print line]
      ((p host (.print line) s.world).1.map fun _ => .refused .type message)

variable {d roster l ev this s}

theorem misses_of_find (form : Lookup) {args : List Value} {str : Str} {name : String}
    {e : LocateError} (hargs : args.head? = some (.text str)) (hname : str.toText = .ok name)
    (hfind : form.find l name = .error e) :
    Misses d roster l ev this s form args (form.diagnostic name)
      (form.function ++ (": " ++ e.message)) := by
  rw [← String.append_assoc]
  unfold Misses
  cases hslot : s.world.link.slot with
  | none => exact lookup_detached hargs hname form hfind hslot
  | some host =>
      show Meets _ l _ s _ ((d.port roster host (.print _) s.world).1.map _)
      rw [← port_exit_of_log d roster host (.print _) s.world
        (form.failed l name e s.world).log]
      exact lookup_failed hargs hname form hfind hslot

end Calls

/-- The two ways to load a script agree.

If the name of the file is not too long, requiring a module is loading its file, and
calling either function gives the same text, or has the host print the same line and
throws a type error for the same reason, of which the engine may cut off an end. If
it is, requiring fails on any files and beneath any root or none, with the number of
bytes of the name, and the line is about the file all the same. -/
theorem loaders_agree (d : Dispatcher)
    (roster : Host.Roster η σ (Dispatcher.Line η) Dispatcher.Verdict) (l : Locator)
    (ev : Script.Evaluator) (this : Value) (s : State Script.Heap η σ) (m : String) :
    let p := d.port roster
    let name := m ++ ".js"
    let line := "Error: '" ++ name ++ "' not found.\n"
    let call := fun form args => Script.nativeRule ev (Lookup.native form) this args
    (m.utf8ByteSize + 3 ≤ 255 → l.require m = l.load name ∧
      ∀ args args' str str', args.head? = some (.text str) → str.toText = .ok m →
        args'.head? = some (.text str') → str'.toText = .ok name →
        (∃ text, Gives p l (call .module args) s [] (.text text) ∧
          Gives p l (call .file args') s [] (.text text)) ∨
        ∃ reason, Misses d roster l ev this s .module args line
            ("___internal_require" ++ reason) ∧
          Misses d roster l ev this s .file args' line ("___internal_load" ++ reason)) ∧
    (255 < m.utf8ByteSize + 3 →
      let e := LocateError.nameTooLong name name.utf8ByteSize 255
      (∀ l : Locator, l.require m = .error e) ∧
      ∀ args str, args.head? = some (.text str) → str.toText = .ok m →
        Misses d roster l ev this s .module args line
          ("___internal_require" ++ (": " ++ e.message))) := by
  intro p name line call
  have hsize : name.utf8ByteSize = m.utf8ByteSize + 3 :=
    (Text.byteLength_toList name).symm.trans (Bundle.moduleName_size m)
  refine ⟨fun h => ?_, fun h => ?_⟩
  · have hsame : l.require m = l.load name := l.require_eq_load h
    refine ⟨hsame, fun args args' str str' hargs hm hargs' hname => ?_⟩
    cases hload : l.load name with
    | ok text =>
        have hrequire : Lookup.module.find l m = .ok text := hsame.trans hload
        exact .inl ⟨text, lookup_found hargs hm .module hrequire,
          lookup_found hargs' hname .file hload⟩
    | error e =>
        have hrequire : Lookup.module.find l m = .error e := hsame.trans hload
        exact .inr ⟨": " ++ e.message, misses_of_find .module hargs hm hrequire,
          misses_of_find .file hargs' hname hload⟩
  · have hlong : ∀ l : Locator, l.require m =
        .error (.nameTooLong name name.utf8ByteSize 255) := by
      intro l
      rw [hsize]
      exact l.require_of_long h
    exact ⟨hlong, fun args str hargs hm => misses_of_find .module hargs hm (hlong l)⟩

/-- A name of so many letters. -/
def longName (n : Nat) : String := String.ofList (List.replicate n 'x')

theorem narrow_longName (n : Nat) : Script.Narrow (longName n) := by
  unfold longName
  intro c hc
  rw [String.toList_ofList] at hc
  obtain rfl := List.eq_of_mem_replicate hc
  decide

theorem loaders_agree_names :
    let d := roomyDispatcher
    let s : State Script.Heap Unit Unit := ⟨installed, Link.attachedWorld () idle⟩
    let l := Locator.flat [("a.js", "1")]
    let long := longName 253
    "a".utf8ByteSize + 3 ≤ 255 ∧ l.require "a" = l.load "a.js" ∧
      255 < long.utf8ByteSize + 3 ∧
      l.require long =
        .error (.nameTooLong (long ++ ".js") (long ++ ".js").utf8ByteSize 255) ∧
      Misses d attentive l Script.evaluator .undefined s .module [.ofString long]
        ("Error: '" ++ (long ++ ".js") ++ "' not found.\n")
        ("___internal_require" ++ (": " ++ (LocateError.nameTooLong (long ++ ".js")
          (long ++ ".js").utf8ByteSize 255).message)) := by
  intro d s l long
  have hshort : "a".utf8ByteSize + 3 ≤ 255 := by decide
  have hlong : 255 < long.utf8ByteSize + 3 := by decide +kernel
  have hagree := loaders_agree d attentive l Script.evaluator .undefined s
  have hrefused := (hagree long).2 hlong
  exact ⟨hshort, ((hagree "a").1 hshort).1, hlong, hrefused.1 l,
    hrefused.2 [.ofString long] _ rfl (Str.toText_ofString long)⟩

/-- Both errors of this name are cut to the same number of bytes, though one of the
functions has the longer name. -/
theorem loaders_cut_short :
    let s : State Script.Heap Unit Unit := ⟨installed, idle⟩
    let l : Locator := ⟨⟨[], []⟩, some ⟨"/nowhere", .configured⟩⟩
    let m := longName 218
    let reason := ": " ++ (LocateError.notFound (m ++ ".js") "/nowhere").message
    m.utf8ByteSize + 3 ≤ 255 ∧
      Gives attentivePort l (Script.nativeRule Script.evaluator .require .undefined [.ofString m])
        s [] (.refused .type ("___internal_require" ++ reason)) ∧
      Gives attentivePort l
        (Script.nativeRule Script.evaluator .load .undefined [.ofString (m ++ ".js")])
        s [] (.refused .type ("___internal_load" ++ reason)) ∧
      ¬∃ t, Script.buffered Script.Eval.messageRoom ("___internal_require" ++ reason) =
          "___internal_require" ++ t ∧
        Script.buffered Script.Eval.messageRoom ("___internal_load" ++ reason) =
          "___internal_load" ++ t := by
  intro s l m reason
  have hshort : m.utf8ByteSize + 3 ≤ 255 := by decide +kernel
  have hroot : l.files.openDir "/nowhere" = .error .notFound := by
    have hfind : l.files.find "/nowhere" = .error .notFound := by
      unfold Files.FileSystem.find
      rw [if_neg (by decide), if_neg (by decide), if_neg (by decide),
        show l.files.fromTop "/nowhere" = ["", "nowhere"] by decide +kernel,
        Files.walk_skip _ _ _ _ _ (.inl rfl),
        Files.walk_name _ _ _ _ _ ⟨by decide, by decide, by decide, by decide⟩]
      rfl
    unfold Files.FileSystem.openDir
    rw [hfind]
  have hload : l.load (m ++ ".js") = .error (.notFound (m ++ ".js") "/nowhere") :=
    l.load_of_no_root rfl hroot _
  refine ⟨hshort, ?_, ?_, ?_⟩
  · exact lookup_detached rfl (Str.toText_ofString m) .module
      ((l.require_eq_load hshort).trans hload) rfl
  · exact lookup_detached rfl (Str.toText_ofString _) .file hload rfl
  · rintro ⟨t, hrequire, hload⟩
    have hreason : Script.Narrow reason :=
      .append (s := ": ") (by decide) (.append (.append (.append (s := "'") (by decide)
        (.append (narrow_longName 218) (t := ".js") (by decide))) (by decide)) (by decide))
    have hlong : 239 ≤ reason.utf8ByteSize := by decide +kernel
    have hrequireName : "___internal_require".utf8ByteSize = 19 := rfl
    have hloadName : "___internal_load".utf8ByteSize = 16 := rfl
    clear_value reason
    -- what is left of either message fills the room
    have hfull := Script.Narrow.size_buffered
      (.append (s := "___internal_require") (by decide) hreason) 255
      (by rw [String.utf8ByteSize_append]; omega)
    have hfull' := Script.Narrow.size_buffered
      (.append (s := "___internal_load") (by decide) hreason) 255
      (by rw [String.utf8ByteSize_append]; omega)
    have hsize := (congrArg String.utf8ByteSize hrequire).symm.trans hfull
    have hsize' := (congrArg String.utf8ByteSize hload).symm.trans hfull'
    rw [String.utf8ByteSize_append] at hsize hsize'
    omega

end Session

end DecBridge
