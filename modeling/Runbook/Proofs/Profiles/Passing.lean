import Runbook.Proofs.Profiles.Describing
import Runbook.Proofs.Profiles.Listing

/-! # Passing over broken profiles

A file that cannot be read, that holds no document, or whose document has no name or no executable
for a profile, is passed over with a record of what is wrong with it, and the other profiles are
listed without it. A document of the wrong shape is not passed over: a value that is no mapping, or
arguments or variables that cannot be gone through, end the whole listing in a fault.
-/

namespace Runbook

/-- A fault that is about a document or about a value in it. The others come from words, numbers
and moments that are claimed by a tag and do not look like ones. -/
def Document.Fault.IsOrdinary : Document.Fault → Prop
  | .at _ _ _ | .impossible _ => True
  | .unknownWord _ | .emptyNumber | .decimalTooLarge | .codeTooLarge | .shapelessMoment => False

namespace Profiles

open Files (FileSystem)
open Profile (Describes Incomplete Misfit)

/-! ## Files -/

/-- The record of a file that is passed over. -/
def complaint (file : String) (fault : Fault) : Log.Record :=
  ⟨.error, s!"Failed to read environment {file}: {fault.message}"⟩

/-- A path leads to a file that holds a text. -/
def HoldsText (files : FileSystem) (file text : String) : Prop :=
  files.leadsToFile file = .ok true ∧ files.readText file = .ok text

/-- A file comes to a profile or to none, and leaves records. -/
inductive Passes (reader : Document.Reader) (files : FileSystem) (file : String) :
    Option Profile → List Log.Record → Prop
  | absent (absent : files.leadsToFile file = .ok false) : Passes reader files file none []
  | described {text : String} {fields : Document.Fields} {profile : Profile}
      (holds : HoldsText files file text) (read : reader text = .ok (.mapping fields))
      (describes : Describes fields profile) : Passes reader files file (some profile) []
  | unreadable {fault : Fault} (found : files.leadsToFile file = .ok true)
      (unread : files.readText file = .error fault) :
      Passes reader files file none [complaint file fault]
  | undocumented {text : String} {fault : Document.Fault} (holds : HoldsText files file text)
      (unread : reader text = .error fault) (ordinary : fault.IsOrdinary) :
      Passes reader files file none [complaint file (.document fault)]
  | incomplete {text : String} {value : Document.Value} (holds : HoldsText files file text)
      (read : reader text = .ok value) (incomplete : Incomplete value) :
      Passes reader files file none [complaint file Profile.incompleteness]

/-- A file ends whatever is done with it in a fault. -/
inductive Upsets (reader : Document.Reader) (files : FileSystem) (file : String) :
    Fault → Prop
  | lost {fault : Fault} (lost : files.leadsToFile file = .error fault) :
      Upsets reader files file fault
  | undocumented {text : String} {fault : Document.Fault} (holds : HoldsText files file text)
      (unread : reader text = .error fault) (strange : ¬fault.IsOrdinary) :
      Upsets reader files file (.document fault)
  | misfit {text : String} {value : Document.Value} {fault : Fault}
      (holds : HoldsText files file text) (read : reader text = .ok value)
      (misfit : Misfit value fault) : Upsets reader files file fault

section File

variable {reader : Document.Reader} {files : FileSystem} {file path text : String} {fault : Fault}

theorem isPassedOver_document_iff {fault : Document.Fault} :
    isPassedOver (.document fault) = true ↔ fault.IsOrdinary := by
  cases fault <;> simp [isPassedOver, Fault.isSystem, Fault.isValue, Fault.isDocument, Fault.kind,
    Fault.kindOfDocument, Document.Fault.IsOrdinary]

theorem isPassedOver_of_readText (unread : files.readText file = .error fault) :
    isPassedOver fault = true := by
  rcases Results.bind_eq_error_iff.mp unread with failed | ⟨content, -, undecoded⟩
  · rcases Results.mapError_eq_error_iff.mp failed with ⟨error, -, rfl⟩
    cases error with
    | «at» problem path => cases problem <;> rfl
    | linkedDirectory | nullCharacter => rfl
  · rcases Results.mapError_eq_error_iff.mp undecoded with ⟨invalid, -, rfl⟩
    rfl

theorem isPassedOver_of_misfit {value : Document.Value} (misfit : Misfit value fault) :
    isPassedOver fault = false := by
  cases misfit <;> rfl

theorem isTrue_of_isComplete {fields : Document.Fields} (complete : Profile.IsComplete fields) :
    (Document.Value.mapping fields).isTrue = true := by
  cases fields with
  | nil => cases complete.1
  | cons key value tail => rfl

theorem isTrue_of_misfit {value : Document.Value} (misfit : Misfit value fault) :
    value.isTrue = true := by
  cases misfit with
  | value filled => exact filled
  | arguments complete | bindings complete => exact isTrue_of_isComplete complete

theorem ofText_of_read {value : Document.Value} (read : reader text = .ok value) :
    ofText reader text = Profile.ofValue (if value.isTrue then value else .mapping .nil) := by
  rw [ofText, read]
  rfl

theorem ofText_of_incomplete {value : Document.Value} (read : reader text = .ok value)
    (incomplete : Incomplete value) : ofText reader text = .error Profile.incompleteness := by
  have nothing : ¬Profile.IsComplete .nil := fun complete => by cases complete.1
  rw [ofText_of_read read]
  cases incomplete with
  | empty empty =>
      rw [empty]
      exact Profile.ofValue_of_incomplete nothing
  | fields missing =>
      split
      · exact Profile.ofValue_of_incomplete missing
      · exact Profile.ofValue_of_incomplete nothing

theorem ofText_of_describes {fields : Document.Fields} {profile : Profile}
    (read : reader text = .ok (.mapping fields)) (describes : Describes fields profile) :
    ofText reader text = .ok profile := by
  rw [ofText_of_read read, if_pos (isTrue_of_isComplete describes.complete)]
  exact Profile.ofValue_of_describes describes

theorem ofText_of_misfit {value : Document.Value} (read : reader text = .ok value)
    (misfit : Misfit value fault) : ofText reader text = .error fault := by
  rw [ofText_of_read read, if_pos (isTrue_of_misfit misfit)]
  exact Profile.ofValue_of_misfit misfit

theorem ofText_of_unread {fault : Document.Fault} (unread : reader text = .error fault) :
    ofText reader text = .error (.document fault) := by
  rw [ofText, unread]
  rfl

/-- Every file either comes to something or ends in a fault. -/
theorem passes_or_upsets (reader : Document.Reader) (files : FileSystem) (file : String) :
    (∃ found records, Passes reader files file found records) ∨
      ∃ fault, Upsets reader files file fault := by
  cases leads : files.leadsToFile file with
  | error fault => exact .inr ⟨fault, .lost leads⟩
  | ok found =>
      cases found with
      | false => exact .inl ⟨none, [], .absent leads⟩
      | true =>
          cases reads : files.readText file with
          | error fault => exact .inl ⟨_, _, .unreadable leads reads⟩
          | ok text =>
              have holds : HoldsText files file text := ⟨leads, reads⟩
              cases read : reader text with
              | error fault =>
                  by_cases ordinary : fault.IsOrdinary
                  · exact .inl ⟨_, _, .undocumented holds read ordinary⟩
                  · exact .inr ⟨_, .undocumented holds read ordinary⟩
              | ok value =>
                  by_cases filled : value.isTrue = true
                  · rcases Profile.ofValue_cases filled with
                      ⟨fields, profile, rfl, describes⟩ | incomplete | ⟨fault, misfit⟩
                    · exact .inl ⟨_, _, .described holds read describes⟩
                    · exact .inl ⟨_, _, .incomplete holds read incomplete⟩
                    · exact .inr ⟨fault, .misfit holds read misfit⟩
                  · exact .inl ⟨_, _, .incomplete holds read
                      (.empty (Bool.not_eq_true _ ▸ filled))⟩

end File

section Reading

variable {reader : Document.Reader} {files : FileSystem} {path text : String} {fault : Fault}

theorem readText_bind (holds : HoldsText files (Files.Path.tidy path) text) :
    files.readText (Files.Path.tidy path) >>= ofText reader = ofText reader text := by
  rw [holds.2]
  rfl

section Found

variable (found : files.leadsToFile (Files.Path.tidy path) = .ok true)
include found

theorem ofFile_of_profile {profile : Profile}
    (read : files.readText (Files.Path.tidy path) >>= ofText reader = .ok profile) :
    Logged.EndsWith (ofFile reader files path) (.ok (some profile)) [] := by
  unfold ofFile
  dsimp only
  rw [found, read]
  exact .ofExcept_bind (.pure _)

variable (failed : files.readText (Files.Path.tidy path) >>= ofText reader = .error fault)
include failed

theorem ofFile_of_isPassedOver (passed : isPassedOver fault = true) :
    Logged.EndsWith (ofFile reader files path) (.ok none)
      [complaint (Files.Path.tidy path) fault] := by
  unfold ofFile
  dsimp only
  rw [found, failed]
  refine .ofExcept_bind ?_
  simp only [Bool.not_true, Bool.false_eq_true, if_false, passed, if_true]
  exact (Logged.EndsWith.record _ _).bind (.pure none)

theorem ofFile_of_not_isPassedOver (stands : isPassedOver fault = false) :
    Logged.EndsWith (ofFile reader files path) (.error fault) [] := by
  unfold ofFile
  dsimp only
  rw [found, failed]
  refine .ofExcept_bind ?_
  simp only [Bool.not_true, Bool.false_eq_true, if_false, stands]
  exact .throw fault

end Found

theorem ofFile_of_passes {found : Option Profile} {records : List Log.Record}
    (passes : Passes reader files (Files.Path.tidy path) found records) :
    Logged.EndsWith (ofFile reader files path) (.ok found) records := by
  cases passes with
  | absent absent =>
      unfold ofFile
      dsimp only
      rw [absent]
      exact .ofExcept_bind (.pure none)
  | described holds read describes =>
      refine ofFile_of_profile holds.1 ?_
      rw [readText_bind holds, ofText_of_describes read describes]
  | unreadable found unread =>
      refine ofFile_of_isPassedOver found ?_ (isPassedOver_of_readText unread)
      rw [unread]
      rfl
  | undocumented holds unread ordinary =>
      refine ofFile_of_isPassedOver holds.1 ?_ (isPassedOver_document_iff.mpr ordinary)
      rw [readText_bind holds, ofText_of_unread unread]
  | incomplete holds read incomplete =>
      refine ofFile_of_isPassedOver holds.1 ?_ rfl
      rw [readText_bind holds, ofText_of_incomplete read incomplete]

theorem ofFile_of_upsets (upsets : Upsets reader files (Files.Path.tidy path) fault) :
    Logged.EndsWith (ofFile reader files path) (.error fault) [] := by
  cases upsets with
  | lost lost =>
      unfold ofFile
      dsimp only
      rw [lost]
      exact (Logged.EndsWith.throw fault).bind_error
  | undocumented holds unread strange =>
      refine ofFile_of_not_isPassedOver holds.1 ?_
        (Bool.eq_false_iff.mpr (mt isPassedOver_document_iff.mp strange))
      rw [readText_bind holds, ofText_of_unread unread]
  | misfit holds read misfit =>
      refine ofFile_of_not_isPassedOver holds.1 ?_ (isPassedOver_of_misfit misfit)
      rw [readText_bind holds, ofText_of_misfit read misfit]

end Reading

/-! ## Directories -/

/-- The children of a directory in the order of their names. -/
def childrenOf (entries : Files.Entries) : List String :=
  (entries.toList.map (·.1)).mergeSort fun a b => a ≤ b

section Directory

variable {reader : Document.Reader} {files : FileSystem} {path name child : String} {fault : Fault}

theorem readDirectory_of_passes {found : Option Profile} {records : List Log.Record}
    (passes : Passes reader files (placeOf path child) found records) :
    Logged.EndsWith (readDirectory reader files path child) (.ok found) records := by
  rw [← tidy_placeOf] at passes
  exact ofFile_of_passes passes

theorem readDirectory_of_upsets (upsets : Upsets reader files (placeOf path child) fault) :
    Logged.EndsWith (readDirectory reader files path child) (.error fault) [] := by
  rw [← tidy_placeOf] at upsets
  exact ofFile_of_upsets upsets

/-- Children come to something, each of them by itself. -/
def AllPass (reader : Document.Reader) (files : FileSystem) (path : String)
    (children : List String) (found : List (Option Profile × List Log.Record)) : Prop :=
  List.Forall₂ (fun child result => Passes reader files (placeOf path child) result.1 result.2)
    children found

theorem exists_allPass {children : List String}
    (calm : ∀ child ∈ children, ∀ fault, ¬Upsets reader files (placeOf path child) fault) :
    ∃ found, AllPass reader files path children found := by
  induction children with
  | nil => exact ⟨[], .nil⟩
  | cons child rest induction =>
      rcases induction fun other member => calm other (.tail _ member) with ⟨others, pass⟩
      rcases passes_or_upsets reader files (placeOf path child) with
        ⟨found, records, passes⟩ | ⟨fault, upsets⟩
      · exact ⟨(found, records) :: others, .cons passes pass⟩
      · exact absurd upsets (calm child (.head _) fault)

theorem readAll_of_allPass {children : List String}
    {found : List (Option Profile × List Log.Record)}
    (pass : AllPass reader files path children found) :
    Logged.EndsWith (readAll reader files (Files.Path.tidy path) children)
      (.ok (found.filterMap (·.1))) (found.flatMap (·.2)) := by
  induction pass with
  | nil => exact .pure []
  | @cons child result children found passes pass induction =>
      rw [← placeOf_tidy] at passes
      have values :
          (result :: found).filterMap (·.1) = result.1.toList ++ found.filterMap (·.1) := by
        rw [List.filterMap_cons]
        cases result.1 <;> rfl
      have records : (result :: found).flatMap (·.2) = result.2 ++ (found.flatMap (·.2) ++ []) := by
        rw [List.flatMap_cons, List.append_nil]
      rw [values, records]
      exact (readDirectory_of_passes passes).bind (induction.bind (.pure _))

theorem readAll_of_upsets {before after : List String}
    {found : List (Option Profile × List Log.Record)}
    (pass : AllPass reader files path before found)
    (upsets : Upsets reader files (placeOf path child) fault) :
    Logged.EndsWith (readAll reader files (Files.Path.tidy path) (before ++ child :: after))
      (.error fault) (found.flatMap (·.2)) := by
  induction pass with
  | nil =>
      rw [← placeOf_tidy] at upsets
      exact (readDirectory_of_upsets upsets).bind_error
  | cons passes pass induction =>
      rw [← placeOf_tidy] at passes
      exact (readDirectory_of_passes passes).bind induction.bind_error

section List

variable {entries : Files.Entries}
  (probed : files.probe (Files.Path.tidy path) = .ok (some (.directory entries)))
include probed

theorem list_of_allPass {found : List (Option Profile × List Log.Record)}
    (pass : AllPass reader files path (childrenOf entries) found) :
    ((directory reader path).list files).outcome =
      (.ok ((found.filterMap (·.1)).mergeSort fun a b => a.name ≤ b.name),
        found.flatMap (·.2)) := by
  refine Logged.EndsWith.outcome ?_
  unfold list
  dsimp only
  rw [probed]
  refine .ofExcept_bind ?_
  rw [← List.append_nil (found.flatMap (·.2))]
  exact (readAll_of_allPass pass).bind (.pure _)

theorem list_of_upsets {before after : List String}
    (split : childrenOf entries = before ++ child :: after)
    {found : List (Option Profile × List Log.Record)}
    (pass : AllPass reader files path before found)
    (upsets : Upsets reader files (placeOf path child) fault) :
    ((directory reader path).list files).outcome = (.error fault, found.flatMap (·.2)) := by
  refine Logged.EndsWith.outcome ?_
  unfold list
  dsimp only
  rw [probed]
  have ends : Logged.EndsWith (readAll reader files (Files.Path.tidy path) (childrenOf entries))
      (.error fault) (found.flatMap (·.2)) := by
    rw [split]
    exact readAll_of_upsets pass upsets
  exact .ofExcept_bind ends.bind_error

end List

theorem resolve_eq_ok_iff {found : Option Profile} {records : List Log.Record} :
    ((directory reader path).resolve files name).outcome = (.ok found, records) ↔
      Passes reader files (opened path name) found records := by
  constructor
  · intro resolved
    rcases passes_or_upsets reader files (opened path name) with
      ⟨other, others, passes⟩ | ⟨fault, upsets⟩
    · have ended := (readDirectory_of_passes passes).outcome.symm.trans resolved
      cases ended
      exact passes
    · have ended := (readDirectory_of_upsets upsets).outcome.symm.trans resolved
      cases ended
  · exact fun passes => (readDirectory_of_passes passes).outcome

theorem resolve_eq_error_iff :
    ((directory reader path).resolve files name).outcome.1 = .error fault ↔
      Upsets reader files (opened path name) fault := by
  constructor
  · intro resolved
    rcases passes_or_upsets reader files (opened path name) with
      ⟨found, records, passes⟩ | ⟨other, upsets⟩
    · have ended := (congrArg Prod.fst (readDirectory_of_passes passes).outcome).symm.trans resolved
      cases ended
    · have ended := (congrArg Prod.fst (readDirectory_of_upsets upsets).outcome).symm.trans resolved
      cases ended
      exact upsets
  · exact fun upsets => congrArg Prod.fst (readDirectory_of_upsets upsets).outcome

end Directory

def entriesBeside (text : String) : Files.Entries :=
  .cons "a" (.directory (.cons "env.yaml" (.file "'name': 'a'\n'executable': '/bin/a'\n".toUTF8)
    .nil)) (.cons "b" (.directory (.cons "env.yaml" (.file text.toUTF8) .nil)) .nil)

/-- A directory with a profile, and beside it a file with some other text. -/
def filesBeside (text : String) : FileSystem :=
  ⟨.directory (.cons "envs" (.directory (entriesBeside text)) .nil), []⟩

theorem childrenOf_entriesBeside (text : String) :
    childrenOf (entriesBeside text) = ["a", "b"] := by
  have names : (entriesBeside text).toList.map (·.1) = ["a", "b"] := rfl
  rw [childrenOf, names]
  exact List.mergeSort_of_pairwise (by decide)

theorem probe_filesBeside (text : String) :
    (filesBeside text).probe (Files.Path.tidy "envs") =
      .ok (some (.directory (entriesBeside text))) := by
  have followable : Files.Path.Followable (Files.Path.tidy "envs") :=
    ⟨by decide +kernel, by decide +kernel, by decide +kernel⟩
  exact Files.FileSystem.probe_eq_some_iff.mpr
    ⟨["envs"], Files.FileSystem.look_eq_ok_iff.mpr ⟨followable, rfl⟩⟩

end Profiles

end Runbook
