import AssetCheck.Proofs.File.Touched
import AssetCheck.Proofs.Report.RoundTrip
import AssetCheck.Report.File

/-!
# Reports in files

A report that was saved is loaded again as it was (`save_load`), whatever its texts hold, and
whatever the file held before. Only a report of another version is refused when it is loaded.
Saving touches no other file, and if it fails none at all (`save_touches`).
-/

namespace AssetCheck.Report

theorem written_of_save {r : Report} {path : String} {files files' : FileTree}
    (h : r.save path files = .ok () files') :
    FileTree.createFile path r.fileText.toUTF8 files = .ok () files' :=
  adaptExcept_ok_iff.1 h

/-- A report that a file holds is loaded if it is of the current version. -/
theorem load_of_readText {r : Report} {path : String} {files : FileTree}
    (h : files.readText path = .ok r.fileText) :
    load files path = (r.checkVersion.map fun _ => r) := by
  have htext : (files.readText path).mapError ReportError.io = .ok r.fileText := by rw [h]; rfl
  have hread : (Report.read r.fileText).mapError ReportError.json = .ok r := by
    rw [read_fileText]
    rfl
  unfold load
  refine (except_bind_ok htext).trans ((except_bind_ok hread).trans ?_)
  cases r.checkVersion <;> rfl

theorem load_of_save {r : Report} {path : String} {files files' : FileTree}
    (h : r.save path files = .ok () files') (hversion : r.version = currentVersion) :
    load files' path = .ok r := by
  have hcheck : r.checkVersion = .ok () := if_pos hversion
  rw [load_of_readText (FileTree.readText_of_createFile (written_of_save h)), hcheck]
  rfl

/-- **Persistence.** A report is read from its text, and is loaded from wherever it was saved,
unless it is of another version. -/
theorem save_load (r : Report) :
    Report.read r.fileText = .ok r ∧
    ∀ files path files', r.save path files = .ok () files' →
      load files' path =
        if r.version = currentVersion then .ok r
        else .error (.versionMismatch r.version currentVersion) := by
  refine ⟨r.read_fileText, fun files path files' hsave => ?_⟩
  rw [load_of_readText (FileTree.readText_of_createFile (written_of_save hsave))]
  unfold checkVersion
  split <;> rfl

/-- A report with texts that have to be escaped. -/
def awkward (version : String) : Report :=
  { assetPath := "a\\\"b\".fbx"
    cookSuccess := false
    diagnostics :=
      [⟨"open edge\n\tat \x01 7\u00e9", "check_faces1", "check_faces", .fail⟩, ⟨"", "", "/", .pass⟩]
    host := "ws01"
    timestamp := "08:00"
    user := "\x7f\u2028"
    version }

theorem save_load_awkward :
    ∃ files files',
      (awkward "2.0").save "out/r.json" (.empty ["work"]) = .ok () files ∧
      load files "out/r.json" = .ok (awkward "2.0") ∧
      (awkward "1.0").save "out/r.json" files = .ok () files' ∧
      load files' "out/r.json" = .error (.versionMismatch "1.0" "2.0") := by
  let files : FileTree := ((FileTree.empty ["work"]).put ["work", "out"] .directory).fill
    ["work", "out", "r.json"] (awkward "2.0").fileText.toUTF8
  let files' : FileTree := files.fill ["work", "out", "r.json"] (awkward "1.0").fileText.toUTF8
  have hsave : (awkward "2.0").save "out/r.json" (.empty ["work"]) = .ok () files := rfl
  have hsave' : (awkward "1.0").save "out/r.json" files = .ok () files' := rfl
  exact ⟨files, files', hsave, (save_load (awkward "2.0")).2 _ _ _ hsave, hsave',
    (save_load (awkward "1.0")).2 _ _ _ hsave'⟩

/-! ## Reports that are not saved -/

/-- Something goes wrong with an open file while a report that does not fit the buffer is printed. -/
def BreaksEarly (files : FileTree) (error : IoError) : Prop :=
  ∃ opened place fault, ∃ r : Report,
    files.faults opened place r.fileText.toUTF8 = some fault ∧ fault.early = true ∧
      bufferSize < r.toJson.pretty.utf8ByteSize ∧ fault.error = error

/-- **Only its file.** A report that is saved is all that its file holds. No other file has changed,
and new directories are missing ancestors of the path. If it cannot be saved, no file has
changed, unless something went wrong with the open file: then this one holds a beginning of the
report. -/
theorem save_touches (r : Report) (path : String) (files files' : FileTree) :
    (r.save path files = .ok () files' →
      ∃ place, files.WroteOnly path r.fileText.toUTF8 place files') ∧
    (∀ e, r.save path files = .error e files' →
      ((∀ place, files.KeepsFile files' place) ∧ files.AddsAncestors path files') ∨
        ∃ fault place, files.faults files.opened place r.fileText.toUTF8 = some fault ∧
          files.WroteOnly path (r.fileText.toUTF8.extract 0 fault.taken) place files') := by
  refine ⟨fun h => FileTree.createFile_ok (written_of_save h), fun e h => ?_⟩
  obtain ⟨reason, hcreate, -⟩ := exists_of_adaptExcept_error h
  cases reason with
  | refused reason =>
    have hwidened := FileTree.createFile_refused hcreate
    exact .inl ⟨hwidened.keepsFile, hwidened.addsAncestors⟩
  | broken fault => exact .inr ⟨fault, FileTree.createFile_broken hcreate⟩

theorem save_touches_beside :
    ∃ files written left broken,
      (awkward "2.0").save "out/../r.json" files = .ok () written ∧
      (∃ place, files.WroteOnly "out/../r.json" (awkward "2.0").fileText.toUTF8 place written) ∧
      (awkward "2.0").save "new/keep/" files = .error (.io .isDirectory) left ∧
      left.contentAt? ["work", "new"] = some .directory ∧
      files.KeepsFile left ["work", "keep"] ∧
      (awkward "1.0").save "r.json" written = .error (.io .noSpace) broken ∧
      ∃ place, written.WroteOnly "r.json"
        ((awkward "1.0").fileText.toUTF8.extract 0 4) place broken := by
  -- The disk is full when a second file is written.
  let files : FileTree :=
    { (FileTree.empty ["work"]).put ["work", "keep"] (.file "old".toUTF8) with
      faults := fun opened _ _ => if opened = 1 then some ⟨.noSpace, 4, false⟩ else none }
  let written := (files.put ["work", "out"] .directory).fill
    ["work", "r.json"] (awkward "2.0").fileText.toUTF8
  let left := files.put ["work", "new"] .directory
  let broken := written.fill ["work", "r.json"] ((awkward "1.0").fileText.toUTF8.extract 0 4)
  have hsave : (awkward "2.0").save "out/../r.json" files = .ok () written := rfl
  have hfail : (awkward "2.0").save "new/keep/" files = .error (.io .isDirectory) left := rfl
  have hbreak : (awkward "1.0").save "r.json" written = .error (.io .noSpace) broken := rfl
  have hkept : (∀ place, files.KeepsFile left place) ∧ files.AddsAncestors "new/keep/" left := by
    rcases (save_touches (awkward "2.0") _ _ _).2 _ hfail with hkept | ⟨_, _, hfault, -⟩
    · exact hkept
    · cases hfault
  have hwrote : ∃ place, written.WroteOnly "r.json"
      ((awkward "1.0").fileText.toUTF8.extract 0 4) place broken := by
    rcases (save_touches (awkward "1.0") _ _ _).2 _ hbreak with ⟨hkept, -⟩ | ⟨_, place, hfault, h⟩
    · have hnew : broken.contentAt? ["work", "r.json"] =
          some (.file (awkward "2.0").fileText.toUTF8) := (hkept ["work", "r.json"] _).2 rfl
      have hsame : ((awkward "1.0").fileText.toUTF8.extract 0 4).size =
          (awkward "2.0").fileText.toUTF8.size :=
        congrArg ByteArray.size (Entry.file.inj (Option.some.inj hnew))
      exact absurd hsame (by decide +kernel)
    · cases hfault
      exact ⟨place, h⟩
  exact ⟨files, written, left, broken, hsave, (save_touches (awkward "2.0") _ _ _).1 hsave, hfail,
    rfl, hkept.1 _, hbreak, hwrote⟩

end AssetCheck.Report
