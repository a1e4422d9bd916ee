import AssetCheck.Proofs.Json.Records
import AssetCheck.Report.Json

/-!
# A written report is read back

The readers of diagnostics and reports accept what the writer prints, and give the printed value
again; the report that this value stands for is the one that was written (`read_fileText`).
-/

namespace AssetCheck

open Json (Layout Reads Value)

theorem Status.mem_all (status : Status) : status ∈ all := by
  cases status <;> decide

theorem Status.reader_reads (l : Layout) (depth inside : Nat) (status : Status) :
    Reads (Status.reader depth) ((Value.string status.name).spelled l inside)
      (.string status.name) :=
  Json.oneOf_reads l depth inside (List.mem_map_of_mem status.mem_all)

theorem Diagnostic.reader_reads (l : Layout) (depth inside : Nat) (d : Diagnostic) :
    Reads (Diagnostic.reader (depth + 1)) (d.toJson.spelled l inside) d.toJson := by
  have htext := Json.text_reads l depth (inside + 1)
  refine Json.record_reads l "NodeDiagnostic" true (by simp) ?_ (by simp)
  refine List.forall_mem_cons.2 ⟨⟨_, rfl, htext d.message⟩, ?_⟩
  refine List.forall_mem_cons.2 ⟨⟨_, rfl, htext d.nodeName⟩, ?_⟩
  refine List.forall_mem_cons.2 ⟨⟨_, rfl, htext d.nodeType⟩, ?_⟩
  exact List.forall_mem_singleton.2 ⟨_, rfl, Status.reader_reads l depth (inside + 1) d.status⟩

theorem Report.reader_reads (l : Layout) (depth inside : Nat) (r : Report) :
    Reads (Report.reader (depth + 3)) (r.toJson.spelled l inside) r.toJson := by
  have htext := Json.text_reads l (depth + 2) (inside + 1)
  have hflag := Json.flag_reads l (depth + 2) (inside + 1) r.cookSuccess
  have hdiagnostics : Reads (Json.listOf Diagnostic.reader (depth + 2))
      ((Value.array (r.diagnostics.map Diagnostic.toJson)).spelled l (inside + 1))
      (.array (r.diagnostics.map Diagnostic.toJson)) :=
    Json.listOf_reads l (depth + 1) (inside + 1)
      (List.forall_mem_map.2 fun d _ => Diagnostic.reader_reads l depth (inside + 2) d)
  refine Json.record_reads l "Report" true (by simp) ?_ (by simp)
  refine List.forall_mem_cons.2 ⟨⟨_, rfl, htext r.assetPath⟩, ?_⟩
  refine List.forall_mem_cons.2 ⟨⟨_, rfl, hflag⟩, ?_⟩
  refine List.forall_mem_cons.2 ⟨⟨_, rfl, hdiagnostics⟩, ?_⟩
  refine List.forall_mem_cons.2 ⟨⟨_, rfl, htext r.host⟩, ?_⟩
  refine List.forall_mem_cons.2 ⟨⟨_, rfl, htext r.timestamp⟩, ?_⟩
  refine List.forall_mem_cons.2 ⟨⟨_, rfl, htext r.user⟩, ?_⟩
  exact List.forall_mem_singleton.2 ⟨_, rfl, htext r.version⟩

theorem Report.toList_fileText (r : Report) :
    r.fileText.toList = r.toJson.spelled .indented 0 ++ ['\n'] := by
  unfold fileText Value.pretty
  rw [String.toList_append, Value.toList_prettyAt]
  rfl

/-- What reads the value of a report reads the text of its file. -/
theorem Report.readAll_fileText {scan : Json.Scan Value} {r : Report}
    (h : Reads scan (r.toJson.spelled .indented 0) r.toJson) :
    Json.readAll scan r.fileText = .ok r.toJson := by
  have hblank : ∀ c ∈ ['\n'], Json.isSpace c = true := List.forall_mem_singleton.2 rfl
  exact h.readAll hblank r.toList_fileText

/-- **Round trip.** A report is read from the text of its file. -/
theorem Report.read_fileText (r : Report) : Report.read r.fileText = .ok r := by
  have hread : Report.reader.read r.fileText = .ok r.toJson :=
    readAll_fileText (Report.reader_reads .indented 124 0 r)
  unfold Report.read
  rw [hread]
  exact congrArg Except.ok r.ofJson_toJson

end AssetCheck
