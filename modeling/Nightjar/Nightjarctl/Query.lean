import Nightjar.Nightjarctl.Check

namespace Nightjar.Nightjarctl

open Lib Lib.Strings Apimachinery Notifier

/-- A ConstraintReport with the status, beside whatever else is in the object. -/
def reportWith (rest status : Obj) : Unstructured := ⟨("status", .map status) :: rest⟩

def withoutMachineReadable (status : Obj) : Obj := status.filter (fun field => field.1 ≠ "machineReadable")

def ConstraintInfo.ofEntry (e : ConstraintEntry) : ConstraintInfo where
  name := e.name
  type := e.type
  severity := e.severity
  message := e.message
  source := e.source

def ConstraintInfo.shown (info : ConstraintInfo) : String × String × String × String × String :=
  (info.name, info.type, info.severity, info.message, info.source)

theorem parseConstraintMap_entry (e : ConstraintEntry) : parseConstraintMap e.object = .ofEntry e := by
  simp [parseConstraintMap, safeString_eq, ConstraintEntry.object, ConstraintInfo.ofEntry, List.lookup_cons, asString]

theorem parseList_entries (entries : List ConstraintEntry) :
    parseList "" "" (entries.map (fun e => .map e.object)) = entries.map .ofEntry := by
  have hfilters : passesFilters "" "" = fun _ => true := rfl
  rw [parseList, filterMap_asMap, List.map_map, hfilters, List.filter_true]
  exact List.map_congr_left fun e _ => parseConstraintMap_entry e

theorem lookup_withoutMachineReadable (status : Obj) (key : String) :
    (withoutMachineReadable status).lookup key = if key = "machineReadable" then none else status.lookup key := by
  induction status with
  | nil => simp [withoutMachineReadable]
  | cons field status ih =>
      obtain ⟨k, v⟩ := field
      rw [withoutMachineReadable, List.filter_cons]
      by_cases hk : k = "machineReadable"
      · rw [if_neg (by simpa using hk), ← withoutMachineReadable, ih]
        split
        · rfl
        · rename_i hkey
          rw [List.lookup_cons, beq_false_of_ne (by rwa [hk])]
      · rw [if_pos (by simpa using hk), List.lookup_cons, ← withoutMachineReadable, ih, List.lookup_cons]
        cases hkk : key == k with
        | false => rfl
        | true =>
            have hkey : key ≠ "machineReadable" := by rwa [eq_of_beq hkk]
            exact (if_neg hkey).symm

section Sections
variable [Apimachinery]

theorem extractConstraints_human (rest : Obj) (status : ConstraintReportStatus) :
    extractConstraints (reportWith rest (withoutMachineReadable status.object)) "" "" "" =
      status.constraints.map .ofEntry := by
  have hstatus (key : String) : field (reportWith rest (withoutMachineReadable status.object)).object ["status", key] =
      if key = "machineReadable" then none else status.object.lookup key := by
    rw [field, walk, reportWith, ← lookup_withoutMachineReadable]
    simp [walk]
  have hmachine : Util.safeNestedMap (some (reportWith rest (withoutMachineReadable status.object)).object)
      ["status", "machineReadable"] = none := by
    apply Util.safeNestedMap_absent
    rw [hstatus]
    rfl
  have hhuman : field (reportWith rest (withoutMachineReadable status.object)).object ["status", "constraints"] =
      if status.constraints.map (fun e => Any.map e.object) = [] then none
      else some (.slice (status.constraints.map (fun e => .map e.object))) := by
    rw [hstatus]
    simp [ConstraintReportStatus.object, omittedSlice, List.lookup_append, List.lookup_cons, lookup_omitempty]
  rw [extractConstraints, hmachine, Util.safeNestedSlice_omitted hhuman]
  by_cases hnone : status.constraints = []
  · rw [hnone]
    rfl
  · rw [if_neg (by simpa using hnone)]
    exact parseList_entries _

omit [Apimachinery] in
theorem scopedMessage_ne_empty (opts : ReportReconcilerOptions) (c : Constraint) (ns : String) :
    ReportStatus.scopedMessage opts c ns ≠ "" := by
  have hgeneric (t : ConstraintType) : genericSummary t ≠ "" := by cases t <;> simp [genericSummary]
  rw [ReportStatus.scopedMessage]
  split
  · exact hgeneric _
  · split
    · assumption
    · exact hgeneric _

variable [Unicode] [SortSlice] (opts : ReportReconcilerOptions) (workloads : Option (List WorkloadList))
  (ns now : String) (constraints : List Constraint)

theorem shown_machine (rest : Obj) :
    ((extractConstraints (reportWith rest (ReportStatus.buildReportStatus opts workloads ns now constraints).object)
        "" "" "").map ConstraintInfo.shown).Perm
      (constraints.map (fun c =>
        (ReportStatus.scopedName opts c ns, c.constraintType.text, c.severity.text, "", ""))) := by
  have hsort := SortSlice.sort_perm (fun e => severityOrder e.severity)
    (constraints.map (ReportStatus.buildMachineEntry opts · ns now))
  have hstatus :
      (reportWith rest (ReportStatus.buildReportStatus opts workloads ns now constraints).object).object.lookup
        "status" = some (.map (ReportStatus.buildReportStatus opts workloads ns now constraints).object) := rfl
  rw [extractConstraints_report hstatus sections_empty, List.map_map]
  refine (hsort.map _).trans (.of_eq ?_)
  rw [List.map_map]
  rfl

theorem shown_human (rest : Obj) :
    ((extractConstraints (reportWith rest (withoutMachineReadable
        (ReportStatus.buildReportStatus opts workloads ns now constraints).object)) "" "" "").map
        ConstraintInfo.shown).Perm
      (constraints.map (fun c => (ReportStatus.scopedName opts c ns, c.constraintType.text, c.severity.text,
        ReportStatus.scopedMessage opts c ns, c.source.resource))) := by
  have hsort := SortSlice.sort_perm (fun e => severityOrder e.severity)
    (constraints.map (ReportStatus.buildEntry opts · ns now))
  rw [extractConstraints_human, List.map_map]
  refine (hsort.map _).trans (.of_eq ?_)
  rw [List.map_map]
  rfl

theorem sections_same_severity (rest : Obj) :
    ((extractConstraints (reportWith rest (ReportStatus.buildReportStatus opts workloads ns now constraints).object)
        "" "" "").map (fun info => (info.name, info.type, info.severity))).Perm
      ((extractConstraints (reportWith rest (withoutMachineReadable
        (ReportStatus.buildReportStatus opts workloads ns now constraints).object)) "" "" "").map
        (fun info => (info.name, info.type, info.severity))) := by
  have hmachine := (shown_machine opts workloads ns now constraints rest).map (fun s => (s.1, s.2.1, s.2.2.1))
  have hhuman := (shown_human opts workloads ns now constraints rest).map (fun s => (s.1, s.2.1, s.2.2.1))
  rw [List.map_map, List.map_map] at hmachine hhuman
  exact hmachine.trans hhuman.symm

/-- With message and source they are read alike only if the report is empty. -/
theorem sections_read_alike_iff (rest : Obj) :
    ((extractConstraints (reportWith rest (ReportStatus.buildReportStatus opts workloads ns now constraints).object)
        "" "" "").map ConstraintInfo.shown).Perm
      ((extractConstraints (reportWith rest (withoutMachineReadable
        (ReportStatus.buildReportStatus opts workloads ns now constraints).object)) "" "" "").map
        ConstraintInfo.shown) ↔
      constraints = [] := by
  have hmachine := shown_machine opts workloads ns now constraints rest
  have hhuman := shown_human opts workloads ns now constraints rest
  constructor
  · intro h
    by_contra hne
    obtain ⟨c, hc⟩ := List.exists_mem_of_ne_nil constraints hne
    have hmem := ((hhuman.symm.trans h.symm).trans hmachine).mem_iff.mp (List.mem_map_of_mem hc)
    obtain ⟨c', -, he⟩ := List.mem_map.mp hmem
    have hmessage : "" = ReportStatus.scopedMessage opts c ns := congrArg (fun s => s.2.2.2.1) he
    exact scopedMessage_ne_empty opts c ns hmessage.symm
  · rintro rfl
    exact hmachine.trans hhuman.symm

end Sections

section Samples

attribute [local instance] Apimachinery.model asciiTables SortSlice.stable

def quotaReport : ConstraintReportStatus :=
  ReportStatus.buildReportStatus {} none "team" "2026-01-01T00:00:00Z"
    [{ uid := "a", source := ⟨"", "v1", "resourcequotas"⟩, name := "quota", ns := "team",
       constraintType := .resourceLimit, effect := "limit", severity := .warning, summary := "CPU is nearly used up" }]

theorem machine_section_has_no_message :
    ¬ ((extractConstraints (reportWith [] quotaReport.object) "" "" "").map ConstraintInfo.shown).Perm
      ((extractConstraints (reportWith [] (withoutMachineReadable quotaReport.object)) "" "" "").map
        ConstraintInfo.shown) := by
  decide

end Samples

end Nightjar.Nightjarctl
