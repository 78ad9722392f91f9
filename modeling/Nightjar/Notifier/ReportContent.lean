import Nightjar.Notifier.ReportStatus
import Nightjar.Lib.Tables

namespace Nightjar.Notifier

open Lib Lib.Strings

/-- The variables of the loop in `buildReportStatus`. -/
structure ReportLoop where
  criticalCount : Nat := 0
  warningCount : Nat := 0
  infoCount : Nat := 0
  entries : List ConstraintEntry := []
  machineEntries : List MachineConstraintEntry := []
  allTags : List String := []
  tagSet : Table String Bool := ∅

namespace ReportLoop

open ReportStatus

def count (s : ReportLoop) : Severity → ReportLoop
  | .critical => { s with criticalCount := s.criticalCount + 1 }
  | .warning => { s with warningCount := s.warningCount + 1 }
  | .info => { s with infoCount := s.infoCount + 1 }
  | .other _ => s

def collectTag (s : ReportLoop) (tag : String) : ReportLoop :=
  if (s.tagSet.lookup tag).getD false then s
  else { s with tagSet := s.tagSet.insert tag true, allTags := s.allTags ++ [tag] }

section Turn
variable [Unicode] (opts : ReportReconcilerOptions) (ns now : String)

def append (s : ReportLoop) (c : Constraint) : ReportLoop :=
  { s with
    entries := s.entries ++ [buildEntry opts c ns now]
    machineEntries := s.machineEntries ++ [buildMachineEntry opts c ns now] }

def turn (s : ReportLoop) (c : Constraint) : ReportLoop :=
  c.tags.foldl collectTag ((s.count c.severity).append opts ns now c)

def run (constraints : List Constraint) : ReportLoop := constraints.foldl (turn opts ns now) {}

/-- `buildReportStatus` with its loop as the source has it. -/
def buildReportStatus [Apimachinery] [SortSlice] (workloads : Option (List WorkloadList))
    (constraints : List Constraint) : ConstraintReportStatus :=
  let s := run opts ns now constraints
  { constraintCount := constraints.length
    criticalCount := s.criticalCount
    warningCount := s.warningCount
    infoCount := s.infoCount
    constraints := SortSlice.sort (fun e => severityOrder e.severity) s.entries
    machineReadable :=
      { schemaVersion := "1"
        generatedAt := now
        detailLevel := (detailLevel opts).text
        constraints := SortSlice.sort (fun e => severityOrder e.severity) s.machineEntries
        missingResources := evaluateMissingResources opts workloads
        tags := s.allTags.insertionSort (· ≤ ·) }
    lastUpdated := now }

end Turn

structure TagsSeen (s : ReportLoop) (tags : List String) : Prop where
  mem : ∀ tag, tag ∈ s.allTags ↔ tag ∈ tags
  nodup : s.allTags.Nodup
  tagSet : ∀ tag, (s.tagSet.lookup tag).getD false = true ↔ tag ∈ s.allTags

theorem TagsSeen.collectTag {s : ReportLoop} {tags : List String} (h : s.TagsSeen tags) (tag : String) :
    (s.collectTag tag).TagsSeen (tags ++ [tag]) := by
  unfold ReportLoop.collectTag
  split
  · rename_i hseen
    have hmem : tag ∈ tags := (h.mem tag).mp ((h.tagSet tag).mp hseen)
    refine ⟨?_, h.nodup, h.tagSet⟩
    intro t
    rw [h.mem, List.mem_append, List.mem_singleton]
    constructor
    · exact .inl
    · rintro (ht | rfl)
      · exact ht
      · exact hmem
  · rename_i hnew
    have hnot : tag ∉ s.allTags := fun hmem => hnew ((h.tagSet tag).mpr hmem)
    refine ⟨?_, ?_, ?_⟩
    · intro t
      rw [List.mem_append, List.mem_append, h.mem]
    · refine List.nodup_append.mpr ⟨h.nodup, List.nodup_singleton tag, ?_⟩
      rintro t ht u hu rfl
      exact hnot (List.mem_singleton.mp hu ▸ ht)
    · intro t
      rw [Table.lookup_insert, List.mem_append, List.mem_singleton]
      split
      · simp [‹t = tag›]
      · simp [‹¬ t = tag›, h.tagSet]

theorem TagsSeen.foldl {s : ReportLoop} {tags : List String} (h : s.TagsSeen tags) (new : List String) :
    (new.foldl ReportLoop.collectTag s).TagsSeen (tags ++ new) := by
  induction new generalizing s tags with
  | nil => simpa using h
  | cons tag new ih => simpa using ih (h.collectTag tag)

theorem foldl_collectTag (tags : List String) (s : ReportLoop) :
    ∃ allTags tagSet, tags.foldl collectTag s = { s with allTags := allTags, tagSet := tagSet } := by
  induction tags generalizing s with
  | nil => exact ⟨_, _, rfl⟩
  | cons tag tags ih =>
      rw [List.foldl_cons]
      obtain ⟨allTags, tagSet, h⟩ := ih (s.collectTag tag)
      refine ⟨allTags, tagSet, ?_⟩
      rw [h]
      unfold collectTag
      split <;> rfl

section Loop
variable [Unicode] (opts : ReportReconcilerOptions) (ns now : String)

structure Through (s : ReportLoop) (cs : List Constraint) : Prop where
  critical : s.criticalCount = cs.countP (fun c => c.severity = .critical)
  warning : s.warningCount = cs.countP (fun c => c.severity = .warning)
  info : s.infoCount = cs.countP (fun c => c.severity = .info)
  entries : s.entries = cs.map (buildEntry opts · ns now)
  machineEntries : s.machineEntries = cs.map (buildMachineEntry opts · ns now)
  tags : s.TagsSeen (cs.flatMap Constraint.tags)

variable {opts ns now}

theorem Through.turn {s : ReportLoop} {cs : List Constraint} (h : s.Through opts ns now cs) (c : Constraint) :
    (s.turn opts ns now c).Through opts ns now (cs ++ [c]) := by
  have htags : ((s.count c.severity).append opts ns now c).TagsSeen (cs.flatMap Constraint.tags) := by
    obtain ⟨hmem, hnodup, hset⟩ := h.tags
    cases hs : c.severity <;> exact ⟨hmem, hnodup, hset⟩
  have htags := htags.foldl c.tags
  obtain ⟨allTags, tagSet, he⟩ := foldl_collectTag c.tags ((s.count c.severity).append opts ns now c)
  rw [he] at htags
  rw [ReportLoop.turn, he]
  refine ⟨?_, ?_, ?_, ?_, ?_, ?_⟩
  · cases hs : c.severity <;> simp [ReportLoop.append, ReportLoop.count, h.critical, hs]
  · cases hs : c.severity <;> simp [ReportLoop.append, ReportLoop.count, h.warning, hs]
  · cases hs : c.severity <;> simp [ReportLoop.append, ReportLoop.count, h.info, hs]
  · cases hs : c.severity <;> simp [ReportLoop.append, ReportLoop.count, h.entries]
  · cases hs : c.severity <;> simp [ReportLoop.append, ReportLoop.count, h.machineEntries]
  · simpa using htags

theorem through_run (cs : List Constraint) : (run opts ns now cs).Through opts ns now cs := by
  induction cs using List.reverseRecOn with
  | nil =>
      refine ⟨rfl, rfl, rfl, rfl, rfl, ?_⟩
      exact ⟨fun _ => Iff.rfl, List.nodup_nil, fun tag => by simp [run]⟩
  | append_singleton cs c ih =>
      rw [run, List.foldl_append]
      exact ih.turn c

theorem tags_run (cs : List Constraint) :
    (run opts ns now cs).allTags.insertionSort (· ≤ ·) = sortedKeys (cs.flatMap Constraint.tags) := by
  have hthrough : (run opts ns now cs).Through opts ns now cs := through_run cs
  have h := hthrough.tags
  refine eq_sortedKeys (List.pairwise_insertionSort _ _) ?_ ?_
  · exact (List.perm_insertionSort _ _).nodup_iff.mpr h.nodup
  · intro tag
    rw [List.mem_insertionSort, h.mem]

theorem buildReportStatus_eq [Apimachinery] [SortSlice] (workloads : Option (List WorkloadList))
    (cs : List Constraint) :
    buildReportStatus opts ns now workloads cs = ReportStatus.buildReportStatus opts workloads ns now cs := by
  have hthrough : (run opts ns now cs).Through opts ns now cs := through_run cs
  obtain ⟨hcritical, hwarning, hinfo, hentries, hmachine, -⟩ := hthrough
  rw [buildReportStatus, hcritical, hwarning, hinfo, hentries, hmachine, tags_run]
  rfl

end Loop

section Content
variable [Unicode] (opts : ReportReconcilerOptions) (ns now : String)

/-- What a report says of the constraints. -/
structure Describes (status : ConstraintReportStatus) (cs : List Constraint) : Prop where
  constraintCount : status.constraintCount = cs.length
  critical : status.criticalCount = cs.countP (fun c => c.severity = .critical)
  warning : status.warningCount = cs.countP (fun c => c.severity = .warning)
  info : status.infoCount = cs.countP (fun c => c.severity = .info)
  counted : status.criticalCount + status.warningCount + status.infoCount =
    cs.countP (fun c => c.severity ∈ [.critical, .warning, .info])
  tags_sorted : status.machineReadable.tags.Pairwise (· ≤ ·)
  tags_nodup : status.machineReadable.tags.Nodup
  tags_mem : ∀ tag, tag ∈ status.machineReadable.tags ↔ ∃ c ∈ cs, tag ∈ c.tags
  entries_sorted : status.constraints.Pairwise (fun e f => severityOrder e.severity ≤ severityOrder f.severity)
  entries_perm : status.constraints.Perm (cs.map (buildEntry opts · ns now))
  entries_length : status.constraints.length = status.constraintCount
  machine_sorted : status.machineReadable.constraints.Pairwise
    (fun e f => severityOrder e.severity ≤ severityOrder f.severity)
  machine_perm : status.machineReadable.constraints.Perm (cs.map (buildMachineEntry opts · ns now))
  machine_length : status.machineReadable.constraints.length = status.constraintCount

omit [Unicode] in
theorem countP_severities (cs : List Constraint) :
    cs.countP (fun c => c.severity = .critical) + cs.countP (fun c => c.severity = .warning) +
      cs.countP (fun c => c.severity = .info) = cs.countP (fun c => c.severity ∈ [.critical, .warning, .info]) := by
  induction cs with
  | nil => rfl
  | cons c cs ih =>
      simp only [List.countP_cons, ← ih]
      cases hs : c.severity <;> simp <;> omega

variable {opts ns now} in
theorem Describes.counts_eq {status status' : ConstraintReportStatus} {cs cs' : List Constraint}
    (h : Describes opts ns now status cs) (h' : Describes opts ns now status' cs') (hperm : cs'.Perm cs) :
    status'.constraintCount = status.constraintCount ∧ status'.criticalCount = status.criticalCount ∧
      status'.warningCount = status.warningCount ∧ status'.infoCount = status.infoCount := by
  rw [h.constraintCount, h'.constraintCount, h.critical, h'.critical, h.warning, h'.warning, h.info, h'.info]
  exact ⟨hperm.length_eq, hperm.countP_eq _, hperm.countP_eq _, hperm.countP_eq _⟩

variable {opts ns now} in
theorem Describes.tags_eq {status status' : ConstraintReportStatus} {cs cs' : List Constraint}
    (h : Describes opts ns now status cs) (h' : Describes opts ns now status' cs') (hperm : cs'.Perm cs) :
    status'.machineReadable.tags = status.machineReadable.tags := by
  have hkeys := eq_sortedKeys h.tags_sorted h.tags_nodup (fun _ => Iff.rfl)
  rw [hkeys]
  refine eq_sortedKeys h'.tags_sorted h'.tags_nodup ?_
  intro tag
  simp only [h.tags_mem, h'.tags_mem, hperm.mem_iff]

variable [Apimachinery] [SortSlice] (workloads : Option (List WorkloadList))

theorem describes_buildReportStatus (cs : List Constraint) :
    Describes opts ns now (buildReportStatus opts ns now workloads cs) cs := by
  rw [buildReportStatus_eq]
  have hentries := SortSlice.sort_perm (fun e => severityOrder e.severity) (cs.map (buildEntry opts · ns now))
  have hmachine := SortSlice.sort_perm (fun e => severityOrder e.severity) (cs.map (buildMachineEntry opts · ns now))
  have hsorted := constraints_sorted opts workloads ns now cs
  refine
    { constraintCount := rfl, critical := rfl, warning := rfl, info := rfl, counted := countP_severities cs
      tags_sorted := pairwise_sortedKeys _, tags_nodup := nodup_sortedKeys _, tags_mem := ?_
      entries_sorted := hsorted.1, entries_perm := hentries, entries_length := ?_
      machine_sorted := hsorted.2, machine_perm := hmachine, machine_length := ?_ }
  · intro tag
    rw [ReportStatus.buildReportStatus, mem_sortedKeys, List.mem_flatMap]
  · exact hentries.length_eq.trans (List.length_map _)
  · exact hmachine.length_eq.trans (List.length_map _)

/-- The report of a list of constraints says what it should, and in whatever order the
constraints come the counts and the tags are the same. -/
theorem report_describes_set (cs cs' : List Constraint) (hperm : cs'.Perm cs) :
    Describes opts ns now (buildReportStatus opts ns now workloads cs) cs ∧
      Describes opts ns now (buildReportStatus opts ns now workloads cs') cs' ∧
      (buildReportStatus opts ns now workloads cs').constraintCount =
        (buildReportStatus opts ns now workloads cs).constraintCount ∧
      (buildReportStatus opts ns now workloads cs').criticalCount =
        (buildReportStatus opts ns now workloads cs).criticalCount ∧
      (buildReportStatus opts ns now workloads cs').warningCount =
        (buildReportStatus opts ns now workloads cs).warningCount ∧
      (buildReportStatus opts ns now workloads cs').infoCount =
        (buildReportStatus opts ns now workloads cs).infoCount ∧
      (buildReportStatus opts ns now workloads cs').machineReadable.tags =
        (buildReportStatus opts ns now workloads cs).machineReadable.tags := by
  have h := describes_buildReportStatus opts ns now workloads cs
  have h' := describes_buildReportStatus opts ns now workloads cs'
  obtain ⟨htotal, hcritical, hwarning, hinfo⟩ := h.counts_eq h' hperm
  exact ⟨h, h', htotal, hcritical, hwarning, hinfo, h.tags_eq h' hperm⟩

end Content

section Sample
attribute [local instance] asciiTables Apimachinery.model SortSlice.stable

def taggedPolicy (severity : Severity) (tags : List String) : Constraint :=
  { paymentsPolicy "deny-all" with severity := severity, tags := tags }

def infoFirst : List Constraint := [taggedPolicy .info ["net", "dns"], taggedPolicy .critical ["net"]]

def criticalFirst : List Constraint := [taggedPolicy .critical ["net"], taggedPolicy .info ["net", "dns"]]

theorem report_describes_set_tagged :
    (buildReportStatus {} "team" "t" none infoFirst).machineReadable.tags = ["dns", "net"] ∧
      (buildReportStatus {} "team" "t" none criticalFirst).machineReadable.tags = ["dns", "net"] := by
  obtain ⟨-, -, -, -, -, -, htags⟩ :=
    report_describes_set {} "team" "t" none infoFirst criticalFirst (.swap _ _ _)
  have hfirst : (buildReportStatus {} "team" "t" none infoFirst).machineReadable.tags = ["dns", "net"] := by
    rw [buildReportStatus, tags_run]
    decide
  exact ⟨hfirst, htags.trans hfirst⟩

end Sample

end ReportLoop

end Nightjar.Notifier
